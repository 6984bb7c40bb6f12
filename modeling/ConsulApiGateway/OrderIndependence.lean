/-
The orders in which the maps of a gateway are visited.

The rules of a hostname go through three maps before they are sorted: the rules of
a route with their references, the routes of a listener, and the hostnames of the
consolidator.  The sort is stable, so that rules of the same preference stay in the
order in which the maps were visited, which is another one each time.

* `OrderIndependent` — two runs on the same routes make the same routers and
  splitters;
* `Untied` — the condition: rules of the same preference can be interchanged;
* `orderIndependent_untied` — the condition is enough, and needed unless hostnames
  share a router;
* `rules_follow_visit` — a route with two rules of the same preference.
-/
import ConsulApiGateway.BlockOrder
import ConsulApiGateway.BoundRoutes
import ConsulApiGateway.ChainEntries
import ConsulApiGateway.TlsExposure

namespace Reconciler

open K8s Consul

/-! ### Statement -/

/-- The chain comes out of one run: the routes that are bound are resolved, and the
maps are visited, in some order. -/
def Outcome (g : K8sGateway) (bound : ℕ → GoMap String K8sRoute) (chain : DiscoveryChain) : Prop :=
  ∃ ls visit orders,
    List.Forall₂ GatewayListener.SameListener g.gatewayState.listeners ls ∧
    (g.setListeners ls).Serves bound ∧ (g.setListeners ls).Visits visit ∧
    Visits ((g.setListeners ls).resolve visit) orders ∧
    chain = discoveryChain ((g.setListeners ls).resolve visit) orders

/-- **The order of the visits makes no difference** to the routers and splitters; in
particular they are those of the run in which every rule is visited as its route
lists it. -/
def OrderIndependent (g : K8sGateway) (bound : ℕ → GoMap String K8sRoute) : Prop :=
  ∀ chain chain', Outcome g bound chain → Outcome g bound chain' →
    chain.routers = chain'.routers ∧ chain.splitters = chain'.splitters

/-- The rules with a preference, as what they become. -/
abbrev preferred (p : (ℕ ×ₗ ℕ ×ₗ ℕ)ᵒᵈ) (rules : List HostnameMatch) :
    List (Core.HTTPRoute → ℕ → ServiceRoute × Option ServiceSplitterConfigEntry) :=
  GoStd.part (fun m : HostnameMatch => preference m.match_) ruleEntries p rules

/-- Whichever of the two comes first, the rules with each preference become the
same. -/
abbrev Interchange (u v : List HostnameMatch) : Prop :=
  GoStd.Interchangeable (fun m : HostnameMatch => preference m.match_) ruleEntries u v

/-- The rules that are bound to a listener for a hostname, if every route is visited
as it is listed. -/
abbrev listedRules (bound : GoMap String K8sRoute) (listener : Listener) (h : String)
    (keys : List String) : List HostnameMatch :=
  keys.flatMap (boundRules bound (fun _ => .listed) listener h)

/-- No rules of the same preference compete. -/
structure Untied (g : K8sGateway) (bound : ℕ → GoMap String K8sRoute) : Prop where
  /-- The rules of a route can be interchanged. -/
  rules : ∀ {i : ℕ} {l k r}, g.gatewayState.listeners[i]? = some l → l.state.valid = true →
    (bound i).lookup k = some r →
    r.httpReferences.Pairwise fun entry entry' => Interchange (ruleBlock entry) (ruleBlock entry')
  /-- The routes of a listener can be interchanged, hostname by hostname. -/
  routes : ∀ {i : ℕ} {l k k' r r'} (h : String), g.gatewayState.listeners[i]? = some l →
    l.state.valid = true → (bound i).lookup k = some r → (bound i).lookup k' = some r' → k ≠ k' →
    Interchange (r.hostnameRules .listed l.spec h) (r'.hostnameRules .listed l.spec h)
  /-- Hostnames of a listener with the same checksum have the same rules. -/
  hostnames : ∀ {i : ℕ} {l h h'} {keys : List String}, g.gatewayState.listeners[i]? = some l →
    l.state.valid = true → ServedOn (bound i) l.spec h → ServedOn (bound i) l.spec h' →
    hostsKey [h] = hostsKey [h'] → GoSet.Ranges (Finmap.keys (bound i)) keys →
    ∀ p, preferred p (listedRules (bound i) l.spec h keys) =
      preferred p (listedRules (bound i) l.spec h' keys)

/-- Every hostname has its own router, and no backend is named like a virtual
service of one. -/
structure Separate (g : K8sGateway) (bound : ℕ → GoMap String K8sRoute) : Prop where
  hostnames : ∀ {i i' : ℕ} {l l' h h'}, g.gatewayState.listeners[i]? = some l →
    g.gatewayState.listeners[i']? = some l' → l.state.valid = true → l'.state.valid = true →
    ServedOn (bound i) l.spec h → ServedOn (bound i') l'.spec h' → hostsKey [h] = hostsKey [h'] →
    i = i' ∧ h = h'
  backends : ∀ {i : ℕ} {k r}, (bound i).lookup k = some r → ∀ entry ∈ r.httpReferences,
    ∀ service ∈ Converter.convertReferences entry.2, ∀ h idx,
      service.service.service ≠ virtualService (g.id.service ++ "-" ++ hostsKey [h]) idx

/-! ### The condition is enough -/

/-- The references of a route can be visited in any order. -/
theorem preferred_hostnameRules {r : K8sRoute} {listener : Listener} {h : String}
    (hrules : r.httpReferences.Pairwise fun entry entry' =>
      Interchange (ruleBlock entry) (ruleBlock entry')) (order : RangeOrder)
    (p : (ℕ ×ₗ ℕ ×ₗ ℕ)ᵒᵈ) :
    preferred p (r.hostnameRules order listener h) =
      preferred p (r.hostnameRules .listed listener h) := by
  unfold K8sRoute.hostnameRules
  rw [preferred, preferred, GoStd.part_replicate, GoStd.part_replicate]
  rw [GoStd.pairwise_interchangeable_iff.1 hrules _ (order.perm _) p]
  rfl

section Enough

variable {g : K8sGateway} {bound : ℕ → GoMap String K8sRoute} {i : ℕ} {l : GatewayListener}

/-- The rules of a hostname with each preference become the same, in whatever order
the routes of the listener and their references are visited. -/
theorem Untied.preferred_eq (huntied : Untied g bound)
    (hl : g.gatewayState.listeners[i]? = some l) (hvalid : l.state.valid = true)
    {keys keys' : List String} (hkeys : GoSet.Ranges (Finmap.keys (bound i)) keys)
    (hkeys' : GoSet.Ranges (Finmap.keys (bound i)) keys') (order : String → RangeOrder)
    (h : String) (p : (ℕ ×ₗ ℕ ×ₗ ℕ)ᵒᵈ) :
    preferred p (keys'.flatMap (boundRules (bound i) order l.spec h)) =
      preferred p (listedRules (bound i) l.spec h keys) := by
  have hlisted : ∀ k, preferred p (boundRules (bound i) order l.spec h k) =
      preferred p (boundRules (bound i) (fun _ => .listed) l.spec h k) := by
    intro k
    unfold boundRules
    cases hr : (bound i).lookup k with
    | none => rfl
    | some r => exact preferred_hostnameRules (huntied.rules hl hvalid hr) (order k) p
  -- two routes of the listener may change places, and so any order will do
  have hpairwise : keys.Pairwise fun k k' =>
      Interchange (boundRules (bound i) (fun _ => .listed) l.spec h k)
        (boundRules (bound i) (fun _ => .listed) l.spec h k') := by
    refine hkeys.1.pairwise_of_forall_ne fun k hk k' hk' hne => ?_
    rw [hkeys.mem_iff, Finmap.mem_keys] at hk hk'
    obtain ⟨r, hr⟩ := Finmap.mem_iff.1 hk
    obtain ⟨r', hr'⟩ := Finmap.mem_iff.1 hk'
    rw [boundRules, boundRules, hr, hr']
    exact huntied.routes h hl hvalid hr hr' hne
  calc preferred p (keys'.flatMap (boundRules (bound i) order l.spec h))
      = keys'.flatMap fun k => preferred p (boundRules (bound i) order l.spec h k) :=
        GoStd.part_flatMap ..
    _ = keys'.flatMap fun k => preferred p (boundRules (bound i) (fun _ => .listed) l.spec h k) :=
        List.flatMap_congr fun k _ => hlisted k
    _ = preferred p (listedRules (bound i) l.spec h keys') := (GoStd.part_flatMap ..).symm
    _ = preferred p (listedRules (bound i) l.spec h keys) :=
        GoStd.pairwise_interchangeable_iff.1 hpairwise keys' (hkeys.perm hkeys') p

/-- What the rules of a listener become in one run. -/
theorem Untied.preferred_collectedRules (huntied : Untied g bound)
    (hl : g.gatewayState.listeners[i]? = some l) (hvalid : l.state.valid = true)
    {l' : GatewayListener} (hsame : l.SameListener l') (hholds : l'.Holds g (bound i))
    {visit : List (String × Core.ResolvedRoute)} (hvisit : GoMap.Ranges l'.state.routes visit)
    {keys : List String} (hkeys : GoSet.Ranges (Finmap.keys (bound i)) keys) (h : String)
    (p : (ℕ ×ₗ ℕ ×ₗ ℕ)ᵒᵈ) :
    preferred p (collectedRules (K8sGateway.resolveListener l' visit) h) =
      preferred p (listedRules (bound i) l.spec h keys) := by
  obtain ⟨order, hrules⟩ := hholds.collectedRules_eq
  have hspec : l'.spec = l.spec := hsame.spec_eq
  have hvisited := hvisit.keys
  rw [hholds.keys_eq] at hvisited
  rw [hrules visit hvisit, hspec]
  exact huntied.preferred_eq hl hvalid hkeys hvisited order h p

theorem Untied.sameRules (huntied : Untied g bound)
    (hl : g.gatewayState.listeners[i]? = some l) (hvalid : l.state.valid = true)
    {l₁ l₂ : GatewayListener} (hsame₁ : l.SameListener l₁) (hsame₂ : l.SameListener l₂)
    (hholds₁ : l₁.Holds g (bound i)) (hholds₂ : l₂.Holds g (bound i))
    {visit₁ visit₂ : List (String × Core.ResolvedRoute)}
    (hvisit₁ : GoMap.Ranges l₁.state.routes visit₁)
    (hvisit₂ : GoMap.Ranges l₂.state.routes visit₂) :
    SameRules (K8sGateway.resolveListener l₁ visit₁) (K8sGateway.resolveListener l₂ visit₂) := by
  have hspec₁ : l₁.spec = l.spec := hsame₁.spec_eq
  have hspec₂ : l₂.spec = l.spec := hsame₂.spec_eq
  refine ⟨fun h => ?_, fun {h h'} hserved hserved' hkey => ?_⟩
  · rw [hholds₁.served_iff hvisit₁, hholds₂.served_iff hvisit₂, hspec₁, hspec₂]
  · rw [hholds₁.served_iff hvisit₁, hspec₁] at hserved hserved'
    obtain ⟨order, horder⟩ := GoMap.exists_ranges (bound i)
    refine GoStd.map_sliceStable_eq_of_parts compares_compareHTTPRules fun p => ?_
    calc preferred p (collectedRules (K8sGateway.resolveListener l₁ visit₁) h)
        = preferred p (listedRules (bound i) l.spec h (order.map Prod.fst)) :=
          huntied.preferred_collectedRules hl hvalid hsame₁ hholds₁ hvisit₁ horder.keys h p
      _ = preferred p (listedRules (bound i) l.spec h' (order.map Prod.fst)) :=
          huntied.hostnames hl hvalid hserved hserved' hkey horder.keys p
      _ = preferred p (collectedRules (K8sGateway.resolveListener l₂ visit₂) h') :=
          (huntied.preferred_collectedRules hl hvalid hsame₂ hholds₂ hvisit₂ horder.keys h' p).symm

/-- **The condition is enough.** -/
theorem Untied.orderIndependent (huntied : Untied g bound) (hserves : g.Serves bound) :
    OrderIndependent g bound := by
  rintro chain chain' ⟨ls, visit, orders, hsame, hserves₁, hvisit, horders, rfl⟩
    ⟨ls', visit', orders', hsame', hserves₂, hvisit', horders', rfl⟩
  refine discoveryChain_congr rfl rfl ?_ horders horders'
  refine List.forall₂_filterMap_zipIdx (hsame.length_eq.symm.trans hsame'.length_eq)
    fun i l₁ l₂ hl₁ hl₂ => ?_
  obtain ⟨l, hl, hsame₁⟩ := hsame.flip.getElem?_right hl₁
  obtain ⟨l₂', hl₂', hsame₂⟩ := hsame'.getElem?_right hl
  cases hl₂.symm.trans hl₂'
  have hholds₁ : l₁.Holds g (bound i) := hserves₁ i l₁ hl₁
  have hholds₂ : l₂.Holds g (bound i) := hserves₂ i l₂ hl₂
  simp only [(hserves i l hl).valid_eq hholds₁ hsame₁, (hserves i l hl).valid_eq hholds₂ hsame₂]
  split_ifs with hvalid
  · exact .some (huntied.sameRules hl hvalid hsame₁ hsame₂ hholds₁ hholds₂ (hvisit i l₁ hl₁)
      (hvisit' i l₂ hl₂))
  · exact .none

end Enough

/-! ### The condition is needed -/

/-- The routes that are bound, resolved and visited in the given orders. -/
def visitedRoutes (g : K8sGateway) (listener : Listener) (bound : GoMap String K8sRoute)
    (keys : List String) (order : String → RangeOrder) : List (String × Core.ResolvedRoute) :=
  keys.filterMap fun k => (bound.lookup k).map fun r =>
    (k, r.resolve (order k) g.gatewayState.consulNamespace g.gateway listener)

section Needed

variable {g : K8sGateway} {bound : ℕ → GoMap String K8sRoute} {i : ℕ} {l : GatewayListener}
  {routes : GoMap String K8sRoute} {keys : List String} {order : String → RangeOrder}

theorem mem_visitedRoutes {listener : Listener} {k : String} {route : Core.ResolvedRoute} :
    (k, route) ∈ visitedRoutes g listener routes keys order ↔ k ∈ keys ∧ ∃ r,
      routes.lookup k = some r ∧
        route = r.resolve (order k) g.gatewayState.consulNamespace g.gateway listener := by
  rw [visitedRoutes, List.mem_filterMap]
  constructor
  · rintro ⟨k', hk', hmap⟩
    obtain ⟨r, hr, heq⟩ := Option.map_eq_some_iff.1 hmap
    cases heq
    exact ⟨hk', r, hr, rfl⟩
  · rintro ⟨hk, r, hr, rfl⟩
    exact ⟨k, hk, by rw [hr]; rfl⟩

theorem visitedRoutes_keys {listener : Listener} (hkeys : ∀ k ∈ keys, k ∈ routes) :
    (visitedRoutes g listener routes keys order).map Prod.fst = keys := by
  induction keys with
  | nil => rfl
  | cons k keys ih =>
    rw [List.forall_mem_cons] at hkeys
    obtain ⟨r, hr⟩ := Finmap.mem_iff.1 hkeys.1
    have hrest := ih hkeys.2
    rw [visitedRoutes, List.filterMap_cons_some (by rw [hr]; rfl), List.map_cons]
    exact congrArg (k :: ·) hrest

theorem flatMap_visitedRoutes (listener : Listener) (h : String) :
    ((visitedRoutes g listener routes keys order).map Prod.snd).flatMap (addedRules h) =
      keys.flatMap (boundRules routes order listener h) := by
  induction keys with
  | nil => rfl
  | cons k keys ih =>
    rw [visitedRoutes, List.flatMap_cons, ← ih, boundRules]
    cases hr : routes.lookup k with
    | none => rw [List.filterMap_cons_none (by rw [hr]; rfl)]; rfl
    | some r =>
      rw [List.filterMap_cons_some (by rw [hr]; rfl), List.map_cons, List.flatMap_cons,
        K8sRoute.addedRules_resolve]
      rfl

/-- A listener can come to hold the routes in any orders. -/
theorem exists_holds (l : GatewayListener) (hkeys : GoSet.Ranges (Finmap.keys routes) keys)
    (order : String → RangeOrder) :
    ∃ held, GoMap.Ranges held (visitedRoutes g l.spec routes keys order) ∧
      (l.setRoutes held).Holds g routes := by
  have hmem : ∀ k ∈ keys, k ∈ routes := fun k hk => Finmap.mem_keys.1 (hkeys.mem_iff.1 hk)
  have hnodup : ((visitedRoutes g l.spec routes keys order).map Prod.fst).Nodup := by
    rw [visitedRoutes_keys hmem]
    exact hkeys.1
  obtain ⟨held, hheld⟩ := GoMap.exists_of_nodup hnodup
  refine ⟨held, hheld, fun k => ?_⟩
  change Option.Rel _ (routes.lookup k) (held.lookup k)
  cases hr : routes.lookup k with
  | some r =>
    have hk : k ∈ keys := hkeys.mem_iff.2 (Finmap.mem_keys.2 (Finmap.mem_of_lookup_eq_some hr))
    rw [hheld.mem_iff.1 (mem_visitedRoutes.2 ⟨hk, r, hr, rfl⟩)]
    exact .some ⟨order k, rfl⟩
  | none =>
    cases hlook : held.lookup k with
    | none => exact .none
    | some route =>
      obtain ⟨-, r, hr', -⟩ := mem_visitedRoutes.1 (hheld.mem_iff.2 hlook)
      rw [hr] at hr'
      cases hr'

/-- There is a run for any orders in which the routes and their references are
visited. -/
theorem exists_run (g : K8sGateway) (keys : ℕ → List String)
    (hkeys : ∀ i, GoSet.Ranges (Finmap.keys (bound i)) (keys i)) (order : String → RangeOrder) :
    ∃ ls visit orders,
      List.Forall₂ GatewayListener.SameListener g.gatewayState.listeners ls ∧
      (g.setListeners ls).Serves bound ∧ (g.setListeners ls).Visits visit ∧
      Visits ((g.setListeners ls).resolve visit) orders ∧
      ∀ (i : ℕ) l', ls[i]? = some l' → ∀ h,
        collectedRules (K8sGateway.resolveListener l' (visit i)) h =
          (keys i).flatMap (boundRules (bound i) order l'.spec h) := by
  choose held hheld hholds using fun p : GatewayListener × ℕ =>
    exists_holds (g := g) p.1 (hkeys p.2) order
  have hget : ∀ (i : ℕ) l',
      (g.gatewayState.listeners.zipIdx.map fun p => p.1.setRoutes (held p))[i]? = some l' →
      ∃ l, g.gatewayState.listeners[i]? = some l ∧ l.setRoutes (held (l, i)) = l' := by
    intro i l' hl'
    rw [List.getElem?_map, List.getElem?_zipIdx] at hl'
    simpa using hl'
  -- each listener is visited in the order of the keys, and its routes are resolved as visited
  let visit : ℕ → List (String × Core.ResolvedRoute) := fun i =>
    (g.gatewayState.listeners[i]?.map fun l =>
      visitedRoutes g l.spec (bound i) (keys i) order).getD []
  obtain ⟨orders, horders⟩ := exists_visits ((g.setListeners
    (g.gatewayState.listeners.zipIdx.map fun p => p.1.setRoutes (held p))).resolve visit)
  refine ⟨_, visit, orders, ?_, fun i l' hl' => ?_, fun i l' hl' => ?_, horders,
    fun i l' hl' h => ?_⟩
  · rw [List.forall₂_map_right_iff]
    refine List.forall₂_iff_get.2 ⟨by simp, fun i h₁ h₂ => ?_⟩
    refine ⟨held (g.gatewayState.listeners.zipIdx.get ⟨i, h₂⟩), ?_⟩
    simp
  · obtain ⟨l, hl, rfl⟩ := hget i l' hl'
    exact hholds (l, i)
  · obtain ⟨l, hl, rfl⟩ := hget i l' hl'
    simp only [visit, hl]
    exact hheld (l, i)
  · obtain ⟨l, hl, rfl⟩ := hget i l' hl'
    simp only [visit, hl]
    rw [collectedRules, lookup_consolidator]
    exact flatMap_visitedRoutes l.spec h

theorem Separate.keysDistinct (hsep : Separate g bound) (hserves : g.Serves bound)
    {ls : List GatewayListener}
    (hsame : List.Forall₂ GatewayListener.SameListener g.gatewayState.listeners ls)
    (hserves' : (g.setListeners ls).Serves bound)
    {visit : ℕ → List (String × Core.ResolvedRoute)} (hvisit : (g.setListeners ls).Visits visit) :
    KeysDistinct ((g.setListeners ls).resolve visit) := by
  -- the listener that a resolved one comes from, and what it serves
  have horigin : ∀ {j : ℕ} {rl h}, ((g.setListeners ls).resolve visit).listeners[j]? = some rl →
      Served rl.routes h → ∃ i l l', g.gatewayState.listeners[i]? = some l ∧
        l.state.valid = true ∧ ServedOn (bound i) l.spec h ∧ ls[i]? = some l' ∧
        rl = K8sGateway.resolveListener l' (visit i) := by
    intro j rl h hrl hserved
    obtain ⟨i, l', hl', hvalid, rfl⟩ :=
      K8sGateway.mem_resolve_listeners.1 (List.mem_of_getElem? hrl)
    obtain ⟨l, hl, hsl⟩ := hsame.flip.getElem?_right hl'
    have hholds : l'.Holds g (bound i) := hserves' i l' hl'
    rw [(hserves i l hl).valid_eq hholds hsl] at hvalid
    rw [hholds.served_iff (hvisit i l' hl')] at hserved
    obtain ⟨routes, rfl⟩ := hsl
    exact ⟨i, l, _, hl, hvalid, hserved, hl', rfl⟩
  intro j j' rl rl' h h' hrl hrl' hserved hserved' hkey
  obtain ⟨i, l, l₁, hl, hvalid, hon, hl₁, rfl⟩ := horigin hrl hserved
  obtain ⟨i', l', l₁', hl', hvalid', hon', hl₁', rfl⟩ := horigin hrl' hserved'
  obtain ⟨rfl, rfl⟩ := hsep.hostnames hl hl' hvalid hvalid' hon hon' hkey
  cases hl₁.symm.trans hl₁'
  exact ⟨rfl, rfl⟩

/-- The rules that are bound to a listener name no backend like a virtual service. -/
theorem Separate.namesBackends (hsep : Separate g bound) {listener : Listener} {h : String}
    {m : HostnameMatch} (hm : m ∈ keys.flatMap (boundRules (bound i) order listener h)) :
    m.NamesBackends (g.id.service ++ "-" ++ hostsKey [h]) := by
  obtain ⟨k, -, hm⟩ := List.mem_flatMap.1 hm
  unfold boundRules at hm
  cases hr : (bound i).lookup k with
  | none => rw [hr] at hm; cases hm
  | some r =>
    rw [hr] at hm
    obtain ⟨block, hblock, hm⟩ := List.mem_flatten.1 hm
    rw [(List.mem_replicate.1 hblock).2] at hm
    obtain ⟨entry, hentry, hm⟩ := List.mem_flatMap.1 hm
    intro service hservice
    rw [services_of_mem_ruleMatches hm] at hservice
    exact hsep.backends hr entry (((order k).perm _).mem_iff.1 hentry) service hservice h

/-- There is a run in which the rules of a listener are collected in the given
orders. -/
theorem exists_outcome (hsep : Separate g bound) (hserves : g.Serves bound)
    (hl : g.gatewayState.listeners[i]? = some l) (hvalid : l.state.valid = true)
    (hkeys : GoSet.Ranges (Finmap.keys (bound i)) keys) (order : String → RangeOrder) :
    ∃ ls visit orders, ∃ (j : ℕ) (rl : Core.ResolvedListener),
      Outcome g bound (discoveryChain ((g.setListeners ls).resolve visit) orders) ∧
      Visits ((g.setListeners ls).resolve visit) orders ∧
      KeysDistinct ((g.setListeners ls).resolve visit) ∧
      ((g.setListeners ls).resolve visit).listeners[j]? = some rl ∧
      ∀ h, (Served rl.routes h ↔ ServedOn (bound i) l.spec h) ∧
        collectedRules rl h = keys.flatMap (boundRules (bound i) order l.spec h) := by
  -- the routes of the other listeners are visited in some order
  choose others hothers using fun j => GoMap.exists_ranges (bound j)
  have hupdate : ∀ j, GoSet.Ranges (Finmap.keys (bound j))
      (Function.update (fun j => (others j).map Prod.fst) i keys j) := by
    intro j
    by_cases hj : j = i
    · subst hj
      rwa [Function.update_self]
    · rw [Function.update_of_ne hj]
      exact (hothers j).keys
  obtain ⟨ls, visit, orders, hsame, hserves', hvisit, horders, hrules⟩ :=
    exists_run g _ hupdate order
  obtain ⟨l', hl', hsl⟩ := hsame.getElem?_right hl
  have hholds : l'.Holds g (bound i) := hserves' i l' hl'
  have hvalid' : l'.state.valid = true := ((hserves i l hl).valid_eq hholds hsl).trans hvalid
  obtain ⟨j, hj⟩ := List.mem_iff_getElem?.1
    (K8sGateway.mem_resolve_listeners (g := g.setListeners ls).2 ⟨i, l', hl', hvalid', rfl⟩)
  refine ⟨ls, visit, orders, j, _, ⟨ls, visit, orders, hsame, hserves', hvisit, horders, rfl⟩,
    horders, hsep.keysDistinct hserves hsame hserves' hvisit, hj, fun h => ⟨?_, ?_⟩⟩
  · rw [hholds.served_iff (hvisit i l' hl'), hsl.spec_eq]
  · rw [hrules i l' hl' h, Function.update_self, hsl.spec_eq]

/-- What the rules of a hostname become does not depend on the orders, if the routers
and splitters do not. -/
theorem OrderIndependent.preferred_eq (hindep : OrderIndependent g bound)
    (hsep : Separate g bound) (hserves : g.Serves bound)
    (hl : g.gatewayState.listeners[i]? = some l) (hvalid : l.state.valid = true) {h : String}
    (hserved : ServedOn (bound i) l.spec h) (order order' : String → RangeOrder)
    {keys' : List String} (hkeys : GoSet.Ranges (Finmap.keys (bound i)) keys)
    (hkeys' : GoSet.Ranges (Finmap.keys (bound i)) keys') (p : (ℕ ×ₗ ℕ ×ₗ ℕ)ᵒᵈ) :
    preferred p (keys.flatMap (boundRules (bound i) order l.spec h)) =
      preferred p (keys'.flatMap (boundRules (bound i) order' l.spec h)) := by
  obtain ⟨ls, visit, orders, j, rl, hrun, horders, hdistinct, hj, hrl⟩ :=
    exists_outcome hsep hserves hl hvalid hkeys order
  obtain ⟨ls', visit', orders', j', rl', hrun', horders', hdistinct', hj', hrl'⟩ :=
    exists_outcome hsep hserves hl hvalid hkeys' order'
  obtain ⟨hrouters, hsplitters⟩ := hindep _ _ hrun hrun'
  have hid : ((g.setListeners ls).resolve visit).id =
      ((g.setListeners ls').resolve visit').id := rfl
  have hmeta : ((g.setListeners ls).resolve visit).meta_ =
      ((g.setListeners ls').resolve visit').meta_ := rfl
  have hentries : hostnameEntries rl h = hostnameEntries rl' h := by
    refine hostnameEntries_eq hid hmeta horders horders' hdistinct hdistinct' hj hj'
      ((hrl h).1.2 hserved) ((hrl' h).1.2 hserved) ?_ ?_ hrouters hsplitters
    · rw [(hrl h).2]
      exact fun m hm => hsep.namesBackends hm
    · rw [(hrl' h).2]
      exact fun m hm => hsep.namesBackends hm
  rw [hostnameEntries, hostnameEntries, (hrl h).2, (hrl' h).2] at hentries
  refine GoStd.parts_eq_of_map_sliceStable compares_compareHTTPRules ?_ hentries p
  exact boundRules_perm (hkeys'.perm hkeys)

theorem K8sRoute.exists_servedHostname {r : K8sRoute} (h : r.httpReferences ≠ [])
    (listener : Listener) : ∃ host, host ∈ r.servedHostnames listener := by
  unfold K8sRoute.httpReferences at h
  unfold K8sRoute.servedHostnames Converter.convertHostnames
  cases hbody : r.body with
  | tcp references => rw [hbody] at h; exact absurd rfl h
  | http hostnames references =>
    simp only
    split_ifs with hnone hempty
    · exact ⟨_, List.mem_singleton_self _⟩
    · exact ⟨_, List.mem_singleton_self _⟩
    · exact List.exists_mem_of_ne_nil hostnames hnone

/-- The rules of a route can be interchanged, if the routers and splitters do not
depend on the orders. -/
theorem OrderIndependent.interchange_rules (hindep : OrderIndependent g bound)
    (hsep : Separate g bound) (hserves : g.Serves bound)
    (hl : g.gatewayState.listeners[i]? = some l) (hvalid : l.state.valid = true) {k : String}
    {r : K8sRoute} (hr : (bound i).lookup k = some r) :
    r.httpReferences.Pairwise fun entry entry' =>
      Interchange (ruleBlock entry) (ruleBlock entry') := by
  by_cases hnone : r.httpReferences = []
  · rw [hnone]
    exact .nil
  obtain ⟨h, hh⟩ := K8sRoute.exists_servedHostname hnone l.spec
  obtain ⟨visit, hvisit⟩ := GoMap.exists_ranges (bound i)
  -- the route is visited first
  have hk : k ∈ visit.map Prod.fst := hvisit.mem_keys.2 (Finmap.mem_of_lookup_eq_some hr)
  have hkeys := hvisit.keys.of_perm (List.perm_cons_erase hk).symm
  rw [GoStd.pairwise_interchangeable_iff]
  intro references hperm p
  obtain ⟨order, horder⟩ := RangeOrder.exists_visit hperm.symm
  have heq := hindep.preferred_eq hsep hserves hl hvalid ⟨k, r, hr, hh⟩
    (Function.update (fun _ => .listed) k order) (fun _ => .listed) hkeys hkeys p
  have hrest : ((visit.map Prod.fst).erase k).flatMap
        (boundRules (bound i) (Function.update (fun _ => .listed) k order) l.spec h) =
      ((visit.map Prod.fst).erase k).flatMap
        (boundRules (bound i) (fun _ => .listed) l.spec h) := by
    refine List.flatMap_congr fun k' hk' => ?_
    have hne : k' ≠ k := by
      rintro rfl
      exact (List.nodup_cons.1 hkeys.1).1 hk'
    rw [boundRules, boundRules, Function.update_of_ne hne]
  rw [List.flatMap_cons, List.flatMap_cons, hrest, preferred, preferred, GoStd.part_append,
    GoStd.part_append] at heq
  have hroute := List.append_cancel_right heq
  rw [boundRules, boundRules, hr, Function.update_self] at hroute
  simp only [Option.map_some, Option.getD_some, K8sRoute.hostnameRules, horder,
    GoStd.part_replicate] at hroute
  exact GoStd.eq_of_replicate_flatten (Nat.ne_of_gt (List.count_pos_iff.2 hh)) hroute

theorem OrderIndependent.interchange_routes (hindep : OrderIndependent g bound)
    (hsep : Separate g bound) (hserves : g.Serves bound)
    (hl : g.gatewayState.listeners[i]? = some l) (hvalid : l.state.valid = true) {k k' : String}
    {r r' : K8sRoute} (hr : (bound i).lookup k = some r) (hr' : (bound i).lookup k' = some r')
    (hne : k ≠ k') (h : String) :
    Interchange (r.hostnameRules .listed l.spec h) (r'.hostnameRules .listed l.spec h) := by
  by_cases hserved : ServedOn (bound i) l.spec h
  · obtain ⟨visit, hvisit⟩ := GoMap.exists_ranges (bound i)
    have hpairwise : (visit.map Prod.fst).Pairwise fun k k' =>
        Interchange (boundRules (bound i) (fun _ => .listed) l.spec h k)
          (boundRules (bound i) (fun _ => .listed) l.spec h k') := by
      rw [GoStd.pairwise_interchangeable_iff]
      intro keys hperm p
      exact hindep.preferred_eq hsep hserves hl hvalid hserved _ _ (hvisit.keys.of_perm hperm)
        hvisit.keys p
    have hinterchange := hpairwise.forall
      (hvisit.mem_keys.2 (Finmap.mem_of_lookup_eq_some hr))
      (hvisit.mem_keys.2 (Finmap.mem_of_lookup_eq_some hr')) hne
    rwa [boundRules, boundRules, hr, hr'] at hinterchange
  · -- without the hostname there are no rules to interchange
    have hnone : ∀ {k r}, (bound i).lookup k = some r →
        r.hostnameRules .listed l.spec h = [] := fun hr =>
      K8sRoute.hostnameRules_of_not_served (fun hh => hserved ⟨_, _, hr, hh⟩) _
    rw [hnone hr, hnone hr']
    exact fun p => rfl

/-- **The condition is needed** if every hostname has its own router. -/
theorem OrderIndependent.untied (hindep : OrderIndependent g bound) (hsep : Separate g bound)
    (hserves : g.Serves bound) : Untied g bound where
  rules hl hvalid hr := hindep.interchange_rules hsep hserves hl hvalid hr
  routes h hl hvalid hr hr' hne := hindep.interchange_routes hsep hserves hl hvalid hr hr' hne h
  hostnames hl hvalid hserved hserved' hkey _ p := by
    obtain ⟨-, rfl⟩ := hsep.hostnames hl hl hvalid hvalid hserved hserved' hkey
    rfl

end Needed

/-- **Routers and splitters do not depend on the order in which maps are visited** if
rules of the same preference can be interchanged; and only then, if every hostname
has its own router. -/
theorem orderIndependent_untied {g : K8sGateway} {bound : ℕ → GoMap String K8sRoute}
    (hserves : g.Serves bound) :
    (Untied g bound → OrderIndependent g bound) ∧
      (Separate g bound → (OrderIndependent g bound ↔ Untied g bound)) :=
  ⟨fun huntied => huntied.orderIndependent hserves, fun hsep =>
    ⟨fun hindep => hindep.untied hsep hserves, fun huntied => huntied.orderIndependent hserves⟩⟩

/-! ### A route with rules of the same preference -/

namespace SampleOrder

/-- A rule for the requests that have a header. -/
def headerRule (header service : String) :
    HTTPRouteRule × List (ResolvedReference HTTPBackendRef) :=
  ({ matches_ := [{ headers := [⟨some .exact, header, "1"⟩] }] },
    [.consulService {} ⟨"", service⟩])

def listener : Listener where
  name := "http"
  hostname := none
  port := 80
  protocol := .http

def route (references : RouteRuleReferenceMap HTTPRouteRule HTTPBackendRef) : K8sRoute where
  object := { namespace_ := "web", name := "route", groupKind := ⟨groupName, "HTTPRoute"⟩ }
  parentRefs := [{ name := "gateway" }]
  body := .http [] references

def gatewayMeta : GatewayMeta :=
  { namespace_ := "web", name := "gateway", groupKind := ⟨groupName, "Gateway"⟩ }

/-- The listener holds the route with its rules as they are listed. -/
def serving (references : RouteRuleReferenceMap HTTPRouteRule HTTPBackendRef) : GatewayListener :=
  ⟨listener, { name := "http", protocol := .http
               routes := (∅ : GoMap _ _).insert (route references).id
                 ((route references).resolve .listed "" gatewayMeta listener) }⟩

def gateway (references : RouteRuleReferenceMap HTTPRouteRule HTTPBackendRef) : K8sGateway where
  gateway := gatewayMeta
  gatewayState := { listeners := [serving references] }

def bound (references : RouteRuleReferenceMap HTTPRouteRule HTTPBackendRef) (_ : ℕ) :
    GoMap String K8sRoute :=
  (∅ : GoMap String K8sRoute).insert (route references).id (route references)

variable (references : RouteRuleReferenceMap HTTPRouteRule HTTPBackendRef)

theorem gateway_serves : (gateway references).Serves (bound references) := by
  intro i l hl k
  match i, hl with
  | 0, hl =>
    cases Option.some.inj hl
    simp only [bound, serving, GoMap.lookup_insert_ite, Finmap.lookup_empty]
    split_ifs
    · exact .some ⟨.listed, rfl⟩
    · exact .none

theorem bound_lookup {i : ℕ} {k : String} {r : K8sRoute}
    (h : (bound references i).lookup k = some r) :
    k = (route references).id ∧ r = route references := by
  rw [bound, GoMap.lookup_insert_ite] at h
  split_ifs at h with hk
  · cases h
    exact ⟨hk, rfl⟩
  · cases h

theorem servedOn_bound (i : ℕ) (h : String) :
    ServedOn (bound references i) listener h ↔ h = "*" := by
  constructor
  · rintro ⟨k, r, hr, hh⟩
    obtain ⟨-, rfl⟩ := bound_lookup references hr
    exact List.mem_singleton.1 hh
  · rintro rfl
    exact ⟨_, _, Finmap.lookup_insert _, List.mem_singleton_self _⟩

/-- The router of the only hostname, if the rules are visited in an order. -/
theorem exists_router (order : RangeOrder) : ∃ chain G,
    Outcome (gateway references) (bound references) chain ∧
      chain.routers.get ("gateway" ++ "-" ++ hostsKey ["*"]) = some (.serviceRouter
        (httpRouteDiscoveryChain (consolidatedRoute G "*"
          ((route references).hostnameRules order listener "*"))).1) := by
  have hkeys : ∀ i : ℕ, GoSet.Ranges (Finmap.keys (bound references i)) [(route references).id] :=
    fun i => (GoMap.ranges_singleton _ _).keys
  obtain ⟨ls, visit, orders, hsame, hserves, hvisit, horders, hrules⟩ :=
    exists_run (gateway references) _ hkeys fun _ => order
  have hserving : List.Forall₂ GatewayListener.SameListener [serving references] ls := hsame
  obtain ⟨l', ls', hsl, hnil, rfl⟩ := List.forall₂_cons_left_iff.1 hserving
  cases hnil
  have hholds : l'.Holds (gateway references) (bound references 0) := hserves 0 l' rfl
  have hvalid : l'.state.valid = true :=
    (gateway_serves references 0 _ rfl).valid_eq hholds hsl
  have hspec : l'.spec = listener := hsl.spec_eq
  have hserved : ∀ h, Served (K8sGateway.resolveListener l' (visit 0)).routes h ↔ h = "*" := by
    intro h
    rw [hholds.served_iff (hvisit 0 l' rfl), hspec, servedOn_bound]
  obtain ⟨j, hj⟩ : ∃ j : ℕ, (((gateway references).setListeners [l']).resolve visit).listeners[j]? =
      some (K8sGateway.resolveListener l' (visit 0)) :=
    List.mem_iff_getElem?.1 (K8sGateway.mem_resolve_listeners.2 ⟨0, l', rfl, hvalid, rfl⟩)
  refine ⟨_, (((gateway references).setListeners [l']).resolve visit),
    ⟨[l'], visit, orders, hsame, hserves, hvisit, horders, rfl⟩, ?_⟩
  obtain ⟨j', rl, h, hrl, hh, -, hget⟩ := routers_get horders hj ((hserved "*").2 rfl)
  -- there is no other listener, and no other hostname
  obtain ⟨i, l, hl, -, rfl⟩ :=
    K8sGateway.mem_resolve_listeners.1 (List.mem_of_getElem? hrl)
  match i, hl with
  | 0, hl =>
    cases Option.some.inj hl
    cases (hserved h).1 hh
    have hbound : [(route references).id].flatMap
        (boundRules (bound references 0) (fun _ => order) listener "*") =
        (route references).hostnameRules order listener "*" := by
      rw [List.flatMap_singleton, boundRules, bound, Finmap.lookup_insert]
      rfl
    rw [ownRouter, hrules 0 l' rfl, hspec, hbound] at hget
    exact hget

theorem gateway_untied (hrules : references.Pairwise fun entry entry' =>
    Interchange (ruleBlock entry) (ruleBlock entry')) :
    Untied (gateway references) (bound references) where
  rules {i l k r} hl hvalid hr := by
    obtain ⟨-, rfl⟩ := bound_lookup references hr
    exact hrules
  routes {i l k k' r r'} h hl hvalid hr hr' hne := by
    exact absurd ((bound_lookup references hr).1.trans (bound_lookup references hr').1.symm) hne
  hostnames {i l h h' keys} hl hvalid hserved hserved' hkey hkeys p := by
    match i, hl with
    | 0, hl =>
      cases Option.some.inj hl
      rw [(servedOn_bound references 0 h).1 hserved, (servedOn_bound references 0 h').1 hserved']

/-- The name of a virtual service has a hyphen. -/
theorem gateway_separate (hservices : ∀ entry ∈ references,
    ∀ service ∈ Converter.convertReferences entry.2, '-' ∉ service.service.service.toList) :
    Separate (gateway references) (bound references) where
  hostnames {i i' l l' h h'} hl hl' hvalid hvalid' hserved hserved' hkey := by
    match i, i', hl, hl' with
    | 0, 0, hl, hl' =>
      cases Option.some.inj hl
      cases Option.some.inj hl'
      have hhost := (servedOn_bound references 0 h).1 hserved
      have hhost' := (servedOn_bound references 0 h').1 hserved'
      exact ⟨rfl, hhost.trans hhost'.symm⟩
  backends {i k r} hr entry hentry s hs h idx heq := by
    obtain ⟨-, rfl⟩ := bound_lookup references hr
    refine hservices entry hentry s hs ?_
    rw [heq, virtualService]
    simp

/-- A rule for all requests. -/
def plainRule (service : String) : HTTPRouteRule × List (ResolvedReference HTTPBackendRef) :=
  ({}, [.consulService {} ⟨"", service⟩])

/-- A rule with a header goes before one for all requests. -/
def rules : RouteRuleReferenceMap HTTPRouteRule HTTPBackendRef :=
  [plainRule "all", headerRule "version" "one"]

theorem rules_interchange : rules.Pairwise fun entry entry' =>
    Interchange (ruleBlock entry) (ruleBlock entry') := by
  refine List.pairwise_pair.2 (GoStd.interchangeable_of_ne fun m hm m' hm' => ?_)
  cases List.mem_singleton.1 hm
  cases List.mem_singleton.1 hm'
  decide

theorem rules_services : ∀ entry ∈ rules,
    ∀ service ∈ Converter.convertReferences entry.2, '-' ∉ service.service.service.toList := by
  decide

end SampleOrder

open SampleOrder

/-- Two rules of different preference come in the same order, however they are visited. -/
theorem orderIndependent_rules :
    Separate (gateway rules) (bound rules) ∧ OrderIndependent (gateway rules) (bound rules) ∧
      Untied (gateway rules) (bound rules) := by
  have hlaw := orderIndependent_untied (gateway_serves rules)
  have hsep := gateway_separate rules rules_services
  have hindep := hlaw.1 (gateway_untied rules rules_interchange)
  exact ⟨hsep, hindep, (hlaw.2 hsep).1 hindep⟩

/-- Two rules of a route, each with one header, have the same preference, and are
tried in the order in which the references of the route were visited: a request with
both headers goes to the one service or to the other. -/
theorem rules_follow_visit :
    (gateway [headerRule "version" "one", headerRule "debug" "two"]).Serves
        (bound [headerRule "version" "one", headerRule "debug" "two"]) ∧
      (∃ chain chain' name router router',
        Outcome (gateway [headerRule "version" "one", headerRule "debug" "two"])
          (bound [headerRule "version" "one", headerRule "debug" "two"]) chain ∧
        Outcome (gateway [headerRule "version" "one", headerRule "debug" "two"])
          (bound [headerRule "version" "one", headerRule "debug" "two"]) chain' ∧
        chain.routers.get name = some (.serviceRouter router) ∧
        chain'.routers.get name = some (.serviceRouter router') ∧
        router.routes.map (fun route => route.destination.service) = ["one", "two"] ∧
        router'.routes.map (fun route => route.destination.service) = ["two", "one"]) ∧
      ¬ OrderIndependent (gateway [headerRule "version" "one", headerRule "debug" "two"])
        (bound [headerRule "version" "one", headerRule "debug" "two"]) := by
  obtain ⟨chain, G, houtcome, hget⟩ :=
    exists_router [headerRule "version" "one", headerRule "debug" "two"] .listed
  obtain ⟨chain', G', houtcome', hget'⟩ :=
    exists_router [headerRule "version" "one", headerRule "debug" "two"] .swap
  refine ⟨gateway_serves _, ⟨chain, chain', _, _, _, houtcome, houtcome', hget, hget', rfl, rfl⟩,
    fun hindep => ?_⟩
  have hrouters := (hindep chain chain' houtcome houtcome').1
  rw [hrouters, hget'] at hget
  injection hget with hget
  injection hget with hget
  have hservices := congrArg (fun router : ServiceRouterConfigEntry =>
    router.routes.map fun route => route.destination.service) hget
  exact absurd (show ["two", "one"] = ["one", "two"] from hservices) (by decide)

end Reconciler
