/-
The routes that are bound to a listener, and the rules they bring.

A listener holds every route as it was resolved when it was bound.  The rules of the
route come from a map that was visited in some order, and the routes of the listener
are visited in some order again; what is collected for a hostname are the matches
of each rule, in blocks.

* `collectedRules_eq` — the rules of a hostname, route by route;
* `Store.exists_serves` — every stored gateway holds routes that were resolved for it.
-/
import ConsulApiGateway.Bindings
import ConsulApiGateway.FirstMatch
import ConsulApiGateway.RouterRules
import ConsulApiGateway.ServedHostnames

namespace Reconciler

open K8s Consul

/-! ### Rules in blocks -/

/-- The rule that an entry of the references becomes. -/
def Converter.convertRule (entry : HTTPRouteRule × List (ResolvedReference HTTPBackendRef)) :
    Core.HTTPRouteRule where
  filters := convertHTTPRouteFilters entry.1.filters
  matches_ := entry.1.matches_.map convertMatch
  services := convertReferences entry.2

/-- The matches of the rule, each with the filters and services of the rule. -/
def ruleBlock (entry : HTTPRouteRule × List (ResolvedReference HTTPBackendRef)) :
    List HostnameMatch :=
  ruleMatches (Converter.convertRule entry)

namespace K8sRoute

/-- The rules of an HTTP route with their references, as the route lists them. -/
def httpReferences (r : K8sRoute) : RouteRuleReferenceMap HTTPRouteRule HTTPBackendRef :=
  match r.body with
  | .http _ references _ => references
  | .tcp _ _ => []

/-- The hostnames for which the route is served on a listener. -/
def servedHostnames (r : K8sRoute) (listener : Listener) : List String :=
  match r.body with
  | .http hostnames _ _ =>
    Converter.convertHostnames hostnames (K8sGateway.listenerHostname listener)
  | .tcp _ _ => []

/-- What the route adds to the rules of a hostname if its references are visited in
an order. -/
def hostnameRules (r : K8sRoute) (order : RangeOrder) (listener : Listener) (h : String) :
    List HostnameMatch :=
  (List.replicate ((r.servedHostnames listener).count h)
    ((order.visit r.httpReferences).flatMap ruleBlock)).flatten

theorem addedRules_resolve (r : K8sRoute) (order : RangeOrder) (namespace_ : String)
    (gateway : GatewayMeta) (listener : Listener) (h : String) :
    addedRules h (r.resolve order namespace_ gateway listener) =
      r.hostnameRules order listener h := by
  unfold K8sRoute.resolve hostnameRules servedHostnames httpReferences
  cases r.body with
  | http hostnames references =>
    simp only [addedRules, Converter.httpReferencesToRules, List.flatMap_map]
    rfl
  | tcp references => rfl

/-- The route serves the hostname once it is resolved. -/
theorem served_resolve (r : K8sRoute) (order : RangeOrder) (namespace_ : String)
    (gateway : GatewayMeta) (listener : Listener) (h : String) :
    Served [r.resolve order namespace_ gateway listener] h ↔ h ∈ r.servedHostnames listener := by
  unfold K8sRoute.resolve servedHostnames
  cases r.body with
  | http hostnames references => simp [Served]
  | tcp references => simp [Served]

theorem hostnameRules_of_not_served {r : K8sRoute} {listener : Listener} {h : String}
    (hh : h ∉ r.servedHostnames listener) (order : RangeOrder) :
    r.hostnameRules order listener h = [] := by
  rw [hostnameRules, List.count_eq_zero.2 hh]
  rfl

/-- Whatever the order, the route adds the same rules. -/
theorem hostnameRules_perm (r : K8sRoute) (order order' : RangeOrder) (listener : Listener)
    (h : String) : (r.hostnameRules order listener h).Perm (r.hostnameRules order' listener h) := by
  unfold hostnameRules
  have hblocks : ((order.visit r.httpReferences).flatMap ruleBlock).Perm
      ((order'.visit r.httpReferences).flatMap ruleBlock) :=
    ((order.perm _).trans (order'.perm _).symm).flatMap_right _
  induction (r.servedHostnames listener).count h with
  | zero => exact .nil
  | succ n ih =>
    rw [List.replicate_succ, List.replicate_succ, List.flatten_cons, List.flatten_cons]
    exact hblocks.append ih

end K8sRoute

/-- What a route that is bound to a listener adds to the rules of a hostname. -/
def boundRules (bound : GoMap String K8sRoute) (order : String → RangeOrder) (listener : Listener)
    (h k : String) : List HostnameMatch :=
  ((bound.lookup k).map fun r => r.hostnameRules (order k) listener h).getD []

theorem boundRules_perm {bound : GoMap String K8sRoute} {order order' : String → RangeOrder}
    {listener : Listener} {h : String} {keys keys' : List String} (hkeys : keys.Perm keys') :
    (keys.flatMap (boundRules bound order listener h)).Perm
      (keys'.flatMap (boundRules bound order' listener h)) := by
  refine (List.Perm.flatMap_left _ fun k _ => ?_).trans (hkeys.flatMap_right _)
  unfold boundRules
  cases bound.lookup k with
  | none => exact .nil
  | some r => exact r.hostnameRules_perm (order k) (order' k) listener h

/-- Some route that is bound to the listener serves the hostname. -/
def ServedOn (bound : GoMap String K8sRoute) (listener : Listener) (h : String) : Prop :=
  ∃ k r, bound.lookup k = some r ∧ h ∈ r.servedHostnames listener

/-! ### Listeners -/

/-- The listener holds the routes, each resolved in some order of its references. -/
def GatewayListener.Holds (g : K8sGateway) (bound : GoMap String K8sRoute)
    (l : GatewayListener) : Prop :=
  ∀ k, Option.Rel (fun r route => ∃ order,
    route = K8sRoute.resolve r order g.gatewayState.consulNamespace g.gateway l.spec)
    (bound.lookup k) (l.state.routes.lookup k)

namespace GatewayListener.Holds

variable {g : K8sGateway} {bound : GoMap String K8sRoute} {l l' : GatewayListener}
  {visit : List (String × Core.ResolvedRoute)}

theorem mem_iff (h : l.Holds g bound) (k : String) : k ∈ l.state.routes ↔ k ∈ bound := by
  have hk := h k
  rw [← Finmap.lookup_isSome, ← Finmap.lookup_isSome]
  generalize bound.lookup k = o at hk
  generalize l.state.routes.lookup k = o' at hk
  cases hk with
  | none => rfl
  | some _ => rfl

theorem keys_eq (h : l.Holds g bound) : l.state.routes.keys = Finmap.keys bound := by
  ext k
  rw [Finmap.mem_keys, Finmap.mem_keys, h.mem_iff]

/-- The listener is valid or not, in whatever order the routes were resolved. -/
theorem valid_eq (h : l.Holds g bound) (h' : l'.Holds g bound) (hsame : l.SameListener l') :
    l'.state.valid = l.state.valid := by
  have hkeys := h'.keys_eq.trans h.keys_eq.symm
  obtain ⟨routes, rfl⟩ := hsame
  unfold ListenerState.valid
  rw [hkeys]
  rfl

/-- The routes are those that are bound, in the order of the visit. -/
theorem exists_orders (h : l.Holds g bound) : ∃ order : String → RangeOrder, ∀ k r route,
    bound.lookup k = some r → l.state.routes.lookup k = some route →
      route = r.resolve (order k) g.gatewayState.consulNamespace g.gateway l.spec := by
  have hk : ∀ k, ∃ order, ∀ r route, bound.lookup k = some r →
      l.state.routes.lookup k = some route →
      route = r.resolve order g.gatewayState.consulNamespace g.gateway l.spec := by
    intro k
    have hk := h k
    generalize bound.lookup k = o at hk
    generalize l.state.routes.lookup k = o' at hk
    cases hk with
    | none => exact ⟨.listed, fun r route hr => by cases hr⟩
    | some hresolve =>
      obtain ⟨order, hresolve⟩ := hresolve
      refine ⟨order, fun r route hr hroute => ?_⟩
      cases hr
      cases hroute
      exact hresolve
  choose order horder using hk
  exact ⟨order, horder⟩

theorem collectedRules_eq (h : l.Holds g bound) : ∃ order : String → RangeOrder,
    ∀ visit, GoMap.Ranges l.state.routes visit → ∀ host,
      collectedRules (K8sGateway.resolveListener l visit) host =
        (visit.map Prod.fst).flatMap (boundRules bound order l.spec host) := by
  obtain ⟨order, horder⟩ := h.exists_orders
  refine ⟨order, fun visit hvisit host => ?_⟩
  have hroutes : (K8sGateway.resolveListener l visit).routes = visit.map Prod.snd := rfl
  rw [collectedRules, lookup_consolidator, hroutes, List.flatMap_map, List.flatMap_map]
  refine List.flatMap_congr fun p hp => ?_
  have hlook := hvisit.mem_iff.1 hp
  obtain ⟨r, hr⟩ := Finmap.mem_iff.1 ((h.mem_iff p.1).1 (Finmap.mem_of_lookup_eq_some hlook))
  rw [boundRules, hr, horder p.1 r p.2 hr hlook]
  exact r.addedRules_resolve ..

theorem served_iff (h : l.Holds g bound) (hvisit : GoMap.Ranges l.state.routes visit)
    (host : String) :
    Served (K8sGateway.resolveListener l visit).routes host ↔ ServedOn bound l.spec host := by
  obtain ⟨order, horder⟩ := h.exists_orders
  constructor
  · rintro ⟨route, hroute, hhost⟩
    obtain ⟨⟨k, route'⟩, hp, rfl⟩ := List.mem_map.1 hroute
    have hlook := hvisit.mem_iff.1 hp
    obtain ⟨r, hr⟩ := Finmap.mem_iff.1 ((h.mem_iff k).1 (Finmap.mem_of_lookup_eq_some hlook))
    have hserved := r.served_resolve (order k) g.gatewayState.consulNamespace g.gateway l.spec host
    rw [← horder k r _ hr hlook] at hserved
    exact ⟨k, r, hr, hserved.1 ⟨route, List.mem_singleton_self _, hhost⟩⟩
  · rintro ⟨k, r, hr, hhost⟩
    obtain ⟨route, hlook⟩ := Finmap.mem_iff.1 ((h.mem_iff k).2 (Finmap.mem_of_lookup_eq_some hr))
    have hserved := r.served_resolve (order k) g.gatewayState.consulNamespace g.gateway l.spec host
    rw [← horder k r route hr hlook] at hserved
    obtain ⟨route', hmem, hhost⟩ := hserved.2 hhost
    refine ⟨route', ?_, hhost⟩
    rw [List.mem_singleton.1 hmem]
    exact List.mem_map.2 ⟨(k, route), hvisit.mem_iff.2 hlook, rfl⟩

end GatewayListener.Holds

/-- Every listener holds the routes that are bound to it. -/
def K8sGateway.Serves (g : K8sGateway) (bound : ℕ → GoMap String K8sRoute) : Prop :=
  ∀ (i : ℕ) (l : GatewayListener), g.gatewayState.listeners[i]? = some l → l.Holds g (bound i)

/-! ### Stored gateways -/

/-- Every route on a listener was resolved for it. -/
def K8sGateway.Resolved (g : K8sGateway) : Prop :=
  ∀ l ∈ g.gatewayState.listeners, ∀ k route, l.state.routes.lookup k = some route →
    ∃ (r : K8sRoute) (order : RangeOrder), r.id = k ∧
      route = r.resolve order g.gatewayState.consulNamespace g.gateway l.spec

theorem K8sGateway.Resolved.rebinds {P : GatewayListener → Prop} {g g' : K8sGateway}
    {r r' : K8sRoute} {m : Bool} (hg : g.Resolved) (h : Binder.Rebinds P g r g' r' m)
    (hself : ∀ l' ∈ g'.gatewayState.listeners, Binder.HoldsResolved g r l') : g'.Resolved := by
  obtain ⟨ls, rfl, hls⟩ := h.gateway
  intro l' hl' k route hroute
  by_cases hk : k = r.id
  · subst hk
    obtain ⟨order, hresolve⟩ := hself l' hl' route hroute
    exact ⟨r, order, rfl, hresolve⟩
  · obtain ⟨l, hl, hatt⟩ := hls.exists_left hl'
    rw [hatt.other k hk] at hroute
    obtain ⟨r₀, order, hid, hresolve⟩ := hg l hl k route hroute
    obtain ⟨routes, rfl⟩ := hatt.same
    exact ⟨r₀, order, hid, hresolve⟩

theorem K8sGateway.Resolved.bind {c : Client} {orders : Binder.Orders} {g g' : K8sGateway}
    {r r' : K8sRoute} {m : Bool} (hg : g.Resolved)
    (h : Binder.bind c orders g r = some (g', r', m)) : g'.Resolved :=
  hg.rebinds (Binder.bind_rebinds h) (Binder.bind_holdsResolved h)

theorem K8sGateway.Resolved.unbind {g : K8sGateway} (hg : g.Resolved) (r : K8sRoute) :
    (Binder.unbind g r).1.Resolved := by
  refine hg.rebinds (Binder.unbind_rebinds g r) fun l' hl' route hroute => ?_
  obtain ⟨ls, heq, hls⟩ := (Binder.unbind_rebinds g r).gateway
  rw [heq] at hl'
  obtain ⟨l, -, hatt⟩ := hls.exists_left hl'
  exact (hatt.self.1 (Finmap.mem_of_lookup_eq_some hroute)).elim

theorem K8sGateway.Resolved.exists_serves {g : K8sGateway} (hg : g.Resolved) :
    ∃ bound, g.Serves bound ∧ ∀ i k r, (bound i).lookup k = some r → r.id = k := by
  have hbound : ∀ i : ℕ, ∃ bound, (∀ l, g.gatewayState.listeners[i]? = some l →
      GatewayListener.Holds g bound l) ∧ ∀ k r, bound.lookup k = some r → r.id = k := by
    intro i
    cases hl : g.gatewayState.listeners[i]? with
    | none =>
      refine ⟨∅, fun l hl => ?_, fun k r hr => ?_⟩
      · cases hl
      · simp at hr
    | some l =>
      -- one bound route is chosen for each key of the listener
      obtain ⟨bound, hchoice⟩ := GoMap.exists_choice (hg l (List.mem_of_getElem? hl))
      refine ⟨bound, fun l' hl' k => ?_, fun k r hr => ?_⟩
      · cases hl'
        have hk := hchoice k
        generalize bound.lookup k = o at hk ⊢
        generalize l.state.routes.lookup k = o' at hk ⊢
        cases hk with
        | none => exact .none
        | some hresolve =>
          obtain ⟨order, -, hresolve⟩ := hresolve
          exact .some ⟨order, hresolve⟩
      · have hk := hchoice k
        rw [hr] at hk
        generalize l.state.routes.lookup k = o' at hk
        cases hk with
        | some hresolve =>
          obtain ⟨-, hid, -⟩ := hresolve
          exact hid
  choose bound hholds hid using hbound
  exact ⟨bound, hholds, hid⟩

end Reconciler

namespace Store

open Reconciler

variable {c : Client} {M : Marshaler} {s s' : Store}

theorem resolved_bindGateway {f : BindUnbindFunc}
    (hf : ∀ {g r g' r' m}, f g r = some (g', r', m) → g.Resolved → g'.Resolved) {g g' : K8sGateway}
    {rs rs' : List (K8sRoute × Bool)} {m : Bool} (h : bindGateway f g rs = some (g', m, rs'))
    (hg : g.Resolved) : g'.Resolved := by
  induction rs generalizing g m rs' with
  | nil =>
    cases h
    exact hg
  | cons p rs ih =>
    obtain ⟨g₁, r₁, m₁, m₂, rs₂, hr, hrest, -, -⟩ := bindGateway_cons h
    exact ih hrest (hf hr hg)

/-- The routes on the listeners of the stored gateways are resolved. -/
def Resolved (s : Store) : Prop := ∀ gid g, s.gateways.lookup gid = some g → g.Resolved

theorem resolved_step {e : Event} (hb : Bound c s) (hs : s.Resolved) (h : Step c M s e s') :
    s'.Resolved := by
  obtain ⟨hv, harr, hexec⟩ := h
  obtain ⟨op, v⟩ := e
  intro gid g' hlook
  cases op with
  | upsertGateway g cond =>
    rcases upsertGateway_cases hb.toKeyed hv hexec with ⟨-, rfl⟩ | ⟨-, ls, m, rs', hbind, hgs, -⟩
    · exact hs gid g' hlook
    · rw [hgs, GoMap.lookup_insert_ite] at hlook
      split_ifs at hlook
      · cases hlook
        obtain ⟨g₁, m₁, rs₁, gs₂, hg, hnil, heq⟩ := bindOrUnbindAll_cons hbind
        cases hnil
        cases heq
        refine resolved_bindGateway (fun hf hg => hg.bind hf) hg fun l hl k route hroute => ?_
        -- a gateway arrives without routes
        rw [harr l hl] at hroute
        simp at hroute
      · exact hs gid g' hlook
  | deleteGateway id clearErr => exact hs gid g' (deleteGateway_of_some hexec hlook)
  | upsertRoute r cond =>
    rcases upsertRoute_cases hexec with ⟨-, rfl⟩ | ⟨-, gs', r', m, hbind, -, hgs, -⟩
    · exact hs gid g' hlook
    · obtain ⟨g, r₀, r₁, b, hg, -, hf⟩ :=
        exists_of_bindGateways (isBinder_bind c v.orders) hb.toKeyed hv hbind hgs hlook
      exact (hs gid g hg).bind hf
  | deleteRoute id =>
    rcases deleteRoute_cases hexec with rfl | ⟨r, gs', rs', -, hbind, hgs, -⟩
    · exact hs gid g' hlook
    · obtain ⟨g, r₀, r₁, b, hg, -, hf⟩ :=
        exists_of_bindGateways isBinder_unbind hb.toKeyed hv hbind hgs hlook
      rw [← show (Binder.unbind g r₀).1 = g' from congrArg Prod.fst (Option.some.inj hf)]
      exact (hs gid g hg).unbind r₀

/-- **A stored gateway serves the routes that are bound to it**, each as it was
resolved when it was bound. -/
theorem exists_serves (h : Reachable (Step c M) Store.new s) {gid : Core.GatewayID}
    {g : K8sGateway} (hg : s.gateways.lookup gid = some g) :
    ∃ bound, g.Serves bound ∧ ∀ i k r, (bound i).lookup k = some r → r.id = k := by
  have hresolved : Bound c s ∧ s.Resolved := by
    refine h.invariant (I := fun s => Bound c s ∧ s.Resolved) ⟨bound_new, ?_⟩ ?_
    · intro gid g hlook
      simp [Store.new] at hlook
    · rintro s e s' ⟨hb, hs⟩ hstep
      exact ⟨bound_step hb hstep, resolved_step hb hs hstep⟩
  exact (hresolved.2 gid g hg).exists_serves

end Store
