/-
The bindings of a store.

The operations rebind different parts of the store: a gateway against all
routes, a route against all gateways, and the two ways of unbinding.  Whatever
runs, what the listeners hold is what binding the stored routes afresh would
give.

* `Store.Bound`, `bound_step` — the invariant, and its preservation;
* `listener_routes_iff_bind` — the result for every reachable store.
-/
import ConsulApiGateway.Store

open Reconciler

namespace Reconciler.K8sGateway

/-- The gateway with no routes on its listeners. -/
def emptied (g : K8sGateway) : K8sGateway :=
  g.setListeners (g.gatewayState.listeners.map fun l => l.setRoutes ∅)

end Reconciler.K8sGateway

namespace Reconciler.Binder

variable {c : Client} {g : K8sGateway} {r r' : K8sRoute}

theorem bindable_congr {ls : List GatewayListener} (hr : r.SameBinding r')
    (hls : List.Forall₂ GatewayListener.SameListener g.gatewayState.listeners ls) :
    Bindable c (g.setListeners ls) r' ↔ Bindable c g r := by
  have href : routeReferencesGateway r' (g.setListeners ls) = routeReferencesGateway r g :=
    routeReferencesGateway_congr (g := g) hr
  unfold Bindable
  rw [href, hr.parentRefs]
  exact imp_congr_right fun _ => forall₂_congr fun ref _ => verdicts_congr hr hls ref

/-- Binding the route to the gateway with emptied listeners puts it on listener
`i`. -/
def WouldBind (c : Client) (orders : Orders) (g : K8sGateway) (r : K8sRoute) (i : ℕ) : Prop :=
  ∃ g' r' modified l, bind c orders g.emptied r = some (g', r', modified) ∧
    g'.gatewayState.listeners[i]? = some l ∧ r.id ∈ l.state.routes

theorem emptied_sameListener (g : K8sGateway) :
    List.Forall₂ GatewayListener.SameListener g.gatewayState.listeners
      (g.gatewayState.listeners.map fun l => l.setRoutes ∅) := by
  rw [List.forall₂_map_right_iff, List.forall₂_same]
  exact fun l _ => GatewayListener.sameListener_setRoutes l ∅

theorem wouldBind_iff {orders : Orders} {i : ℕ} {l : GatewayListener} (hb : Bindable c g r)
    (hl : g.gatewayState.listeners[i]? = some l) :
    WouldBind c orders g r i ↔ Attaches c g r l := by
  have hsome : (bind c orders g.emptied r).isSome :=
    bind_isSome_iff.mpr ((bindable_congr (.refl r) (emptied_sameListener g)).mpr hb)
  obtain ⟨⟨g', r', modified⟩, hbind⟩ := Option.isSome_iff_exists.mp hsome
  obtain ⟨ls, rfl, hls⟩ := (bind_rebinds hbind).gateway
  have hi : g.emptied.gatewayState.listeners[i]? = some (l.setRoutes ∅) := by
    simp [K8sGateway.emptied, K8sGateway.setListeners, hl]
  obtain ⟨l', hl', hatt⟩ := hls.getElem?_right hi
  -- the emptied listener takes what the listener takes
  have hself : r.id ∈ l'.state.routes ↔ Attaches c g r l :=
    hatt.self.trans (attaches_congr (.refl r) (GatewayListener.sameListener_setRoutes l ∅))
  constructor
  · rintro ⟨g₁, r₁, m₁, l₁, h₁, hl₁, hmem⟩
    cases hbind.symm.trans h₁
    cases hl'.symm.trans hl₁
    exact hself.mp hmem
  · intro h
    exact ⟨_, r', modified, l', hbind, hl', hself.mpr h⟩

end Reconciler.Binder

namespace Store

open Binder

variable {c : Client} {M : Marshaler} {s s' : Store} {v : Visit}

/-- The stores hold the same routes, as far as binding is concerned. -/
def SameRoutes (s s' : Store) : Prop :=
  ∀ k, Option.Rel K8sRoute.SameBinding (s.routes.lookup k) (s'.routes.lookup k)

theorem SameRoutes.refl (s : Store) : SameRoutes s s := fun k => by
  cases s.routes.lookup k with
  | none => exact .none
  | some r => exact .some (.refl r)

theorem SameRoutes.exists_iff (h : SameRoutes s s') {Q : K8sRoute → Prop}
    (hQ : ∀ r r', r.SameBinding r' → (Q r' ↔ Q r)) (k : String) :
    (∃ r, s'.routes.lookup k = some r ∧ Q r) ↔ ∃ r, s.routes.lookup k = some r ∧ Q r := by
  have hk := h k
  generalize s.routes.lookup k = o at hk
  generalize s'.routes.lookup k = o' at hk
  cases hk with
  | none => simp
  | some hsame => simp [hQ _ _ hsame]

theorem SameRoutes.of_some (h : SameRoutes s s') {k : String} {r' : K8sRoute}
    (hr' : s'.routes.lookup k = some r') :
    ∃ r, s.routes.lookup k = some r ∧ r.SameBinding r' := by
  have hk := h k
  rw [hr'] at hk
  generalize s.routes.lookup k = o at hk
  cases hk with
  | some hsame => exact ⟨_, rfl, hsame⟩

/-! ### The invariant -/

/-- The listeners of a gateway hold exactly the stored routes they take. -/
structure BoundTo (c : Client) (s : Store) (g : K8sGateway) : Prop where
  bindable : ∀ {k r}, s.routes.lookup k = some r → Bindable c g r
  routes_iff : ∀ {l k}, l ∈ g.gatewayState.listeners →
    (k ∈ l.state.routes ↔ ∃ r, s.routes.lookup k = some r ∧ Attaches c g r l)

/-- **The invariant** of the store. -/
structure Bound (c : Client) (s : Store) : Prop extends Keyed s where
  boundTo : ∀ {gid g}, s.gateways.lookup gid = some g → BoundTo c s g

theorem bound_new : Bound c Store.new where
  gateways h := by simp [Store.new] at h
  routes h := by simp [Store.new] at h
  boundTo h := by simp [Store.new] at h

/-- Routes that bind alike make no difference to a gateway. -/
theorem BoundTo.of_sameRoutes {g : K8sGateway} (hb : BoundTo c s g) (hr : SameRoutes s s') :
    BoundTo c s' g where
  bindable {k r'} h := by
    obtain ⟨r, hlook, hsame⟩ := hr.of_some h
    exact (bindable_congr hsame (GatewayListener.sameListeners _)).mpr (hb.bindable hlook)
  routes_iff {l k} hl := by
    rw [hb.routes_iff hl]
    exact (hr.exists_iff (fun r r' hsame => attaches_route_congr hsame) k).symm

/-- A gateway on which one route was bound anew, `Q` saying where. -/
theorem BoundTo.rebound {g : K8sGateway} {id : String} {Q : GatewayListener → Prop}
    {ls : List GatewayListener} (hb : BoundTo c s g)
    (hatt : List.Forall₂ (fun l l' => Attached id (Q l) l l') g.gatewayState.listeners ls)
    (hother : ∀ k, k ≠ id → s'.routes.lookup k = s.routes.lookup k)
    (hself : ∀ l, (∃ r, s'.routes.lookup id = some r ∧ Attaches c g r l) ↔ Q l)
    (hbind : ∀ r, s'.routes.lookup id = some r → Bindable c g r) :
    BoundTo c s' (g.setListeners ls) where
  bindable {k r} h := by
    rw [bindable_congr (.refl r) (hatt.imp fun _ _ ha => ha.same)]
    by_cases hk : k = id
    · exact hbind r (hk ▸ h)
    · exact hb.bindable (hother k hk ▸ h)
  routes_iff {l' k} hl' := by
    obtain ⟨l, hl, ha⟩ := hatt.exists_left hl'
    have hcongr : ∀ r, Attaches c (g.setListeners ls) r l' ↔ Attaches c g r l := fun r =>
      attaches_congr (.refl r) ha.same
    simp only [hcongr]
    by_cases hk : k = id
    · rw [hk, ha.self, hself]
    · rw [hother k hk, ← hb.routes_iff hl, ← Finmap.lookup_isSome, ← Finmap.lookup_isSome,
        ha.other k hk]

/-! ### The operations -/

/-- The routes that come back from one gateway bind as they did. -/
theorem sameRoutes_bindRoutes {P : K8sGateway → K8sRoute → GatewayListener → Prop}
    {f : BindUnbindFunc} {g : K8sGateway} {gs' : List (K8sGateway × Bool)}
    {rs' : List (K8sRoute × Bool)} (hf : IsBinder P f) (hs : s.Keyed) (hv : v.Of s)
    (h : bindOrUnbindAll f [g] (unmarked (listRoutes M v)) = some (gs', rs'))
    (hs' : s'.routes = GoMap.writeBack K8sRoute.id s.routes rs') : SameRoutes s s' := by
  intro k
  rw [hs']
  exact bindRoutes_rel .refl (fun {r _} hr => (M.sameBinding r).trans hr.sameBinding) hf hs hv h k

private theorem Keyed.routes_of_sameRoutes (hs : s.Keyed) (hr : SameRoutes s s') {k : String}
    {r' : K8sRoute} (h : s'.routes.lookup k = some r') : r'.id = k := by
  obtain ⟨r, hlook, hsame⟩ := hr.of_some h
  rw [hsame.id_eq]
  exact hs.routes hlook

theorem sameRoutes_upsertGateway {g : K8sGateway} {cond : Option (Option K8sGateway → Bool)}
    (hs : s.Keyed) (hv : v.Of s) (h : upsertGateway c M v s g cond = some s') :
    SameRoutes s s' := by
  rcases upsertGateway_cases hs hv h with ⟨-, rfl⟩ | ⟨-, ls, m, rs', hbind, -, hrs, -⟩
  · exact .refl _
  · exact sameRoutes_bindRoutes (isBinder_bind c v.orders) hs hv hbind hrs

theorem Keyed.upsertGateway {g : K8sGateway} {cond : Option (Option K8sGateway → Bool)}
    (hs : s.Keyed) (hv : v.Of s) (h : Store.upsertGateway c M v s g cond = some s') :
    s'.Keyed := by
  refine ⟨fun {gid g'} hlook => ?_,
    hs.routes_of_sameRoutes (sameRoutes_upsertGateway hs hv h)⟩
  rcases upsertGateway_cases hs hv h with ⟨-, rfl⟩ | ⟨-, ls, m, rs', -, hgs, -, -⟩
  · exact hs.gateways hlook
  rw [hgs, GoMap.lookup_insert_ite] at hlook
  split at hlook
  · next heq => cases hlook; exact heq.symm
  · exact hs.gateways hlook

theorem bound_upsertGateway {g : K8sGateway} {cond : Option (Option K8sGateway → Bool)}
    (hb : Bound c s) (hv : v.Of s) (hg : ∀ l ∈ g.gatewayState.listeners, l.state.routes = ∅)
    (h : upsertGateway c M v s g cond = some s') : Bound c s' := by
  have hr := sameRoutes_upsertGateway hb.toKeyed hv h
  refine ⟨hb.toKeyed.upsertGateway hv h, fun {gid g'} hlook => ?_⟩
  rcases upsertGateway_cases hb.toKeyed hv h with
    ⟨-, rfl⟩ | ⟨-, ls, m, rs', hbind, hgs, -, hls⟩
  · exact hb.boundTo hlook
  have hf := isBinder_bind c v.orders
  -- the new gateway has been tried on every stored route
  have hnew : BoundTo c s (g.setListeners ls) := by
    refine ⟨fun {k r} hlook => ?_, fun {l' k} hl' => ?_⟩
    · obtain ⟨ids, g₁, g₂, r₁, m₁, -, ⟨ls₁, rfl, hls₁⟩, hb₁, -⟩ :=
        (bindRoutes_routes hf hb.toKeyed hv hbind k).1 r hlook
      have hsome : Bindable c (g.setListeners ls₁) (M.reloadRoute r) :=
        bind_isSome_iff.mp (Option.isSome_of_eq_some hb₁)
      rw [bindable_congr (M.sameBinding r) (hls₁.imp fun _ _ hl => hl.1)] at hsome
      exact (bindable_congr (.refl r) (hls.imp fun _ _ hl => hl.1)).mpr hsome
    · obtain ⟨l, hl, hsame, hk⟩ := hls.exists_left hl'
      have hcongr : ∀ r, Attaches c (g.setListeners ls) r l' ↔ Attaches c g r l := fun r =>
        attaches_congr (.refl r) hsame
      have hnone : ¬ (s.routes.lookup k = none ∧ k ∈ l.state.routes) := by
        rw [hg l hl]
        exact fun hmem => Finmap.notMem_empty hmem.2
      rw [hk, or_iff_left hnone]
      simp only [hcongr]
  rw [hgs, GoMap.lookup_insert_ite] at hlook
  split at hlook
  · cases hlook; exact hnew.of_sameRoutes hr
  · exact (hb.boundTo hlook).of_sameRoutes hr

/-- A gateway that is stored after a deletion was stored before it. -/
theorem deleteGateway_of_some {id gid : Core.GatewayID} {clearErr : Err} {g : K8sGateway}
    (h : deleteGateway M v s id clearErr = some s') (hlook : s'.gateways.lookup gid = some g) :
    s.gateways.lookup gid = some g := by
  rcases deleteGateway_cases h with ⟨-, rfl⟩ | ⟨-, g, gs', rs', -, -, hgs, -⟩
  · exact hlook
  rw [hgs, GoMap.lookup_erase_ite] at hlook
  split at hlook
  · cases hlook
  · exact hlook

theorem sameRoutes_deleteGateway {id : Core.GatewayID} {clearErr : Err} (hs : s.Keyed)
    (hv : v.Of s) (h : deleteGateway M v s id clearErr = some s') : SameRoutes s s' := by
  rcases deleteGateway_cases h with ⟨-, rfl⟩ | ⟨-, g, gs', rs', -, hbind, -, hrs⟩
  · exact .refl _
  · exact sameRoutes_bindRoutes isBinder_unbind hs hv hbind hrs

theorem Keyed.deleteGateway {id : Core.GatewayID} {clearErr : Err} (hs : s.Keyed) (hv : v.Of s)
    (h : Store.deleteGateway M v s id clearErr = some s') : s'.Keyed :=
  ⟨fun hlook => hs.gateways (deleteGateway_of_some h hlook),
    hs.routes_of_sameRoutes (sameRoutes_deleteGateway hs hv h)⟩

theorem bound_deleteGateway {id : Core.GatewayID} {clearErr : Err} (hb : Bound c s) (hv : v.Of s)
    (h : deleteGateway M v s id clearErr = some s') : Bound c s' :=
  ⟨hb.toKeyed.deleteGateway hv h, fun hlook =>
    (hb.boundTo (deleteGateway_of_some h hlook)).of_sameRoutes
      (sameRoutes_deleteGateway hb.toKeyed hv h)⟩

section OneRoute

variable {P : K8sGateway → K8sRoute → GatewayListener → Prop} {f : BindUnbindFunc} {r : K8sRoute}
  {m : Bool} {gs' : List (K8sGateway × Bool)} {rs' : List (K8sRoute × Bool)}
  {gid : Core.GatewayID} {g' : K8sGateway}

/-- Where a stored gateway comes from when all of them are tried on one route. -/
theorem exists_of_bindGateways (hf : IsBinder P f) (hs : s.Keyed) (hv : v.Of s)
    (h : bindOrUnbindAll f (listGateways v) [(r, m)] = some (gs', rs'))
    (hs' : s'.gateways = GoMap.writeBack K8sGateway.id s.gateways gs')
    (hlook : s'.gateways.lookup gid = some g') :
    ∃ g r₀ r₁ b, s.gateways.lookup gid = some g ∧ r.SameBinding r₀ ∧
      f g r₀ = some (g', r₁, b) := by
  obtain ⟨hsome, hnone⟩ := bindGateways_gateways hf hs hv h gid
  rw [hs'] at hlook
  cases hg : s.gateways.lookup gid with
  | none => rw [hnone hg] at hlook; cases hlook
  | some g =>
    obtain ⟨g₁, r₀, r₁, b, hsame, hbind, hlook'⟩ := hsome g hg
    cases hlook'.symm.trans hlook
    exact ⟨g, r₀, r₁, b, rfl, hsame, hbind⟩

theorem bindGateways_of_some (hf : IsBinder P f) (hs : s.Keyed) (hv : v.Of s)
    (h : bindOrUnbindAll f (listGateways v) [(r, m)] = some (gs', rs'))
    (hs' : s'.gateways = GoMap.writeBack K8sGateway.id s.gateways gs')
    (hlook : s'.gateways.lookup gid = some g') :
    ∃ g ls r₀, s.gateways.lookup gid = some g ∧ g' = g.setListeners ls ∧ r.SameBinding r₀ ∧
      (f g r₀).isSome ∧ List.Forall₂ (fun l l' => Attached r.id (P g r l) l l')
        g.gatewayState.listeners ls := by
  obtain ⟨g, r₀, r₁, b, hg, hsame, hbind⟩ := exists_of_bindGateways hf hs hv h hs' hlook
  obtain ⟨⟨ls, rfl, hls⟩, -⟩ := hf.attached hsame hbind
  exact ⟨g, ls, r₀, hg, rfl, hsame, Option.isSome_of_eq_some hbind, hls⟩

end OneRoute

/-- An operation on a route leaves of every gateway all but what is bound to it. -/
theorem upsertRoute_of_some {r : K8sRoute} {cond : Option (Option K8sRoute → Bool)}
    {gid : Core.GatewayID} {g' : K8sGateway} (hs : s.Keyed) (hv : v.Of s)
    (h : upsertRoute c M v s r cond = some s') (hlook : s'.gateways.lookup gid = some g') :
    ∃ g ls, s.gateways.lookup gid = some g ∧ g' = g.setListeners ls := by
  rcases upsertRoute_cases h with ⟨-, rfl⟩ | ⟨-, gs', r', m, hbind, -, hgs, -⟩
  · exact ⟨g', g'.gatewayState.listeners, hlook, rfl⟩
  · obtain ⟨g, ls, r₀, hg, heq, -⟩ :=
      bindGateways_of_some (isBinder_bind c v.orders) hs hv hbind hgs hlook
    exact ⟨g, ls, hg, heq⟩

theorem deleteRoute_of_some {id : String} {gid : Core.GatewayID} {g' : K8sGateway}
    (hs : s.Keyed) (hv : v.Of s) (h : deleteRoute M v s id = some s')
    (hlook : s'.gateways.lookup gid = some g') :
    ∃ g ls, s.gateways.lookup gid = some g ∧ g' = g.setListeners ls := by
  rcases deleteRoute_cases h with rfl | ⟨r, gs', rs', -, hbind, hgs, -⟩
  · exact ⟨g', g'.gatewayState.listeners, hlook, rfl⟩
  · obtain ⟨g, ls, r₀, hg, heq, -⟩ :=
      bindGateways_of_some isBinder_unbind hs hv hbind hgs hlook
    exact ⟨g, ls, hg, heq⟩

theorem Keyed.upsertRoute {r : K8sRoute} {cond : Option (Option K8sRoute → Bool)}
    (hs : s.Keyed) (hv : v.Of s) (h : Store.upsertRoute c M v s r cond = some s') : s'.Keyed := by
  refine ⟨fun {gid g'} hlook => ?_, fun {k r₁} hlook => ?_⟩
  · obtain ⟨g, ls, hg, rfl⟩ := upsertRoute_of_some hs hv h hlook
    exact show g.id = gid from hs.gateways hg
  · rcases upsertRoute_cases h with ⟨-, rfl⟩ | ⟨-, gs', r', m, -, hsame, -, hrs⟩
    · exact hs.routes hlook
    rw [hrs, GoMap.lookup_insert_ite] at hlook
    split at hlook
    · next heq => cases hlook; rw [hsame.sameBinding.id_eq, heq]
    · exact hs.routes hlook

theorem Keyed.deleteRoute {id : String} (hs : s.Keyed) (hv : v.Of s)
    (h : Store.deleteRoute M v s id = some s') : s'.Keyed := by
  refine ⟨fun {gid g'} hlook => ?_, fun {k r₁} hlook => ?_⟩
  · obtain ⟨g, ls, hg, rfl⟩ := deleteRoute_of_some hs hv h hlook
    exact show g.id = gid from hs.gateways hg
  · rcases deleteRoute_cases h with rfl | ⟨r, gs', rs', -, -, -, hrs⟩
    · exact hs.routes hlook
    rw [hrs, GoMap.lookup_erase_ite] at hlook
    split at hlook
    · cases hlook
    · exact hs.routes hlook

theorem bound_upsertRoute {r : K8sRoute} {cond : Option (Option K8sRoute → Bool)}
    (hb : Bound c s) (hv : v.Of s) (h : upsertRoute c M v s r cond = some s') : Bound c s' := by
  refine ⟨hb.toKeyed.upsertRoute hv h, fun {gid g'} hlook => ?_⟩
  rcases upsertRoute_cases h with ⟨-, rfl⟩ | ⟨-, gs', r', m, hbind, hsame, hgs, hrs⟩
  · exact hb.boundTo hlook
  have hlook' : ∀ k, s'.routes.lookup k = if k = r.id then some r' else s.routes.lookup k := by
    intro k
    rw [hrs, GoMap.lookup_insert_ite]
  obtain ⟨g, ls, r₀, hg, rfl, hsame₀, hsome, hls⟩ :=
    bindGateways_of_some (isBinder_bind c v.orders) hb.toKeyed hv hbind hgs hlook
  -- only the route that arrives has been bound anew
  refine (hb.boundTo hg).rebound hls (fun k hk => by rw [hlook', if_neg hk]) (fun l => ?_)
    (fun r₁ hr₁ => ?_)
  · rw [hlook', if_pos rfl]
    simp only [Option.some.injEq, exists_eq_left']
    exact attaches_route_congr hsame.sameBinding
  · rw [hlook', if_pos rfl] at hr₁
    cases hr₁
    have hb₀ : Bindable c g r₀ := bind_isSome_iff.mp hsome
    exact (bindable_congr (hsame₀.symm.trans hsame.sameBinding)
      (GatewayListener.sameListeners _)).mpr hb₀

theorem bound_deleteRoute {id : String} (hb : Bound c s) (hv : v.Of s)
    (h : deleteRoute M v s id = some s') : Bound c s' := by
  refine ⟨hb.toKeyed.deleteRoute hv h, fun {gid g'} hlook => ?_⟩
  rcases deleteRoute_cases h with rfl | ⟨r, gs', rs', hr, hbind, hgs, hrs⟩
  · exact hb.boundTo hlook
  have hid : (M.reloadRoute r).id = id := (M.sameBinding r).id_eq.trans (hb.routes hr)
  have hlook' : ∀ k, s'.routes.lookup k = if k = id then none else s.routes.lookup k := by
    intro k
    rw [hrs, GoMap.lookup_erase_ite]
  obtain ⟨g, ls, r₀, hg, rfl, -, -, hls⟩ :=
    bindGateways_of_some isBinder_unbind hb.toKeyed hv hbind hgs hlook
  rw [hid] at hls
  refine (hb.boundTo hg).rebound hls (fun k hk => by rw [hlook', if_neg hk]) (fun l => ?_)
    (fun r₁ hr₁ => ?_)
  · simp [hlook']
  · rw [hlook', if_pos rfl] at hr₁
    cases hr₁

theorem bound_step {e : Event} (hb : Bound c s) (h : Step c M s e s') : Bound c s' := by
  obtain ⟨hv, harr, hexec⟩ := h
  obtain ⟨op, v⟩ := e
  cases op with
  | upsertGateway g cond => exact bound_upsertGateway hb hv harr hexec
  | deleteGateway id clearErr => exact bound_deleteGateway hb hv hexec
  | upsertRoute r cond => exact bound_upsertRoute hb hv hexec
  | deleteRoute id => exact bound_deleteRoute hb hv hexec

theorem bound_of_reachable (h : Reachable (Step c M) Store.new s) : Bound c s :=
  h.invariant bound_new bound_step

/-! ### Every reachable store -/

/-- **The bindings of a reachable store** are those that binding its routes
afresh gives, and so the history of the store makes no difference to them: two
reachable stores with the same routes agree on every gateway they share. -/
theorem listener_routes_iff_bind (h : Reachable (Step c M) Store.new s) :
    (∀ gid g (i : ℕ) (l : GatewayListener) (id : String) (orders : Orders),
      s.gateways.lookup gid = some g → g.gatewayState.listeners[i]? = some l →
      (id ∈ l.state.routes ↔ ∃ r, s.routes.lookup id = some r ∧ r.id = id ∧
        WouldBind c orders g (M.reloadRoute r) i)) ∧
    ∀ s', Reachable (Step c M) Store.new s' → SameRoutes s s' →
      ∀ gid g g' (i : ℕ) (l l' : GatewayListener) (id : String),
        s.gateways.lookup gid = some g → s'.gateways.lookup gid = some g' →
        g.emptied = g'.emptied → g.gatewayState.listeners[i]? = some l →
        g'.gatewayState.listeners[i]? = some l' → (id ∈ l.state.routes ↔ id ∈ l'.state.routes) := by
  have hb := bound_of_reachable h
  constructor
  · intro gid g i l id orders hg hl
    rw [(hb.boundTo hg).routes_iff (List.mem_of_getElem? hl)]
    refine exists_congr fun r => and_congr_right fun hr => ?_
    have hbindable : Bindable c g (M.reloadRoute r) :=
      (bindable_congr (M.sameBinding r) (GatewayListener.sameListeners _)).mpr
        ((hb.boundTo hg).bindable hr)
    rw [wouldBind_iff hbindable hl, and_iff_right (hb.routes hr)]
    exact (attaches_route_congr (M.sameBinding r)).symm
  · intro s' h' hr gid g g' i l l' id hg hg' heq hl hl'
    have hb' := bound_of_reachable h'
    rw [(hb.boundTo hg).routes_iff (List.mem_of_getElem? hl),
      (hb'.boundTo hg').routes_iff (List.mem_of_getElem? hl')]
    -- both gateways take what the emptied one takes
    have hempty : ∀ r, Attaches c g r l ↔ Attaches c g' r l' := by
      intro r
      have h₁ : Attaches c g.emptied r (l.setRoutes ∅) ↔ Attaches c g r l :=
        attaches_congr (.refl r) (GatewayListener.sameListener_setRoutes l ∅)
      have h₂ : Attaches c g'.emptied r (l'.setRoutes ∅) ↔ Attaches c g' r l' :=
        attaches_congr (.refl r) (GatewayListener.sameListener_setRoutes l' ∅)
      have hll : l.setRoutes ∅ = l'.setRoutes ∅ := by
        have := congrArg (fun g : K8sGateway => g.gatewayState.listeners[i]?) heq
        simpa [K8sGateway.emptied, K8sGateway.setListeners, hl, hl'] using this
      rw [← h₁, ← h₂, heq, hll]
    rw [exists_congr fun r => and_congr_right fun _ => hempty r]
    exact (hr.exists_iff (fun r r' hsame => attaches_route_congr hsame) id).symm

/-! ### A store with one gateway and one route -/

namespace Sample

open SampleCluster (client)

/-- Marshalling that loses nothing. -/
def marshaler : Marshaler := ⟨fun r => r, .refl, fun _ => rfl⟩

def gateway : K8sGateway where
  gateway := { namespace_ := "web", name := "gateway", groupKind := ⟨K8s.groupName, "Gateway"⟩ }
  gatewayState :=
    { listeners := [⟨{ name := "http", port := 80, protocol := .http },
        { name := "http", protocol := .http }⟩] }

def parentRef : K8s.ParentReference := { name := "gateway" }

/-- A route that names the gateway. -/
def route : K8sRoute where
  object := { namespace_ := "web", name := "route", groupKind := ⟨K8s.groupName, "HTTPRoute"⟩ }
  parentRefs := [parentRef]
  body := .http [] []

def orders : Core.GatewayID → String → Orders := fun _ _ _ _ => .listed

/-- The gateway arrives first. -/
def gatewayArrives : Event := ⟨.upsertGateway gateway none, ⟨[], [], orders⟩⟩

def withGateway : Store := ⟨(∅ : GoMap _ _).insert gateway.id gateway, ∅⟩

def routeArrives : Event := ⟨.upsertRoute route none, ⟨[(gateway.id, gateway)], [], orders⟩⟩

/-- The gateway once it serves the route. -/
def servingGateway : K8sGateway :=
  gateway.setListeners (gateway.gatewayState.listeners.map fun l =>
    l.setRoutes ((∅ : GoMap _ _).insert route.id (route.resolve .listed "" gateway.gateway l.spec)))

def withRoute : Store :=
  ⟨(∅ : GoMap _ _).insert gateway.id servingGateway,
    (∅ : GoMap _ _).insert route.id (route.bound parentRef)⟩

theorem gatewayArrives_step : Step client marshaler Store.new gatewayArrives withGateway :=
  ⟨⟨GoMap.ranges_empty, GoMap.ranges_empty⟩, by simp [Op.Arrives, gatewayArrives, gateway], rfl⟩

theorem routeArrives_step : Step client marshaler withGateway routeArrives withRoute :=
  ⟨⟨GoMap.ranges_singleton _ _, GoMap.ranges_empty⟩, trivial, rfl⟩

end Sample

/-- The route of the sample is on its listener, and so binding it afresh puts it
there. -/
theorem sample_route_wouldBind :
    Reachable (Step SampleCluster.client Sample.marshaler) Store.new Sample.withRoute ∧
      ∃ r, Sample.withRoute.routes.lookup Sample.route.id = some r ∧ r.id = Sample.route.id ∧
        WouldBind SampleCluster.client (fun _ _ => .listed) Sample.servingGateway r 0 := by
  have hreach : Reachable (Step SampleCluster.client Sample.marshaler) Store.new Sample.withRoute :=
    (Relation.ReflTransGen.single ⟨_, Sample.gatewayArrives_step⟩).tail
      ⟨_, Sample.routeArrives_step⟩
  refine ⟨hreach, ((listener_routes_iff_bind hreach).1 Sample.gateway.id Sample.servingGateway 0 _
    Sample.route.id (fun _ _ => .listed) rfl rfl).mp ?_⟩
  exact Finmap.mem_insert.mpr (.inl rfl)

end Store
