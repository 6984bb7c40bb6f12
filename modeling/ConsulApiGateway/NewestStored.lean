/-
The store keeps the newest version of every object.

The manager upserts a Gateway or a route on condition that no newer version is
stored.  In between the object is written again and again: a route by every gateway
that binds it, and a gateway by every route that is bound to it.  What is written
then is a copy of what is stored.

* `copies_bindRoutes` — binding writes of a route nothing but its statuses;
* `takes_route`, `takes_gateway` — what one request does to a stored route and to a
  stored gateway;
* `newest_stored` — after every part of a run the store holds the newest version that
  was delivered, the whole object of it.
-/
import ConsulApiGateway.Newest
import ConsulApiGateway.RouteManager

namespace Reconciler

open K8s

/-! ### Versions -/

/-- The version is a number that fits an `int`. -/
def Numeric (version : String) : Prop := (GoStd.atoi version).isSome

instance (version : String) : Decidable (Numeric version) :=
  inferInstanceAs (Decidable ((GoStd.atoi version).isSome = true))

/-- The number of a numeric version. -/
def versionNumber (version : String) : ℤ := (GoStd.atoi version).getD 0

theorem resourceVersionGreater_iff {a b : String} (ha : Numeric a) (hb : Numeric b) :
    resourceVersionGreater a b = true ↔ versionNumber b < versionNumber a := by
  obtain ⟨aVal, ha⟩ := Option.isSome_iff_exists.1 ha
  obtain ⟨bVal, hb⟩ := Option.isSome_iff_exists.1 hb
  simp [resourceVersionGreater, versionNumber, ha, hb]

def K8sRoute.version (r : K8sRoute) : ℤ := versionNumber r.object.resourceVersion

def K8sGateway.version (g : K8sGateway) : ℤ := versionNumber g.gateway.resourceVersion

theorem copies_gateways : Copies K8sGateway.version K8sGateway.SameGateway where
  refl g := ⟨g.gatewayState.listeners, rfl, GatewayListener.sameListeners _⟩
  trans := by
    rintro g _ _ ⟨ls, rfl, hls⟩ ⟨ls', rfl, hls'⟩
    exact ⟨ls', rfl, hls.comp (fun _ _ _ h h' => h.trans h') hls'⟩
  version_eq := by
    rintro g _ ⟨ls, rfl, -⟩
    rfl

/-! ### What is written of a route -/

/-- The routes that are copies of each other, in a sense that what the store does to a
route respects: reading it back and recording statuses. -/
structure RouteCopies (M : Marshaler) (Same : K8sRoute → K8sRoute → Prop) : Prop
    extends Copies K8sRoute.version Same where
  object : ∀ {r r'}, Same r r' → r'.object = r.object
  reload : ∀ r, Same r (M.reloadRoute r)
  statuses : ∀ {r r'}, K8sRoute.SameButStatuses r r' → Same r r'

theorem routeCopies_sameBinding (M : Marshaler) : RouteCopies M K8sRoute.SameBinding where
  refl := .refl
  trans h h' := h.trans h'
  version_eq h := by rw [K8sRoute.version, h.object, K8sRoute.version]
  object h := h.object
  reload := M.sameBinding
  statuses h := h.sameBinding

theorem routeCopies_sameObject {M : Marshaler} (hM : M.KeepsObjects) :
    RouteCopies M K8sRoute.SameObject where
  refl r := ⟨.refl r, rfl⟩
  trans h h' := ⟨h.toSameBinding.trans h'.toSameBinding, h'.spec.trans h.spec⟩
  version_eq h := (routeCopies_sameBinding M).version_eq h.toSameBinding
  object h := h.object
  reload r := ⟨M.sameBinding r, hM r⟩
  statuses := by
    rintro r _ ⟨statuses, rfl⟩
    exact ⟨K8sRoute.SameButStatuses.sameBinding ⟨statuses, rfl⟩, rfl⟩

end Reconciler

namespace Store

open Reconciler

variable {c : Client} {M : Marshaler} {v : Visit} {s s' : Store}
  {Same : K8sRoute → K8sRoute → Prop} {f : BindUnbindFunc}
  {P : K8sGateway → K8sRoute → GatewayListener → Prop}

/-- The routes that come back from one gateway are copies. -/
theorem copies_bindRoutes (hS : RouteCopies M Same) (hf : IsBinder P f) {g : K8sGateway}
    {gs' : List (K8sGateway × Bool)} {rs' : List (K8sRoute × Bool)} (hs : s.Keyed) (hv : v.Of s)
    (h : bindOrUnbindAll f [g] (unmarked (listRoutes M v)) = some (gs', rs'))
    (hs' : s'.routes = GoMap.writeBack K8sRoute.id s.routes rs') (k : String) :
    Option.Rel Same (s.routes.lookup k) (s'.routes.lookup k) := by
  rw [hs']
  exact bindRoutes_rel hS.refl (fun {r _} hr => hS.trans (hS.reload r) (hS.statuses hr))
    hf hs hv h k

theorem copies_upsertGateway (hS : RouteCopies M Same) {g : K8sGateway}
    {cond : Option (Option K8sGateway → Bool)} (hs : s.Keyed) (hv : v.Of s)
    (h : upsertGateway c M v s g cond = some s') (k : String) :
    Option.Rel Same (s.routes.lookup k) (s'.routes.lookup k) := by
  rcases upsertGateway_cases hs hv h with ⟨-, rfl⟩ | ⟨-, ls, m, rs', hbind, -, hrs, -⟩
  · exact (hS.unchanged _).rel_of_none
  · exact copies_bindRoutes hS (isBinder_bind c v.orders) hs hv hbind hrs k

theorem copies_deleteGateway (hS : RouteCopies M Same) {id : Core.GatewayID} {clearErr : Err}
    (hs : s.Keyed) (hv : v.Of s) (h : deleteGateway M v s id clearErr = some s') (k : String) :
    Option.Rel Same (s.routes.lookup k) (s'.routes.lookup k) := by
  rcases deleteGateway_cases h with ⟨-, rfl⟩ | ⟨-, g, gs', rs', -, hbind, -, hrs⟩
  · exact (hS.unchanged _).rel_of_none
  · exact copies_bindRoutes hS isBinder_unbind hs hv hbind hrs k

end Store

namespace Reconciler

open K8s

namespace GatewayReconcileManager

variable {config : ConsulNamespaceConfig} {M : Marshaler} {v : Store.Visit}
  {m m' : GatewayReconcileManager} {op : Op} {id : String} {gid : Core.GatewayID}
  {Same : K8sRoute → K8sRoute → Prop}

/-! ### Routes -/

/-- The route that an operation delivers under an ID. -/
def Op.route (id : String) : Op → Option K8sRoute
  | .upsertRoute route _ _ => if route.id = id then some route else none
  | _ => none

/-- A stored route that is numbered gives way exactly to one that is not older. -/
theorem routeUpdateCondition_iff {route current : K8sRoute}
    (hc : Numeric current.object.resourceVersion) (hr : Numeric route.object.resourceVersion) :
    routeUpdateCondition route (some current) = true ↔ current.version ≤ route.version := by
  simp only [routeUpdateCondition, Bool.not_eq_true', ← not_lt, ← Bool.not_eq_true]
  exact not_congr (resourceVersionGreater_iff hc hr)

/-- A route that is delivered to the store. -/
theorem takes_own_route (hS : RouteCopies M Same) {c : Client} {s s' : Store} {route : K8sRoute}
    (hnum : ∀ r, s.routes.lookup route.id = some r → Numeric r.object.resourceVersion)
    (hnew : Numeric route.object.resourceVersion)
    (h : Store.upsertRoute c M v s route (some (routeUpdateCondition route)) = some s') :
    Takes K8sRoute.version Same (some route) (s.routes.lookup route.id)
      (s'.routes.lookup route.id) := by
  have hcases := Store.upsertRoute_cases h
  simp only [Option.any_some, Bool.not_eq_true', Bool.not_eq_false'] at hcases
  refine Takes.of_condition (routeUpdateCondition route (s.getRoute M route.id)) ?_ ?_ ?_ ?_
  · intro hnone
    rw [Store.getRoute, hnone]
    rfl
  · -- the condition reads a copy of the stored route, which has its version
    intro r hr
    have hobject : (M.reloadRoute r).object = r.object := (M.sameBinding r).object
    have hversion : (M.reloadRoute r).version = r.version := by
      rw [K8sRoute.version, hobject, K8sRoute.version]
    rw [Store.getRoute, hr, Option.map_some, ← hversion]
    exact routeUpdateCondition_iff (hobject ▸ hnum r hr) hnew
  · intro hskip
    rcases hcases with ⟨-, rfl⟩ | ⟨hwrite, -⟩
    · rfl
    · cases hskip.symm.trans hwrite
  · intro hwrite
    rcases hcases with ⟨hskip, -⟩ | ⟨-, gs', r', _, -, hstatuses, -, hrs⟩
    · cases hskip.symm.trans hwrite
    · exact ⟨r', by rw [hrs, GoMap.lookup_insert_ite, if_pos rfl], hS.statuses hstatuses⟩

theorem takes_route (hS : RouteCopies M Same) (hm : Consistent config m)
    (hnum : ∀ r, m.store.routes.lookup id = some r → Numeric r.object.resourceVersion)
    (hop : op.Managed) (hdel : op ≠ .deleteRoute id)
    (hnew : ∀ r, op.route id = some r → Numeric r.object.resourceVersion)
    (h : Step config M m ⟨op, v⟩ m') :
    Takes K8sRoute.version Same (op.route id) (m.store.routes.lookup id)
      (m'.store.routes.lookup id) := by
  obtain ⟨hv, hexec⟩ := h
  cases op with
  | upsertGateway g a c =>
    obtain ⟨⟨m₁, err⟩, hup, rfl⟩ := Option.map_eq_some_iff.1 hexec
    rcases (upsertGateway_cases hup).1 with ⟨hsame, -⟩ | ⟨gateway, -, hstore⟩
    · rw [hsame]
      exact hS.unchanged _
    · exact .keep (Store.copies_upsertGateway hS hm.toKeyed hv hstore id)
  | deleteGateway name clearErr statusErr =>
    obtain ⟨⟨m₁, err⟩, hdelete, rfl⟩ := Option.map_eq_some_iff.1 hexec
    exact .keep (Store.copies_deleteGateway hS hm.toKeyed hv (deleteGateway_cases hdelete).1 id)
  | upsertRoute route cond c =>
    obtain ⟨store, hstore, rfl⟩ := Option.map_eq_some_iff.1 hexec
    obtain rfl : cond = some (routeUpdateCondition route) := hop
    by_cases hid : route.id = id
    · -- the route itself: it is dropped, or written whatever is stored
      subst hid
      have hroute : (Op.upsertRoute route (some (routeUpdateCondition route)) c).route route.id =
          some route := if_pos rfl
      rw [hroute]
      exact takes_own_route hS hnum (hnew route hroute) hstore
    · have hroute : (Op.upsertRoute route (some (routeUpdateCondition route)) c).route id = none :=
        if_neg hid
      rw [hroute]
      rcases Store.upsertRoute_cases hstore with ⟨-, rfl⟩ | ⟨-, gs', r', _, -, -, -, hrs⟩
      · exact hS.unchanged _
      · rw [hrs, GoMap.lookup_insert_ite, if_neg (Ne.symm hid)]
        exact hS.unchanged _
  | deleteRoute id' =>
    obtain ⟨store, hstore, rfl⟩ := Option.map_eq_some_iff.1 hexec
    rcases Store.deleteRoute_cases hstore with rfl | ⟨r, gs', rs', -, -, -, hrs⟩
    · exact hS.unchanged _
    · have hne : id ≠ id' := fun heq => hdel (heq ▸ rfl)
      rw [hrs, GoMap.lookup_erase_ite, if_neg hne]
      exact hS.unchanged _

/-! ### Gateways -/

/-- The gateway that an operation delivers under an ID: one that is validated. -/
def Op.gateway (mapper : String → String) (gid : Core.GatewayID) : Op → Option K8sGateway
  | .upsertGateway g a _ =>
    match prepareGateway mapper a g with
    | .validated gateway => if gateway.id = gid then some gateway else none
    | _ => none
  | _ => none

/-- The operation deletes the gateway with an ID, unless clearing it in Consul fails. -/
def Op.DeletesGateway (m : GatewayReconcileManager) (gid : Core.GatewayID) : Op → Prop
  | .deleteGateway name clearErr _ => clearErr = none ∧ m.deletedID name = gid
  | _ => False

theorem updateCondition_iff {gateway current : K8sGateway}
    (hc : Numeric current.gateway.resourceVersion) (hg : Numeric gateway.gateway.resourceVersion) :
    updateCondition gateway (some current) = true ↔ current.version ≤ gateway.version := by
  simp only [updateCondition, Bool.not_eq_true', ← not_lt, ← Bool.not_eq_true]
  exact not_congr (resourceVersionGreater_iff hc hg)

/-- A gateway that is delivered to the store. -/
theorem takes_own_gateway {c : Client} {s s' : Store} {gateway : K8sGateway} (hs : s.Keyed)
    (hv : v.Of s)
    (hnum : ∀ g, s.gateways.lookup gateway.id = some g → Numeric g.gateway.resourceVersion)
    (hnew : Numeric gateway.gateway.resourceVersion)
    (h : Store.upsertGateway c M v s gateway (some (updateCondition gateway)) = some s') :
    Takes K8sGateway.version K8sGateway.SameGateway (some gateway) (s.gateways.lookup gateway.id)
      (s'.gateways.lookup gateway.id) := by
  have hcases := Store.upsertGateway_cases hs hv h
  simp only [Option.any_some, Bool.not_eq_true', Bool.not_eq_false'] at hcases
  refine Takes.of_condition (updateCondition gateway (s.getGateway gateway.id)) ?_ ?_ ?_ ?_
  · intro hnone
    rw [Store.getGateway, hnone]
    rfl
  · intro g hg
    rw [Store.getGateway, hg]
    exact updateCondition_iff (hnum g hg) hnew
  · intro hskip
    rcases hcases with ⟨-, rfl⟩ | ⟨hwrite, -⟩
    · rfl
    · cases hskip.symm.trans hwrite
  · intro hwrite
    rcases hcases with ⟨hskip, -⟩ | ⟨-, ls, _, _, -, hgs, -, hls⟩
    · cases hskip.symm.trans hwrite
    · refine ⟨gateway.setListeners ls, ?_, ls, rfl, hls.imp fun _ _ hl => hl.1⟩
      rw [hgs, GoMap.lookup_insert_ite, if_pos rfl]

/-- An operation on a route writes copies of the gateways. -/
theorem takes_bindGateways {P : K8sGateway → K8sRoute → GatewayListener → Prop}
    {f : Store.BindUnbindFunc} {s s' : Store} {r : K8sRoute} {b : Bool}
    {gs' : List (K8sGateway × Bool)} {rs' : List (K8sRoute × Bool)} (hf : Store.IsBinder P f)
    (hs : s.Keyed) (hv : v.Of s)
    (h : Store.bindOrUnbindAll f (Store.listGateways v) [(r, b)] = some (gs', rs'))
    (hs' : s'.gateways = GoMap.writeBack K8sGateway.id s.gateways gs') :
    Takes K8sGateway.version K8sGateway.SameGateway none (s.gateways.lookup gid)
      (s'.gateways.lookup gid) := by
  rw [hs']
  exact .keep (Store.bindGateways_same hf hs hv h gid)

theorem takes_gateway (hm : Consistent config m)
    (hnum : ∀ g, m.store.gateways.lookup gid = some g → Numeric g.gateway.resourceVersion)
    (hdel : ¬ op.DeletesGateway m gid)
    (hnew : ∀ g, op.gateway config.namespace_ gid = some g → Numeric g.gateway.resourceVersion)
    (h : Step config M m ⟨op, v⟩ m') :
    Takes K8sGateway.version K8sGateway.SameGateway (op.gateway config.namespace_ gid)
      (m.store.gateways.lookup gid) (m'.store.gateways.lookup gid) := by
  obtain ⟨hv, hexec⟩ := h
  cases op with
  | upsertGateway g a c =>
    obtain ⟨⟨m₁, err⟩, hup, rfl⟩ := Option.map_eq_some_iff.1 hexec
    rcases (upsertGateway_cases hup).1 with ⟨hsame, hnot⟩ | ⟨gateway, hp, hstore⟩
    · -- nothing gets to the store
      have hnone : (Op.upsertGateway g a c).gateway config.namespace_ gid = none := by
        cases hp : prepareGateway config.namespace_ a g with
        | validated gateway => exact absurd (prepareGateway_spec hp).1 hnot
        | done | annotated | rejected => simp [Op.gateway, hp]
      rw [hnone, hsame]
      exact copies_gateways.unchanged _
    · by_cases hid : gateway.id = gid
      · subst hid
        have hgateway : (Op.upsertGateway g a c).gateway config.namespace_ gateway.id =
            some gateway := by simp [Op.gateway, hp]
        rw [hgateway]
        exact takes_own_gateway hm.toKeyed hv hnum (hnew gateway hgateway) hstore
      · have hgateway : (Op.upsertGateway g a c).gateway config.namespace_ gid = none := by
          simp [Op.gateway, hp, hid]
        rw [hgateway]
        rcases Store.upsertGateway_cases hm.toKeyed hv hstore with
          ⟨-, hsame⟩ | ⟨-, ls, _, _, -, hgs, -, -⟩
        · rw [hsame]
          exact copies_gateways.unchanged _
        · rw [hgs, GoMap.lookup_insert_ite, if_neg (Ne.symm hid)]
          exact copies_gateways.unchanged _
  | deleteGateway name clearErr statusErr =>
    obtain ⟨⟨m₁, err⟩, hdelete, rfl⟩ := Option.map_eq_some_iff.1 hexec
    rcases Store.deleteGateway_cases (deleteGateway_cases hdelete).1 with
      ⟨-, hsame⟩ | ⟨hclear, _, _, _, -, -, hgs, -⟩
    · rw [hsame]
      exact copies_gateways.unchanged _
    · have hne : gid ≠ m.deletedID name := fun heq => hdel ⟨hclear, heq.symm⟩
      rw [hgs, GoMap.lookup_erase_ite, if_neg hne]
      exact copies_gateways.unchanged _
  | upsertRoute route cond c =>
    obtain ⟨store, hstore, rfl⟩ := Option.map_eq_some_iff.1 hexec
    rcases Store.upsertRoute_cases hstore with ⟨-, rfl⟩ | ⟨-, gs', r', _, hbind, -, hgs, -⟩
    · exact copies_gateways.unchanged _
    · exact takes_bindGateways (Store.isBinder_bind c v.orders) hm.toKeyed hv hbind hgs
  | deleteRoute id =>
    obtain ⟨store, hstore, rfl⟩ := Option.map_eq_some_iff.1 hexec
    rcases Store.deleteRoute_cases hstore with rfl | ⟨r, gs', rs', -, hbind, hgs, -⟩
    · exact copies_gateways.unchanged _
    · exact takes_bindGateways Store.isBinder_unbind hm.toKeyed hv hbind hgs

/-! ### Requests -/

/-- The route that a request delivers to the store under an ID. -/
def routeDelivery (id : String) (m : GatewayReconcileManager) (e : Request × Store.Visit) :
    Option K8sRoute :=
  (e.1.issued m).bind (Op.route id)

/-- The gateway that a request delivers to the store under an ID. -/
def gatewayDelivery (config : ConsulNamespaceConfig) (gid : Core.GatewayID)
    (m : GatewayReconcileManager) (e : Request × Store.Visit) : Option K8sGateway :=
  (e.1.issued m).bind (Op.gateway config.namespace_ gid)

/-- What the request delivers under the ID has a numeric version, and it does not delete
the route. -/
def RouteKept (id : String) (m : GatewayReconcileManager) (e : Request × Store.Visit)
    (_ : GatewayReconcileManager) : Prop :=
  (∀ r, routeDelivery id m e = some r → Numeric r.object.resourceVersion) ∧
    e.1.issued m ≠ some (.deleteRoute id)

/-- What the request delivers under the ID has a numeric version, and it does not delete
the gateway. -/
def GatewayKept (config : ConsulNamespaceConfig) (gid : Core.GatewayID)
    (m : GatewayReconcileManager) (e : Request × Store.Visit) (_ : GatewayReconcileManager) :
    Prop :=
  (∀ g, gatewayDelivery config gid m e = some g → Numeric g.gateway.resourceVersion) ∧
    ∀ op, e.1.issued m = some op → ¬ op.DeletesGateway m gid

variable {e : Request × Store.Visit}

theorem Consistent.serve (hm : Consistent config m) (h : ServeStep config M m e m') :
    Consistent config m' := by
  rcases h.cases with ⟨-, rfl⟩ | ⟨op, -, -, hstep⟩
  · exact hm
  · exact hm.step hstep

theorem takes_route_serve (hS : RouteCopies M Same) (hm : Consistent config m)
    (hnum : ∀ r, m.store.routes.lookup id = some r → Numeric r.object.resourceVersion)
    (hk : RouteKept id m e m') (h : ServeStep config M m e m') :
    Takes K8sRoute.version Same (routeDelivery id m e)
      (m.store.routes.lookup id) (m'.store.routes.lookup id) := by
  obtain ⟨hnew, hdel⟩ := hk
  unfold routeDelivery at hnew ⊢
  rcases h.cases with ⟨hnone, rfl⟩ | ⟨op, hissued, hmanaged, hstep⟩
  · rw [hnone]
    exact hS.unchanged _
  · rw [hissued, Option.bind_some] at hnew ⊢
    exact takes_route hS hm hnum hmanaged (fun heq => hdel (heq ▸ hissued)) hnew hstep

theorem takes_gateway_serve (hm : Consistent config m)
    (hnum : ∀ g, m.store.gateways.lookup gid = some g → Numeric g.gateway.resourceVersion)
    (hk : GatewayKept config gid m e m') (h : ServeStep config M m e m') :
    Takes K8sGateway.version K8sGateway.SameGateway (gatewayDelivery config gid m e)
      (m.store.gateways.lookup gid) (m'.store.gateways.lookup gid) := by
  obtain ⟨hnew, hdel⟩ := hk
  unfold gatewayDelivery at hnew ⊢
  rcases h.cases with ⟨hnone, rfl⟩ | ⟨op, hissued, -, hstep⟩
  · rw [hnone]
    exact copies_gateways.unchanged _
  · rw [hissued, Option.bind_some] at hnew ⊢
    exact takes_gateway hm hnum (hdel op hissued) hnew hstep

/-! ### Every run -/

/-- After the requests of `done` the store holds the newest version of the route that was
delivered, or none if none was. -/
def NewestRoute (id : String) (done : List ((Request × Store.Visit) × GatewayReconcileManager)) :
    Prop :=
  Newest K8sRoute.version K8sRoute.SameObject (deliveries (routeDelivery id) new done)
    ((lastState new done).store.routes.lookup id)

/-- The same for a gateway. -/
def NewestGateway (config : ConsulNamespaceConfig) (gid : Core.GatewayID)
    (done : List ((Request × Store.Visit) × GatewayReconcileManager)) : Prop :=
  Newest K8sGateway.version K8sGateway.SameGateway
    (deliveries (gatewayDelivery config gid) new done)
    ((lastState new done).store.gateways.lookup gid)

variable {run done : List ((Request × Store.Visit) × GatewayReconcileManager)}

theorem newestRoute_run (hM : M.KeepsObjects) (hr : Run (ServeStep config M) new run)
    (hk : Always (RouteKept id) new run) (hdone : done <+: run) : NewestRoute id done := by
  refine hr.newest (fun m => m.store.routes.lookup id)
    (I := fun m => Consistent config m ∧
      ∀ r, m.store.routes.lookup id = some r → Numeric r.object.resourceVersion)
    (routeCopies_sameObject hM).toCopies
    ⟨consistent_new, fun r hlook => by simp [new, Store.new] at hlook⟩
    (Finmap.lookup_empty id) ?_ hk hdone
  rintro m e m' ⟨hm, hnum⟩ hstep hkept
  have htakes := takes_route_serve (routeCopies_sameObject hM) hm hnum hkept hstep
  refine ⟨htakes, hm.serve hstep, htakes.forall_stored ?_ hkept.1 hnum⟩
  rintro r r' hsame hnumeric
  rwa [hsame.object]

theorem newestGateway_run (hr : Run (ServeStep config M) new run)
    (hk : Always (GatewayKept config gid) new run) (hdone : done <+: run) :
    NewestGateway config gid done := by
  refine hr.newest (fun m => m.store.gateways.lookup gid)
    (I := fun m => Consistent config m ∧
      ∀ g, m.store.gateways.lookup gid = some g → Numeric g.gateway.resourceVersion)
    copies_gateways ⟨consistent_new, fun g hlook => by simp [new, Store.new] at hlook⟩
    (Finmap.lookup_empty gid) ?_ hk hdone
  rintro m e m' ⟨hm, hnum⟩ hstep hkept
  have htakes := takes_gateway_serve hm hnum hkept hstep
  refine ⟨htakes, hm.serve hstep, htakes.forall_stored ?_ hkept.1 hnum⟩
  rintro g _ ⟨ls, rfl, -⟩ hnumeric
  exact hnumeric

/-- **The store holds the newest version of every object** that was delivered and not
deleted, after every part of every run.  So runs that deliver the same versions, in
whatever order, end with copies of the same object. -/
theorem newest_stored (hM : M.KeepsObjects) (hr : Run (ServeStep config M) new run) :
    (∀ id, Always (RouteKept id) new run → ∀ done, done <+: run → NewestRoute id done) ∧
    (∀ gid, Always (GatewayKept config gid) new run → ∀ done, done <+: run →
      NewestGateway config gid done) ∧
    ∀ run', Run (ServeStep config M) new run' →
      (∀ id, Always (RouteKept id) new run → Always (RouteKept id) new run' →
        (deliveries (routeDelivery id) new run').Perm (deliveries (routeDelivery id) new run) →
        ((deliveries (routeDelivery id) new run).map K8sRoute.version).Nodup →
        Option.Rel (fun r r' => ∃ d : K8sRoute, d.SameObject r ∧ d.SameObject r')
          ((lastState new run).store.routes.lookup id)
          ((lastState new run').store.routes.lookup id)) ∧
      ∀ gid, Always (GatewayKept config gid) new run → Always (GatewayKept config gid) new run' →
        (deliveries (gatewayDelivery config gid) new run').Perm
          (deliveries (gatewayDelivery config gid) new run) →
        ((deliveries (gatewayDelivery config gid) new run).map K8sGateway.version).Nodup →
        Option.Rel (fun g g' => ∃ d : K8sGateway, d.SameGateway g ∧ d.SameGateway g')
          ((lastState new run).store.gateways.lookup gid)
          ((lastState new run').store.gateways.lookup gid) := by
  refine ⟨fun id hk done hdone => newestRoute_run hM hr hk hdone,
    fun gid hk done hdone => newestGateway_run hr hk hdone, fun run' hr' => ⟨?_, ?_⟩⟩
  · intro id hk hk' hperm hnodup
    have hnewest : NewestRoute id run := newestRoute_run hM hr hk (List.prefix_refl run)
    exact hnewest.agree (newestRoute_run hM hr' hk' (List.prefix_refl run')) hperm hnodup
  · intro gid hk hk' hperm hnodup
    have hnewest : NewestGateway config gid run :=
      newestGateway_run hr hk (List.prefix_refl run)
    exact hnewest.agree (newestGateway_run hr' hk' (List.prefix_refl run')) hperm hnodup

/-! ### A version that comes late -/

namespace SampleVersions

open SampleCluster (client)
open Store.Sample (marshaler orders)

/-- A rule for the paths of some version. -/
def ruleOf (version : String) : HTTPRouteRule :=
  { matches_ := [{ path := some ⟨none, some ("/v" ++ version)⟩ }] }

/-- A route in some version. -/
def route (version : String) : Route := .http
  { namespace_ := "web", name := "route", groupKind := ⟨groupName, "HTTPRoute"⟩
    resourceVersion := version, parentRefs := [{ name := "gateway" }], rules := [ruleOf version] }

/-- The cluster has a deployment for the parent of the route. -/
def answers : RouteUpsertAnswers where
  isManagedRoute := .ok true
  resolution := ⟨fun _ _ _ => .ok [], fun _ _ _ _ => .error (.other "")⟩

def validated (version : String) : K8sRoute where
  object := (route version).toRouteMeta.toObjectMeta
  parentRefs := [{ name := "gateway" }]
  body := .http [] [] [ruleOf version]

/-- The manager with a version of the route. -/
def holding (version : String) : GatewayReconcileManager :=
  ⟨⟨∅, (∅ : GoMap _ _).insert (validated version).id (validated version)⟩, ∅⟩

/-- The parent of the route, with a listener for it. -/
def gateway : Gateway where
  namespace_ := "web"
  name := "gateway"
  groupKind := ⟨groupName, "Gateway"⟩
  annotations := (∅ : GoMap _ _).insert annotationConfig "config"
  listeners := [{ name := "http", port := 80, protocol := .http }]

def validGateway : K8sGateway :=
  match prepareGateway (fun _ => "") SampleGateway.answers gateway with
  | .validated g => g
  | _ => SampleGateway.validated

/-- The gateway once it serves the second version. -/
def serving : K8sGateway :=
  validGateway.setListeners (validGateway.gatewayState.listeners.map fun l =>
    l.setRoutes ((∅ : GoMap _ _).insert (validated "2").id
      ((validated "2").resolve .listed "" validGateway.gateway l.spec)))

/-- The second version as the gateway has written it back. -/
def bound : K8sRoute := (validated "2").bound { name := "gateway" }

def withGateway : GatewayReconcileManager where
  store := ⟨(∅ : GoMap _ _).insert validGateway.id serving,
    (∅ : GoMap _ _).insert (validated "2").id bound⟩
  namespaceMap := (∅ : GoMap _ _).insert gateway.namespacedName ""

/-- The second version arrives before the first, and the gateway in between. -/
def late : List ((Request × Store.Visit) × GatewayReconcileManager) :=
  [((.upsertRoute (route "2") answers client, ⟨[], [], orders⟩), holding "2"),
    ((.upsertGateway gateway SampleGateway.answers client,
      ⟨[], [((validated "2").id, validated "2")], orders⟩), withGateway),
    ((.upsertRoute (route "1") answers client,
      ⟨[(validGateway.id, serving)], [((validated "2").id, bound)], orders⟩), withGateway)]

theorem late_run : Run (ServeStep {} marshaler) new late :=
  .cons ⟨⟨GoMap.ranges_empty, GoMap.ranges_empty⟩, none, rfl⟩
    (.cons ⟨⟨GoMap.ranges_empty, GoMap.ranges_singleton _ _⟩, none, rfl⟩
      (.cons ⟨⟨GoMap.ranges_singleton _ _, GoMap.ranges_singleton _ _⟩, none, rfl⟩ (.nil _)))

theorem route_kept {version : String} (hversion : Numeric version)
    (m m' : GatewayReconcileManager) (v : Store.Visit) :
    RouteKept (validated "2").id m (.upsertRoute (route version) answers client, v) m' := by
  have hissued : (Request.upsertRoute (route version) answers client).issued m =
      some (.upsertRoute (validated version) (some (routeUpdateCondition (validated version)))
        client) := by
    have hmanaged : isManaged answers m (route version).toRouteMeta = .ok true := ite_self _
    simp only [Request.issued, hmanaged]
    rfl
  unfold RouteKept routeDelivery
  rw [hissued]
  refine ⟨fun r hr => ?_, by simp⟩
  cases hr
  exact hversion

end SampleVersions

open SampleVersions
open SampleCluster (client)
open Store.Sample (marshaler orders)

/-- The version that comes late is not stored, and neither are its rules; the gateway
has written back those of the newer version. -/
theorem newest_stored_late :
    Run (ServeStep {} marshaler) new late ∧
    deliveries (routeDelivery (validated "2").id) new late = [validated "2", validated "1"] ∧
    NewestRoute (validated "2").id late ∧
    (validated "1").body.spec ≠ (validated "2").body.spec := by
  have hM : marshaler.KeepsObjects := fun _ => rfl
  refine ⟨late_run, rfl, (newest_stored hM late_run).1 _ ?_ late (List.prefix_refl late), ?_⟩
  · have htwo : Numeric "2" := by decide
    have hone : Numeric "1" := by decide
    have hgateway : RouteKept (validated "2").id (holding "2")
        (.upsertGateway gateway SampleGateway.answers client,
          ⟨[], [((validated "2").id, validated "2")], orders⟩) withGateway :=
      ⟨fun r hr => (by cases hr), fun heq => (by cases heq)⟩
    exact ⟨route_kept htwo _ _ _, hgateway, route_kept hone _ _ _, trivial⟩
  · simp [validated, RouteBody.spec, ruleOf]

end GatewayReconcileManager

end Reconciler
