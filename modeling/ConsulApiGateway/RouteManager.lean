/-
The requests that the reconcile manager serves, those for routes included
(`internal/k8s/reconciler/manager.go`).

A route is stored if one of its parents is a Gateway that the manager has in its
map, or if the cluster says so.  A route that is not managed any more is deleted.

* `serve` — the manager as the controllers call it;
* `serve_eq` — each request comes down to one operation on the store, or to none;
* `issued_managed` — a route is written on condition that no newer one is stored.
-/
import ConsulApiGateway.Manager
import ConsulApiGateway.RouteValidator

namespace Reconciler

open K8s

/-- What the upsert of a route asks for: whether the cluster has a deployment for one
of its parents, what the validation needs, and the error of synchronising the store. -/
structure RouteUpsertAnswers where
  isManagedRoute : Except String Bool
  resolution : RouteAnswers
  sync : Err := none

namespace GatewayReconcileManager

def managedByCachedGatewaysForRoute (m : GatewayReconcileManager) (namespace_ : String)
    (parents : List ParentReference) : Bool :=
  parents.any fun parent =>
    (referencesGateway namespace_ parent).any fun name => name ∈ m.namespaceMap

/-- The first half of `deleteUnmanagedRoute`. -/
def isManaged (a : RouteUpsertAnswers) (m : GatewayReconcileManager) (route : RouteMeta) :
    Except String Bool :=
  if m.managedByCachedGatewaysForRoute route.namespace_ route.parentRefs then .ok true
  -- we might not yet have the gateway in our cache
  else a.isManagedRoute

/-- The condition under which a route replaces the stored one. -/
def routeUpdateCondition (route : K8sRoute) : Option K8sRoute → Bool
  | none => true
  | some current =>
    !resourceVersionGreater current.object.resourceVersion route.object.resourceVersion

def deleteRoute (M : Marshaler) (v : Store.Visit) (sync : Err) (m : GatewayReconcileManager)
    (id : String) : Option (GatewayReconcileManager × Err) :=
  (Store.deleteRoute M v m.store id).map fun store =>
    ({ m with store := store }, if (m.store.getRoute M id).isSome then sync else none)

def upsertRoute (c : Client) (M : Marshaler) (v : Store.Visit) (a : RouteUpsertAnswers)
    (m : GatewayReconcileManager) (r : Route) : Option (GatewayReconcileManager × Err) :=
  match isManaged a m r.toRouteMeta with
  | .error err => some (m, some err)
  -- the reference may have been removed by an update
  | .ok false => deleteRoute M v a.sync m (routeID r)
  | .ok true =>
    match RouteValidator.validate a.resolution r with
    | .error err => some (m, some err)
    | .ok route =>
      (Store.upsertRoute c M v m.store route (some (routeUpdateCondition route))).map fun store =>
        ({ m with store := store },
          if routeUpdateCondition route (m.store.getRoute M route.id) then a.sync else none)

/-! ### Requests -/

/-- The calls of the controllers, each with what it is answered on the way. -/
inductive Request
  | upsertGateway (g : Gateway) (a : UpsertAnswers) (c : Client)
  | deleteGateway (name : NamespacedName) (clearErr statusErr : Err)
  -- `UpsertHTTPRoute` and `UpsertTCPRoute`
  | upsertRoute (r : Route) (a : RouteUpsertAnswers) (c : Client)
  | deleteHTTPRoute (name : NamespacedName) (sync : Err)
  | deleteTCPRoute (name : NamespacedName) (sync : Err)

def serve (mapper : String → String) (M : Marshaler) (v : Store.Visit)
    (m : GatewayReconcileManager) : Request → Option (GatewayReconcileManager × Err)
  | .upsertGateway g a c => upsertGateway mapper c M v a m g
  | .deleteGateway name clearErr statusErr => deleteGateway M v clearErr statusErr m name
  | .upsertRoute r a c => upsertRoute c M v a m r
  | .deleteHTTPRoute name sync => deleteRoute M v sync m (httpRouteID name)
  | .deleteTCPRoute name sync => deleteRoute M v sync m (tcpRouteID name)

/-- The operation that a request comes down to. -/
def Request.issued (m : GatewayReconcileManager) : Request → Option Op
  | .upsertGateway g a c => some (.upsertGateway g a c)
  | .deleteGateway name clearErr statusErr => some (.deleteGateway name clearErr statusErr)
  | .upsertRoute r a c =>
    match isManaged a m r.toRouteMeta with
    | .error _ => none
    | .ok false => some (.deleteRoute (routeID r))
    | .ok true =>
      match RouteValidator.validate a.resolution r with
      | .error _ => none
      | .ok route => some (.upsertRoute route (some (routeUpdateCondition route)) c)
  | .deleteHTTPRoute name _ => some (.deleteRoute (httpRouteID name))
  | .deleteTCPRoute name _ => some (.deleteRoute (tcpRouteID name))

variable {config : ConsulNamespaceConfig} {mapper : String → String} {M : Marshaler}
  {v : Store.Visit} {m m' : GatewayReconcileManager} {req : Request}

/-- Each request comes down to its operation, or returns before the store. -/
theorem serve_eq (mapper : String → String) (M : Marshaler) (v : Store.Visit)
    (m : GatewayReconcileManager) (req : Request) :
    (serve mapper M v m req).map Prod.fst =
      (req.issued m).elim (some m) fun op => exec mapper M m ⟨op, v⟩ := by
  have hdelete : ∀ sync id, (deleteRoute M v sync m id).map Prod.fst =
      exec mapper M m ⟨.deleteRoute id, v⟩ := by
    intro sync id
    simp only [deleteRoute, exec, Option.map_map, Function.comp_def]
  cases req with
  | upsertGateway | deleteGateway => rfl
  | upsertRoute r a c =>
    simp only [serve, upsertRoute, Request.issued]
    rcases isManaged a m r.toRouteMeta with err | ⟨_ | _⟩
    · rfl
    · exact hdelete _ _
    · cases RouteValidator.validate a.resolution r with
      | error err => rfl
      | ok route => simp only [Option.elim_some, exec, Option.map_map, Function.comp_def]
  | deleteHTTPRoute name sync => exact hdelete sync _
  | deleteTCPRoute name sync => exact hdelete sync _

/-- A route is written under the condition of the manager. -/
def Op.Managed : Op → Prop
  | .upsertRoute route cond _ => cond = some (routeUpdateCondition route)
  | _ => True

theorem issued_managed {op : Op} (h : req.issued m = some op) : op.Managed := by
  cases req with
  | upsertRoute r a c =>
    simp only [Request.issued] at h
    split at h
    · cases h
    · cases h
      trivial
    · split at h
      · cases h
      · cases h
        rfl
  | _ =>
    cases h
    trivial

/-- A request that is served, with the orders in which the store is visited. -/
def ServeStep (config : ConsulNamespaceConfig) (M : Marshaler) (m : GatewayReconcileManager)
    (e : Request × Store.Visit) (m' : GatewayReconcileManager) : Prop :=
  e.2.Of m.store ∧ ∃ err, serve config.namespace_ M e.2 m e.1 = some (m', err)

/-- A served request is a step of the manager, or leaves it as it is. -/
theorem ServeStep.cases {e : Request × Store.Visit} (h : ServeStep config M m e m') :
    (e.1.issued m = none ∧ m' = m) ∨
      ∃ op, e.1.issued m = some op ∧ op.Managed ∧ Step config M m ⟨op, e.2⟩ m' := by
  obtain ⟨hv, err, hserve⟩ := h
  have heq := serve_eq config.namespace_ M e.2 m e.1
  rw [hserve, Option.map_some] at heq
  cases hissued : e.1.issued m with
  | none =>
    rw [hissued] at heq
    exact .inl ⟨rfl, Option.some.inj heq⟩
  | some op =>
    rw [hissued] at heq
    exact .inr ⟨op, rfl, issued_managed hissued, hv, heq.symm⟩

end GatewayReconcileManager

end Reconciler
