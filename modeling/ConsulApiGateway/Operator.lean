/-
The controllers of gateways and routes (`internal/k8s/controllers`, with `IsManagedRoute` of
`internal/k8s/gatewayclient` and `labels.go` of `internal/k8s/utils`).

Each controller has a queue of names.  The watches put names into it; a worker takes one, reads the
object, and calls the manager, which keeps the routes of the gateways that it knows.  A call that
fails is repeated.

* `Operator` — the manager with the queues and what they are about;
* `Operator.exec`, `Operator.Step` — what can happen: objects change, and names are taken from the
  queues and worked on, in any order;
* `Step.manager` — the manager stays as it is, or serves a request.
-/
import ConsulApiGateway.NewestStored
import ConsulApiGateway.Requests
import ConsulApiGateway.WorkQueue

namespace Controllers

open K8s Reconciler GatewayReconcileManager

/-! ### Names -/

inductive RouteKind
  | http | tcp
  deriving DecidableEq

/-- The name of a route.  The cluster has no namespaces with a slash. -/
structure RouteName where
  kind : RouteKind
  name : NamespacedName
  noSlash : '/' ∉ name.namespace_.toList
  deriving DecidableEq

/-- The names of a request, as the queue has them. -/
def routeNames (kind : RouteKind) (names : List NamespacedName) : List RouteName :=
  names.filterMap fun name =>
    if h : '/' ∉ name.namespace_.toList then some ⟨kind, name, h⟩ else none

theorem mem_routeNames {kind : RouteKind} {names : List NamespacedName} {key : RouteName} :
    key ∈ routeNames kind names ↔ key.kind = kind ∧ key.name ∈ names := by
  unfold routeNames
  rw [List.mem_filterMap]
  constructor
  · rintro ⟨name, hname, heq⟩
    split_ifs at heq
    cases heq
    exact ⟨rfl, hname⟩
  · rintro ⟨rfl, hname⟩
    exact ⟨key.name, hname, dif_pos key.noSlash⟩

namespace RouteName

/-- The ID under which the route is stored. -/
def id (key : RouteName) : String :=
  match key.kind with
  | .http => httpRouteID key.name
  | .tcp => tcpRouteID key.name

/-- The route has the name. -/
def Names (key : RouteName) : Route → Prop
  | .http route => key.kind = .http ∧ key.name = route.namespacedName
  | .tcp route => key.kind = .tcp ∧ key.name = route.namespacedName

variable {key key' : RouteName} {r : Route}

theorem Names.routeID_eq (h : key.Names r) : routeID r = key.id := by
  cases r with
  | http route | tcp route =>
    obtain ⟨hkind, hname⟩ := h
    rw [id, hkind, routeID, hname]

theorem Names.namespacedName_eq (h : key.Names r) : key.name = r.toRouteMeta.namespacedName := by
  cases r with
  | http route | tcp route => exact h.2

private theorem toString_inj {a b : NamespacedName} (ha : '/' ∉ a.namespace_.toList)
    (hb : '/' ∉ b.namespace_.toList) (h : a.toString = b.toString) : a = b := by
  obtain ⟨ns, name⟩ := a
  obtain ⟨ns', name'⟩ := b
  have hlist : ns.toList ++ '/' :: name.toList = ns'.toList ++ '/' :: name'.toList := by
    have hlist := congrArg String.toList h
    simpa [NamespacedName.toString, String.toList_append] using hlist
  -- the namespace is what stands before the first slash
  have hbefore : ∀ l : List Char, ∀ rest, '/' ∉ l → (l ++ '/' :: rest).takeWhile (· ≠ '/') = l := by
    intro l rest hl
    rw [List.takeWhile_append_of_pos, List.takeWhile_cons_of_neg (by simp), List.append_nil]
    exact fun c hc => by simpa using ne_of_mem_of_not_mem hc hl
  have hns : ns.toList = ns'.toList := by
    rw [← hbefore ns.toList name.toList ha, hlist, hbefore ns'.toList name'.toList hb]
  rw [hns, List.append_cancel_left_eq, List.cons.injEq] at hlist
  rw [String.toList_inj.1 hns, String.toList_inj.1 hlist.2]

/-- Different routes have different IDs. -/
theorem id_injective : Function.Injective id := by
  rintro ⟨kind, name, hslash⟩ ⟨kind', name', hslash'⟩ h
  have hkinds : ∀ a b : NamespacedName, httpRouteID a ≠ tcpRouteID b := by
    intro a b heq
    have hlist := congrArg String.toList heq
    simp [httpRouteID, tcpRouteID, String.toList_append] at hlist
  cases kind with
  | http =>
    cases kind' with
    | http =>
      obtain rfl := toString_inj hslash hslash' (String.append_right_inj _ |>.1 h)
      rfl
    | tcp => exact absurd h (hkinds name name')
  | tcp =>
    cases kind' with
    | http => exact absurd h.symm (hkinds name' name)
    | tcp =>
      obtain rfl := toString_inj hslash hslash' (String.append_right_inj _ |>.1 h)
      rfl

end RouteName

/-! ### Objects -/

def gatewayVersion (g : Gateway) : ℤ := versionNumber g.resourceVersion

def routeVersion (r : Route) : ℤ := versionNumber r.toRouteMeta.resourceVersion

/-- What the cluster has under a name has this name, and a numeric version. -/
def GatewayValid (key : NamespacedName) (g : Gateway) : Prop :=
  g.namespacedName = key ∧ Numeric g.resourceVersion

def RouteValid (key : RouteName) (r : Route) : Prop :=
  key.Names r ∧ Numeric r.toRouteMeta.resourceVersion

/-! ### What a controller does with an object -/

/-- Whether one of the deployments that are labelled as managed is of a gateway that the route
names. -/
def isManagedRoute (deployments : List (GoMap String String)) (namespace_ : String)
    (parents : List ParentReference) : Bool :=
  let list := deployments.filter fun labels => labels.lookup managedLabel = some "true"
  parents.any fun ref => (referencesGateway namespace_ ref).any fun name =>
    list.any fun labels => name = gatewayByLabels labels

/-- What the work on a route meets: the error of listing the deployments, the answers to the
validation and to the binding, and the error of synchronising the store. -/
structure RouteServed where
  listErr : Err := none
  resolution : RouteAnswers
  client : Client
  sync : Err := none

/-- What the manager is answered about a route. -/
def RouteServed.answers (deployments : List (GoMap String String)) (a : RouteServed) (r : Route) :
    RouteUpsertAnswers where
  isManagedRoute := a.listErr.elim
    (.ok (isManagedRoute deployments r.toRouteMeta.namespace_ r.toRouteMeta.parentRefs)) .error
  resolution := a.resolution
  sync := a.sync

/-- `Reconcile` of the route controllers, of the object that was read. -/
def routeRequest (deployments : List (GoMap String String)) (key : RouteName) (a : RouteServed) :
    Option Route → Request
  -- clean up cached resources
  | none =>
    match key.kind with
    | .http => .deleteHTTPRoute key.name a.sync
    | .tcp => .deleteTCPRoute key.name a.sync
  | some r => .upsertRoute r (a.answers deployments r) a.client

structure GatewayServed where
  upsert : UpsertAnswers
  client : Client
  clearErr : Err := none
  statusErr : Err := none

/-- `Reconcile` of the gateway controller. -/
def gatewayRequest (key : NamespacedName) (a : GatewayServed) : Option Gateway → Request
  | none => .deleteGateway key a.clearErr a.statusErr
  | some g => .upsertGateway g a.upsert a.client

/-- The manager takes the route to be one of its own. -/
def manages (m : GatewayReconcileManager) (deployments : List (GoMap String String)) (r : Route) :
    Bool :=
  m.managedByCachedGatewaysForRoute r.toRouteMeta.namespace_ r.toRouteMeta.parentRefs ||
    isManagedRoute deployments r.toRouteMeta.namespace_ r.toRouteMeta.parentRefs

/-! ### The controllers -/

/-- The objects that the controllers work on with their queues, the labels of the deployments, and
the manager. -/
structure Operator where
  gateways : WorkQueue NamespacedName Gateway
  routes : WorkQueue RouteName Route
  deployments : List (GoMap String String)
  manager : GatewayReconcileManager

inductive Event
  -- a gateway is written, or deleted, and likewise a route
  | gateway (key : NamespacedName) (new : Option Gateway)
  | route (key : RouteName) (new : Option Route)
  -- the deployments change, one of these gateways among them
  | deployments (new : List (GoMap String String)) (owners : List NamespacedName)
  -- a pod of a gateway changes, or another object that the gateway owns
  | owned (owners : List NamespacedName)
  -- a grant changes; the gateways and the routes are listed by their namespaces
  | grant (old new : Option ReferenceGrant)
      (gateways : String → Except String (List Gateway))
      (routes : RouteKind → String → Except String (List Route))
  | service (service : NamespacedName) (routes : RouteKind → Except String (List Route))
  -- the watches repeat what is there, as they do from time to time
  | resync (gateways : List NamespacedName) (routes : List RouteName)
  | takeGateway (key : NamespacedName)
  | takeRoute (key : RouteName)
  | finishGateway (key : NamespacedName) (a : GatewayServed) (v : Store.Visit)
  | finishRoute (key : RouteName) (a : RouteServed) (v : Store.Visit)

/-- The routes of either kind that the watches ask for. -/
def requested (requests : RouteKind → List NamespacedName) : List RouteName :=
  routeNames .http (requests .http) ++ routeNames .tcp (requests .tcp)

theorem mem_requested {requests : RouteKind → List NamespacedName} {key : RouteName} :
    key ∈ requested requests ↔ key.name ∈ requests key.kind := by
  unfold requested
  rw [List.mem_append, mem_routeNames, mem_routeNames]
  cases key.kind with
  | http | tcp => simp

namespace Operator

def exec (config : ConsulNamespaceConfig) (M : Marshaler) (s : Operator) : Event → Option Operator
  | .gateway key new => some { s with gateways := s.gateways.change gatewayVersion key new }
  | .route key new => some { s with routes := s.routes.change routeVersion key new }
  | .deployments new owners =>
    some { s with deployments := new, gateways := s.gateways.enqueue owners }
  | .owned owners => some { s with gateways := s.gateways.enqueue owners }
  | .grant old new gateways routes =>
    let gatewayRequests :=
      enqueue (requestsFromReferenceGrant (fun g => g.namespacedName) gateways) old new
    let routeRequests kind :=
      enqueue (requestsFromReferenceGrant (fun r => r.toRouteMeta.namespacedName) (routes kind))
        old new
    some { s with
      gateways := s.gateways.enqueue gatewayRequests
      routes := s.routes.enqueue (requested routeRequests) }
  | .service service routes =>
    let routeRequests kind := serviceToRouteRequests (routes kind) service
    some { s with routes := s.routes.enqueue (requested routeRequests) }
  | .resync gateways routes =>
    some { s with gateways := s.gateways.enqueue gateways, routes := s.routes.enqueue routes }
  | .takeGateway key =>
    if key ∈ s.gateways.dirty ∧ (s.gateways.processing key).isNone then
      some { s with gateways := s.gateways.take key }
    else none
  | .takeRoute key =>
    if key ∈ s.routes.dirty ∧ (s.routes.processing key).isNone then
      some { s with routes := s.routes.take key }
    else none
  -- any error brings the key back into the queue, at once or after a while
  | .finishGateway key a v =>
    match s.gateways.processing key with
    | none => none
    | some read => (serve config.namespace_ M v s.manager (gatewayRequest key a read)).map
        fun (m, err) => { s with manager := m, gateways := s.gateways.finish key err.isSome }
  | .finishRoute key a v =>
    match s.routes.processing key with
    | none => none
    | some read =>
      (serve config.namespace_ M v s.manager (routeRequest s.deployments key a read)).map
        fun (m, err) => { s with manager := m, routes := s.routes.finish key err.isSome }

/-- What the cluster sees to: the names and versions of its objects, and what a listing returns. -/
def Admissible (s : Operator) : Event → Prop
  | .gateway key new => ∀ g, new = some g →
      GatewayValid key g ∧ s.gateways.revision < gatewayVersion g
  | .route key new => ∀ r, new = some r → RouteValid key r ∧ s.routes.revision < routeVersion r
  | .grant _ _ _ routes => ∀ kind ns listed, routes kind ns = .ok listed → ∀ r, r ∈ listed ↔
      ∃ key, key.kind = kind ∧ key.name.namespace_ = ns ∧ s.routes.objects key = some r
  | .service _ routes => ∀ kind listed, routes kind = .ok listed → ∀ r, r ∈ listed ↔
      ∃ key, key.kind = kind ∧ s.routes.objects key = some r
  | .finishGateway _ _ v | .finishRoute _ _ v => v.Of s.manager.store
  | _ => True

def Step (config : ConsulNamespaceConfig) (M : Marshaler) (s : Operator) (e : Event)
    (s' : Operator) : Prop :=
  s.Admissible e ∧ s.exec config M e = some s'

/-- The controllers have just been started: every object is to be worked on. -/
structure Started (s : Operator) : Prop where
  manager : s.manager = GatewayReconcileManager.new
  gateways : s.gateways.Fresh gatewayVersion GatewayValid
  routes : s.routes.Fresh routeVersion RouteValid

variable {config : ConsulNamespaceConfig} {M : Marshaler} {v : Store.Visit} {s s' : Operator}
  {e : Event} {key : RouteName} {a : RouteServed}

/-- What a step finishes is a call of the manager. -/
theorem Step.finishGateway {name : NamespacedName} {a : GatewayServed}
    (h : Step config M s (.finishGateway name a v) s') :
    ∃ read err, s.gateways.processing name = some read ∧ v.Of s.manager.store ∧
      serve config.namespace_ M v s.manager (gatewayRequest name a read) =
        some (s'.manager, err) ∧
      s' = { s with manager := s'.manager, gateways := s.gateways.finish name err.isSome } := by
  obtain ⟨hv, hexec⟩ := h
  simp only [exec] at hexec
  cases hread : s.gateways.processing name with
  | none =>
    rw [hread] at hexec
    cases hexec
  | some read =>
    rw [hread] at hexec
    obtain ⟨⟨m, err⟩, hserve, rfl⟩ := Option.map_eq_some_iff.1 hexec
    exact ⟨read, err, rfl, hv, hserve, rfl⟩

theorem Step.finishRoute (h : Step config M s (.finishRoute key a v) s') :
    ∃ read err, s.routes.processing key = some read ∧ v.Of s.manager.store ∧
      serve config.namespace_ M v s.manager (routeRequest s.deployments key a read) =
        some (s'.manager, err) ∧
      s' = { s with manager := s'.manager, routes := s.routes.finish key err.isSome } := by
  obtain ⟨hv, hexec⟩ := h
  simp only [exec] at hexec
  cases hread : s.routes.processing key with
  | none =>
    rw [hread] at hexec
    cases hexec
  | some read =>
    rw [hread] at hexec
    obtain ⟨⟨m, err⟩, hserve, rfl⟩ := Option.map_eq_some_iff.1 hexec
    exact ⟨read, err, rfl, hv, hserve, rfl⟩

theorem Step.takeRoute (h : Step config M s (.takeRoute key) s') :
    key ∈ s.routes.dirty ∧ s' = { s with routes := s.routes.take key } := by
  obtain ⟨-, hexec⟩ := h
  simp only [exec] at hexec
  split_ifs at hexec with hdirty
  cases hexec
  exact ⟨hdirty.1, rfl⟩

theorem Step.takeGateway {name : NamespacedName} (h : Step config M s (.takeGateway name) s') :
    s' = { s with gateways := s.gateways.take name } := by
  obtain ⟨-, hexec⟩ := h
  simp only [exec] at hexec
  split_ifs at hexec
  cases hexec
  rfl

/-- The manager stays as it is, or it serves a request. -/
theorem Step.manager (h : Step config M s e s') :
    s'.manager = s.manager ∨ ∃ req v, ServeStep config M s.manager (req, v) s'.manager := by
  cases e with
  | finishGateway name a v =>
    obtain ⟨read, err, -, hv, hserve, -⟩ := h.finishGateway
    exact .inr ⟨_, v, hv, err, hserve⟩
  | finishRoute key a v =>
    obtain ⟨read, err, -, hv, hserve, -⟩ := h.finishRoute
    exact .inr ⟨_, v, hv, err, hserve⟩
  | takeGateway name => exact .inl (by rw [h.takeGateway])
  | takeRoute key => exact .inl (by rw [h.takeRoute.2])
  | _ =>
    cases h.2
    exact .inl rfl

theorem consistent_step (hm : Consistent config s.manager) (h : Step config M s e s') :
    Consistent config s'.manager := by
  rcases h.manager with hsame | ⟨req, v, hserve⟩
  · exact hsame ▸ hm
  · exact hm.serve hserve

end Operator

end Controllers
