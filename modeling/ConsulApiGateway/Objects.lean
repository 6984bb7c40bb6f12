/-
Gateways and routes as the controller keeps them (`internal/k8s/reconciler`:
`gateway.go`, `route.go`, `state` and `converter`).

* `K8sGateway.resolve`, `K8sRoute.resolve` — their translation into the types of
  `Core`;
* `K8sGateway.canFetchSecrets` — the decision which certificates a gateway may be
  served.
-/
import ConsulApiGateway.ClassConfig
import ConsulApiGateway.Core
import ConsulApiGateway.Status

namespace Reconciler

open K8s
open V1alpha1 (GatewayClassConfig)

/-! ### Gateways -/

/-- `state.ListenerState`. -/
structure ListenerState where
  routes : GoMap String Core.ResolvedRoute := ∅
  protocol : ProtocolType
  name : String
  tls : Core.TLSParams := {}
  status : ListenerStatus := {}

/-- A TCP listener takes a single route. -/
def ListenerState.valid (l : ListenerState) : Bool :=
  if l.protocol = .tcp ∧ 1 < l.routes.keys.card then false else l.status.valid

/-- A listener of a gateway with its state.  The source keeps the two in slices
of the same length, `Spec.Listeners` and `GatewayState.Listeners`, and reads them
at the same index. -/
structure GatewayListener where
  spec : Listener
  state : ListenerState

/-- `state.GatewayState`. -/
structure GatewayState where
  consulNamespace : String := ""
  status : GatewayStatus := {}
  podReady : Bool := false
  serviceReady : Bool := false
  generation : ℤ := 0
  addresses : List String := []
  listeners : List GatewayListener

def initialGatewayState (g : Gateway) : GatewayState where
  generation := g.generation
  listeners := g.listeners.map fun listener =>
    ⟨listener, { protocol := listener.protocol, name := listener.name }⟩

structure K8sGateway where
  gateway : GatewayMeta
  gatewayState : GatewayState
  config : GatewayClassConfig := {}

def newK8sGateway (config : GatewayClassConfig) (gateway : Gateway) (gatewayState : GatewayState) :
    K8sGateway :=
  ⟨gateway.toGatewayMeta, gatewayState, config⟩

namespace K8sGateway

def id (g : K8sGateway) : Core.GatewayID where
  service := g.gateway.name
  consulNamespace := g.gatewayState.consulNamespace

def listenerHostname (listener : Listener) : String := listener.hostname.getD ""

def listenerName (listener : Listener) : String :=
  if listener.name ≠ "" then listener.name else "default"

/-- `routes` is the order in which the routes of the listener are visited. -/
def resolveListener (l : GatewayListener) (routes : List (String × Core.ResolvedRoute)) :
    Core.ResolvedListener where
  name := listenerName l.spec
  hostname := listenerHostname l.spec
  port := l.spec.port
  protocol := (protocolToConsul l.state.protocol).1
  tls := l.state.tls
  routes := routes.map Prod.snd

/-- `visit i` is the order in which the routes of listener `i` are visited. -/
def resolve (g : K8sGateway) (visit : ℕ → List (String × Core.ResolvedRoute)) :
    Core.ResolvedGateway where
  id := g.id
  meta_ := ((∅ : GoMap String String).insert "external-source" "consul-api-gateway"
    |>.insert "consul-api-gateway/k8s/Gateway.Name" g.gateway.name
    |>.insert "consul-api-gateway/k8s/Gateway.Namespace" g.gateway.namespace_)
  listeners := g.gatewayState.listeners.zipIdx.filterMap fun p =>
    if p.1.state.valid then some (resolveListener p.1 (visit p.2)) else none
  -- a 32-bit integer becomes an unsigned one
  maxConnections :=
    g.config.spec.connectionManagement.maxConnections.map fun n => (n % 2 ^ 32).toNat

/-- Where the listeners of a resolved gateway come from. -/
theorem mem_resolve_listeners {g : K8sGateway} {visit : ℕ → List (String × Core.ResolvedRoute)}
    {rl : Core.ResolvedListener} : rl ∈ (g.resolve visit).listeners ↔
      ∃ (i : ℕ) (l : GatewayListener), g.gatewayState.listeners[i]? = some l ∧
        l.state.valid = true ∧ resolveListener l (visit i) = rl := by
  rw [resolve, List.mem_filterMap_zipIdx]
  simp only [Option.ite_none_right_eq_some, Option.some.injEq]

/-- The certificates of the listeners of a gateway. -/
def certificates (g : K8sGateway) : List String :=
  g.gatewayState.listeners.flatMap fun l => l.state.tls.certificates

def canFetchSecrets (g : K8sGateway) (secrets : List String) : Bool :=
  secrets.all fun secret => g.certificates.contains secret

end K8sGateway

/-! ### Routes -/

structure ConsulService where
  namespace_ : String
  name : String

/-- A backend reference of type `β` that has been resolved. -/
inductive ResolvedReference (β : Type)
  | consulService (reference : β) (consul : ConsulService)
  | httpRoute (reference : β)

/-- A `RouteRuleReferenceMap`.  Its keys are pointers, so that two entries may
hold equal rules. -/
abbrev RouteRuleReferenceMap (ρ β : Type) := List (ρ × List (ResolvedReference β))

/-- What differs between the two types of routes: the hostnames of an HTTP
route, the rules, and the references in the state of the route, which are those
of rules of its own type.  The references of a TCP route are kept under a
`RouteRule` that names no rule. -/
inductive RouteBody
  | http (hostnames : List String) (references : RouteRuleReferenceMap HTTPRouteRule HTTPBackendRef)
      (rules : List HTTPRouteRule := [])
  | tcp (references : RouteRuleReferenceMap Unit BackendRef) (rules : List TCPRouteRule := [])

/-- The hostnames of an HTTP route; a TCP route has none to match. -/
def RouteBody.hostnames? : RouteBody → Option (List String)
  | .http hostnames _ _ => some hostnames
  | .tcp _ _ => none

/-- `state.RouteState`, without the references. -/
structure RouteState where
  resolutionErrors : ResolutionErrors := ∅
  parentStatuses : RouteStatuses := ∅

structure K8sRoute where
  object : ObjectMeta
  parentRefs : List ParentReference
  body : RouteBody
  routeState : RouteState := {}

def httpRouteID (namespacedName : NamespacedName) : String := "http-" ++ namespacedName.toString

def tcpRouteID (namespacedName : NamespacedName) : String := "tcp-" ++ namespacedName.toString

/-! ### Converters -/

namespace Converter

def methodMappings : HTTPMethod → Option Core.HTTPMethod
  | .connect => some .connect
  | .delete => some .delete
  | .post => some .post
  | .put => some .put
  | .patch => some .patch
  | .get => some .get
  | .options => some .options
  | .trace => some .trace
  | .head => some .head
  | .other _ => none

def pathMappings : PathMatchType → Option Core.HTTPPathMatchType
  | .exact => some .exact
  | .pathPrefix => some .pathPrefix
  | .regularExpression => some .regularExpression
  | .other _ => none

def queryMappings : ValueMatchType → Option Core.HTTPQueryMatchType
  | .exact => some .exact
  | .regularExpression => some .regularExpression
  | .other _ => none

def headerMappings : ValueMatchType → Option Core.HTTPHeaderMatchType
  | .exact => some .exact
  | .regularExpression => some .regularExpression
  | .other _ => none

def httpHeadersToMap (headers : List HTTPHeader) : GoMap String String :=
  GoMap.insertAll ∅ (headers.map fun header => (header.name, header.value))

def convertHTTPRouteFilters (routeFilters : List HTTPRouteFilter) : List Core.HTTPFilter :=
  routeFilters.filterMap fun
    | .requestHeaderModifier set add remove =>
      some (.header ⟨httpHeadersToMap set, httpHeadersToMap add, remove⟩)
    | .requestRedirect scheme hostname port statusCode =>
      some (.redirect ⟨scheme.getD "", hostname.getD "", port.getD 0, statusCode.getD 0⟩)
    -- only the replacement of a matched prefix is supported
    | .urlRewrite (some (.replacePrefixMatch (some value))) => some (.urlRewrite value)
    | .urlRewrite _ => none
    | .other _ => none

def convertPath : Option HTTPPathMatch → Core.HTTPPathMatch
  | some ⟨type, some value⟩ =>
    match pathMappings (type.getD .exact) with
    | some mappedType => ⟨mappedType, value⟩
    | none => ⟨.none, ""⟩
  | _ => ⟨.none, ""⟩

def convertMatch (m : HTTPRouteMatch) : Core.HTTPMatch where
  method := (m.method.bind methodMappings).getD .none
  path := convertPath m.path
  query := m.queryParams.filterMap fun param =>
    (queryMappings (param.type.getD .exact)).map fun mappedType =>
      ⟨mappedType, param.name, param.value⟩
  headers := m.headers.filterMap fun header =>
    (headerMappings (header.type.getD .exact)).map fun mappedType =>
      ⟨mappedType, header.name, header.value⟩

/-- The services of the resolved references; the port of a reference is ignored. -/
def convertReferences (references : List (ResolvedReference HTTPBackendRef)) :
    List Core.HTTPService :=
  references.filterMap fun
    | .consulService reference consul => some
        { service := ⟨consul.namespace_, consul.name⟩
          weight := reference.weight.getD 1
          filters := convertHTTPRouteFilters reference.filters }
    | .httpRoute _ => none

def httpReferencesToRules (order : RangeOrder)
    (referenceMap : RouteRuleReferenceMap HTTPRouteRule HTTPBackendRef) :
    List Core.HTTPRouteRule :=
  (order.visit referenceMap).map fun entry =>
    { filters := convertHTTPRouteFilters entry.1.filters
      matches_ := entry.1.matches_.map convertMatch
      services := convertReferences entry.2 }

/-- The first service that is visited. -/
def tcpReferencesToService (order : RangeOrder)
    (referenceMap : RouteRuleReferenceMap Unit BackendRef) : Core.ResolvedService :=
  ((order.visit referenceMap).flatMap Prod.snd).findSome? (fun
    | .consulService _ consul => some ⟨consul.namespace_, consul.name⟩
    | .httpRoute _ => none) |>.getD ⟨"", ""⟩

/-- The hostnames of an HTTP route, or else that of the listener. -/
def convertHostnames (hostnames : List String) (listenerHostname : String) : List String :=
  if hostnames = [] then [if listenerHostname = "" then "*" else listenerHostname] else hostnames

end Converter

namespace K8sRoute

def id (r : K8sRoute) : String :=
  match r.body.hostnames? with
  | some _ => httpRouteID r.object.namespacedName
  | none => tcpRouteID r.object.namespacedName

def matchesHostname (r : K8sRoute) (hostname : Option String) : Bool :=
  match r.body.hostnames? with
  | some hostnames => routeMatchesListenerHostname hostname hostnames
  | none => true

/-- The metadata of a resolved route, with the name of its type. -/
def resolvedMeta (r : K8sRoute) (gateway : GatewayMeta) (type : String) : GoMap String String :=
  (∅ : GoMap String String).insert "external-source" "consul-api-gateway"
    |>.insert "consul-api-gateway/k8s/Gateway.Name" gateway.name
    |>.insert "consul-api-gateway/k8s/Gateway.Namespace" gateway.namespace_
    |>.insert ("consul-api-gateway/k8s/" ++ type ++ ".Name") r.object.name
    |>.insert ("consul-api-gateway/k8s/" ++ type ++ ".Namespace") r.object.namespace_

/-- The route as a listener serves it.  Only the name of an HTTP route gets the
gateway's name in front. -/
def resolve (r : K8sRoute) (order : RangeOrder) (namespace_ : String) (gateway : GatewayMeta)
    (listener : Listener) : Core.ResolvedRoute :=
  match r.body with
  | .http hostnames references _ => .http
      { name := "consul-api-gateway_" ++ gateway.name ++ "_" ++ r.object.name
        namespace_ := namespace_
        hostnames := Converter.convertHostnames hostnames (K8sGateway.listenerHostname listener)
        meta_ := r.resolvedMeta gateway "HTTPRoute"
        rules := Converter.httpReferencesToRules order references }
  | .tcp references _ => .tcp
      { name := r.object.name
        namespace_ := namespace_
        meta_ := r.resolvedMeta gateway "TCPRoute"
        service := Converter.tcpReferencesToService order references }

/-- The statuses of the parents replaced. -/
def setParentStatuses (r : K8sRoute) (statuses : RouteStatuses) : K8sRoute :=
  { r with routeState := { r.routeState with parentStatuses := statuses } }

def bindFailed (r : K8sRoute) (order : RangeOrder) (err : BindFailure) (ref : ParentReference) :
    K8sRoute :=
  r.setParentStatuses
    (RouteStatuses.bindFailed r.routeState.parentStatuses order r.routeState.resolutionErrors err
      ref)

def bound (r : K8sRoute) (ref : ParentReference) : K8sRoute :=
  r.setParentStatuses (RouteStatuses.bound r.routeState.parentStatuses ref)

def remove (r : K8sRoute) (ref : ParentReference) : K8sRoute :=
  r.setParentStatuses (RouteStatuses.remove r.routeState.parentStatuses ref)

end K8sRoute

end Reconciler
