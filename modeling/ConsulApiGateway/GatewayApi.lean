/-
The Kubernetes objects the gateway controller reads.

Gateways, listeners and routes of the Gateway API, with the fields the
controller looks at, and the small functions over them that every part of the
controller shares:

* `referencesGateway` (`internal/k8s/utils/reference.go`);
* `protocolToConsul` (`internal/k8s/utils/consul.go`);
* `supportedKindsFor` (`internal/k8s/reconciler/common/utils.go`);
* `hostnamesMatch` and `routeMatchesListenerHostname`
  (`internal/k8s/reconciler/utils.go`).
-/
import ConsulApiGateway.GoMap
import Mathlib.Data.Int.Notation

namespace K8s

/-- `types.NamespacedName`. -/
structure NamespacedName where
  namespace_ : String
  name : String
  deriving DecidableEq, Inhabited

def NamespacedName.toString (n : NamespacedName) : String := n.namespace_ ++ "/" ++ n.name

structure GroupKind where
  group : String
  kind : String
  deriving DecidableEq, Inhabited

/-- The metadata of an object, its type included. -/
structure ObjectMeta where
  namespace_ : String
  name : String
  groupKind : GroupKind
  resourceVersion : String := ""
  generation : ℤ := 0
  annotations : GoMap String String := ∅

/-- `utils.NamespacedName`. -/
def ObjectMeta.namespacedName (o : ObjectMeta) : NamespacedName := ⟨o.namespace_, o.name⟩

/-! ### Gateways -/

inductive ProtocolType
  | http | https | tcp | tls | udp
  | other (name : String)
  deriving DecidableEq, Inhabited

def ProtocolType.toString : ProtocolType → String
  | .http => "HTTP"
  | .https => "HTTPS"
  | .tcp => "TCP"
  | .tls => "TLS"
  | .udp => "UDP"
  | .other name => name

inductive TLSModeType
  | terminate | passthrough
  | other (name : String)
  deriving DecidableEq

/-- A namespace that a reference names: the schema of the objects asks for at
least one character. -/
abbrev Namespace := { s : String // s ≠ "" }

structure SecretObjectReference where
  group : Option String := none
  kind : Option String := none
  name : String
  namespace_ : Option Namespace := none

/-- The options are read by key only, so that a missing map is an empty one. -/
structure GatewayTLSConfig where
  mode : Option TLSModeType := none
  certificateRefs : List SecretObjectReference := []
  options : GoMap String String := ∅

inductive FromNamespaces
  | all | selector | same
  | other (name : String)
  deriving DecidableEq

structure LabelSelectorRequirement where
  key : String
  operator : String
  values : List String

structure LabelSelector where
  matchLabels : GoMap String String
  matchExpressions : List LabelSelectorRequirement

structure RouteNamespaces where
  from_ : Option FromNamespaces := none
  selector : Option LabelSelector := none

structure RouteGroupKind where
  group : Option String
  kind : String
  deriving DecidableEq

structure AllowedRoutes where
  namespaces : Option RouteNamespaces := none
  kinds : List RouteGroupKind := []

structure Listener where
  name : String
  hostname : Option String := none
  port : ℤ
  protocol : ProtocolType
  tls : Option GatewayTLSConfig := none
  allowedRoutes : Option AllowedRoutes := none

/-- A Gateway without its listeners. -/
structure GatewayMeta extends ObjectMeta where
  gatewayClassName : String := ""
  addresses : List String := []

structure Gateway extends GatewayMeta where
  listeners : List Listener

/-! ### Routes -/

/-- A `ParentReference`.  The statuses of a route are kept under the JSON text of
its parents, which determines them. -/
structure ParentReference where
  group : Option String := none
  kind : Option String := none
  namespace_ : Option String := none
  name : String
  sectionName : Option String := none
  port : Option ℤ := none
  deriving DecidableEq

inductive HTTPMethod
  | connect | delete | get | head | options | patch | post | put | trace
  | other (name : String)
  deriving DecidableEq

inductive PathMatchType
  | exact | pathPrefix | regularExpression
  | other (name : String)
  deriving DecidableEq

structure HTTPPathMatch where
  type : Option PathMatchType
  value : Option String
  deriving DecidableEq

/-- The two match types headers and query parameters have. -/
inductive ValueMatchType
  | exact | regularExpression
  | other (name : String)
  deriving DecidableEq

/-- `HTTPHeaderMatch` and `HTTPQueryParamMatch`. -/
structure ValueMatch where
  type : Option ValueMatchType
  name : String
  value : String
  deriving DecidableEq

structure HTTPRouteMatch where
  path : Option HTTPPathMatch := none
  headers : List ValueMatch := []
  queryParams : List ValueMatch := []
  method : Option HTTPMethod := none
  deriving DecidableEq

structure HTTPHeader where
  name : String
  value : String
  deriving DecidableEq

inductive HTTPPathModifier
  | replacePrefixMatch (value : Option String)
  | other (type : String)
  deriving DecidableEq

/-- A filter of a type comes with the field of that type. -/
inductive HTTPRouteFilter
  | requestHeaderModifier (set add : List HTTPHeader) (remove : List String)
  | requestRedirect (scheme hostname : Option String) (port statusCode : Option ℤ)
  | urlRewrite (path : Option HTTPPathModifier)
  | other (type : String)
  deriving DecidableEq

/-- What a backend reference names, by default a service. -/
structure BackendObjectReference where
  group : Option String := none
  kind : Option String := none
  name : String := ""
  namespace_ : Option Namespace := none
  port : Option ℤ := none
  deriving DecidableEq

structure BackendRef extends BackendObjectReference where
  weight : Option ℤ := none
  deriving DecidableEq

structure HTTPBackendRef extends BackendRef where
  filters : List HTTPRouteFilter := []
  deriving DecidableEq

/-- A rule of an HTTP route.  Rules may differ in fields that nothing reads:
`unread` is the text of those. -/
structure HTTPRouteRule where
  matches_ : List HTTPRouteMatch := []
  filters : List HTTPRouteFilter := []
  backendRefs : List HTTPBackendRef := []
  unread : String := ""
  deriving DecidableEq

structure TCPRouteRule where
  backendRefs : List BackendRef := []

/-- An object that names gateways as its parents. -/
structure RouteMeta extends ObjectMeta where
  parentRefs : List ParentReference

structure HTTPRoute extends RouteMeta where
  hostnames : List String := []
  rules : List HTTPRouteRule

structure TCPRoute extends RouteMeta where
  rules : List TCPRouteRule

/-- The two types of routes of the controller. -/
inductive Route
  | http (route : HTTPRoute)
  | tcp (route : TCPRoute)

def Route.toRouteMeta : Route → RouteMeta
  | .http route => route.toRouteMeta
  | .tcp route => route.toRouteMeta

/-! ### References -/

/-- The group of the Gateway API. -/
def groupName : String := "gateway.networking.k8s.io"

/-- The Gateway a parent reference of an object in the given namespace names,
if it names a Gateway at all. -/
def referencesGateway (namespace_ : String) (ref : ParentReference) : Option NamespacedName :=
  if ref.group.any (· ≠ groupName) then none
  else if ref.kind.any (· ≠ "Gateway") then none
  else some ⟨ref.namespace_.getD namespace_, ref.name⟩

/-- The protocol Consul uses for a listener, and whether it requires TLS. -/
def protocolToConsul : ProtocolType → String × Bool
  | .tcp => ("tcp", false)
  | .tls => ("tcp", true)
  | .http => ("http", false)
  | .https => ("http", true)
  | .udp => ("", false)
  | .other _ => ("", false)

/-- The route kinds that support a protocol; a protocol that is not in the table
has none. -/
def supportedKindsFor : ProtocolType → List RouteGroupKind
  | .http => [⟨some groupName, "HTTPRoute"⟩]
  | .https => [⟨some groupName, "HTTPRoute"⟩]
  | .tcp => [⟨some groupName, "TCPRoute"⟩]
  | _ => []

/-! ### Hostnames -/

/-- `strings.EqualFold` on hostnames, which are ASCII. -/
def equalFold (a b : List Char) : Bool := a.map Char.toLower = b.map Char.toLower

def hostnamesMatch (a b : String) : Bool :=
  if a = "" ∨ a = "*" ∨ b = "" ∨ b = "*" then
    -- any wildcard always matches
    true
  else if ['*', '.'].isPrefixOf a.toList ∨ ['*', '.'].isPrefixOf b.toList then
    let aLabels := a.toList.splitOn '.'
    let bLabels := b.toList.splitOn '.'
    if aLabels.length ≠ bLabels.length then false
    else (aLabels.zip bLabels).tail.all fun labels => equalFold labels.1 labels.2
  else a = b

def routeMatchesListenerHostname (listenerHostname : Option String) (hostnames : List String) :
    Bool :=
  match listenerHostname with
  | none => true
  | some hostname => hostnames = [] ∨ hostnames.any (hostnamesMatch · hostname)

end K8s
