/-
Resolved gateways (`internal/core`).

The types that the Kubernetes side hands to the Consul adapter once every
reference has been resolved: gateways, their listeners, and the HTTP and TCP
routes bound to them.
-/
import ConsulApiGateway.GoMap
import Mathlib.Data.Int.Notation

namespace Core

/-- A gateway as Consul knows it. -/
structure GatewayID where
  consulNamespace : String
  service : String
  deriving DecidableEq, Inhabited

/-- A service as Consul knows it. -/
structure ResolvedService where
  consulNamespace : String
  service : String
  deriving DecidableEq, Inhabited

/-! ### HTTP routes -/

structure HTTPHeaderFilter where
  set : GoMap String String
  add : GoMap String String
  remove : List String
  deriving DecidableEq

structure HTTPRedirectFilter where
  scheme : String
  hostname : String
  port : ℤ
  status : ℤ
  deriving DecidableEq

/-- A filter carries the payload of its type only; the other payloads of the
source's struct are zero values. -/
inductive HTTPFilter
  | header (filter : HTTPHeaderFilter)
  | redirect (filter : HTTPRedirectFilter)
  -- `URLRewriteReplacePrefixMatch`, the only rewrite there is
  | urlRewrite (replacePrefixMatch : String)
  deriving DecidableEq

/-- A backend of a rule. -/
structure HTTPService where
  service : ResolvedService
  weight : ℤ
  filters : List HTTPFilter
  deriving DecidableEq

inductive HTTPMethod
  | none | connect | delete | get | head | options | patch | post | put | trace
  deriving DecidableEq

inductive HTTPPathMatchType
  | none | exact | pathPrefix | regularExpression
  deriving DecidableEq

structure HTTPPathMatch where
  type : HTTPPathMatchType
  value : String
  deriving DecidableEq

inductive HTTPHeaderMatchType
  | none | exact | headerPrefix | headerSuffix | present | regularExpression
  deriving DecidableEq

structure HTTPHeaderMatch where
  type : HTTPHeaderMatchType
  name : String
  value : String
  deriving DecidableEq

inductive HTTPQueryMatchType
  | none | exact | present | regularExpression
  deriving DecidableEq

structure HTTPQueryMatch where
  type : HTTPQueryMatchType
  name : String
  value : String
  deriving DecidableEq

/-- What a request has to meet.  A path of type `none` is not looked at, and neither
is a method. -/
structure HTTPMatch where
  path : HTTPPathMatch := ⟨.none, ""⟩
  headers : List HTTPHeaderMatch := []
  query : List HTTPQueryMatch := []
  method : HTTPMethod := .none
  deriving DecidableEq

/-- A rule takes a request that meets one of its matches. -/
structure HTTPRouteRule where
  matches_ : List HTTPMatch
  filters : List HTTPFilter
  services : List HTTPService
  deriving DecidableEq

/-- `HTTPRoute`, its embedded `CommonRoute` included. -/
structure HTTPRoute where
  meta_ : GoMap String String
  name : String
  namespace_ : String
  hostnames : List String
  rules : List HTTPRouteRule
  deriving DecidableEq

/-! ### TCP routes, listeners and gateways -/

/-- `TCPRoute`, its embedded `CommonRoute` included. -/
structure TCPRoute where
  meta_ : GoMap String String
  name : String
  namespace_ : String
  service : ResolvedService
  deriving DecidableEq

inductive ResolvedRoute
  | http (route : HTTPRoute)
  | tcp (route : TCPRoute)
  deriving DecidableEq

/-- The names of the certificates are those they are served under. -/
structure TLSParams where
  enabled : Bool := false
  minVersion : String := ""
  maxVersion : String := ""
  cipherSuites : List String := []
  certificates : List String := []
  deriving DecidableEq, Inhabited

/-- `common.DefaultTLSCipherSuites`. -/
def defaultTLSCipherSuites : List String :=
  ["TLS_ECDHE_ECDSA_WITH_AES_128_GCM_SHA256",
   "TLS_ECDHE_ECDSA_WITH_CHACHA20_POLY1305_SHA256",
   "TLS_ECDHE_RSA_WITH_AES_128_GCM_SHA256",
   "TLS_ECDHE_RSA_WITH_CHACHA20_POLY1305_SHA256",
   "TLS_ECDHE_ECDSA_WITH_AES_256_GCM_SHA384",
   "TLS_ECDHE_RSA_WITH_AES_256_GCM_SHA384"]

/-- A listener with the routes that are bound to it. -/
structure ResolvedListener where
  name : String
  hostname : String
  port : ℤ
  protocol : String
  tls : TLSParams
  routes : List ResolvedRoute
  deriving DecidableEq

structure ResolvedGateway where
  id : GatewayID
  meta_ : GoMap String String
  listeners : List ResolvedListener
  maxConnections : Option ℕ
  deriving DecidableEq

end Core
