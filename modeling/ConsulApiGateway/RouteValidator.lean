/-
The validation of routes (`internal/k8s/reconciler/validator/route.go`, with the
reference map of `internal/k8s/service/rule.go`).

Each backend that a route names is looked up: the reference has to be permitted,
and the resolver has to find a Consul service for it.  What cannot be resolved
is recorded as a resolution error; any other failure of the cluster or the
resolver fails the validation as a whole.

* `validate` — what the manager stores of a route;
* `validate_spec` — it is the route itself, without statuses.
-/
import ConsulApiGateway.Validator

namespace Reconciler

open K8s

/-! ### What the validation asks for -/

/-- Why a backend could not be resolved: a `ResolutionError`, or any other
error. -/
inductive ResolveFailure
  | resolution (remote : ServiceResolutionErrorType) (inner : String)
  | other (message : String)

/-- The answers for the backend `j` of rule `i`: the grants of a namespace, and
what the resolver makes of a reference from a namespace. -/
structure RouteAnswers where
  getReferenceGrantsInNamespace : ℕ → ℕ → String → Except String (List ReferenceGrant)
  resolve : ℕ → ℕ → String → BackendObjectReference →
    Except ResolveFailure (ResolvedReference Unit)

/-- `reference.Reference.Set(&ref)`. -/
def ResolvedReference.set {β : Type} (ref : β) : ResolvedReference Unit → ResolvedReference β
  | .consulService _ consul => .consulService ref consul
  | .httpRoute _ => .httpRoute ref

def ResolutionErrors.add (r : ResolutionErrors) (remote : ServiceResolutionErrorType)
    (inner : String) : ResolutionErrors :=
  r.insert remote ((r.lookup remote).getD [] ++ [inner])

/-- What the validation derives of a route, besides the statuses, which start out
empty. -/
structure Resolution (ρ β : Type) where
  references : RouteRuleReferenceMap ρ β := []
  resolutionErrors : ResolutionErrors := ∅

namespace RouteValidator

open Validator (referenceAllowed getNamespacedName)

/-! ### One backend -/

def routeAllowedForBackendRef (route : ObjectMeta) (backendRef : BackendRef)
    (getReferenceGrantsInNamespace : String → Except String (List ReferenceGrant)) :
    Except String Bool :=
  -- the kind defaults to a service
  referenceAllowed route.groupKind route.namespace_
    ⟨backendRef.group.getD "", backendRef.kind.getD "Service"⟩
    ((backendRef.namespace_.map Subtype.val).getD "") backendRef.name getReferenceGrantsInNamespace

/-- The reference that a backend is resolved to, or the resolution error. -/
def resolveBackendRef (a : RouteAnswers) (i j : ℕ) (route : ObjectMeta) (ref : BackendRef) :
    Except String (Except (ServiceResolutionErrorType × String) (ResolvedReference Unit)) :=
  match routeAllowedForBackendRef route ref (a.getReferenceGrantsInNamespace i j) with
  | .error err => .error err
  | .ok false =>
    .ok (.error (.refNotPermitted, "Cross-namespace routing not allowed without matching " ++
      "ReferencePolicy for Service \"" ++
      (getNamespacedName ref.name ref.namespace_ route.namespace_).toString ++ "\""))
  | .ok true =>
    match a.resolve i j route.namespace_ ref.toBackendObjectReference with
    | .error (.other err) => .error err
    | .error (.resolution remote inner) => .ok (.error (remote, inner))
    | .ok reference => .ok (.ok reference)

/-! ### HTTP routes -/

/-- The loop over the backends of rule `i`, from backend `j` on: the references
that are filed under the rule, and the errors. -/
def validateBackendRefs (a : RouteAnswers) (i : ℕ) (route : ObjectMeta) :
    ℕ → List HTTPBackendRef → ResolutionErrors →
      Except String (List (ResolvedReference HTTPBackendRef) × ResolutionErrors)
  | _, [], errors => .ok ([], errors)
  | j, ref :: refs, errors => do
    match ← resolveBackendRef a i j route ref.toBackendRef with
    | .error (remote, inner) =>
      validateBackendRefs a i route (j + 1) refs (errors.add remote inner)
    | .ok reference =>
      let (resolved, errors) ← validateBackendRefs a i route (j + 1) refs errors
      return (reference.set ref :: resolved, errors)

/-- The loop over the rules, from rule `i` on.  Every rule is a key of its own. -/
def validateRules (a : RouteAnswers) (route : ObjectMeta) :
    ℕ → List HTTPRouteRule → ResolutionErrors →
      Except String (Resolution HTTPRouteRule HTTPBackendRef)
  | _, [], errors => .ok { resolutionErrors := errors }
  | i, rule :: rules, errors => do
    let (resolved, errors) ← validateBackendRefs a i route 0 rule.backendRefs errors
    let rest ← validateRules a route (i + 1) rules errors
    -- a rule is entered in the map with its first reference
    return if resolved.isEmpty then rest
      else { rest with references := (rule, resolved) :: rest.references }

def validateHTTPRoute (a : RouteAnswers) (route : HTTPRoute) :
    Except String (Resolution HTTPRouteRule HTTPBackendRef) :=
  validateRules a route.toObjectMeta 0 route.rules ∅

/-! ### TCP routes -/

def validateTCPRoute (a : RouteAnswers) (route : TCPRoute) :
    Except String (Resolution Unit BackendRef) :=
  match route.rules with
  | [rule] =>
    match rule.backendRefs with
    | [ref] => (resolveBackendRef a 0 0 route.toObjectMeta ref).map fun
        | .error (remote, inner) =>
          { resolutionErrors := ResolutionErrors.add ∅ remote inner }
        -- the rule is no pointer, so that the entry names no rule
        | .ok reference => { references := [((), [reference.set ref])] }
    | _ => .ok { resolutionErrors :=
        ResolutionErrors.add ∅ .generic "a single backendRef per tcp rule is required" }
  | _ => .ok { resolutionErrors := ResolutionErrors.add ∅ .generic "a single tcp rule is required" }

end RouteValidator

/-! ### Routes -/

def newHTTPRoute (route : HTTPRoute) (state : Resolution HTTPRouteRule HTTPBackendRef) :
    K8sRoute where
  object := route.toObjectMeta
  parentRefs := route.parentRefs
  body := .http route.hostnames state.references route.rules
  routeState := { resolutionErrors := state.resolutionErrors }

def newTCPRoute (route : TCPRoute) (state : Resolution Unit BackendRef) : K8sRoute where
  object := route.toObjectMeta
  parentRefs := route.parentRefs
  body := .tcp state.references route.rules
  routeState := { resolutionErrors := state.resolutionErrors }

/-- `Validate`, and `newK8sRoute` of the result. -/
def RouteValidator.validate (a : RouteAnswers) : Route → Except String K8sRoute
  | .http route => (validateHTTPRoute a route).map (newHTTPRoute route)
  | .tcp route => (validateTCPRoute a route).map (newTCPRoute route)

/-- The ID of a route, which the manager knows before it is validated. -/
def routeID : Route → String
  | .http route => httpRouteID route.namespacedName
  | .tcp route => tcpRouteID route.namespacedName

/-- What becomes of a route that is validated. -/
theorem RouteValidator.validate_spec {a : RouteAnswers} {route : Route} {r : K8sRoute}
    (h : validate a route = .ok r) :
    r.id = routeID route ∧ r.object = route.toRouteMeta.toObjectMeta ∧
      r.parentRefs = route.toRouteMeta.parentRefs ∧ r.routeState.parentStatuses = ∅ := by
  cases route with
  | http route =>
    obtain ⟨state, -, rfl⟩ := GoStd.map_eq_ok h
    exact ⟨rfl, rfl, rfl, rfl⟩
  | tcp route =>
    obtain ⟨state, -, rfl⟩ := GoStd.map_eq_ok h
    exact ⟨rfl, rfl, rfl, rfl⟩

end Reconciler
