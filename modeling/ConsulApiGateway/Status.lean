/-
The statuses the controller keeps on gateways, listeners and routes
(`internal/k8s/reconciler/status`, `internal/k8s/reconciler/errors` and the
resolution errors of `internal/k8s/service/resolver.go`).

A Go `error` is its message, and an unset one is `none`: the statuses are
written to JSON as their messages and read back from them.
-/
import ConsulApiGateway.GatewayApi

namespace Reconciler

/-- The message of an error, if there is one. -/
abbrev Err := Option String

/-! ### Gateways and listeners -/

structure GatewayReadyStatus where
  listenersNotValid : Err := none
  listenersNotReady : Err := none
  addressNotAssigned : Err := none

/-- Why the pod of a gateway does not run. -/
structure GatewayScheduledStatus where
  notReconciled : Err := none
  podFailed : Err := none
  unknown : Err := none
  noResources : Err := none

/-- Whether Consul has the gateway as it is. -/
structure GatewayInSyncStatus where
  syncError : Err := none

structure GatewayStatus where
  ready : GatewayReadyStatus := {}
  scheduled : GatewayScheduledStatus := {}
  inSync : GatewayInSyncStatus := {}

/-- What sets a listener at odds with others, or with the routes it has. -/
structure ListenerConflictedStatus where
  hostnameConflict : Err := none
  protocolConflict : Err := none
  routeConflict : Err := none

def ListenerConflictedStatus.hasError (s : ListenerConflictedStatus) : Bool :=
  s.hostnameConflict.isSome || s.protocolConflict.isSome || s.routeConflict.isSome

/-- What a listener asks for that is not supported. -/
structure ListenerDetachedStatus where
  portUnavailable : Err := none
  unsupportedExtension : Err := none
  unsupportedProtocol : Err := none
  unsupportedAddress : Err := none

def ListenerDetachedStatus.hasError (s : ListenerDetachedStatus) : Bool :=
  s.portUnavailable.isSome || s.unsupportedExtension.isSome || s.unsupportedProtocol.isSome ||
    s.unsupportedAddress.isSome

structure ListenerReadyStatus where
  invalid : Err := none
  pending : Err := none

def ListenerReadyStatus.hasError (s : ListenerReadyStatus) : Bool :=
  s.invalid.isSome || s.pending.isSome

/-- What is wrong with the objects a listener refers to. -/
structure ListenerResolvedRefsStatus where
  invalidCertificateRef : Err := none
  invalidRouteKinds : Err := none
  refNotPermitted : Err := none

def ListenerResolvedRefsStatus.hasError (s : ListenerResolvedRefsStatus) : Bool :=
  s.invalidCertificateRef.isSome || s.invalidRouteKinds.isSome || s.refNotPermitted.isSome

structure ListenerStatus where
  conflicted : ListenerConflictedStatus := {}
  detached : ListenerDetachedStatus := {}
  ready : ListenerReadyStatus := {}
  resolvedRefs : ListenerResolvedRefsStatus := {}

/-- Whether a listener is free of every error but those of `ready`. -/
def ListenerStatus.valid (s : ListenerStatus) : Bool :=
  !(s.conflicted.hasError || s.detached.hasError || s.resolvedRefs.hasError)

/-! ### Resolution errors -/

inductive ServiceResolutionErrorType
  | k8sService | backendNotFound | consulService | generic | invalidKind | refNotPermitted
  deriving DecidableEq

/-- The errors of resolving a route's backends, by type. -/
abbrev ResolutionErrors := GoMap ServiceResolutionErrorType (List String)

namespace ResolutionErrors

def getErrorTypePrefix : ServiceResolutionErrorType → String
  | .k8sService => "k8s: "
  | .consulService => "consul: "
  | _ => ""

/-- `Empty`: no type has been entered, not even one without errors. -/
def empty (r : ResolutionErrors) : Bool := r.keys.card = 0

/-- The entries of the map, as a list. -/
def entries (r : ResolutionErrors) : List (ServiceResolutionErrorType × List String) :=
  [.k8sService, .backendNotFound, .consulService, .generic, .invalidKind,
    .refNotPermitted].filterMap
    fun errType => (r.lookup errType).map fun errors => (errType, errors)

def toString (order : RangeOrder) (r : ResolutionErrors) : String :=
  String.intercalate "; " <| (order.visit (entries r)).filterMap fun entry =>
    if 0 < entry.2.length then
      some (getErrorTypePrefix entry.1 ++ String.intercalate ", " entry.2)
    else none

/-- The type of the errors and their common text, unless there are none. -/
def flatten (order : RangeOrder) (r : ResolutionErrors) :
    Option (ServiceResolutionErrorType × String) :=
  if empty r then none
  else if ((r.lookup .generic).getD []).length ≠ 0 ∨ 1 < r.keys.card then
    some (.generic, toString order r)
  else
    -- there is at most one error type at this point
    match order.visit (entries r) with
    | [] => some (.generic, toString order r)
    | entry :: _ => some (entry.1, toString order r)

end ResolutionErrors

/-! ### Routes -/

inductive BindErrorType
  | routeKind | listenerNamespacePolicy | hostnameMismatch | routeInvalid
  deriving DecidableEq

/-- The error `BindFailed` is called with: a `BindError`, or any other error. -/
inductive BindFailure
  | bindError (kind : BindErrorType) (inner : String)
  | other (message : String)
  deriving DecidableEq

/-- Why a parent does not take a route. -/
structure RouteAcceptedStatus where
  invalidRouteKind : Err := none
  listenerNamespacePolicy : Err := none
  listenerHostnameMismatch : Err := none
  bindError : Err := none
  deriving DecidableEq

/-- What is wrong with the backends of a route. -/
structure RouteResolvedRefsStatus where
  errors : Err := none
  serviceNotFound : Err := none
  consulServiceNotFound : Err := none
  refNotPermitted : Err := none
  invalidKind : Err := none
  backendNotFound : Err := none
  deriving DecidableEq

structure RouteStatus where
  accepted : RouteAcceptedStatus := {}
  resolvedRefs : RouteResolvedRefsStatus := {}
  deriving DecidableEq

/-- The statuses of a route, by parent. -/
abbrev RouteStatuses := GoMap K8s.ParentReference RouteStatus

/-- A failure of another kind stays recorded beside the new one. -/
def RouteAcceptedStatus.setFailure (s : RouteAcceptedStatus) : BindFailure → RouteAcceptedStatus
  | .bindError .hostnameMismatch inner => { s with listenerHostnameMismatch := some inner }
  | .bindError .listenerNamespacePolicy inner => { s with listenerNamespacePolicy := some inner }
  | .bindError .routeKind inner => { s with invalidRouteKind := some inner }
  | .bindError .routeInvalid inner => { s with bindError := some inner }
  | .other message => { s with bindError := some message }

def RouteResolvedRefsStatus.setErrors (s : RouteResolvedRefsStatus) :
    Option (ServiceResolutionErrorType × String) → RouteResolvedRefsStatus
  | none => s
  | some (.generic, err) => { s with errors := some err }
  | some (.consulService, err) => { s with consulServiceNotFound := some err }
  | some (.k8sService, err) => { s with serviceNotFound := some err }
  | some (.refNotPermitted, err) => { s with refNotPermitted := some err }
  | some (.invalidKind, err) => { s with invalidKind := some err }
  | some (.backendNotFound, err) => { s with backendNotFound := some err }

namespace RouteStatuses

def bindFailed (r : RouteStatuses) (order : RangeOrder) (resolutionErrors : ResolutionErrors)
    (err : BindFailure) (id : K8s.ParentReference) : RouteStatuses :=
  let routeStatus := (r.lookup id).getD {}
  r.insert id
    { accepted := routeStatus.accepted.setFailure err
      resolvedRefs := routeStatus.resolvedRefs.setErrors
        (ResolutionErrors.flatten order resolutionErrors) }

/-- Clears the errors of an entry that exists and makes an empty one otherwise. -/
def bound (r : RouteStatuses) (id : K8s.ParentReference) : RouteStatuses := r.insert id {}

def remove (r : RouteStatuses) (id : K8s.ParentReference) : RouteStatuses := r.erase id

end RouteStatuses

/-- The `Accepted` condition of the status is true: none of its errors is set. -/
def RouteAcceptedStatus.isTrue (s : RouteAcceptedStatus) : Prop := s = {}

instance (s : RouteAcceptedStatus) : Decidable s.isTrue := inferInstanceAs (Decidable (s = {}))

/-- A failure is always visible in the `Accepted` condition. -/
theorem RouteAcceptedStatus.not_isTrue_setFailure (s : RouteAcceptedStatus) (err : BindFailure) :
    ¬ (s.setFailure err).isTrue := by
  intro h
  cases err with
  | bindError kind inner => cases kind <;> simp [setFailure, isTrue] at h
  | other message => simp [setFailure, isTrue] at h

end Reconciler
