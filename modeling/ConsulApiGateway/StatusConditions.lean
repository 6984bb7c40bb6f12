/-
Conditions, and when two of them are the same
(`internal/k8s/reconciler/status`: `zz_generated_status.go` and `equality.go`).

The controller keeps the errors of gateways, listeners and routes, and publishes a
condition for each group of them.  A condition has the time it was made at.  Whether
a status has to be written is decided by comparing everything but this time.

* `conditionEqual_iff`, `conditionsEqual_iff`, `listenerStatusesEqual_iff` — two statuses
  are the same iff they are equal without their times;
* `untimed_conditionOf` — the time is all that changes when a condition is computed again.
-/
import ConsulApiGateway.Status

namespace K8s

/-- A time as it is written; the zero time is written as `null`. -/
abbrev Time := Option String

inductive ConditionStatus
  | true_ | false_ | unknown
  deriving DecidableEq

/-- `meta.Condition`. -/
structure Condition where
  type : String
  status : ConditionStatus
  observedGeneration : ℤ
  lastTransitionTime : Time
  reason : String
  message : String
  deriving DecidableEq

/-- The condition without its time. -/
def Condition.untimed (c : Condition) : Condition := { c with lastTransitionTime := none }

structure GatewayAddress where
  type : Option String
  value : String
  deriving DecidableEq

/-- `gwv1beta1.ListenerStatus`.  The kinds are a slice that may be nil, which is not
deeply equal to an empty one. -/
structure ListenerStatus where
  name : String
  supportedKinds : Option (List RouteGroupKind)
  attachedRoutes : ℤ
  conditions : List Condition
  deriving DecidableEq

def ListenerStatus.untimed (l : ListenerStatus) : ListenerStatus :=
  { l with conditions := l.conditions.map Condition.untimed }

/-- `gwv1beta1.GatewayStatus`. -/
structure GatewayStatus where
  addresses : List GatewayAddress
  conditions : List Condition
  listeners : List ListenerStatus
  deriving DecidableEq

/-- The conditions and the listener statuses are the same up to their times. -/
def GatewayStatus.SameUntimed (a b : GatewayStatus) : Prop :=
  a.conditions.map Condition.untimed = b.conditions.map Condition.untimed ∧
    a.listeners.map ListenerStatus.untimed = b.listeners.map ListenerStatus.untimed

instance (a b : GatewayStatus) : Decidable (a.SameUntimed b) :=
  inferInstanceAs (Decidable (_ ∧ _))

theorem GatewayStatus.SameUntimed.symm {a b : GatewayStatus} (h : a.SameUntimed b) :
    b.SameUntimed a :=
  ⟨h.1.symm, h.2.symm⟩

theorem GatewayStatus.SameUntimed.trans {a b c : GatewayStatus} (h : a.SameUntimed b)
    (h' : b.SameUntimed c) : a.SameUntimed c :=
  ⟨h.1.trans h'.1, h.2.trans h'.2⟩

end K8s

namespace Reconciler

open K8s (Condition ConditionStatus Time)

/-! ### The condition of a status -/

/-- The condition of a status whose errors are looked at in the given order: the first one
that is set is its reason. -/
def conditionOf (type : String) (failed : ConditionStatus) (errors : List (String × Err))
    (succeeded : ConditionStatus) (reason message : String) (generation : ℤ) (now : Time) :
    Condition :=
  match errors.findSome? fun e => e.2.map fun message => (e.1, message) with
  | some (reason, message) => ⟨type, failed, generation, now, reason, message⟩
  | none => ⟨type, succeeded, generation, now, reason, message⟩

def GatewayReadyStatus.condition (s : GatewayReadyStatus) : ℤ → Time → Condition :=
  conditionOf "Ready" .false_
    [("ListenersNotValid", s.listenersNotValid), ("ListenersNotReady", s.listenersNotReady),
      ("AddressNotAssigned", s.addressNotAssigned)]
    .true_ "Ready" "Ready"

def GatewayScheduledStatus.condition (s : GatewayScheduledStatus) : ℤ → Time → Condition :=
  conditionOf "Scheduled" .false_
    [("NotReconciled", s.notReconciled), ("PodFailed", s.podFailed), ("Unknown", s.unknown),
      ("NoResources", s.noResources)]
    .true_ "Scheduled" "Scheduled"

def GatewayInSyncStatus.condition (s : GatewayInSyncStatus) : ℤ → Time → Condition :=
  conditionOf "InSync" .false_ [("SyncError", s.syncError)] .true_ "InSync" "InSync"

def ListenerConflictedStatus.condition (s : ListenerConflictedStatus) : ℤ → Time → Condition :=
  conditionOf "Conflicted" .true_
    [("HostnameConflict", s.hostnameConflict), ("ProtocolConflict", s.protocolConflict),
      ("RouteConflict", s.routeConflict)]
    .false_ "NoConflicts" "NoConflicts"

def ListenerDetachedStatus.condition (s : ListenerDetachedStatus) : ℤ → Time → Condition :=
  conditionOf "Detached" .true_
    [("PortUnavailable", s.portUnavailable), ("UnsupportedExtension", s.unsupportedExtension),
      ("UnsupportedProtocol", s.unsupportedProtocol), ("UnsupportedAddress", s.unsupportedAddress)]
    .false_ "Attached" "Attached"

def ListenerReadyStatus.condition (s : ListenerReadyStatus) : ℤ → Time → Condition :=
  conditionOf "Ready" .false_ [("Invalid", s.invalid), ("Pending", s.pending)]
    .true_ "Ready" "Ready"

def ListenerResolvedRefsStatus.condition (s : ListenerResolvedRefsStatus) : ℤ → Time → Condition :=
  conditionOf "ResolvedRefs" .false_
    [("InvalidCertificateRef", s.invalidCertificateRef), ("InvalidRouteKinds", s.invalidRouteKinds),
      ("RefNotPermitted", s.refNotPermitted)]
    .true_ "ResolvedRefs" "ResolvedRefs"

def RouteAcceptedStatus.condition (s : RouteAcceptedStatus) : ℤ → Time → Condition :=
  conditionOf "Accepted" .false_
    [("InvalidRouteKind", s.invalidRouteKind),
      ("ListenerNamespacePolicy", s.listenerNamespacePolicy),
      ("ListenerHostnameMismatch", s.listenerHostnameMismatch), ("BindError", s.bindError)]
    .true_ "Accepted" "Route accepted."

def RouteResolvedRefsStatus.condition (s : RouteResolvedRefsStatus) : ℤ → Time → Condition :=
  conditionOf "ResolvedRefs" .false_
    [("Errors", s.errors), ("ServiceNotFound", s.serviceNotFound),
      ("ConsulServiceNotFound", s.consulServiceNotFound), ("RefNotPermitted", s.refNotPermitted),
      ("InvalidKind", s.invalidKind), ("BackendNotFound", s.backendNotFound)]
    .true_ "ResolvedRefs" "ResolvedRefs"

/-- `now i` is the clock when it is read for the `i`-th time. -/
def GatewayStatus.conditions (s : GatewayStatus) (generation : ℤ) (now : ℕ → Time) :
    List Condition :=
  [s.ready.condition generation (now 0), s.scheduled.condition generation (now 1),
    s.inSync.condition generation (now 2)]

def ListenerStatus.conditions (s : ListenerStatus) (generation : ℤ) (now : ℕ → Time) :
    List Condition :=
  [s.conflicted.condition generation (now 0), s.detached.condition generation (now 1),
    s.ready.condition generation (now 2), s.resolvedRefs.condition generation (now 3)]

def RouteStatus.conditions (s : RouteStatus) (generation : ℤ) (now : ℕ → Time) : List Condition :=
  [s.accepted.condition generation (now 0), s.resolvedRefs.condition generation (now 1)]

variable {type : String} {failed succeeded : ConditionStatus} {errors : List (String × Err)}
  {reason message : String} {generation : ℤ}

/-- A condition that is computed again differs in its time only. -/
theorem untimed_conditionOf (now now' : Time) :
    (conditionOf type failed errors succeeded reason message generation now).untimed =
      (conditionOf type failed errors succeeded reason message generation now').untimed := by
  unfold conditionOf
  split <;> rfl

theorem type_conditionOf (now : Time) :
    (conditionOf type failed errors succeeded reason message generation now).type = type := by
  unfold conditionOf
  split <;> rfl

theorem GatewayStatus.untimed_conditions (s : GatewayStatus) (generation : ℤ)
    (now now' : ℕ → Time) : (s.conditions generation now).map Condition.untimed =
      (s.conditions generation now').map Condition.untimed := by
  simp only [conditions, List.map_cons, List.map_nil, List.cons.injEq, and_true]
  exact ⟨untimed_conditionOf _ _, untimed_conditionOf _ _, untimed_conditionOf _ _⟩

theorem ListenerStatus.untimed_conditions (s : ListenerStatus) (generation : ℤ)
    (now now' : ℕ → Time) : (s.conditions generation now).map Condition.untimed =
      (s.conditions generation now').map Condition.untimed := by
  simp only [conditions, List.map_cons, List.map_nil, List.cons.injEq, and_true]
  exact ⟨untimed_conditionOf _ _, untimed_conditionOf _ _, untimed_conditionOf _ _,
    untimed_conditionOf _ _⟩

theorem RouteStatus.untimed_conditions (s : RouteStatus) (generation : ℤ)
    (now now' : ℕ → Time) : (s.conditions generation now).map Condition.untimed =
      (s.conditions generation now').map Condition.untimed := by
  simp only [conditions, List.map_cons, List.map_nil, List.cons.injEq, and_true]
  exact ⟨untimed_conditionOf _ _, untimed_conditionOf _ _⟩

/-! ### Comparing statuses -/

def conditionEqual (a b : Condition) : Bool :=
  if a.type ≠ b.type ∨ a.observedGeneration ≠ b.observedGeneration ∨ a.status ≠ b.status ∨
    a.reason ≠ b.reason ∨ a.message ≠ b.message then false
  else true

/-- The loop that compares two slices by position, after their lengths. -/
def slicesEqual {α : Type} (equal : α → α → Bool) (a b : List α) : Bool :=
  if a.length ≠ b.length then false else (a.zip b).all fun p => equal p.1 p.2

def conditionsEqual : List Condition → List Condition → Bool := slicesEqual conditionEqual

def listenerStatusEqual (a b : K8s.ListenerStatus) : Bool :=
  if a.name ≠ b.name then false
  else if a.supportedKinds ≠ b.supportedKinds then false
  else if a.attachedRoutes ≠ b.attachedRoutes then false
  else conditionsEqual a.conditions b.conditions

def listenerStatusesEqual : List K8s.ListenerStatus → List K8s.ListenerStatus → Bool :=
  slicesEqual listenerStatusEqual

/-- The addresses are not compared. -/
def gatewayStatusEqual (a b : K8s.GatewayStatus) : Bool :=
  if !conditionsEqual a.conditions b.conditions then false
  else if !listenerStatusesEqual a.listeners b.listeners then false
  else true

theorem conditionEqual_iff (a b : Condition) :
    conditionEqual a b = true ↔ a.untimed = b.untimed := by
  unfold conditionEqual Condition.untimed
  split_ifs with h
  · simp only [false_iff, Condition.mk.injEq]
    tauto
  · simp only [true_iff, Condition.mk.injEq]
    tauto

/-- If the elements are compared by their images, so are the slices. -/
theorem slicesEqual_iff {α β : Type} {equal : α → α → Bool} {f : α → β}
    (h : ∀ x y, equal x y = true ↔ f x = f y) (a b : List α) :
    slicesEqual equal a b = true ↔ a.map f = b.map f := by
  unfold slicesEqual
  split_ifs with hlen
  · simp only [false_iff]
    intro hmap
    have := congrArg List.length hmap
    simp only [List.length_map] at this
    exact hlen this
  · rw [ne_eq, not_not] at hlen
    induction a generalizing b with
    | nil => cases b <;> simp_all
    | cons x a ih =>
      cases b with
      | nil => cases hlen
      | cons y b =>
        rw [List.length_cons, List.length_cons, Nat.add_right_cancel_iff] at hlen
        simp [h, ih b hlen]

theorem conditionsEqual_iff {a b : List Condition} :
    conditionsEqual a b = true ↔ a.map Condition.untimed = b.map Condition.untimed :=
  slicesEqual_iff conditionEqual_iff a b

theorem listenerStatusEqual_iff (a b : K8s.ListenerStatus) :
    listenerStatusEqual a b = true ↔ a.untimed = b.untimed := by
  unfold listenerStatusEqual K8s.ListenerStatus.untimed
  rw [K8s.ListenerStatus.mk.injEq, ← conditionsEqual_iff]
  split_ifs <;> simp_all

theorem listenerStatusesEqual_iff {a b : List K8s.ListenerStatus} :
    listenerStatusesEqual a b = true ↔
      a.map K8s.ListenerStatus.untimed = b.map K8s.ListenerStatus.untimed :=
  slicesEqual_iff listenerStatusEqual_iff a b

theorem gatewayStatusEqual_iff {a b : K8s.GatewayStatus} :
    gatewayStatusEqual a b = true ↔ a.SameUntimed b := by
  unfold gatewayStatusEqual K8s.GatewayStatus.SameUntimed
  rw [← conditionsEqual_iff, ← listenerStatusesEqual_iff]
  split_ifs <;> simp_all

end Reconciler
