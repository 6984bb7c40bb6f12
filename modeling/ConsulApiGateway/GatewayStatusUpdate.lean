/-
The status that is published on a Gateway (`GatewayState.GetStatus` in
`internal/k8s/reconciler/state/gateway.go` and `UpdateGatewayStatusOnSync` in
`internal/k8s/reconciler/statuses.go`).

After a synchronization the status of the gateway is computed anew.  The listener statuses and
the conditions which the object has already are kept, with their times, and the status is
written unless it equals the old one.  The addresses are computed with it and have no part in
this comparison.

* `updateGatewayStatusOnSync_status` — what the object has after a successful update;
* `settled_again` — a second update computes what the first one has published;
* `updateGatewayStatusOnSync_publishes` — so all but the addresses are always published, and the
  addresses are unless only they have changed.
-/
import ConsulApiGateway.Objects
import ConsulApiGateway.Pointwise
import ConsulApiGateway.StatusConditions

namespace Reconciler

open K8s (Time)

/-! ### Computing the status -/

/-- The error `getStatus` leaves in the state of a TCP listener. -/
def ListenerState.markRouteConflict (l : ListenerState) : ListenerState :=
  if l.protocol = .tcp then
    let routeConflict : Err :=
      if 1 < l.routes.keys.card then
        some "only a single TCP route can be bound to a TCP listener"
      else none
    { l with status.conflicted.routeConflict := routeConflict }
  else l

/-- The kinds of a protocol as a slice: one that is not in the table has nil. -/
def supportedKindsSlice (protocol : K8s.ProtocolType) : Option (List K8s.RouteGroupKind) :=
  if K8s.supportedKindsFor protocol = [] then none else some (K8s.supportedKindsFor protocol)

/-- The status of a listener whose route conflict is up to date.  The number of routes is
converted to a 32-bit integer. -/
def ListenerState.published (l : ListenerState) (generation : ℤ) (now : ℕ → Time) :
    K8s.ListenerStatus where
  name := l.name
  supportedKinds := supportedKindsSlice l.protocol
  attachedRoutes := Int.bmod l.routes.keys.card (2 ^ 32)
  conditions := l.status.conditions generation now

def ListenerState.getStatus (l : ListenerState) (generation : ℤ) (now : ℕ → Time) :
    ListenerState × K8s.ListenerStatus :=
  (l.markRouteConflict, l.markRouteConflict.published generation now)

namespace GatewayState

/-- The state after `getStatus` has been called for every listener. -/
def markRouteConflicts (g : GatewayState) : GatewayState :=
  { g with listeners := g.listeners.map fun l => { l with state := l.state.markRouteConflict } }

def publishedAddresses (g : GatewayState) : List K8s.GatewayAddress :=
  g.addresses.map fun address => ⟨some "IPAddress", address⟩

/-- The status as it is computed, all of it new.  The clock is read four times for each listener
and then three times for the gateway. -/
def computed (g : GatewayState) (now : ℕ → Time) : K8s.GatewayStatus where
  addresses := g.publishedAddresses
  conditions := g.status.conditions g.generation fun i => now (4 * g.listeners.length + i)
  listeners := g.listeners.zipIdx.map fun p =>
    (p.1.state.getStatus g.generation fun i => now (4 * p.2 + i)).2

/-- What is kept of the status of the object, to not mess up the times. -/
def preferOld {α : Type} (equal : List α → List α → Bool) (new old : List α) : List α :=
  if equal new old then old else new

def getStatus (g : GatewayState) (old : K8s.GatewayStatus) (now : ℕ → Time) :
    GatewayState × K8s.GatewayStatus :=
  (g.markRouteConflicts,
    { addresses := (g.computed now).addresses
      conditions := preferOld conditionsEqual (g.computed now).conditions old.conditions
      listeners := preferOld listenerStatusesEqual (g.computed now).listeners old.listeners })

/-- What is kept of the result of `sync`. -/
def recordSync (g : GatewayState) (didSync : Bool) (err : Err) : GatewayState :=
  match err with
  | some err => { g with status.inSync.syncError := some err }
  | none => if didSync then { g with status.inSync := {} } else g

end GatewayState

/-- What a call of `UpdateGatewayStatusOnSync` finds outside: how the deployment, the
synchronization and the write of the status end, and the clock. -/
structure SyncAnswers where
  deploy : Err := none
  didSync : Bool := false
  sync : Err := none
  updateStatus : Err := none
  now : ℕ → Time

/-- How the call ends: the gateway, the status of its object, the status that was written if any,
and the error. -/
structure StatusUpdate where
  gateway : K8sGateway
  status : K8s.GatewayStatus
  written : Option K8s.GatewayStatus
  err : Err

def updateGatewayStatusOnSync (g : K8sGateway) (status : K8s.GatewayStatus) (a : SyncAnswers) :
    StatusUpdate :=
  match a.deploy with
  | some err => ⟨g, status, none, some err⟩
  | none =>
    let synced := g.gatewayState.recordSync a.didSync a.sync
    let (state, gatewayStatus) := synced.getStatus status a.now
    let g := { g with gatewayState := state }
    if !gatewayStatusEqual gatewayStatus status then
      ⟨g, gatewayStatus, some gatewayStatus, a.updateStatus⟩
    else
      ⟨g, status, none, none⟩

/-! ### The status that was published -/

open K8s.GatewayStatus (SameUntimed)

theorem map_preferOld {α β : Type} {equal : List α → List α → Bool} {f : α → β}
    (hequal : ∀ a b, equal a b = true ↔ a.map f = b.map f) (new old : List α) :
    (GatewayState.preferOld equal new old).map f = new.map f := by
  unfold GatewayState.preferOld
  split_ifs with h
  · exact ((hequal new old).1 h).symm
  · rfl

namespace GatewayState

/-- Keeping the old times changes nothing else. -/
theorem sameUntimed_getStatus (g : GatewayState) (old : K8s.GatewayStatus) (now : ℕ → Time) :
    (g.getStatus old now).2.SameUntimed (g.computed now) :=
  ⟨map_preferOld (fun _ _ => conditionsEqual_iff) _ _,
    map_preferOld (fun _ _ => listenerStatusesEqual_iff) _ _⟩

end GatewayState

variable {g : K8sGateway} {status : K8s.GatewayStatus} {a : SyncAnswers}

/-- The state of the gateway after the synchronization. -/
def syncedState (g : K8sGateway) (a : SyncAnswers) : GatewayState :=
  g.gatewayState.recordSync a.didSync a.sync

/-- The status is written unless the object has it already, up to its times and addresses. -/
theorem updateGatewayStatusOnSync_eq (hdeploy : a.deploy = none) :
    updateGatewayStatusOnSync g status a =
      if ((syncedState g a).computed a.now).SameUntimed status then
        ⟨{ g with gatewayState := (syncedState g a).markRouteConflicts }, status, none, none⟩
      else
        ⟨{ g with gatewayState := (syncedState g a).markRouteConflicts },
          ((syncedState g a).getStatus status a.now).2,
          some ((syncedState g a).getStatus status a.now).2, a.updateStatus⟩ := by
  have hsame := (syncedState g a).sameUntimed_getStatus status a.now
  have hequal : gatewayStatusEqual ((syncedState g a).getStatus status a.now).2 status = true ↔
      ((syncedState g a).computed a.now).SameUntimed status :=
    gatewayStatusEqual_iff.trans ⟨hsame.symm.trans, hsame.trans⟩
  rw [← if_congr hequal rfl rfl, ← ite_not]
  simp only [updateGatewayStatusOnSync, hdeploy, syncedState, GatewayState.getStatus,
    Bool.not_eq_true, Bool.not_eq_true']

/-- A call that returns nil has deployed the gateway. -/
theorem deploy_eq_none (h : (updateGatewayStatusOnSync g status a).err = none) :
    a.deploy = none := by
  cases hdeploy : a.deploy with
  | none => rfl
  | some err => simp [updateGatewayStatusOnSync, hdeploy] at h

/-- What the gateway and its object are left with. -/
theorem updateGatewayStatusOnSync_status (g : K8sGateway) (status : K8s.GatewayStatus)
    (hdeploy : a.deploy = none) :
    (updateGatewayStatusOnSync g status a).gateway.gatewayState =
        (syncedState g a).markRouteConflicts ∧
      (updateGatewayStatusOnSync g status a).status.SameUntimed
        ((syncedState g a).computed a.now) ∧
      (updateGatewayStatusOnSync g status a).status.addresses =
        if ((syncedState g a).computed a.now).SameUntimed status then status.addresses
        else ((syncedState g a).computed a.now).addresses := by
  rw [updateGatewayStatusOnSync_eq hdeploy]
  split_ifs with hsame
  · exact ⟨rfl, hsame.symm, rfl⟩
  · exact ⟨rfl, (syncedState g a).sameUntimed_getStatus status a.now, rfl⟩

theorem addresses_computed (g : K8sGateway) (a : SyncAnswers) :
    ((syncedState g a).computed a.now).addresses = g.gatewayState.publishedAddresses := by
  unfold syncedState GatewayState.recordSync
  cases a.sync with
  | some err => rfl
  | none => cases a.didSync <;> rfl

/-! ### Computing it again -/

theorem ListenerState.markRouteConflict_idem (l : ListenerState) :
    l.markRouteConflict.markRouteConflict = l.markRouteConflict := by
  by_cases h : l.protocol = .tcp
  · simp [markRouteConflict, h]
  · simp [markRouteConflict, h]

theorem ListenerState.untimed_published (l : ListenerState) (generation : ℤ)
    (now now' : ℕ → Time) :
    (l.published generation now).untimed = (l.published generation now').untimed := by
  simp only [K8s.ListenerStatus.untimed, published,
    l.status.untimed_conditions generation now now']

namespace GatewayState

variable {s : GatewayState}

/-- The listener statuses without their times, which no clock is needed for. -/
theorem untimed_computed_listeners (s : GatewayState) (now : ℕ → Time) :
    (s.computed now).listeners.map K8s.ListenerStatus.untimed =
      s.listeners.map fun l =>
        (l.state.markRouteConflict.published s.generation fun _ => none).untimed := by
  rw [computed, List.map_map]
  exact List.map_zipIdx_fst _ fun p => ListenerState.untimed_published _ _ _ _

/-- The status depends on the state up to the route conflicts, and on the clock in its times
only. -/
theorem sameUntimed_computed (now now' : ℕ → Time) :
    (s.markRouteConflicts.computed now').SameUntimed (s.computed now) := by
  constructor
  · simp only [computed]
    exact s.status.untimed_conditions s.generation _ _
  rw [untimed_computed_listeners, untimed_computed_listeners, markRouteConflicts, List.map_map]
  refine List.map_congr_left fun l _ => ?_
  simp only [Function.comp_apply, ListenerState.markRouteConflict_idem]

/-- The same result of a synchronization is recorded once. -/
theorem recordSync_idem (s : GatewayState) (didSync : Bool) (err : Err) :
    (s.recordSync didSync err).markRouteConflicts.recordSync didSync err =
      (s.recordSync didSync err).markRouteConflicts := by
  cases err with
  | some err => rfl
  | none => cases didSync <;> rfl

end GatewayState

/-- A second update with the same result of the synchronization computes what the first has
published. -/
theorem settled_again (hdeploy : a.deploy = none) {b : SyncAnswers} (hdid : b.didSync = a.didSync)
    (hsync : b.sync = a.sync) :
    ((syncedState (updateGatewayStatusOnSync g status a).gateway b).computed b.now).SameUntimed
      (updateGatewayStatusOnSync g status a).status := by
  obtain ⟨hstate, hstatus, -⟩ := updateGatewayStatusOnSync_status g status hdeploy
  rw [syncedState, hstate, hdid, hsync, syncedState, GatewayState.recordSync_idem]
  exact (GatewayState.sameUntimed_computed _ _).trans hstatus.symm

/-- After a call that returns nil the object has the computed conditions and listener statuses, up
to their times, and a second call with the same result of the synchronization writes nothing.  The
object has the addresses of the state exactly if it had them before or anything else was new. -/
theorem updateGatewayStatusOnSync_publishes (g : K8sGateway) (status : K8s.GatewayStatus)
    (a b : SyncAnswers) (h : (updateGatewayStatusOnSync g status a).err = none)
    (hdid : b.didSync = a.didSync) (hsync : b.sync = a.sync) :
    (updateGatewayStatusOnSync g status a).status.SameUntimed ((syncedState g a).computed a.now) ∧
    ((updateGatewayStatusOnSync g status a).status.addresses =
        g.gatewayState.publishedAddresses ↔
      (((syncedState g a).computed a.now).SameUntimed status →
        status.addresses = g.gatewayState.publishedAddresses)) ∧
    (updateGatewayStatusOnSync (updateGatewayStatusOnSync g status a).gateway
      (updateGatewayStatusOnSync g status a).status b).written = none := by
  have hdeploy := deploy_eq_none h
  obtain ⟨-, hstatus, haddresses⟩ := updateGatewayStatusOnSync_status g status hdeploy
  refine ⟨hstatus, ?_, ?_⟩
  · rw [haddresses, addresses_computed]
    split_ifs with hsame
    · exact ⟨fun haddr _ => haddr, fun haddr => haddr hsame⟩
    · exact iff_of_true rfl fun hsame' => absurd hsame' hsame
  · cases hb : b.deploy with
    | some err => simp [updateGatewayStatusOnSync, hb]
    | none => rw [updateGatewayStatusOnSync_eq hb, if_pos (settled_again hdeploy hdid hsync)]

namespace SampleStatuses

def listener : GatewayListener :=
  ⟨{ name := "web", port := 80, protocol := .http }, { name := "web", protocol := .http }⟩

def gateway : K8sGateway where
  gateway := { namespace_ := "default", name := "gw", groupKind := ⟨K8s.groupName, "Gateway"⟩ }
  gatewayState := { generation := 1, addresses := ["10.0.0.2"], listeners := [listener] }

def answers : SyncAnswers where
  didSync := true
  now _ := some "2022-10-01T12:00:00Z"

/-- The status of an object that nothing has been published on. -/
def unpublished : K8s.GatewayStatus := ⟨[], [], []⟩

/-- What was published before the service of the gateway got a new address. -/
def outdated : K8s.GatewayStatus :=
  { gateway.gatewayState.computed answers.now with
    addresses := [⟨some "IPAddress", "10.0.0.1"⟩] }

end SampleStatuses

open SampleStatuses

/-- The first status is published with its addresses, and once. -/
theorem firstStatus_published :
    (updateGatewayStatusOnSync gateway unpublished answers).status.addresses =
        [⟨some "IPAddress", "10.0.0.2"⟩] ∧
      (updateGatewayStatusOnSync (updateGatewayStatusOnSync gateway unpublished answers).gateway
        (updateGatewayStatusOnSync gateway unpublished answers).status answers).written = none := by
  have h := updateGatewayStatusOnSync_publishes gateway unpublished answers answers
    (by decide +kernel) rfl rfl
  exact ⟨h.2.1.2 fun hsame => absurd hsame (by decide +kernel), h.2.2⟩

/-- A new address is not published when nothing else is new. -/
theorem newAddress_not_published :
    (updateGatewayStatusOnSync gateway outdated answers).err = none ∧
      (updateGatewayStatusOnSync gateway outdated answers).written = none ∧
      (updateGatewayStatusOnSync gateway outdated answers).status.addresses =
        [⟨some "IPAddress", "10.0.0.1"⟩] ∧
      gateway.gatewayState.publishedAddresses = [⟨some "IPAddress", "10.0.0.2"⟩] := by
  decide +kernel

end Reconciler
