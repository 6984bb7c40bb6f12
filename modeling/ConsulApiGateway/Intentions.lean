/-
The intentions of a gateway (`internal/consul/intentions.go` and
`disco_chain_watcher.go`).

The reconciler watches the discovery chain of every service of the ingress
gateway and counts, for each target, the services that lead to it; a target that
nothing leads to any more is a tombstone, whose intention is removed by the next
synchronisation.  Watchers run on their own: they are started and cancelled when
the ingress gateway changes, and the results they report wait in a channel for
the loop of the reconciler.

* `Step` — the step relation of the callers, the watchers and the loop;
* `handleChainResult_hasRef` — what handling a result does to the references.
-/
import ConsulApiGateway.GoMap

namespace Consul

/-- `api.CompoundServiceName`. -/
structure CompoundServiceName where
  name : String
  namespace_ : String := ""
  deriving DecidableEq, Inhabited

/-- A `ServiceNameIndex`. -/
abbrev ServiceNameIndex := Finset CompoundServiceName

/-- The two results of `Diff`, in the orders in which the indices are visited. -/
structure Diff (i other : ServiceNameIndex) (added removed : List CompoundServiceName) : Prop where
  added : GoSet.Ranges (other \ i) added
  removed : GoSet.Ranges (i \ other) removed

/-! ### References -/

/-- An `intentionTargetReferenceIndex`: the services that lead to each target. -/
abbrev TargetIndex := GoMap CompoundServiceName ServiceNameIndex

namespace TargetIndex

def addRef (refs : TargetIndex) (target source : CompoundServiceName) : TargetIndex :=
  refs.insert target (insert source ((refs.lookup target).getD ∅))

/-- A target without references leaves the index. -/
def delRef (refs : TargetIndex) (target source : CompoundServiceName) : TargetIndex :=
  match refs.lookup target with
  | none => refs
  | some sources =>
    if sources.erase source = ∅ then refs.erase target
    else refs.insert target (sources.erase source)

def listRefs (refs : TargetIndex) (target : CompoundServiceName) : ServiceNameIndex :=
  (refs.lookup target).getD ∅

/-- The source leads to the target. -/
def HasRef (refs : TargetIndex) (target source : CompoundServiceName) : Prop :=
  source ∈ listRefs refs target

variable (refs : TargetIndex) (target source t s : CompoundServiceName)

theorem hasRef_addRef :
    HasRef (addRef refs target source) t s ↔ HasRef refs t s ∨ t = target ∧ s = source := by
  unfold HasRef listRefs addRef
  rw [GoMap.lookup_insert_ite]
  by_cases h : t = target
  · subst h
    simp [or_comm]
  · simp [h]

theorem hasRef_delRef :
    HasRef (delRef refs target source) t s ↔ HasRef refs t s ∧ ¬ (t = target ∧ s = source) := by
  unfold HasRef listRefs delRef
  by_cases h : t = target
  · subst h
    cases hlook : refs.lookup t with
    | none => simp [hlook]
    | some sources =>
      by_cases hempty : sources.erase source = ∅
      · -- the source was the only one
        have hmem : s ∈ sources ∧ ¬ s = source ↔ s ∈ sources.erase source := by
          rw [Finset.mem_erase, and_comm]
        simp [hempty, hmem]
      · simp [hempty, and_comm]
  · cases refs.lookup target with
    | none => simp [h]
    | some sources => by_cases hempty : sources.erase source = ∅ <;> simp [h, hempty]

end TargetIndex

/-! ### Watchers -/

/-- The targets of a compiled discovery chain. -/
structure CompiledDiscoveryChain where
  serviceName : String
  protocol : String
  targets : List CompoundServiceName

/-- The chain's own service counts only if the protocol is TCP. -/
def compiledDiscoChainToServiceNames (chain : CompiledDiscoveryChain) : ServiceNameIndex :=
  (chain.targets.filter fun target =>
    ¬ (target.name = chain.serviceName ∧ chain.protocol ≠ "tcp")).toFinset

structure DiscoChainWatchResult where
  name : CompoundServiceName
  added : List CompoundServiceName
  removed : List CompoundServiceName

structure DiscoChainWatcher where
  name : CompoundServiceName
  prevResults : ServiceNameIndex
  /-- A result that waits to be sent, with the names it was computed from. -/
  pending : Option (DiscoChainWatchResult × ServiceNameIndex)
  cancelled : Bool

/-- `newDiscoChainWatcher`. -/
def DiscoChainWatcher.new (service : CompoundServiceName) : DiscoChainWatcher :=
  ⟨service, ∅, none, false⟩

/-! ### The reconciler -/

structure IntentionsReconciler where
  /-- The watchers, running or cancelled, that have not returned yet. -/
  watchers : GoMap ℕ DiscoChainWatcher
  nextWatcher : ℕ
  chainWatchers : GoMap CompoundServiceName ℕ
  ingressServiceIndex : ServiceNameIndex
  targetIndex : TargetIndex
  targetTombstones : ServiceNameIndex
  /-- The result the loop has received and not handled yet. -/
  received : Option DiscoChainWatchResult

namespace IntentionsReconciler

/-- `newIntentionsReconciler`; the first `updateChainWatchers` is a step of the
run. -/
def new : IntentionsReconciler := ⟨∅, 0, ∅, ∅, ∅, ∅, none⟩

/-- The loop over the removed services. -/
def cancelWatchers : List CompoundServiceName → IntentionsReconciler → IntentionsReconciler
  | [], r => r
  | service :: services, r =>
    match r.chainWatchers.lookup service with
    | none => cancelWatchers services r
    | some id =>
      -- its references are not dropped here, nor by the watcher when it returns
      cancelWatchers services
        { r with
          watchers := match r.watchers.lookup id with
            | some w => r.watchers.insert id { w with cancelled := true }
            | none => r.watchers
          chainWatchers := r.chainWatchers.erase service }

/-- The loop over the added services. -/
def startWatchers : List CompoundServiceName → IntentionsReconciler → IntentionsReconciler
  | [], r => r
  | service :: services, r =>
    if service ∈ r.chainWatchers then startWatchers services r
    else
      startWatchers services
        { r with
          watchers := r.watchers.insert r.nextWatcher (.new service)
          nextWatcher := r.nextWatcher + 1
          chainWatchers := r.chainWatchers.insert service r.nextWatcher }

/-- `newIdx` are the services of the listeners of the ingress gateway. -/
def updateChainWatchers (r : IntentionsReconciler) (newIdx : ServiceNameIndex)
    (added removed : List CompoundServiceName) : IntentionsReconciler :=
  { startWatchers added (cancelWatchers removed r) with ingressServiceIndex := newIdx }

/-- The loop over the added targets. -/
def addTargets (source : CompoundServiceName) :
    List CompoundServiceName → IntentionsReconciler → IntentionsReconciler
  | [], r => r
  | target :: targets, r =>
    addTargets source targets
      { r with
        targetIndex := TargetIndex.addRef r.targetIndex target source
        targetTombstones := r.targetTombstones.erase target }

/-- The loop over the removed targets. -/
def removeTargets (source : CompoundServiceName) :
    List CompoundServiceName → IntentionsReconciler → IntentionsReconciler
  | [], r => r
  | target :: targets, r =>
    let refs := TargetIndex.delRef r.targetIndex target source
    removeTargets source targets
      { r with
        targetIndex := refs
        targetTombstones :=
          if TargetIndex.listRefs refs target = ∅ then insert target r.targetTombstones
          else r.targetTombstones }

def handleChainResult (r : IntentionsReconciler) (result : DiscoChainWatchResult) :
    IntentionsReconciler :=
  removeTargets result.name result.removed (addTargets result.name result.added r)

/-- `syncIntentions`, as far as the reconciler keeps it: the tombstones whose
intention could not be updated stay. -/
def syncIntentions (r : IntentionsReconciler) (failed : ServiceNameIndex) :
    IntentionsReconciler :=
  { r with targetTombstones := r.targetTombstones ∩ failed }

/-! ### Steps -/

inductive Event
  -- `SetIngressServices`, with the differences in the order they are visited
  | setIngressServices (newIdx : ServiceNameIndex) (added removed : List CompoundServiceName)
  -- a watcher is answered and has a result to send
  | answer (id : ℕ) (chain : CompiledDiscoveryChain) (added removed : List CompoundServiceName)
  -- the loop receives the result of a watcher
  | deliver (id : ℕ)
  -- a cancelled watcher returns
  | stop (id : ℕ)
  -- the loop handles the result it has received
  | handle
  | sync (failed : ServiceNameIndex)

def setWatcher (r : IntentionsReconciler) (id : ℕ) (w : DiscoChainWatcher) :
    IntentionsReconciler :=
  { r with watchers := r.watchers.insert id w }

/-- One step of the loop, of a watcher, or of a caller.  A watcher that has been
cancelled may still send a result: its `select` has both cases ready. -/
def Step (r : IntentionsReconciler) (e : Event) (r' : IntentionsReconciler) : Prop :=
  match e with
  | .setIngressServices newIdx added removed =>
    Diff r.ingressServiceIndex newIdx added removed ∧
      r' = r.updateChainWatchers newIdx added removed
  | .answer id chain added removed => ∃ w, r.watchers.lookup id = some w ∧ w.pending = none ∧
    Diff w.prevResults (compiledDiscoChainToServiceNames chain) added removed ∧
    r' = r.setWatcher id { w with
      pending := some (⟨w.name, added, removed⟩, compiledDiscoChainToServiceNames chain) }
  | .deliver id => ∃ w result names, r.watchers.lookup id = some w ∧
    w.pending = some (result, names) ∧ r.received = none ∧
    r' = { r.setWatcher id { w with prevResults := names, pending := none } with
      received := some result }
  | .stop id => ∃ w, r.watchers.lookup id = some w ∧ w.cancelled = true ∧
    r' = { r with watchers := r.watchers.erase id }
  | .handle => ∃ result, r.received = some result ∧
    r' = { r.handleChainResult result with received := none }
  | .sync failed => r.received = none ∧ r' = r.syncIntentions failed

/-! ### What handling a result does -/

open TargetIndex

theorem addTargets_hasRef (source t s : CompoundServiceName) (targets : List CompoundServiceName) :
    ∀ r : IntentionsReconciler, HasRef (addTargets source targets r).targetIndex t s ↔
      HasRef r.targetIndex t s ∨ s = source ∧ t ∈ targets := by
  induction targets with
  | nil => simp [addTargets]
  | cons target targets ih =>
    intro r
    rw [addTargets, ih, hasRef_addRef, List.mem_cons, and_or_left, or_assoc,
      and_comm (a := t = target)]

theorem removeTargets_hasRef (source t s : CompoundServiceName)
    (targets : List CompoundServiceName) :
    ∀ r : IntentionsReconciler, HasRef (removeTargets source targets r).targetIndex t s ↔
      HasRef r.targetIndex t s ∧ ¬ (s = source ∧ t ∈ targets) := by
  induction targets with
  | nil => simp [removeTargets]
  | cons target targets ih =>
    intro r
    rw [removeTargets, ih, hasRef_delRef, List.mem_cons, and_or_left, not_or, and_assoc,
      and_comm (a := t = target)]

theorem handleChainResult_hasRef (r : IntentionsReconciler) (result : DiscoChainWatchResult)
    (t s : CompoundServiceName) :
    HasRef (r.handleChainResult result).targetIndex t s ↔
      (HasRef r.targetIndex t s ∨ s = result.name ∧ t ∈ result.added) ∧
        ¬ (s = result.name ∧ t ∈ result.removed) := by
  rw [handleChainResult, removeTargets_hasRef, addTargets_hasRef]

/-- The second reconciler has the watchers and services of the first. -/
structure SameWatchers (r r' : IntentionsReconciler) : Prop where
  watchers : r'.watchers = r.watchers
  nextWatcher : r'.nextWatcher = r.nextWatcher
  chainWatchers : r'.chainWatchers = r.chainWatchers
  ingressServiceIndex : r'.ingressServiceIndex = r.ingressServiceIndex

theorem SameWatchers.trans {r r' r'' : IntentionsReconciler} (h : SameWatchers r r')
    (h' : SameWatchers r' r'') : SameWatchers r r'' :=
  ⟨h'.watchers.trans h.watchers, h'.nextWatcher.trans h.nextWatcher,
    h'.chainWatchers.trans h.chainWatchers, h'.ingressServiceIndex.trans h.ingressServiceIndex⟩

theorem sameWatchers_addTargets (source : CompoundServiceName)
    (targets : List CompoundServiceName) :
    ∀ r : IntentionsReconciler, SameWatchers r (addTargets source targets r) := by
  induction targets with
  | nil => exact fun r => ⟨rfl, rfl, rfl, rfl⟩
  | cons target targets ih =>
    intro r
    exact ⟨(ih _).watchers, (ih _).nextWatcher, (ih _).chainWatchers, (ih _).ingressServiceIndex⟩

theorem sameWatchers_removeTargets (source : CompoundServiceName)
    (targets : List CompoundServiceName) :
    ∀ r : IntentionsReconciler, SameWatchers r (removeTargets source targets r) := by
  induction targets with
  | nil => exact fun r => ⟨rfl, rfl, rfl, rfl⟩
  | cons target targets ih =>
    intro r
    exact ⟨(ih _).watchers, (ih _).nextWatcher, (ih _).chainWatchers, (ih _).ingressServiceIndex⟩

/-- Handling a result touches the targets only. -/
theorem handleChainResult_frame (r : IntentionsReconciler) (result : DiscoChainWatchResult) :
    SameWatchers r (r.handleChainResult result) :=
  (sameWatchers_addTargets result.name result.added r).trans
    (sameWatchers_removeTargets result.name result.removed _)

end IntentionsReconciler

/-! ### Two services -/

namespace SampleServices

def web : CompoundServiceName := ⟨"web", ""⟩

def api : CompoundServiceName := ⟨"api", ""⟩

end SampleServices

end Consul
