/-
The revocations of the intentions reconciler.

A target that leaves the index has to lose the gateway as a source of its
intention.  Until Consul has accepted that, it is kept as a tombstone, through any
failures and through all the results that add it again or remove it once more.

* `History` — the reconciler, with the targets it has ever had and those whose
  removal has succeeded since they last left the index;
* `nothingLost_reachable` — no revocation is lost.
-/
import ConsulApiGateway.IntentionUpdates
import ConsulApiGateway.Run

namespace Consul

open TargetIndex

/-! ### The index -/

theorem TargetIndex.mem_addRef {refs : TargetIndex} {target source t : CompoundServiceName} :
    t ∈ addRef refs target source ↔ t = target ∨ t ∈ refs := Finmap.mem_insert

theorem TargetIndex.mem_delRef_of_ne {refs : TargetIndex} {target source t : CompoundServiceName}
    (hne : t ≠ target) : t ∈ delRef refs target source ↔ t ∈ refs := by
  unfold delRef
  cases refs.lookup target with
  | none => exact Iff.rfl
  | some sources =>
    by_cases hempty : sources.erase source = ∅
    · simp [hempty, Finmap.mem_erase, hne]
    · simp [hempty, Finmap.mem_insert, hne]

theorem TargetIndex.mem_of_mem_delRef {refs : TargetIndex}
    {target source t : CompoundServiceName} (h : t ∈ delRef refs target source) : t ∈ refs := by
  by_cases hne : t = target
  · subst hne
    unfold delRef at h
    cases hlook : refs.lookup t with
    | none => simpa [hlook] using h
    | some sources => exact Finmap.mem_of_lookup_eq_some hlook
  · exact (mem_delRef_of_ne hne).1 h

theorem TargetIndex.mem_of_listRefs_ne {refs : TargetIndex} {t : CompoundServiceName}
    (h : listRefs refs t ≠ ∅) : t ∈ refs := by
  by_contra hmem
  rw [listRefs, Finmap.lookup_eq_none.2 hmem] at h
  exact h rfl

/-- Every target has a reference. -/
def TargetIndex.Referenced (refs : TargetIndex) : Prop := ∀ t ∈ refs, listRefs refs t ≠ ∅

theorem TargetIndex.Referenced.addRef {refs : TargetIndex} (h : Referenced refs)
    (target source : CompoundServiceName) : Referenced (addRef refs target source) := by
  intro t ht
  obtain ⟨s, hs⟩ : ∃ s, HasRef (TargetIndex.addRef refs target source) t s := by
    rcases mem_addRef.1 ht with rfl | ht
    · exact ⟨source, (hasRef_addRef ..).2 (.inr ⟨rfl, rfl⟩)⟩
    · obtain ⟨s, hs⟩ := Finset.nonempty_iff_ne_empty.2 (h t ht)
      exact ⟨s, (hasRef_addRef ..).2 (.inl hs)⟩
  exact Finset.ne_empty_of_mem hs

/-- A target stays exactly as long as something leads to it. -/
theorem TargetIndex.mem_delRef_self {refs : TargetIndex} {target source : CompoundServiceName} :
    target ∈ delRef refs target source → listRefs (delRef refs target source) target ≠ ∅ := by
  unfold delRef listRefs
  cases hlook : refs.lookup target with
  | none => exact fun hmem => absurd hmem (Finmap.lookup_eq_none.1 hlook)
  | some sources =>
    by_cases hempty : sources.erase source = ∅
    · simp [hempty, Finmap.mem_erase]
    · simp [hempty]

theorem TargetIndex.Referenced.delRef {refs : TargetIndex} (h : Referenced refs)
    (target source : CompoundServiceName) : Referenced (delRef refs target source) := by
  intro t ht
  by_cases hne : t = target
  · subst hne
    exact mem_delRef_self ht
  · obtain ⟨s, hs⟩ := Finset.nonempty_iff_ne_empty.2 (h t ((mem_delRef_of_ne hne).1 ht))
    exact Finset.ne_empty_of_mem ((hasRef_delRef ..).2 ⟨hs, fun heq => hne heq.1⟩)

/-! ### The targets a reconciler knows -/

namespace IntentionsReconciler

/-- The target is in the index or a tombstone. -/
def Knows (r : IntentionsReconciler) (t : CompoundServiceName) : Prop :=
  t ∈ r.targetIndex ∨ t ∈ r.targetTombstones

variable {r : IntentionsReconciler} {t : CompoundServiceName}

theorem Knows.addTarget (source target : CompoundServiceName) (h : r.Knows t) :
    (r.addTargets source [target]).Knows t := by
  by_cases heq : t = target
  · exact .inl (mem_addRef.2 (.inl heq))
  · exact h.imp (fun ht => mem_addRef.2 (.inr ht)) fun ht => Finset.mem_erase.2 ⟨heq, ht⟩

/-- The target becomes a tombstone if nothing leads to it any more. -/
theorem removeTarget_tombstones (r : IntentionsReconciler)
    (source target : CompoundServiceName) :
    (r.removeTargets source [target]).targetTombstones =
      if listRefs (delRef r.targetIndex target source) target = ∅ then
        insert target r.targetTombstones
      else r.targetTombstones := rfl

theorem Knows.removeTarget (source target : CompoundServiceName) (h : r.Knows t) :
    (r.removeTargets source [target]).Knows t := by
  rw [Knows, removeTarget_tombstones]
  rcases h with h | h
  · by_cases hne : t = target
    · subst hne
      split_ifs with hempty
      · exact .inr (Finset.mem_insert_self ..)
      · exact .inl (mem_of_listRefs_ne hempty)
    · exact .inl ((mem_delRef_of_ne hne).2 h)
  · split_ifs
    · exact .inr (Finset.mem_insert_of_mem h)
    · exact .inr h

/-- Handling a result forgets no target. -/
theorem Knows.handleChainResult (result : DiscoChainWatchResult) (h : r.Knows t) :
    (r.handleChainResult result).Knows t := by
  have hadd : ∀ targets {r : IntentionsReconciler}, r.Knows t →
      (r.addTargets result.name targets).Knows t := by
    intro targets
    induction targets with
    | nil => exact fun h => h
    | cons target targets ih => exact fun h => ih (h.addTarget result.name target)
  have hremove : ∀ targets {r : IntentionsReconciler}, r.Knows t →
      (r.removeTargets result.name targets).Knows t := by
    intro targets
    induction targets with
    | nil => exact fun h => h
    | cons target targets ih => exact fun h => ih (h.removeTarget result.name target)
  exact hremove _ (hadd _ h)

end IntentionsReconciler

/-! ### What has happened to the targets -/

/-- The reconciler, with what has happened to its targets. -/
structure History where
  reconciler : IntentionsReconciler
  /-- The targets that have ever been in the index. -/
  ever : ServiceNameIndex
  /-- The targets whose removal has succeeded since they last left the index. -/
  revoked : ServiceNameIndex

namespace History

def new : History := ⟨.new, ∅, ∅⟩

/-- The targets of the reconciler change. -/
def observe (h : History) (r : IntentionsReconciler) : History where
  reconciler := r
  ever := h.ever ∪ r.targetIndex.keys
  -- a target that leaves the index has to be revoked again
  revoked := h.revoked.filter fun t => ¬ (t ∈ h.reconciler.targetIndex ∧ t ∉ r.targetIndex)

/-- The loop over the added targets, target by target. -/
def addTargets (source : CompoundServiceName) (targets : List CompoundServiceName) (h : History) :
    History :=
  targets.foldl (fun h target => h.observe (h.reconciler.addTargets source [target])) h

/-- The loop over the removed targets, target by target. -/
def removeTargets (source : CompoundServiceName) (targets : List CompoundServiceName)
    (h : History) : History :=
  targets.foldl (fun h target => h.observe (h.reconciler.removeTargets source [target])) h

def handleChainResult (result : DiscoChainWatchResult) (h : History) : History :=
  removeTargets result.name result.removed (addTargets result.name result.added h)

theorem addTargets_reconciler (source : CompoundServiceName)
    (targets : List CompoundServiceName) (h : History) :
    (addTargets source targets h).reconciler = h.reconciler.addTargets source targets := by
  induction targets generalizing h with
  | nil => rfl
  | cons target targets ih => exact ih _

theorem removeTargets_reconciler (source : CompoundServiceName)
    (targets : List CompoundServiceName) (h : History) :
    (removeTargets source targets h).reconciler = h.reconciler.removeTargets source targets := by
  induction targets generalizing h with
  | nil => rfl
  | cons target targets ih => exact ih _

/-- What is noted does not change what the reconciler does. -/
theorem handleChainResult_reconciler (result : DiscoChainWatchResult) (h : History) :
    (h.handleChainResult result).reconciler = h.reconciler.handleChainResult result := by
  rw [handleChainResult, removeTargets_reconciler, addTargets_reconciler]
  rfl

section Client

variable {σ : Type} (client : ConfigEntriesClient σ) (gatewayName : CompoundServiceName)

/-- A synchronisation, with the removals that have succeeded. -/
def syncIntentions (now : String) (orders : IntentionOrders) (h : History) (s : σ) :
    History × σ :=
  let result := syncIntentionsOf client gatewayName now orders h.reconciler s
  let source := sourceIntention gatewayName now
  ({ h with
      reconciler := result.1
      revoked := h.revoked ∪ delSucceeded client source orders.tombstones
        (addSources client source orders.targets s).2 }, result.2.2)

/-! ### Statement -/

/-- **No revocation is lost**: a target is not in the index and a tombstone at
once, every target in the index is referenced, and one that has left the index is
a tombstone until its removal has succeeded. -/
structure NothingLost (h : History) : Prop where
  apart : ∀ t ∈ h.reconciler.targetIndex, t ∉ h.reconciler.targetTombstones
  referenced : Referenced h.reconciler.targetIndex
  pending : ∀ t ∈ h.ever, t ∈ h.reconciler.targetIndex ∨ t ∈ h.reconciler.targetTombstones ∨
    t ∈ h.revoked

inductive Event
  | handleChainResult (result : DiscoChainWatchResult)
  | syncIntentions (now : String) (orders : IntentionOrders)

/-- The reconciler handles a result or synchronises the intentions. -/
def Step (s : History × σ) (e : Event) (s' : History × σ) : Prop :=
  match e with
  | .handleChainResult result => s' = (s.1.handleChainResult result, s.2)
  | .syncIntentions now orders => orders.Of s.1.reconciler ∧
    s' = s.1.syncIntentions client gatewayName now orders s.2

/-! ### The steps -/

theorem nothingLost_new : NothingLost new where
  apart _ ht := absurd ht Finmap.notMem_empty
  referenced _ ht := absurd ht Finmap.notMem_empty
  pending t ht := absurd ht (Finset.notMem_empty t)

/-- A change of the targets loses nothing if the reconciler knows all the targets
that it has known. -/
theorem NothingLost.observe {h : History} (hh : NothingLost h) {r : IntentionsReconciler}
    (hreferenced : Referenced r.targetIndex)
    (hapart : ∀ t ∈ r.targetIndex, t ∉ r.targetTombstones)
    (hknows : ∀ {t}, h.reconciler.Knows t → r.Knows t) : NothingLost (h.observe r) := by
  refine ⟨hapart, hreferenced, fun t ht => ?_⟩
  rcases Finset.mem_union.1 ht with ht | ht
  · by_cases hin : t ∈ h.reconciler.targetIndex
    · exact (hknows (.inl hin)).imp_right .inl
    · rcases hh.pending t ht with hindex | htombstone | hrevoked
      · exact absurd hindex hin
      · exact (hknows (.inr htombstone)).imp_right .inl
      · exact .inr (.inr (Finset.mem_filter.2 ⟨hrevoked, fun hleaves => hin hleaves.1⟩))
  · exact .inl (Finmap.mem_keys.1 ht)

theorem NothingLost.addTarget {h : History} (hh : NothingLost h)
    (source target : CompoundServiceName) :
    NothingLost (h.observe (h.reconciler.addTargets source [target])) := by
  refine hh.observe (hh.referenced.addRef target source) (fun t ht htombstone => ?_)
    (IntentionsReconciler.Knows.addTarget source target)
  have htombstone := Finset.mem_erase.1 htombstone
  rcases mem_addRef.1 ht with rfl | ht
  · exact htombstone.1 rfl
  · exact hh.apart t ht htombstone.2

theorem NothingLost.removeTarget {h : History} (hh : NothingLost h)
    (source target : CompoundServiceName) :
    NothingLost (h.observe (h.reconciler.removeTargets source [target])) := by
  refine hh.observe (hh.referenced.delRef target source) (fun t ht htombstone => ?_)
    (IntentionsReconciler.Knows.removeTarget source target)
  rw [IntentionsReconciler.removeTarget_tombstones] at htombstone
  have hapart := hh.apart t (mem_of_mem_delRef ht)
  split_ifs at htombstone with hempty
  · rcases Finset.mem_insert.1 htombstone with rfl | htombstone
    · exact mem_delRef_self ht hempty
    · exact hapart htombstone
  · exact hapart htombstone

theorem NothingLost.handleChainResult {h : History} (hh : NothingLost h)
    (result : DiscoChainWatchResult) : NothingLost (h.handleChainResult result) := by
  unfold History.handleChainResult History.addTargets History.removeTargets
  refine List.foldlRecOn _ _ ?_ fun h hh target _ => hh.removeTarget result.name target
  exact List.foldlRecOn _ _ hh fun h hh target _ => hh.addTarget result.name target

/-- A tombstone is dropped only after its removal has succeeded. -/
theorem NothingLost.syncIntentions {h : History} (hh : NothingLost h) (now : String)
    (orders : IntentionOrders) (s : σ) :
    NothingLost (h.syncIntentions client gatewayName now orders s).1 := by
  have hreconciler : (h.syncIntentions client gatewayName now orders s).1.reconciler =
      h.reconciler.syncIntentions _ := syncIntentionsOf_eq client gatewayName now orders _ s
  refine ⟨fun t ht htombstone => ?_, ?_, fun t ht => ?_⟩
  · rw [hreconciler] at ht htombstone
    exact hh.apart t ht (Finset.mem_inter.1 htombstone).1
  · rw [hreconciler]
    exact hh.referenced
  · rw [hreconciler]
    rcases hh.pending t ht with hindex | htombstone | hrevoked
    · exact .inl hindex
    · right
      by_cases hsucceeded : t ∈ delSucceeded client (sourceIntention gatewayName now)
        orders.tombstones (addSources client (sourceIntention gatewayName now) orders.targets s).2
      · exact .inr (Finset.mem_union_right _ hsucceeded)
      · left
        exact Finset.mem_inter.2 ⟨htombstone, Finset.mem_sdiff.2 ⟨htombstone, hsucceeded⟩⟩
    · exact .inr (.inr (Finset.mem_union_left _ hrevoked))

/-- **No revocation is ever lost**, whatever the watchers report and however
Consul fails. -/
theorem nothingLost_reachable (s₀ : σ) {s : History × σ}
    (h : Reachable (Step client gatewayName) (new, s₀) s) : NothingLost s.1 := by
  refine h.invariant (I := fun s => NothingLost s.1) nothingLost_new ?_
  intro s e s' hs hstep
  cases e with
  | handleChainResult result =>
    obtain rfl := hstep
    exact hs.handleChainResult result
  | syncIntentions now orders =>
    obtain ⟨-, rfl⟩ := hstep
    exact hs.syncIntentions client gatewayName now orders s.2

end Client

/-! ### A target that is removed while Consul fails -/

namespace SampleTombstone

open SampleServices (web api)

/-- Consul does not answer. -/
def unreachable : ConfigEntriesClient Unit where
  get _ s := (.error "connection refused", s)
  delete _ s := (some "connection refused", s)
  cas _ _ s := (.error "connection refused", s)

def added : History := new.handleChainResult ⟨web, [api], []⟩

def removed : History := added.handleChainResult ⟨web, [], [api]⟩

/-- The only tombstone is visited. -/
def orders : IntentionOrders := ⟨[], [api]⟩

def failed : History × Unit :=
  removed.syncIntentions unreachable ⟨"gateway", ""⟩ "now" orders ()

theorem failed_reachable : Reachable (Step unreachable ⟨"gateway", ""⟩) (new, ()) failed := by
  have hadded : Step unreachable ⟨"gateway", ""⟩ (new, ())
      (.handleChainResult ⟨web, [api], []⟩) (added, ()) := rfl
  have hremoved : Step unreachable ⟨"gateway", ""⟩ (added, ())
      (.handleChainResult ⟨web, [], [api]⟩) (removed, ()) := rfl
  have hfailed : Step unreachable ⟨"gateway", ""⟩ (removed, ())
      (.syncIntentions "now" orders) failed := by
    refine ⟨⟨.of_toFinset (by decide) (by decide), .of_toFinset (by decide) (by decide)⟩, rfl⟩
  exact ((Relation.ReflTransGen.single ⟨_, hadded⟩).tail ⟨_, hremoved⟩).tail ⟨_, hfailed⟩

end SampleTombstone

open SampleTombstone
open SampleServices (api)

/-- The removal of a target has failed: it is still a tombstone. -/
theorem nothingLost_failed : Reachable (Step unreachable ⟨"gateway", ""⟩) (new, ()) failed ∧
    api ∈ failed.1.reconciler.targetTombstones ∧ NothingLost failed.1 :=
  ⟨failed_reachable, by decide,
    nothingLost_reachable unreachable ⟨"gateway", ""⟩ () failed_reachable⟩

end History

end Consul
