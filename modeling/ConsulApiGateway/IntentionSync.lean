/-
What a synchronisation leaves in Consul.

Targets are told apart by their namespace as it is given, while the intention of
a target in the namespace "default" is the one without a namespace.  The
gateway is first added to the intentions of all targets and then removed from
those of all tombstones; so a tombstone that shares its intention with a target
takes the gateway away from it.

* `sourcesOf_foldl_update` — the intentions after a loop of updates;
* `sourcesOf_sync` — the intentions after a synchronisation;
* `syncIntentions_settles_iff` — it does all it should exactly if no tombstone
  shares its intention with a target;
* `sharedIntention_loses_source` — two results of a watcher after which one does.
-/
import ConsulApiGateway.IntentionStore

namespace Consul

/-! ### Loops of updates -/

/-- A loop of updates applies the update once to every intention it visits, also
to one that it visits twice, provided a second update changes nothing. -/
theorem IntentionStore.sourcesOf_foldl_update {f : UpdateFn} {P : List SourceIntention → Prop}
    (hunchanged : ∀ {sources}, (f sources).2 = false → (f sources).1 = sources)
    (hkeep : ∀ sources, P sources → P (f sources).1)
    (htwice : ∀ sources, P sources → (f (f sources).1).1 = (f sources).1)
    (targets : List CompoundServiceName) :
    ∀ s : IntentionStore, (∀ k, P (s.sourcesOf k)) → ∀ k,
      (targets.foldl (fun s target => s.update (intentionName target) f) s).sourcesOf k =
        if k ∈ targets.map intentionName then (f (s.sourcesOf k)).1 else s.sourcesOf k := by
  induction targets with
  | nil => exact fun s _ k => rfl
  | cons target targets ih =>
    intro s hs k
    have hstep := IntentionStore.sourcesOf_update hunchanged s (intentionName target)
    have hs' : ∀ k, P ((s.update (intentionName target) f).sourcesOf k) := by
      intro k
      rw [hstep]
      split_ifs with hk
      · exact hkeep _ (hs _)
      · exact hs k
    rw [List.foldl_cons, ih _ hs' k, hstep]
    by_cases hk : k = intentionName target
    · subst hk
      simp only [if_true, List.map_cons, List.mem_cons, true_or, htwice _ (hs _), ite_self]
    · simp only [hk, if_false, List.map_cons, List.mem_cons, false_or]

/-! ### The source of the gateway -/

/-- The source is one of the gateway. -/
def MatchesGateway (gatewayName : CompoundServiceName) (src : SourceIntention) : Bool :=
  src.name = gatewayName.name ∧
    canonicalizeDefault src.namespace_ = canonicalizeDefault gatewayName.namespace_

variable {gatewayName : CompoundServiceName} {now : String}

@[simp] theorem matches_sourceIntention (src : SourceIntention) :
    sourceIntentionMatches src (sourceIntention gatewayName now) =
      MatchesGateway gatewayName src := rfl

/-- At most one source is of the gateway. -/
def AtMostOne (gatewayName : CompoundServiceName) (sources : List SourceIntention) : Prop :=
  (sources.filter (MatchesGateway gatewayName)).length ≤ 1

/-- No two sources have the same name in the same namespace. -/
def DistinctSources (sources : List SourceIntention) : Prop :=
  sources.Pairwise fun a b => sourceIntentionMatches a b = false

theorem DistinctSources.atMostOne {sources : List SourceIntention} (h : DistinctSources sources) :
    AtMostOne gatewayName sources := by
  unfold AtMostOne
  have hfilter := h.filter (MatchesGateway gatewayName)
  have hmem : ∀ src ∈ sources.filter (MatchesGateway gatewayName),
      MatchesGateway gatewayName src = true := fun src hsrc => (List.mem_filter.mp hsrc).2
  generalize sources.filter (MatchesGateway gatewayName) = l at hfilter hmem ⊢
  rcases l with _ | ⟨a, _ | ⟨b, rest⟩⟩
  · simp
  · simp
  · have hab := (List.pairwise_cons.mp hfilter).1 b List.mem_cons_self
    have ha := of_decide_eq_true (hmem a List.mem_cons_self)
    have hb := of_decide_eq_true (hmem b (by simp))
    have hmatch := sourceIntentionMatches_iff.mpr ⟨ha.1.trans hb.1.symm, ha.2.trans hb.2.symm⟩
    rw [hab] at hmatch
    cases hmatch

theorem matchesGateway_sourceIntention :
    MatchesGateway gatewayName (sourceIntention gatewayName now) = true :=
  decide_eq_true ⟨rfl, rfl⟩

/-- With a source of the gateway there is nothing to add. -/
theorem addSourceCB_fst (sources : List SourceIntention) :
    (addSourceCB (sourceIntention gatewayName now) sources).1 =
      if sources.any (MatchesGateway gatewayName) then sources
      else sources ++ [sourceIntention gatewayName now] := by
  have hany : (sources.any fun src =>
      sourceIntentionMatches src (sourceIntention gatewayName now)) =
        sources.any (MatchesGateway gatewayName) := rfl
  rw [addSourceCB, hany]
  split_ifs <;> rfl

theorem any_addSourceCB (sources : List SourceIntention) :
    (addSourceCB (sourceIntention gatewayName now) sources).1.any (MatchesGateway gatewayName) =
      true := by
  rw [addSourceCB_fst]
  split_ifs with h
  · exact h
  · rw [List.any_append, List.any_cons, matchesGateway_sourceIntention]
    simp

theorem filter_not_addSourceCB (sources : List SourceIntention) :
    (addSourceCB (sourceIntention gatewayName now) sources).1.filter
        (fun src => ¬ MatchesGateway gatewayName src) =
      sources.filter fun src => ¬ MatchesGateway gatewayName src := by
  rw [addSourceCB_fst]
  split_ifs
  · rfl
  · simp [matchesGateway_sourceIntention]

theorem AtMostOne.addSourceCB {sources : List SourceIntention} (h : AtMostOne gatewayName sources)
    (now : String) :
    AtMostOne gatewayName (addSourceCB (sourceIntention gatewayName now) sources).1 := by
  rw [addSourceCB_fst]
  split_ifs with hany
  · exact h
  · rw [Bool.not_eq_true, List.any_eq_false] at hany
    unfold AtMostOne
    rw [List.filter_append, List.filter_eq_nil_iff.mpr hany]
    exact List.length_filter_le _ _

theorem addSourceCB_twice (sources : List SourceIntention) :
    (addSourceCB (sourceIntention gatewayName now)
        (addSourceCB (sourceIntention gatewayName now) sources).1).1 =
      (addSourceCB (sourceIntention gatewayName now) sources).1 := by
  rw [addSourceCB_fst (addSourceCB _ sources).1, any_addSourceCB]
  rfl

/-- The first source of the gateway is removed, and with it all of them. -/
theorem delSourceCB_eq_filter {sources : List SourceIntention} (h : AtMostOne gatewayName sources) :
    (delSourceCB (sourceIntention gatewayName now) sources).1 =
      sources.filter fun src => ¬ MatchesGateway gatewayName src := by
  induction sources with
  | nil => rfl
  | cons src sources ih =>
    unfold AtMostOne at h ih
    cases hmatch : MatchesGateway gatewayName src with
    | true =>
      -- the rest has no source of the gateway
      rw [List.filter_cons_of_pos hmatch, List.length_cons] at h
      have hzero : (sources.filter (MatchesGateway gatewayName)).length = 0 := by omega
      have hnone := List.filter_eq_nil_iff.mp (List.length_eq_zero_iff.mp hzero)
      rw [delSourceCB, matches_sourceIntention, hmatch, if_pos rfl,
        List.filter_cons_of_neg (by simp [hmatch])]
      exact (List.filter_eq_self.mpr fun other hother => by simp [hnone other hother]).symm
    | false =>
      rw [List.filter_cons_of_neg (by simp [hmatch])] at h
      rw [delSourceCB, matches_sourceIntention, hmatch, if_neg (by simp), ih h,
        List.filter_cons_of_pos (by simp [hmatch])]

theorem AtMostOne.filter_not (sources : List SourceIntention) :
    AtMostOne gatewayName (sources.filter fun src => ¬ MatchesGateway gatewayName src) := by
  unfold AtMostOne
  rw [List.filter_filter, List.filter_eq_nil_iff.mpr]
  · exact Nat.zero_le 1
  · simp

/-! ### A synchronisation -/

variable {orders : IntentionOrders} {r : IntentionsReconciler} {s : IntentionStore}

/-- The sources of an intention after a synchronisation: the gateway is added for
the targets, and then removed for the tombstones. -/
theorem sourcesOf_sync (hs : ∀ k, AtMostOne gatewayName (s.sourcesOf k)) (now : String)
    (orders : IntentionOrders) (r : IntentionsReconciler) (k : CompoundServiceName) :
    (syncIntentionsOf IntentionStore.client gatewayName now orders r s).2.2.sourcesOf k =
      if k ∈ orders.tombstones.map intentionName then
        (s.sourcesOf k).filter fun src => ¬ MatchesGateway gatewayName src
      else if k ∈ orders.targets.map intentionName then
        (addSourceCB (sourceIntention gatewayName now) (s.sourcesOf k)).1
      else s.sourcesOf k := by
  have hadd := IntentionStore.sourcesOf_foldl_update (P := AtMostOne gatewayName)
    addSourceCB_unchanged (fun sources h => h.addSourceCB now)
    (fun sources _ => addSourceCB_twice sources) orders.targets s hs
  -- the deletions start from what the additions have left
  have hone : ∀ k, AtMostOne gatewayName ((orders.targets.foldl (fun s target =>
      s.update (intentionName target) (addSourceCB (sourceIntention gatewayName now))) s).sourcesOf
        k) := by
    intro k
    rw [hadd]
    split_ifs
    · exact (hs k).addSourceCB now
    · exact hs k
  have hdel := IntentionStore.sourcesOf_foldl_update (P := AtMostOne gatewayName)
    (f := delSourceCB (sourceIntention gatewayName now)) delSourceCB_unchanged
    (fun sources h => by rw [delSourceCB_eq_filter h]; exact AtMostOne.filter_not sources)
    (fun sources h => by
      rw [delSourceCB_eq_filter h, delSourceCB_eq_filter (AtMostOne.filter_not sources),
        List.filter_filter]
      simp) orders.tombstones _ hone
  unfold syncIntentionsOf
  simp only [IntentionStore.addSources_store, IntentionStore.delSources_store]
  rw [hdel, hadd]
  split_ifs with htomb htarget
  · rw [delSourceCB_eq_filter ((hs k).addSourceCB now), filter_not_addSourceCB]
  · rw [delSourceCB_eq_filter (hs k)]
  · rfl
  · rfl

/-- What a synchronisation of the gateway is to do: it succeeds and leaves no
tombstone, the gateway is a source of the intention of every target and not of
that of a tombstone that is no target, and the other sources stay. -/
structure Settles (gatewayName : CompoundServiceName) (r : IntentionsReconciler)
    (s : IntentionStore) (out : IntentionsReconciler × Option String × IntentionStore) : Prop where
  succeeds : out.2.1 = none
  tombstones : out.1.targetTombstones = ∅
  added : ∀ t ∈ r.targetIndex, ∃ src ∈ out.2.2.sourcesOf (intentionName t),
    MatchesGateway gatewayName src = true
  removed : ∀ t ∈ r.targetTombstones, (∀ u ∈ r.targetIndex, intentionName u ≠ intentionName t) →
    ∀ src ∈ out.2.2.sourcesOf (intentionName t), MatchesGateway gatewayName src = false
  others : ∀ name, ((out.2.2.sourcesOf name).filter fun src => ¬ MatchesGateway gatewayName src) =
    (s.sourcesOf name).filter fun src => ¬ MatchesGateway gatewayName src

/-- **A synchronisation settles exactly if no tombstone shares its intention with
a target.**  Whatever else it is to do it does in any case. -/
theorem syncIntentions_settles_iff (hs : ∀ name, DistinctSources (s.sourcesOf name))
    (ho : orders.Of r) :
    Settles gatewayName r s (syncIntentionsOf IntentionStore.client gatewayName now orders r s) ↔
      ∀ t ∈ r.targetTombstones, ∀ u ∈ r.targetIndex, intentionName u ≠ intentionName t := by
  have hone : ∀ k, AtMostOne gatewayName (s.sourcesOf k) := fun k => (hs k).atMostOne
  have hsources := sourcesOf_sync hone now orders r
  have htomb : ∀ {k}, k ∈ orders.tombstones.map intentionName ↔
      ∃ t ∈ r.targetTombstones, intentionName t = k := by
    intro k
    simp only [List.mem_map, ho.tombstones.mem_iff]
  have htarget : ∀ {k}, k ∈ orders.targets.map intentionName ↔
      ∃ t ∈ r.targetIndex, intentionName t = k := by
    intro k
    simp only [List.mem_map, ho.targets.mem_iff, Finmap.mem_keys]
  constructor
  · -- a target with the intention of a tombstone is removed after it was added
    rintro hsettles t ht u hu heq
    obtain ⟨src, hsrc, hmatch⟩ := hsettles.added u hu
    rw [hsources, if_pos (htomb.mpr ⟨t, ht, heq.symm⟩)] at hsrc
    simp [hmatch] at hsrc
  · intro hdisjoint
    refine ⟨?_, ?_, fun t ht => ?_, fun t ht _ src hsrc => ?_, fun name => ?_⟩
    · unfold syncIntentionsOf
      simp only [IntentionStore.addSources_store, IntentionStore.delSources_store]
      rfl
    · rw [syncIntentionsOf_reconciler]
      ext t
      simp [ho.tombstones.mem_iff]
    · have hnot : intentionName t ∉ orders.tombstones.map intentionName := by
        intro hmem
        obtain ⟨t', ht', heq⟩ := htomb.mp hmem
        exact hdisjoint t' ht' t ht heq.symm
      rw [hsources, if_neg hnot, if_pos (htarget.mpr ⟨t, ht, rfl⟩)]
      exact List.any_eq_true.mp (any_addSourceCB _)
    · rw [hsources, if_pos (htomb.mpr ⟨t, ht, rfl⟩)] at hsrc
      simpa using (List.mem_filter.mp hsrc).2
    · rw [hsources]
      split_ifs
      · rw [List.filter_filter]
        simp
      · exact filter_not_addSourceCB _
      · rfl

namespace SampleTargets

open SampleServices (web api)

def gateway : CompoundServiceName := ⟨"gateway", ""⟩
def service : CompoundServiceName := ⟨"service", ""⟩
def webDefault : CompoundServiceName := ⟨"web", "default"⟩

/-- A chain that leads to the service with its namespace. -/
def indexed : IntentionsReconciler := .handleChainResult .new ⟨service, [webDefault], []⟩

/-- The chain now leads to the service without it. -/
def renamed : IntentionsReconciler := indexed.handleChainResult ⟨service, [web], [webDefault]⟩

theorem renamed_orders : IntentionOrders.Of ⟨[web], [webDefault]⟩ renamed where
  targets := GoSet.Ranges.of_toFinset (by decide) rfl
  tombstones := GoSet.Ranges.of_toFinset (by decide) rfl

/-- The chain leads to another service. -/
def replaced : IntentionsReconciler := indexed.handleChainResult ⟨service, [api], [webDefault]⟩

theorem replaced_orders : IntentionOrders.Of ⟨[api], [webDefault]⟩ replaced where
  targets := GoSet.Ranges.of_toFinset (by decide) rfl
  tombstones := GoSet.Ranges.of_toFinset (by decide) rfl

/-- The gateway and another service may reach `web`. -/
def store : IntentionStore :=
  (∅ : GoMap _ _).insert web [sourceIntention gateway "before", sourceIntention service "before"]

theorem store_distinct (name : CompoundServiceName) : DistinctSources (store.sourcesOf name) := by
  rw [IntentionStore.sourcesOf, store, GoMap.lookup_insert_ite]
  split_ifs
  · exact List.pairwise_pair.2 (by decide)
  · exact List.Pairwise.nil

end SampleTargets

open SampleTargets
open SampleServices (web api)

/-- **The gateway is taken away from a target it has.**  The chain of a service
first names a target in the namespace "default" and then without a namespace:
the intention of both is the same, and it is left without the gateway. -/
theorem sharedIntention_loses_source :
    IntentionOrders.Of ⟨[web], [webDefault]⟩ renamed ∧ web ∈ renamed.targetIndex ∧
      (syncIntentionsOf IntentionStore.client gateway "now" ⟨[web], [webDefault]⟩ renamed
        ∅).2.2.sourcesOf (intentionName web) = [] ∧
      ¬ Settles gateway renamed ∅
        (syncIntentionsOf IntentionStore.client gateway "now" ⟨[web], [webDefault]⟩ renamed ∅) := by
  have hmem : web ∈ renamed.targetIndex := by decide
  have hnone : (syncIntentionsOf IntentionStore.client gateway "now" ⟨[web], [webDefault]⟩ renamed
      ∅).2.2.sourcesOf (intentionName web) = [] := by decide +kernel
  refine ⟨renamed_orders, hmem, hnone, fun hsettles => ?_⟩
  obtain ⟨src, hsrc, -⟩ := hsettles.added web hmem
  rw [hnone] at hsrc
  cases hsrc

/-- A target gives way to another one: the gateway becomes a source of the new one, and of the old
one only the other source is left. -/
theorem settles_replaced :
    (∀ name, DistinctSources (store.sourcesOf name)) ∧
      IntentionOrders.Of ⟨[api], [webDefault]⟩ replaced ∧
      Settles gateway replaced store
        (syncIntentionsOf IntentionStore.client gateway "now" ⟨[api], [webDefault]⟩ replaced
          store) := by
  refine ⟨store_distinct, replaced_orders, ?_⟩
  refine (syncIntentions_settles_iff store_distinct replaced_orders).mpr fun t ht u hu => ?_
  have htomb : replaced.targetTombstones = {webDefault} := by decide
  have htarget : replaced.targetIndex.keys = {api} := by decide
  rw [htomb, Finset.mem_singleton] at ht
  rw [← Finmap.mem_keys, htarget, Finset.mem_singleton] at hu
  rw [ht, hu]
  decide

end Consul
