/-
The intentions in a Consul that answers every call.

* `updateIntentionSources_store` — an update is applied to the intention of its
  target;
* `Granted` — who is a source of which intention, and what the updates of a
  gateway do to it.
-/
import ConsulApiGateway.IntentionUpdates

namespace Consul

/-! ### The store -/

/-- The sources of every intention. -/
abbrev IntentionStore := GoMap CompoundServiceName (List SourceIntention)

namespace IntentionStore

/-- The interface to the store. -/
def client : ConfigEntriesClient IntentionStore where
  get name s :=
    match s.lookup name with
    | some sources => (.ok (⟨name.name, name.namespace_, sources⟩, 1), s)
    | none => (.error "Unexpected response code: 404", s)
  delete name s := (none, s.erase name)
  cas entry _ s := (.ok true, s.insert ⟨entry.name, entry.namespace_⟩ entry.sources)

/-- The sources of an intention; none if there is no such intention. -/
def sourcesOf (s : IntentionStore) (name : CompoundServiceName) : List SourceIntention :=
  (s.lookup name).getD []

/-- The store after an update. -/
def update (s : IntentionStore) (name : CompoundServiceName) (updateFn : UpdateFn) :
    IntentionStore :=
  if (updateFn (s.sourcesOf name)).2 then
    if (updateFn (s.sourcesOf name)).1.length = 0 then s.erase name
    else s.insert name (updateFn (s.sourcesOf name)).1
  else s

theorem getOrInitIntention_store (name : CompoundServiceName) (s : IntentionStore) :
    ∃ idx, getOrInitIntention client name s =
      (.ok (⟨name.name, name.namespace_, s.sourcesOf name⟩, idx), s) := by
  cases hlook : s.lookup name with
  | some sources =>
    refine ⟨1, ?_⟩
    simp [getOrInitIntention, client, hlook, sourcesOf]
  | none =>
    refine ⟨0, ?_⟩
    have hcontains :
        contains "Unexpected response code: 404" "Unexpected response code: 404" = true := by decide
    simp [getOrInitIntention, client, hlook, sourcesOf, hcontains]

/-- **An update succeeds** and is applied to the intention of its target. -/
theorem updateIntentionSources_store (name : CompoundServiceName) (updateFn : UpdateFn)
    (s : IntentionStore) :
    updateIntentionSources client name updateFn s =
      (none, s.update (intentionName name) updateFn) := by
  have honce : updateIntention client (intentionName name) updateFn s =
      (none, s.update (intentionName name) updateFn) := by
    obtain ⟨idx, hget⟩ := getOrInitIntention_store (intentionName name) s
    simp only [updateIntention, hget, update]
    cases hupdate : updateFn (s.sourcesOf (intentionName name)) with
    | mk sources changed =>
      cases changed with
      | false => simp
      | true => by_cases hempty : sources.length = 0 <;> simp [hempty, client]
  simp only [updateIntentionSources, updateIntentionsMaxRetries, retry, honce]

theorem addSources_store (source : SourceIntention) (targets : List CompoundServiceName)
    (s : IntentionStore) :
    addSources client source targets s = ([], targets.foldl (fun s target =>
      s.update (intentionName target) (addSourceCB source)) s) := by
  induction targets generalizing s with
  | nil => rfl
  | cons target targets ih =>
    simp only [addSources, updateIntentionSources_store, ih, List.foldl_cons]

theorem delSources_store (source : SourceIntention) (targets : List CompoundServiceName)
    (tombstones : ServiceNameIndex) (s : IntentionStore) :
    delSources client source targets tombstones s =
      (tombstones \ targets.toFinset, [], targets.foldl (fun s target =>
        s.update (intentionName target) (delSourceCB source)) s) := by
  induction targets generalizing tombstones s with
  | nil => simp [delSources]
  | cons target targets ih =>
    simp only [delSources, updateIntentionSources_store, ih, List.foldl_cons]
    rw [List.toFinset_cons, Finset.sdiff_insert, Finset.erase_sdiff_comm]

end IntentionStore

/-! ### Sources -/

theorem sourceIntentionMatches_iff {a b : SourceIntention} :
    sourceIntentionMatches a b = true ↔ a.name = b.name ∧
      canonicalizeDefault a.namespace_ = canonicalizeDefault b.namespace_ := by
  rw [sourceIntentionMatches, decide_eq_true_iff]

theorem sourceIntentionMatches_comm (a b : SourceIntention) :
    sourceIntentionMatches a b = sourceIntentionMatches b a := by
  rw [Bool.eq_iff_iff, sourceIntentionMatches_iff, sourceIntentionMatches_iff,
    eq_comm (a := a.name), eq_comm (a := canonicalizeDefault a.namespace_)]

theorem addSourceCB_unchanged {source : SourceIntention} {sources : List SourceIntention}
    (h : (addSourceCB source sources).2 = false) : (addSourceCB source sources).1 = sources := by
  unfold addSourceCB at h ⊢
  split_ifs at h ⊢
  rfl

theorem delSourceCB_fst (source : SourceIntention) (sources : List SourceIntention) :
    (delSourceCB source sources).1 =
      sources.eraseP fun src => sourceIntentionMatches src source := by
  induction sources with
  | nil => rfl
  | cons src sources ih =>
    cases hmatch : sourceIntentionMatches src source with
    | true => simp [delSourceCB, hmatch]
    | false => simp [delSourceCB, hmatch, ih]

theorem filter_eraseP {α : Type} (p : α → Bool) (l : List α) :
    (l.eraseP p).filter p = (l.filter p).tail := by
  induction l with
  | nil => rfl
  | cons a l ih =>
    cases ha : p a with
    | true => simp [ha]
    | false => simp [ha, ih]

theorem delSourceCB_unchanged {source : SourceIntention} {sources : List SourceIntention}
    (h : (delSourceCB source sources).2 = false) : (delSourceCB source sources).1 = sources := by
  induction sources with
  | nil => rfl
  | cons src sources ih =>
    unfold delSourceCB at h ⊢
    split_ifs at h ⊢
    rw [ih h]

namespace IntentionStore

theorem sourcesOf_update {updateFn : UpdateFn}
    (hupdate : ∀ {sources}, (updateFn sources).2 = false → (updateFn sources).1 = sources)
    (s : IntentionStore) (name k : CompoundServiceName) :
    (s.update name updateFn).sourcesOf k =
      if k = name then (updateFn (s.sourcesOf name)).1 else s.sourcesOf k := by
  unfold update
  split_ifs with hchanged hempty hk hk hk
  · rw [List.length_eq_zero_iff.1 hempty, hk, sourcesOf, Finmap.lookup_erase]
    rfl
  · rw [sourcesOf, Finmap.lookup_erase_ne hk]
    rfl
  · rw [hk, sourcesOf, Finmap.lookup_insert]
    rfl
  · rw [sourcesOf, Finmap.lookup_insert_of_ne _ hk]
    rfl
  · rw [hk, hupdate (Bool.not_eq_true _ ▸ hchanged)]
  · rfl

end IntentionStore

/-! ### The gateways among the sources -/

/-- The name of a gateway's service. -/
def gatewayServiceName (id : Core.GatewayID) : CompoundServiceName :=
  ⟨id.service, id.consulNamespace⟩

/-- The source is the one that the reconciler of the gateway adds. -/
def IsSourceOf (id : Core.GatewayID) (src : SourceIntention) : Prop :=
  ∃ now, src = sourceIntention (gatewayServiceName id) now

theorem IsSourceOf.id_eq {id id' : Core.GatewayID} {src : SourceIntention}
    (h : IsSourceOf id src) (h' : IsSourceOf id' src) : id = id' := by
  obtain ⟨now, rfl⟩ := h
  obtain ⟨now', heq⟩ := h'
  have hservice : id.service = id'.service := congrArg SourceIntention.name heq
  have hnamespace : id.consulNamespace = id'.consulNamespace :=
    congrArg SourceIntention.namespace_ heq
  cases id
  cases id'
  simp_all

/-- No other source matches. -/
def Sole (src : SourceIntention) (sources : List SourceIntention) : Prop :=
  sources.filter (fun other => sourceIntentionMatches other src) = [src]

theorem Sole.of_sublist {src : SourceIntention} {sources sources' : List SourceIntention}
    (h : Sole src sources) (hsub : List.Sublist sources' sources) (hmem : src ∈ sources') :
    Sole src sources' := by
  have hfilter := hsub.filter fun other => sourceIntentionMatches other src
  rw [h, List.sublist_singleton] at hfilter
  refine hfilter.resolve_left fun hnil => ?_
  rw [List.filter_eq_nil_iff] at hnil
  exact hnil src hmem (sourceIntentionMatches_iff.2 ⟨rfl, rfl⟩)

/-- The first source that matches is removed. -/
theorem Sole.notMem_eraseP {src : SourceIntention} {sources : List SourceIntention}
    (h : Sole src sources) :
    src ∉ sources.eraseP fun other => sourceIntentionMatches other src := by
  intro hmem
  have hnil := filter_eraseP (fun other => sourceIntentionMatches other src) sources
  rw [h, List.tail_cons, List.filter_eq_nil_iff] at hnil
  exact hnil src hmem (sourceIntentionMatches_iff.2 ⟨rfl, rfl⟩)

/-- The gateways are sources of intentions that they have, and no other source
matches them there. -/
def Granted (has : Core.GatewayID → CompoundServiceName → Prop) (s : IntentionStore) : Prop :=
  ∀ id name, ∀ src ∈ s.sourcesOf name, IsSourceOf id src →
    has id name ∧ Sole src (s.sourcesOf name)

section Granted

variable {has has' : Core.GatewayID → CompoundServiceName → Prop} {s : IntentionStore}
  {id : Core.GatewayID}

theorem Granted.mono (h : Granted has s) (hhas : ∀ id name, has id name → has' id name) :
    Granted has' s := fun id name src hsrc his =>
  (h id name src hsrc his).imp_left (hhas id name)

/-- The gateway is added to an intention that it has. -/
theorem Granted.add (h : Granted has s) {name : CompoundServiceName} (hname : has id name)
    (now : String) : Granted has (s.update name
      (addSourceCB (sourceIntention (gatewayServiceName id) now))) := by
  intro id' name' src hsrc his
  rw [IntentionStore.sourcesOf_update addSourceCB_unchanged] at hsrc ⊢
  by_cases heq : name' = name
  · subst heq
    rw [if_pos rfl] at hsrc ⊢
    unfold addSourceCB at hsrc ⊢
    split_ifs at hsrc ⊢ with hany
    · exact h id' name' src hsrc his
    · rw [Bool.not_eq_true, List.any_eq_false] at hany
      rcases List.mem_append.1 hsrc with hsrc | hsrc
      · -- what was there stays, and the new source is not its double
        obtain ⟨hhas, hsole⟩ := h id' name' src hsrc his
        refine ⟨hhas, ?_⟩
        have hnot : sourceIntentionMatches (sourceIntention (gatewayServiceName id) now) src =
            false := by
          rw [sourceIntentionMatches_comm]
          exact Bool.eq_false_iff.2 (hany src hsrc)
        rw [Sole, List.filter_append, hsole, List.filter_cons_of_neg (by simp [hnot])]
        rfl
      · cases List.mem_singleton.1 hsrc
        refine ⟨his.id_eq ⟨now, rfl⟩ ▸ hname, ?_⟩
        have hnone : (s.sourcesOf name').filter (fun other => sourceIntentionMatches other
            (sourceIntention (gatewayServiceName id) now)) = [] :=
          List.filter_eq_nil_iff.2 hany
        rw [Sole, List.filter_append, hnone, List.filter_cons_of_pos]
        · rfl
        · exact sourceIntentionMatches_iff.2 ⟨rfl, rfl⟩
  · rw [if_neg heq] at hsrc ⊢
    exact h id' name' src hsrc his

/-- The gateway is removed from an intention. -/
theorem Granted.del (h : Granted has s) (name : CompoundServiceName) (now : String) :
    Granted (fun id' name' => has id' name' ∧ ¬ (id' = id ∧ name' = name)) (s.update name
      (delSourceCB (sourceIntention (gatewayServiceName id) now))) := by
  intro id' name' src hsrc his
  rw [IntentionStore.sourcesOf_update delSourceCB_unchanged] at hsrc ⊢
  by_cases heq : name' = name
  · subst heq
    rw [if_pos rfl, delSourceCB_fst] at hsrc ⊢
    obtain ⟨hhas, hsole⟩ := h id' name' src (List.mem_of_mem_eraseP hsrc) his
    refine ⟨⟨hhas, ?_⟩, hsole.of_sublist List.eraseP_sublist hsrc⟩
    -- the source of the gateway itself was the first that matches
    rintro ⟨rfl, -⟩
    obtain ⟨now', rfl⟩ := his
    exact hsole.notMem_eraseP hsrc
  · rw [if_neg heq] at hsrc ⊢
    obtain ⟨hhas, hsole⟩ := h id' name' src hsrc his
    exact ⟨⟨hhas, fun hboth => heq hboth.2⟩, hsole⟩

theorem Granted.addAll (h : Granted has s) {targets : List CompoundServiceName}
    (htargets : ∀ target ∈ targets, has id (intentionName target)) (now : String) :
    Granted has (targets.foldl (fun s target => s.update (intentionName target)
      (addSourceCB (sourceIntention (gatewayServiceName id) now))) s) :=
  List.foldlRecOn _ _ h fun _ h target hmem => h.add (htargets target hmem) now

theorem Granted.delAll (h : Granted has s) (targets : List CompoundServiceName) (now : String) :
    Granted (fun id' name => has id' name ∧ ¬ (id' = id ∧ name ∈ targets.map intentionName))
      (targets.foldl (fun s target => s.update (intentionName target)
        (delSourceCB (sourceIntention (gatewayServiceName id) now))) s) := by
  induction targets generalizing has s with
  | nil => exact h.mono fun id' name hhas => ⟨hhas, fun hboth => by cases hboth.2⟩
  | cons target targets ih =>
    refine (ih (h.del (intentionName target) now)).mono ?_
    rintro id' name ⟨⟨hhas, hne⟩, hrest⟩
    refine ⟨hhas, ?_⟩
    rintro ⟨hid, hmem⟩
    rcases List.mem_cons.1 hmem with hname | hmem
    · exact hne ⟨hid, hname⟩
    · exact hrest ⟨hid, hmem⟩

/-- **A synchronisation** adds the gateway to the intentions of its targets and
removes it from those of its tombstones. -/
theorem Granted.syncIntentions (h : Granted has s) (r : IntentionsReconciler)
    {gatewayName : CompoundServiceName} (hname : gatewayName = gatewayServiceName id)
    (now : String) (orders : IntentionOrders)
    (htargets : ∀ target ∈ orders.targets, has id (intentionName target)) :
    Granted (fun id' name => has id' name ∧
        ¬ (id' = id ∧ name ∈ orders.tombstones.map intentionName))
      (syncIntentionsOf IntentionStore.client gatewayName now orders r s).2.2 := by
  subst hname
  unfold syncIntentionsOf
  simp only [IntentionStore.addSources_store, IntentionStore.delSources_store]
  exact (h.addAll htargets now).delAll orders.tombstones now

end Granted

/-- All tombstones that are visited are dropped. -/
theorem syncIntentionsOf_reconciler (gatewayName : CompoundServiceName) (now : String)
    (orders : IntentionOrders) (r : IntentionsReconciler) (s : IntentionStore) :
    (syncIntentionsOf IntentionStore.client gatewayName now orders r s).1 =
      { r with targetTombstones := r.targetTombstones \ orders.tombstones.toFinset } := by
  unfold syncIntentionsOf
  simp only [IntentionStore.addSources_store, IntentionStore.delSources_store]

end Consul
