/-
The adapter that writes gateways to Consul (`internal/adapters/consul/sync.go`).

A synchronisation writes what the discovery chain of the gateway computes and
removes what an earlier one wrote and is not computed any more; the adapter
remembers the entries of the last synchronisation that wrote and removed all of
them.  Entries are written one by one, and every write may fail: a batch goes on
after a failure, and the first batch with a failure ends the call.

* `writeBatches_of_none`, `writeBatches_of_some` — the writes of a call without and
  with an error;
* `lookup_syncWrites` — the entries after all writes of a synchronisation.
-/
import ConsulApiGateway.DiscoveryChain

namespace Consul

open Core

/-! ### Consul's config entries -/

/-- The config entries Consul holds. -/
abbrev Entries := GoMap EntryKey ConfigEntry

/-- A call of `ConfigEntries().Set` or `ConfigEntries().Delete`. -/
inductive Write
  | set (entry : ConfigEntry)
  | delete (entry : ConfigEntry)
  deriving DecidableEq

def Write.apply (consul : Entries) : Write → Entries
  | .set entry => consul.insert entry.key entry
  | .delete entry => consul.erase entry.key

def applyAll (consul : Entries) (writes : List Write) : Entries := writes.foldl Write.apply consul

/-- The error of each write, if it fails.  No call makes the same write twice. -/
abbrev Answers := Write → Option String

/-- The error of a `multierror` that the errors have been appended to. -/
def multierror : List String → Option String
  | [] => none
  | [err] => some ("1 error occurred:\n\t* " ++ err ++ "\n\n")
  | errs => some (toString errs.length ++ " errors occurred:\n\t" ++
      String.intercalate "\n\t" (errs.map fun err => "* " ++ err) ++ "\n\n")

/-- `setConfigEntries` and `deleteConfigEntries`: the writes that succeed and the
errors of the others. -/
def writeConfigEntries (answers : Answers) (writes : List Write) : List Write × Option String :=
  (writes.filter fun write => (answers write).isNone, multierror (writes.filterMap answers))

/-- Batches, each with the text of its error, up to the first that fails. -/
def writeBatches (answers : Answers) : List (String × List Write) → List Write × Option String
  | [] => ([], none)
  | (text, writes) :: batches =>
    match writeConfigEntries answers writes with
    -- the writes of the batch that did succeed are not taken back
    | (written, some err) => (written, some (text ++ ": " ++ err))
    | (written, none) =>
      let (rest, err) := writeBatches answers batches
      (written ++ rest, err)

/-! ### The adapter -/

/-- A `syncState`: the entries of a discovery chain. -/
abbrev SyncState := DiscoveryChain

structure SyncAdapter where
  sync : GoMap GatewayID SyncState

namespace SyncAdapter

def new : SyncAdapter := ⟨∅⟩

def entriesForGateway (a : SyncAdapter) (id : GatewayID) :
    Option IngressGatewayConfigEntry × ConfigEntryIndex .serviceRouter ×
      ConfigEntryIndex .serviceSplitter × ConfigEntryIndex .serviceDefaults :=
  match a.sync.lookup id with
  | none => (none, .new, .new, .new)
  | some existing =>
    (some existing.ingress, existing.routers, existing.splitters, existing.defaults)

def setEntriesForGateway (a : SyncAdapter) (gateway : ResolvedGateway) (chain : SyncState) :
    SyncAdapter :=
  ⟨a.sync.insert gateway.id chain⟩

/-- The orders in which the indices of a call are visited. -/
structure SyncVisit where
  addedDefaults : List (String × ConfigEntry)
  addedRouters : List (String × ConfigEntry)
  addedSplitters : List (String × ConfigEntry)
  removedRouters : List (String × ConfigEntry)
  removedSplitters : List (String × ConfigEntry)
  removedDefaults : List (String × ConfigEntry)

/-- The defaults go first, otherwise the routers would be configured to use TCP. -/
def syncBatches (ingress : IngressGatewayConfigEntry) (v : SyncVisit) :
    List (String × List Write) :=
  let set (order : List (String × ConfigEntry)) := (ConfigEntryIndex.toArray order).map Write.set
  let delete (order : List (String × ConfigEntry)) :=
    (ConfigEntryIndex.toArray order).map Write.delete
  [("error adding service defaults config entries", set v.addedDefaults),
   ("error adding service router config entries", set v.addedRouters),
   ("error adding service splitter config entries", set v.addedSplitters),
   ("error adding ingress config entry", [.set (.ingressGateway ingress)]),
   ("error removing service router config entries", delete v.removedRouters),
   ("error removing service splitter config entries", delete v.removedSplitters),
   ("error removing service defaults config entries", delete v.removedDefaults)]

/-- `Sync`, with the writes that succeed; `intentionsErr` is the error of syncing
the intentions. -/
def syncGateway (a : SyncAdapter) (answers : Answers) (intentionsErr : Option String)
    (gateway : ResolvedGateway) (chain : DiscoveryChain) (v : SyncVisit) :
    SyncAdapter × List Write × Bool × Option String :=
  match writeBatches answers (syncBatches chain.ingress v) with
  -- nothing is remembered of the entries written so far
  | (writes, some err) => (a, writes, false, some err)
  | (writes, none) =>
    match intentionsErr with
    | some err => (a.setEntriesForGateway gateway chain, writes, false,
        some ("error syncing service intention config entries: " ++ err))
    | none => (a.setEntriesForGateway gateway chain, writes, true, none)

structure ClearVisit where
  removedRouters : List (String × ConfigEntry)
  removedSplitters : List (String × ConfigEntry)
  removedDefaults : List (String × ConfigEntry)

/-- The ingress entry goes first, so that it is not in error while the defaults
are removed. -/
def clearBatches (ingress : IngressGatewayConfigEntry) (v : ClearVisit) :
    List (String × List Write) :=
  let delete (order : List (String × ConfigEntry)) :=
    (ConfigEntryIndex.toArray order).map Write.delete
  [("error removing ingress config entry", [.delete (.ingressGateway ingress)]),
   ("error removing service router config entries", delete v.removedRouters),
   ("error removing service splitter config entries", delete v.removedSplitters),
   ("error removing service defaults config entries", delete v.removedDefaults)]

/-- `Clear`, with the writes that succeed. -/
def clear (a : SyncAdapter) (answers : Answers) (id : GatewayID) (v : ClearVisit) :
    SyncAdapter × List Write × Option String :=
  match (a.entriesForGateway id).1 with
  | none => (a, [], none)
  | some ingress =>
    match writeBatches answers (clearBatches ingress v) with
    | (writes, some err) => (a, writes, some err)
    | (writes, none) => (⟨a.sync.erase id⟩, writes, none)

/-- The indices of a synchronisation are visited as a whole. -/
structure SyncVisit.Of (a : SyncAdapter) (id : GatewayID) (chain : DiscoveryChain)
    (v : SyncVisit) : Prop where
  addedDefaults : GoMap.Ranges chain.defaults.idx v.addedDefaults
  addedRouters : GoMap.Ranges chain.routers.idx v.addedRouters
  addedSplitters : GoMap.Ranges chain.splitters.idx v.addedSplitters
  removedRouters : GoMap.Ranges
    (chain.routers.difference (a.entriesForGateway id).2.1).idx v.removedRouters
  removedSplitters : GoMap.Ranges
    (chain.splitters.difference (a.entriesForGateway id).2.2.1).idx v.removedSplitters
  removedDefaults : GoMap.Ranges
    (chain.defaults.difference (a.entriesForGateway id).2.2.2).idx v.removedDefaults

theorem SyncVisit.exists_of (a : SyncAdapter) (id : GatewayID) (chain : DiscoveryChain) :
    ∃ v, SyncVisit.Of a id chain v := by
  obtain ⟨addedDefaults, h₁⟩ := GoMap.exists_ranges chain.defaults.idx
  obtain ⟨addedRouters, h₂⟩ := GoMap.exists_ranges chain.routers.idx
  obtain ⟨addedSplitters, h₃⟩ := GoMap.exists_ranges chain.splitters.idx
  obtain ⟨removedRouters, h₄⟩ := GoMap.exists_ranges
    (chain.routers.difference (a.entriesForGateway id).2.1).idx
  obtain ⟨removedSplitters, h₅⟩ := GoMap.exists_ranges
    (chain.splitters.difference (a.entriesForGateway id).2.2.1).idx
  obtain ⟨removedDefaults, h₆⟩ := GoMap.exists_ranges
    (chain.defaults.difference (a.entriesForGateway id).2.2.2).idx
  exact ⟨⟨addedDefaults, addedRouters, addedSplitters, removedRouters, removedSplitters,
    removedDefaults⟩, h₁, h₂, h₃, h₄, h₅, h₆⟩

/-- The indices of a removal are visited as a whole. -/
structure ClearVisit.Of (a : SyncAdapter) (id : GatewayID) (v : ClearVisit) : Prop where
  removedRouters : GoMap.Ranges (a.entriesForGateway id).2.1.idx v.removedRouters
  removedSplitters : GoMap.Ranges (a.entriesForGateway id).2.2.1.idx v.removedSplitters
  removedDefaults : GoMap.Ranges (a.entriesForGateway id).2.2.2.idx v.removedDefaults

theorem ClearVisit.exists_of (a : SyncAdapter) (id : GatewayID) : ∃ v, ClearVisit.Of a id v := by
  obtain ⟨removedRouters, h₁⟩ := GoMap.exists_ranges (a.entriesForGateway id).2.1.idx
  obtain ⟨removedSplitters, h₂⟩ := GoMap.exists_ranges (a.entriesForGateway id).2.2.1.idx
  obtain ⟨removedDefaults, h₃⟩ := GoMap.exists_ranges (a.entriesForGateway id).2.2.2.idx
  exact ⟨⟨removedRouters, removedSplitters, removedDefaults⟩, h₁, h₂, h₃⟩

end SyncAdapter

/-! ### Writes -/

theorem multierror_eq_none {errs : List String} : multierror errs = none ↔ errs = [] := by
  match errs with
  | [] => simp [multierror]
  | [err] => simp [multierror]
  | err :: err' :: errs => simp [multierror]

theorem writeConfigEntries_eq_none {answers : Answers} {writes : List Write} :
    (writeConfigEntries answers writes).2 = none ↔ ∀ write ∈ writes, answers write = none :=
  multierror_eq_none.trans List.filterMap_eq_nil_iff

theorem writeConfigEntries_of_none {answers : Answers} {writes : List Write}
    (h : ∀ write ∈ writes, answers write = none) :
    writeConfigEntries answers writes = (writes, none) := by
  refine Prod.ext ?_ (writeConfigEntries_eq_none.2 h)
  exact List.filter_eq_self.2 fun write hmem => Option.isNone_iff_eq_none.2 (h write hmem)

/-- Without an error a batch is made as a whole, and so are those after it. -/
theorem writeBatches_cons_of_none {answers : Answers} {batch : String × List Write}
    {batches : List (String × List Write)}
    (h : (writeBatches answers (batch :: batches)).2 = none) :
    (∀ write ∈ batch.2, answers write = none) ∧ (writeBatches answers batches).2 = none ∧
      (writeBatches answers (batch :: batches)).1 =
        batch.2 ++ (writeBatches answers batches).1 := by
  obtain ⟨text, writes⟩ := batch
  by_cases hall : ∀ write ∈ writes, answers write = none
  · simp only [writeBatches, writeConfigEntries_of_none hall] at h ⊢
    exact ⟨hall, h, trivial⟩
  · obtain ⟨err, herr⟩ := Option.ne_none_iff_exists'.1 (mt writeConfigEntries_eq_none.1 hall)
    rw [writeBatches, show writeConfigEntries answers writes = (_, some err) from
      Prod.ext rfl herr] at h
    cases h

/-- Without an error all writes of the batches are made, in their order. -/
theorem writeBatches_of_none {answers : Answers} {batches : List (String × List Write)}
    (h : (writeBatches answers batches).2 = none) :
    (writeBatches answers batches).1 = batches.flatMap Prod.snd := by
  induction batches with
  | nil => rfl
  | cons batch batches ih =>
    obtain ⟨-, hrest, heq⟩ := writeBatches_cons_of_none h
    rw [heq, ih hrest, List.flatMap_cons]

/-- Without an error none of the writes fails. -/
theorem answers_of_none {answers : Answers} {batches : List (String × List Write)}
    (h : (writeBatches answers batches).2 = none) :
    ∀ write ∈ batches.flatMap Prod.snd, answers write = none := by
  induction batches with
  | nil => simp
  | cons batch batches ih =>
    obtain ⟨hall, hrest, -⟩ := writeBatches_cons_of_none h
    rw [List.flatMap_cons, List.forall_mem_append]
    exact ⟨hall, ih hrest⟩

/-- The batches up to the first one with a failing write. -/
structure FailsAt (answers : Answers) (batches before : List (String × List Write))
    (batch : String × List Write) : Prop where
  batches : before ++ [batch] <+: batches
  before : ∀ write ∈ before.flatMap Prod.snd, answers write = none
  fails : ∃ write ∈ batch.2, answers write ≠ none

/-- With an error the writes up to the first failing batch are made, of that
batch those that do not fail. -/
theorem writeBatches_of_some {answers : Answers} {batches : List (String × List Write)}
    (h : (writeBatches answers batches).2 ≠ none) :
    ∃ before batch, FailsAt answers batches before batch ∧
      (writeBatches answers batches).1 =
        before.flatMap Prod.snd ++ batch.2.filter fun write => (answers write).isNone := by
  induction batches with
  | nil => exact absurd rfl h
  | cons batch batches ih =>
    obtain ⟨text, writes⟩ := batch
    by_cases hall : ∀ write ∈ writes, answers write = none
    · simp only [writeBatches, writeConfigEntries_of_none hall] at h ⊢
      obtain ⟨before, batch, hfails, hwrites⟩ := ih h
      refine ⟨(text, writes) :: before, batch, ⟨?_, ?_, hfails.fails⟩, ?_⟩
      · exact (List.prefix_cons_inj _).2 hfails.batches
      · rw [List.flatMap_cons, List.forall_mem_append]
        exact ⟨hall, hfails.before⟩
      · rw [hwrites, List.flatMap_cons, List.append_assoc]
    · obtain ⟨err, herr⟩ := Option.ne_none_iff_exists'.1
        (mt writeConfigEntries_eq_none.1 hall)
      push Not at hall
      refine ⟨[], (text, writes), ⟨⟨batches, rfl⟩, by simp, hall⟩, ?_⟩
      rw [writeBatches, show writeConfigEntries answers writes = (_, some err) from
        Prod.ext rfl herr]
      rfl

/-- Only writes of the batches are made. -/
theorem mem_of_mem_writeBatches {answers : Answers} {batches : List (String × List Write)}
    {write : Write} (h : write ∈ (writeBatches answers batches).1) :
    ∃ batch ∈ batches, write ∈ batch.2 := by
  by_cases hnone : (writeBatches answers batches).2 = none
  · rw [writeBatches_of_none hnone] at h
    exact List.mem_flatMap.1 h
  · obtain ⟨before, batch, hat, hwrites⟩ := writeBatches_of_some hnone
    have hmem : write ∈ (before ++ [batch]).flatMap Prod.snd := by
      rw [hwrites, List.mem_append] at h
      rw [List.flatMap_append, List.flatMap_singleton, List.mem_append]
      exact h.imp_right List.mem_of_mem_filter
    obtain ⟨batch', hbatch', hwrite⟩ := List.mem_flatMap.1 hmem
    exact ⟨batch', hat.batches.subset hbatch', hwrite⟩

theorem lookup_applyAll_set (consul : Entries) (entries : List ConfigEntry) (k : EntryKey) :
    (∃ entry ∈ entries, entry.key = k ∧
        (applyAll consul (entries.map .set)).lookup k = some entry) ∨
      ((∀ entry ∈ entries, entry.key ≠ k) ∧
        (applyAll consul (entries.map .set)).lookup k = consul.lookup k) := by
  induction entries generalizing consul with
  | nil => exact .inr ⟨by simp, rfl⟩
  | cons head entries ih =>
    rw [applyAll, List.map_cons, List.foldl_cons, ← applyAll, Write.apply]
    rcases ih (consul.insert head.key head) with ⟨entry, hmem, hkey, hlook⟩ | ⟨hne, hlook⟩
    · exact .inl ⟨entry, List.mem_cons_of_mem _ hmem, hkey, hlook⟩
    · rw [hlook, GoMap.lookup_insert_ite]
      by_cases heq : k = head.key
      · exact .inl ⟨head, List.mem_cons_self .., heq.symm, if_pos heq⟩
      · refine .inr ⟨?_, if_neg heq⟩
        simpa [Ne.symm heq] using hne

theorem lookup_applyAll_delete (consul : Entries) (entries : List ConfigEntry) (k : EntryKey) :
    (applyAll consul (entries.map .delete)).lookup k =
      if k ∈ entries.map ConfigEntry.key then none else consul.lookup k := by
  induction entries generalizing consul with
  | nil => simp [applyAll]
  | cons head entries ih =>
    rw [applyAll, List.map_cons, List.foldl_cons, ← applyAll, ih, Write.apply,
      GoMap.lookup_erase_ite]
    by_cases heq : k = head.key <;> simp [heq]

/-- An entry that is there after some writes was set by one of them or was there
before. -/
theorem mem_applyAll {consul : Entries} {writes : List Write} {k : EntryKey}
    (h : k ∈ applyAll consul writes) :
    (∃ entry, .set entry ∈ writes ∧ entry.key = k) ∨ k ∈ consul := by
  induction writes generalizing consul with
  | nil => exact .inr h
  | cons write writes ih =>
    rcases ih h with ⟨entry, hmem, hkey⟩ | hmem
    · exact .inl ⟨entry, List.mem_cons_of_mem _ hmem, hkey⟩
    · cases write with
      | set entry =>
        rcases Finmap.mem_insert.1 hmem with rfl | hmem
        · exact .inl ⟨entry, List.mem_cons_self .., rfl⟩
        · exact .inr hmem
      | delete entry => exact .inr (Finmap.mem_erase.1 hmem).2

/-! ### All writes of a call -/

namespace SyncAdapter

/-- The entries a synchronisation sets, in their order. -/
def SyncVisit.added (v : SyncVisit) (ingress : IngressGatewayConfigEntry) : List ConfigEntry :=
  ConfigEntryIndex.toArray v.addedDefaults ++ ConfigEntryIndex.toArray v.addedRouters ++
    ConfigEntryIndex.toArray v.addedSplitters ++ [.ingressGateway ingress]

/-- The entries a synchronisation removes, in their order. -/
def SyncVisit.removed (v : SyncVisit) : List ConfigEntry :=
  ConfigEntryIndex.toArray v.removedRouters ++ ConfigEntryIndex.toArray v.removedSplitters ++
    ConfigEntryIndex.toArray v.removedDefaults

theorem syncBatches_flatMap (ingress : IngressGatewayConfigEntry) (v : SyncVisit) :
    (syncBatches ingress v).flatMap Prod.snd =
      (v.added ingress).map .set ++ v.removed.map .delete := by
  simp [syncBatches, SyncVisit.added, SyncVisit.removed]

/-- The entries a removal deletes, in their order. -/
def ClearVisit.removed (v : ClearVisit) (ingress : IngressGatewayConfigEntry) : List ConfigEntry :=
  .ingressGateway ingress :: (ConfigEntryIndex.toArray v.removedRouters ++
    ConfigEntryIndex.toArray v.removedSplitters ++ ConfigEntryIndex.toArray v.removedDefaults)

theorem clearBatches_flatMap (ingress : IngressGatewayConfigEntry) (v : ClearVisit) :
    (clearBatches ingress v).flatMap Prod.snd = (v.removed ingress).map .delete := by
  simp [clearBatches, ClearVisit.removed]

variable {a : SyncAdapter} {id : GatewayID} {chain : DiscoveryChain} {v : SyncVisit}

theorem mem_added (hv : v.Of a id chain) {entry : ConfigEntry} :
    entry ∈ v.added chain.ingress ↔ chain.Has entry := by
  rw [DiscoveryChain.has_iff]
  simp only [SyncVisit.added, List.mem_append, List.mem_singleton,
    ConfigEntryIndex.mem_toArray hv.addedDefaults, ConfigEntryIndex.mem_toArray hv.addedRouters,
    ConfigEntryIndex.mem_toArray hv.addedSplitters]
  constructor
  · rintro (((h | h) | h) | h)
    · exact .inr (.inr (.inr h))
    · exact .inr (.inl h)
    · exact .inr (.inr (.inl h))
    · exact .inl h
  · rintro (h | h | h | h)
    · exact .inr h
    · exact .inl (.inl (.inr h))
    · exact .inl (.inr h)
    · exact .inl (.inl (.inl h))

/-- What is removed was written before and is not computed any more. -/
theorem mem_removed (hv : v.Of a id chain) {entry : ConfigEntry} :
    entry ∈ v.removed ↔ ∃ existing, a.sync.lookup id = some existing ∧
      existing.HasService entry ∧ chain.get entry.getKind entry.getName = none := by
  simp only [SyncVisit.removed, List.mem_append, ConfigEntryIndex.mem_toArray hv.removedDefaults,
    ConfigEntryIndex.mem_toArray hv.removedRouters,
    ConfigEntryIndex.mem_toArray hv.removedSplitters, ConfigEntryIndex.has_difference]
  cases hlook : a.sync.lookup id with
  | none => simp [entriesForGateway, hlook, ConfigEntryIndex.not_has_new]
  | some existing =>
    simp only [entriesForGateway, hlook, Option.some.injEq, exists_eq_left',
      DiscoveryChain.HasService, or_and_right, or_assoc]
    refine or_congr (and_congr_right fun h => ?_) (or_congr (and_congr_right fun h => ?_)
      (and_congr_right fun h => ?_))
    all_goals
      rw [h.getKind]
      rfl

/-- The entries after all writes of a synchronisation. -/
theorem lookup_syncWrites (hv : v.Of a id chain) (consul : Entries) (k : EntryKey) :
    (∃ entry, chain.Has entry ∧ entry.key = k ∧ (applyAll consul
        ((syncBatches chain.ingress v).flatMap Prod.snd)).lookup k = some entry) ∨
      (∀ entry, chain.Has entry → entry.key ≠ k) ∧ (applyAll consul
        ((syncBatches chain.ingress v).flatMap Prod.snd)).lookup k =
          if k ∈ v.removed.map ConfigEntry.key then none else consul.lookup k := by
  rw [syncBatches_flatMap, applyAll, List.foldl_append, ← applyAll, ← applyAll,
    lookup_applyAll_delete]
  rcases lookup_applyAll_set consul (v.added chain.ingress) k with
    ⟨entry, hmem, rfl, hlook⟩ | ⟨hne, hlook⟩
  · -- what is computed is not removed
    have hhas := (mem_added hv).1 hmem
    refine .inl ⟨entry, hhas, rfl, ?_⟩
    rw [if_neg, hlook]
    intro hremoved
    obtain ⟨entry', hmem', hkey⟩ := List.mem_map.1 hremoved
    obtain ⟨existing, -, -, hnone⟩ := (mem_removed hv).1 hmem'
    have hkind : entry'.getKind = entry.getKind := congrArg EntryKey.kind hkey
    have hname : entry'.getName = entry.getName := congrArg EntryKey.name hkey
    rw [hkind, hname, hhas] at hnone
    cases hnone
  · refine .inr ⟨fun entry hhas => hne entry ((mem_added hv).2 hhas), ?_⟩
    rw [hlook]

/-- A removal deletes all entries of the adapter. -/
theorem mem_clear_removed {existing : SyncState} {v : ClearVisit} (hv : v.Of a id)
    (h : a.sync.lookup id = some existing) {entry : ConfigEntry} :
    entry ∈ v.removed existing.ingress ↔ existing.Has entry := by
  have hr := hv.removedRouters
  have hs := hv.removedSplitters
  have hd := hv.removedDefaults
  simp only [entriesForGateway, h] at hr hs hd
  rw [DiscoveryChain.has_iff, ClearVisit.removed, List.mem_cons, List.mem_append, List.mem_append,
    ConfigEntryIndex.mem_toArray hr, ConfigEntryIndex.mem_toArray hs,
    ConfigEntryIndex.mem_toArray hd, or_assoc]

end SyncAdapter

end Consul
