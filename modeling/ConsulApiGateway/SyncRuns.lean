/-
Runs of the adapter for one gateway.

The adapter remembers what a synchronisation has written only at its end, so that
a synchronisation that fails half way may leave entries in Consul that no later
call removes.

* `Recorded` — the invariant: what the adapter has written and is still there,
  it remembers;
* `entriesExact_run` — the runs along which the entries in Consul are those of the
  last gateway;
* `failedSync_leaves_defaults` — a failing synchronisation of a new gateway.
-/
import ConsulApiGateway.RouterRules
import ConsulApiGateway.Run
import ConsulApiGateway.SyncAdapter

namespace Consul

open Core

/-- The adapter, Consul's config entries, and the keys of all entries the adapter
has ever set. -/
structure System where
  adapter : SyncAdapter
  consul : Entries
  written : Finset EntryKey

namespace System

open SyncAdapter

/-- A new adapter, next to any config entries. -/
def start (consul : Entries) : System := ⟨.new, consul, ∅⟩

/-- A call with the answers it gets. -/
inductive Event
  | sync (gateway : ResolvedGateway) (orders : ℕ → List (String × List HostnameMatch))
      (v : SyncVisit) (answers : Answers) (intentionsErr : Option String)
  | clear (v : ClearVisit) (answers : Answers)

/-- What a call returns: the adapter, the writes that succeeded, and the error. -/
def call (id : GatewayID) (s : System) : Event → SyncAdapter × List Write × Option String
  | .sync gateway orders v answers intentionsErr =>
    let result := s.adapter.syncGateway answers intentionsErr gateway
      (discoveryChain gateway orders) v
    (result.1, result.2.1, result.2.2.2)
  | .clear v answers => s.adapter.clear answers id v

/-- The keys of the entries that are set. -/
def setKeys (writes : List Write) : Finset EntryKey :=
  (writes.filterMap fun
    | .set entry => some entry.key
    | .delete _ => none).toFinset

/-- The system after a call. -/
def after (id : GatewayID) (s : System) (e : Event) : System where
  adapter := (s.call id e).1
  consul := applyAll s.consul (s.call id e).2.1
  written := s.written ∪ setKeys (s.call id e).2.1

/-- The call visits the indices and the hostnames as a whole. -/
def Event.Of (id : GatewayID) (s : System) : Event → Prop
  | .sync gateway orders v _ _ => gateway.id = id ∧ Visits gateway orders ∧
    v.Of s.adapter id (discoveryChain gateway orders)
  | .clear v _ => v.Of s.adapter id

def Step (id : GatewayID) (s : System) (e : Event) (s' : System) : Prop :=
  e.Of id s ∧ s' = s.after id e

/-! ### The law and the steps that keep it -/

/-- **The entries are exact**: a synchronisation without an error leaves, of the
entries the adapter ever wrote, those of the gateway; a removal without an error
leaves none. -/
def EntriesExact (id : GatewayID) (s : System) (e : Event) (s' : System) : Prop :=
  (s.call id e).2.2 = none → match e with
    | .sync gateway orders _ _ _ => ∀ entry,
      entry.key ∈ s'.written ∧ s'.consul.lookup entry.key = some entry ↔
        (discoveryChain gateway orders).Has entry
    | .clear _ _ => ∀ k ∈ s'.written, k ∉ s'.consul

/-- The adapter remembers an entry under this key. -/
def Remembers (id : GatewayID) (s : System) (k : EntryKey) : Prop :=
  ∃ existing entry, s.adapter.sync.lookup id = some existing ∧ existing.Has entry ∧ entry.key = k

/-- The calls that keep the law: if a write of a synchronisation is answered with
an error, the adapter remembers every entry that is set without one in the batches
up to and with the first such write. -/
def Contained (id : GatewayID) (s : System) : Event → Prop
  | .sync gateway orders v answers _ => ∀ before batch entry,
    FailsAt answers (syncBatches (discoveryChain gateway orders).ingress v) before batch →
      .set entry ∈ before.flatMap Prod.snd ++ batch.2 → answers (.set entry) = none →
        s.Remembers id entry.key
  | .clear _ _ => True

/-! ### The invariant -/

structure Recorded (id : GatewayID) (s : System) : Prop where
  ingress : ∀ {existing}, s.adapter.sync.lookup id = some existing →
    existing.ingress.name = id.service
  namespace_ : ∀ {existing entry}, s.adapter.sync.lookup id = some existing →
    existing.Has entry → entry.getNamespace = id.consulNamespace
  written : ∀ {k}, k ∈ s.written → k ∈ s.consul → s.Remembers id k

theorem recorded_start (id : GatewayID) (consul : Entries) : Recorded id (start consul) where
  ingress h := by simp [start, SyncAdapter.new] at h
  namespace_ h := by simp [start, SyncAdapter.new] at h
  written h := absurd h (Finset.notMem_empty _)

theorem mem_setKeys {writes : List Write} {k : EntryKey} :
    k ∈ setKeys writes ↔ ∃ entry, .set entry ∈ writes ∧ entry.key = k := by
  rw [setKeys, List.mem_toFinset, List.mem_filterMap]
  constructor
  · rintro ⟨write, hmem, hkey⟩
    cases write with
    | set entry => exact ⟨entry, hmem, Option.some.inj hkey⟩
    | delete entry => cases hkey
  · rintro ⟨entry, hmem, rfl⟩
    exact ⟨.set entry, hmem, rfl⟩

/-- A call after which the adapter remembers what it did before, and that only
sets what it remembers. -/
theorem Recorded.of_remembered {id : GatewayID} {s s' : System} {writes : List Write}
    (h : Recorded id s) (hadapter : s'.adapter = s.adapter)
    (hconsul : s'.consul = applyAll s.consul writes)
    (hwritten : s'.written = s.written ∪ setKeys writes)
    (hset : ∀ entry, .set entry ∈ writes → s.Remembers id entry.key) : Recorded id s' := by
  have hremembers : ∀ k, s'.Remembers id k ↔ s.Remembers id k := fun k => by
    rw [Remembers, hadapter]
    rfl
  refine ⟨?_, ?_, fun {k} hk hmem => ?_⟩
  · rw [hadapter]
    exact h.ingress
  · rw [hadapter]
    exact h.namespace_
  · rw [hremembers]
    rw [hwritten, Finset.mem_union, mem_setKeys] at hk
    rw [hconsul] at hmem
    rcases hk with hk | ⟨entry, hwrite, rfl⟩
    · rcases mem_applyAll hmem with ⟨entry, hwrite, rfl⟩ | hmem
      · exact hset entry hwrite
      · exact h.written hk hmem
    · exact hset entry hwrite

section Sync

variable {id : GatewayID} {s : System} {gateway : ResolvedGateway}
  {orders : ℕ → List (String × List HostnameMatch)} {v : SyncVisit}

/-- What the adapter remembers and does not compute any more is removed. -/
theorem Recorded.mem_removed (h : Recorded id s) (hid : gateway.id = id)
    (hv : v.Of s.adapter id (discoveryChain gateway orders)) {existing : DiscoveryChain}
    (hexisting : s.adapter.sync.lookup id = some existing) {old : ConfigEntry}
    (hold : existing.Has old)
    (hne : ∀ computed, (discoveryChain gateway orders).Has computed → computed.key ≠ old.key) :
    old ∈ v.removed := by
  have hnone : (discoveryChain gateway orders).get old.getKind old.getName = none := by
    rw [Option.eq_none_iff_forall_ne_some]
    intro computed hget
    have hnames := DiscoveryChain.get_eq_some hget
    have hhas : (discoveryChain gateway orders).Has computed := by
      rw [DiscoveryChain.Has, hnames.1, hnames.2, hget]
    refine hne computed hhas ?_
    rw [ConfigEntry.key, ConfigEntry.key, hnames.1, hnames.2, discoveryChain_namespace hhas,
      h.namespace_ hexisting hold, hid]
  rcases DiscoveryChain.has_iff.1 hold with rfl | hservice
  · -- the ingress entry is always computed
    exfalso
    have hname : (discoveryChain gateway orders).ingress.name = existing.ingress.name := by
      rw [h.ingress hexisting, (discoveryChain_spec gateway orders).1, hid]
    change (if existing.ingress.name = (discoveryChain gateway orders).ingress.name then
      some (ConfigEntry.ingressGateway _) else none) = none at hnone
    rw [if_pos hname.symm] at hnone
    cases hnone
  · exact (SyncAdapter.mem_removed hv).2 ⟨existing, hexisting, hservice, hnone⟩

/-- All writes of a synchronisation have succeeded. -/
theorem entries_of_synced (h : Recorded id s) (hid : gateway.id = id)
    (hv : v.Of s.adapter id (discoveryChain gateway orders)) {s' : System}
    (hconsul : s'.consul = applyAll s.consul
      ((syncBatches (discoveryChain gateway orders).ingress v).flatMap Prod.snd))
    (hwritten : s'.written = s.written ∪
      setKeys ((syncBatches (discoveryChain gateway orders).ingress v).flatMap Prod.snd))
    {k : EntryKey} {entry : ConfigEntry} :
    k ∈ s'.written ∧ s'.consul.lookup k = some entry ↔
      (discoveryChain gateway orders).Has entry ∧ entry.key = k := by
  have hset : ∀ entry, Write.set entry ∈
      (syncBatches (discoveryChain gateway orders).ingress v).flatMap Prod.snd ↔
        (discoveryChain gateway orders).Has entry := by
    intro entry
    rw [syncBatches_flatMap, List.mem_append, ← mem_added hv]
    simp
  rw [hwritten, hconsul, Finset.mem_union, mem_setKeys]
  rcases lookup_syncWrites hv s.consul k with ⟨computed, hhas, rfl, hlook⟩ | ⟨hne, hlook⟩
  · rw [hlook, Option.some.injEq]
    constructor
    · rintro ⟨-, rfl⟩
      exact ⟨hhas, rfl⟩
    · rintro ⟨hhas', hkey⟩
      exact ⟨.inr ⟨computed, (hset computed).2 hhas, rfl⟩, hhas.eq_of_key_eq hhas' hkey.symm⟩
  · -- nothing is computed for this key, so what was there has been removed
    refine iff_of_false ?_ fun ⟨hhas, hkey⟩ => hne entry hhas hkey
    rintro ⟨hk, hentry⟩
    rw [hlook] at hentry
    split_ifs at hentry with hremoved
    have hk : k ∈ s.written := by
      rcases hk with hk | ⟨entry', hwrite, hkey⟩
      · exact hk
      · exact absurd hkey (hne entry' ((hset entry').1 hwrite))
    obtain ⟨existing, old, hexisting, hold, rfl⟩ :=
      h.written hk (Finmap.mem_of_lookup_eq_some hentry)
    exact hremoved (List.mem_map_of_mem (h.mem_removed hid hv hexisting hold hne))

/-- A synchronisation either fails to write an entry, and remembers nothing new,
or makes all its writes and remembers them. -/
theorem call_sync_cases (s : System) (id : GatewayID) (gateway : ResolvedGateway)
    (orders : ℕ → List (String × List HostnameMatch)) (v : SyncVisit) (answers : Answers)
    (intentionsErr : Option String) :
    ((writeBatches answers (syncBatches (discoveryChain gateway orders).ingress v)).2 ≠ none ∧
        s.call id (.sync gateway orders v answers intentionsErr) =
          (s.adapter,
            writeBatches answers (syncBatches (discoveryChain gateway orders).ingress v))) ∨
      ∃ err, s.call id (.sync gateway orders v answers intentionsErr) =
        (s.adapter.setEntriesForGateway gateway (discoveryChain gateway orders),
          (syncBatches (discoveryChain gateway orders).ingress v).flatMap Prod.snd, err) := by
  cases hwrites : writeBatches answers (syncBatches (discoveryChain gateway orders).ingress v) with
  | mk writes err =>
    cases err with
    | some err =>
      refine .inl ⟨by simp, ?_⟩
      simp [call, syncGateway, hwrites]
    | none =>
      have hall := writeBatches_of_none (congrArg Prod.snd hwrites)
      rw [hwrites] at hall
      cases intentionsErr with
      | some err =>
        refine .inr ⟨some ("error syncing service intention config entries: " ++ err), ?_⟩
        simp only [call, syncGateway, hwrites, ← hall]
      | none => exact .inr ⟨none, by simp only [call, syncGateway, hwrites, ← hall]⟩

theorem Recorded.sync {answers : Answers} {intentionsErr : Option String} (h : Recorded id s)
    (hof : (Event.sync gateway orders v answers intentionsErr).Of id s)
    (hcontained : s.Contained id (.sync gateway orders v answers intentionsErr)) :
    Recorded id (s.after id (.sync gateway orders v answers intentionsErr)) ∧
      EntriesExact id s (.sync gateway orders v answers intentionsErr)
        (s.after id (.sync gateway orders v answers intentionsErr)) := by
  obtain ⟨hid, -, hv⟩ := hof
  rcases call_sync_cases s id gateway orders v answers intentionsErr with
    ⟨hfails, hcall⟩ | ⟨err, hcall⟩
  · -- after a failure what was written is among what is remembered, by `Contained`
    refine ⟨h.of_remembered ?_ rfl rfl ?_, fun hnone => ?_⟩
    · rw [after, hcall]
    · rw [hcall]
      obtain ⟨before, batch, hat, hwrites⟩ := writeBatches_of_some hfails
      intro entry hset
      rw [hwrites, List.mem_append, List.mem_filter, Option.isNone_iff_eq_none] at hset
      rcases hset with hset | ⟨hset, hanswer⟩
      · exact hcontained before batch entry hat (List.mem_append_left _ hset)
          (hat.before _ hset)
      · exact hcontained before batch entry hat (List.mem_append_right _ hset) hanswer
    · rw [hcall] at hnone
      exact absurd hnone hfails
  · have hentries : ∀ {k entry}, k ∈ (s.after id (.sync gateway orders v answers
        intentionsErr)).written ∧ (s.after id (.sync gateway orders v answers
        intentionsErr)).consul.lookup k = some entry ↔
          (discoveryChain gateway orders).Has entry ∧ entry.key = k :=
      entries_of_synced h hid hv (by rw [after, hcall]) (by rw [after, hcall])
    have hsync :
        (s.after id (.sync gateway orders v answers intentionsErr)).adapter.sync.lookup id =
        some (discoveryChain gateway orders) := by
      rw [after, hcall, setEntriesForGateway, hid]
      exact Finmap.lookup_insert _
    refine ⟨⟨?_, ?_, ?_⟩, fun _ entry => ?_⟩
    · rintro existing hexisting
      cases hsync.symm.trans hexisting
      rw [(discoveryChain_spec gateway orders).1, hid]
    · rintro existing entry hexisting hhas
      cases hsync.symm.trans hexisting
      rw [discoveryChain_namespace hhas, hid]
    · intro k hk hmem
      obtain ⟨entry, hlook⟩ := Finmap.mem_iff.1 hmem
      obtain ⟨hhas, hkey⟩ := hentries.1 ⟨hk, hlook⟩
      exact ⟨_, entry, hsync, hhas, hkey⟩
    · rw [hentries]
      exact and_iff_left rfl

end Sync

/-- A removal does nothing if the adapter remembers nothing; otherwise it makes its
writes, and forgets the gateway if none of them fails. -/
theorem call_clear_cases (s : System) (id : GatewayID) (v : ClearVisit) (answers : Answers) :
    (s.adapter.sync.lookup id = none ∧ s.call id (.clear v answers) = (s.adapter, [], none)) ∨
      ∃ existing, s.adapter.sync.lookup id = some existing ∧
        (((writeBatches answers (clearBatches existing.ingress v)).2 ≠ none ∧
            s.call id (.clear v answers) =
              (s.adapter, writeBatches answers (clearBatches existing.ingress v))) ∨
          ((writeBatches answers (clearBatches existing.ingress v)).2 = none ∧
            s.call id (.clear v answers) = (⟨s.adapter.sync.erase id⟩,
              writeBatches answers (clearBatches existing.ingress v)))) := by
  cases hlook : s.adapter.sync.lookup id with
  | none => exact .inl ⟨rfl, by simp [call, SyncAdapter.clear, entriesForGateway, hlook]⟩
  | some existing =>
    refine .inr ⟨existing, rfl, ?_⟩
    cases hwrites : writeBatches answers (clearBatches existing.ingress v) with
    | mk writes err =>
      cases err with
      | some err =>
        exact .inl ⟨by simp, by simp [call, SyncAdapter.clear, entriesForGateway, hlook, hwrites]⟩
      | none =>
        exact .inr ⟨rfl, by simp [call, SyncAdapter.clear, entriesForGateway, hlook, hwrites]⟩

theorem set_notMem_clearWrites {answers : Answers} {ingress : IngressGatewayConfigEntry}
    {v : ClearVisit} {entry : ConfigEntry} :
    Write.set entry ∉ (writeBatches answers (clearBatches ingress v)).1 := by
  intro hwrite
  obtain ⟨batch, hbatch, hwrite⟩ := mem_of_mem_writeBatches hwrite
  have hmem : Write.set entry ∈ (clearBatches ingress v).flatMap Prod.snd :=
    List.mem_flatMap.2 ⟨batch, hbatch, hwrite⟩
  rw [clearBatches_flatMap] at hmem
  simp at hmem

/-- What the adapter remembers is all there is, and a removal deletes it. -/
theorem Recorded.removed {id : GatewayID} {s : System} {v : ClearVisit} {existing : DiscoveryChain}
    (h : Recorded id s) (hv : v.Of s.adapter id) (hlook : s.adapter.sync.lookup id = some existing)
    {k : EntryKey} (hk : k ∈ s.written) :
    k ∉ applyAll s.consul ((v.removed existing.ingress).map .delete) := by
  intro hmem
  rw [← Finmap.lookup_isSome, lookup_applyAll_delete] at hmem
  split_ifs at hmem with hremoved
  · cases hmem
  · obtain ⟨existing', entry, hexisting', hhas, rfl⟩ :=
      h.written hk (Finmap.lookup_isSome.1 hmem)
    cases hlook.symm.trans hexisting'
    exact hremoved (List.mem_map_of_mem ((mem_clear_removed hv hlook).2 hhas))

theorem Recorded.clear {id : GatewayID} {s : System} {v : ClearVisit} {answers : Answers}
    (h : Recorded id s) (hv : v.Of s.adapter id) :
    Recorded id (s.after id (.clear v answers)) ∧
      EntriesExact id s (.clear v answers) (s.after id (.clear v answers)) := by
  rcases call_clear_cases s id v answers with
    ⟨hlook, hcall⟩ | ⟨existing, hlook, ⟨hfails, hcall⟩ | ⟨hnone, hcall⟩⟩
  · -- nothing is remembered of the gateway, so nothing of it is left
    refine ⟨h.of_remembered ?_ rfl rfl ?_, fun _ k hk hmem => ?_⟩
    · rw [after, hcall]
    · rw [hcall]
      simp
    · rw [after, hcall] at hk hmem
      obtain ⟨existing, -, hexisting, -⟩ := h.written (by simpa [setKeys] using hk) hmem
      rw [hlook] at hexisting
      cases hexisting
  · -- a failed clearing only deletes, and forgets nothing
    refine ⟨h.of_remembered ?_ rfl rfl ?_, fun hnone => ?_⟩
    · rw [after, hcall]
    · rw [hcall]
      exact fun entry hwrite => absurd hwrite set_notMem_clearWrites
    · rw [hcall] at hnone
      exact absurd hnone hfails
  · have hempty : ∀ k ∈ (s.after id (.clear v answers)).written,
        k ∉ (s.after id (.clear v answers)).consul := by
      intro k hk
      rw [after, hcall] at hk ⊢
      have hk : k ∈ s.written := by
        rcases Finset.mem_union.1 hk with hk | hk
        · exact hk
        · obtain ⟨entry, hwrite, -⟩ := mem_setKeys.1 hk
          exact absurd hwrite set_notMem_clearWrites
      rw [writeBatches_of_none hnone, clearBatches_flatMap]
      exact h.removed hv hlook hk
    have hgone : (s.after id (.clear v answers)).adapter.sync.lookup id = none := by
      rw [after, hcall]
      exact Finmap.lookup_erase _ _
    refine ⟨⟨?_, ?_, fun hk hmem => absurd hmem (hempty _ hk)⟩, fun _ => hempty⟩
    · intro existing' hexisting'
      rw [hgone] at hexisting'
      cases hexisting'
    · intro existing' entry hexisting'
      rw [hgone] at hexisting'
      cases hexisting'

/-! ### Runs -/

/-- **The entries of a run are exact** as long as no synchronisation that fails
has set entries the adapter did not remember. -/
theorem entriesExact_run (id : GatewayID) (consul : Entries) {run : List (Event × System)}
    (hrun : Run (Step id) (start consul) run)
    (hcontained : Always (fun s e _ => s.Contained id e) (start consul) run) :
    Always (EntriesExact id) (start consul) run := by
  refine hrun.always_of_invariant (I := Recorded id) (recorded_start id consul) ?_ hcontained
  rintro s e s' h ⟨hof, rfl⟩ hcont
  cases e with
  | sync gateway orders v answers intentionsErr => exact (h.sync hof hcont).symm
  | clear v answers => exact (h.clear hof).symm

/-! ### A gateway with one route -/

namespace SampleSync

open Consul.SampleGateways

def router : ConfigEntry :=
  .serviceRouter (ownRouter oneListener (exampleListener 80 "one") "example.com")

def defaults : ConfigEntry := .serviceDefaults (httpServiceDefault router ∅)

/-- The visit of a first synchronisation of the gateway. -/
def firstVisit : SyncVisit where
  addedDefaults := [(router.getName, defaults)]
  addedRouters := [(router.getName, router)]
  addedSplitters := []
  removedRouters := []
  removedSplitters := []
  removedDefaults := []

/-- A first synchronisation, with the answers to its writes. -/
def firstSync (answers : Answers) : Event := .sync oneListener exampleOrders firstVisit answers none

/-- Consul refuses the routers. -/
def noRouters : Answers
  | .set (.serviceRouter _) => some "write failed"
  | _ => none

/-- A removal when nothing is remembered. -/
def emptyClear : Event := .clear ⟨[], [], []⟩ fun _ => none

theorem firstSync_step (answers : Answers) : Step oneListener.id (start ∅) (firstSync answers)
    ((start ∅).after oneListener.id (firstSync answers)) := by
  refine ⟨⟨rfl, oneListener_visits, ?_⟩, rfl⟩
  exact ⟨GoMap.ranges_singleton _ _, GoMap.ranges_singleton _ _, GoMap.ranges_empty,
    GoMap.ranges_empty, GoMap.ranges_empty, GoMap.ranges_empty⟩

/-- The gateway has moved to another hostname. -/
def moved : ResolvedGateway := exampleGateway [otherListener]

def movedOrders (_ : ℕ) : List (String × List HostnameMatch) :=
  [("example.org", [⟨defaultMatch, [], [backend "two"]⟩])]

def movedSync (v : SyncVisit) (answers : Answers) : Event := .sync moved movedOrders v answers none

theorem moved_visits : Visits moved movedOrders := by
  intro i l hl
  match i, hl with
  | 0, hl =>
    cases Option.some.inj hl
    exact GoMap.ranges_singleton _ _

theorem contained_of_none {id : GatewayID} {s : System} {gateway : ResolvedGateway}
    {orders : ℕ → List (String × List HostnameMatch)} {v : SyncVisit} :
    s.Contained id (.sync gateway orders v (fun _ => none) none) := by
  intro before batch entry hat
  obtain ⟨write, -, hanswer⟩ := hat.fails
  exact absurd rfl hanswer

/-- Whatever fails, a gateway that is already there as it is may be synchronised again. -/
theorem contained_resync {id : GatewayID} {s : System} {gateway : ResolvedGateway}
    {orders : ℕ → List (String × List HostnameMatch)} {v : SyncVisit} {answers : Answers}
    (hv : v.Of s.adapter id (discoveryChain gateway orders))
    (hsync : s.adapter.sync.lookup id = some (discoveryChain gateway orders)) :
    s.Contained id (.sync gateway orders v answers none) := by
  intro before batch entry hat hset _
  have hmem : Write.set entry ∈
      (syncBatches (discoveryChain gateway orders).ingress v).flatMap Prod.snd := by
    obtain ⟨rest, hrest⟩ := hat.batches
    rw [← hrest, List.flatMap_append, List.flatMap_append, List.flatMap_singleton]
    exact List.mem_append_left _ hset
  rw [syncBatches_flatMap, List.mem_append] at hmem
  have hadded : entry ∈ v.added (discoveryChain gateway orders).ingress := by simpa using hmem
  exact ⟨_, entry, hsync, (mem_added hv).1 hadded, rfl⟩

end SampleSync

open SampleSync Consul.SampleGateways

/-- The gateway moves to another hostname; its next synchronisation fails, and it is removed. -/
theorem entriesExact_moved : ∃ v₁ v₂ v₃ s₁ s₂ s₃ s₄,
    Run (Step oneListener.id) (start ∅) [(firstSync fun _ => none, s₁),
      (movedSync v₁ fun _ => none, s₂), (movedSync v₂ noRouters, s₃),
      (.clear v₃ fun _ => none, s₄)] ∧
    Always (EntriesExact oneListener.id) (start ∅) [(firstSync fun _ => none, s₁),
      (movedSync v₁ fun _ => none, s₂), (movedSync v₂ noRouters, s₃),
      (.clear v₃ fun _ => none, s₄)] := by
  let s₁ := (start ∅).after oneListener.id (firstSync fun _ => none)
  obtain ⟨v₁, hv₁⟩ := SyncVisit.exists_of s₁.adapter moved.id (discoveryChain moved movedOrders)
  let s₂ := s₁.after oneListener.id (movedSync v₁ fun _ => none)
  obtain ⟨v₂, hv₂⟩ := SyncVisit.exists_of s₂.adapter moved.id (discoveryChain moved movedOrders)
  let s₃ := s₂.after oneListener.id (movedSync v₂ noRouters)
  obtain ⟨v₃, hv₃⟩ := ClearVisit.exists_of s₃.adapter moved.id
  have hsync : s₂.adapter.sync.lookup moved.id = some (discoveryChain moved movedOrders) := by
    rcases call_sync_cases s₁ oneListener.id moved movedOrders v₁ (fun _ => none) none with
      ⟨hfails, -⟩ | ⟨err, hcall⟩
    · obtain ⟨before, batch, hat, -⟩ := writeBatches_of_some hfails
      obtain ⟨write, -, hanswer⟩ := hat.fails
      exact absurd rfl hanswer
    · change (s₁.call oneListener.id _).1.sync.lookup moved.id = _
      rw [movedSync, hcall]
      exact Finmap.lookup_insert _
  have hrun : Run (Step oneListener.id) (start ∅) [(firstSync fun _ => none, s₁),
      (movedSync v₁ fun _ => none, s₂), (movedSync v₂ noRouters, s₃),
      (.clear v₃ fun _ => none, s₃.after oneListener.id (.clear v₃ fun _ => none))] :=
    .cons (firstSync_step _) (.cons ⟨⟨rfl, moved_visits, hv₁⟩, rfl⟩
      (.cons ⟨⟨rfl, moved_visits, hv₂⟩, rfl⟩ (.cons ⟨hv₃, rfl⟩ (.nil _))))
  exact ⟨v₁, v₂, v₃, s₁, s₂, s₃, _, hrun, entriesExact_run oneListener.id ∅ hrun
    ⟨contained_of_none, contained_of_none, contained_resync hv₂ hsync, trivial, trivial⟩⟩

/-- **A failing synchronisation leaves its defaults**: the router is refused after
the defaults have been written, and the removal finds nothing to remove. -/
theorem failedSync_leaves_defaults : ∃ run, Run (Step oneListener.id) (start ∅) run ∧
    ¬ Always (EntriesExact oneListener.id) (start ∅) run := by
  let failed := (start ∅).after oneListener.id (firstSync noRouters)
  refine ⟨[(firstSync noRouters, failed), (emptyClear, failed.after oneListener.id emptyClear)],
    .cons (firstSync_step _) (.cons ⟨?_, rfl⟩ (.nil _)), ?_⟩
  · exact ⟨GoMap.ranges_empty, GoMap.ranges_empty, GoMap.ranges_empty⟩
  · rintro ⟨-, hexact, -⟩
    have hwritten : defaults.key ∈ setKeys [.set defaults] :=
      mem_setKeys.2 ⟨defaults, List.mem_singleton_self _, rfl⟩
    refine hexact rfl defaults.key ?_ ?_
    · exact Finset.mem_union_left _ (Finset.mem_union_right _ hwritten)
    · exact Finmap.mem_of_lookup_eq_some (Finmap.lookup_insert (a := defaults.key) ∅)

end System

end Consul
