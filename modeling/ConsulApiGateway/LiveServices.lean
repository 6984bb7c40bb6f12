/-
The services of a live ingress gateway.

A synchronisation is not a transaction: Consul may be read after any of its
writes, and any of them may fail.  The order in which entries are set and removed
keeps every service that the ingress entry names with its router and its HTTP
defaults, in every state on the way.

* `syncWrites_cases`, `clearWrites_cases` — the writes of a call, whatever fails;
* `servicesBacked_run` — the result for every state of every run.
-/
import ConsulApiGateway.ChainClosure
import ConsulApiGateway.SyncRuns

namespace Consul

open Core

/-! ### The writes of a call -/

/-- Two groups of batches: the first one fails, or it is written as a whole and
the second follows. -/
theorem writeBatches_append (answers : Answers) (bs cs : List (String × List Write)) :
    ((writeBatches answers bs).2 ≠ none ∧
        writeBatches answers (bs ++ cs) = writeBatches answers bs) ∨
      ((writeBatches answers bs).2 = none ∧ (writeBatches answers (bs ++ cs)).1 =
        bs.flatMap Prod.snd ++ (writeBatches answers cs).1) := by
  induction bs with
  | nil => exact .inr ⟨rfl, rfl⟩
  | cons batch bs ih =>
    obtain ⟨text, writes⟩ := batch
    by_cases hall : ∀ write ∈ writes, answers write = none
    · simp only [List.cons_append, writeBatches, writeConfigEntries_of_none hall]
      rcases ih with ⟨hfails, heq⟩ | ⟨hnone, heq⟩
      · exact .inl ⟨hfails, by rw [heq]⟩
      · exact .inr ⟨hnone, by rw [heq, List.flatMap_cons, List.append_assoc]⟩
    · obtain ⟨err, herr⟩ := Option.ne_none_iff_exists'.1
        (mt writeConfigEntries_eq_none.1 hall)
      left
      rw [List.cons_append, writeBatches, writeBatches,
        show writeConfigEntries answers writes = (_, some err) from Prod.ext rfl herr]
      exact ⟨Option.some_ne_none _, rfl⟩

/-- Of a batch with one write nothing is made if it fails. -/
theorem writeBatches_one_fails {answers : Answers} {text : String} {write : Write}
    (h : (writeBatches answers [(text, [write])]).2 ≠ none) :
    (writeBatches answers [(text, [write])]).1 = [] := by
  cases hw : answers write with
  | none => simp [writeBatches, writeConfigEntries, multierror, hw] at h
  | some err => simp [writeBatches, writeConfigEntries, multierror, hw]

theorem mem_flatMap_of_mem_writeBatches {answers : Answers} {batches : List (String × List Write)}
    {write : Write} (h : write ∈ (writeBatches answers batches).1) :
    write ∈ batches.flatMap Prod.snd := by
  obtain ⟨batch, hbatch, hwrite⟩ := mem_of_mem_writeBatches h
  exact List.mem_flatMap.2 ⟨batch, hbatch, hwrite⟩

namespace SyncAdapter

/-- The entries a synchronisation sets before the ingress entry. -/
def SyncVisit.addedServices (v : SyncVisit) : List ConfigEntry :=
  ConfigEntryIndex.toArray v.addedDefaults ++ ConfigEntryIndex.toArray v.addedRouters ++
    ConfigEntryIndex.toArray v.addedSplitters

theorem SyncVisit.added_eq (v : SyncVisit) (ingress : IngressGatewayConfigEntry) :
    v.added ingress = v.addedServices ++ [.ingressGateway ingress] := rfl

theorem syncBatches_eq (ingress : IngressGatewayConfigEntry) (v : SyncVisit) :
    ∃ services deletes, syncBatches ingress v = services ++
        ([("error adding ingress config entry", [.set (.ingressGateway ingress)])] ++ deletes) ∧
      services.flatMap Prod.snd = v.addedServices.map .set ∧
      deletes.flatMap Prod.snd = v.removed.map .delete :=
  ⟨[_, _, _], [_, _, _], rfl, by simp [SyncVisit.addedServices], by simp [SyncVisit.removed]⟩

/-- The writes set some of the computed entries and leave the ingress entry alone,
or they set all of them and then remove some of those that are not computed. -/
def SyncVisit.Makes (v : SyncVisit) (ingress : IngressGatewayConfigEntry)
    (writes : List Write) : Prop :=
  (∀ write ∈ writes, ∃ entry ∈ v.addedServices, write = .set entry) ∨
    ∃ deletes, writes = (v.added ingress).map .set ++ deletes ∧
      ∀ write ∈ deletes, ∃ entry ∈ v.removed, write = .delete entry

theorem take_append_cases {α : Type} (l l' : List α) (n : ℕ) :
    (∃ m, (l ++ l').take n = l.take m) ∨ ∃ m, (l ++ l').take n = l ++ l'.take m := by
  rcases le_or_gt n l.length with hle | hlt
  · exact .inl ⟨n, List.take_append_of_le_length hle⟩
  · obtain ⟨m, rfl⟩ := Nat.exists_eq_add_of_le hlt.le
    exact .inr ⟨m, List.take_length_add_append m⟩

/-- It is the same after each of the writes. -/
theorem SyncVisit.Makes.take {v : SyncVisit} {ingress : IngressGatewayConfigEntry}
    {writes : List Write} (h : v.Makes ingress writes) (n : ℕ) :
    v.Makes ingress (writes.take n) := by
  rcases h with hsets | ⟨deletes, rfl, hdeletes⟩
  · exact .inl fun write hwrite => hsets write (List.mem_of_mem_take hwrite)
  · rw [SyncVisit.added_eq, List.map_append, List.append_assoc]
    have hset : ∀ write ∈ v.addedServices.map Write.set, ∃ entry ∈ v.addedServices,
        write = .set entry := by
      intro write hwrite
      obtain ⟨entry, hentry, rfl⟩ := List.mem_map.1 hwrite
      exact ⟨entry, hentry, rfl⟩
    rcases take_append_cases (v.addedServices.map Write.set)
        ([ConfigEntry.ingressGateway ingress].map .set ++ deletes) n with ⟨m, heq⟩ | ⟨m, heq⟩
    · rw [heq]
      exact .inl fun write hwrite => hset write (List.mem_of_mem_take hwrite)
    · rw [heq]
      cases m with
      | zero =>
        rw [List.take_zero, List.append_nil]
        exact .inl hset
      | succ m =>
        -- the ingress entry is set as well
        refine .inr ⟨deletes.take m, ?_, fun write hwrite =>
          hdeletes write (List.mem_of_mem_take hwrite)⟩
        rw [SyncVisit.added_eq, List.map_append, List.append_assoc]
        rfl

/-- Whatever fails, a synchronisation sets the ingress entry after all others and
before it removes any. -/
theorem syncWrites_cases (answers : Answers) (ingress : IngressGatewayConfigEntry)
    (v : SyncVisit) : v.Makes ingress (writeBatches answers (syncBatches ingress v)).1 := by
  obtain ⟨services, deletes, hbatches, hservices, hdeletes⟩ := syncBatches_eq ingress v
  have hset : ∀ write ∈ services.flatMap Prod.snd, ∃ entry ∈ v.addedServices,
      write = .set entry := by
    intro write hwrite
    rw [hservices] at hwrite
    obtain ⟨entry, hentry, rfl⟩ := List.mem_map.1 hwrite
    exact ⟨entry, hentry, rfl⟩
  rw [hbatches]
  rcases writeBatches_append answers services
      ([("error adding ingress config entry", [.set (.ingressGateway ingress)])] ++ deletes) with
    ⟨-, heq⟩ | ⟨-, heq⟩
  · rw [heq]
    exact .inl fun write hwrite => hset write (mem_flatMap_of_mem_writeBatches hwrite)
  rw [heq]
  rcases writeBatches_append answers
      [("error adding ingress config entry", [.set (.ingressGateway ingress)])] deletes with
    ⟨hfails, heq'⟩ | ⟨-, heq'⟩
  · -- the ingress entry is the only one of its batch
    left
    rw [heq', writeBatches_one_fails hfails, List.append_nil]
    exact hset
  · refine .inr ⟨(writeBatches answers deletes).1, ?_, fun write hwrite => ?_⟩
    · rw [heq', hservices, SyncVisit.added_eq, List.map_append, List.append_assoc]
      rfl
    · have hwrite := mem_flatMap_of_mem_writeBatches hwrite
      rw [hdeletes] at hwrite
      obtain ⟨entry, hentry, rfl⟩ := List.mem_map.1 hwrite
      exact ⟨entry, hentry, rfl⟩

/-- Whatever fails, a removal deletes the ingress entry first or nothing at all. -/
theorem clearWrites_cases (answers : Answers) (ingress : IngressGatewayConfigEntry)
    (v : ClearVisit) :
    (writeBatches answers (clearBatches ingress v)).1 = [] ∨
      ∃ deletes, (writeBatches answers (clearBatches ingress v)).1 =
          .delete (.ingressGateway ingress) :: deletes ∧
        ∀ write ∈ deletes, ∃ entry, write = .delete entry := by
  rcases writeBatches_append answers
      [("error removing ingress config entry", [.delete (.ingressGateway ingress)])]
      (clearBatches ingress v).tail with ⟨hfails, heq⟩ | ⟨-, heq⟩
  · exact .inl ((congrArg Prod.fst heq).trans (writeBatches_one_fails hfails))
  · refine .inr ⟨_, heq, fun write hwrite => ?_⟩
    have hwrite : write ∈ (clearBatches ingress v).flatMap Prod.snd :=
      List.mem_cons_of_mem _ (mem_flatMap_of_mem_writeBatches hwrite)
    rw [clearBatches_flatMap] at hwrite
    obtain ⟨entry, -, rfl⟩ := List.mem_map.1 hwrite
    exact ⟨entry, rfl⟩

end SyncAdapter

/-! ### Entries that are set and removed -/

/-- Consul has a router and a default for HTTP of the service's name. -/
def Backed (consul : Entries) (service : IngressService) : Prop :=
  (∃ router, consul.lookup ⟨.serviceRouter, service.namespace_, service.name⟩ =
      some (.serviceRouter router)) ∧
    ∃ default, consul.lookup ⟨.serviceDefaults, service.namespace_, service.name⟩ =
      some (.serviceDefaults default) ∧ default.protocol = "http"

/-- The key of the ingress entry of a gateway. -/
def ingressKey (id : GatewayID) : EntryKey := ⟨.ingressGateway, id.consulNamespace, id.service⟩

/-- **The services of the ingress entry are backed**, as far as they stand for an
HTTP route. -/
def ServicesBacked (id : GatewayID) (consul : Entries) : Prop :=
  ∀ ingress, consul.lookup (ingressKey id) = some (.ingressGateway ingress) →
    ∀ out ∈ ingress.listeners, ∀ service ∈ out.services, service.hosts ≠ [] →
      Backed consul service

/-- The entry does not break a service it is set for. -/
def HTTPDefault (entry : ConfigEntry) : Prop :=
  ∀ default, entry = .serviceDefaults default → default.protocol = "http"

theorem Backed.set {consul : Entries} {service : IngressService} {entry : ConfigEntry}
    (h : Backed consul service) (hentry : HTTPDefault entry) :
    Backed (consul.insert entry.key entry) service := by
  obtain ⟨⟨router, hrouter⟩, default, hdefault, hhttp⟩ := h
  unfold Backed
  simp only [GoMap.lookup_insert_ite]
  refine ⟨?_, ?_⟩
  · split_ifs with hkey
    · -- an entry with the key of a router is a router
      have hkind : entry.getKind = .serviceRouter := (congrArg EntryKey.kind hkey).symm
      cases entry with
      | serviceRouter router => exact ⟨router, rfl⟩
      | serviceSplitter split => cases hkind
      | serviceDefaults default => cases hkind
      | ingressGateway ingress => cases hkind
    · exact ⟨router, hrouter⟩
  · split_ifs with hkey
    · have hkind : entry.getKind = .serviceDefaults := (congrArg EntryKey.kind hkey).symm
      cases entry with
      | serviceDefaults default => exact ⟨default, rfl, hentry default rfl⟩
      | serviceRouter router => cases hkind
      | serviceSplitter split => cases hkind
      | ingressGateway ingress => cases hkind
    · exact ⟨default, hdefault, hhttp⟩

/-- Entries other than the ingress entry may be set at any time. -/
theorem ServicesBacked.sets {id : GatewayID} {consul : Entries} {writes : List Write}
    (h : ServicesBacked id consul) (hwrites : ∀ write ∈ writes, ∃ entry, write = .set entry ∧
      entry.getKind ≠ .ingressGateway ∧ HTTPDefault entry) :
    ServicesBacked id (applyAll consul writes) := by
  induction writes generalizing consul with
  | nil => exact h
  | cons write writes ih =>
    rw [List.forall_mem_cons] at hwrites
    obtain ⟨⟨entry, rfl, hkind, hhttp⟩, hrest⟩ := hwrites
    refine ih (fun ingress hingress out hout service hservice hhosts => ?_) hrest
    have hne : ingressKey id ≠ entry.key := fun heq => hkind (congrArg EntryKey.kind heq).symm
    change (consul.insert entry.key entry).lookup _ = _ at hingress
    rw [Finmap.lookup_insert_of_ne _ hne] at hingress
    exact (h ingress hingress out hout service hservice hhosts).set hhttp

/-- What is computed for the services of a gateway is for HTTP. -/
theorem httpDefault_of_hasService {gateway : ResolvedGateway}
    {orders : ℕ → List (String × List HostnameMatch)} {entry : ConfigEntry}
    (h : (discoveryChain gateway orders).HasService entry) :
    entry.getKind ≠ .ingressGateway ∧ HTTPDefault entry := by
  obtain ⟨i, l, route, -, -, hentry⟩ := discoveryChain_hasService h
  rcases h with h | h | h
  · refine ⟨by rw [h.getKind]; decide, ?_⟩
    rintro default rfl
    cases h.getKind
  · refine ⟨by rw [h.getKind]; decide, ?_⟩
    rintro default rfl
    cases h.getKind
  · refine ⟨by rw [h.getKind]; decide, ?_⟩
    rintro default rfl
    rcases hentry with ⟨router, -, hrouter⟩ | ⟨i, -, hsplit⟩ | ⟨i, hi, hdefault⟩
    · cases hrouter
    · cases hsplit.getKind
    · cases route with
      | tcp route => cases hi
      | http route =>
        cases hi
        obtain ⟨default', heq, hhttp⟩ := hasHTTPDefault_of_routeDefaults hdefault
        cases heq
        exact hhttp

/-- The key of the entry that is written. -/
def Write.key : Write → EntryKey
  | .set entry => entry.key
  | .delete entry => entry.key

/-- Writes of other entries leave an entry alone. -/
theorem lookup_applyAll_of_ne {consul : Entries} {writes : List Write} {k : EntryKey}
    (h : ∀ write ∈ writes, write.key ≠ k) :
    (applyAll consul writes).lookup k = consul.lookup k := by
  induction writes generalizing consul with
  | nil => rfl
  | cons write writes ih =>
    rw [List.forall_mem_cons] at h
    refine (ih h.2).trans ?_
    cases write with
    | set entry => exact Finmap.lookup_insert_of_ne _ (Ne.symm h.1)
    | delete entry => exact Finmap.lookup_erase_ne (Ne.symm h.1)

theorem applyAll_append (consul : Entries) (writes writes' : List Write) :
    applyAll consul (writes ++ writes') = applyAll (applyAll consul writes) writes' :=
  List.foldl_append

namespace System

open SyncAdapter

/-! ### The states on the way -/

section Sync

variable {id : GatewayID} {s : System} {gateway : ResolvedGateway}
  {orders : ℕ → List (String × List HostnameMatch)} {v : SyncVisit}

theorem mem_addedServices (hv : v.Of s.adapter id (discoveryChain gateway orders))
    {entry : ConfigEntry} :
    entry ∈ v.addedServices ↔ (discoveryChain gateway orders).HasService entry := by
  simp only [SyncVisit.addedServices, List.mem_append,
    ConfigEntryIndex.mem_toArray hv.addedDefaults, ConfigEntryIndex.mem_toArray hv.addedRouters,
    ConfigEntryIndex.mem_toArray hv.addedSplitters, DiscoveryChain.HasService]
  constructor
  · rintro ((h | h) | h)
    · exact .inr (.inr h)
    · exact .inl h
    · exact .inr (.inl h)
  · rintro (h | h | h)
    · exact .inl (.inr h)
    · exact .inr h
    · exact .inl (.inl h)

/-- Once all entries were set, every computed one is there while others are
removed. -/
theorem lookup_of_has (hv : v.Of s.adapter id (discoveryChain gateway orders))
    {deletes : List Write}
    (hdeletes : ∀ write ∈ deletes, ∃ entry ∈ v.removed, write = .delete entry)
    {entry : ConfigEntry} (hhas : (discoveryChain gateway orders).Has entry) (consul : Entries) :
    (applyAll consul ((v.added (discoveryChain gateway orders).ingress).map .set ++
      deletes)).lookup entry.key = some entry := by
  rw [applyAll_append, lookup_applyAll_of_ne]
  · rcases lookup_applyAll_set consul (v.added (discoveryChain gateway orders).ingress) entry.key
      with ⟨entry', hmem, hkey, hlook⟩ | ⟨hne, -⟩
    · rw [hlook, ((mem_added hv).1 hmem).eq_of_key_eq hhas hkey]
    · exact absurd rfl (hne entry ((mem_added hv).2 hhas))
  · intro write hwrite hkey
    obtain ⟨entry', hremoved, rfl⟩ := hdeletes write hwrite
    obtain ⟨existing, -, -, hnone⟩ := (mem_removed hv).1 hremoved
    have hkind : entry'.getKind = entry.getKind := congrArg EntryKey.kind hkey
    have hname : entry'.getName = entry.getName := congrArg EntryKey.name hkey
    rw [hkind, hname, hhas] at hnone
    cases hnone

theorem chain_ingressKey (hid : gateway.id = id)
    (orders : ℕ → List (String × List HostnameMatch)) :
    (ConfigEntry.ingressGateway (discoveryChain gateway orders).ingress).key = ingressKey id := by
  rw [ConfigEntry.key, (discoveryChain_spec gateway orders).1, ← hid]
  rfl

/-- Once all entries were set, the services are those of the gateway. -/
theorem servicesBacked_of_added (hid : gateway.id = id) (hvisits : Visits gateway orders)
    (hv : v.Of s.adapter id (discoveryChain gateway orders)) {deletes : List Write}
    (hdeletes : ∀ write ∈ deletes, ∃ entry ∈ v.removed, write = .delete entry)
    (consul : Entries) :
    ServicesBacked id (applyAll consul
      ((v.added (discoveryChain gateway orders).ingress).map .set ++ deletes)) := by
  intro ingress hingress out hout service hservice hhosts
  -- the ingress entry that is there is the one just written
  have hlook := lookup_of_has hv hdeletes (DiscoveryChain.has_iff.2 (.inl rfl)) consul
  rw [chain_ingressKey hid, hingress] at hlook
  cases hlook
  obtain ⟨hnamespace, ⟨router, hrouter, hrouterNamespace⟩, default, hdefault, hdefaultNamespace,
    hhttp⟩ := (discoveryChain_closed gateway orders hvisits).services out hout service hservice
      hhosts
  have hrouterHas := ConfigEntryIndex.has_of_get hrouter
  have hdefaultHas := ConfigEntryIndex.has_of_get hdefault
  have hrouterKey : (ConfigEntry.serviceRouter router).key =
      ⟨.serviceRouter, service.namespace_, service.name⟩ := by
    rw [ConfigEntry.key, ((discoveryChain gateway orders).routers.keyed hrouter).2, hnamespace,
      ← hrouterNamespace]
    rfl
  have hdefaultKey : (ConfigEntry.serviceDefaults default).key =
      ⟨.serviceDefaults, service.namespace_, service.name⟩ := by
    rw [ConfigEntry.key, ((discoveryChain gateway orders).defaults.keyed hdefault).2, hnamespace,
      ← hdefaultNamespace]
    rfl
  refine ⟨⟨router, ?_⟩, default, ?_, hhttp⟩
  · rw [← hrouterKey]
    exact lookup_of_has hv hdeletes (DiscoveryChain.has_iff.2 (.inr (.inl hrouterHas))) consul
  · rw [← hdefaultKey]
    exact lookup_of_has hv hdeletes
      (DiscoveryChain.has_iff.2 (.inr (.inr (.inr hdefaultHas)))) consul

end Sync

theorem call_sync_writes (s : System) (id : GatewayID) (gateway : ResolvedGateway)
    (orders : ℕ → List (String × List HostnameMatch)) (v : SyncVisit) (answers : Answers)
    (intentionsErr : Option String) :
    (s.call id (.sync gateway orders v answers intentionsErr)).2.1 =
      (writeBatches answers (syncBatches (discoveryChain gateway orders).ingress v)).1 := by
  cases hwrites : writeBatches answers (syncBatches (discoveryChain gateway orders).ingress v) with
  | mk writes err =>
    cases err with
    | some err => simp only [call, syncGateway, hwrites]
    | none => cases intentionsErr <;> simp only [call, syncGateway, hwrites]

/-- **The services are backed throughout a call**: in the state before it, between
any two of its writes, and after them. -/
def BackedThroughout (id : GatewayID) (s : System) (e : Event) (_ : System) : Prop :=
  ∀ n, ServicesBacked id (applyAll s.consul ((s.call id e).2.1.take n))

/-- The ingress entry that the adapter remembers is that of the gateway. -/
def IngressNamed (id : GatewayID) (s : System) : Prop :=
  ∀ existing, s.adapter.sync.lookup id = some existing →
    (ConfigEntry.ingressGateway existing.ingress).key = ingressKey id

theorem backedThroughout_sync {id : GatewayID} {s : System} {gateway : ResolvedGateway}
    {orders : ℕ → List (String × List HostnameMatch)} {v : SyncVisit} {answers : Answers}
    {intentionsErr : Option String} (h : ServicesBacked id s.consul)
    (hof : (Event.sync gateway orders v answers intentionsErr).Of id s) :
    BackedThroughout id s (.sync gateway orders v answers intentionsErr)
      (s.after id (.sync gateway orders v answers intentionsErr)) := by
  obtain ⟨hid, hvisits, hv⟩ := hof
  intro n
  rw [call_sync_writes]
  rcases (syncWrites_cases answers (discoveryChain gateway orders).ingress v).take n with
    hsets | ⟨deletes, htake, hdeletes⟩
  · refine h.sets fun write hwrite => ?_
    obtain ⟨entry, hentry, rfl⟩ := hsets write hwrite
    exact ⟨entry, rfl, httpDefault_of_hasService ((mem_addedServices hv).1 hentry)⟩
  · rw [htake]
    exact servicesBacked_of_added hid hvisits hv hdeletes s.consul

theorem backedThroughout_clear {id : GatewayID} {s : System} {v : ClearVisit} {answers : Answers}
    (h : ServicesBacked id s.consul) (hnamed : IngressNamed id s) :
    BackedThroughout id s (.clear v answers) (s.after id (.clear v answers)) := by
  intro n
  rcases call_clear_cases s id v answers with ⟨-, hcall⟩ | ⟨existing, hexisting, hcall⟩
  · rw [hcall, List.take_nil]
    exact h
  · have hwrites : (s.call id (.clear v answers)).2 =
        writeBatches answers (clearBatches existing.ingress v) := by
      rcases hcall with ⟨-, hcall⟩ | ⟨-, hcall⟩
      · rw [hcall]
      · rw [hcall]
    rw [hwrites]
    rcases clearWrites_cases answers existing.ingress v with hnone | ⟨deletes, heq, hdeletes⟩
    · rw [hnone, List.take_nil]
      exact h
    · rw [heq]
      cases n with
      | zero => exact h
      | succ n =>
        -- the ingress entry is gone, and nothing sets it again
        intro ingress hingress
        have hmem := Finmap.mem_of_lookup_eq_some hingress
        rw [List.take_succ_cons, applyAll, List.foldl_cons, ← applyAll, Write.apply,
          hnamed existing hexisting] at hmem
        rcases mem_applyAll hmem with ⟨entry, hset, -⟩ | hmem
        · obtain ⟨entry', hdelete⟩ := hdeletes _ (List.mem_of_mem_take hset)
          cases hdelete
        · exact absurd hmem Finmap.notMem_erase_self

/-- A call leaves the name of the ingress entry as it is. -/
theorem IngressNamed.after {id : GatewayID} {s : System} {e : Event} (h : IngressNamed id s)
    (hof : e.Of id s) : IngressNamed id (s.after id e) := by
  intro existing hexisting
  cases e with
  | sync gateway orders v answers intentionsErr =>
    obtain ⟨hid, -, -⟩ := hof
    rcases call_sync_cases s id gateway orders v answers intentionsErr with
      ⟨-, hcall⟩ | ⟨err, hcall⟩
    · rw [System.after, hcall] at hexisting
      exact h existing hexisting
    · rw [System.after, hcall, setEntriesForGateway, hid, Finmap.lookup_insert] at hexisting
      cases hexisting
      exact chain_ingressKey hid orders
  | clear v answers =>
    rcases call_clear_cases s id v answers with
      ⟨-, hcall⟩ | ⟨existing, -, ⟨-, hcall⟩ | ⟨-, hcall⟩⟩
    · rw [System.after, hcall] at hexisting
      exact h _ hexisting
    · rw [System.after, hcall] at hexisting
      exact h _ hexisting
    · rw [System.after, hcall, Finmap.lookup_erase] at hexisting
      cases hexisting

/-- **The services of a live ingress gateway are backed in every state of every
run**, whatever writes fail. -/
theorem servicesBacked_run (id : GatewayID) (consul : Entries) {run : List (Event × System)}
    (hrun : Run (Step id) (start consul) run) (hstart : ServicesBacked id consul) :
    Always (BackedThroughout id) (start consul) run := by
  refine hrun.always (I := fun s => ServicesBacked id s.consul ∧ IngressNamed id s)
    ⟨hstart, ?_⟩ ?_
  · intro existing hexisting
    simp [start, SyncAdapter.new] at hexisting
  · rintro s e s' ⟨hbacked, hnamed⟩ ⟨hof, rfl⟩
    have hthroughout : BackedThroughout id s e (s.after id e) := by
      cases e with
      | sync gateway orders v answers intentionsErr => exact backedThroughout_sync hbacked hof
      | clear v answers => exact backedThroughout_clear hbacked hnamed
    refine ⟨hthroughout, ?_, hnamed.after hof⟩
    have hend := hthroughout (s.call id e).2.1.length
    rwa [List.take_length] at hend

open SampleSync Consul.SampleGateways

/-- A first synchronisation next to no other entries. -/
theorem servicesBacked_firstSync :
    Run (Step oneListener.id) (start ∅)
        [(firstSync fun _ => none, (start ∅).after oneListener.id (firstSync fun _ => none))] ∧
      ServicesBacked oneListener.id ∅ ∧
      Always (BackedThroughout oneListener.id) (start ∅)
        [(firstSync fun _ => none, (start ∅).after oneListener.id (firstSync fun _ => none))] := by
  have hrun := Run.cons (firstSync_step fun _ => none) (.nil _)
  have hstart : ServicesBacked oneListener.id ∅ := by
    intro ingress hingress
    simp at hingress
  exact ⟨hrun, hstart, servicesBacked_run oneListener.id ∅ hrun hstart⟩

end System

end Consul
