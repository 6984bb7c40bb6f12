/-
What is left of a gateway that has been cleared.

The adapter has a reconciler for each gateway, which adds the gateway to the
sources of the intentions of its targets.  Clearing a gateway stops the reconciler
and forgets it, and nothing takes the sources back: the targets were known to the
reconciler only.

* `Step` — the step relation of the adapter and all reconcilers, in a Consul that
  answers every call;
* `Tracked` — the invariant: wherever a gateway is a source, its reconciler knows
  the target;
* `sourcesRevoked_run` — the runs along which no cleared gateway is left a source;
* `clearedGateway_keeps_source` — a gateway with one target.
-/
import ConsulApiGateway.IntentionStore
import ConsulApiGateway.RouterRules
import ConsulApiGateway.Tombstones

namespace Consul

open Core SyncAdapter

/-! ### The adapter and its reconcilers -/

/-- A reconciler that the adapter has started. -/
structure GatewayIntentions where
  gatewayName : CompoundServiceName
  reconciler : IntentionsReconciler

structure GatewaySystem where
  adapter : SyncAdapter
  /-- The map `intentions` of the adapter. -/
  intentions : GoMap GatewayID GatewayIntentions
  /-- The reconcilers that were stopped; their loops may still have a turn. -/
  stopped : GoMap ℕ GatewayIntentions
  nextStopped : ℕ
  store : IntentionStore
  /-- The gateways that were cleared and have not been synchronised since. -/
  cleared : Finset GatewayID

/-- The services of the listeners. -/
def ingressToServiceIndex (igw : IngressGatewayConfigEntry) : ServiceNameIndex :=
  ((igw.listeners.flatMap IngressListener.services).map fun service =>
    (⟨service.name, service.namespace_⟩ : CompoundServiceName)).toFinset

namespace GatewaySystem

/-- A new adapter, next to any intentions. -/
def start (store : IntentionStore) : GatewaySystem := ⟨.new, ∅, ∅, 0, store, ∅⟩

/-- The reconciler that `syncIntentionsForGateway` continues with. -/
def reconcilerFor (s : GatewaySystem) (id : GatewayID) (ingress : IngressGatewayConfigEntry) :
    GatewayIntentions :=
  (s.intentions.lookup id).getD ⟨⟨ingress.name, ingress.namespace_⟩, .new⟩

/-- `Sync`, up to the call of `Reconcile`; what that makes the loop do is a step of
the reconciler. -/
def sync (s : GatewaySystem) (gateway : ResolvedGateway)
    (orders : ℕ → List (String × List HostnameMatch)) (v : SyncVisit)
    (added removed : List CompoundServiceName) : GatewaySystem :=
  let chain := discoveryChain gateway orders
  let existing := s.reconcilerFor gateway.id chain.ingress
  let newIdx := ingressToServiceIndex chain.ingress
  { s with
    adapter := (s.adapter.syncGateway (fun _ => none) none gateway chain v).1
    intentions := s.intentions.insert gateway.id
      { existing with
        reconciler := existing.reconciler.updateChainWatchers newIdx added removed }
    cleared := s.cleared.erase gateway.id }

/-- `stopIntentionSyncForGateway`. -/
def stopIntentionSync (s : GatewaySystem) (id : GatewayID) : GatewaySystem :=
  match s.intentions.lookup id with
  | none => s
  | some existing =>
    { s with
      intentions := s.intentions.erase id
      stopped := s.stopped.insert s.nextStopped existing
      nextStopped := s.nextStopped + 1 }

/-- `Clear`. -/
def clear (s : GatewaySystem) (id : GatewayID) (v : ClearVisit) : GatewaySystem :=
  if id ∈ s.adapter.sync then
    { s.stopIntentionSync id with
      adapter := (s.adapter.clear (fun _ => none) id v).1
      cleared := insert id s.cleared }
  else s

/-- A reconciler of the adapter, or one that was stopped. -/
inductive Ref
  | live (id : GatewayID)
  | stopped (n : ℕ)

def get (s : GatewaySystem) : Ref → Option GatewayIntentions
  | .live id => s.intentions.lookup id
  | .stopped n => s.stopped.lookup n

def set (s : GatewaySystem) (ref : Ref) (existing : GatewayIntentions) : GatewaySystem :=
  match ref with
  | .live id => { s with intentions := s.intentions.insert id existing }
  | .stopped n => { s with stopped := s.stopped.insert n existing }

/-- A step of a watcher, or of the loop when it handles a result. -/
def Watches (ref : Ref) (r : IntentionsReconciler) (e : IntentionsReconciler.Event)
    (r' : IntentionsReconciler) : Prop :=
  match e with
  | .answer .. | .deliver _ | .handle => r.Step e r'
  -- the watchers are cancelled with the reconciler
  | .stop id => r.Step (.stop id) r' ∨
    ∃ n w, ref = .stopped n ∧ r.watchers.lookup id = some w ∧
      r' = { r with watchers := r.watchers.erase id }
  | .setIngressServices .. | .sync _ => False

inductive Event
  | sync (gateway : ResolvedGateway) (orders : ℕ → List (String × List HostnameMatch))
      (v : SyncVisit) (added removed : List CompoundServiceName)
  | clear (id : GatewayID) (v : ClearVisit)
  | watch (ref : Ref) (e : IntentionsReconciler.Event)
  | syncIntentions (ref : Ref) (now : String) (orders : IntentionOrders)

/-- One step of the adapter, of a watcher or of the loop of a reconciler.  All calls
to Consul succeed. -/
def Step (s : GatewaySystem) (e : Event) (s' : GatewaySystem) : Prop :=
  match e with
  | .sync gateway orders v added removed =>
    let ingress := (discoveryChain gateway orders).ingress
    Visits gateway orders ∧ v.Of s.adapter gateway.id (discoveryChain gateway orders) ∧
      Diff (s.reconcilerFor gateway.id ingress).reconciler.ingressServiceIndex
        (ingressToServiceIndex ingress) added removed ∧
      s' = s.sync gateway orders v added removed
  | .clear id v => v.Of s.adapter id ∧ s' = s.clear id v
  | .watch ref e => ∃ existing r, s.get ref = some existing ∧ Watches ref existing.reconciler e r ∧
    s' = s.set ref { existing with reconciler := r }
  | .syncIntentions ref now orders => ∃ existing, s.get ref = some existing ∧
    orders.Of existing.reconciler ∧ existing.reconciler.received = none ∧
    let result := syncIntentionsOf IntentionStore.client existing.gatewayName now orders
      existing.reconciler s.store
    s' = { s.set ref { existing with reconciler := result.1 } with store := result.2.2 }

/-! ### Statement -/

/-- **The sources of cleared gateways are revoked**: no intention has the source of
a gateway that was cleared and not synchronised since. -/
def SourcesRevoked (s : GatewaySystem) : Prop :=
  ∀ id ∈ s.cleared, ∀ name sources, s.store.lookup name = some sources →
    ∀ src ∈ sources, ¬ IsSourceOf id src

/-- The steps that keep the law: a gateway is cleared when its reconciler knows no
target, and a reconciler that was stopped learns of none. -/
def Discharged (s : GatewaySystem) : Event → Prop
  | .clear id _ => id ∈ s.adapter.sync → ∀ existing, s.intentions.lookup id = some existing →
    ∀ t, ¬ existing.reconciler.Knows t
  | .watch (.stopped n) .handle => ∀ existing result, s.stopped.lookup n = some existing →
    existing.reconciler.received = some result → result.added = []
  | _ => True

/-! ### The invariant -/

/-- The reconciler of the gateway knows a target of the intention. -/
def Knows (s : GatewaySystem) (id : GatewayID) (name : CompoundServiceName) : Prop :=
  ∃ existing t, s.intentions.lookup id = some existing ∧ existing.reconciler.Knows t ∧
    intentionName t = name

structure Tracked (s : GatewaySystem) : Prop where
  gatewayName : ∀ {id existing}, s.intentions.lookup id = some existing →
    existing.gatewayName = gatewayServiceName id
  stopped : ∀ {n existing}, s.stopped.lookup n = some existing →
    existing.reconciler.targetIndex = ∅
  cleared : ∀ {id}, id ∈ s.cleared → s.intentions.lookup id = none
  granted : Granted s.Knows s.store

section

variable {s s' : GatewaySystem} {existing : GatewayIntentions} {ref : Ref} {id : GatewayID}

theorem Tracked.sourcesRevoked (h : s.Tracked) : SourcesRevoked s := by
  intro id hid name sources hlook src hsrc his
  have hsources : s.store.sourcesOf name = sources := by
    rw [IntentionStore.sourcesOf, hlook]
    rfl
  obtain ⟨⟨existing, t, hexisting, -⟩, -⟩ := h.granted id name src (hsources.symm ▸ hsrc) his
  rw [h.cleared hid] at hexisting
  cases hexisting

theorem tracked_start {store : IntentionStore}
    (h : ∀ id name, ∀ src ∈ store.sourcesOf name, ¬ IsSourceOf id src) : (start store).Tracked where
  gatewayName hlook := by simp [start] at hlook
  stopped hlook := by simp [start] at hlook
  cleared hid := by simp [start] at hid
  granted id name src hsrc his := absurd his (h id name src hsrc)

/-! ### The steps -/

theorem cancelWatchers_targets (services : List CompoundServiceName) :
    ∀ r : IntentionsReconciler, (r.cancelWatchers services).targetIndex = r.targetIndex ∧
      (r.cancelWatchers services).targetTombstones = r.targetTombstones := by
  induction services with
  | nil => exact fun r => ⟨rfl, rfl⟩
  | cons service services ih =>
    intro r
    unfold IntentionsReconciler.cancelWatchers
    split
    · exact ih r
    · exact ih _

theorem startWatchers_targets (services : List CompoundServiceName) :
    ∀ r : IntentionsReconciler, (r.startWatchers services).targetIndex = r.targetIndex ∧
      (r.startWatchers services).targetTombstones = r.targetTombstones := by
  induction services with
  | nil => exact fun r => ⟨rfl, rfl⟩
  | cons service services ih =>
    intro r
    unfold IntentionsReconciler.startWatchers
    split
    · exact ih r
    · exact ih _

theorem updateChainWatchers_targets (r : IntentionsReconciler) (newIdx : ServiceNameIndex)
    (added removed : List CompoundServiceName) :
    (r.updateChainWatchers newIdx added removed).targetIndex = r.targetIndex ∧
      (r.updateChainWatchers newIdx added removed).targetTombstones = r.targetTombstones := by
  obtain ⟨hindex, htombstones⟩ := cancelWatchers_targets removed r
  obtain ⟨hindex', htombstones'⟩ := startWatchers_targets added (r.cancelWatchers removed)
  exact ⟨hindex'.trans hindex, htombstones'.trans htombstones⟩

/-- A watcher leaves the targets alone; only handling a result changes them. -/
theorem watches_cases {r r' : IntentionsReconciler} {e : IntentionsReconciler.Event}
    (h : Watches ref r e r') :
    (r'.targetIndex = r.targetIndex ∧ r'.targetTombstones = r.targetTombstones) ∨
      ∃ result, e = .handle ∧ r.received = some result ∧
        r' = { r.handleChainResult result with received := none } := by
  cases e with
  | answer id chain added removed =>
    obtain ⟨w, -, -, -, rfl⟩ := h
    exact .inl ⟨rfl, rfl⟩
  | deliver id =>
    obtain ⟨w, result, names, -, -, -, rfl⟩ := h
    exact .inl ⟨rfl, rfl⟩
  | stop id =>
    rcases h with ⟨w, -, -, rfl⟩ | ⟨n, w, -, -, rfl⟩
    · exact .inl ⟨rfl, rfl⟩
    · exact .inl ⟨rfl, rfl⟩
  | handle =>
    obtain ⟨result, hreceived, rfl⟩ := h
    exact .inr ⟨result, rfl, hreceived, rfl⟩
  | setIngressServices newIdx added removed => cases h
  | sync failed => cases h

theorem Watches.knows {r r' : IntentionsReconciler} {e : IntentionsReconciler.Event}
    (h : Watches ref r e r') {t : CompoundServiceName} (ht : r.Knows t) : r'.Knows t := by
  rcases watches_cases h with ⟨hindex, htombstones⟩ | ⟨result, -, -, rfl⟩
  · rwa [IntentionsReconciler.Knows, hindex, htombstones]
  · exact ht.handleChainResult result

theorem eq_empty_of_not_knows {r : IntentionsReconciler} (h : ∀ t, ¬ r.Knows t) :
    r.targetIndex = ∅ := by
  refine Finmap.ext_lookup fun t => ?_
  rw [Finmap.lookup_empty]
  exact Finmap.lookup_eq_none.2 fun hmem => h t (.inl hmem)

theorem removeTargets_of_empty (source : CompoundServiceName)
    (targets : List CompoundServiceName) {r : IntentionsReconciler} (h : r.targetIndex = ∅) :
    (r.removeTargets source targets).targetIndex = ∅ := by
  induction targets generalizing r with
  | nil => exact h
  | cons target targets ih =>
    apply ih
    simp [TargetIndex.delRef, h]

theorem Tracked.of_get_live (h : s.Tracked) (hget : s.get (.live id) = some existing) :
    existing.gatewayName = gatewayServiceName id ∧ id ∉ s.cleared := by
  refine ⟨h.gatewayName hget, fun hid => ?_⟩
  rw [show s.get (.live id) = none from h.cleared hid] at hget
  cases hget

/-- The reconciler of a gateway comes to know more. -/
theorem Tracked.set_live (h : s.Tracked) (existing : GatewayIntentions)
    (hname : existing.gatewayName = gatewayServiceName id)
    (hintentions : s'.intentions = s.intentions.insert id existing)
    (hstopped : s'.stopped = s.stopped) (hcleared : s'.cleared ⊆ s.cleared) (hid : id ∉ s'.cleared)
    (hgranted : Granted s'.Knows s'.store) : s'.Tracked := by
  refine ⟨fun {id' existing'} hlook => ?_, ?_, fun {id'} hid' => ?_, hgranted⟩
  · rw [hintentions, GoMap.lookup_insert_ite] at hlook
    split_ifs at hlook with heq
    · cases hlook
      rw [heq, hname]
    · exact h.gatewayName hlook
  · rw [hstopped]
    exact h.stopped
  · have hne : id' ≠ id := by
      rintro rfl
      exact hid hid'
    rw [hintentions, Finmap.lookup_insert_of_ne _ hne]
    exact h.cleared (hcleared hid')

/-- A stopped reconciler still has no targets. -/
theorem Tracked.set_stopped (h : s.Tracked) {n : ℕ} (hempty : existing.reconciler.targetIndex = ∅)
    (hintentions : s'.intentions = s.intentions)
    (hstopped : s'.stopped = s.stopped.insert n existing) (hcleared : s'.cleared = s.cleared)
    (hgranted : Granted s'.Knows s'.store) : s'.Tracked := by
  refine ⟨?_, fun {n' existing'} hlook => ?_, ?_, hgranted⟩
  · rw [hintentions]
    exact h.gatewayName
  · rw [hstopped, GoMap.lookup_insert_ite] at hlook
    split_ifs at hlook
    · cases hlook
      exact hempty
    · exact h.stopped hlook
  · rw [hintentions, hcleared]
    exact h.cleared

theorem Knows.of_insert (hintentions : s'.intentions = s.intentions.insert id existing)
    (hknows : ∀ existing', s.intentions.lookup id = some existing' →
      ∀ {t}, existing'.reconciler.Knows t → existing.reconciler.Knows t)
    {id' : GatewayID} {name : CompoundServiceName} (h : s.Knows id' name) : s'.Knows id' name := by
  obtain ⟨existing', t, hlook, ht, rfl⟩ := h
  by_cases heq : id' = id
  · subst heq
    exact ⟨existing, t, by rw [hintentions, Finmap.lookup_insert], hknows existing' hlook ht, rfl⟩
  · exact ⟨existing', t, by rw [hintentions, Finmap.lookup_insert_of_ne _ heq, hlook], ht, rfl⟩

theorem Tracked.sync (h : s.Tracked) (gateway : ResolvedGateway)
    (orders : ℕ → List (String × List HostnameMatch)) (v : SyncVisit)
    (added removed : List CompoundServiceName) :
    (s.sync gateway orders v added removed).Tracked := by
  refine h.set_live _ ?_ rfl rfl (Finset.erase_subset ..) (Finset.notMem_erase _ _)
    (h.granted.mono fun id' name => Knows.of_insert rfl ?_)
  · change (s.reconcilerFor gateway.id _).gatewayName = _
    unfold reconcilerFor
    cases hlook : s.intentions.lookup gateway.id with
    | some existing => exact h.gatewayName hlook
    | none =>
      rw [(discoveryChain_spec gateway orders).1]
      rfl
  · intro existing hexisting t ht
    obtain ⟨hindex, htombstones⟩ := updateChainWatchers_targets
      (s.reconcilerFor gateway.id (discoveryChain gateway orders).ingress).reconciler
      (ingressToServiceIndex (discoveryChain gateway orders).ingress) added removed
    rw [IntentionsReconciler.Knows, hindex, htombstones, reconcilerFor, hexisting]
    exact ht

theorem Tracked.clear (h : s.Tracked) {v : ClearVisit} (hdischarged : s.Discharged (.clear id v)) :
    (s.clear id v).Tracked := by
  unfold GatewaySystem.clear
  split_ifs with hsync
  · have hknows := hdischarged hsync
    unfold stopIntentionSync
    cases hlook : s.intentions.lookup id with
    | none =>
      -- no reconciler runs for this gateway
      refine ⟨h.gatewayName, h.stopped, fun {id'} hid' => ?_, h.granted⟩
      rcases Finset.mem_insert.1 hid' with rfl | hid'
      · exact hlook
      · exact h.cleared hid'
    | some existing =>
      -- a reconciler that is stopped here knows no target, by `Discharged`
      have hnone := hknows existing hlook
      refine ⟨fun {id' existing'} hlook' => ?_, fun {n existing'} hlook' => ?_,
        fun {id'} hid' => ?_, h.granted.mono ?_⟩
      · rw [GoMap.lookup_erase_ite] at hlook'
        split_ifs at hlook'
        exact h.gatewayName hlook'
      · rw [GoMap.lookup_insert_ite] at hlook'
        split_ifs at hlook'
        · cases hlook'
          exact eq_empty_of_not_knows hnone
        · exact h.stopped hlook'
      · rw [GoMap.lookup_erase_ite]
        split_ifs with heq
        · rfl
        · exact h.cleared ((Finset.mem_insert.1 hid').resolve_left heq)
      · rintro id' name ⟨existing', t, hlook', ht, rfl⟩
        have hne : id' ≠ id := by
          rintro rfl
          cases hlook.symm.trans hlook'
          exact hnone t ht
        exact ⟨existing', t, (Finmap.lookup_erase_ne hne).trans hlook', ht, rfl⟩
  · exact h

theorem Tracked.watch (h : s.Tracked) {e : IntentionsReconciler.Event} {r : IntentionsReconciler}
    (hget : s.get ref = some existing) (hwatches : Watches ref existing.reconciler e r)
    (hdischarged : s.Discharged (.watch ref e)) :
    (s.set ref { existing with reconciler := r }).Tracked := by
  cases ref with
  | live id =>
    obtain ⟨hname, hcleared⟩ := h.of_get_live hget
    refine h.set_live { existing with reconciler := r } hname rfl rfl (Finset.Subset.refl _)
      hcleared (h.granted.mono fun id' name => Knows.of_insert rfl ?_)
    intro existing' hexisting' t ht
    cases hget.symm.trans hexisting'
    exact hwatches.knows ht
  | stopped n =>
    have hempty := h.stopped hget
    refine h.set_stopped (n := n) ?_ rfl rfl rfl h.granted
    rcases watches_cases hwatches with ⟨hindex, -⟩ | ⟨result, rfl, hreceived, rfl⟩
    · exact hindex.trans hempty
    · change (existing.reconciler.handleChainResult result).targetIndex = ∅
      rw [IntentionsReconciler.handleChainResult, hdischarged existing result hget hreceived]
      exact removeTargets_of_empty result.name result.removed hempty

theorem Tracked.syncIntentions (h : s.Tracked) (hget : s.get ref = some existing) (now : String)
    {orders : IntentionOrders} (horders : orders.Of existing.reconciler) :
    let result := syncIntentionsOf IntentionStore.client existing.gatewayName now orders
      existing.reconciler s.store
    ({ s.set ref { existing with reconciler := result.1 } with store := result.2.2 } :
      GatewaySystem).Tracked := by
  intro result
  have hresult : result.1 = { existing.reconciler with
      targetTombstones := existing.reconciler.targetTombstones \ orders.tombstones.toFinset } :=
    syncIntentionsOf_reconciler ..
  cases ref with
  | live id =>
    obtain ⟨hname, hcleared⟩ := h.of_get_live hget
    refine h.set_live { existing with reconciler := result.1 } hname rfl rfl
      (Finset.Subset.refl _) hcleared ?_
    have hgranted := h.granted.syncIntentions existing.reconciler hname now orders
      fun t ht => ⟨existing, t, hget, .inl (Finmap.mem_keys.1 (horders.targets.mem_iff.1 ht)), rfl⟩
    refine hgranted.mono ?_
    rintro id' name ⟨⟨existing', t, hlook, ht, rfl⟩, hne⟩
    by_cases heq : id' = id
    · -- a target that was only a tombstone has lost the source
      subst heq
      cases hget.symm.trans hlook
      refine ⟨_, t, Finmap.lookup_insert _, .inl ?_, rfl⟩
      rw [hresult]
      refine ht.resolve_right fun htombstone => hne ⟨rfl, ?_⟩
      exact List.mem_map_of_mem (horders.tombstones.mem_iff.2 htombstone)
    · exact ⟨existing', t, (Finmap.lookup_insert_of_ne _ heq).trans hlook, ht, rfl⟩
  | stopped n =>
    have hempty : existing.reconciler.targetIndex = ∅ := h.stopped hget
    have hnil : orders.targets = [] := by
      rw [List.eq_nil_iff_forall_not_mem]
      intro t ht
      have hmem := horders.targets.mem_iff.1 ht
      rw [hempty] at hmem
      cases hmem
    let id : GatewayID := ⟨existing.gatewayName.namespace_, existing.gatewayName.name⟩
    have hname : existing.gatewayName = gatewayServiceName id := rfl
    have hgranted := h.granted.syncIntentions existing.reconciler hname now orders
      fun t ht => by rw [hnil] at ht; cases ht
    refine h.set_stopped (n := n) ?_ rfl rfl rfl (hgranted.mono fun id' name hboth => hboth.1)
    change result.1.targetIndex = ∅
    rw [hresult]
    exact hempty

/-! ### Runs -/

theorem tracked_step {e : Event} (h : s.Tracked) (hstep : Step s e s')
    (hdischarged : s.Discharged e) : s'.Tracked := by
  cases e with
  | sync gateway orders v added removed =>
    obtain ⟨-, -, -, rfl⟩ := hstep
    exact h.sync gateway orders v added removed
  | clear id v =>
    obtain ⟨-, rfl⟩ := hstep
    exact h.clear hdischarged
  | watch ref e =>
    obtain ⟨existing, r, hget, hwatches, rfl⟩ := hstep
    exact h.watch hget hwatches hdischarged
  | syncIntentions ref now orders =>
    obtain ⟨existing, hget, horders, -, rfl⟩ := hstep
    exact h.syncIntentions hget now horders

/-- **No cleared gateway is left a source**, as long as gateways are cleared when
their reconcilers know no target and stopped reconcilers learn of none. -/
theorem sourcesRevoked_run {store : IntentionStore}
    (hstore : ∀ id name, ∀ src ∈ store.sourcesOf name, ¬ IsSourceOf id src)
    {run : List (Event × GatewaySystem)} (hrun : Run Step (start store) run)
    (hdischarged : Always (fun s e _ => s.Discharged e) (start store) run) :
    Always (fun _ _ s' => SourcesRevoked s') (start store) run := by
  refine hrun.always_of_invariant (I := Tracked) (tracked_start hstore) ?_ hdischarged
  intro s e s' h hstep hdischarged
  have htracked := tracked_step h hstep hdischarged
  exact ⟨htracked.sourcesRevoked, htracked⟩

end

/-! ### A gateway with one target -/

namespace SampleRevocation

open IntentionsReconciler SampleGateways
open SampleServices (web)

/-- A TCP route to `web`. -/
def tcpGateway : ResolvedGateway :=
  exampleGateway [{
    name := "listener"
    hostname := ""
    port := 9000
    protocol := "tcp"
    tls := {}
    routes := [.tcp ⟨∅, "route", "", ⟨"", "web"⟩⟩] }]

def noOrders (_ : ℕ) : List (String × List HostnameMatch) := []

theorem tcpGateway_visits : Visits tcpGateway noOrders := by
  intro i l hl
  match i, hl with
  | 0, hl =>
    cases Option.some.inj hl
    exact GoMap.ranges_empty

/-- The reconciler watches `web`, is answered, and handles the result. -/
def watching : IntentionsReconciler := new.updateChainWatchers {web} [web] []

def answered : IntentionsReconciler :=
  watching.setWatcher 0 ⟨web, ∅, some (⟨web, [web], []⟩, {web}), false⟩

def delivered : IntentionsReconciler :=
  { answered.setWatcher 0 ⟨web, {web}, none, false⟩ with received := some ⟨web, [web], []⟩ }

def handled : IntentionsReconciler :=
  { delivered.handleChainResult ⟨web, [web], []⟩ with received := none }

theorem answer_step : watching.Step (.answer 0 ⟨"web", "tcp", [web]⟩ [web] []) answered :=
  ⟨.new web, rfl, rfl,
    ⟨.of_toFinset (by decide) (by decide), .of_toFinset (by decide) (by decide)⟩, rfl⟩

theorem deliver_step : answered.Step (.deliver 0) delivered :=
  ⟨⟨web, ∅, some (⟨web, [web], []⟩, {web}), false⟩, _, _, rfl, rfl, rfl, rfl⟩

theorem handle_step : delivered.Step .handle handled := ⟨_, rfl, rfl⟩

/-- The gateway is synchronised; no index has an entry. -/
def synced : GatewaySystem := (start ∅).sync tcpGateway noOrders ⟨[], [], [], [], [], []⟩ [web] []

theorem sync_step : Step (start ∅)
    (.sync tcpGateway noOrders ⟨[], [], [], [], [], []⟩ [web] []) synced := by
  refine ⟨tcpGateway_visits, ⟨GoMap.ranges_empty, GoMap.ranges_empty, GoMap.ranges_empty,
    GoMap.ranges_empty, GoMap.ranges_empty, GoMap.ranges_empty⟩, ⟨?_, ?_⟩, rfl⟩
  · exact .of_toFinset (by decide) (by decide)
  · exact .of_toFinset (by decide) (by decide)

def ref : Ref := .live tcpGateway.id

/-- The loop has written the intention of `web`. -/
def granted : IntentionsReconciler × Option String × IntentionStore :=
  syncIntentionsOf IntentionStore.client (gatewayServiceName tcpGateway.id) "now" ⟨[web], []⟩
    handled ∅

theorem granted_store : granted.2.2.lookup web =
    some [sourceIntention (gatewayServiceName tcpGateway.id) "now"] := by
  unfold granted syncIntentionsOf
  simp only [IntentionStore.addSources_store, IntentionStore.delSources_store]
  rfl

def withReconciler (s : GatewaySystem) (r : IntentionsReconciler) : GatewaySystem :=
  s.set ref ⟨gatewayServiceName tcpGateway.id, r⟩

theorem get_withReconciler (s : GatewaySystem) (r : IntentionsReconciler) :
    (withReconciler s r).get ref = some ⟨gatewayServiceName tcpGateway.id, r⟩ :=
  Finmap.lookup_insert _

/-- The system after each step. -/
def isAnswered : GatewaySystem := withReconciler synced answered

def isDelivered : GatewaySystem := withReconciler isAnswered delivered

def isHandled : GatewaySystem := withReconciler isDelivered handled

def isGranted : GatewaySystem := { withReconciler isHandled granted.1 with store := granted.2.2 }

def isCleared : GatewaySystem := isGranted.clear tcpGateway.id ⟨[], [], []⟩

/-- The gateway is synchronised, its reconciler grants it `web`, and it is cleared. -/
def clearedRun : List (Event × GatewaySystem) :=
  [(.sync tcpGateway noOrders ⟨[], [], [], [], [], []⟩ [web] [], synced),
   (.watch ref (.answer 0 ⟨"web", "tcp", [web]⟩ [web] []), isAnswered),
   (.watch ref (.deliver 0), isDelivered),
   (.watch ref .handle, isHandled),
   (.syncIntentions ref "now" ⟨[web], []⟩, isGranted),
   (.clear tcpGateway.id ⟨[], [], []⟩, isCleared)]

theorem grant_step : isHandled.Step (.syncIntentions ref "now" ⟨[web], []⟩) isGranted := by
  refine ⟨_, get_withReconciler _ _, ⟨?_, ?_⟩, rfl, rfl⟩
  · exact .of_toFinset (by decide) (by decide)
  · exact .of_toFinset (by decide) (by decide)

theorem clear_visits (s : GatewaySystem) (h : s.adapter = synced.adapter) :
    ClearVisit.Of s.adapter tcpGateway.id ⟨[], [], []⟩ := by
  rw [h]
  exact ⟨GoMap.ranges_empty, GoMap.ranges_empty, GoMap.ranges_empty⟩

theorem run_clearedRun : Run Step (start ∅) clearedRun :=
  .cons sync_step <|
    .cons ⟨_, answered, rfl, answer_step, rfl⟩ <|
    .cons ⟨_, delivered, get_withReconciler _ _, deliver_step, rfl⟩ <|
    .cons ⟨_, handled, get_withReconciler _ _, handle_step, rfl⟩ <|
    .cons grant_step <|
    .cons ⟨clear_visits _ rfl, rfl⟩ (.nil _)

theorem mem_sync : tcpGateway.id ∈ isGranted.adapter.sync := Finmap.mem_insert.2 (.inl rfl)

theorem isCleared_cleared : tcpGateway.id ∈ isCleared.cleared := by
  rw [isCleared, clear, if_pos mem_sync]
  exact Finset.mem_insert_self _ _

theorem isCleared_store : isCleared.store.lookup web =
    some [sourceIntention (gatewayServiceName tcpGateway.id) "now"] := by
  have hlook : isGranted.intentions.lookup tcpGateway.id =
      some ⟨gatewayServiceName tcpGateway.id, granted.1⟩ := get_withReconciler isHandled _
  rw [isCleared, clear, if_pos mem_sync, stopIntentionSync, hlook]
  exact granted_store

/-- The chain of `web` loses its target; the reconciler handles it and revokes the source. -/
def emptied : IntentionsReconciler :=
  granted.1.setWatcher 0 ⟨web, {web}, some (⟨web, [], [web]⟩, ∅), false⟩

def emptiedDelivered : IntentionsReconciler :=
  { emptied.setWatcher 0 ⟨web, ∅, none, false⟩ with received := some ⟨web, [], [web]⟩ }

def emptiedHandled : IntentionsReconciler :=
  { emptiedDelivered.handleChainResult ⟨web, [], [web]⟩ with received := none }

def revoked : IntentionsReconciler × Option String × IntentionStore :=
  syncIntentionsOf IntentionStore.client (gatewayServiceName tcpGateway.id) "later" ⟨[], [web]⟩
    emptiedHandled granted.2.2

theorem granted_reconciler : granted.1 = { handled with targetTombstones := ∅ } :=
  syncIntentionsOf_reconciler ..

theorem emptied_step : granted.1.Step (.answer 0 ⟨"web", "tcp", []⟩ [] [web]) emptied := by
  refine ⟨⟨web, {web}, none, false⟩, ?_, rfl, ⟨?_, ?_⟩, rfl⟩
  · rw [granted_reconciler]
    rfl
  · exact .of_toFinset (by decide) (by decide)
  · exact .of_toFinset (by decide) (by decide)

theorem emptiedDeliver_step : emptied.Step (.deliver 0) emptiedDelivered := by
  refine ⟨⟨web, {web}, some (⟨web, [], [web]⟩, ∅), false⟩, _, _, Finmap.lookup_insert _, rfl, ?_,
    rfl⟩
  rw [emptied, granted_reconciler]
  rfl

theorem emptiedHandle_step : emptiedDelivered.Step .handle emptiedHandled := ⟨_, rfl, rfl⟩

/-- The target is a tombstone only. -/
theorem emptiedHandled_targets : emptiedHandled.targetIndex.keys = ∅ ∧
    emptiedHandled.targetTombstones = {web} := by
  unfold emptiedHandled emptiedDelivered emptied
  rw [granted_reconciler]
  decide

theorem revoked_knows (t : CompoundServiceName) : ¬ revoked.1.Knows t := by
  have hrevoked : revoked.1 = { emptiedHandled with
      targetTombstones := emptiedHandled.targetTombstones \ [web].toFinset } :=
    syncIntentionsOf_reconciler ..
  rw [hrevoked, emptiedHandled_targets.2]
  rintro (ht | ht)
  · have hkeys := Finmap.mem_keys.2 ht
    rw [emptiedHandled_targets.1] at hkeys
    cases hkeys
  · revert ht
    exact Finset.notMem_empty t

def isEmptied : GatewaySystem := withReconciler isGranted emptied

def isEmptiedDelivered : GatewaySystem := withReconciler isEmptied emptiedDelivered

def isEmptiedHandled : GatewaySystem := withReconciler isEmptiedDelivered emptiedHandled

def isRevoked : GatewaySystem :=
  { withReconciler isEmptiedHandled revoked.1 with store := revoked.2.2 }

/-- The gateway is granted `web`, which goes before the gateway is cleared. -/
def revokedRun : List (Event × GatewaySystem) :=
  [(.sync tcpGateway noOrders ⟨[], [], [], [], [], []⟩ [web] [], synced),
   (.watch ref (.answer 0 ⟨"web", "tcp", [web]⟩ [web] []), isAnswered),
   (.watch ref (.deliver 0), isDelivered),
   (.watch ref .handle, isHandled),
   (.syncIntentions ref "now" ⟨[web], []⟩, isGranted),
   (.watch ref (.answer 0 ⟨"web", "tcp", []⟩ [] [web]), isEmptied),
   (.watch ref (.deliver 0), isEmptiedDelivered),
   (.watch ref .handle, isEmptiedHandled),
   (.syncIntentions ref "later" ⟨[], [web]⟩, isRevoked),
   (.clear tcpGateway.id ⟨[], [], []⟩, isRevoked.clear tcpGateway.id ⟨[], [], []⟩)]

theorem revoke_step :
    isEmptiedHandled.Step (.syncIntentions ref "later" ⟨[], [web]⟩) isRevoked := by
  refine ⟨_, get_withReconciler _ _, ⟨?_, ?_⟩, rfl, rfl⟩
  · rw [emptiedHandled_targets.1]
    exact .of_toFinset (by decide) rfl
  · rw [emptiedHandled_targets.2]
    exact .of_toFinset (by decide) rfl

theorem run_revokedRun : Run Step (start ∅) revokedRun :=
  .cons sync_step <|
    .cons ⟨_, answered, rfl, answer_step, rfl⟩ <|
    .cons ⟨_, delivered, get_withReconciler _ _, deliver_step, rfl⟩ <|
    .cons ⟨_, handled, get_withReconciler _ _, handle_step, rfl⟩ <|
    .cons grant_step <|
    .cons ⟨_, emptied, get_withReconciler isHandled _, emptied_step, rfl⟩ <|
    .cons ⟨_, emptiedDelivered, get_withReconciler _ _, emptiedDeliver_step, rfl⟩ <|
    .cons ⟨_, emptiedHandled, get_withReconciler _ _, emptiedHandle_step, rfl⟩ <|
    .cons revoke_step <|
    .cons ⟨clear_visits _ rfl, rfl⟩ (.nil _)

end SampleRevocation

open SampleRevocation
open SampleServices (web)

/-- The sources of a gateway whose last target has gone before it is cleared are revoked. -/
theorem sourcesRevoked_targetGone :
    isGranted.store.lookup web = some [sourceIntention (gatewayServiceName tcpGateway.id) "now"] ∧
      Always (fun _ _ s' => SourcesRevoked s') (start ∅) revokedRun := by
  refine ⟨granted_store, sourcesRevoked_run (fun id name src hsrc _ => ?_) run_revokedRun ?_⟩
  · cases hsrc
  · refine ⟨trivial, trivial, trivial, trivial, trivial, trivial, trivial, trivial, trivial, ?_,
      trivial⟩
    rintro - existing hlook t
    obtain rfl : (⟨gatewayServiceName tcpGateway.id, revoked.1⟩ : GatewayIntentions) = existing :=
      Option.some.inj ((get_withReconciler _ _).symm.trans hlook)
    exact revoked_knows t

/-- **A gateway that is cleared may stay a source**: nothing removes it from the
intentions that its reconciler has written. -/
theorem clearedGateway_keeps_source :
    ∃ run, Run Step (start ∅) run ∧
      ¬ Always (fun _ _ s' => SourcesRevoked s') (start ∅) run := by
  refine ⟨clearedRun, run_clearedRun, ?_⟩
  rintro ⟨-, -, -, -, -, hrevoked, -⟩
  exact hrevoked tcpGateway.id isCleared_cleared web _ isCleared_store _ (List.mem_singleton_self _)
    ⟨"now", rfl⟩

end GatewaySystem

end Consul
