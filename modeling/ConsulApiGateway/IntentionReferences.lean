/-
The references of the intentions reconciler along its runs.

A reference stands for a target that the watcher of a service has reported.  The
watchers report differences to what they reported last, so that the references of
a service are right once its results have been handled, unless the service is
removed while it has targets: its watcher is cancelled and reports nothing more.

* `Tracked`, `Tracked.step` — the invariant, and its preservation;
* `refsExact_run` — the runs along which the references are those of the services
  of the ingress gateway;
* `removedService_keeps_reference` — a service that is removed keeps its
  references.
-/
import ConsulApiGateway.Intentions
import ConsulApiGateway.Run

namespace Consul.IntentionsReconciler

open TargetIndex

/-! ### The law and the steps that keep it -/

/-- The target is in the last set that the service's live watcher reported. -/
def Reported (r : IntentionsReconciler) (target service : CompoundServiceName) : Prop :=
  ∃ id w, r.chainWatchers.lookup service = some id ∧ r.watchers.lookup id = some w ∧
    target ∈ w.prevResults

/-- No result waits to be sent or to be handled. -/
def Idle (r : IntentionsReconciler) : Prop :=
  r.received = none ∧ ∀ id w, r.watchers.lookup id = some w → w.pending = none

/-- **The references are exact**: when no result is pending, they are those of
the services of the ingress gateway to the targets they last reported. -/
def RefsExact (r : IntentionsReconciler) : Prop :=
  r.Idle → ∀ t s, HasRef r.targetIndex t s ↔ s ∈ r.ingressServiceIndex ∧ r.Reported t s

/-- The steps along which the references stay exact: a service is removed only
when it has no targets, and a watcher that has been cancelled has nothing to
report. -/
def Released (r : IntentionsReconciler) (e : Event) : Prop :=
  match e with
  | .setIngressServices newIdx _ _ =>
    ∀ service ∈ r.ingressServiceIndex, service ∉ newIdx → ∀ t, ¬ r.Reported t service
  | .deliver id => ∀ w result names, r.watchers.lookup id = some w → w.cancelled = true →
    w.pending = some (result, names) → result.added = [] ∧ result.removed = []
  | _ => True

/-- The references once the result that has been received is handled. -/
def Settled (r : IntentionsReconciler) (t s : CompoundServiceName) : Prop :=
  match r.received with
  | none => HasRef r.targetIndex t s
  | some result => (HasRef r.targetIndex t s ∨ s = result.name ∧ t ∈ result.added) ∧
    ¬ (s = result.name ∧ t ∈ result.removed)

/-- How the watchers, the services and the references hang together. -/
structure Linked (r : IntentionsReconciler) : Prop where
  fresh : ∀ {id}, id ∈ r.watchers → id < r.nextWatcher
  /-- The watcher of a service is running. -/
  live : ∀ {s id}, r.chainWatchers.lookup s = some id →
    ∃ w, r.watchers.lookup id = some w ∧ w.name = s ∧ w.cancelled = false
  /-- A running watcher is that of its service. -/
  owner : ∀ {id w}, r.watchers.lookup id = some w → w.cancelled = false →
    r.chainWatchers.lookup w.name = some id
  pending : ∀ {id w result names}, r.watchers.lookup id = some w →
    w.pending = some (result, names) →
    result.name = w.name ∧ Diff w.prevResults names result.added result.removed
  refs : ∀ t s, r.Settled t s ↔ r.Reported t s

/-- The services of the ingress gateway are those with a watcher. -/
structure Tracked (r : IntentionsReconciler) : Prop extends Linked r where
  ingress : ∀ s, s ∈ r.ingressServiceIndex ↔ s ∈ r.chainWatchers

variable {r : IntentionsReconciler} {id : ℕ} {w : DiscoChainWatcher}

theorem Tracked.refsExact (h : r.Tracked) : r.RefsExact := by
  rintro ⟨hrec, -⟩ t s
  have hrefs : HasRef r.targetIndex t s ↔ r.Reported t s := by
    rw [← h.refs, Settled, hrec]
  rw [hrefs, h.ingress]
  refine (and_iff_right_of_imp ?_).symm
  rintro ⟨id, w, hid, -⟩
  exact Finmap.mem_of_lookup_eq_some hid

theorem tracked_new : Tracked new where
  fresh h := absurd h Finmap.notMem_empty
  live h := by simp [new] at h
  owner h := by simp [new] at h
  pending h := by simp [new] at h
  refs t s := by simp [Settled, Reported, HasRef, listRefs, new]
  ingress s := by simp [new, Finmap.notMem_empty]

/-! ### Watchers are cancelled and started -/

/-- What cancelling the watcher of a service leaves. -/
def cancel (r : IntentionsReconciler) (service : CompoundServiceName) (id : ℕ)
    (w : DiscoChainWatcher) : IntentionsReconciler :=
  { r with
    watchers := r.watchers.insert id { w with cancelled := true }
    chainWatchers := r.chainWatchers.erase service }

/-- Cancelling keeps the links if the service had reported no targets. -/
theorem Linked.cancel (h : r.Linked) {service : CompoundServiceName}
    (hid : r.chainWatchers.lookup service = some id) (hw : r.watchers.lookup id = some w)
    (hnone : ∀ t, ¬ r.Reported t service) : (r.cancel service id w).Linked := by
  have hname : w.name = service := by
    obtain ⟨w', hw', hname, -⟩ := h.live hid
    cases hw.symm.trans hw'
    exact hname
  -- the other services have other watchers
  have hother : ∀ {s id'}, s ≠ service → r.chainWatchers.lookup s = some id' → id' ≠ id := by
    rintro s id' hs hid' rfl
    obtain ⟨w', hw', hname', -⟩ := h.live hid'
    cases hw.symm.trans hw'
    exact hs (hname'.symm.trans hname)
  refine ⟨?_, ?_, ?_, ?_, ?_⟩
  · intro id' hid'
    rcases Finmap.mem_insert.1 hid' with rfl | hmem
    · exact h.fresh (Finmap.mem_of_lookup_eq_some hw)
    · exact h.fresh hmem
  · intro s id' hs
    simp only [IntentionsReconciler.cancel, GoMap.lookup_erase_ite] at hs
    split_ifs at hs with heq
    obtain ⟨w', hw', hrest⟩ := h.live hs
    refine ⟨w', ?_, hrest⟩
    rw [IntentionsReconciler.cancel, Finmap.lookup_insert_of_ne _ (hother heq hs), hw']
  · intro id' w' hw' hrun
    rcases GoMap.lookup_insert_eq_some.1 hw' with ⟨-, rfl⟩ | ⟨hne, hw'⟩
    · cases hrun
    · have hown := h.owner hw' hrun
      rw [IntentionsReconciler.cancel, GoMap.lookup_erase_ite, if_neg, hown]
      intro heq
      rw [heq, hid] at hown
      exact hne (Option.some.inj hown).symm
  · intro id' w' result names hw' hpend
    rcases GoMap.lookup_insert_eq_some.1 hw' with ⟨-, rfl⟩ | ⟨-, hw'⟩
    · have hdiff := h.pending hw hpend
      exact hdiff
    · exact h.pending hw' hpend
  · intro t s
    refine (h.refs t s).trans ?_
    by_cases heq : s = service
    · -- it had reported nothing, and has no watcher now
      subst heq
      refine iff_of_false (hnone t) ?_
      rintro ⟨id', w', hid', -⟩
      simp [IntentionsReconciler.cancel] at hid'
    · refine exists_congr fun id' => exists_congr fun w' => ?_
      rw [IntentionsReconciler.cancel, GoMap.lookup_erase_ite, if_neg heq]
      refine and_congr_right fun hid' => ?_
      rw [Finmap.lookup_insert_of_ne _ (hother heq hid')]

/-- What starting the watcher of a service leaves. -/
def start (r : IntentionsReconciler) (service : CompoundServiceName) : IntentionsReconciler :=
  { r with
    watchers := r.watchers.insert r.nextWatcher (.new service)
    nextWatcher := r.nextWatcher + 1
    chainWatchers := r.chainWatchers.insert service r.nextWatcher }

theorem Linked.start (h : r.Linked) {service : CompoundServiceName}
    (hnew : service ∉ r.chainWatchers) : (r.start service).Linked := by
  have hnext : ∀ {id w}, r.watchers.lookup id = some w → id ≠ r.nextWatcher :=
    fun hw => (h.fresh (Finmap.mem_of_lookup_eq_some hw)).ne
  have hchain : ∀ s, (r.start service).chainWatchers.lookup s =
      if s = service then some r.nextWatcher else r.chainWatchers.lookup s :=
    fun s => GoMap.lookup_insert_ite _ _ _ _
  have hold : ∀ {id w}, r.watchers.lookup id = some w →
      (r.start service).watchers.lookup id = some w := by
    intro id w hw
    rw [IntentionsReconciler.start, Finmap.lookup_insert_of_ne _ (hnext hw), hw]
  refine ⟨?_, ?_, ?_, ?_, ?_⟩
  · intro id hid
    rcases Finmap.mem_insert.1 hid with rfl | hmem
    · exact Nat.lt_succ_self _
    · exact Nat.lt_succ_of_lt (h.fresh hmem)
  · intro s id hs
    rw [hchain] at hs
    split_ifs at hs with heq
    · cases hs
      subst heq
      exact ⟨.new s, Finmap.lookup_insert _, rfl, rfl⟩
    · obtain ⟨w, hw, hrest⟩ := h.live hs
      exact ⟨w, hold hw, hrest⟩
  · intro id w hw hrun
    rw [hchain]
    rcases GoMap.lookup_insert_eq_some.1 hw with ⟨rfl, rfl⟩ | ⟨-, hw⟩
    · exact if_pos rfl
    · have hown := h.owner hw hrun
      rw [if_neg, hown]
      rintro rfl
      exact hnew (Finmap.mem_of_lookup_eq_some hown)
  · intro id w result names hw hpend
    rcases GoMap.lookup_insert_eq_some.1 hw with ⟨-, rfl⟩ | ⟨-, hw⟩
    · cases hpend
    · exact h.pending hw hpend
  · intro t s
    refine (h.refs t s).trans ?_
    by_cases heq : s = service
    · -- the new watcher has reported nothing
      subst heq
      refine iff_of_false ?_ ?_
      · rintro ⟨id, w, hid, -⟩
        exact hnew (Finmap.mem_of_lookup_eq_some hid)
      · rintro ⟨id, w, hid, hw, ht⟩
        rw [hchain, if_pos rfl] at hid
        cases hid
        rcases GoMap.lookup_insert_eq_some.1 hw with ⟨-, rfl⟩ | ⟨-, hw⟩
        · exact Finset.notMem_empty t ht
        · exact hnext hw rfl
    · refine exists_congr fun id => exists_congr fun w => ?_
      rw [hchain, if_neg heq]
      refine and_congr_right fun hid => and_congr_left' ⟨hold, fun hw => ?_⟩
      obtain ⟨w', hw', -⟩ := h.live hid
      rcases GoMap.lookup_insert_eq_some.1 hw with ⟨rfl, -⟩ | ⟨-, hw⟩
      · exact absurd rfl (hnext hw')
      · exact hw

theorem cancelWatchers_spec (services : List CompoundServiceName) :
    ∀ r : IntentionsReconciler, r.Linked → (∀ s ∈ services, ∀ t, ¬ r.Reported t s) →
      (cancelWatchers services r).Linked ∧ ∀ s,
        s ∈ (cancelWatchers services r).chainWatchers ↔ s ∈ r.chainWatchers ∧ s ∉ services := by
  induction services with
  | nil => exact fun r h _ => ⟨h, fun s => by simp [cancelWatchers]⟩
  | cons service services ih =>
    intro r h hnone
    cases hid : r.chainWatchers.lookup service with
    | none =>
      have hstep : cancelWatchers (service :: services) r = cancelWatchers services r := by
        rw [cancelWatchers, hid]
      obtain ⟨hlink, hkeys⟩ := ih r h fun s hs => hnone s (List.mem_cons_of_mem _ hs)
      rw [hstep]
      refine ⟨hlink, fun s => (hkeys s).trans (and_congr_right fun hs => ?_)⟩
      have hne : s ≠ service := by
        rintro rfl
        exact Finmap.lookup_eq_none.1 hid hs
      simp [hne]
    | some id =>
      obtain ⟨w, hw, -, -⟩ := h.live hid
      have hstep : cancelWatchers (service :: services) r =
          cancelWatchers services (r.cancel service id w) := by
        rw [cancelWatchers, hid]
        simp only [hw]
        rfl
      have hlinked := h.cancel hid hw (hnone service (List.mem_cons_self ..))
      -- cancelling leaves the reports as they are, so the rest is still unreported
      obtain ⟨hlink, hkeys⟩ := ih _ hlinked fun s hs t hrep =>
        hnone s (List.mem_cons_of_mem _ hs) t
          ((h.refs t s).1 ((hlinked.refs t s).2 hrep))
      rw [hstep]
      refine ⟨hlink, fun s => (hkeys s).trans ?_⟩
      rw [IntentionsReconciler.cancel, Finmap.mem_erase, List.mem_cons, not_or]
      constructor
      · exact fun ⟨⟨hne, hs⟩, hnot⟩ => ⟨hs, hne, hnot⟩
      · exact fun ⟨hs, hne, hnot⟩ => ⟨⟨hne, hs⟩, hnot⟩

theorem startWatchers_spec (services : List CompoundServiceName) :
    ∀ r : IntentionsReconciler, r.Linked → (startWatchers services r).Linked ∧ ∀ s,
      s ∈ (startWatchers services r).chainWatchers ↔ s ∈ r.chainWatchers ∨ s ∈ services := by
  induction services with
  | nil => exact fun r h => ⟨h, fun s => by simp [startWatchers]⟩
  | cons service services ih =>
    intro r h
    by_cases hmem : service ∈ r.chainWatchers
    · have hstep : startWatchers (service :: services) r = startWatchers services r := by
        rw [startWatchers, if_pos hmem]
      obtain ⟨hlink, hkeys⟩ := ih r h
      rw [hstep]
      refine ⟨hlink, fun s => (hkeys s).trans ?_⟩
      rw [List.mem_cons, ← or_assoc, or_iff_left_of_imp (b := s = service)]
      rintro rfl
      exact hmem
    · have hstep : startWatchers (service :: services) r =
          startWatchers services (r.start service) := by
        rw [startWatchers, if_neg hmem]
        rfl
      obtain ⟨hlink, hkeys⟩ := ih _ (h.start hmem)
      rw [hstep]
      refine ⟨hlink, fun s => (hkeys s).trans ?_⟩
      rw [IntentionsReconciler.start, Finmap.mem_insert, List.mem_cons, or_comm (a := s = service),
        or_assoc]

/-- The watchers follow the services of the ingress gateway. -/
theorem Tracked.updateChainWatchers (h : r.Tracked) {newIdx : ServiceNameIndex}
    {added removed : List CompoundServiceName}
    (hdiff : Diff r.ingressServiceIndex newIdx added removed)
    (hnone : ∀ s ∈ r.ingressServiceIndex, s ∉ newIdx → ∀ t, ¬ r.Reported t s) :
    (r.updateChainWatchers newIdx added removed).Tracked := by
  have hremoved : ∀ s, s ∈ removed ↔ s ∈ r.ingressServiceIndex ∧ s ∉ newIdx := fun s => by
    rw [hdiff.removed.mem_iff, Finset.mem_sdiff]
  have hadded : ∀ s, s ∈ added ↔ s ∈ newIdx ∧ s ∉ r.ingressServiceIndex := fun s => by
    rw [hdiff.added.mem_iff, Finset.mem_sdiff]
  obtain ⟨hcancelled, hleft⟩ := cancelWatchers_spec removed r h.toLinked fun s hs =>
    hnone s ((hremoved s).1 hs).1 ((hremoved s).1 hs).2
  obtain ⟨hstarted, hkeys⟩ := startWatchers_spec added _ hcancelled
  refine ⟨⟨hstarted.fresh, hstarted.live, hstarted.owner, hstarted.pending, hstarted.refs⟩,
    fun s => ?_⟩
  change s ∈ newIdx ↔ s ∈ (startWatchers added (cancelWatchers removed r)).chainWatchers
  rw [hkeys, hleft, hremoved, hadded, ← h.ingress]
  by_cases hold : s ∈ r.ingressServiceIndex <;> simp [hold]

/-! ### Watchers report -/

/-- What a service has reported is what its watcher has. -/
theorem reported_iff {s : CompoundServiceName} (hid : r.chainWatchers.lookup s = some id)
    (hw : r.watchers.lookup id = some w) (t : CompoundServiceName) :
    r.Reported t s ↔ t ∈ w.prevResults := by
  constructor
  · rintro ⟨id', w', hid', hw', ht⟩
    cases hid.symm.trans hid'
    cases hw.symm.trans hw'
    exact ht
  · exact fun ht => ⟨id, w, hid, hw, ht⟩

/-- Changing a watcher that is not that of the service. -/
theorem reported_setWatcher_of_ne {s : CompoundServiceName}
    (hid : r.chainWatchers.lookup s ≠ some id) (w : DiscoChainWatcher) (t : CompoundServiceName) :
    (r.setWatcher id w).Reported t s ↔ r.Reported t s := by
  refine exists_congr fun id' => exists_congr fun w' => and_congr_right fun hid' => ?_
  have hne : id' ≠ id := by
    rintro rfl
    exact hid hid'
  rw [setWatcher, Finmap.lookup_insert_of_ne _ hne]

/-- Changing a watcher, but not whose it is or whether it runs, and what the loop
has received. -/
theorem Linked.setWatcher (h : r.Linked) {w' : DiscoChainWatcher}
    (received : Option DiscoChainWatchResult) (hw : r.watchers.lookup id = some w)
    (hname : w'.name = w.name) (hrun : w'.cancelled = w.cancelled)
    (hpend : ∀ {result names}, w'.pending = some (result, names) →
      result.name = w'.name ∧ Diff w'.prevResults names result.added result.removed)
    (hrefs : ∀ t s, { r with received := received }.Settled t s ↔
      (r.setWatcher id w').Reported t s) :
    { r.setWatcher id w' with received := received }.Linked := by
  refine ⟨?_, ?_, ?_, ?_, hrefs⟩
  · intro id' hid'
    rcases Finmap.mem_insert.1 hid' with rfl | hmem
    · exact h.fresh (Finmap.mem_of_lookup_eq_some hw)
    · exact h.fresh hmem
  · intro s id' hs
    obtain ⟨w'', hw'', hname'', hrun''⟩ := h.live hs
    by_cases heq : id' = id
    · subst heq
      cases hw.symm.trans hw''
      exact ⟨w', Finmap.lookup_insert _, hname.trans hname'', hrun.trans hrun''⟩
    · refine ⟨w'', ?_, hname'', hrun''⟩
      rw [IntentionsReconciler.setWatcher, Finmap.lookup_insert_of_ne _ heq, hw'']
  · intro id' w'' hw'' hrun''
    rcases GoMap.lookup_insert_eq_some.1 hw'' with ⟨rfl, rfl⟩ | ⟨-, hw''⟩
    · rw [hname]
      exact h.owner hw (hrun.symm.trans hrun'')
    · exact h.owner hw'' hrun''
  · intro id' w'' result names hw'' hpend''
    rcases GoMap.lookup_insert_eq_some.1 hw'' with ⟨-, rfl⟩ | ⟨-, hw''⟩
    · exact hpend hpend''
    · exact h.pending hw'' hpend''

/-- A watcher has an answer. -/
theorem Linked.answer (h : r.Linked) {names : ServiceNameIndex}
    {added removed : List CompoundServiceName} (hw : r.watchers.lookup id = some w)
    (hdiff : Diff w.prevResults names added removed) :
    (r.setWatcher id { w with pending := some (⟨w.name, added, removed⟩, names) }).Linked := by
  refine h.setWatcher r.received hw rfl rfl ?_ fun t s => ?_
  · rintro _ _ ⟨⟩
    exact ⟨rfl, hdiff⟩
  · refine (h.refs t s).trans ?_
    by_cases hid : r.chainWatchers.lookup s = some id
    · rw [reported_iff hid hw, reported_iff (r := r.setWatcher id _) hid (Finmap.lookup_insert _)]
    · rw [reported_setWatcher_of_ne hid]

/-- The loop receives a result; one of a cancelled watcher has to be empty. -/
theorem Linked.deliver (h : r.Linked) {result : DiscoChainWatchResult} {names : ServiceNameIndex}
    (hw : r.watchers.lookup id = some w) (hpend : w.pending = some (result, names))
    (hrec : r.received = none)
    (hempty : w.cancelled = true → result.added = [] ∧ result.removed = []) :
    { r.setWatcher id { w with prevResults := names, pending := none } with
      received := some result }.Linked := by
  obtain ⟨hname, hdiff⟩ := h.pending hw hpend
  have hrefs : ∀ t s, HasRef r.targetIndex t s ↔ r.Reported t s := fun t s => by
    rw [← h.refs, Settled, hrec]
  refine h.setWatcher (some result) hw rfl rfl (fun hcon => by cases hcon) fun t s => ?_
  change (HasRef r.targetIndex t s ∨ s = result.name ∧ t ∈ result.added) ∧
    ¬ (s = result.name ∧ t ∈ result.removed) ↔ _
  rw [hrefs]
  cases hrun : w.cancelled with
  | true =>
    -- nothing is reported, and the watcher is that of no service
    obtain ⟨hadded, hremoved⟩ := hempty hrun
    have hid : r.chainWatchers.lookup s ≠ some id := by
      intro hid
      obtain ⟨w', hw', -, hrun'⟩ := h.live hid
      cases hw.symm.trans hw'
      exact Bool.false_ne_true (hrun'.symm.trans hrun)
    rw [reported_setWatcher_of_ne hid]
    simp [hadded, hremoved]
  | false =>
    have hown := h.owner hw hrun
    rw [hname]
    by_cases heq : s = w.name
    · subst heq
      rw [reported_iff hown hw, reported_iff (r := r.setWatcher id _) hown
        (Finmap.lookup_insert _), hdiff.added.mem_iff, hdiff.removed.mem_iff,
        Finset.mem_sdiff, Finset.mem_sdiff]
      by_cases hold : t ∈ w.prevResults <;> simp [hold]
    · have hid : r.chainWatchers.lookup s ≠ some id := by
        intro hid
        obtain ⟨w', hw', hname', -⟩ := h.live hid
        cases hw.symm.trans hw'
        exact heq hname'.symm
      rw [reported_setWatcher_of_ne hid]
      simp [heq]

/-- A cancelled watcher returns. -/
theorem Linked.stop (h : r.Linked) (hw : r.watchers.lookup id = some w)
    (hrun : w.cancelled = true) : { r with watchers := r.watchers.erase id }.Linked := by
  have hlook : ∀ {id' w'}, (r.watchers.erase id).lookup id' = some w' →
      r.watchers.lookup id' = some w' := by
    intro id' w' hw'
    rw [GoMap.lookup_erase_ite] at hw'
    split_ifs at hw'
    exact hw'
  have hlive : ∀ {s id'}, r.chainWatchers.lookup s = some id' →
      (r.watchers.erase id).lookup id' = r.watchers.lookup id' := by
    intro s id' hid'
    refine Finmap.lookup_erase_ne ?_
    rintro rfl
    obtain ⟨w', hw', -, hrun'⟩ := h.live hid'
    cases hw.symm.trans hw'
    exact Bool.false_ne_true (hrun'.symm.trans hrun)
  refine ⟨?_, ?_, fun hw' => h.owner (hlook hw'), fun hw' => h.pending (hlook hw'), ?_⟩
  · exact fun hid' => h.fresh (Finmap.mem_erase.1 hid').2
  · intro s id' hid'
    obtain ⟨w', hw', hrest⟩ := h.live hid'
    exact ⟨w', (hlive hid').trans hw', hrest⟩
  · refine fun t s => (h.refs t s).trans ?_
    refine exists_congr fun id' => exists_congr fun w' => and_congr_right fun hid' => ?_
    rw [hlive hid']

/-- The loop handles what it has received. -/
theorem Linked.handle (h : r.Linked) {result : DiscoChainWatchResult}
    (hrec : r.received = some result) :
    { r.handleChainResult result with received := none }.Linked := by
  obtain ⟨hwatchers, hnext, hchain, -⟩ := handleChainResult_frame r result
  refine ⟨?_, ?_, ?_, ?_, fun t s => ?_⟩
  · rw [hwatchers, hnext]
    exact h.fresh
  · rw [hwatchers, hchain]
    exact h.live
  · rw [hwatchers, hchain]
    exact h.owner
  · rw [hwatchers]
    exact h.pending
  · have hrefs := h.refs t s
    rw [Settled, hrec] at hrefs
    rw [Reported, hwatchers, hchain]
    exact (handleChainResult_hasRef r result t s).trans hrefs

/-! ### Runs -/

theorem Tracked.step {r' : IntentionsReconciler} {e : Event} (h : r.Tracked) (hstep : Step r e r')
    (hrel : Released r e) : r'.Tracked := by
  cases e with
  | setIngressServices newIdx added removed =>
    obtain ⟨hdiff, rfl⟩ := hstep
    exact h.updateChainWatchers hdiff hrel
  | answer id chain added removed =>
    obtain ⟨w, hw, -, hdiff, rfl⟩ := hstep
    exact ⟨h.toLinked.answer hw hdiff, h.ingress⟩
  | deliver id =>
    obtain ⟨w, result, names, hw, hpend, hrec, rfl⟩ := hstep
    exact ⟨h.toLinked.deliver hw hpend hrec fun hrun => hrel w result names hw hrun hpend,
      h.ingress⟩
  | stop id =>
    obtain ⟨w, hw, hrun, rfl⟩ := hstep
    exact ⟨h.toLinked.stop hw hrun, h.ingress⟩
  | handle =>
    obtain ⟨result, hrec, rfl⟩ := hstep
    obtain ⟨-, -, hchain, hingress⟩ := handleChainResult_frame r result
    refine ⟨h.toLinked.handle hrec, ?_⟩
    rw [hchain, hingress]
    exact h.ingress
  | sync failed =>
    obtain ⟨-, rfl⟩ := hstep
    exact ⟨⟨h.fresh, h.live, h.owner, h.pending, h.refs⟩, h.ingress⟩

/-- **The references of a run**: they stay exact as long as only services without
targets are removed and cancelled watchers report nothing. -/
theorem refsExact_run {run : List (Event × IntentionsReconciler)} (hrun : Run Step new run)
    (hreleased : Always (fun r e _ => Released r e) new run) :
    Always (fun _ _ r' => RefsExact r') new run :=
  hrun.always_of_invariant (I := Tracked) tracked_new
    (fun h hstep hrel => ⟨(h.step hstep hrel).refsExact, h.step hstep hrel⟩) hreleased

/-! ### A service with one target -/

namespace SampleChain

open SampleServices (web api)

/-- The chain of `web`, which leads to `api`. -/
def chain : CompiledDiscoveryChain := ⟨"web", "http", [web, api]⟩

def addWeb : Event := .setIngressServices {web} [web] []

def removeWeb : Event := .setIngressServices ∅ [] [web]

def answerWeb : Event := .answer 0 chain [api] []

def watching : IntentionsReconciler := new.updateChainWatchers {web} [web] []

def answered : IntentionsReconciler :=
  watching.setWatcher 0 ⟨web, ∅, some (⟨web, [api], []⟩, {api}), false⟩

def delivered : IntentionsReconciler :=
  { answered.setWatcher 0 ⟨web, {api}, none, false⟩ with received := some ⟨web, [api], []⟩ }

def handled : IntentionsReconciler :=
  { delivered.handleChainResult ⟨web, [api], []⟩ with received := none }

/-- The service is watched and its chain is answered and handled. -/
def run : List (Event × IntentionsReconciler) :=
  [(addWeb, watching), (answerWeb, answered), (.deliver 0, delivered), (.handle, handled)]

theorem addWeb_step : Step new addWeb watching :=
  ⟨⟨.of_toFinset (by decide) (by decide), .of_toFinset (by decide) (by decide)⟩, rfl⟩

theorem answerWeb_step : Step watching answerWeb answered :=
  ⟨.new web, rfl, rfl,
    ⟨.of_toFinset (by decide) (by decide), .of_toFinset (by decide) (by decide)⟩, rfl⟩

theorem deliver_step : Step answered (.deliver 0) delivered :=
  ⟨⟨web, ∅, some (⟨web, [api], []⟩, {api}), false⟩, _, _, rfl, rfl, rfl, rfl⟩

theorem handle_step : Step delivered .handle handled :=
  ⟨_, rfl, rfl⟩

theorem removeWeb_step : Step handled removeWeb (handled.updateChainWatchers ∅ [] [web]) :=
  ⟨⟨.of_toFinset (by decide) (by decide), .of_toFinset (by decide) (by decide)⟩, rfl⟩

end SampleChain

open SampleChain
open SampleServices (web api)

/-- The references of the run in which `web` is watched are exact. -/
theorem refsExact_watched : Run Step new SampleChain.run ∧
    Always (fun _ _ r' => RefsExact r') new SampleChain.run := by
  have hrun : Run Step new SampleChain.run :=
    .cons addWeb_step (.cons answerWeb_step (.cons deliver_step (.cons handle_step (.nil _))))
  refine ⟨hrun, refsExact_run hrun ⟨?_, trivial, ?_, trivial, trivial⟩⟩
  · intro s hs
    exact absurd hs (Finset.notMem_empty s)
  · intro w result names hw hrunning
    cases Option.some.inj hw
    cases hrunning

/-- **A removed service keeps its references**: its watcher is cancelled, and
nothing takes back what it had reported. -/
theorem removedService_keeps_reference : ∃ run, Run Step new run ∧
    ¬ Always (fun _ _ r' => RefsExact r') new run := by
  refine ⟨[(addWeb, watching), (answerWeb, answered), (.deliver 0, delivered), (.handle, handled),
    (removeWeb, handled.updateChainWatchers ∅ [] [web])], ?_, ?_⟩
  · exact .cons addWeb_step (.cons answerWeb_step (.cons deliver_step (.cons handle_step
      (.cons removeWeb_step (.nil _)))))
  · rintro ⟨-, -, -, -, hexact, -⟩
    have hidle : (handled.updateChainWatchers ∅ [] [web]).Idle := by
      refine ⟨rfl, fun id w hw => ?_⟩
      have hkeys : (handled.updateChainWatchers ∅ [] [web]).watchers.keys = {0} := by decide
      have hid := Finmap.mem_keys.2 (Finmap.mem_of_lookup_eq_some hw)
      rw [hkeys, Finset.mem_singleton] at hid
      subst hid
      cases Option.some.inj hw
      rfl
    have href : HasRef (handled.updateChainWatchers ∅ [] [web]).targetIndex api web := by
      unfold HasRef
      decide
    exact Finset.notMem_empty web ((hexact hidle api web).1 href).1

end Consul.IntentionsReconciler
