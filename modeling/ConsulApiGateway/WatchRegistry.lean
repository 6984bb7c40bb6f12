/-
Watched certificates are registered: the secret manager over whole runs.

A run is any sequence of `Watch`, `Unwatch`, `UnwatchAll`,
`SetResourcesForNode` and `manage` calls, each with arbitrary answers of the
secret client and the cache (`Call`, `Step`).

`watch` marks a name as watched before it fetches it, and a failing fetch ends
the call without taking the mark back.  So the law "a watched certificate is
registered with its watcher among the references" survives a call exactly when
every certificate the call has to fetch is fetched (`Fetched`):

* `watchedRegistered_step_iff` — one call;
* `watchedRegistered_run_iff` — every run from a fresh manager;
* `failedFetch_leaves_watch` — the shortest run that breaks it.
-/
import ConsulApiGateway.SecretManager

namespace Envoy

/-- The exported operations of the manager and the body of its refresh loop. -/
inductive Op
  | watch (names : List String) (node : String)
  | unwatch (names : List String) (node : String)
  | unwatchAll (node : String) (order : List String)
  | setResourcesForNode (names : List String) (node : String) (order : List String)
  | manage (force : Bool) (now : ℤ) (order : List String)

/-- One call of the manager, with what it is answered. -/
structure Call where
  op : Op
  answers : Answers

namespace SecretManager

/-- The state a call leaves and the error it returns. -/
def exec (s : SecretManager) (c : Call) : SecretManager × Option String :=
  match c.op with
  | .watch names node => s.watch c.answers names node
  | .unwatch names node => s.unwatch c.answers names node
  | .unwatchAll node order => s.unwatchAll c.answers node order
  | .setResourcesForNode names node order => s.setResourcesForNode c.answers names node order
  | .manage force now order => (s.manage c.answers force now 0 order, none)

/-- The orders a call names are orders in which its loops may visit the maps. -/
def Orders (s : SecretManager) : Op → Prop
  | .unwatchAll node order =>
    ∀ watcher, s.watchers.lookup node = some watcher → GoSet.Ranges watcher order
  | .setResourcesForNode _ node order =>
    ∀ watcher, s.watchers.lookup node = some watcher → GoSet.Ranges watcher order
  | .manage _ _ order => GoSet.Ranges s.registry.keys order
  | _ => True

/-- A call takes the manager from one state to the next. -/
def Step (s : SecretManager) (c : Call) (s' : SecretManager) : Prop :=
  s.Orders c.op ∧ (s.exec c).1 = s'

/-- A watched certificate is registered, with its watcher among the references. -/
def WatchedRegistered (s : SecretManager) : Prop :=
  ∀ node name, s.Watches node name → s.References node name

/-- Every certificate that a call to watch has to fetch is fetched. -/
def Fetched (s : SecretManager) (c : Call) : Prop :=
  match c.op with
  | .watch names _ | .setResourcesForNode names _ _ =>
    ∀ name ∈ names, name ∉ s.registry → ∃ fetched, c.answers.fetchSecret name = .ok fetched
  | _ => True

/-! ### One call -/

/-- A call of `watch` either fetches all it has to, or leaves a watched name
unregistered. -/
theorem watch_cases (a : Answers) (names : List String) (node : String) (s : SecretManager) :
    ((∀ n x, (s.watch a names node).1.Watches n x ↔ s.Watches n x ∨ n = node ∧ x ∈ names) ∧
      (∀ n x, (s.watch a names node).1.References n x ↔
        s.References n x ∨ n = node ∧ x ∈ names) ∧
      (∀ x ∈ names, x ∉ s.registry → ∃ fetched, a.fetchSecret x = .ok fetched)) ∨
    ((s.watch a names node).2.isSome ∧ ∃ bad ∈ names, bad ∉ s.registry ∧
      (∀ fetched, a.fetchSecret bad ≠ .ok fetched) ∧
      (s.watch a names node).1.Watches node bad ∧ bad ∉ (s.watch a names node).1.registry) := by
  rcases h : watchNames a node names [] (s.initWatcher node) with ⟨s', err | certs⟩
  · right
    rw [watch_of_error h]
    obtain ⟨bad, hb, hs, hfetch, hw, hreg⟩ := watchNames_error h
    rw [registry_initWatcher] at hs
    exact ⟨rfl, bad, hb, hs, fun fetched hf => by simp [hfetch] at hf, hw, hreg⟩
  · left
    rw [watch_of_ok h]
    obtain ⟨hw, hr, hf⟩ := watchNames_ok h
    obtain ⟨hmw, hmr⟩ := updateCertificates_maps a certs 0 s'
    simp only [registry_initWatcher] at hf
    refine ⟨fun n x => ?_, fun n x => ?_, hf⟩
    · rw [← watches_initWatcher s node, ← hw]
      unfold Watches
      rw [hmw]
    · rw [← references_initWatcher s node, ← hr]
      unfold References
      rw [hmr]

/-- `watch` keeps the law exactly when it fetches all it has to. -/
theorem watchedRegistered_watch_iff {s : SecretManager} (hI : s.WatchedRegistered)
    (a : Answers) (names : List String) (node : String) :
    (s.watch a names node).1.WatchedRegistered ↔
      ∀ x ∈ names, x ∉ s.registry → ∃ fetched, a.fetchSecret x = .ok fetched := by
  rcases watch_cases a names node s with ⟨hw, hr, hf⟩ | ⟨-, bad, hb, hreg, hfail, hw, hreg'⟩
  · refine iff_of_true (fun n x h => ?_) hf
    rw [hr]
    exact ((hw n x).mp h).imp_left (hI n x)
  · refine iff_of_false (fun h => hreg' (h node bad hw).mem_registry) fun h => ?_
    obtain ⟨fetched, hok⟩ := h bad hb hreg
    exact hfail fetched hok

theorem watchedRegistered_unwatch {s : SecretManager} (hI : s.WatchedRegistered)
    (a : Answers) (names : List String) (node : String) :
    (s.unwatch a names node).1.WatchedRegistered := by
  intro n x h
  obtain ⟨h, hne⟩ := (watches_unwatch a names node s n x).mp h
  exact (references_unwatch a names node s n x).mpr ⟨hI n x h, fun hx => hne hx.2⟩

theorem watchedRegistered_unwatchAll {s : SecretManager} (hI : s.WatchedRegistered)
    (a : Answers) (node : String) (order : List String) :
    (s.unwatchAll a node order).1.WatchedRegistered := by
  intro n x h
  obtain ⟨h, hne⟩ := (watches_unwatchAll a node order s n x).mp h
  exact (references_unwatchAll a node order s n x).mpr ⟨hI n x h, fun hx => hne hx.2.1⟩

theorem watchedRegistered_manage {s : SecretManager} (hI : s.WatchedRegistered)
    (a : Answers) (force : Bool) (now : ℤ) (order : List String) :
    (s.manage a force now 0 order).WatchedRegistered := by
  intro n x h
  obtain ⟨hw, hr⟩ := manage_spec a force now n x order 0 s
  exact hr.mpr (hI n x (hw.mp h))

/-- A name the node already watches needs no fetch, so only the rest counts. -/
theorem watchedRegistered_setResources_iff {s : SecretManager} (hI : s.WatchedRegistered)
    (a : Answers) (names : List String) (node : String) (order : List String) :
    (s.setResourcesForNode a names node order).1.WatchedRegistered ↔
      ∀ x ∈ names, x ∉ s.registry → ∃ fetched, a.fetchSecret x = .ok fetched := by
  cases hw : s.watchers.lookup node with
  | none =>
    rw [setResourcesForNode_of_none hw]
    exact watchedRegistered_watch_iff hI a names node
  | some watcher =>
    have hiff := watchedRegistered_watch_iff hI a (names.filter (· ∉ watcher)) node
    -- a watched name is registered, so it is not among those to fetch
    have hsame : (∀ x ∈ names.filter (· ∉ watcher), x ∉ s.registry →
          ∃ fetched, a.fetchSecret x = .ok fetched) ↔
        ∀ x ∈ names, x ∉ s.registry → ∃ fetched, a.fetchSecret x = .ok fetched := by
      constructor
      · intro h x hx hreg
        refine h x (List.mem_filter.mpr ⟨hx, decide_eq_true fun hmem => hreg ?_⟩) hreg
        exact (hI node x ⟨watcher, hw, hmem⟩).mem_registry
      · exact fun h x hx => h x (List.mem_filter.mp hx).1
    rw [← hsame, ← hiff]
    rcases h : s.watch a (names.filter (· ∉ watcher)) node with ⟨s', _ | err⟩
    · rw [setResourcesForNode_of_ok hw h]
      refine ⟨fun _ => ?_, fun hs' => watchedRegistered_unwatch hs' a _ node⟩
      -- `watch` returned no error, so it met no failing fetch
      rcases watch_cases a (names.filter (· ∉ watcher)) node s with ⟨-, -, hf⟩ | ⟨herr, -⟩
      · rw [h] at hiff
        exact hiff.mpr hf
      · rw [h] at herr
        cases herr
    · rw [setResourcesForNode_of_error hw h]

/-- A call keeps the law exactly when it fetches all it has to. -/
theorem watchedRegistered_step_iff {s s' : SecretManager} {c : Call}
    (hI : s.WatchedRegistered) (h : s.Step c s') : s'.WatchedRegistered ↔ s.Fetched c := by
  obtain ⟨-, rfl⟩ := h
  obtain ⟨op, a⟩ := c
  cases op with
  | watch names node => exact watchedRegistered_watch_iff hI a names node
  | unwatch names node => exact iff_of_true (watchedRegistered_unwatch hI a names node) trivial
  | unwatchAll node order =>
    exact iff_of_true (watchedRegistered_unwatchAll hI a node order) trivial
  | setResourcesForNode names node order =>
    exact watchedRegistered_setResources_iff hI a names node order
  | manage force now order =>
    exact iff_of_true (watchedRegistered_manage hI a force now order) trivial

/-! ### Whole runs -/

theorem watchedRegistered_new : SecretManager.new.WatchedRegistered := by
  rintro node name ⟨watcher, hw, -⟩
  simp [SecretManager.new] at hw

/-- **Watched certificates stay registered exactly as long as every certificate
that has to be fetched is fetched.**  Failing fetches of `manage` and failing
cache operations never break the law. -/
theorem watchedRegistered_run_iff {r : List (Call × SecretManager)}
    (hr : Run Step SecretManager.new r) :
    Always (fun _ _ s' => s'.WatchedRegistered) SecretManager.new r ↔
      Always (fun s c _ => s.Fetched c) SecretManager.new r :=
  hr.always_iff watchedRegistered_new watchedRegistered_step_iff
    fun hI h hf => (watchedRegistered_step_iff hI h).mpr hf

/-- A client that knows no secret. -/
def noSecrets : Answers := ⟨fun _ => .error "fetch error", fun _ => none, fun _ => none⟩

/-- The request of one node for one certificate. -/
def requestOne : Call := ⟨.setResourcesForNode ["one"] "node" [], noSecrets⟩

/-- The state that request leaves: `one` is watched, and neither registered nor
cached. -/
def afterRequestOne : SecretManager := ⟨(∅ : GoMap _ _).insert "node" {"one"}, ∅, ∅⟩

theorem requestOne_step : SecretManager.new.Step requestOne afterRequestOne := by
  refine ⟨?_, rfl⟩
  intro watcher hw
  simp [SecretManager.new] at hw

/-- **A single failed fetch breaks the law**: the node keeps watching a
certificate that is not registered, and when it asks again, with a client that
now has the certificate, nothing is fetched. -/
theorem failedFetch_leaves_watch :
    Run Step SecretManager.new [(requestOne, afterRequestOne)] ∧
    ¬ Always (fun _ _ s' => s'.WatchedRegistered) SecretManager.new
        [(requestOne, afterRequestOne)] ∧
    ∀ a : Answers, (afterRequestOne.setResourcesForNode a ["one"] "node" ["one"]).1.registry
      = ∅ := by
  refine ⟨Run.cons requestOne_step (Run.nil _), ?_, fun a => rfl⟩
  rintro ⟨h, -⟩
  have hw : afterRequestOne.Watches "node" "one" := ⟨{"one"}, rfl, by decide⟩
  obtain ⟨entry, he, -⟩ := h "node" "one" hw
  simp [afterRequestOne] at he

/-- A client that has every secret. -/
def allSecrets : Answers :=
  ⟨fun name => .ok (⟨name, "pem"⟩, 3600), fun _ => none, fun _ => none⟩

/-- The same request, with that client. -/
def requestServed : Call := ⟨requestOne.op, allSecrets⟩

/-- The state it leaves. -/
def servedOne : SecretManager where
  watchers := (∅ : GoMap _ _).insert "node" {"one"}
  registry := (∅ : GoMap _ _).insert "one" ⟨⟨"one", "pem"⟩, 3600, {"node"}⟩
  cache := (∅ : GoMap _ _).insert "one" ⟨"one", "pem"⟩

theorem requestServed_step :
    SecretManager.new.Step requestServed servedOne := by
  refine ⟨?_, rfl⟩
  intro watcher hw
  simp [SecretManager.new] at hw

/-- The law along the run of one request that is served. -/
theorem watchedRegistered_run_served :
    Run Step SecretManager.new [(requestServed, servedOne)] ∧
    Always (fun _ _ s' => s'.WatchedRegistered) SecretManager.new
      [(requestServed, servedOne)] := by
  have hr : Run Step SecretManager.new [(requestServed, servedOne)] :=
    Run.cons requestServed_step (Run.nil _)
  refine ⟨hr, (watchedRegistered_run_iff hr).mpr ⟨?_, trivial⟩⟩
  intro name _ _
  exact Exists.intro (⟨name, "pem"⟩, 3600) rfl

end SecretManager

/-! ### Calls that meet no failure -/

/-- Nothing that the secret client and the cache are asked for fails. -/
structure Answers.Succeed (a : Answers) : Prop where
  fetchSecret : ∀ name, ∃ fetched, a.fetchSecret name = .ok fetched
  updateResource : ∀ i, a.updateResource i = none
  deleteResource : ∀ i, a.deleteResource i = none

namespace SecretManager

variable {a : Answers} {s : SecretManager}

theorem updateCertificates_succeed (ha : ∀ i, a.updateResource i = none)
    (certs : List TlsSecret) :
    ∀ (i : ℕ) (s : SecretManager), (updateCertificates a i certs s).2 = none := by
  induction certs with
  | nil => exact fun i s => rfl
  | cons cert certs ih =>
    intro i s
    rw [updateCertificates, ha]
    exact ih _ _

theorem removeCertificates_succeed (ha : ∀ i, a.deleteResource i = none) (names : List String) :
    ∀ (i : ℕ) (s : SecretManager), (removeCertificates a i names s).2 = none := by
  induction names with
  | nil => exact fun i s => rfl
  | cons name names ih =>
    intro i s
    rw [removeCertificates, ha]
    exact ih _ _

theorem watch_succeed (ha : a.Succeed) (names : List String) (node : String) :
    (s.watch a names node).2 = none := by
  rcases h : watchNames a node names [] (s.initWatcher node) with ⟨s', err | certs⟩
  · obtain ⟨bad, -, -, hfetch, -⟩ := watchNames_error h
    obtain ⟨fetched, hok⟩ := ha.fetchSecret bad
    rw [hfetch] at hok
    cases hok
  · rw [watch_of_ok h]
    exact updateCertificates_succeed ha.updateResource certs 0 s'

theorem unwatch_succeed (ha : ∀ i, a.deleteResource i = none) (names : List String)
    (node : String) : (s.unwatch a names node).2 = none := by
  unfold unwatch
  split
  · exact removeCertificates_succeed ha _ _ _
  · rfl

theorem unwatchAll_succeed (ha : ∀ i, a.deleteResource i = none) (node : String)
    (order : List String) : (s.unwatchAll a node order).2 = none := by
  unfold unwatchAll
  split
  · exact removeCertificates_succeed ha _ _ _
  · rfl

theorem setResourcesForNode_succeed (ha : a.Succeed) (names : List String) (node : String)
    (order : List String) : (s.setResourcesForNode a names node order).2 = none := by
  refine setResourcesForNode_elim (P := fun out => out.2 = none) (fun names => ?_)
    (fun s' names _ => ?_) names order
  · exact watch_succeed ha names node
  · exact unwatch_succeed ha.deleteResource names node

/-- A node watches the certificates it is a reference of, and no others. -/
def Exact (s : SecretManager) : Prop := ∀ node name, s.Watches node name ↔ s.References node name

theorem watch_exact {names : List String} {node : String}
    (hok : (s.watch a names node).2 = none) (n x : String) :
    ((s.watch a names node).1.Watches n x ↔ s.Watches n x ∨ n = node ∧ x ∈ names) ∧
      ((s.watch a names node).1.References n x ↔ s.References n x ∨ n = node ∧ x ∈ names) := by
  rcases watch_cases a names node s with ⟨hw, hr, -⟩ | ⟨herr, -⟩
  · exact ⟨hw n x, hr n x⟩
  · rw [hok] at herr
    cases herr

/-- After `SetResourcesForNode` the node has the names it asked for and no
others, and the other nodes have what they had. -/
theorem setResourcesForNode_exact (hs : s.Exact) {names : List String} {node : String}
    {order : List String} (hok : (s.setResourcesForNode a names node order).2 = none)
    (ho : s.Orders (.setResourcesForNode names node order)) (n x : String) :
    ((s.setResourcesForNode a names node order).1.Watches n x ↔
      if n = node then x ∈ names else s.Watches n x) ∧
    ((s.setResourcesForNode a names node order).1.References n x ↔
      if n = node then x ∈ names else s.References n x) := by
  cases hw : s.watchers.lookup node with
  | none =>
    have hno : ¬ s.Watches node x := by
      rintro ⟨watcher, hlook, -⟩
      rw [hw] at hlook
      cases hlook
    have hno' : ¬ s.References node x := fun h => hno ((hs node x).mpr h)
    rw [setResourcesForNode_of_none hw] at hok
    obtain ⟨h₁, h₂⟩ := watch_exact hok n x
    rw [setResourcesForNode_of_none hw, h₁, h₂]
    by_cases hn : n = node
    · subst hn
      simp [hno, hno']
    · simp [hn]
  | some watcher =>
    have hmem : s.Watches node x ↔ x ∈ watcher := by simp [Watches, hw]
    have hmem' : s.References node x ↔ x ∈ watcher := (hs node x).symm.trans hmem
    rcases h : s.watch a (names.filter (· ∉ watcher)) node with ⟨s', _ | err⟩
    · have hexact := watch_exact (congrArg Prod.snd h)
      obtain ⟨h₁, h₂⟩ := hexact n x
      rw [h] at h₁ h₂
      -- the node is known, also after `watch`
      have hnode : node ∈ s'.watchers ∨ ∀ y, y ∉ watcher := by
        by_cases hy : ∃ y, y ∈ watcher
        · obtain ⟨y, hy⟩ := hy
          have hwy := (hexact node y).1
          rw [h] at hwy
          exact .inl (hwy.mpr (.inl ⟨watcher, hw, hy⟩)).mem_watchers
        · exact .inr fun y hy' => hy ⟨y, hy'⟩
      have horder : x ∈ order ↔ x ∈ watcher := (ho watcher hw).mem_iff
      rw [setResourcesForNode_of_ok hw h, watches_unwatch, references_unwatch, h₁, h₂]
      by_cases hn : n = node
      · subst hn
        rw [hmem, hmem']
        rcases hnode with hnode | hempty
        · simp only [List.mem_filter, decide_eq_true_eq, horder, hnode, true_and, if_true]
          by_cases hx : x ∈ watcher <;> simp [hx]
        · have hx := hempty x
          simp [hx, horder]
      · simp [hn]
    · rw [setResourcesForNode_of_error hw h] at hok
      cases hok

/-- After `UnwatchAll` the node has nothing, and the other nodes what they had. -/
theorem unwatchAll_exact (hs : s.Exact) {node : String} {order : List String}
    (ho : s.Orders (.unwatchAll node order)) (n x : String) :
    ((s.unwatchAll a node order).1.Watches n x ↔ s.Watches n x ∧ n ≠ node) ∧
    ((s.unwatchAll a node order).1.References n x ↔ s.References n x ∧ n ≠ node) := by
  refine ⟨watches_unwatchAll a node order s n x, ?_⟩
  rw [references_unwatchAll]
  refine and_congr_right fun href => not_congr ⟨fun h => h.2.1, ?_⟩
  rintro rfl
  obtain ⟨watcher, hlook, hx⟩ := (hs n x).mpr href
  exact ⟨Finmap.mem_of_lookup_eq_some hlook, rfl, (ho watcher hlook).mem_iff.mpr hx⟩

end SecretManager

end Envoy
