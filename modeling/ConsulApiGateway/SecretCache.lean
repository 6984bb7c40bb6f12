/-
The cache behind the secret manager, and what a request fetches.

The loop of `watch` asks the secret client for a name when it is not registered
at its turn, and then it is registered, so a name that is listed twice is asked
for once.
The certificates are pushed into the cache after the loop and under their own
names, and the names whose entries a call drops from the registry are deleted
from the cache after its loop.

* `watchNamesLogged_ok`, `watchNamesLogged_error` — what the loop fetches and
  registers, when it ends and when a fetch stops it;
* `mem_unwatchAllNames_snd` — the names to delete are those that left the registry;
* `coherent_step` — calls that meet no failure keep watch sets, references,
  registry and cache in step;
* `setResourcesForNode_coherent` — what a request then does.
-/
import ConsulApiGateway.WatchReferences
import Mathlib.Data.List.Forall2

namespace Envoy

/-- The client answers a request for the name with the certificate. -/
def Answers.Yields (a : Answers) (name : String) (cert : TlsSecret) : Prop :=
  ∃ expires, a.fetchSecret name = .ok (cert, expires)

/-- A certificate fetched for the name carries that name. -/
def Answers.NamesAs (a : Answers) (name : String) : Prop :=
  ∀ cert, a.Yields name cert → cert.name = name

/-- Fetched certificates carry the name they were requested by. -/
def Answers.Named (a : Answers) : Prop := ∀ name, a.NamesAs name

theorem map_name_of_yields {a : Answers} {names : List String} {certs : List TlsSecret}
    (h : List.Forall₂ a.Yields names certs) (ha : ∀ name ∈ names, a.NamesAs name) :
    certs.map TlsSecret.name = names := by
  induction h with
  | nil => rfl
  | cons hy _ ih =>
    obtain ⟨hname, hnames⟩ := List.forall_mem_cons.mp ha
    rw [List.map_cons, ih hnames, hname _ hy]

namespace SecretManager

variable {a : Answers} {s s' : SecretManager} {node : String}

/-! ### The fetches of a request -/

theorem mem_registry_addRef {name : String} {entry : WatchedCertificate}
    (he : s.registry.lookup name = some entry) (refs : Finset String) (x : String) :
    x ∈ (s.setEntry name { entry with refs := refs }).registry ↔ x ∈ s.registry := by
  rw [mem_registry_setEntry]
  exact or_iff_right_of_imp fun h => h ▸ Finmap.mem_of_lookup_eq_some he

/-- Every name that is not registered is fetched once and registered. -/
theorem watchNamesLogged_ok {names log : List String} :
    ∀ {certs certs' : List TlsSecret} {s s' : SecretManager},
      watchNamesLogged a node names certs s = ((s', .ok certs'), log) →
      log.Nodup ∧ (∀ x, x ∈ log ↔ x ∈ names ∧ x ∉ s.registry) ∧
      (∀ x, x ∈ s'.registry ↔ x ∈ s.registry ∨ x ∈ names) ∧ s'.cache = s.cache ∧
      ∃ new, certs' = certs ++ new ∧ List.Forall₂ a.Yields log new := by
  induction names generalizing log with
  | nil =>
    intro certs certs' s s' h
    cases h
    simp
  | cons name names ih =>
    intro certs certs' s s' h
    rw [watchNamesLogged] at h
    split at h
    · rename_i entry he
      -- a registered name is not asked for again
      have hreg := mem_registry_addRef (s := s.addWatch node name) he (insert node entry.refs)
      have hmem : name ∈ s.registry := Finmap.mem_of_lookup_eq_some he
      simp only [registry_addWatch] at hreg
      obtain ⟨hnd, hlog, hr, hc, hnew⟩ := ih h
      refine ⟨hnd, fun x => ?_, fun x => ?_, hc, hnew⟩
      · rw [hlog, hreg, List.mem_cons]
        by_cases hx : x = name
        · simp [hx, hmem]
        · simp [hx]
      · rw [hr, hreg, List.mem_cons]
        by_cases hx : x = name
        · simp [hx, hmem]
        · simp [hx]
    · rename_i he
      have hmem : name ∉ s.registry := Finmap.lookup_eq_none.mp he
      split at h
      · cases h
      · rename_i cert expires hfetch
        rcases hr' : watchNamesLogged a node names (certs ++ [cert])
          ((s.addWatch node name).setEntry name ⟨cert, expires, {node}⟩) with ⟨⟨s₁, r⟩, log₁⟩
        rw [hr'] at h
        cases h
        obtain ⟨hnd, hlog, hr, hc, new, rfl, hall⟩ := ih hr'
        simp only [mem_registry_setEntry, registry_addWatch, not_or] at hlog hr
        refine ⟨List.nodup_cons.mpr ⟨fun hx => ((hlog name).mp hx).2.1 rfl, hnd⟩, fun x => ?_,
          fun x => ?_, hc, cert :: new, by simp, .cons ⟨expires, hfetch⟩ hall⟩
        · rw [List.mem_cons, hlog, List.mem_cons]
          by_cases hx : x = name
          · simp [hx, hmem]
          · simp [hx]
        · rw [hr, List.mem_cons]
          tauto

/-- A failing fetch is the last one; the names fetched before it are registered. -/
theorem watchNamesLogged_error {names log : List String} {err : String} :
    ∀ {certs : List TlsSecret} {s s' : SecretManager},
      watchNamesLogged a node names certs s = ((s', .error err), log) →
      ∃ done bad, log = done ++ [bad] ∧ a.fetchSecret bad = .error err ∧
        (∀ x ∈ done, ∃ cert, a.Yields x cert) ∧ (∀ x ∈ log, x ∈ names ∧ x ∉ s.registry) ∧
        (∀ x, x ∈ s'.registry ↔ x ∈ s.registry ∨ x ∈ done) ∧ s'.cache = s.cache := by
  induction names generalizing log with
  | nil =>
    intro certs s s' h
    cases h
  | cons name names ih =>
    intro certs s s' h
    rw [watchNamesLogged] at h
    split at h
    · rename_i entry he
      have hreg := mem_registry_addRef (s := s.addWatch node name) he (insert node entry.refs)
      simp only [registry_addWatch] at hreg
      obtain ⟨done, bad, hl, hbad, hdone, hlog, hr, hc⟩ := ih h
      simp only [hreg] at hlog hr
      exact ⟨done, bad, hl, hbad, hdone,
        fun x hx => ⟨List.mem_cons_of_mem _ (hlog x hx).1, (hlog x hx).2⟩, hr, hc⟩
    · rename_i he
      have hmem : name ∉ s.registry := Finmap.lookup_eq_none.mp he
      split at h
      · rename_i hfetch
        cases h
        -- the loop ends with the first name that is refused
        exact ⟨[], name, rfl, hfetch, by simp, by simpa using hmem, by simp, rfl⟩
      · rename_i cert expires hfetch
        rcases hr' : watchNamesLogged a node names (certs ++ [cert])
          ((s.addWatch node name).setEntry name ⟨cert, expires, {node}⟩) with ⟨⟨s₁, r⟩, log₁⟩
        rw [hr'] at h
        cases h
        obtain ⟨done, bad, rfl, hbad, hdone, hlog, hr, hc⟩ := ih hr'
        simp only [mem_registry_setEntry, registry_addWatch, not_or] at hlog hr
        refine ⟨name :: done, bad, rfl, hbad, ?_, ?_, fun x => ?_, hc⟩
        · exact List.forall_mem_cons.mpr ⟨⟨cert, expires, hfetch⟩, hdone⟩
        · refine List.forall_mem_cons.mpr ⟨⟨List.mem_cons_self, hmem⟩, fun x hx => ?_⟩
          exact ⟨List.mem_cons_of_mem _ (hlog x hx).1, (hlog x hx).2.2⟩
        · rw [hr, List.mem_cons]
          tauto

/-! ### The cache -/

/-- The cache holds the registered certificates by name, and nothing else. -/
def Cached (s : SecretManager) : Prop := ∀ name, name ∈ s.cache ↔ name ∈ s.registry

theorem mem_cache_updateCertificates (certs : List TlsSecret) (x : String) :
    ∀ (i : ℕ) (s : SecretManager), (updateCertificates a i certs s).2 = none →
      (x ∈ (updateCertificates a i certs s).1.cache ↔
        x ∈ s.cache ∨ ∃ cert ∈ certs, cert.name = x) := by
  induction certs with
  | nil => simp [updateCertificates]
  | cons cert certs ih =>
    intro i s h
    rw [updateCertificates] at h ⊢
    cases hu : a.updateResource i with
    | some err => simp [hu] at h
    | none =>
      simp only [hu] at h ⊢
      rw [ih _ _ h, Finmap.mem_insert, List.exists_mem_cons_iff, eq_comm, or_comm (a := _ = _),
        or_assoc]

theorem mem_cache_removeCertificates (names : List String) (x : String) :
    ∀ (i : ℕ) (s : SecretManager), (removeCertificates a i names s).2 = none →
      (x ∈ (removeCertificates a i names s).1.cache ↔ x ∈ s.cache ∧ x ∉ names) := by
  induction names with
  | nil => simp [removeCertificates]
  | cons name names ih =>
    intro i s h
    rw [removeCertificates] at h ⊢
    cases hd : a.deleteResource i with
    | some err => simp [hd] at h
    | none =>
      simp only [hd] at h ⊢
      rw [ih _ _ h, Finmap.mem_erase, List.mem_cons]
      tauto

/-- A dropped reference purges the name exactly when its entry goes. -/
theorem mem_dropRef_snd (s : SecretManager) (node name x : String) (certs : List String) :
    (x ∈ (s.dropRef node name certs).1.registry → x ∈ s.registry) ∧
    (s.dropRef node name certs).1.cache = s.cache ∧
    (x ∈ (s.dropRef node name certs).2 ↔
      x ∈ certs ∨ x ∈ s.registry ∧ x ∉ (s.dropRef node name certs).1.registry) := by
  unfold dropRef
  cases he : s.registry.lookup name with
  | none => simp
  | some entry =>
    have hmem : name ∈ s.registry := Finmap.mem_of_lookup_eq_some he
    dsimp only
    split_ifs with hempty
    · refine ⟨fun hx => (Finmap.mem_erase.mp hx).2, rfl, ?_⟩
      rw [List.mem_append, List.mem_singleton, Finmap.mem_erase]
      by_cases hx : x = name
      · simp [hx, hmem]
      · simp [hx]
    · have hreg := mem_registry_addRef he (entry.refs.erase node) x
      exact ⟨hreg.mp, rfl, by rw [hreg]; simp⟩

theorem mem_unwatchAllNames_snd (node x : String) (names : List String) :
    ∀ (certs : List String) (s : SecretManager),
      (x ∈ (unwatchAllNames node names certs s).1.registry → x ∈ s.registry) ∧
      (unwatchAllNames node names certs s).1.cache = s.cache ∧
      (x ∈ (unwatchAllNames node names certs s).2 ↔
        x ∈ certs ∨ x ∈ s.registry ∧ x ∉ (unwatchAllNames node names certs s).1.registry) := by
  induction names with
  | nil => simp [unwatchAllNames]
  | cons name names ih =>
    intro certs s
    obtain ⟨hsub, hc, hmem⟩ := mem_dropRef_snd s node name x certs
    obtain ⟨hsub', hc', hmem'⟩ := ih (s.dropRef node name certs).2 (s.dropRef node name certs).1
    rw [unwatchAllNames]
    refine ⟨fun hx => hsub (hsub' hx), hc'.trans hc, ?_⟩
    rw [hmem', hmem]
    by_cases hx : x ∈ (s.dropRef node name certs).1.registry
    · simp [hx, hsub hx]
    · simp [hx, mt hsub' hx]

section Drops

variable {names : List String} {out : SecretManager × Option String}

/-- Dropping references registers nothing. -/
theorem Drops.mem_registry (h : Drops a node names s out) {x : String}
    (hx : x ∈ out.1.registry) : x ∈ s.registry := by
  rcases h with rfl | ⟨watchers, rfl⟩
  · exact hx
  · rw [(removeCertificates_maps a _ 0 _).2] at hx
    exact (mem_unwatchAllNames_snd node x names [] s).1 hx

/-- What is in the cache afterwards was there, and was not purged. -/
theorem Drops.mem_cache_iff (h : Drops a node names s out) (hok : out.2 = none) (x : String) :
    x ∈ out.1.cache ↔ x ∈ s.cache ∧ (x ∈ s.registry → x ∈ out.1.registry) := by
  rcases h with rfl | ⟨watchers, rfl⟩
  · exact (and_iff_left id).symm
  · obtain ⟨-, hc, hmem⟩ := mem_unwatchAllNames_snd node x names [] s
    rw [mem_cache_removeCertificates _ x 0 _ hok, (removeCertificates_maps a _ 0 _).2, hc, hmem]
    simp only [List.not_mem_nil, false_or, not_and, not_not]

/-- Deleting the purged names keeps the cache in step with the registry. -/
theorem Drops.cached (h : Drops a node names s out) (hs : s.Cached) (hok : out.2 = none) :
    out.1.Cached := by
  intro x
  rw [h.mem_cache_iff hok, hs]
  exact ⟨fun hx => hx.2 hx.1, fun hx => ⟨h.mem_registry hx, fun _ => hx⟩⟩

end Drops

/-- The certificates that `watch` pushes are those of the names it registered. -/
theorem Cached.watch (hs : s.Cached) {names : List String}
    (ha : ∀ x ∈ names, x ∉ s.registry → a.NamesAs x)
    (hok : (s.watch a names node).2 = none) : (s.watch a names node).1.Cached := by
  rcases hl : watchNamesLogged a node names [] (s.initWatcher node) with ⟨⟨s', err | certs⟩, log⟩
  · rw [watch_of_error (congrArg Prod.fst hl)] at hok
    cases hok
  · rw [watch_of_ok (congrArg Prod.fst hl)] at hok ⊢
    obtain ⟨-, hlog, hr, hc, new, hnew, hall⟩ := watchNamesLogged_ok hl
    rw [List.nil_append] at hnew
    subst hnew
    simp only [registry_initWatcher, cache_initWatcher] at hlog hr hc
    intro x
    have hx : (∃ cert ∈ certs, cert.name = x) ↔ x ∈ log := by
      rw [← List.mem_map, map_name_of_yields hall]
      exact fun y hy => ha y ((hlog y).mp hy).1 ((hlog y).mp hy).2
    rw [mem_cache_updateCertificates certs x 0 s' hok, (updateCertificates_maps a certs 0 s').2,
      hc, hx, hlog, hr, hs]
    tauto

theorem Cached.refresh (hs : s.Cached) {name : String} (ha : name ∈ s.registry → a.NamesAs name)
    (force : Bool) (now : ℤ) (i : ℕ) : (s.refresh a force now i name).Cached := by
  intro x
  rw [mem_registry_refresh, ← hs]
  unfold SecretManager.refresh
  cases he : s.registry.lookup name with
  | none => rfl
  | some entry =>
    have hmem : name ∈ s.registry := Finmap.mem_of_lookup_eq_some he
    dsimp only
    split_ifs
    · rcases hf : a.fetchSecret name with err | ⟨cert, expires⟩
      · rfl
      · cases a.updateResource i with
        | some err => rfl
        | none =>
          -- the entry is refreshed under the name it is registered by
          have hname : cert.name = name := ha hmem cert ⟨expires, hf⟩
          change x ∈ s.cache.insert cert.name cert ↔ x ∈ s.cache
          rw [Finmap.mem_insert, hname]
          exact or_iff_right_of_imp fun h => h ▸ (hs name).mpr hmem
    · rfl

theorem Cached.manage (force : Bool) (now : ℤ) (order : List String) :
    ∀ (i : ℕ) (s : SecretManager), s.Cached → (∀ x ∈ s.registry, a.NamesAs x) →
      (s.manage a force now i order).Cached := by
  induction order with
  | nil => exact fun i s hs _ => hs
  | cons name order ih =>
    intro i s hs ha
    refine ih _ _ (hs.refresh (ha name) force now i) fun x hx => ha x ?_
    exact (mem_registry_refresh a force now i name x s).mp hx

theorem Cached.setResourcesForNode (hs : s.Cached) (ha : a.Named) {names order : List String}
    (hok : (s.setResourcesForNode a names node order).2 = none) :
    (s.setResourcesForNode a names node order).1.Cached := by
  refine setResourcesForNode_elim (P := fun out => out.2 = none → out.1.Cached) (fun names => ?_)
    (fun s' names hs' => ?_) names order hok
  · exact hs.watch fun x _ _ => ha x
  · exact (drops_unwatch a names node s').cached (hs' rfl)

/-! ### The watch sets of other nodes -/

theorem lookup_watchers_watchNames {n : String} (hn : n ≠ node) (names : List String) :
    ∀ (certs : List TlsSecret) (s : SecretManager),
      (watchNames a node names certs s).1.watchers.lookup n = s.watchers.lookup n := by
  induction names with
  | nil => exact fun certs s => rfl
  | cons name names ih =>
    intro certs s
    have hadd : (s.addWatch node name).watchers.lookup n = s.watchers.lookup n :=
      Finmap.lookup_insert_of_ne _ hn
    rw [watchNames, watchNamesLogged]
    split
    · exact (ih _ _).trans hadd
    · split
      · exact hadd
      · exact (ih _ _).trans hadd

theorem lookup_watchers_watch {n : String} (hn : n ≠ node) (names : List String) :
    (s.watch a names node).1.watchers.lookup n = s.watchers.lookup n := by
  have hinit : (s.initWatcher node).watchers.lookup n = s.watchers.lookup n := by
    unfold initWatcher
    split_ifs
    · rfl
    · exact Finmap.lookup_insert_of_ne _ hn
  have hloop := (lookup_watchers_watchNames (a := a) hn names [] (s.initWatcher node)).trans hinit
  rcases h : watchNames a node names [] (s.initWatcher node) with ⟨s', err | certs⟩
  · rw [watch_of_error h]
    rwa [h] at hloop
  · rw [watch_of_ok h]
    rw [h] at hloop
    rwa [(updateCertificates_maps a certs 0 s').1]

theorem lookup_watchers_unwatchNames {n : String} (hn : n ≠ node) (names : List String) :
    ∀ (certs : List String) (s : SecretManager),
      (unwatchNames node names certs s).1.watchers.lookup n = s.watchers.lookup n := by
  induction names with
  | nil => exact fun certs s => rfl
  | cons name names ih =>
    intro certs s
    have hremove : (s.removeWatch node name).watchers.lookup n = s.watchers.lookup n :=
      Finmap.lookup_insert_of_ne _ hn
    have hdrop := watchers_dropRef (s.removeWatch node name) node name certs
    rw [unwatchNames]
    exact (ih _ _).trans (hremove ▸ congrArg (Finmap.lookup n) hdrop)

theorem lookup_watchers_unwatch {n : String} (hn : n ≠ node) (names : List String) :
    (s.unwatch a names node).1.watchers.lookup n = s.watchers.lookup n := by
  unfold unwatch
  split_ifs
  · rw [(removeCertificates_maps a _ 0 _).1]
    unfold purgeWatcher
    split_ifs
    · exact (Finmap.lookup_erase_ne hn).trans (lookup_watchers_unwatchNames hn names [] s)
    · exact lookup_watchers_unwatchNames hn names [] s
  · rfl

theorem lookup_watchers_setResourcesForNode {n : String} (hn : n ≠ node)
    (names order : List String) :
    (s.setResourcesForNode a names node order).1.watchers.lookup n = s.watchers.lookup n := by
  refine setResourcesForNode_elim
    (P := fun out => out.1.watchers.lookup n = s.watchers.lookup n) (fun names => ?_)
    (fun s' names hs' => ?_) names order
  · exact lookup_watchers_watch hn names
  · exact (lookup_watchers_unwatch hn names).trans hs'

/-! ### Calls that meet no failure -/

/-- A call without a failure.  The errors of `manage` are logged only, so it is
never one that fails. -/
def CleanStep (s : SecretManager) (c : Call) (s' : SecretManager) : Prop :=
  s.Step c s' ∧ (s.exec c).2 = none ∧ c.answers.Named

/-- Watch sets, references, registry and cache are in step. -/
structure Coherent (s : SecretManager) : Prop where
  watched : s.WatchedRegistered
  backed : s.Backed
  cached : s.Cached

theorem Coherent.exact (hs : s.Coherent) : s.Exact := fun node name =>
  ⟨hs.watched node name, hs.backed.refsWatched node name⟩

/-- The registry holds what some node watches. -/
theorem Coherent.mem_registry_iff (hs : s.Coherent) (name : String) :
    name ∈ s.registry ↔ ∃ node, s.Watches node name := by
  constructor
  · intro h
    obtain ⟨node, hn⟩ := hs.backed.referenced name h
    exact ⟨node, hs.backed.refsWatched node name hn⟩
  · rintro ⟨node, hn⟩
    exact (hs.watched node name hn).mem_registry

theorem coherent_new : SecretManager.new.Coherent :=
  ⟨watchedRegistered_new, backed_new, fun _ => Iff.rfl⟩

/-- A call that returns no error has registered all that it marked as watched. -/
theorem watchedRegistered_of_ok {c : Call} (hs : s.Coherent) (ho : s.Orders c.op)
    (hok : (s.exec c).2 = none) : (s.exec c).1.WatchedRegistered := by
  obtain ⟨op, a⟩ := c
  cases op with
  | watch names node =>
    intro n x h
    obtain ⟨hw, hr⟩ := watch_exact hok n x
    exact hr.mpr ((hw.mp h).imp_left (hs.watched n x))
  | unwatch names node => exact watchedRegistered_unwatch hs.watched a names node
  | unwatchAll node order => exact watchedRegistered_unwatchAll hs.watched a node order
  | setResourcesForNode names node order =>
    intro n x h
    obtain ⟨hw, hr⟩ := setResourcesForNode_exact hs.exact hok ho n x
    have h' := hw.mp h
    refine hr.mpr ?_
    split_ifs at h' ⊢
    · exact h'
    · exact hs.watched n x h'
  | manage force now order => exact watchedRegistered_manage hs.watched a force now order

theorem cached_of_ok {c : Call} (hs : s.Cached) (ha : c.answers.Named)
    (hok : (s.exec c).2 = none) : (s.exec c).1.Cached := by
  obtain ⟨op, a⟩ := c
  cases op with
  | watch names node => exact hs.watch (fun x _ _ => ha x) hok
  | unwatch names node => exact (drops_unwatch a names node s).cached hs hok
  | unwatchAll node order => exact (drops_unwatchAll a node order s).cached hs hok
  | setResourcesForNode names node order => exact hs.setResourcesForNode ha hok
  | manage force now order => exact Cached.manage force now order 0 s hs fun x _ => ha x

theorem coherent_step {c : Call} (hs : s.Coherent) (h : s.CleanStep c s') : s'.Coherent := by
  obtain ⟨⟨ho, rfl⟩, hok, ha⟩ := h
  exact ⟨watchedRegistered_of_ok hs ho hok, backed_step hs.backed ⟨ho, rfl⟩,
    cached_of_ok hs.cached ha hok⟩

/-! ### What a request does then -/

theorem watchLogged_fetched {names : List String} (hok : (s.watch a names node).2 = none) :
    (s.watchLogged a names node).2.Nodup ∧
      ∀ x, x ∈ (s.watchLogged a names node).2 ↔ x ∈ names ∧ x ∉ s.registry := by
  unfold watch at hok
  unfold watchLogged at hok ⊢
  rcases hl : watchNamesLogged a node names [] (s.initWatcher node) with ⟨⟨s', err | certs⟩, log⟩
  · rw [hl] at hok
    cases hok
  · obtain ⟨hnd, hlog, -⟩ := watchNamesLogged_ok hl
    rw [registry_initWatcher] at hlog
    exact ⟨hnd, hlog⟩

/-- A request fetches what it names and no node watches, once each. -/
theorem setResourcesForNodeLogged_fetched (hs : s.Coherent) {names order : List String}
    (hok : (s.setResourcesForNode a names node order).2 = none) :
    (s.setResourcesForNodeLogged a names node order).2.Nodup ∧
      ∀ x, x ∈ (s.setResourcesForNodeLogged a names node order).2 ↔
        x ∈ names ∧ ∀ n, ¬ s.Watches n x := by
  have hreg : ∀ x, x ∉ s.registry ↔ ∀ n, ¬ s.Watches n x := fun x => by
    rw [hs.mem_registry_iff, not_exists]
  unfold setResourcesForNodeLogged
  cases hw : s.watchers.lookup node with
  | none =>
    rw [setResourcesForNode_of_none hw] at hok
    obtain ⟨hnd, hmem⟩ := watchLogged_fetched hok
    exact ⟨hnd, fun x => by rw [hmem, hreg]⟩
  | some watcher =>
    rcases h : s.watch a (names.filter (· ∉ watcher)) node with ⟨s', _ | err⟩
    · obtain ⟨hnd, hmem⟩ := watchLogged_fetched (congrArg Prod.snd h)
      rcases hl : s.watchLogged a (names.filter (· ∉ watcher)) node with ⟨r, fetched⟩
      rw [hl] at hnd hmem
      obtain rfl : r = (s', none) := by rw [← h, watch, hl]
      simp only [hl]
      refine ⟨hnd, fun x => ?_⟩
      rw [hmem, hreg, List.mem_filter, decide_eq_true_eq]
      -- what the node itself watches is not left out by the last condition alone
      refine ⟨fun hx => ⟨hx.1.1, hx.2⟩, fun hx => ⟨⟨hx.1, fun hx' => ?_⟩, hx.2⟩⟩
      exact hx.2 node ⟨watcher, hw, hx'⟩
    · rw [setResourcesForNode_of_error hw h] at hok
      cases hok

/-- **What a request does when nothing fails.**  From a state reached without a
failure, `SetResourcesForNode` gives the node the names it asked for, leaves the
watch sets of the other nodes alone, keeps registry, references and cache in
step with the watch sets, and fetches the names nobody watched, once each. -/
theorem setResourcesForNode_coherent {s : SecretManager}
    (hs : Reachable CleanStep SecretManager.new s) {a : Answers} (ha : a.Named)
    {names order : List String} {node : String}
    (ho : s.Orders (.setResourcesForNode names node order))
    (hok : (s.setResourcesForNode a names node order).2 = none) :
    ∃ s' fetched,
      s.setResourcesForNodeLogged a names node order = ((s', none), fetched) ∧
      s.setResourcesForNode a names node order = (s', none) ∧
      (s'.watchers.lookup node).getD ∅ = names.toFinset ∧
      (∀ n ≠ node, s'.watchers.lookup n = s.watchers.lookup n) ∧
      (∀ x, x ∈ s'.registry ↔ ∃ n watcher, s'.watchers.lookup n = some watcher ∧ x ∈ watcher) ∧
      (∀ x entry, s'.registry.lookup x = some entry → ∀ n, n ∈ entry.refs ↔
        ∃ watcher, s'.watchers.lookup n = some watcher ∧ x ∈ watcher) ∧
      s'.cache.keys = s'.registry.keys ∧
      fetched.Nodup ∧ (∀ x, x ∈ fetched ↔ x ∈ names ∧
        ∀ n watcher, s.watchers.lookup n = some watcher → x ∉ watcher) := by
  have hc : s.Coherent := hs.invariant coherent_new coherent_step
  rcases h : s.setResourcesForNode a names node order with ⟨s', err⟩
  rcases hl : s.setResourcesForNodeLogged a names node order with ⟨r, fetched⟩
  have hfst : r = (s', err) := by rw [← h, setResourcesForNode, hl]
  -- the call meets no failure, so that it is a step of a clean run
  have hc' : s'.Coherent :=
    coherent_step (c := ⟨.setResourcesForNode names node order, a⟩) hc
      ⟨⟨ho, congrArg Prod.fst h⟩, hok, ha⟩
  have hwatch := fun n x => (setResourcesForNode_exact hc.exact hok ho n x).1
  have hother : ∀ n, n ≠ node →
      (s.setResourcesForNode a names node order).1.watchers.lookup n = s.watchers.lookup n :=
    fun n hn => lookup_watchers_setResourcesForNode hn names order
  obtain ⟨hnd, hmem⟩ := setResourcesForNodeLogged_fetched hc hok
  rw [h] at hok hwatch hother
  rw [hl] at hnd hmem
  subst hfst hok
  refine ⟨s', fetched, rfl, rfl, ?_, hother, hc'.mem_registry_iff, fun x entry he n => ?_, ?_, hnd,
    fun x => ?_⟩
  · ext x
    rw [mem_getD_iff_watches, hwatch, if_pos rfl, List.mem_toFinset]
  · rw [← references_iff_of_lookup he, ← hc'.exact n x]
    rfl
  · ext x
    rw [Finmap.mem_keys, Finmap.mem_keys, hc'.cached]
  · rw [hmem]
    simp [Watches]

theorem allSecrets_named : allSecrets.Named := by
  rintro name cert ⟨expires, h⟩
  cases h
  rfl

theorem requestServed_clean : SecretManager.new.CleanStep requestServed servedOne :=
  ⟨requestServed_step, rfl, allSecrets_named⟩

/-- A node that was served `one` asks for `two` twice, and no longer for `one`. -/
theorem setResourcesForNode_coherent_shrink :
    Reachable CleanStep SecretManager.new servedOne ∧
    ∃ s', servedOne.setResourcesForNodeLogged allSecrets ["two", "two"] "node" ["one"] =
        ((s', none), ["two"]) ∧
      (s'.watchers.lookup "node").getD ∅ = {"two"} ∧ s'.cache.keys = s'.registry.keys := by
  have hr : Reachable CleanStep SecretManager.new servedOne :=
    Relation.ReflTransGen.single ⟨requestServed, requestServed_clean⟩
  have ho : servedOne.Orders (.setResourcesForNode ["two", "two"] "node" ["one"]) := by
    intro watcher hw
    obtain rfl := Option.some.inj hw
    exact GoSet.Ranges.of_toFinset (by decide) rfl
  obtain ⟨s', fetched, hlog, -, hset, -, -, -, hcache, -⟩ :=
    setResourcesForNode_coherent hr allSecrets_named ho rfl
  have hfetched : fetched = ["two"] := (congrArg Prod.snd hlog).symm
  exact ⟨hr, s', hfetched ▸ hlog, hset, hcache⟩

end SecretManager

end Envoy
