/-
References of registered certificates: the direction of the secret manager's
maps that no failure breaks.

`watch` marks a name in the node's watch set before it takes the reference, and
every call that takes a mark back drops the reference in the same turn of its
loop.  So at whatever fetch or cache operation a call stops, a reference is
backed by a watch; and an entry leaves the registry together with its last
reference, so no entry is left without one.

* `Backed` — every entry has a reference, and every reference a watch;
* `backed_watchNames`, `Backed.unwatch`, `Backed.unwatchAll`, `Backed.manage` —
  every operation keeps it, wherever it stops;
* `refs_watched_of_reachable` — the law in every reachable state.
-/
import ConsulApiGateway.WatchRegistry

namespace Envoy

namespace SecretManager

/-- Every registered certificate has a reference. -/
def Referenced (s : SecretManager) : Prop := ∀ name ∈ s.registry, ∃ node, s.References node name

/-- Every node that references a certificate watches it. -/
def RefsWatched (s : SecretManager) : Prop :=
  ∀ node name, s.References node name → s.Watches node name

/-- Nothing is registered for nobody, or for a node that does not watch it. -/
structure Backed (s : SecretManager) : Prop where
  referenced : s.Referenced
  refsWatched : s.RefsWatched

variable {s : SecretManager}

theorem backed_new : SecretManager.new.Backed where
  referenced name h := absurd h Finmap.notMem_empty
  refsWatched := by
    rintro node name ⟨entry, he, -⟩
    simp [SecretManager.new] at he

theorem Referenced.of_registry {s' : SecretManager} (hs : s.Referenced)
    (hr : s'.registry = s.registry) : s'.Referenced := by
  unfold Referenced References at hs ⊢
  rwa [hr]

/-- The cache plays no part in it. -/
theorem Backed.of_maps {s' : SecretManager} (hs : s.Backed) (hw : s'.watchers = s.watchers)
    (hr : s'.registry = s.registry) : s'.Backed := by
  refine ⟨hs.referenced.of_registry hr, ?_⟩
  have h := hs.refsWatched
  unfold RefsWatched References Watches at h ⊢
  rwa [hw, hr]

/-! ### Watching -/

/-- The mark comes first. -/
theorem Backed.addWatch (hs : s.Backed) (node name : String) : (s.addWatch node name).Backed where
  referenced := hs.referenced
  refsWatched n x h := (watches_addWatch s node name n x).mpr (.inl (hs.refsWatched n x h))

/-- A reference of the node on a name it has marked. -/
theorem Backed.setEntry (hs : s.Backed) {node name : String} {entry : WatchedCertificate}
    (hmark : s.Watches node name) (hne : entry.refs.Nonempty)
    (hrefs : ∀ n ∈ entry.refs, n = node ∨ s.References n name) :
    (s.setEntry name entry).Backed where
  referenced := by
    intro x hx
    by_cases hxn : x = name
    · obtain ⟨n, hn⟩ := hne
      exact ⟨n, (references_setEntry s name n x entry).mpr (by simpa [hxn] using hn)⟩
    · obtain ⟨n, hn⟩ := hs.referenced x
        (((mem_registry_setEntry s name x entry).mp hx).resolve_left hxn)
      exact ⟨n, (references_setEntry s name n x entry).mpr (by simpa [hxn] using hn)⟩
  refsWatched := by
    intro n x h
    rw [references_setEntry] at h
    rw [watches_setEntry]
    split_ifs at h with hx
    · subst hx
      rcases hrefs n h with rfl | hn
      · exact hmark
      · exact hs.refsWatched n x hn
    · exact hs.refsWatched n x h

/-- The loop of `watch`, whether it ends or stops at a failing fetch. -/
theorem backed_watchNames (a : Answers) (node : String) (names : List String) :
    ∀ (certs : List TlsSecret) (s : SecretManager), s.Backed →
      (watchNames a node names certs s).1.Backed := by
  induction names with
  | nil => exact fun certs s hs => hs
  | cons name names ih =>
    intro certs s hs
    have hmark : (s.addWatch node name).Watches node name :=
      (watches_addWatch s node name node name).mpr (.inr ⟨rfl, rfl⟩)
    rw [watchNames, watchNamesLogged]
    split
    · rename_i entry he
      refine ih _ _ ((hs.addWatch node name).setEntry hmark (Finset.insert_nonempty _ _) ?_)
      intro n hn
      exact (Finset.mem_insert.mp hn).imp_right (references_iff_of_lookup he n).mpr
    · split
      · exact hs.addWatch node name
      · refine ih _ _ ((hs.addWatch node name).setEntry hmark (Finset.singleton_nonempty _) ?_)
        exact fun n hn => .inl (Finset.mem_singleton.mp hn)

theorem Backed.initWatcher (hs : s.Backed) (node : String) : (s.initWatcher node).Backed where
  referenced x hx := by
    rw [registry_initWatcher] at hx
    obtain ⟨n, hn⟩ := hs.referenced x hx
    exact ⟨n, (references_initWatcher s node n x).mpr hn⟩
  refsWatched n x h := (watches_initWatcher s node n x).mpr
    (hs.refsWatched n x ((references_initWatcher s node n x).mp h))

theorem Backed.watch (hs : s.Backed) (a : Answers) (names : List String) (node : String) :
    (s.watch a names node).1.Backed := by
  have hloop := backed_watchNames a node names [] _ (hs.initWatcher node)
  rcases h : watchNames a node names [] (s.initWatcher node) with ⟨s', err | certs⟩
  · rw [h] at hloop
    rw [watch_of_error h]
    exact hloop
  · rw [h] at hloop
    rw [watch_of_ok h]
    obtain ⟨hw, hr⟩ := updateCertificates_maps a certs 0 s'
    exact hloop.of_maps hw hr

/-! ### Unwatching -/

/-- Dropping a reference leaves the other entries, and an entry only with a
reference. -/
theorem Referenced.dropRef (hs : s.Referenced) (node name : String) (certs : List String) :
    (s.dropRef node name certs).1.Referenced := by
  unfold SecretManager.dropRef
  split
  · exact hs
  · rename_i entry he
    split_ifs with hempty
    · intro x hx
      obtain ⟨hne, hx⟩ := Finmap.mem_erase.mp hx
      obtain ⟨n, hn⟩ := hs x hx
      exact ⟨n, (references_erase s name n x).mpr ⟨hne, hn⟩⟩
    · intro x hx
      by_cases hxn : x = name
      · obtain ⟨n, hn⟩ := Finset.nonempty_iff_ne_empty.mpr hempty
        exact ⟨n, (references_setEntry s name n x _).mpr (by simpa [hxn] using hn)⟩
      · obtain ⟨n, hn⟩ := hs x (((mem_registry_setEntry s name x _).mp hx).resolve_left hxn)
        exact ⟨n, (references_setEntry s name n x _).mpr (by simpa [hxn] using hn)⟩

theorem referenced_unwatchAllNames (node : String) (names : List String) :
    ∀ (certs : List String) (s : SecretManager), s.Referenced →
      (unwatchAllNames node names certs s).1.Referenced := by
  induction names with
  | nil => exact fun certs s hs => hs
  | cons name names ih =>
    intro certs s hs
    rw [unwatchAllNames]
    exact ih _ _ (hs.dropRef node name certs)

theorem Drops.referenced {a : Answers} {node : String} {names : List String}
    {out : SecretManager × Option String} (h : Drops a node names s out) (hs : s.Referenced) :
    out.1.Referenced := by
  rcases h with rfl | ⟨watchers, rfl⟩
  · exact hs
  · have hloop : (unwatchAllNames node names [] s).1.Referenced :=
      referenced_unwatchAllNames node names [] s hs
    exact hloop.of_registry (removeCertificates_maps a _ 0 _).2

/-- `unwatch` takes mark and reference back in one turn. -/
theorem Backed.unwatch (hs : s.Backed) (a : Answers) (names : List String) (node : String) :
    (s.unwatch a names node).1.Backed := by
  refine ⟨(drops_unwatch a names node s).referenced hs.referenced, fun n x h => ?_⟩
  rw [references_unwatch] at h
  obtain ⟨href, hne⟩ := h
  have hw := hs.refsWatched n x href
  exact (watches_unwatch a names node s n x).mpr
    ⟨hw, fun hx => hne ⟨hx.1 ▸ hw.mem_watchers, hx⟩⟩

/-- `UnwatchAll` only visits the watch set of the node, but by the law itself
that is where all references of the node are. -/
theorem Backed.unwatchAll (hs : s.Backed) (a : Answers) {node : String} {order : List String}
    (ho : s.Orders (.unwatchAll node order)) : (s.unwatchAll a node order).1.Backed := by
  refine ⟨(drops_unwatchAll a node order s).referenced hs.referenced, fun n x h => ?_⟩
  rw [references_unwatchAll] at h
  obtain ⟨href, hne⟩ := h
  obtain ⟨watcher, hlook, hx⟩ := hs.refsWatched n x href
  refine (watches_unwatchAll a node order s n x).mpr ⟨⟨watcher, hlook, hx⟩, ?_⟩
  rintro rfl
  exact hne ⟨Finmap.mem_of_lookup_eq_some hlook, rfl, (ho watcher hlook).mem_iff.mpr hx⟩

theorem Backed.setResourcesForNode (hs : s.Backed) (a : Answers) (names : List String)
    (node : String) (order : List String) :
    (s.setResourcesForNode a names node order).1.Backed := by
  refine setResourcesForNode_elim (P := fun out => out.1.Backed) (fun names => ?_)
    (fun s' names hs' => ?_) names order
  · exact hs.watch a names node
  · exact hs'.unwatch a names node

/-! ### Refreshing -/

/-- Refreshing registers nothing and drops nothing. -/
theorem mem_registry_manage (a : Answers) (force : Bool) (now : ℤ) (x : String)
    (order : List String) : ∀ (i : ℕ) (s : SecretManager),
      x ∈ (manage a force now i order s).registry ↔ x ∈ s.registry := by
  induction order with
  | nil => exact fun i s => Iff.rfl
  | cons name order ih =>
    intro i s
    rw [manage, ih, mem_registry_refresh]

theorem Backed.manage (hs : s.Backed) (a : Answers) (force : Bool) (now : ℤ)
    (order : List String) : (s.manage a force now 0 order).Backed where
  referenced x hx := by
    obtain ⟨n, hn⟩ := hs.referenced x ((mem_registry_manage a force now x order 0 s).mp hx)
    exact ⟨n, (manage_spec a force now n x order 0 s).2.mpr hn⟩
  refsWatched n x h := by
    obtain ⟨hw, hr⟩ := manage_spec a force now n x order 0 s
    exact hw.mpr (hs.refsWatched n x (hr.mp h))

/-! ### Whole runs -/

/-- Every call keeps the law, whatever it is answered. -/
theorem backed_step {s s' : SecretManager} {c : Call} (hs : s.Backed) (h : s.Step c s') :
    s'.Backed := by
  obtain ⟨ho, rfl⟩ := h
  obtain ⟨op, a⟩ := c
  cases op with
  | watch names node => exact hs.watch a names node
  | unwatch names node => exact hs.unwatch a names node
  | unwatchAll node order => exact hs.unwatchAll a ho
  | setResourcesForNode names node order => exact hs.setResourcesForNode a names node order
  | manage force now order => exact hs.manage a force now order

/-- **No certificate is kept for nobody.**  In every reachable state of the
manager, whatever failed on the way, a registered certificate has a reference,
and every node that references it has it in its watch set. -/
theorem refs_watched_of_reachable {s : SecretManager}
    (hs : Reachable Step SecretManager.new s) {name : String} {entry : WatchedCertificate}
    (he : s.registry.lookup name = some entry) :
    entry.refs.Nonempty ∧
      ∀ node ∈ entry.refs, ∃ watcher, s.watchers.lookup node = some watcher ∧ name ∈ watcher := by
  have hb : s.Backed := hs.invariant backed_new backed_step
  constructor
  · obtain ⟨node, hn⟩ := hb.referenced name (Finmap.mem_of_lookup_eq_some he)
    exact ⟨node, (references_iff_of_lookup he node).mp hn⟩
  · intro node hn
    exact hb.refsWatched node name ((references_iff_of_lookup he node).mpr hn)

/-- The certificate of the run in which one request is served. -/
theorem refs_watched_servedOne :
    Reachable Step SecretManager.new servedOne ∧
    servedOne.registry.lookup "one" = some ⟨⟨"one", "pem"⟩, 3600, {"node"}⟩ ∧
    ∀ node ∈ ({"node"} : Finset String),
      ∃ watcher, servedOne.watchers.lookup node = some watcher ∧ "one" ∈ watcher := by
  have hr : Reachable Step SecretManager.new servedOne :=
    Relation.ReflTransGen.single ⟨requestServed, requestServed_step⟩
  have hone : servedOne.registry.lookup "one" = some ⟨⟨"one", "pem"⟩, 3600, {"node"}⟩ := rfl
  exact ⟨hr, hone, (refs_watched_of_reachable hr hone).2⟩

end SecretManager

end Envoy
