/-
The secret manager of the SDS server (`internal/envoy/secrets.go`).

The manager keeps, for each Envoy node, the set of certificates it watches
(`watchers`) and, for each certificate, the set of nodes that reference it
(`registry`); a certificate that loses its last reference is dropped from the
registry and from the cache Envoy is served from.  The secret client and the
cache are outside the manager, so each call is given the `Answers` it gets
from them, every one of which may be an error.

Every call is one step here.  `Watch`, `Unwatch` and `UnwatchAll` hold the lock of
the manager throughout.  `SetResourcesForNode` and `manage` hold it for reading
only, although they write: two of them at the same time are a data race in the
code, and are taken one after the other here.

* `watchNames_ok`, `watchNames_error` — what a call of `watch` leaves in the
  two maps, when every fetch succeeds and when one fails;
* `watches_unwatch`, `references_unwatch` and their `unwatchAll` versions — the
  same for dropping certificates;
* `setResourcesForNode_of_ok`, `setResourcesForNode_of_error` — the same for the
  call that replaces the watched names of a node;
* `setResourcesForNode_elim` — it does what `watch` does and `unwatch` keeps.
-/
import ConsulApiGateway.GoMap
import ConsulApiGateway.Run

namespace Envoy

/-- The part of Envoy's TLS `Secret` the server handles: the resource name it is
pushed under, and its payload. -/
structure TlsSecret where
  name : String
  content : String
  deriving DecidableEq

/-- A reference counted certificate. -/
structure WatchedCertificate where
  secret : TlsSecret
  expiration : ℤ
  refs : Finset String
  deriving DecidableEq

/-- The state of a `secretManager`, with the contents of the cache it feeds. -/
structure SecretManager where
  /-- The certificate names each node is watching. -/
  watchers : GoMap String (Finset String)
  /-- The certificates the manager keeps, by name. -/
  registry : GoMap String WatchedCertificate
  cache : GoMap String TlsSecret

/-- What `NewSecretManager` starts from. -/
def SecretManager.new : SecretManager := ⟨∅, ∅, ∅⟩

/-- What the secret client and the cache answer during one call. -/
structure Answers where
  /-- `FetchSecret`: the secret and its expiration, or an error. -/
  fetchSecret : String → Except String (TlsSecret × ℤ)
  /-- The error of the call's `i`-th `UpdateResource`, if it fails. -/
  updateResource : ℕ → Option String
  /-- The error of the call's `i`-th `DeleteResource`, if it fails. -/
  deleteResource : ℕ → Option String

/-- Certificates are fetched again from ten minutes before they expire. -/
def expirationDelta : ℤ := 10 * 60

namespace SecretManager

/-! ### Watching -/

/-- Push certificates into the cache, up to the first that fails. -/
def updateCertificates (a : Answers) : ℕ → List TlsSecret → SecretManager →
    SecretManager × Option String
  | _, [], s => (s, none)
  | i, cert :: certs, s =>
    match a.updateResource i with
    | some err => (s, some err)
    | none =>
      updateCertificates a (i + 1) certs { s with cache := s.cache.insert cert.name cert }

/-- `watcher[name] = struct{}{}`. -/
def addWatch (node name : String) (s : SecretManager) : SecretManager :=
  { s with
    watchers := s.watchers.insert node (insert name ((s.watchers.lookup node).getD ∅)) }

/-- `s.registry[name] = entry`. -/
def setEntry (name : String) (entry : WatchedCertificate) (s : SecretManager) :
    SecretManager :=
  { s with registry := s.registry.insert name entry }

/-- The loop of `watch`: mark each name as watched, then add a reference to its
registry entry or fetch it.  Returns the newly fetched certificates, and the names
that the client was asked for. -/
def watchNamesLogged (a : Answers) (node : String) :
    List String → List TlsSecret → SecretManager →
      (SecretManager × Except String (List TlsSecret)) × List String
  | [], certificates, s => ((s, .ok certificates), [])
  | name :: names, certificates, s =>
    let s := s.addWatch node name
    match s.registry.lookup name with
    | some entry =>
      -- the certificate is in the cache already, so it is not pushed again
      watchNamesLogged a node names certificates
        (s.setEntry name { entry with refs := insert node entry.refs })
    | none =>
      match a.fetchSecret name with
      -- the name stays in the node's watch set
      | .error err => ((s, .error err), [name])
      | .ok (certificate, expires) =>
        let r := watchNamesLogged a node names (certificates ++ [certificate])
          (s.setEntry name ⟨certificate, expires, {node}⟩)
        (r.1, name :: r.2)

def watchNames (a : Answers) (node : String) (names : List String)
    (certificates : List TlsSecret) (s : SecretManager) :
    SecretManager × Except String (List TlsSecret) :=
  (watchNamesLogged a node names certificates s).1

/-- Give the node a watch set if it has none. -/
def initWatcher (node : String) (s : SecretManager) : SecretManager :=
  if node ∈ s.watchers then s else { s with watchers := s.watchers.insert node ∅ }

/-- `watch`, with the names it fetches. -/
def watchLogged (a : Answers) (names : List String) (node : String) (s : SecretManager) :
    (SecretManager × Option String) × List String :=
  match watchNamesLogged a node names [] (s.initWatcher node) with
  | ((s, .error err), fetched) => ((s, some err), fetched)
  | ((s, .ok certificates), fetched) => (updateCertificates a 0 certificates s, fetched)

def watch (a : Answers) (names : List String) (node : String) (s : SecretManager) :
    SecretManager × Option String :=
  (s.watchLogged a names node).1

/-! ### Unwatching -/

/-- Delete certificates from the cache, up to the first that fails. -/
def removeCertificates (a : Answers) : ℕ → List String → SecretManager →
    SecretManager × Option String
  | _, [], s => (s, none)
  | i, name :: names, s =>
    match a.deleteResource i with
    | some err => (s, some err)
    | none => removeCertificates a (i + 1) names { s with cache := s.cache.erase name }

/-- Drop the node from the references of `name`; an entry left without references
leaves the registry, and its name is added to those to purge from the cache. -/
def dropRef (node name : String) (certificates : List String) (s : SecretManager) :
    SecretManager × List String :=
  match s.registry.lookup name with
  | none => (s, certificates)
  | some entry =>
    if entry.refs.erase node = ∅ then
      ({ s with registry := s.registry.erase name }, certificates ++ [name])
    else
      (s.setEntry name { entry with refs := entry.refs.erase node }, certificates)

/-- `delete(watcher, name)`. -/
def removeWatch (node name : String) (s : SecretManager) : SecretManager :=
  { s with
    watchers := s.watchers.insert node (((s.watchers.lookup node).getD ∅).erase name) }

/-- The loop of `unwatch`. -/
def unwatchNames (node : String) : List String → List String → SecretManager →
    SecretManager × List String
  | [], certificates, s => (s, certificates)
  | name :: names, certificates, s =>
    let (s, certificates) := (s.removeWatch node name).dropRef node name certificates
    unwatchNames node names certificates s

/-- Forget a node that watches nothing any more. -/
def purgeWatcher (node : String) (s : SecretManager) : SecretManager :=
  if s.watchers.lookup node = some ∅ then { s with watchers := s.watchers.erase node } else s

def unwatch (a : Answers) (names : List String) (node : String) (s : SecretManager) :
    SecretManager × Option String :=
  if node ∈ s.watchers then
    let (s, certificates) := unwatchNames node names [] s
    removeCertificates a 0 certificates (s.purgeWatcher node)
  else (s, none)

/-- The loop of `UnwatchAll`, over the node's watch set in the order `names`. -/
def unwatchAllNames (node : String) : List String → List String → SecretManager →
    SecretManager × List String
  | [], certificates, s => (s, certificates)
  | name :: names, certificates, s =>
    let (s, certificates) := s.dropRef node name certificates
    unwatchAllNames node names certificates s

/-- `UnwatchAll`; `order` is the order in which the node's watch set is visited. -/
def unwatchAll (a : Answers) (node : String) (order : List String) (s : SecretManager) :
    SecretManager × Option String :=
  if node ∈ s.watchers then
    let (s, certificates) := unwatchAllNames node order [] s
    removeCertificates a 0 certificates { s with watchers := s.watchers.erase node }
  else (s, none)

/-- `SetResourcesForNode`, with the names it fetches; `order` is the order in which the
node's watch set is visited.  Names the node already watches are neither fetched nor
dropped. -/
def setResourcesForNodeLogged (a : Answers) (names : List String) (node : String)
    (order : List String) (s : SecretManager) :
    (SecretManager × Option String) × List String :=
  match s.watchers.lookup node with
  | none => s.watchLogged a names node
  | some watcher =>
    let keep := names.filter (· ∈ watcher)
    match s.watchLogged a (names.filter (· ∉ watcher)) node with
    -- the names that are not asked for any more stay watched
    | ((s, some err), fetched) => ((s, some err), fetched)
    | ((s, none), fetched) => (s.unwatch a (order.filter (· ∉ keep)) node, fetched)

def setResourcesForNode (a : Answers) (names : List String) (node : String)
    (order : List String) (s : SecretManager) : SecretManager × Option String :=
  (s.setResourcesForNodeLogged a names node order).1

/-! ### Refreshing -/

/-- One turn of the loop of `manage`, with the call's `i`-th cache update. -/
def refresh (a : Answers) (force : Bool) (now : ℤ) (i : ℕ) (name : String)
    (s : SecretManager) : SecretManager :=
  match s.registry.lookup name with
  | none => s
  | some entry =>
    if force ∨ entry.expiration - expirationDelta < now then
      -- errors are logged only, and the next turn tries again
      match a.fetchSecret name with
      | .error _ => s
      | .ok (certificate, expires) =>
        match a.updateResource i with
        | some _ => s
        | none =>
          setEntry name { entry with secret := certificate, expiration := expires }
            { s with cache := s.cache.insert certificate.name certificate }
    else s

/-- `manage`; `order` is the order in which the registry is visited. -/
def manage (a : Answers) (force : Bool) (now : ℤ) : ℕ → List String → SecretManager →
    SecretManager
  | _, [], s => s
  | i, name :: order, s => manage a force now (i + 1) order (s.refresh a force now i name)

/-! ### The two sides of a watch -/

/-- The node has the certificate in its watch set. -/
def Watches (s : SecretManager) (node name : String) : Prop :=
  ∃ watcher, s.watchers.lookup node = some watcher ∧ name ∈ watcher

/-- The certificate is registered with the node among its references. -/
def References (s : SecretManager) (node name : String) : Prop :=
  ∃ entry, s.registry.lookup name = some entry ∧ node ∈ entry.refs

variable {a : Answers} {s s' : SecretManager} {node : String} {names : List String}

theorem References.mem_registry {name : String} (h : s.References node name) :
    name ∈ s.registry := by
  obtain ⟨entry, he, -⟩ := h
  exact Finmap.mem_of_lookup_eq_some he

theorem references_iff_of_lookup {name : String} {entry : WatchedCertificate}
    (he : s.registry.lookup name = some entry) (node : String) :
    s.References node name ↔ node ∈ entry.refs := by
  simp [References, he]

theorem mem_getD_iff_watches (s : SecretManager) (node x : String) :
    x ∈ (s.watchers.lookup node).getD ∅ ↔ s.Watches node x := by
  unfold Watches
  cases s.watchers.lookup node with
  | none => simp
  | some watcher => simp

theorem watches_insert (s : SecretManager) (node n x : String) (watcher : Finset String) :
    Watches { s with watchers := s.watchers.insert node watcher } n x ↔
      if n = node then x ∈ watcher else s.Watches n x := by
  unfold Watches
  rw [GoMap.lookup_insert_ite]
  by_cases h : n = node <;> simp [h]

@[simp] theorem watches_setEntry (s : SecretManager) (name n x : String)
    (entry : WatchedCertificate) : (s.setEntry name entry).Watches n x ↔ s.Watches n x :=
  Iff.rfl

@[simp] theorem mem_registry_setEntry (s : SecretManager) (name x : String)
    (entry : WatchedCertificate) :
    x ∈ (s.setEntry name entry).registry ↔ x = name ∨ x ∈ s.registry := Finmap.mem_insert

theorem references_setEntry (s : SecretManager) (name n x : String)
    (entry : WatchedCertificate) :
    (s.setEntry name entry).References n x ↔
      if x = name then n ∈ entry.refs else s.References n x := by
  unfold References setEntry
  rw [GoMap.lookup_insert_ite]
  by_cases h : x = name <;> simp [h]

theorem references_erase (s : SecretManager) (name n x : String) :
    References { s with registry := s.registry.erase name } n x ↔
      x ≠ name ∧ s.References n x := by
  unfold References
  rw [GoMap.lookup_erase_ite]
  by_cases h : x = name <;> simp [h]

@[simp] theorem watches_initWatcher (s : SecretManager) (node n x : String) :
    (s.initWatcher node).Watches n x ↔ s.Watches n x := by
  unfold initWatcher
  split_ifs with h
  · exact Iff.rfl
  · rw [watches_insert]
    split_ifs with hn
    · subst hn
      rw [← mem_getD_iff_watches, Finmap.lookup_eq_none.mpr h]
      simp
    · exact Iff.rfl

@[simp] theorem registry_initWatcher (s : SecretManager) (node : String) :
    (s.initWatcher node).registry = s.registry := by
  unfold initWatcher
  split_ifs <;> rfl

@[simp] theorem cache_initWatcher (s : SecretManager) (node : String) :
    (s.initWatcher node).cache = s.cache := by
  unfold initWatcher
  split_ifs <;> rfl

@[simp] theorem references_initWatcher (s : SecretManager) (node n x : String) :
    (s.initWatcher node).References n x ↔ s.References n x := by
  unfold References
  rw [registry_initWatcher]

@[simp] theorem watches_addWatch (s : SecretManager) (node name n x : String) :
    (s.addWatch node name).Watches n x ↔ s.Watches n x ∨ n = node ∧ x = name := by
  rw [addWatch, watches_insert]
  split_ifs with hn
  · subst hn
    rw [Finset.mem_insert, mem_getD_iff_watches]
    simp [or_comm]
  · simp [hn]

@[simp] theorem registry_addWatch (s : SecretManager) (node name : String) :
    (s.addWatch node name).registry = s.registry := rfl

@[simp] theorem references_addWatch (s : SecretManager) (node name n x : String) :
    (s.addWatch node name).References n x ↔ s.References n x := Iff.rfl

/-! ### What a call of `watch` does -/

/-- Taking a reference on a registered name. -/
theorem references_addRef {name : String} {entry : WatchedCertificate}
    (he : s.registry.lookup name = some entry) (node n x : String) :
    (s.setEntry name { entry with refs := insert node entry.refs }).References n x ↔
      s.References n x ∨ n = node ∧ x = name := by
  rw [references_setEntry]
  split_ifs with hx
  · subst hx
    rw [Finset.mem_insert, references_iff_of_lookup he]
    simp [or_comm]
  · simp [hx]

/-- Registering a fetched name. -/
theorem references_fetched {name : String} (hn : name ∉ s.registry) (cert : TlsSecret) (expires : ℤ)
    (node n x : String) :
    (s.setEntry name ⟨cert, expires, {node}⟩).References n x ↔
      s.References n x ∨ n = node ∧ x = name := by
  rw [references_setEntry]
  split_ifs with hx
  · subst hx
    have : ¬ s.References n x := fun h => hn h.mem_registry
    simp [this]
  · simp [hx]

/-- When every fetch succeeds, the node watches and references the names. -/
theorem watchNames_ok :
    ∀ {certs certs' : List TlsSecret} {s s' : SecretManager},
      watchNames a node names certs s = (s', .ok certs') →
      (∀ n x, s'.Watches n x ↔ s.Watches n x ∨ n = node ∧ x ∈ names) ∧
      (∀ n x, s'.References n x ↔ s.References n x ∨ n = node ∧ x ∈ names) ∧
      (∀ x ∈ names, x ∉ s.registry → ∃ fetched, a.fetchSecret x = .ok fetched) := by
  induction names with
  | nil =>
    intro certs certs' s s' h
    cases h
    simp
  | cons name names ih =>
    intro certs certs' s s' h
    rw [watchNames, watchNamesLogged] at h
    simp only [registry_addWatch] at h
    split at h
    · rename_i entry he
      -- the certificate is registered already and gets one more reference
      obtain ⟨hw, hr, hf⟩ := ih h
      have hmem : name ∈ s.registry := Finmap.mem_of_lookup_eq_some he
      refine ⟨fun n x => ?_, fun n x => ?_, fun x hx hn => ?_⟩
      · rw [hw, watches_setEntry, watches_addWatch, List.mem_cons, and_or_left, or_assoc]
      · rw [hr, references_addRef (s := s.addWatch node name) he, references_addWatch,
          List.mem_cons, and_or_left, or_assoc]
      · rcases List.mem_cons.mp hx with rfl | hx
        · exact absurd hmem hn
        · refine hf x hx ?_
          rw [mem_registry_setEntry, registry_addWatch]
          rintro (rfl | hx)
          · exact hn hmem
          · exact hn hx
    · rename_i he
      split at h
      · cases h
      · rename_i cert expires hfetch
        have hmem : name ∉ s.registry := Finmap.lookup_eq_none.mp he
        obtain ⟨hw, hr, hf⟩ := ih h
        refine ⟨fun n x => ?_, fun n x => ?_, fun x hx hn => ?_⟩
        · rw [hw, watches_setEntry, watches_addWatch, List.mem_cons, and_or_left, or_assoc]
        · rw [hr, references_fetched (s := s.addWatch node name) hmem, references_addWatch,
            List.mem_cons, and_or_left, or_assoc]
        · -- the name of this turn was fetched, the others in the turns that follow
          by_cases hxn : x = name
          · exact ⟨_, hxn ▸ hfetch⟩
          · refine hf x (List.mem_of_ne_of_mem hxn hx) ?_
            rw [mem_registry_setEntry, registry_addWatch]
            exact not_or.mpr ⟨hxn, hn⟩

/-- A failing fetch leaves its name watched by the node and not registered. -/
theorem watchNames_error {err : String} :
    ∀ {certs : List TlsSecret} {s s' : SecretManager},
      watchNames a node names certs s = (s', .error err) →
      ∃ bad ∈ names, bad ∉ s.registry ∧ a.fetchSecret bad = .error err ∧
        s'.Watches node bad ∧ bad ∉ s'.registry := by
  induction names with
  | nil =>
    intro certs s s' h
    cases h
  | cons name names ih =>
    intro certs s s' h
    rw [watchNames, watchNamesLogged] at h
    simp only [registry_addWatch] at h
    split at h
    · obtain ⟨bad, hb, hs, hrest⟩ := ih h
      rw [mem_registry_setEntry, registry_addWatch, not_or] at hs
      exact ⟨bad, List.mem_cons_of_mem _ hb, hs.2, hrest⟩
    · rename_i he
      have hmem : name ∉ s.registry := Finmap.lookup_eq_none.mp he
      split at h
      · rename_i hfetch
        cases h
        exact ⟨name, List.mem_cons_self, hmem, hfetch, by simp, hmem⟩
      · obtain ⟨bad, hb, hs, hrest⟩ := ih h
        rw [mem_registry_setEntry, registry_addWatch, not_or] at hs
        exact ⟨bad, List.mem_cons_of_mem _ hb, hs.2, hrest⟩

/-- The cache updates at the end of `watch` leave both maps alone. -/
theorem updateCertificates_maps (a : Answers) (certs : List TlsSecret) :
    ∀ (i : ℕ) (s : SecretManager),
      (updateCertificates a i certs s).1.watchers = s.watchers ∧
      (updateCertificates a i certs s).1.registry = s.registry := by
  induction certs with
  | nil => exact fun i s => ⟨rfl, rfl⟩
  | cons cert certs ih =>
    intro i s
    rw [updateCertificates]
    split
    · exact ⟨rfl, rfl⟩
    · exact ih _ _

/-! ### What dropping a reference does -/

theorem removeCertificates_maps (a : Answers) (names : List String) :
    ∀ (i : ℕ) (s : SecretManager),
      (removeCertificates a i names s).1.watchers = s.watchers ∧
      (removeCertificates a i names s).1.registry = s.registry := by
  induction names with
  | nil => exact fun i s => ⟨rfl, rfl⟩
  | cons name names ih =>
    intro i s
    rw [removeCertificates]
    split
    · exact ⟨rfl, rfl⟩
    · exact ih _ _

@[simp] theorem watchers_dropRef (s : SecretManager) (node name : String)
    (certs : List String) : (s.dropRef node name certs).1.watchers = s.watchers := by
  unfold dropRef
  split
  · rfl
  · split <;> rfl

@[simp] theorem watches_dropRef (s : SecretManager) (node name n x : String)
    (certs : List String) : (s.dropRef node name certs).1.Watches n x ↔ s.Watches n x := by
  unfold Watches
  rw [watchers_dropRef]

@[simp] theorem references_dropRef (s : SecretManager) (node name n x : String)
    (certs : List String) :
    (s.dropRef node name certs).1.References n x ↔
      s.References n x ∧ ¬ (n = node ∧ x = name) := by
  unfold dropRef
  cases he : s.registry.lookup name with
  | none =>
    have : ¬ s.References n name := fun h => Finmap.lookup_eq_none.mp he h.mem_registry
    simp only
    constructor
    · exact fun h => ⟨h, fun hx => this (hx.2 ▸ h)⟩
    · exact fun h => h.1
  | some entry =>
    have hr := references_iff_of_lookup he
    dsimp only
    split_ifs with hempty
    · -- the last reference was the node's own
      rw [references_erase]
      constructor
      · exact fun h => ⟨h.2, fun hx => h.1 hx.2⟩
      · rintro ⟨h, hne⟩
        refine ⟨fun hx => hne ⟨?_, hx⟩, h⟩
        subst hx
        by_contra hn
        have hmem : n ∈ entry.refs.erase node := Finset.mem_erase.mpr ⟨hn, (hr n).mp h⟩
        rw [hempty] at hmem
        cases hmem
    · rw [references_setEntry]
      split_ifs with hx
      · subst hx
        rw [hr, Finset.mem_erase]
        simp [and_comm]
      · simp [hx]

@[simp] theorem watches_removeWatch (s : SecretManager) (node name n x : String) :
    (s.removeWatch node name).Watches n x ↔ s.Watches n x ∧ ¬ (n = node ∧ x = name) := by
  rw [removeWatch, watches_insert]
  split_ifs with hn
  · subst hn
    rw [Finset.mem_erase, mem_getD_iff_watches]
    simp [and_comm]
  · simp [hn]

@[simp] theorem references_removeWatch (s : SecretManager) (node name n x : String) :
    (s.removeWatch node name).References n x ↔ s.References n x := Iff.rfl

theorem unwatchNames_spec (node n x : String) (names : List String) :
    ∀ (certs : List String) (s : SecretManager),
      ((unwatchNames node names certs s).1.Watches n x ↔
        s.Watches n x ∧ ¬ (n = node ∧ x ∈ names)) ∧
      ((unwatchNames node names certs s).1.References n x ↔
        s.References n x ∧ ¬ (n = node ∧ x ∈ names)) := by
  induction names with
  | nil => simp [unwatchNames]
  | cons name names ih =>
    intro certs s
    obtain ⟨hw, hr⟩ := ih ((s.removeWatch node name).dropRef node name certs).2
      ((s.removeWatch node name).dropRef node name certs).1
    rw [unwatchNames, List.mem_cons]
    constructor
    · rw [hw, watches_dropRef, watches_removeWatch, and_assoc, ← not_or, ← and_or_left]
    · rw [hr, references_dropRef, references_removeWatch, and_assoc, ← not_or, ← and_or_left]

theorem unwatchAllNames_spec (node n x : String) (names : List String) :
    ∀ (certs : List String) (s : SecretManager),
      (unwatchAllNames node names certs s).1.watchers = s.watchers ∧
      ((unwatchAllNames node names certs s).1.References n x ↔
        s.References n x ∧ ¬ (n = node ∧ x ∈ names)) := by
  induction names with
  | nil => simp [unwatchAllNames]
  | cons name names ih =>
    intro certs s
    obtain ⟨hw, hr⟩ := ih (s.dropRef node name certs).2 (s.dropRef node name certs).1
    rw [unwatchAllNames, List.mem_cons]
    constructor
    · rw [hw, watchers_dropRef]
    · rw [hr, references_dropRef, and_assoc, ← not_or, ← and_or_left]

theorem dropRef_withWatchers (s : SecretManager) (node name : String) (certs : List String)
    (watchers : GoMap String (Finset String)) :
    dropRef node name certs { s with watchers := watchers } =
      ({ (s.dropRef node name certs).1 with watchers := watchers },
        (s.dropRef node name certs).2) := by
  unfold dropRef
  cases s.registry.lookup name with
  | none => rfl
  | some entry =>
    dsimp only
    split_ifs <;> rfl

/-- The two unwatch loops differ in what they do to the watch sets only. -/
theorem unwatchNames_eq (node : String) (names : List String) :
    ∀ (certs : List String) (s : SecretManager) (watchers : GoMap String (Finset String)),
      ∃ watchers', unwatchNames node names certs { s with watchers := watchers } =
        ({ (unwatchAllNames node names certs s).1 with watchers := watchers' },
          (unwatchAllNames node names certs s).2) := by
  induction names with
  | nil => exact fun certs s watchers => ⟨watchers, rfl⟩
  | cons name names ih =>
    intro certs s watchers
    have h : (removeWatch node name { s with watchers := watchers }).dropRef node name certs = _ :=
      dropRef_withWatchers s node name certs _
    rw [unwatchNames, h]
    exact ih _ _ _

/-- The outcome of a call that drops references of the node: nothing for a node
without a watch set, and else the loop of `UnwatchAll` and the deletions from the
cache, with whatever watch sets are left. -/
def Drops (a : Answers) (node : String) (names : List String) (s : SecretManager)
    (out : SecretManager × Option String) : Prop :=
  out = (s, none) ∨ ∃ watchers, out =
    removeCertificates a 0 (unwatchAllNames node names [] s).2
      { (unwatchAllNames node names [] s).1 with watchers := watchers }

theorem drops_unwatch (a : Answers) (names : List String) (node : String) (s : SecretManager) :
    Drops a node names s (s.unwatch a names node) := by
  unfold unwatch
  split_ifs
  · obtain ⟨watchers, h⟩ := unwatchNames_eq node names [] s s.watchers
    have h' : unwatchNames node names [] s = _ := h
    rw [h']
    unfold purgeWatcher
    dsimp only
    split_ifs
    · exact .inr ⟨_, rfl⟩
    · exact .inr ⟨_, rfl⟩
  · exact .inl rfl

theorem drops_unwatchAll (a : Answers) (node : String) (order : List String)
    (s : SecretManager) : Drops a node order s (s.unwatchAll a node order) := by
  unfold unwatchAll
  split_ifs
  · exact .inr ⟨_, rfl⟩
  · exact .inl rfl

@[simp] theorem watches_purgeWatcher (s : SecretManager) (node n x : String) :
    (s.purgeWatcher node).Watches n x ↔ s.Watches n x := by
  unfold purgeWatcher
  split_ifs with h
  · unfold Watches
    rw [GoMap.lookup_erase_ite]
    by_cases hn : n = node
    · subst hn
      simp [h]
    · simp [hn]
  · exact Iff.rfl

@[simp] theorem references_purgeWatcher (s : SecretManager) (node n x : String) :
    (s.purgeWatcher node).References n x ↔ s.References n x := by
  unfold purgeWatcher
  split_ifs <;> exact Iff.rfl

theorem Watches.mem_watchers {name : String} (h : s.Watches node name) : node ∈ s.watchers := by
  obtain ⟨watcher, hw, -⟩ := h
  exact Finmap.mem_of_lookup_eq_some hw

theorem watches_unwatch (a : Answers) (names : List String) (node : String)
    (s : SecretManager) (n x : String) :
    (s.unwatch a names node).1.Watches n x ↔ s.Watches n x ∧ ¬ (n = node ∧ x ∈ names) := by
  unfold unwatch
  split_ifs with hn
  · have hm := (removeCertificates_maps a (unwatchNames node names [] s).2 0
      ((unwatchNames node names [] s).1.purgeWatcher node)).1
    have hw := (unwatchNames_spec node n x names [] s).1
    rw [← watches_purgeWatcher _ node] at hw
    unfold Watches at hw ⊢
    rw [hm, hw]
  · constructor
    · exact fun h => ⟨h, fun hx => hn (hx.1 ▸ h.mem_watchers)⟩
    · exact fun h => h.1

/-- `unwatch` for a node without a watch set drops no reference. -/
theorem references_unwatch (a : Answers) (names : List String) (node : String)
    (s : SecretManager) (n x : String) :
    (s.unwatch a names node).1.References n x ↔
      s.References n x ∧ ¬ (node ∈ s.watchers ∧ n = node ∧ x ∈ names) := by
  unfold unwatch
  split_ifs with hn
  · have hm := (removeCertificates_maps a (unwatchNames node names [] s).2 0
      ((unwatchNames node names [] s).1.purgeWatcher node)).2
    have hr := (unwatchNames_spec node n x names [] s).2
    rw [← references_purgeWatcher _ node] at hr
    unfold References at hr ⊢
    rw [hm, hr]
    simp [hn]
  · simp [hn]

theorem watches_unwatchAll (a : Answers) (node : String) (order : List String)
    (s : SecretManager) (n x : String) :
    (s.unwatchAll a node order).1.Watches n x ↔ s.Watches n x ∧ n ≠ node := by
  unfold unwatchAll
  split_ifs with hn
  · have hm := (removeCertificates_maps a (unwatchAllNames node order [] s).2 0
      { (unwatchAllNames node order [] s).1 with
        watchers := (unwatchAllNames node order [] s).1.watchers.erase node }).1
    unfold Watches
    rw [hm, (unwatchAllNames_spec node n x order [] s).1, GoMap.lookup_erase_ite]
    by_cases h : n = node <;> simp [h]
  · constructor
    · exact fun h => ⟨h, fun hx => hn (hx ▸ h.mem_watchers)⟩
    · exact fun h => h.1

theorem references_unwatchAll (a : Answers) (node : String) (order : List String)
    (s : SecretManager) (n x : String) :
    (s.unwatchAll a node order).1.References n x ↔
      s.References n x ∧ ¬ (node ∈ s.watchers ∧ n = node ∧ x ∈ order) := by
  unfold unwatchAll
  split_ifs with hn
  · have hm := (removeCertificates_maps a (unwatchAllNames node order [] s).2 0
      { (unwatchAllNames node order [] s).1 with
        watchers := (unwatchAllNames node order [] s).1.watchers.erase node }).2
    have hr := (unwatchAllNames_spec node n x order [] s).2
    unfold References at hr ⊢
    rw [hm, hr]
    simp [hn]
  · simp [hn]

/-! ### The branches of `watch` and `SetResourcesForNode` -/

theorem watch_of_error {err : String}
    (h : watchNames a node names [] (s.initWatcher node) = (s', .error err)) :
    s.watch a names node = (s', some err) := by
  rcases hl : watchNamesLogged a node names [] (s.initWatcher node) with ⟨r, fetched⟩
  obtain rfl : r = (s', .error err) := by rw [← h, watchNames, hl]
  rw [watch, watchLogged, hl]

theorem watch_of_ok {certs : List TlsSecret}
    (h : watchNames a node names [] (s.initWatcher node) = (s', .ok certs)) :
    s.watch a names node = updateCertificates a 0 certs s' := by
  rcases hl : watchNamesLogged a node names [] (s.initWatcher node) with ⟨r, fetched⟩
  obtain rfl : r = (s', .ok certs) := by rw [← h, watchNames, hl]
  rw [watch, watchLogged, hl]

theorem setResourcesForNode_of_none (hw : s.watchers.lookup node = none) (a : Answers)
    (names order : List String) :
    s.setResourcesForNode a names node order = s.watch a names node := by
  rw [setResourcesForNode, setResourcesForNodeLogged, hw, watch]

theorem setResourcesForNode_of_error {err : String} {watcher : Finset String}
    (hw : s.watchers.lookup node = some watcher)
    (h : s.watch a (names.filter (· ∉ watcher)) node = (s', some err)) (order : List String) :
    s.setResourcesForNode a names node order = (s', some err) := by
  rw [setResourcesForNode, setResourcesForNodeLogged, hw]
  rcases hl : s.watchLogged a (names.filter (· ∉ watcher)) node with ⟨r, fetched⟩
  obtain rfl : r = (s', some err) := by rw [← h, watch, hl]
  simp only [hl]

theorem setResourcesForNode_of_ok {watcher : Finset String}
    (hw : s.watchers.lookup node = some watcher)
    (h : s.watch a (names.filter (· ∉ watcher)) node = (s', none)) (order : List String) :
    s.setResourcesForNode a names node order =
      s'.unwatch a (order.filter (· ∉ names.filter (· ∈ watcher))) node := by
  rw [setResourcesForNode, setResourcesForNodeLogged, hw]
  rcases hl : s.watchLogged a (names.filter (· ∉ watcher)) node with ⟨r, fetched⟩
  obtain rfl : r = (s', none) := by rw [← h, watch, hl]
  simp only [hl]

/-- What `watch` does and `unwatch` keeps is what the call for all names of a node
does. -/
theorem setResourcesForNode_elim {P : SecretManager × Option String → Prop}
    (hwatch : ∀ names, P (s.watch a names node))
    (hunwatch : ∀ s' names, P (s', none) → P (s'.unwatch a names node))
    (names order : List String) : P (s.setResourcesForNode a names node order) := by
  cases hw : s.watchers.lookup node with
  | none =>
    rw [setResourcesForNode_of_none hw]
    exact hwatch names
  | some watcher =>
    have hnew := hwatch (names.filter (· ∉ watcher))
    rcases h : s.watch a (names.filter (· ∉ watcher)) node with ⟨s', _ | err⟩
    · rw [h] at hnew
      rw [setResourcesForNode_of_ok hw h]
      exact hunwatch s' _ hnew
    · rw [h] at hnew
      rwa [setResourcesForNode_of_error hw h]

/-! ### Refreshing changes neither side of a watch -/

theorem refresh_spec (a : Answers) (force : Bool) (now : ℤ) (i : ℕ) (name n x : String)
    (s : SecretManager) :
    (s.refresh a force now i name).watchers = s.watchers ∧
      ((s.refresh a force now i name).References n x ↔ s.References n x) := by
  unfold refresh
  split
  · exact ⟨rfl, Iff.rfl⟩
  · rename_i entry he
    split
    · split
      · exact ⟨rfl, Iff.rfl⟩
      · split
        · exact ⟨rfl, Iff.rfl⟩
        · refine ⟨rfl, ?_⟩
          rw [references_setEntry]
          split_ifs with hx
          · subst hx
            exact (references_iff_of_lookup he n).symm
          · exact Iff.rfl
    · exact ⟨rfl, Iff.rfl⟩

theorem mem_registry_refresh (a : Answers) (force : Bool) (now : ℤ) (i : ℕ) (name x : String)
    (s : SecretManager) : x ∈ (s.refresh a force now i name).registry ↔ x ∈ s.registry := by
  unfold refresh
  split
  · exact Iff.rfl
  · rename_i entry he
    have hmem : name ∈ s.registry := Finmap.mem_of_lookup_eq_some he
    split
    · split
      · exact Iff.rfl
      · split
        · exact Iff.rfl
        · rw [mem_registry_setEntry]
          exact or_iff_right_of_imp fun h => h ▸ hmem
    · exact Iff.rfl

theorem manage_spec (a : Answers) (force : Bool) (now : ℤ) (n x : String)
    (order : List String) : ∀ (i : ℕ) (s : SecretManager),
      ((manage a force now i order s).Watches n x ↔ s.Watches n x) ∧
      ((manage a force now i order s).References n x ↔ s.References n x) := by
  induction order with
  | nil => exact fun i s => ⟨Iff.rfl, Iff.rfl⟩
  | cons name order ih =>
    intro i s
    obtain ⟨hw, hr⟩ := ih (i + 1) (s.refresh a force now i name)
    obtain ⟨hw', hr'⟩ := refresh_spec a force now i name n x s
    rw [manage]
    refine ⟨hw.trans ?_, hr.trans hr'⟩
    unfold Watches
    rw [hw']

end SecretManager

end Envoy
