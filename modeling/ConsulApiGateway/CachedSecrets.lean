/-
Registered certificates and the cache Envoy is served from, over whole runs of
the secret manager with its clients.

The manager registers a certificate as soon as it is fetched and pushes it into
the cache when the whole request has been fetched, under the name the
certificate carries.  So two things take the cache out of step with the
registry: a fetch that fails after another one of the same request has
succeeded, and a certificate of the KV client, which carries no name.

* `watch_cases_cached` — what a call of `watch` leaves, by whether it does either;
* `cacheKeys_step_iff` — one call keeps the two in step exactly if it does neither
  (`Pushes`);
* `cacheKeys_run_iff` — every run, from a fresh manager;
* `partialFetch_and_kv_uncached` — the two shortest runs that do.
-/
import ConsulApiGateway.SecretCache
import ConsulApiGateway.SecretClients

namespace Envoy

open SecretClients (UsesKV)

/-- The secrets are fetched by the clients of the server, each from backends that
may answer or fail as they like, and the cache takes what it is given. -/
structure Answers.FromClients (a : Answers) : Prop where
  fetchSecret : ∀ name, ∃ env, a.fetchSecret name = SecretClients.fetchSecret env name
  updateResource : ∀ i, a.updateResource i = none
  deleteResource : ∀ i, a.deleteResource i = none

theorem Answers.FromClients.name {a : Answers} (ha : a.FromClients) {name : String}
    {cert : TlsSecret} (h : a.Yields name cert) : cert.name = if UsesKV name then "" else name := by
  obtain ⟨expires, h⟩ := h
  obtain ⟨env, henv⟩ := ha.fetchSecret name
  exact SecretClients.fetchSecret_name (henv.symm.trans h)

theorem Answers.FromClients.namesAs {a : Answers} (ha : a.FromClients) {name : String}
    (hkv : ¬ UsesKV name) : a.NamesAs name := by
  intro cert h
  rw [ha.name h, if_neg hkv]

namespace SecretManager

variable {a : Answers} {s s' : SecretManager} {node : String}

/-- No certificate of the KV client is registered. -/
def NoKV (s : SecretManager) : Prop := ∀ name ∈ s.registry, ¬ UsesKV name

/-- What a request for the names fetches is pushed as it is registered: either the
first fetch fails, or none does and none is of the KV client. -/
def Pushes (s : SecretManager) (a : Answers) (names : List String) : Prop :=
  (∀ x ∈ names, x ∉ s.registry → (∃ fetched, a.fetchSecret x = .ok fetched) ∧ ¬ UsesKV x) ∨
    ∃ x err, (names.filter (· ∉ s.registry)).head? = some x ∧ a.fetchSecret x = .error err

/-- The same of a call. -/
def CallPushes (s : SecretManager) (c : Call) : Prop :=
  match c.op with
  | .watch names _ => s.Pushes c.answers names
  | .setResourcesForNode names node _ =>
    s.Pushes c.answers (names.filter (· ∉ (s.watchers.lookup node).getD ∅))
  | _ => True

/-! ### One call of `watch` -/

/-- The first name that is not registered is the first to be fetched. -/
theorem head_watchNamesLogged (a : Answers) (node : String) (names : List String) :
    ∀ (certs : List TlsSecret) (s : SecretManager),
      (watchNamesLogged a node names certs s).2.head? =
        (names.filter (· ∉ s.registry)).head? := by
  induction names with
  | nil => exact fun certs s => rfl
  | cons name names ih =>
    intro certs s
    rw [watchNamesLogged, List.filter_cons]
    cases he : s.registry.lookup name with
    | some entry =>
      have hmem : name ∈ s.registry := Finmap.mem_of_lookup_eq_some he
      have hreg := mem_registry_addRef (s := s.addWatch node name) he (insert node entry.refs)
      simp only [registry_addWatch, he, ih, hreg, hmem, not_true_eq_false, decide_false,
        Bool.false_eq_true, if_false]
    | none =>
      have hmem : name ∉ s.registry := Finmap.lookup_eq_none.mp he
      simp only [registry_addWatch, he, hmem, not_false_eq_true, decide_true, if_true,
        List.head?_cons]
      rcases a.fetchSecret name with err | ⟨cert, expires⟩
      · rfl
      · rfl

/-- A fetch that fails after others have succeeded leaves them registered and not
pushed. -/
theorem watch_cases_of_error (hs : s.Cached) {names log : List String} {err : String}
    (hl : watchNamesLogged a node names [] (s.initWatcher node) = ((s', .error err), log)) :
    (s.Pushes a names ∧ s'.Cached ∧ ∀ x ∈ s'.registry, x ∈ s.registry) ∨
    (¬ s.Pushes a names ∧ ∃ x ∈ names, x ∈ s'.registry ∧ x ∉ s'.cache) := by
  have hhead := head_watchNamesLogged a node names [] (s.initWatcher node)
  obtain ⟨done, bad, rfl, hbad, hdone, hlog, hr, hc⟩ := watchNamesLogged_error hl
  rw [hl] at hhead
  simp only [registry_initWatcher, cache_initWatcher] at hlog hr hc hhead
  cases done with
  | nil =>
    left
    have hr' : ∀ x, x ∈ s'.registry ↔ x ∈ s.registry := by simpa using hr
    refine ⟨.inr ⟨bad, err, hhead.symm, hbad⟩, fun x => ?_, fun x => (hr' x).mp⟩
    rw [hc, hs, hr']
  | cons first done =>
    right
    obtain ⟨cert, expires, hfirst⟩ := hdone first List.mem_cons_self
    obtain ⟨hin, hout⟩ := hlog first List.mem_cons_self
    refine ⟨?_, first, hin, (hr first).mpr (.inr List.mem_cons_self), ?_⟩
    · rintro (hall | ⟨x, err', hx, herr⟩)
      · obtain ⟨hbadin, hbadout⟩ := hlog bad (by simp)
        obtain ⟨⟨fetched, hok⟩, -⟩ := hall bad hbadin hbadout
        rw [hbad] at hok
        cases hok
      · rw [← hhead] at hx
        cases hx
        rw [hfirst] at herr
        cases herr
    · rwa [hc, hs]

/-- When all is fetched, a certificate of the KV client is pushed under the empty
name. -/
theorem watch_cases_of_ok (hs : s.Cached) (ha : a.FromClients) {names log : List String}
    {certs : List TlsSecret}
    (hl : watchNamesLogged a node names [] (s.initWatcher node) = ((s', .ok certs), log)) :
    (s.Pushes a names ∧ (s.watch a names node).1.Cached ∧
      ∀ x ∈ (s.watch a names node).1.registry, x ∈ s.registry ∨ ¬ UsesKV x) ∨
    (¬ s.Pushes a names ∧ ∃ x ∈ names, x ∈ (s.watch a names node).1.registry ∧
      x ∉ (s.watch a names node).1.cache) := by
  have hwatch := watch_of_ok (congrArg Prod.fst hl)
  have hok := updateCertificates_succeed ha.updateResource certs 0 s'
  obtain ⟨-, hlog, hr, hc, new, hnew, hall⟩ := watchNamesLogged_ok hl
  rw [List.nil_append] at hnew
  subst hnew
  simp only [registry_initWatcher, cache_initWatcher] at hlog hr hc
  have hfetched : ∀ x ∈ names, x ∉ s.registry → ∃ fetched, a.fetchSecret x = .ok fetched := by
    intro x hx hreg
    obtain ⟨cert, -, expires, h⟩ := hall.exists_right ((hlog x).mpr ⟨hx, hreg⟩)
    exact ⟨_, h⟩
  have hreg : ∀ x, x ∈ (s.watch a names node).1.registry ↔ x ∈ s.registry ∨ x ∈ names := by
    intro x
    rw [hwatch, (updateCertificates_maps a certs 0 s').2, hr]
  by_cases hkv : ∀ x ∈ names, x ∉ s.registry → ¬ UsesKV x
  · left
    refine ⟨.inl fun x hx hout => ⟨hfetched x hx hout, hkv x hx hout⟩, ?_, fun x hx => ?_⟩
    · refine hs.watch (fun x hx hout => ha.namesAs (hkv x hx hout)) ?_
      rw [hwatch, hok]
    · by_cases hout : x ∈ s.registry
      · exact .inl hout
      · exact .inr (hkv x (((hreg x).mp hx).resolve_left hout) hout)
  · right
    push Not at hkv
    obtain ⟨x, hx, hout, hxkv⟩ := hkv
    refine ⟨?_, x, hx, (hreg x).mpr (.inr hx), ?_⟩
    · rintro (hall | ⟨y, err, hy, herr⟩)
      · exact (hall x hx hout).2 hxkv
      · obtain ⟨hin, hyout⟩ := List.mem_filter.mp (List.mem_of_mem_head? hy)
        obtain ⟨fetched, h⟩ := hfetched y hin (of_decide_eq_true hyout)
        rw [herr] at h
        cases h
    · rw [hwatch, mem_cache_updateCertificates certs x 0 s' hok, hc, hs]
      rintro (h | ⟨cert, hcert, hname⟩)
      · exact hout h
      -- the name in the cache is that of another client's certificate, or empty
      · obtain ⟨y, -, hy⟩ := hall.exists_left hcert
        rw [ha.name hy] at hname
        split_ifs at hname with hykv
        · exact SecretClients.not_usesKV_empty (hname ▸ hxkv)
        · exact hykv (hname ▸ hxkv)

/-- A call of `watch` that pushes what it registers keeps the cache in step; one
that does not registers a name that is not in the cache. -/
theorem watch_cases_cached (hs : s.Cached) (ha : a.FromClients) (names : List String)
    (node : String) :
    (s.Pushes a names ∧ (s.watch a names node).1.Cached ∧
      ∀ x ∈ (s.watch a names node).1.registry, x ∈ s.registry ∨ ¬ UsesKV x) ∨
    (¬ s.Pushes a names ∧ ∃ x ∈ names, x ∈ (s.watch a names node).1.registry ∧
      x ∉ (s.watch a names node).1.cache) := by
  rcases hl : watchNamesLogged a node names [] (s.initWatcher node) with ⟨⟨s', err | certs⟩, log⟩
  · rw [watch_of_error (congrArg Prod.fst hl)]
    refine (watch_cases_of_error hs hl).imp_left ?_
    rintro ⟨hp, hc, hr⟩
    exact ⟨hp, hc, fun x hx => .inl (hr x hx)⟩
  · exact watch_cases_of_ok hs ha hl

/-! ### One call -/

/-- A request for names: what it newly watches decides, and dropping the names that
are not asked for any more mends nothing. -/
theorem setResources_cases_cached (hs : s.Cached) (ha : a.FromClients) {names order : List String}
    (ho : s.Orders (.setResourcesForNode names node order)) :
    (s.Pushes a (names.filter (· ∉ (s.watchers.lookup node).getD ∅)) ∧
      (s.setResourcesForNode a names node order).1.Cached ∧
      ∀ x ∈ (s.setResourcesForNode a names node order).1.registry,
        x ∈ s.registry ∨ ¬ UsesKV x) ∨
    (¬ s.Pushes a (names.filter (· ∉ (s.watchers.lookup node).getD ∅)) ∧
      ∃ x ∈ (s.setResourcesForNode a names node order).1.registry,
        x ∉ (s.setResourcesForNode a names node order).1.cache) := by
  cases hw : s.watchers.lookup node with
  | none =>
    have hall : names.filter (· ∉ (none : Option (Finset String)).getD ∅) = names := by simp
    rw [setResourcesForNode_of_none hw, hall]
    refine (watch_cases_cached hs ha names node).imp_right ?_
    rintro ⟨hp, x, -, hx, hout⟩
    exact ⟨hp, x, hx, hout⟩
  | some watcher =>
    rw [Option.getD_some]
    have hcases := watch_cases_cached hs ha (names.filter (· ∉ watcher)) node
    rcases h : s.watch a (names.filter (· ∉ watcher)) node with ⟨s₁, _ | err⟩
    · rw [setResourcesForNode_of_ok hw h]
      have hun := unwatch_succeed (s := s₁) ha.deleteResource
        (order.filter (· ∉ names.filter (· ∈ watcher))) node
      have hdrops := drops_unwatch a (order.filter (· ∉ names.filter (· ∈ watcher))) node s₁
      have hexact := watch_exact (congrArg Prod.snd h)
      rw [h] at hcases hexact
      refine hcases.imp ?_ ?_
      · rintro ⟨hp, hc, hr⟩
        exact ⟨hp, hdrops.cached hc hun, fun x hx => hr x (hdrops.mem_registry hx)⟩
      · rintro ⟨hp, x, hx, -, hout⟩
        refine ⟨hp, x, ?_, fun hc => hout ((hdrops.mem_cache_iff hun x).mp hc).1⟩
        -- a newly watched name is not among those to drop
        have href : s₁.References node x := (hexact node x).2.mpr (.inr ⟨rfl, hx⟩)
        refine ((references_unwatch a _ node s₁ node x).mpr ⟨href, ?_⟩).mem_registry
        rintro ⟨-, -, hdrop⟩
        have hxo : x ∈ watcher := (ho watcher hw).mem_iff.mp (List.mem_filter.mp hdrop).1
        exact of_decide_eq_true (List.mem_filter.mp hx).2 hxo
    · rw [setResourcesForNode_of_error hw h]
      rw [h] at hcases
      refine hcases.imp_right ?_
      rintro ⟨hp, x, -, hx, hout⟩
      exact ⟨hp, x, hx, hout⟩

/-- A call of the manager with the clients of the server. -/
def ClientStep (s : SecretManager) (c : Call) (s' : SecretManager) : Prop :=
  s.Step c s' ∧ c.answers.FromClients

theorem cached_call_cases {c : Call} (hs : s.Cached) (hkv : s.NoKV) (h : s.ClientStep c s') :
    (s.CallPushes c ∧ s'.Cached ∧ s'.NoKV) ∨ (¬ s.CallPushes c ∧ ¬ s'.Cached) := by
  obtain ⟨⟨ho, rfl⟩, ha⟩ := h
  obtain ⟨op, a⟩ := c
  cases op with
  | watch names node =>
    rcases watch_cases_cached hs ha names node with ⟨hp, hc, hr⟩ | ⟨hp, x, -, hx, hout⟩
    · exact .inl ⟨hp, hc, fun x hx => (hr x hx).elim (hkv x) id⟩
    · exact .inr ⟨hp, fun hc => hout ((hc x).mpr hx)⟩
  | unwatch names node =>
    have hdrops := drops_unwatch a names node s
    refine .inl ⟨trivial, hdrops.cached hs (unwatch_succeed ha.deleteResource names node), ?_⟩
    exact fun x hx => hkv x (hdrops.mem_registry hx)
  | unwatchAll node order =>
    have hdrops := drops_unwatchAll a node order s
    refine .inl ⟨trivial, hdrops.cached hs (unwatchAll_succeed ha.deleteResource node order), ?_⟩
    exact fun x hx => hkv x (hdrops.mem_registry hx)
  | setResourcesForNode names node order =>
    rcases setResources_cases_cached hs ha ho with ⟨hp, hc, hr⟩ | ⟨hp, x, hx, hout⟩
    · exact .inl ⟨hp, hc, fun x hx => (hr x hx).elim (hkv x) id⟩
    · exact .inr ⟨hp, fun hc => hout ((hc x).mpr hx)⟩
  | manage force now order =>
    refine .inl ⟨trivial, ?_, fun x hx => ?_⟩
    · exact Cached.manage force now order 0 s hs fun x hx => ha.namesAs (hkv x hx)
    · exact hkv x ((mem_registry_manage a force now x order 0 s).mp hx)

/-! ### Whole runs -/

/-- The names in the cache are those of the registry. -/
def CacheKeys (s : SecretManager) : Prop := s.cache.keys = s.registry.keys

theorem cacheKeys_iff (s : SecretManager) : s.CacheKeys ↔ s.Cached := by
  simp only [CacheKeys, Cached, Finset.ext_iff, Finmap.mem_keys]

theorem cacheKeys_step_iff {c : Call} (hI : s.Cached ∧ s.NoKV) (h : s.ClientStep c s') :
    s'.CacheKeys ↔ s.CallPushes c := by
  rw [cacheKeys_iff]
  rcases cached_call_cases hI.1 hI.2 h with ⟨hp, hc, -⟩ | ⟨hp, hc⟩
  · exact iff_of_true hc hp
  · exact iff_of_false hc hp

/-- **The cache holds what the registry holds exactly as long as every request
pushes what it registers**: none of its fetches fails after another has
succeeded, and none of its certificates comes from the KV store. -/
theorem cacheKeys_run_iff {r : List (Call × SecretManager)}
    (hr : Run ClientStep SecretManager.new r) :
    Always (fun _ _ s' => s'.CacheKeys) SecretManager.new r ↔
      Always (fun s c _ => s.CallPushes c) SecretManager.new r := by
  refine hr.always_iff (I := fun s => s.Cached ∧ s.NoKV) ?_ cacheKeys_step_iff ?_
  · exact ⟨fun _ => Iff.rfl, fun name h => absurd h Finmap.notMem_empty⟩
  · intro s c s' hI h hp
    rcases cached_call_cases hI.1 hI.2 h with ⟨-, hc⟩ | ⟨hnp, -⟩
    · exact hc
    · exact absurd hp hnp

/-- Backends with one Kubernetes secret, one KV secret and no PKI engine. -/
def oneOfEach : SecretClients.Backends where
  urlError _ _ := "parse error"
  getSecret ref :=
    if ref.name = GoStd.bytes "one" then
      .ok ⟨"kubernetes.io/tls", ((∅ : GoMap _ _).insert "tls.crt" "cert").insert "tls.key" "key"⟩
    else .error "not found"
  kvGet _ := .ok (((∅ : GoMap _ _).insert (GoStd.bytes "crt") (some "cert")).insert
    (GoStd.bytes "key") (some "key"))
  issue _ _ := .error "sealed"
  pkiPath := "pki"
  pkiIssue := "gateway"
  pemDecode := some
  parseCertificate _ := .ok 3600
  decodeBase64 := some

/-- The first request of a node, served from these backends. -/
def firstRequest (names : List String) : Call :=
  ⟨.setResourcesForNode names "node" [],
    SecretClients.fetchSecret oneOfEach, fun _ => none, fun _ => none⟩

theorem firstRequest_run (names : List String) :
    Run ClientStep SecretManager.new
      [(firstRequest names, (SecretManager.new.exec (firstRequest names)).1)] := by
  refine Run.cons ⟨⟨?_, rfl⟩, fun name => ⟨oneOfEach, rfl⟩, fun _ => rfl, fun _ => rfl⟩ (Run.nil _)
  intro watcher hw
  simp [SecretManager.new] at hw

/-- Two secrets of which the second does not exist, and a KV secret. -/
def pairRequest : Call := firstRequest ["k8s:///default/one", "k8s:///default/two"]

def kvRequest : Call :=
  firstRequest ["vault+kv:///web?tlsCertField=crt&tlsPrivateKeyField=key"]

/-- **Two requests after which the cache does not hold what is registered.**  After
the first the secret that was found is registered, and nothing was pushed; after
the second the secret is in the cache under the empty name. -/
theorem partialFetch_and_kv_uncached :
    (Run ClientStep SecretManager.new [(pairRequest, (SecretManager.new.exec pairRequest).1)] ∧
      (SecretManager.new.exec pairRequest).1.registry.keys = {"k8s:///default/one"} ∧
      (SecretManager.new.exec pairRequest).1.cache.keys = ∅) ∧
    (Run ClientStep SecretManager.new [(kvRequest, (SecretManager.new.exec kvRequest).1)] ∧
      (SecretManager.new.exec kvRequest).1.registry.keys =
        {"vault+kv:///web?tlsCertField=crt&tlsPrivateKeyField=key"} ∧
      (SecretManager.new.exec kvRequest).1.cache.keys = {""}) ∧
    ¬ Always (fun _ _ s' => s'.CacheKeys) SecretManager.new
        [(pairRequest, (SecretManager.new.exec pairRequest).1)] ∧
    ¬ Always (fun _ _ s' => s'.CacheKeys) SecretManager.new
        [(kvRequest, (SecretManager.new.exec kvRequest).1)] := by
  have hpair : (SecretManager.new.exec pairRequest).1.registry.keys = {"k8s:///default/one"} ∧
      (SecretManager.new.exec pairRequest).1.cache.keys = ∅ := by decide +kernel
  have hkv : (SecretManager.new.exec kvRequest).1.registry.keys =
        {"vault+kv:///web?tlsCertField=crt&tlsPrivateKeyField=key"} ∧
      (SecretManager.new.exec kvRequest).1.cache.keys = {""} := by decide +kernel
  refine ⟨⟨firstRequest_run _, hpair⟩, ⟨firstRequest_run _, hkv⟩, ?_, ?_⟩
  · rintro ⟨h, -⟩
    rw [CacheKeys, hpair.1, hpair.2] at h
    exact Finset.singleton_ne_empty _ h.symm
  · rintro ⟨h, -⟩
    rw [CacheKeys, hkv.1, hkv.2] at h
    exact absurd (Finset.singleton_inj.mp h) (by decide)

/-- The request for the secret that exists keeps the cache in step. -/
theorem cacheKeys_run_one :
    Run ClientStep SecretManager.new [(firstRequest ["k8s:///default/one"],
      (SecretManager.new.exec (firstRequest ["k8s:///default/one"])).1)] ∧
    Always (fun _ _ s' => s'.CacheKeys) SecretManager.new
      [(firstRequest ["k8s:///default/one"],
        (SecretManager.new.exec (firstRequest ["k8s:///default/one"])).1)] := by
  have hr := firstRequest_run ["k8s:///default/one"]
  refine ⟨hr, (cacheKeys_run_iff hr).mpr ⟨.inl fun x hx _ => ?_, trivial⟩⟩
  have hx' : x = "k8s:///default/one" := List.mem_singleton.mp (List.mem_filter.mp hx).1
  subst hx'
  have hfetch : SecretClients.fetchSecret oneOfEach "k8s:///default/one" =
      .ok (⟨"k8s:///default/one", "certkey"⟩, 3600) := by decide +kernel
  exact ⟨⟨_, hfetch⟩, by decide +kernel⟩

end SecretManager

end Envoy
