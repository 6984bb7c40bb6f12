/-
Adding the gateway to an intention while others write to Consul.

Consul gives every write a new index, and a check-and-set is applied only if the
intention still has the index that was read, or still does not exist.  Before
each call of the reconciler other clients may write what they like; a call may
fail, and a write that fails may have been applied nevertheless (`Turn`).  What
the calls of the reconciler found and did is kept in a log.

* `Read.writes` — an intention that still has the index it was read with still
  has the sources it was read with;
* `updateIntention_accesses` — one attempt;
* `addSource_lossless` — an update only ever appends the gateway to an intention
  without it, does so once unless it was not told, and returns without an error
  only if the gateway is there at its last access.
-/
import ConsulApiGateway.IntentionSync

namespace Consul

/-! ### Consul with indices -/

/-- The sources of an intention and the index of the write that set them. -/
structure Versioned where
  sources : List SourceIntention
  modifyIndex : ℕ

/-- The intentions in Consul and the index of the last write. -/
structure ConsulState where
  entries : GoMap CompoundServiceName Versioned
  lastIndex : ℕ
  indexed : ∀ name v, entries.lookup name = some v →
    0 < v.modifyIndex ∧ v.modifyIndex ≤ lastIndex

namespace ConsulState

/-- The sources of an intention; none if there is no such intention. -/
def sourcesOf (c : ConsulState) (name : CompoundServiceName) : List SourceIntention :=
  ((c.entries.lookup name).map Versioned.sources).getD []

/-- The index of an intention; zero if there is no such intention. -/
def modifyIndex (c : ConsulState) (name : CompoundServiceName) : ℕ :=
  ((c.entries.lookup name).map Versioned.modifyIndex).getD 0

def put (c : ConsulState) (name : CompoundServiceName) (sources : List SourceIntention) :
    ConsulState where
  entries := c.entries.insert name ⟨sources, c.lastIndex + 1⟩
  lastIndex := c.lastIndex + 1
  indexed k v h := by
    rw [GoMap.lookup_insert_ite] at h
    split_ifs at h
    · cases h
      exact ⟨Nat.succ_pos _, le_refl _⟩
    · exact ⟨(c.indexed k v h).1, Nat.le_succ_of_le (c.indexed k v h).2⟩

def delete (c : ConsulState) (name : CompoundServiceName) : ConsulState where
  entries := c.entries.erase name
  lastIndex := c.lastIndex + 1
  indexed k v h := by
    rw [GoMap.lookup_erase_ite] at h
    split_ifs at h
    exact ⟨(c.indexed k v h).1, Nat.le_succ_of_le (c.indexed k v h).2⟩

theorem sourcesOf_put (c : ConsulState) (name k : CompoundServiceName)
    (sources : List SourceIntention) :
    (c.put name sources).sourcesOf k = if k = name then sources else c.sourcesOf k := by
  unfold sourcesOf put
  rw [GoMap.lookup_insert_ite]
  split_ifs <;> rfl

theorem modifyIndex_put (c : ConsulState) (name k : CompoundServiceName)
    (sources : List SourceIntention) :
    (c.put name sources).modifyIndex k = if k = name then c.lastIndex + 1 else c.modifyIndex k := by
  unfold modifyIndex put
  rw [GoMap.lookup_insert_ite]
  split_ifs <;> rfl

theorem sourcesOf_delete (c : ConsulState) (name k : CompoundServiceName) :
    (c.delete name).sourcesOf k = if k = name then [] else c.sourcesOf k := by
  unfold sourcesOf delete
  rw [GoMap.lookup_erase_ite]
  split_ifs <;> rfl

theorem modifyIndex_delete (c : ConsulState) (name k : CompoundServiceName) :
    (c.delete name).modifyIndex k = if k = name then 0 else c.modifyIndex k := by
  unfold modifyIndex delete
  rw [GoMap.lookup_erase_ite]
  split_ifs <;> rfl

/-- An intention without an index does not exist. -/
theorem sourcesOf_eq_nil {c : ConsulState} {name : CompoundServiceName}
    (h : c.modifyIndex name = 0) : c.sourcesOf name = [] := by
  unfold modifyIndex at h
  unfold sourcesOf
  cases hv : c.entries.lookup name with
  | none => rfl
  | some v =>
    have hpos := (c.indexed name v hv).1
    rw [hv] at h
    exact absurd h hpos.ne'

end ConsulState

/-! ### What happens around the calls -/

/-- A write of another client. -/
inductive OtherWrite
  | put (name : CompoundServiceName) (sources : List SourceIntention)
  | delete (name : CompoundServiceName)

def OtherWrite.apply (c : ConsulState) : OtherWrite → ConsulState
  | .put name sources => c.put name sources
  | .delete name => c.delete name

/-- What a call of the reconciler meets: the writes before it, the error it gets,
and whether a write that gets an error is applied nevertheless. -/
structure Turn where
  writes : List OtherWrite
  error : Option String
  applied : Bool

/-- What a call found, and what it wrote. -/
inductive Access
  | read (c : ConsulState)
  | put (c : ConsulState) (name : CompoundServiceName) (sources : List SourceIntention)
      (answered : Bool)
  | delete (c : ConsulState) (name : CompoundServiceName) (answered : Bool)

namespace Access

/-- The state it left. -/
def after : Access → ConsulState
  | .read c => c
  | .put c name sources _ => c.put name sources
  | .delete c name _ => c.delete name

/-- The state it found. -/
def before : Access → ConsulState
  | .read c => c
  | .put c _ _ _ => c
  | .delete c _ _ => c

/-- It wrote something. -/
def isWrite : Access → Bool
  | .read _ => false
  | _ => true

/-- It wrote something, and its caller was not told. -/
def isLost : Access → Bool
  | .read _ => false
  | .put _ _ _ answered => ¬ answered
  | .delete _ _ answered => ¬ answered

end Access

/-- Consul with the calls of the reconciler so far. -/
structure Race where
  consul : ConsulState
  clock : ℕ
  log : List Access

namespace Race

variable (turns : ℕ → Turn)

/-- What the next call finds. -/
def meet (s : Race) : ConsulState := (turns s.clock).writes.foldl OtherWrite.apply s.consul

def record (s : Race) (a : Access) : Race := ⟨a.after, s.clock + 1, s.log ++ [a]⟩

/-- A write of the reconciler: it is applied if it is `allowed`. -/
def write (s : Race) (allowed : Bool) (access : ConsulState → Bool → Access) :
    Except String Bool × Race :=
  match (turns s.clock).error with
  | some err =>
    (.error err, s.record (if allowed ∧ (turns s.clock).applied then access (s.meet turns) false
      else .read (s.meet turns)))
  | none =>
    (.ok allowed, s.record (if allowed then access (s.meet turns) true else .read (s.meet turns)))

/-- The interface to it. -/
def client : ConfigEntriesClient Race where
  get name s :=
    let c := s.meet turns
    match (turns s.clock).error, c.entries.lookup name with
    | some err, _ => (.error err, s.record (.read c))
    | none, some v =>
      (.ok (⟨name.name, name.namespace_, v.sources⟩, v.modifyIndex), s.record (.read c))
    | none, none => (.error "Unexpected response code: 404", s.record (.read c))
  delete name s :=
    match s.write turns true (fun c answered => .delete c name answered) with
    | (.error err, s) => (some err, s)
    | (.ok _, s) => (none, s)
  cas entry idx s :=
    s.write turns ((s.meet turns).modifyIndex ⟨entry.name, entry.namespace_⟩ = idx)
      fun c answered => .put c ⟨entry.name, entry.namespace_⟩ entry.sources answered

end Race

/-! ### What was read is still there -/

/-- The intention was read with the sources and the index: as long as it has the
index it has the sources. -/
structure Read (name : CompoundServiceName) (idx : ℕ) (sources : List SourceIntention)
    (c : ConsulState) : Prop where
  same : c.modifyIndex name = idx → c.sourcesOf name = sources
  le : idx ≤ c.lastIndex
  absent : idx = 0 → sources = []

variable {name : CompoundServiceName} {idx : ℕ} {sources : List SourceIntention} {c : ConsulState}

theorem Read.write (h : Read name idx sources c) (w : OtherWrite) :
    Read name idx sources (w.apply c) := by
  cases w with
  | put k new =>
    refine ⟨fun hidx => ?_, Nat.le_succ_of_le h.le, h.absent⟩
    rw [OtherWrite.apply, ConsulState.modifyIndex_put] at hidx
    rw [OtherWrite.apply, ConsulState.sourcesOf_put]
    split_ifs at hidx ⊢ with hk
    · -- the index of the new write is larger than any that was read
      exact absurd (hidx ▸ h.le) (Nat.not_succ_le_self _)
    · exact h.same hidx
  | delete k =>
    refine ⟨fun hidx => ?_, Nat.le_succ_of_le h.le, h.absent⟩
    rw [OtherWrite.apply, ConsulState.modifyIndex_delete] at hidx
    rw [OtherWrite.apply, ConsulState.sourcesOf_delete]
    split_ifs at hidx ⊢ with hk
    · exact (h.absent hidx.symm).symm
    · exact h.same hidx

theorem Read.writes (h : Read name idx sources c) (ws : List OtherWrite) :
    Read name idx sources (ws.foldl OtherWrite.apply c) :=
  List.foldlRecOn ws OtherWrite.apply h fun _ h w _ => h.write w

/-- What a read hands on: the intention by its name, and of the sources that are
there none but those. -/
structure Found (c : ConsulState) (name : CompoundServiceName)
    (intention : ServiceIntentionsConfigEntry) (idx : ℕ) : Prop where
  named : (⟨intention.name, intention.namespace_⟩ : CompoundServiceName) = name
  read : Read name idx intention.sources c
  subset : intention.sources ⊆ c.sourcesOf name

/-- The intention that stands for one that does not exist. -/
theorem found_init (c : ConsulState) (name : CompoundServiceName) :
    Found c name { name := name.name, namespace_ := name.namespace_ } 0 where
  named := rfl
  read := ⟨ConsulState.sourcesOf_eq_nil, Nat.zero_le _, fun _ => rfl⟩
  subset := List.nil_subset _

theorem found_entry {v : Versioned} (hv : c.entries.lookup name = some v) :
    Found c name ⟨name.name, name.namespace_, v.sources⟩ v.modifyIndex := by
  have hsources : c.sourcesOf name = v.sources := by
    rw [ConsulState.sourcesOf, hv]
    rfl
  obtain ⟨hpos, hle⟩ := c.indexed name v hv
  exact ⟨rfl, ⟨fun _ => hsources, hle, fun h => absurd h hpos.ne'⟩, fun src hsrc => hsources ▸ hsrc⟩

/-! ### The calls -/

namespace Race

variable {turns : ℕ → Turn} {s : Race}

/-- A read returns what it found, or, with an error of that text, an intention
that does not exist. -/
theorem getOrInitIntention_race (turns : ℕ → Turn) (name : CompoundServiceName) (s : Race) :
    (getOrInitIntention (client turns) name s).2 = s.record (.read (s.meet turns)) ∧
      ∀ intention idx, (getOrInitIntention (client turns) name s).1 = .ok (intention, idx) →
        Found (s.meet turns) name intention idx := by
  unfold getOrInitIntention client
  dsimp only
  cases (turns s.clock).error with
  | some err =>
    dsimp only
    split_ifs
    · refine ⟨rfl, fun intention idx h => ?_⟩
      cases h
      exact found_init _ name
    · exact ⟨rfl, fun intention idx h => by cases h⟩
  | none =>
    cases hv : (s.meet turns).entries.lookup name with
    | none =>
      dsimp only
      split_ifs
      · refine ⟨rfl, fun intention idx h => ?_⟩
        cases h
        exact found_init _ name
      · exact ⟨rfl, fun intention idx h => by cases h⟩
    | some v =>
      refine ⟨rfl, fun intention idx h => ?_⟩
      cases h
      exact found_entry hv

/-- A check-and-set writes only with the index of the intention, and answers that
it did only if it did. -/
theorem cas_race (turns : ℕ → Turn) (entry : ServiceIntentionsConfigEntry) (idx : ℕ) (s : Race) :
    (((client turns).cas entry idx s).2 = s.record (.read (s.meet turns)) ∧
      ((client turns).cas entry idx s).1 ≠ .ok true) ∨
    ∃ answered, ((client turns).cas entry idx s).2 = s.record (.put (s.meet turns)
        ⟨entry.name, entry.namespace_⟩ entry.sources answered) ∧
      (s.meet turns).modifyIndex ⟨entry.name, entry.namespace_⟩ = idx ∧
      ((client turns).cas entry idx s).1 = (if answered then .ok true
        else .error ((turns s.clock).error.getD "")) ∧
      (answered = false → (turns s.clock).applied = true) := by
  unfold client write
  dsimp only
  by_cases hidx : (s.meet turns).modifyIndex ⟨entry.name, entry.namespace_⟩ = idx
  · cases herr : (turns s.clock).error with
    | some err =>
      cases happlied : (turns s.clock).applied with
      | true =>
        right
        exact ⟨false, by simp [hidx], hidx, by simp, fun _ => rfl⟩
      | false =>
        left
        simp
    | none =>
      right
      exact ⟨true, by simp [hidx], hidx, by simp [hidx], fun h => by cases h⟩
  · left
    cases herr : (turns s.clock).error with
    | some err => simp [hidx]
    | none => simp [hidx]

end Race

/-! ### Attempts -/

section Attempts

variable {turns : ℕ → Turn} {source : SourceIntention} {err : Option String} {acc : List Access}

/-- The access leaves every intention as it is, or appends the source to the
intention of that name, where none matched it. -/
def Access.Lossless (name : CompoundServiceName) (source : SourceIntention) : Access → Prop
  | .read _ => True
  | .put c k sources _ => k = name ∧ sources = c.sourcesOf name ++ [source] ∧
      ∀ src ∈ c.sourcesOf name, sourceIntentionMatches src source = false
  | .delete _ _ _ => False

/-- The accesses of some attempts, of which the last ended with `err`. -/
structure Attempts (turns : ℕ → Turn) (name : CompoundServiceName) (source : SourceIntention)
    (err : Option String) (acc : List Access) : Prop where
  lossless : ∀ a ∈ acc, a.Lossless name source
  /-- A write that was answered ends them. -/
  writes : acc.countP Access.isWrite ≤
    acc.countP Access.isLost + if err = none then 1 else 0
  lost : ∀ a ∈ acc, a.isLost = true → ∃ n, (turns n).applied = true
  present : err = none → ∃ a, acc.getLast? = some a ∧
    ∃ src ∈ a.after.sourcesOf name, sourceIntentionMatches src source = true

/-- Reads that end with an error. -/
theorem attempts_of_reads (h : ∀ a ∈ acc, ∃ c, a = .read c) (text : String) :
    Attempts turns name source (some text) acc where
  lossless a ha := by
    obtain ⟨c, rfl⟩ := h a ha
    trivial
  writes := by
    have hzero : acc.countP Access.isWrite = 0 := by
      rw [List.countP_eq_zero]
      intro a ha
      obtain ⟨c, rfl⟩ := h a ha
      simp [Access.isWrite]
    rw [hzero]
    exact Nat.zero_le _
  lost a ha hlost := by
    obtain ⟨c, rfl⟩ := h a ha
    cases hlost
  present hnone := by cases hnone

/-- An attempt that finds a matching source ends with it. -/
theorem attempts_of_found (h : ∃ src ∈ c.sourcesOf name, sourceIntentionMatches src source = true) :
    Attempts turns name source none [.read c] where
  lossless a ha := by
    cases List.mem_singleton.mp ha
    trivial
  writes := by simp [Access.isWrite]
  lost a ha hlost := by
    cases List.mem_singleton.mp ha
    cases hlost
  present _ := ⟨_, rfl, h⟩

/-- An attempt that writes, told so or not. -/
theorem attempts_of_put {c' : ConsulState} {answered : Bool}
    (hsources : c'.sourcesOf name = sources)
    (hnone : ∀ src ∈ sources, sourceIntentionMatches src source = false)
    (hlost : answered = false → ∃ n, (turns n).applied = true) (text : String) :
    Attempts turns name source (if answered then none else some text)
      [.read c, .put c' name (sources ++ [source]) answered] where
  lossless a ha := by
    rcases List.mem_cons.mp ha with rfl | ha
    · trivial
    · cases List.mem_singleton.mp ha
      exact ⟨rfl, by rw [hsources], by rwa [hsources]⟩
  writes := by cases answered <;> simp [Access.isWrite, Access.isLost]
  lost a ha h := by
    rcases List.mem_cons.mp ha with rfl | ha
    · cases h
    · cases List.mem_singleton.mp ha
      exact hlost (by simpa [Access.isLost] using h)
  present _ := by
    refine ⟨_, rfl, source, ?_, sourceIntentionMatches_iff.mpr ⟨rfl, rfl⟩⟩
    change source ∈ (c'.put name (sources ++ [source])).sourcesOf name
    rw [ConsulState.sourcesOf_put, if_pos rfl]
    simp

/-- An attempt that fails is followed by the next. -/
theorem Attempts.append {text : String} {acc' : List Access}
    (h : Attempts turns name source (some text) acc) (h' : Attempts turns name source err acc') :
    Attempts turns name source err (acc ++ acc') where
  lossless a ha := (List.mem_append.mp ha).elim (h.lossless a) (h'.lossless a)
  writes := by
    have h₁ := h.writes
    have h₂ := h'.writes
    rw [if_neg (Option.some_ne_none text)] at h₁
    rw [List.countP_append, List.countP_append]
    omega
  lost a ha := (List.mem_append.mp ha).elim (h.lost a) (h'.lost a)
  present hnone := by
    obtain ⟨a, hlast, hsrc⟩ := h'.present hnone
    exact ⟨a, by rw [List.getLast?_append, hlast]; rfl, hsrc⟩

/-- **One attempt** of adding the source. -/
theorem updateIntention_accesses (turns : ℕ → Turn) (name : CompoundServiceName)
    (source : SourceIntention) (s : Race) :
    ∃ acc, (updateIntention (Race.client turns) name (addSourceCB source) s).2.log = s.log ++ acc ∧
      Attempts turns name source
        (updateIntention (Race.client turns) name (addSourceCB source) s).1 acc := by
  obtain ⟨hstate, hfound⟩ := Race.getOrInitIntention_race turns name s
  unfold updateIntention
  rcases hget : getOrInitIntention (Race.client turns) name s with ⟨err | ⟨intention, idx⟩, s₁⟩
  · rw [hget] at hstate
    dsimp only at hstate
    subst hstate
    exact ⟨[.read (s.meet turns)], rfl, attempts_of_reads (by simp) err⟩
  · rw [hget] at hstate hfound
    dsimp only at hstate
    subst hstate
    have hfound := hfound intention idx rfl
    by_cases hany : intention.sources.any fun src => sourceIntentionMatches src source
    · have hupdate : addSourceCB source intention.sources = (intention.sources, false) :=
        if_pos hany
      simp only [hupdate]
      obtain ⟨src, hsrc, hmatch⟩ := List.any_eq_true.mp hany
      exact ⟨[.read (s.meet turns)], rfl, attempts_of_found ⟨src, hfound.subset hsrc, hmatch⟩⟩
    · have hupdate : addSourceCB source intention.sources = (intention.sources ++ [source], true) :=
        if_neg hany
      have hlength : (intention.sources ++ [source]).length ≠ 0 := by simp
      simp only [hupdate, if_neg hlength]
      have hnone : ∀ src ∈ intention.sources, sourceIntentionMatches src source = false := by
        simpa using hany
      have hcases := Race.cas_race turns { intention with sources := intention.sources ++ [source] }
        idx (s.record (.read (s.meet turns)))
      rcases hcas : (Race.client turns).cas
        { intention with sources := intention.sources ++ [source] } idx
        (s.record (.read (s.meet turns))) with ⟨result, s₂⟩
      rw [hcas] at hcases
      dsimp only at hcases
      rw [hfound.named] at hcases
      rcases hcases with ⟨rfl, hresult⟩ | ⟨answered, rfl, hidx, rfl, hlost⟩
      · rcases result with err | ⟨_ | _⟩
        · exact ⟨_, List.append_assoc _ _ _, attempts_of_reads (by simp) err⟩
        · exact ⟨_, List.append_assoc _ _ _, attempts_of_reads (by simp) _⟩
        · exact absurd rfl hresult
      · -- the index is still the one that was read, so nobody has written in between
        have hsame := (hfound.read.writes _).same hidx
        have hput := attempts_of_put (c := s.meet turns) hsame hnone fun h => ⟨_, hlost h⟩
        cases answered with
        | true => exact ⟨_, List.append_assoc _ _ _, hput ""⟩
        | false => exact ⟨_, List.append_assoc _ _ _, hput _⟩

/-- A retry tries until an attempt succeeds. -/
theorem retry_accesses (turns : ℕ → Turn) (name : CompoundServiceName) (source : SourceIntention)
    (n : ℕ) : ∀ s : Race, ∃ acc,
      (retry (updateIntention (Race.client turns) name (addSourceCB source)) n s).2.log =
        s.log ++ acc ∧
      Attempts turns name source
        (retry (updateIntention (Race.client turns) name (addSourceCB source)) n s).1 acc := by
  induction n with
  | zero => exact updateIntention_accesses turns name source
  | succ n ih =>
    intro s
    obtain ⟨acc, hlog, hattempt⟩ := updateIntention_accesses turns name source s
    rw [retry]
    rcases h : updateIntention (Race.client turns) name (addSourceCB source) s with ⟨_ | text, s₁⟩
    · rw [h] at hlog hattempt
      exact ⟨acc, hlog, hattempt⟩
    · rw [h] at hlog hattempt
      obtain ⟨acc', hlog', hrest⟩ := ih s₁
      refine ⟨acc ++ acc', ?_, hattempt.append hrest⟩
      dsimp only at hlog ⊢
      rw [hlog', hlog, List.append_assoc]

theorem Access.Lossless.sourcesOf {a : Access} (h : a.Lossless name source)
    (k : CompoundServiceName) :
    a.after.sourcesOf k = a.before.sourcesOf k ∨
      k = name ∧ a.after.sourcesOf k = a.before.sourcesOf k ++ [source] ∧
        ∀ src ∈ a.before.sourcesOf k, sourceIntentionMatches src source = false := by
  cases a with
  | read c => exact .inl rfl
  | put c k' sources answered =>
    obtain ⟨rfl, rfl, hnone⟩ := h
    change (c.put k' _).sourcesOf k = c.sourcesOf k ∨
      k = k' ∧ (c.put k' _).sourcesOf k = c.sourcesOf k ++ [source] ∧
        ∀ src ∈ c.sourcesOf k, sourceIntentionMatches src source = false
    rw [ConsulState.sourcesOf_put]
    by_cases hk : k = k'
    · subst hk
      exact .inr ⟨rfl, if_pos rfl, hnone⟩
    · exact .inl (if_neg hk)
  | delete c k' answered => cases h

/-- **Adding the gateway loses nothing.**  Whatever other clients write between its
calls and whichever of them fail, each access of the update leaves all sources
there are, and adds nothing but the gateway to an intention that does not have
it; it adds the gateway once, apart from writes that were applied and reported
as failed; and if it returns without an error, the intention has the gateway at
its last access. -/
theorem addSource_lossless (turns : ℕ → Turn) (gatewayName : CompoundServiceName) (now : String)
    (target : CompoundServiceName) (s : Race) :
    ∃ acc,
      (updateIntentionSources (Race.client turns) target
        (addSourceCB (sourceIntention gatewayName now)) s).2.log = s.log ++ acc ∧
      (∀ a ∈ acc, ∀ k, a.after.sourcesOf k = a.before.sourcesOf k ∨
        k = intentionName target ∧
          a.after.sourcesOf k = a.before.sourcesOf k ++ [sourceIntention gatewayName now] ∧
          ∀ src ∈ a.before.sourcesOf k, MatchesGateway gatewayName src = false) ∧
      acc.countP Access.isWrite ≤ acc.countP Access.isLost + 1 ∧
      ((∀ n, (turns n).applied = false) → acc.countP Access.isWrite ≤ 1) ∧
      ((updateIntentionSources (Race.client turns) target
          (addSourceCB (sourceIntention gatewayName now)) s).1 = none →
        ∃ a, acc.getLast? = some a ∧ ∃ src ∈ a.after.sourcesOf (intentionName target),
          MatchesGateway gatewayName src = true) := by
  obtain ⟨acc, hlog, hattempts⟩ := retry_accesses turns (intentionName target)
    (sourceIntention gatewayName now) updateIntentionsMaxRetries s
  have hwrites : acc.countP Access.isWrite ≤ acc.countP Access.isLost + 1 := by
    have h := hattempts.writes
    split_ifs at h
    · exact h
    · exact Nat.le_succ_of_le h
  refine ⟨acc, hlog, fun a ha k => (hattempts.lossless a ha).sourcesOf k, hwrites,
    fun happlied => ?_, hattempts.present⟩
  -- no answer is lost, so no write is repeated
  have hzero : acc.countP Access.isLost = 0 := by
    rw [List.countP_eq_zero]
    intro a ha hlost
    obtain ⟨n, hn⟩ := hattempts.lost a ha hlost
    rw [happlied n] at hn
    cases hn
  rwa [hzero] at hwrites

end Attempts

end Consul
