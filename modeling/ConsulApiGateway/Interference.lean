/-
Programs that share a state with others.

A program makes one call after the other.  Before each of them the others may have changed the
state, and the call may fail, with or without having had its effect (`Turn`).  What the calls of
a program found and left behind is kept in a trace, so that a law about what a program does to
the state, whatever the others do, is a predicate on its trace.

* `Guarantees.bind` — a law that both parts of a program keep is kept by the whole;
* `call_cases`, `bind_cases` — how a call and a sequence of two programs may end;
* `Ensures.seq` — a program establishes a condition and rests when it holds, and so do two of them
  in sequence if the second does not undo what the first has established;
* `Preserves.bind` — a condition that both parts of a program keep is kept by the whole;
* `Alone.bind` — how a sequence of two programs ends when nobody interferes.
-/
import Mathlib.Data.List.Basic
import Mathlib.Logic.Relation

namespace Shared

/-- How a call may fail. -/
inductive Fault (ε : Type)
  | none
  -- the call had no effect
  | refused (err : ε)
  -- the call had its effect, but the answer was lost
  | unanswered (err : ε)

/-- What happens around a call: the others act before it, and it may fail. -/
structure Turn (σ ε : Type) where
  others : σ → σ
  fault : Fault ε

structure World (σ ε : Type) where
  state : σ
  /-- The turns of the calls to come. -/
  turns : ℕ → Turn σ ε
  /-- What each call so far has found and left. -/
  trace : List (σ × σ)

/-- A program that returns a value or fails. -/
def Program (σ ε α : Type) : Type := World σ ε → Except ε α × World σ ε

variable {σ ε α β : Type}

instance : Monad (Program σ ε) where
  pure a := fun w => (.ok a, w)
  bind p next := fun w =>
    match p w with
    | (.ok a, w') => next a w'
    | (.error err, w') => (.error err, w')

namespace Program

def throw (err : ε) : Program σ ε α := fun w => (.error err, w)

/-- A result that was computed without a call. -/
def ofExcept (result : Except ε α) : Program σ ε α := fun w => (result, w)

/-- The program, with its failure as a value. -/
def attempt (p : Program σ ε α) : Program σ ε (Except ε α) := fun w => (.ok (p w).1, (p w).2)

/-- The program, with its failure wrapped. -/
def mapError (p : Program σ ε α) (f : ε → ε) : Program σ ε α := fun w =>
  ((p w).1.mapError f, (p w).2)

end Program

/-- The world after a call that found `s` and left `s'`. -/
def World.after (w : World σ ε) (s s' : σ) : World σ ε where
  state := s'
  turns n := w.turns (n + 1)
  trace := w.trace ++ [(s, s')]

/-- The state that the next call finds. -/
def World.found (w : World σ ε) : σ := (w.turns 0).others w.state

/-- A call, as a function of the state it finds. -/
def call (f : σ → Except ε α × σ) : Program σ ε α := fun w =>
  match (w.turns 0).fault with
  | .none => ((f w.found).1, w.after w.found (f w.found).2)
  | .refused err => (.error err, w.after w.found w.found)
  | .unanswered err => (.error err, w.after w.found (f w.found).2)

/-- A step on a part of the state that is in the program's own memory: the others may act before it,
but it does not fail. -/
def access (f : σ → α × σ) : Program σ ε α := fun w =>
  (.ok (f w.found).1, w.after w.found (f w.found).2)

/-- A part of the state. -/
structure Part (σ τ : Type) where
  get : σ → τ
  set : τ → σ → σ
  get_set : ∀ t s, get (set t s) = t

/-! ### How a program may end -/

theorem ofExcept_apply (result : Except ε α) (w : World σ ε) :
    Program.ofExcept result w = (result, w) := rfl

/-- A failure of the first program is a value for the second. -/
theorem attempt_bind (p : Program σ ε α) (next : Except ε α → Program σ ε β) (w : World σ ε) :
    (p.attempt >>= next) w = next (p w).1 (p w).2 := rfl

variable {p : Program σ ε α} {next : α → Program σ ε β} {w w' w'' : World σ ε}
  {f : σ → Except ε α × σ} {a : α}

theorem mapError_eq_ok {f : ε → ε} (h : p.mapError f w = (.ok a, w')) : p w = (.ok a, w') := by
  unfold Program.mapError at h
  rcases hp : p w with ⟨_ | b, w₁⟩
  · rw [hp] at h
    cases h
  · rw [hp] at h
    cases h
    rfl

theorem mapError_of_ok (h : p w = (.ok a, w')) (f : ε → ε) : p.mapError f w = (.ok a, w') := by
  rw [Program.mapError, h]
  rfl

theorem bind_of_ok (h : p w = (.ok a, w')) (next : α → Program σ ε β) :
    (p >>= next) w = next a w' := by
  simp only [bind, h]

theorem bind_of_error {err : ε} (h : p w = (.error err, w')) (next : α → Program σ ε β) :
    (p >>= next) w = (.error err, w') := by
  simp only [bind, h]

/-- A sequence of two programs fails in the first or runs both. -/
theorem bind_cases (p : Program σ ε α) (next : α → Program σ ε β) (w : World σ ε) :
    (∃ a w', p w = (.ok a, w') ∧ (p >>= next) w = next a w') ∨
      ∃ err w', p w = (.error err, w') ∧ (p >>= next) w = (.error err, w') := by
  rcases hp : p w with ⟨_ | a, w'⟩
  · exact .inr ⟨_, _, rfl, bind_of_error hp next⟩
  · exact .inl ⟨_, _, rfl, bind_of_ok hp next⟩

/-- A sequence that returns has run both programs. -/
theorem bind_eq_ok {b : β} (h : (p >>= next) w = (.ok b, w'')) :
    ∃ a w', p w = (.ok a, w') ∧ next a w' = (.ok b, w'') := by
  rcases bind_cases p next w with ⟨a, w', hp, heq⟩ | ⟨err, w', -, heq⟩
  · exact ⟨a, w', hp, heq ▸ h⟩
  · rw [heq] at h
    cases h

/-- A call leaves what its function makes of the state it finds, or fails; when it fails it may
have had no effect. -/
theorem call_cases (f : σ → Except ε α × σ) (w : World σ ε) :
    call f w = ((f w.found).1, w.after w.found (f w.found).2) ∨
      ∃ err s', (s' = w.found ∨ s' = (f w.found).2) ∧
        call f w = (.error err, w.after w.found s') := by
  unfold call
  cases (w.turns 0).fault with
  | none => exact .inl rfl
  | refused err => exact .inr ⟨err, _, .inl rfl, rfl⟩
  | unanswered err => exact .inr ⟨err, _, .inr rfl, rfl⟩

/-- A call that returns has had its effect. -/
theorem call_eq_ok (h : call f w = (.ok a, w')) :
    (f w.found).1 = .ok a ∧ w' = w.after w.found (f w.found).2 := by
  rcases call_cases f w with heq | ⟨err, s', -, heq⟩
  · rw [heq, Prod.mk.injEq] at h
    exact ⟨h.1, h.2.symm⟩
  · rw [heq] at h
    cases h

/-! ### What a program does, whatever the others do -/

/-- What the others may do. -/
def World.Relies (R : σ → σ → Prop) (w : World σ ε) : Prop := ∀ n s, R s ((w.turns n).others s)

theorem World.Relies.after {R : σ → σ → Prop} (h : w.Relies R) (s s' : σ) :
    (w.after s s').Relies R := fun n => h (n + 1)

theorem World.Relies.found {R : σ → σ → Prop} (h : w.Relies R) :
    R w.state w.found := h 0 w.state

/-- What a program does between two worlds: its calls satisfy `G`, and between them the others
keep to `R`. -/
structure Keeps (R G : σ → σ → Prop) (w w' : World σ ε) : Prop where
  relies : w'.Relies R
  calls : ∃ calls, w'.trace = w.trace ++ calls ∧ ∀ c ∈ calls, G c.1 c.2
  steps : Relation.ReflTransGen (fun s s' => R s s' ∨ G s s') w.state w'.state

/-- Under others that keep to `R`, every call of the program satisfies `G`. -/
def Guarantees (R G : σ → σ → Prop) (p : Program σ ε α) : Prop :=
  ∀ w, w.Relies R → Keeps R G w (p w).2

variable {R G G' : σ → σ → Prop}

theorem Keeps.refl (h : w.Relies R) : Keeps R G w w :=
  ⟨h, ⟨[], (List.append_nil _).symm, fun _ hc => absurd hc List.not_mem_nil⟩, .refl⟩

theorem Keeps.trans (h : Keeps R G w w') (h' : Keeps R G w' w'') :
    Keeps R G w w'' := by
  obtain ⟨calls, htrace, hcalls⟩ := h.calls
  obtain ⟨calls', htrace', hcalls'⟩ := h'.calls
  refine ⟨h'.relies, ⟨calls ++ calls', by rw [htrace', htrace, List.append_assoc], ?_⟩,
    h.steps.trans h'.steps⟩
  intro c hc
  rcases List.mem_append.1 hc with hc | hc
  · exact hcalls c hc
  · exact hcalls' c hc

theorem Keeps.after {s' : σ} (h : w.Relies R) (hG : G w.found s') :
    Keeps R G w (w.after w.found s') :=
  ⟨h.after w.found s',
    ⟨[(w.found, s')], rfl, fun c hc => by rw [List.mem_singleton.1 hc]; exact hG⟩,
    .tail (.single (.inl h.found)) (.inr hG)⟩

/-- What everybody keeps is kept between the two worlds. -/
theorem Keeps.evolves {E : σ → σ → Prop} (h : Keeps R G w w') (hrefl : ∀ s, E s s)
    (htrans : ∀ {s s' s''}, E s s' → E s' s'' → E s s'') (hR : ∀ {s s'}, R s s' → E s s')
    (hG : ∀ {s s'}, G s s' → E s s') : E w.state w'.state := by
  obtain ⟨-, -, hsteps⟩ := h
  generalize w'.state = s' at hsteps
  induction hsteps with
  | refl => exact hrefl _
  | tail _ hstep ih => exact htrans ih (hstep.elim hR hG)

theorem Keeps.mono (h : Keeps R G w w') (hG : ∀ s s', G s s' → G' s s') :
    Keeps R G' w w' := by
  obtain ⟨hrelies, ⟨calls, htrace, hcalls⟩, hsteps⟩ := h
  exact ⟨hrelies, ⟨calls, htrace, fun c hc => hG _ _ (hcalls c hc)⟩,
    Relation.ReflTransGen.mono (fun s s' (hstep : R s s' ∨ G s s') => hstep.imp_right (hG s s'))
      _ _ hsteps⟩

theorem Guarantees.mono (h : Guarantees R G p) (hG : ∀ s s', G s s' → G' s s') :
    Guarantees R G' p := fun w hw => (h w hw).mono hG

theorem guarantees_pure (a : α) : Guarantees R G (pure a : Program σ ε α) :=
  fun _ hw => .refl hw

theorem guarantees_throw (err : ε) : Guarantees R G (Program.throw err : Program σ ε α) :=
  fun _ hw => .refl hw

theorem guarantees_ofExcept (result : Except ε α) :
    Guarantees R G (Program.ofExcept result : Program σ ε α) := fun _ hw => .refl hw

theorem Guarantees.attempt (h : Guarantees R G p) : Guarantees R G p.attempt :=
  h

theorem Guarantees.mapError (h : Guarantees R G p) (f : ε → ε) :
    Guarantees R G (p.mapError f) := h

/-- A sequence of two programs from a world. -/
theorem Keeps.bind (h : Keeps R G w (p w).2)
    (hnext : ∀ a w', p w = (.ok a, w') → w'.Relies R → Keeps R G w' (next a w').2) :
    Keeps R G w ((p >>= next) w).2 := by
  rcases bind_cases p next w with ⟨a, w', heq, hbind⟩ | ⟨err, w', heq, hbind⟩
  · rw [hbind]
    rw [heq] at h
    exact h.trans (hnext a w' heq h.relies)
  · rw [hbind]
    rwa [heq] at h

theorem Guarantees.bind (h : Guarantees R G p) (hnext : ∀ a, Guarantees R G (next a)) :
    Guarantees R G (p >>= next) :=
  fun w hw => (h w hw).bind fun a w' _ hw' => hnext a w' hw'

/-- A result that decides how the program goes on. -/
theorem guarantees_ofExcept_bind {result : Except ε α}
    (hnext : ∀ a, result = .ok a → Guarantees R G (next a)) :
    Guarantees R G (Program.ofExcept result >>= next) := fun w hw =>
  (guarantees_ofExcept result w hw).bind fun a w' heq hw' => hnext a (Prod.mk.inj heq).1 w' hw'

/-- A call from a world. -/
theorem keeps_call (hw : w.Relies R) (hrefl : G w.found w.found) (hf : G w.found (f w.found).2) :
    Keeps R G w (call f w).2 := by
  rcases call_cases f w with heq | ⟨err, s', hs', heq⟩
  · rw [heq]
    exact .after hw hf
  · rw [heq]
    refine .after hw ?_
    rcases hs' with rfl | rfl
    · exact hrefl
    · exact hf

theorem guarantees_call (hrefl : ∀ s, G s s) (hf : ∀ s, G s (f s).2) :
    Guarantees R G (call f) := fun _ hw => keeps_call hw (hrefl _) (hf _)

theorem guarantees_access {f : σ → α × σ} (hf : ∀ s, G s (f s).2) :
    Guarantees R G (access f : Program σ ε α) := fun _ hw => .after hw (hf _)

/-! ### Programs that establish a condition and rest when it holds -/

/-- Under others that keep to `R`, the program establishes `P` if it returns, and does nothing if
`P` holds already; `G` bounds what it does until then. -/
structure Ensures (R G : σ → σ → Prop) (p : Program σ ε α) (P : σ → Prop) : Prop where
  stable : ∀ s s', R s s' → P s → P s'
  calls : Guarantees R G p
  establishes : ∀ w w' a, w.Relies R → p w = (.ok a, w') → P w'.state
  rests : ∀ w, w.Relies R → P w.state → Keeps R Eq w (p w).2

variable {P Q : σ → Prop}

/-- A condition that everybody keeps. -/
theorem Keeps.preserves (h : Keeps R G w w') (hR : ∀ s s', R s s' → P s → P s')
    (hG : ∀ s s', G s s' → P s → P s') (hP : P w.state) :
    P w'.state :=
  h.evolves (E := fun s s' => P s → P s') (fun _ => id) (fun h h' => h' ∘ h) (hR _ _) (hG _ _) hP

theorem ensures_pure (a : α) : Ensures R G (pure a : Program σ ε α) fun _ => True :=
  ⟨fun _ _ _ _ => trivial, guarantees_pure a, fun _ _ _ _ _ => trivial, fun _ hw _ => .refl hw⟩

theorem Ensures.mono (h : Ensures R G p P) (hG : ∀ s s', G s s' → G' s s') :
    Ensures R G' p P := ⟨h.stable, h.calls.mono hG, h.establishes, h.rests⟩

theorem Ensures.congr (h : Ensures R G p P) (hiff : ∀ s, P s ↔ Q s) :
    Ensures R G p Q := by
  rwa [show P = Q from funext fun s => propext (hiff s)] at h

theorem Ensures.mapError (h : Ensures R G p P) (f : ε → ε) :
    Ensures R G (p.mapError f) P :=
  ⟨h.stable, h.calls.mapError f, fun w w' a hw ha => h.establishes w w' a hw (mapError_eq_ok ha),
    h.rests⟩

/-- **One after the other**: the second does not undo what the first has established. -/
theorem Ensures.seq {q : Program σ ε β} (h : Ensures R G p P) (h' : Ensures R G' q Q)
    (hP : ∀ s s', G' s s' → P s → P s') :
    Ensures R (fun s s' => G s s' ∨ G' s s') (p >>= fun _ => q) fun s => P s ∧ Q s where
  stable s s' hR hPQ := ⟨h.stable s s' hR hPQ.1, h'.stable s s' hR hPQ.2⟩
  calls := (h.calls.mono fun _ _ => .inl).bind fun _ => h'.calls.mono fun _ _ => .inr
  establishes w w'' b hw hb := by
    obtain ⟨a, w', ha, hb⟩ := bind_eq_ok hb
    have hkeeps := h.calls w hw
    rw [ha] at hkeeps
    have hkeeps' := h'.calls w' hkeeps.relies
    rw [hb] at hkeeps'
    exact ⟨hkeeps'.preserves h.stable hP (h.establishes w w' a hw ha),
      h'.establishes w' w'' b hkeeps.relies hb⟩
  rests w hw hPQ := by
    refine (h.rests w hw hPQ.1).bind fun a w' ha hw' => h'.rests w' hw' ?_
    have hkeeps := h.rests w hw hPQ.1
    rw [ha] at hkeeps
    exact hkeeps.preserves h'.stable (fun s s' heq hQ => heq ▸ hQ) hPQ.2

/-- The result of a program may be computed from what it returns. -/
theorem Ensures.map (h : Ensures R G p P) (f : α → β) :
    Ensures R G (p >>= fun a => pure (f a)) P where
  stable := h.stable
  calls := h.calls.bind fun _ => guarantees_pure _
  establishes w w'' b hw hb := by
    obtain ⟨a, w', ha, hb⟩ := bind_eq_ok hb
    cases hb
    exact h.establishes w w'' a hw ha
  rests w hw hP := (h.rests w hw hP).bind fun _ _ _ hw' => .refl hw'

theorem Ensures.stays {s s' : σ} (h : Ensures R G p P) (hlater : Relation.ReflTransGen R s s')
    (hP : P s) : P s' := by
  induction hlater with
  | refl => exact hP
  | tail _ hstep ih => exact h.stable _ _ hstep ih

/-- Under others that keep to `R`, the program keeps the condition, however it ends. -/
def Preserves (R : σ → σ → Prop) (P : σ → Prop) (p : Program σ ε α) : Prop :=
  ∀ w, w.Relies R → P w.state → P (p w).2.state ∧ (p w).2.Relies R

theorem Guarantees.preserves (h : Guarantees R G p) (hR : ∀ s s', R s s' → P s → P s')
    (hG : ∀ s s', G s s' → P s → P s') : Preserves R P p :=
  fun w hw hP => ⟨(h w hw).preserves hR hG hP, (h w hw).relies⟩

theorem preserves_pure (a : α) : Preserves R P (pure a : Program σ ε α) :=
  fun _ hw hP => ⟨hP, hw⟩

theorem Preserves.mapError (h : Preserves R P p) (f : ε → ε) :
    Preserves R P (p.mapError f) := h

theorem Preserves.attempt (h : Preserves R P p) : Preserves R P p.attempt := h

theorem preserves_call (hR : ∀ s s', R s s' → P s → P s') (hf : ∀ s, P s → P (f s).2) :
    Preserves R P (call f) :=
  (guarantees_call (fun _ => id) hf).preserves hR fun _ _ h => h

theorem preserves_access {f : σ → α × σ} (hR : ∀ s s', R s s' → P s → P s')
    (hf : ∀ s, P s → P (f s).2) : Preserves R P (access f : Program σ ε α) :=
  (guarantees_access hf).preserves hR fun _ _ h => h

/-- The second program may depend on what the first has found. -/
theorem Preserves.bind_of (h : Preserves R P p)
    (hnext : ∀ w a w', w.Relies R → P w.state → p w = (.ok a, w') → P w'.state → w'.Relies R →
      P (next a w').2.state ∧ (next a w').2.Relies R) :
    Preserves R P (p >>= next) := by
  intro w hw hP
  have hp := h w hw hP
  rcases bind_cases p next w with ⟨a, w', heq, hbind⟩ | ⟨err, w', heq, hbind⟩
  · rw [hbind]
    rw [heq] at hp
    exact hnext w a w' hw hP heq hp.1 hp.2
  · rw [hbind]
    rwa [heq] at hp

theorem Preserves.bind (h : Preserves R P p) (hnext : ∀ a, Preserves R P (next a)) :
    Preserves R P (p >>= next) :=
  h.bind_of fun _ a w' _ _ _ hP hw => hnext a w' hw hP

/-! ### Programs that run alone -/

/-- Nobody interferes, but calls may fail. -/
def World.Undisturbed (w : World σ ε) : Prop := ∀ n s, (w.turns n).others s = s

/-- How the program ends when it runs alone from the state. -/
def Alone (s : σ) (p : Program σ ε α) (Q : Except ε α → σ → Prop) : Prop :=
  ∀ w, w.Undisturbed → w.state = s → Q (p w).1 (p w).2.state ∧ (p w).2.Undisturbed

section

variable {s : σ} {Q Q' : Except ε α → σ → Prop}

theorem World.Undisturbed.after (h : w.Undisturbed) (s s' : σ) :
    (w.after s s').Undisturbed := fun n => h (n + 1)

theorem World.Undisturbed.found (h : w.Undisturbed) : w.found = w.state :=
  h 0 w.state

theorem Alone.mono (h : Alone s p Q) (hQ : ∀ r s', Q r s' → Q' r s') :
    Alone s p Q' := fun w hw hs => ⟨hQ _ _ (h w hw hs).1, (h w hw hs).2⟩

theorem alone_pure (h : Q (.ok a) s) : Alone s (pure a) Q := by
  intro w hw hs
  exact ⟨hs ▸ h, hw⟩

theorem alone_call (hok : Q (f s).1 (f s).2)
    (herror : ∀ err, Q (.error err) s ∧ Q (.error err) (f s).2) : Alone s (call f) Q := by
  intro w hw hs
  have hfound : w.found = s := hw.found.trans hs
  rcases call_cases f w with heq | ⟨err, s', hs', heq⟩
  · rw [heq, hfound]
    exact ⟨hok, hw.after _ _⟩
  · rw [heq]
    refine ⟨?_, hw.after _ _⟩
    rcases hs' with rfl | rfl
    · rw [hfound]
      exact (herror err).1
    · rw [hfound]
      exact (herror err).2

theorem alone_access {f : σ → α × σ} (h : Q (.ok (f s).1) (f s).2) : Alone s (access f) Q := by
  intro w hw hs
  have hfound : w.found = s := hw.found.trans hs
  refine ⟨?_, hw.after _ _⟩
  rw [access, hfound]
  exact h

/-- A failure of the first program is the failure of both. -/
theorem Alone.bind {Q' : Except ε β → σ → Prop} (h : Alone s p Q)
    (herror : ∀ err s', Q (.error err) s' → Q' (.error err) s')
    (hnext : ∀ a s', Q (.ok a) s' → Alone s' (next a) Q') : Alone s (p >>= next) Q' := by
  intro w hw hs
  obtain ⟨hQ, hw'⟩ := h w hw hs
  rcases bind_cases p next w with ⟨a, w', heq, hbind⟩ | ⟨err, w', heq, hbind⟩
  · rw [hbind]
    rw [heq] at hQ hw'
    exact hnext a w'.state hQ w' hw' rfl
  · rw [hbind]
    rw [heq] at hQ hw'
    exact ⟨herror err w'.state hQ, hw'⟩

theorem Alone.mapError {f : ε → ε} (h : Alone s p fun r => Q (r.mapError f)) :
    Alone s (p.mapError f) Q := h

end

/-! ### Calls that do not fail -/

theorem call_of_none (h : (w.turns 0).fault = .none) (f : σ → Except ε α × σ) :
    call f w = ((f w.found).1, w.after w.found (f w.found).2) := by
  rw [call, h]

/-- The world in which nobody interferes and nothing fails. -/
def World.quiet (s : σ) : World σ ε := ⟨s, fun _ => ⟨id, .none⟩, []⟩

theorem World.quiet_relies {R : σ → σ → Prop} (hR : ∀ s, R s s) (s : σ) :
    (World.quiet s : World σ ε).Relies R := fun _ => hR

end Shared
