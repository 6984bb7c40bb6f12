/-
Runs of a transition system.

A system is a step relation `step s e s'`: in state `s` the event `e` may lead
to `s'`.  A run from `s` is the list of its events, each with the state it led
to (`Run`), so that a law about every point of a run is a predicate on its
steps (`Always`).

* `Reachable.invariant` — what holds initially and is kept by every step holds
  in every reachable state;
* `Run.always` — a law that an invariant carries over every step holds at every
  step of a run;
* `Run.always_of_invariant` — a run whose steps all meet `C` has the property
  `P` at every step, provided an invariant carries `P` over the steps that
  meet `C`;
* `Run.always_iff` — the same as an equivalence, when the steps that keep the
  law are exactly those that meet `C`;
* `foldl_history`, `foldl_turn` — where the events decide the steps: what holds
  of the events so far and the state, and the event at which a property of the
  state is gained.
-/
import Mathlib.Data.List.Induction
import Mathlib.Logic.Relation

variable {σ ε : Type*}

/-- The states that some sequence of events leads to from `s₀`. -/
def Reachable (step : σ → ε → σ → Prop) (s₀ s : σ) : Prop :=
  Relation.ReflTransGen (fun s s' => ∃ e, step s e s') s₀ s

/-- An inductive invariant holds in every reachable state. -/
theorem Reachable.invariant {step : σ → ε → σ → Prop} {s₀ s : σ} {I : σ → Prop}
    (h : Reachable step s₀ s) (h₀ : I s₀)
    (hstep : ∀ {s e s'}, I s → step s e s' → I s') : I s := by
  induction h with
  | refl => exact h₀
  | tail _ hs ih =>
    obtain ⟨e, he⟩ := hs
    exact hstep ih he

/-- A run from a state: the events that happened, each with the state after it. -/
inductive Run (step : σ → ε → σ → Prop) : σ → List (ε × σ) → Prop
  | nil (s : σ) : Run step s []
  | cons {s s' : σ} {e : ε} {r : List (ε × σ)} :
      step s e s' → Run step s' r → Run step s ((e, s') :: r)

/-- Every step `s`, `e`, `s'` of a run from a state satisfies `P s e s'`. -/
def Always (P : σ → ε → σ → Prop) : σ → List (ε × σ) → Prop
  | _, [] => True
  | s, (e, s') :: r => P s e s' ∧ Always P s' r

@[simp] theorem always_cons (P : σ → ε → σ → Prop) (s s' : σ) (e : ε) (r : List (ε × σ)) :
    Always P s ((e, s') :: r) ↔ P s e s' ∧ Always P s' r := Iff.rfl

namespace Run

variable {step : σ → ε → σ → Prop} {s : σ} {r : List (ε × σ)} {I : σ → Prop}
  {C P : σ → ε → σ → Prop}

/-- The law `P` holds at every step of a run if an invariant carries it. -/
theorem always (hr : Run step s r) (hs : I s)
    (hstep : ∀ {s e s'}, I s → step s e s' → P s e s' ∧ I s') : Always P s r := by
  induction hr with
  | nil => exact trivial
  | cons he _ ih =>
    obtain ⟨hP, hI⟩ := hstep hs he
    exact ⟨hP, ih hI⟩

/-- The law `P` holds at every step of a run whose steps all meet `C`. -/
theorem always_of_invariant (hr : Run step s r) (hs : I s)
    (hstep : ∀ {s e s'}, I s → step s e s' → C s e s' → P s e s' ∧ I s')
    (hC : Always C s r) : Always P s r := by
  induction hr with
  | nil => exact trivial
  | cons he _ ih =>
    obtain ⟨hCe, hCr⟩ := hC
    obtain ⟨hP, hI⟩ := hstep hs he hCe
    exact ⟨hP, ih hI hCr⟩

/-- The law `P` holds at every step of a run iff every step meets `C`. -/
theorem always_iff (hr : Run step s r) (hs : I s)
    (hiff : ∀ {s e s'}, I s → step s e s' → (P s e s' ↔ C s e s'))
    (hkeep : ∀ {s e s'}, I s → step s e s' → C s e s' → I s') :
    Always P s r ↔ Always C s r := by
  induction hr with
  | nil => exact Iff.rfl
  | cons he _ ih =>
    rw [always_cons, always_cons, hiff hs he]
    exact and_congr_right fun hCe => ih (hkeep hs he hCe)

end Run

/-! ### Steps that are a function of the event -/

section Function

variable {f : σ → ε → σ} {s : σ}

/-- What every step keeps, of the events so far and the state they led to. -/
theorem foldl_history {I : List ε → σ → Prop} (h₀ : I [] s)
    (hstep : ∀ {past s e}, I past s → I (past ++ [e]) (f s e)) (events : List ε) :
    I events (events.foldl f s) := by
  induction events using List.reverseRecOn with
  | nil => exact h₀
  | append_singleton past e ih =>
    rw [List.foldl_append]
    exact hstep ih

/-- A property that holds after some events and not before them is gained at one of them. -/
theorem foldl_turn {P : σ → Prop} (h₀ : ¬ P s) {events : List ε} (h : P (events.foldl f s)) :
    ∃ before e after, events = before ++ e :: after ∧
      ¬ P (before.foldl f s) ∧ P (f (before.foldl f s) e) := by
  induction events generalizing s with
  | nil => exact absurd h h₀
  | cons e events ih =>
    by_cases hP : P (f s e)
    · exact ⟨[], e, events, rfl, h₀, hP⟩
    · obtain ⟨before, e', after, rfl, hbefore, hturn⟩ := ih hP h
      exact ⟨e :: before, e', after, rfl, hbefore, hturn⟩

end Function
