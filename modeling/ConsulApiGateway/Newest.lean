/-
Registers that keep the newest object.

Objects with versions are delivered to a register in any order.  An object takes
the place of one that is not newer and is dropped otherwise; in between, what the
register holds may be replaced by a copy.

* `Newest.takes` — after each step the register holds a copy of a delivered object
  with the greatest version;
* `Run.newest` — so it does after every part of a run;
* `Newest.agree` — with distinct versions the order of the deliveries makes no
  difference.
-/
import ConsulApiGateway.Run
import Mathlib.Data.List.Nodup
import Mathlib.Order.Lattice

variable {α V σ ε : Type*} [LinearOrder V]

/-- What the register holds is a copy of a delivered object, and no delivered object
has a greater version. -/
def Newest (version : α → V) (Same : α → α → Prop) (delivered : List α) : Option α → Prop
  | none => delivered = []
  | some stored => ∃ d ∈ delivered, Same d stored ∧ ∀ d' ∈ delivered, version d' ≤ version d

/-- What a step may do to the register, by what it delivers. -/
inductive Takes (version : α → V) (Same : α → α → Prop) : Option α → Option α → Option α → Prop
  | keep {before after : Option α} (h : Option.Rel Same before after) :
      Takes version Same none before after
  | store {d r : α} {before : Option α} (hsame : Same d r)
      (hle : ∀ r₀ ∈ before, version r₀ ≤ version d) : Takes version Same (some d) before (some r)
  | drop {d r : α} (hlt : version d < version r) :
      Takes version Same (some d) (some r) (some r)

/-- Every object is a copy of itself, copies of copies are copies, and they have the
version of the object. -/
structure Copies (version : α → V) (Same : α → α → Prop) : Prop where
  refl : ∀ a, Same a a
  trans : ∀ {a b c}, Same a b → Same b c → Same a c
  version_eq : ∀ {a b}, Same a b → version b = version a

variable {version : α → V} {Same : α → α → Prop} {delivered : List α} {before after d? : Option α}

/-- A register that is not written is kept. -/
theorem Copies.unchanged (hS : Copies version Same) (o : Option α) :
    Takes version Same none o o := by
  cases o with
  | none => exact .keep .none
  | some a => exact .keep (.some (hS.refl a))

theorem Takes.rel_of_none (h : Takes version Same none before after) :
    Option.Rel Same before after := by
  cases h with
  | keep hrel => exact hrel

/-- An object that is delivered is stored, or a newer one stays. -/
theorem Takes.cases_some {d : α} (h : Takes version Same (some d) before after) :
    (∃ r, after = some r ∧ Same d r) ∨
      after = before ∧ ∃ r, before = some r ∧ version d < version r := by
  cases h with
  | store hsame hle => exact .inl ⟨_, rfl, hsame⟩
  | drop hlt => exact .inr ⟨rfl, _, rfl, hlt⟩

/-- An object is written or not by a condition that compares its version with that of the
object in the register. -/
theorem Takes.of_condition {d : α} (cond : Bool) (hnone : before = none → cond = true)
    (hcond : ∀ r, before = some r → (cond = true ↔ version r ≤ version d))
    (hskip : cond = false → after = before)
    (hwrite : cond = true → ∃ r, after = some r ∧ Same d r) :
    Takes version Same (some d) before after := by
  cases cond with
  | true =>
    obtain ⟨r, rfl, hsame⟩ := hwrite rfl
    exact .store hsame fun r₀ hr₀ => (hcond r₀ hr₀).1 rfl
  | false =>
    rw [hskip rfl]
    cases before with
    | none => cases hnone rfl
    | some r => exact .drop (not_le.1 fun hle => by cases (hcond r rfl).2 hle)

theorem Newest.takes (hS : Copies version Same) (h : Newest version Same delivered before)
    (ht : Takes version Same d? before after) :
    Newest version Same (delivered ++ d?.toList) after := by
  cases ht with
  | keep hrel =>
    rw [Option.toList_none, List.append_nil]
    cases hrel with
    | none => exact h
    | some hsame =>
      obtain ⟨d, hd, hdr, hmax⟩ := h
      exact ⟨d, hd, hS.trans hdr hsame, hmax⟩
  | @store d r _ hsame hle =>
    refine ⟨d, by simp, hsame, fun d' hd' => ?_⟩
    rcases List.mem_append.1 hd' with hd' | hd'
    · cases before with
      | none =>
        rw [show delivered = [] from h] at hd'
        cases hd'
      | some r₀ =>
        obtain ⟨d₀, -, hsame₀, hmax⟩ := h
        -- what is stored is at least as new as the one it replaces
        calc version d' ≤ version d₀ := hmax d' hd'
          _ = version r₀ := (hS.version_eq hsame₀).symm
          _ ≤ version d := hle r₀ rfl
    · rw [List.mem_singleton.1 hd']
  | @drop d r hlt =>
    obtain ⟨d₀, hd₀, hsame₀, hmax⟩ := h
    refine ⟨d₀, List.mem_append_left _ hd₀, hsame₀, fun d' hd' => ?_⟩
    rcases List.mem_append.1 hd' with hd' | hd'
    · exact hmax d' hd'
    · rw [List.mem_singleton.1 hd', ← hS.version_eq hsame₀]
      exact le_of_lt hlt

/-- What copies inherit holds of what a step leaves in the register. -/
theorem Takes.forall_stored {P : α → Prop} (ht : Takes version Same d? before after)
    (hP : ∀ {a b}, Same a b → P a → P b) (hnew : ∀ d, d? = some d → P d)
    (hold : ∀ r, before = some r → P r) : ∀ r, after = some r → P r := by
  rintro r rfl
  cases ht with
  | keep hrel =>
    cases hrel with
    | some hsame => exact hP hsame (hold _ rfl)
  | store hsame _ => exact hP hsame (hnew _ rfl)
  | drop _ => exact hold r rfl

/-- Two registers that were delivered the same objects, with distinct versions, hold
copies of the same one. -/
theorem Newest.agree {delivered' : List α} {o o' : Option α}
    (h : Newest version Same delivered o) (h' : Newest version Same delivered' o')
    (hperm : delivered'.Perm delivered) (hnodup : (delivered.map version).Nodup) :
    Option.Rel (fun r r' => ∃ d, Same d r ∧ Same d r') o o' := by
  cases o with
  | none =>
    rw [show delivered = [] from h, List.perm_nil] at hperm
    subst hperm
    cases o' with
    | none => exact .none
    | some r' =>
      obtain ⟨d', hd', -⟩ := h'
      cases hd'
  | some r =>
    obtain ⟨d, hd, hsame, hmax⟩ := h
    cases o' with
    | none =>
      rw [show delivered' = [] from h', List.nil_perm] at hperm
      subst hperm
      cases hd
    | some r' =>
      obtain ⟨d', hd', hsame', hmax'⟩ := h'
      have hmem := hperm.mem_iff.1 hd'
      have heq := le_antisymm (hmax' d (hperm.mem_iff.2 hd)) (hmax d' hmem)
      cases List.inj_on_of_nodup_map hnodup hd hmem heq
      exact .some ⟨d, hsame, hsame'⟩

/-! ### Along a run -/

/-- What the events of a run deliver. -/
def deliveries (delivery : σ → ε → Option α) : σ → List (ε × σ) → List α
  | _, [] => []
  | s, (e, s') :: run => (delivery s e).toList ++ deliveries delivery s' run

/-- The state after a run. -/
def lastState : σ → List (ε × σ) → σ
  | s, [] => s
  | _, (_, s') :: run => lastState s' run

section Register

variable {step : σ → ε → σ → Prop} {s : σ} {run done : List (ε × σ)} {I : σ → Prop}
  {C : σ → ε → σ → Prop} {delivery : σ → ε → Option α} (stored : σ → Option α)

/-- The register may have taken some objects before. -/
theorem Run.newest_after (hS : Copies version Same) (hr : Run step s run) (hs : I s)
    (hnew : Newest version Same delivered (stored s))
    (hstep : ∀ {s e s'}, I s → step s e s' → C s e s' →
      Takes version Same (delivery s e) (stored s) (stored s') ∧ I s')
    (hC : Always C s run) (hdone : done <+: run) :
    Newest version Same (delivered ++ deliveries delivery s done) (stored (lastState s done)) := by
  induction hr generalizing delivered done with
  | nil s =>
    rw [List.prefix_nil.1 hdone]
    simpa [deliveries, lastState] using hnew
  | @cons s s' e run he _ ih =>
    obtain ⟨htakes, hI⟩ := hstep hs he hC.1
    cases done with
    | nil => simpa [deliveries, lastState] using hnew
    | cons p done =>
      rw [List.cons_prefix_cons] at hdone
      obtain ⟨rfl, hdone⟩ := hdone
      have hrest := ih hI (hnew.takes hS htakes) hC.2 hdone
      rwa [List.append_assoc] at hrest

/-- If every step of a run takes what its event delivers, a register that is empty at
first holds the newest object after every part of the run. -/
theorem Run.newest (hS : Copies version Same) (hr : Run step s run) (hs : I s)
    (hempty : stored s = none)
    (hstep : ∀ {s e s'}, I s → step s e s' → C s e s' →
      Takes version Same (delivery s e) (stored s) (stored s') ∧ I s')
    (hC : Always C s run) (hdone : done <+: run) :
    Newest version Same (deliveries delivery s done) (stored (lastState s done)) := by
  have hnew : Newest version Same [] (stored s) := by
    rw [hempty]
    rfl
  exact hr.newest_after stored hS hs hnew hstep hC hdone

end Register
