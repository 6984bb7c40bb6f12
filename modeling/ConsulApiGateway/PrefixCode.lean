/-
Codes that can be read from the front.

A code writes letters as words over an alphabet.  It is a prefix code if a text begins with at
most one of its words, so that the letter and what follows it can be told apart; what may follow
is a parameter, as a number is only read to its end if no digit follows.

* `PrefixCode.of_decode` — a code with a decoder is a prefix code;
* `PrefixCode.pair`, `PrefixCode.word` — pairs and words of letters, up to an end mark;
* `PrefixCode.lt_iff` — two texts that begin with different words are compared by these words,
  whatever follows them.
-/
import Mathlib.Data.List.Lex
import Mathlib.Order.Lattice

variable {α β σ : Type*}

/-- A text begins with at most one word of the code that is followed by `After`. -/
def PrefixCode (code : α → List σ) (After : List σ → Prop) : Prop :=
  ∀ ⦃a b : α⦄ ⦃x y : List σ⦄, After x → After y → code a ++ x = code b ++ y → a = b ∧ x = y

/-- Anything may follow. -/
def Anything (_ : List σ) : Prop := True

namespace PrefixCode

variable {code : α → List σ} {code' : β → List σ} {After : List σ → Prop}

theorem of_decode {decode : List σ → Option (α × List σ)}
    (h : ∀ a x, After x → decode (code a ++ x) = some (a, x)) : PrefixCode code After := by
  intro a b x y hx hy heq
  have hab : some (a, x) = some (b, y) := by rw [← h a x hx, heq, h b y hy]
  rwa [Option.some.injEq, Prod.mk.injEq] at hab

/-- A code on the images of letters is one on the letters. -/
theorem comp (h : PrefixCode code After) {f : β → α} (hf : Function.Injective f) :
    PrefixCode (fun b => code (f b)) After := by
  intro a b x y hx hy heq
  obtain ⟨hab, hxy⟩ := h hx hy heq
  exact ⟨hf hab, hxy⟩

/-- A fixed text in front does no harm. -/
theorem prepend (h : PrefixCode code After) (lead : List σ) :
    PrefixCode (fun a => lead ++ code a) After := by
  intro a b x y hx hy heq
  simp only [List.append_assoc, List.append_cancel_left_eq] at heq
  exact h hx hy heq

/-- A fixed text behind takes the place of what has to follow. -/
theorem append (h : PrefixCode code After) (tail : List σ) (htail : ∀ x, After (tail ++ x)) :
    PrefixCode (fun a => code a ++ tail) Anything := by
  intro a b x y _ _ heq
  simp only [List.append_assoc] at heq
  obtain ⟨hab, hxy⟩ := h (htail x) (htail y) heq
  exact ⟨hab, List.append_cancel_left hxy⟩

theorem pair (h : PrefixCode code Anything) (h' : PrefixCode code' After) :
    PrefixCode (fun p : α × β => code p.1 ++ code' p.2) After := by
  rintro ⟨a, a'⟩ ⟨b, b'⟩ x y hx hy heq
  simp only [List.append_assoc] at heq
  obtain ⟨rfl, hrest⟩ := h trivial trivial heq
  obtain ⟨rfl, hxy⟩ := h' hx hy hrest
  exact ⟨rfl, hxy⟩

/-- Words of letters can be read up to an end mark that no letter begins with. -/
theorem word (h : PrefixCode code Anything) {stop : σ}
    (hstop : ∀ a x y, code a ++ x ≠ stop :: y) :
    PrefixCode (fun l : List α => l.flatMap code ++ [stop]) Anything := by
  intro l l' x y _ _ heq
  simp only [List.append_assoc, List.singleton_append] at heq
  induction l generalizing l' with
  | nil =>
    cases l' with
    | nil => exact ⟨rfl, (List.cons.inj heq).2⟩
    | cons b l' =>
      rw [List.flatMap_nil, List.nil_append, List.flatMap_cons, List.append_assoc] at heq
      exact absurd heq.symm (hstop b _ _)
  | cons a l ih =>
    cases l' with
    | nil =>
      rw [List.flatMap_nil, List.nil_append, List.flatMap_cons, List.append_assoc] at heq
      exact absurd heq (hstop a _ _)
    | cons b l' =>
      rw [List.flatMap_cons, List.flatMap_cons, List.append_assoc, List.append_assoc] at heq
      obtain ⟨rfl, hrest⟩ := h trivial trivial heq
      obtain ⟨rfl, hxy⟩ := ih hrest
      exact ⟨rfl, hxy⟩

/-! ### Comparing texts -/

variable [LinearOrder σ]

/-- Two words that do not begin the same text are compared before what follows them. -/
theorem lt_iff_of_ne {v w : List σ} (h : ∀ x y, v ++ x ≠ w ++ y) (x y x' y' : List σ) :
    v ++ x < w ++ y ↔ v ++ x' < w ++ y' := by
  induction v generalizing w with
  | nil => exact absurd (List.append_nil w).symm (h w [])
  | cons a v ih =>
    cases w with
    | nil => exact absurd (List.append_nil (a :: v)) (h [] (a :: v))
    | cons b w =>
      rw [List.cons_append, List.cons_append, List.cons_append, List.cons_append,
        List.cons_lt_cons_iff, List.cons_lt_cons_iff]
      refine or_congr_right (and_congr_right fun hab => ih fun x y hxy => ?_)
      subst hab
      exact h x y (congrArg (a :: ·) hxy)

theorem lt_iff (h : PrefixCode code Anything) {a b : α} (hab : a ≠ b) (x y x' y' : List σ) :
    code a ++ x < code b ++ y ↔ code a ++ x' < code b ++ y' :=
  lt_iff_of_ne (fun _ _ heq => hab (h trivial trivial heq).1) x y x' y'

end PrefixCode
