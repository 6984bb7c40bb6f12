/-
Lists position by position.

How the relations of `List.Forall₂` compose, and what they say about single
members of the two lists; and lists that are gone through with their positions.
-/
import Mathlib.Data.List.Forall2

namespace List.Forall₂

variable {α β γ : Type*} {R : α → β → Prop} {S : β → γ → Prop} {T : α → γ → Prop}
  {as : List α} {bs : List β} {cs : List γ}

theorem comp (hcomp : ∀ a b c, R a b → S b c → T a c) (h : Forall₂ R as bs)
    (h' : Forall₂ S bs cs) : Forall₂ T as cs := by
  induction h generalizing cs with
  | nil => cases h'; exact .nil
  | cons hab _ ih =>
    cases h' with
    | cons hbc hs => exact .cons (hcomp _ _ _ hab hbc) (ih hs)

theorem imp_mem {P : α → β → Prop} (h : Forall₂ R as bs)
    (himp : ∀ a ∈ as, ∀ b, R a b → P a b) : Forall₂ P as bs := by
  induction h with
  | nil => exact .nil
  | cons hab _ ih =>
    rw [List.forall_mem_cons] at himp
    exact .cons (himp.1 _ hab) (ih himp.2)

theorem and_right {Q : β → Prop} (h : Forall₂ R as bs) (hQ : ∀ b ∈ bs, Q b) :
    Forall₂ (fun a b => R a b ∧ Q b) as bs := by
  induction h with
  | nil => exact .nil
  | cons hab _ ih =>
    rw [List.forall_mem_cons] at hQ
    exact .cons ⟨hab, hQ.1⟩ (ih hQ.2)

/-- Every member of the second list has a partner in the first. -/
theorem exists_left (h : Forall₂ R as bs) {b : β} (hb : b ∈ bs) : ∃ a ∈ as, R a b := by
  induction h with
  | nil => cases hb
  | @cons a b' as bs hab _ ih =>
    rcases List.mem_cons.mp hb with rfl | hb
    · exact ⟨a, List.mem_cons_self, hab⟩
    · obtain ⟨a', ha', hR⟩ := ih hb
      exact ⟨a', List.mem_cons_of_mem _ ha', hR⟩

/-- Every member of the first list has a partner in the second. -/
theorem exists_right (h : Forall₂ R as bs) {a : α} (ha : a ∈ as) : ∃ b ∈ bs, R a b := by
  induction h with
  | nil => cases ha
  | @cons a' b as bs hab _ ih =>
    rcases List.mem_cons.mp ha with rfl | ha
    · exact ⟨b, List.mem_cons_self, hab⟩
    · obtain ⟨b', hb', hR⟩ := ih ha
      exact ⟨b', List.mem_cons_of_mem _ hb', hR⟩

/-- The partner of a member stands at the same position. -/
theorem getElem?_right (h : Forall₂ R as bs) {i : ℕ} {a : α} (ha : as[i]? = some a) :
    ∃ b, bs[i]? = some b ∧ R a b := by
  induction h generalizing i with
  | nil => cases ha
  | @cons a' b as bs hab _ ih =>
    cases i with
    | zero => cases ha; exact ⟨b, rfl, hab⟩
    | succ i => exact ih (by simpa using ha)

/-- What holds of all members of one list, said of their partners. -/
theorem forall_mem_iff {P : α → Prop} {Q : β → Prop} (h : Forall₂ R as bs)
    (hR : ∀ a b, R a b → (P a ↔ Q b)) : (∀ a ∈ as, P a) ↔ ∀ b ∈ bs, Q b := by
  induction h with
  | nil => simp
  | cons hab _ ih => rw [List.forall_mem_cons, List.forall_mem_cons, hR _ _ hab, ih]

end List.Forall₂

namespace List

variable {α β : Type*} {l : List α}

theorem exists_zipIdx_iff {P : α × ℕ → Prop} :
    (∃ p ∈ l.zipIdx, P p) ↔ ∃ (i : ℕ) (a : α), l[i]? = some a ∧ P (a, i) := by
  constructor
  · rintro ⟨⟨a, i⟩, hmem, hP⟩
    exact ⟨i, a, List.mem_zipIdx_iff_getElem?.1 hmem, hP⟩
  · rintro ⟨i, a, ha, hP⟩
    exact ⟨(a, i), List.mem_zipIdx_iff_getElem?.2 ha, hP⟩

theorem forall_zipIdx_iff {P : α × ℕ → Prop} :
    (∀ p ∈ l.zipIdx, P p) ↔ ∀ (i : ℕ) (a : α), l[i]? = some a → P (a, i) := by
  constructor
  · intro h i a ha
    exact h (a, i) (List.mem_zipIdx_iff_getElem?.2 ha)
  · rintro h ⟨a, i⟩ hmem
    exact h i a (List.mem_zipIdx_iff_getElem?.1 hmem)

theorem mem_filterMap_zipIdx {f : α × ℕ → Option β} {b : β} :
    b ∈ l.zipIdx.filterMap f ↔ ∃ (i : ℕ) (a : α), l[i]? = some a ∧ f (a, i) = some b :=
  List.mem_filterMap.trans exists_zipIdx_iff

theorem mem_flatMap_zipIdx {f : α × ℕ → List β} {b : β} :
    b ∈ l.zipIdx.flatMap f ↔ ∃ (i : ℕ) (a : α), l[i]? = some a ∧ b ∈ f (a, i) :=
  List.mem_flatMap.trans exists_zipIdx_iff

theorem filterMap_zipIdx_fst (l : List α) (f : α → Option β) :
    l.zipIdx.filterMap (fun p => f p.1) = l.filterMap f := by
  have hmap := List.filterMap_map (l := l.zipIdx) (f := Prod.fst) (g := f)
  rw [List.zipIdx_map_fst] at hmap
  exact hmap.symm

/-- What does not depend on the positions can be computed without them. -/
theorem map_zipIdx_fst (l : List α) {f : α → β} {g : α × ℕ → β} (h : ∀ p, g p = f p.1) :
    l.zipIdx.map g = l.map f := by
  have hg : g = f ∘ Prod.fst := funext h
  rw [hg, ← List.map_map, List.zipIdx_map_fst]

end List

/-- Lists of the same length that are filtered, position by position, to related
members. -/
theorem List.forall₂_filterMap_zipIdx {α β γ δ : Type*} {R : γ → δ → Prop} {as : List α}
    {bs : List β} {f : α × ℕ → Option γ} {f' : β × ℕ → Option δ} (hlength : as.length = bs.length)
    (h : ∀ (i : ℕ) a b, as[i]? = some a → bs[i]? = some b → Option.Rel R (f (a, i)) (f' (b, i))) :
    List.Forall₂ R (as.zipIdx.filterMap f) (bs.zipIdx.filterMap f') := by
  -- over the positions from one on
  suffices hsuff : ∀ n, (∀ (i : ℕ) a b, as[i]? = some a → bs[i]? = some b →
      Option.Rel R (f (a, n + i)) (f' (b, n + i))) →
      List.Forall₂ R ((as.zipIdx n).filterMap f) ((bs.zipIdx n).filterMap f') by
    refine hsuff 0 fun i a b ha hb => ?_
    rw [Nat.zero_add]
    exact h i a b ha hb
  clear h
  induction as generalizing bs with
  | nil =>
    cases List.length_eq_zero_iff.1 hlength.symm
    exact fun n _ => .nil
  | cons a as ih =>
    cases bs with
    | nil => cases hlength
    | cons b bs =>
      intro n h
      have hrest := ih (Nat.succ.inj hlength) (n + 1) fun i a b ha hb => by
        rw [Nat.add_right_comm]
        exact h (i + 1) a b ha hb
      have hfirst := h 0 a b rfl rfl
      rw [List.zipIdx_cons, List.zipIdx_cons]
      rw [Nat.add_zero] at hfirst
      cases ha : f (a, n) with
      | none =>
        cases hb : f' (b, n) with
        | none =>
          rw [List.filterMap_cons_none ha, List.filterMap_cons_none hb]
          exact hrest
        | some d =>
          rw [ha, hb] at hfirst
          cases hfirst
      | some c =>
        cases hb : f' (b, n) with
        | none =>
          rw [ha, hb] at hfirst
          cases hfirst
        | some d =>
          rw [ha, hb] at hfirst
          cases hfirst with
          | some hR =>
            rw [List.filterMap_cons_some ha, List.filterMap_cons_some hb]
            exact .cons hR hrest
