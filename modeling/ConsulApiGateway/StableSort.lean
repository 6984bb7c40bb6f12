/-
Stable sorting by a key (`sort.SliceStable` with a comparison of keys).

A list that is searched from the front after it was sorted yields the same
element as a search for the smallest key in the list as it was, where of several
elements with that key the first one counts.  Elements with the same key keep
their order, and that is all the sorted list remembers of it.

* `filter_sliceStable` — sorting commutes with filtering;
* `sliceStable_eq_iff` — two lists are sorted alike exactly if the elements with
  each key come in the same order;
* `find?_sliceStable` — the element a search from the front finds.
-/
import ConsulApiGateway.GoStd
import Mathlib.Order.Defs.LinearOrder

namespace GoStd

variable {α κ : Type*} [LinearOrder κ] {less : α → α → Bool} {key : α → κ}

/-- The comparison is that of the keys. -/
def Compares (less : α → α → Bool) (key : α → κ) : Prop :=
  ∀ a b, less a b = true ↔ key a < key b

section Sorting

theorem Compares.not_less (hless : Compares less key) (a b : α) :
    ¬ less b a = true ↔ key a ≤ key b := by
  rw [hless b a, not_lt]

theorem pairwise_sliceStable (hless : Compares less key) (l : List α) :
    (sliceStable less l).Pairwise fun a b => key a ≤ key b := by
  have htrans : IsTrans α fun a b => ¬ less b a = true :=
    ⟨fun a b c => by simpa only [hless.not_less] using le_trans⟩
  have htotal : Std.Total fun a b : α => ¬ less b a = true :=
    ⟨fun a b => by simpa only [hless.not_less] using le_total (key a) (key b)⟩
  have hpairwise := List.pairwise_insertionSort (fun a b => ¬ less b a = true) l
  exact hpairwise.imp fun {a b} h => (hless.not_less a b).1 h

theorem perm_sliceStable (l : List α) : (sliceStable less l).Perm l :=
  List.perm_insertionSort _ l

theorem mem_sliceStable {l : List α} {a : α} : a ∈ sliceStable less l ↔ a ∈ l :=
  List.mem_insertionSort _

theorem sliceStable_cons (a : α) (l : List α) :
    sliceStable less (a :: l) =
      (sliceStable less l).orderedInsert (fun a b => ¬ less b a = true) a :=
  rfl

theorem filter_orderedInsert (hless : Compares less key) (p : α → Bool) (a : α) {s : List α}
    (hs : s.Pairwise fun a b => key a ≤ key b) :
    (s.orderedInsert (fun a b => ¬ less b a = true) a).filter p =
      if p a then (s.filter p).orderedInsert (fun a b => ¬ less b a = true) a else s.filter p := by
  induction s with
  | nil => cases hp : p a <;> simp [hp]
  | cons b s ih =>
    rw [List.pairwise_cons] at hs
    by_cases hab : ¬ less b a = true
    · -- everything that follows is behind the new element
      rw [List.orderedInsert_cons_of_le _ _ hab, List.filter_cons]
      split_ifs with hp
      · have hfirst : ∀ c ∈ (b :: s).filter p, ¬ less c a = true := by
          intro c hc
          rw [hless.not_less] at hab ⊢
          rcases List.mem_cons.1 (List.mem_of_mem_filter hc) with rfl | hmem
          · exact hab
          · exact hab.trans (hs.1 c hmem)
        cases hrest : (b :: s).filter p with
        | nil => rfl
        | cons c rest =>
          rw [hrest] at hfirst
          rw [List.orderedInsert_cons_of_le _ _ (hfirst c List.mem_cons_self)]
      · rfl
    · rw [List.orderedInsert_of_not_le _ _ hab, List.filter_cons, ih hs.2, List.filter_cons]
      by_cases hp : p a = true
      · by_cases hb : p b = true
        · simp only [hp, hb, if_true]
          rw [List.orderedInsert_of_not_le _ _ hab]
        · simp only [hp, hb, if_true, Bool.false_eq_true, if_false]
      · simp only [hp, Bool.false_eq_true, if_false]

/-- Sorting and filtering commute. -/
theorem filter_sliceStable (hless : Compares less key) (p : α → Bool) (l : List α) :
    (sliceStable less l).filter p = sliceStable less (l.filter p) := by
  induction l with
  | nil => rfl
  | cons a l ih =>
    rw [sliceStable_cons, filter_orderedInsert hless p a (pairwise_sliceStable hless l), ih,
      List.filter_cons]
    split_ifs
    · rfl
    · rfl

/-- A sorted list stays as it is. -/
theorem sliceStable_of_pairwise (hless : Compares less key) {l : List α}
    (h : l.Pairwise fun a b => key a ≤ key b) : sliceStable less l = l :=
  List.Pairwise.insertionSort_eq (h.imp fun {a b} => (hless.not_less a b).2)

/-- A list of elements with one key stays as it is. -/
theorem sliceStable_of_key_eq (hless : Compares less key) {l : List α} {k : κ}
    (h : ∀ a ∈ l, key a = k) : sliceStable less l = l := by
  refine sliceStable_of_pairwise hless (List.pairwise_of_forall_mem_list fun a ha b hb => ?_)
  rw [h a ha, h b hb]

/-- Elements may be replaced before or after sorting if this does not change how they
compare. -/
theorem map_sliceStable {f : α → α} {l : List α}
    (h : ∀ a ∈ l, ∀ b ∈ l, (less a b = true ↔ less (f a) (f b) = true)) :
    (sliceStable less l).map f = sliceStable less (l.map f) :=
  List.map_insertionSort _ _ f l fun a ha b hb => not_congr (h b hb a ha)

/-- The elements with a key come in the order they had. -/
theorem filter_key_sliceStable (hless : Compares less key) (l : List α) (k : κ) :
    (sliceStable less l).filter (key · = k) = l.filter (key · = k) := by
  rw [filter_sliceStable hless]
  exact sliceStable_of_key_eq hless fun a ha => by simpa using List.of_mem_filter ha

/-- A sorted list is determined by the order of the elements with each key. -/
theorem eq_of_filter_key_eq {s s' : List α} (hs : s.Pairwise fun a b => key a ≤ key b)
    (hs' : s'.Pairwise fun a b => key a ≤ key b)
    (h : ∀ k, s.filter (key · = k) = s'.filter (key · = k)) : s = s' := by
  have hmem : ∀ a, a ∈ s ↔ a ∈ s' := by
    intro a
    have hk := congrArg (a ∈ ·) (h (key a))
    simpa using hk
  induction s generalizing s' with
  | nil => exact (List.eq_nil_iff_forall_not_mem.2 fun a ha => by simpa using (hmem a).2 ha).symm
  | cons a s ih =>
    cases s' with
    | nil => simpa using (hmem a).1 List.mem_cons_self
    | cons b s' =>
      rw [List.pairwise_cons] at hs hs'
      -- both heads have the smallest key
      have hkey : key a = key b := by
        refine le_antisymm ?_ ?_
        · rcases List.mem_cons.1 ((hmem b).2 List.mem_cons_self) with rfl | hb
          · exact le_rfl
          · exact hs.1 b hb
        · rcases List.mem_cons.1 ((hmem a).1 List.mem_cons_self) with rfl | ha
          · exact le_rfl
          · exact hs'.1 a ha
      have hhead := h (key a)
      simp only [List.filter_cons, hkey, decide_true, if_true, List.cons.injEq] at hhead
      obtain ⟨rfl, htail⟩ := hhead
      have hrest : ∀ k, s.filter (key · = k) = s'.filter (key · = k) := by
        intro k
        have hk := h k
        by_cases heq : key a = k
        · subst heq
          exact htail
        · simpa [List.filter_cons, heq] using hk
      rw [ih hs.2 hs'.2 hrest fun c => by
        have hc := congrArg (c ∈ ·) (hrest (key c))
        simpa using hc]

/-- **What a stable sort remembers**: the order of the elements with each key. -/
theorem sliceStable_eq_iff (hless : Compares less key) {l l' : List α} :
    sliceStable less l = sliceStable less l' ↔
      ∀ k, l.filter (key · = k) = l'.filter (key · = k) := by
  constructor
  · intro h k
    rw [← filter_key_sliceStable hless, h, filter_key_sliceStable hless]
  · intro h
    refine eq_of_filter_key_eq (pairwise_sliceStable hless l) (pairwise_sliceStable hless l') ?_
    intro k
    rw [filter_key_sliceStable hless, filter_key_sliceStable hless, h k]

/-- If elements with the same key are equal, their order is of no account. -/
theorem filter_key_eq_of_perm {l l' : List α} (hperm : l.Perm l')
    (hinj : ∀ a ∈ l, ∀ b ∈ l, key a = key b → a = b) (k : κ) :
    l.filter (key · = k) = l'.filter (key · = k) := by
  have hfilter := hperm.filter (key · = k)
  cases hl : l.filter (key · = k) with
  | nil =>
    rw [hl, List.nil_perm] at hfilter
    exact hfilter.symm
  | cons a rest =>
    have ha : a ∈ l.filter (key · = k) := hl ▸ List.mem_cons_self
    have hall : ∀ b ∈ a :: rest, b = a := by
      intro b hb
      rw [← hl] at hb
      rw [List.mem_filter, decide_eq_true_eq] at ha hb
      exact hinj b hb.1 a ha.1 (hb.2.trans ha.2.symm)
    rw [hl, List.eq_replicate_of_mem hall] at hfilter
    rw [List.eq_replicate_of_mem hall]
    exact (List.perm_replicate.1 hfilter.symm).symm

end Sorting

/-! ### Searching from the front -/

/-- Of two findings the first one, unless the second one is less. -/
def prefer (less : α → α → Bool) : Option α → Option α → Option α
  | none, later => later
  | some a, none => some a
  | some a, some b => if less b a then some b else some a

/-- The first of the smallest elements that satisfy `p`. -/
def firstLeast (less : α → α → Bool) (p : α → Bool) (l : List α) : Option α :=
  l.foldr (fun a found => if p a then prefer less (some a) found else found) none

section Searching

variable {p : α → Bool}

@[simp] theorem prefer_none (x : Option α) : prefer less x none = x := by
  cases x <;> rfl

@[simp] theorem none_prefer (x : Option α) : prefer less none x = x := by
  cases x <;> rfl

theorem prefer_assoc (hless : Compares less key) (x y z : Option α) :
    prefer less (prefer less x y) z = prefer less x (prefer less y z) := by
  cases x with
  | none => simp
  | some a =>
    cases y with
    | none => simp
    | some b =>
      cases z with
      | none => simp
      | some c =>
        simp only [prefer]
        by_cases hba : less b a = true
        · by_cases hcb : less c b = true
          · have hca : less c a = true :=
              (hless c a).2 (((hless c b).1 hcb).trans ((hless b a).1 hba))
            simp [hba, hcb, hca]
          · simp [hba, hcb]
        · by_cases hcb : less c b = true
          · simp [hba, hcb]
          · have hca : ¬ less c a = true := by
              rw [hless.not_less] at hba hcb ⊢
              exact hba.trans hcb
            simp [hba, hcb, hca]

theorem prefer_self (hless : Compares less key) (x : Option α) : prefer less x x = x := by
  cases x with
  | none => rfl
  | some a =>
    have ha : ¬ less a a = true := (hless.not_less a a).2 le_rfl
    simp [prefer, ha]

@[simp] theorem firstLeast_nil : firstLeast less p [] = none := rfl

theorem firstLeast_cons (a : α) (l : List α) : firstLeast less p (a :: l) =
    if p a then prefer less (some a) (firstLeast less p l) else firstLeast less p l := rfl

theorem firstLeast_append (hless : Compares less key) (l l' : List α) :
    firstLeast less p (l ++ l') = prefer less (firstLeast less p l) (firstLeast less p l') := by
  induction l with
  | nil => simp
  | cons a l ih =>
    rw [List.cons_append, firstLeast_cons, firstLeast_cons, ih]
    split_ifs
    · rw [prefer_assoc hless]
    · rfl

/-- Elements that come more than once make no difference. -/
theorem firstLeast_replicate (hless : Compares less key) {n : ℕ} (hn : n ≠ 0) (l : List α) :
    firstLeast less p (List.replicate n l).flatten = firstLeast less p l := by
  obtain ⟨n, rfl⟩ := Nat.exists_eq_succ_of_ne_zero hn
  induction n with
  | zero => simp
  | succ n ih =>
    rw [List.replicate_succ, List.flatten_cons, firstLeast_append hless, ih n.succ_ne_zero,
      prefer_self hless]

theorem firstLeast_eq_none {l : List α} :
    firstLeast less p l = none ↔ ∀ a ∈ l, ¬ p a = true := by
  induction l with
  | nil => simp
  | cons a l ih =>
    rw [firstLeast_cons, List.forall_mem_cons, ← ih]
    by_cases hp : p a = true
    · cases hfound : firstLeast less p l with
      | none => simp [hp]
      | some b =>
        simp only [hp, if_true, prefer, not_true, false_and, iff_false]
        split_ifs <;> simp
    · simp [hp]

/-- What is found satisfies `p`; no element that does is less, and those before it
are greater. -/
theorem firstLeast_eq_some (hless : Compares less key) {l : List α} {m : α}
    (h : firstLeast less p l = some m) :
    p m = true ∧ ∃ before after, l = before ++ m :: after ∧
      (∀ a ∈ before, p a = true → less m a = true) ∧
      ∀ a ∈ after, p a = true → ¬ less a m = true := by
  induction l generalizing m with
  | nil => cases h
  | cons a l ih =>
    rw [firstLeast_cons] at h
    by_cases hp : p a = true
    · rw [if_pos hp] at h
      cases hfound : firstLeast less p l with
      | none =>
        rw [hfound] at h
        cases h
        exact ⟨hp, [], l, rfl, by simp,
          fun b hb hpb => absurd hpb (firstLeast_eq_none.1 hfound b hb)⟩
      | some b =>
        obtain ⟨hpb, before, after, rfl, hbefore, hafter⟩ := ih hfound
        rw [hfound] at h
        by_cases hba : less b a = true
        · -- the element found behind `a` is less
          simp only [prefer, hba, if_true] at h
          cases h
          refine ⟨hpb, a :: before, after, rfl, ?_, hafter⟩
          exact List.forall_mem_cons.2 ⟨fun _ => hba, hbefore⟩
        · simp only [prefer, hba, Bool.false_eq_true, if_false] at h
          cases h
          refine ⟨hp, [], _, rfl, by simp, fun c hc hpc => ?_⟩
          rw [hless.not_less] at hba ⊢
          rcases List.mem_append.1 hc with hc | hc
          · exact hba.trans ((hless b c).1 (hbefore c hc hpc)).le
          · rcases List.mem_cons.1 hc with rfl | hc
            · exact hba
            · exact hba.trans ((hless.not_less b c).1 (hafter c hc hpc))
    · rw [if_neg hp] at h
      obtain ⟨hpm, before, after, rfl, hbefore, hafter⟩ := ih h
      refine ⟨hpm, a :: before, after, rfl, ?_, hafter⟩
      exact List.forall_mem_cons.2 ⟨fun hpa => absurd hpa hp, hbefore⟩

theorem find?_orderedInsert (hless : Compares less key) (a : α) {s : List α}
    (hs : s.Pairwise fun a b => key a ≤ key b) :
    (s.orderedInsert (fun a b => ¬ less b a = true) a).find? p =
      if p a then prefer less (some a) (s.find? p) else s.find? p := by
  induction s with
  | nil => cases hp : p a <;> simp [hp]
  | cons b s ih =>
    by_cases hab : ¬ less b a = true
    · rw [List.orderedInsert_cons_of_le _ _ hab, List.find?_cons]
      cases hp : p a with
      | false => rfl
      | true =>
        cases hfound : (b :: s).find? p with
        | none => rfl
        | some c =>
          -- nothing behind the new element is less
          have hca : ¬ less c a = true := by
            rw [hless.not_less] at hab ⊢
            rcases List.mem_cons.1 (List.mem_of_find?_eq_some hfound) with rfl | hmem
            · exact hab
            · exact hab.trans ((List.pairwise_cons.1 hs).1 c hmem)
          simp [prefer, hca]
    · rw [List.orderedInsert_of_not_le _ _ hab, List.find?_cons, List.find?_cons,
        ih (List.pairwise_cons.1 hs).2]
      rw [not_not] at hab
      cases hpb : p b with
      | false => rfl
      | true => cases hp : p a <;> simp [prefer, hab]

/-- **A search from the front of the sorted list** finds the first of the smallest
elements there are. -/
theorem find?_sliceStable (hless : Compares less key) (l : List α) :
    (sliceStable less l).find? p = firstLeast less p l := by
  induction l with
  | nil => rfl
  | cons a l ih =>
    rw [sliceStable_cons, find?_orderedInsert hless a (pairwise_sliceStable hless l), ih,
      firstLeast_cons]

end Searching

end GoStd
