/-
Blocks in any order.

A list is put together from blocks, one for each member of a collection that is
visited in an order that is not known, and then sorted by a key.  What comes out is
only looked at through a function.

* `map_key_sliceStable_eq_iff` — two lists look the same once they are sorted exactly
  if their parts do, key by key;
* `pairwise_interchangeable_iff` — the order of the blocks makes no difference
  exactly if any two of them can be interchanged.
-/
import ConsulApiGateway.StableSort
import Mathlib.Algebra.BigOperators.Group.List.Lemmas
import Mathlib.Algebra.FreeMonoid.Basic

namespace GoStd

variable {α β ι κ : Type*} [LinearOrder κ] {less : α → α → Bool} {key : α → κ} {f : α → β}

/-! ### Parts -/

/-- The elements with a key, as `f` shows them. -/
def part (key : α → κ) (f : α → β) (k : κ) (l : List α) : List β :=
  (l.filter (key · = k)).map f

@[simp] theorem part_append (k : κ) (l l' : List α) :
    part key f k (l ++ l') = part key f k l ++ part key f k l' := by
  simp [part]

theorem part_flatMap (k : κ) (l : List ι) (block : ι → List α) :
    part key f k (l.flatMap block) = l.flatMap fun i => part key f k (block i) := by
  induction l with
  | nil => rfl
  | cons i l ih => rw [List.flatMap_cons, part_append, ih, List.flatMap_cons]

theorem part_replicate (k : κ) (n : ℕ) (l : List α) :
    part key f k (List.replicate n l).flatten = (List.replicate n (part key f k l)).flatten := by
  induction n with
  | zero => rfl
  | succ n ih => simp only [List.replicate_succ, List.flatten_cons, part_append, ih]

/-- A list that is repeated shows the list. -/
theorem eq_of_replicate_flatten {n : ℕ} (hn : n ≠ 0) {l l' : List β}
    (h : (List.replicate n l).flatten = (List.replicate n l').flatten) : l = l' := by
  have hlength := congrArg List.length h
  simp only [List.length_flatten, List.map_replicate, List.sum_replicate, smul_eq_mul] at hlength
  obtain ⟨n, rfl⟩ := Nat.exists_eq_succ_of_ne_zero hn
  rw [List.replicate_succ, List.replicate_succ] at h
  exact (List.append_inj h (Nat.eq_of_mul_eq_mul_left n.succ_pos hlength)).1

/-- **What a sorted list shows** next to the keys: the parts of the list, key by
key. -/
theorem map_key_sliceStable_eq_iff (hless : Compares less key) {l l' : List α} :
    (sliceStable less l).map (fun a => (key a, f a)) =
        (sliceStable less l').map (fun a => (key a, f a)) ↔
      ∀ k, part key f k l = part key f k l' := by
  have hpair : Compares (fun p q : κ × β => decide (p.1 < q.1)) Prod.fst :=
    fun p q => decide_eq_true_iff
  have hmap : ∀ l : List α, (sliceStable less l).map (fun a => (key a, f a)) =
      sliceStable (fun p q : κ × β => decide (p.1 < q.1)) (l.map fun a => (key a, f a)) := by
    intro l
    refine List.map_insertionSort _ _ _ _ fun a _ b _ => ?_
    rw [hless b a, decide_eq_true_iff]
  have hfilter : ∀ (l : List α) (k : κ),
      (l.map fun a => (key a, f a)).filter (fun p => p.1 = k) =
        (part key f k l).map (Prod.mk k) := by
    intro l k
    rw [part, List.filter_map, List.map_map]
    refine List.map_congr_left fun a ha => ?_
    simpa using List.of_mem_filter ha
  rw [hmap, hmap, sliceStable_eq_iff hpair]
  simp only [hfilter]
  refine forall_congr' fun k => ⟨fun h => ?_, fun h => by rw [h]⟩
  exact List.map_injective_iff.2 (Prod.mk_right_injective k) h

theorem map_sliceStable_eq_of_parts (hless : Compares less key) {l l' : List α}
    (h : ∀ k, part key f k l = part key f k l') :
    (sliceStable less l).map f = (sliceStable less l').map f := by
  have hsnd := congrArg (List.map Prod.snd) ((map_key_sliceStable_eq_iff hless).2 h)
  rwa [List.map_map, List.map_map] at hsnd

/-- Two arrangements of a list are sorted to the same keys, so that these need not
be shown. -/
theorem parts_eq_of_map_sliceStable (hless : Compares less key) {l l' : List α}
    (hperm : l.Perm l') (h : (sliceStable less l).map f = (sliceStable less l').map f) (k : κ) :
    part key f k l = part key f k l' := by
  have hkeys : (sliceStable less l).map key = (sliceStable less l').map key := by
    have hsorted : ∀ l : List α, ((sliceStable less l).map key).Pairwise (· ≤ ·) := fun l =>
      List.pairwise_map.2 (pairwise_sliceStable hless l)
    have hsort : ∀ l : List α, (sliceStable less l).Perm l := fun l => List.perm_insertionSort _ l
    exact List.Perm.eq_of_pairwise (fun a b _ _ => le_antisymm) (hsorted l) (hsorted l')
      (((hsort l).trans (hperm.trans (hsort l').symm)).map key)
  have hzip : ∀ l : List α, l.map (fun a => (key a, f a)) = (l.map key).zip (l.map f) :=
    fun l => (List.zip_map' ..).symm
  refine (map_key_sliceStable_eq_iff hless).1 ?_ k
  rw [hzip, hzip, hkeys, h]

/-! ### Interchangeable blocks -/

/-- Whichever of the blocks comes first, their elements with each key show the
same. -/
def Interchangeable (key : α → κ) (f : α → β) (u v : List α) : Prop :=
  ∀ k, part key f k u ++ part key f k v = part key f k v ++ part key f k u

instance symm_interchangeable (block : ι → List α) :
    Std.Symm fun i j => Interchangeable key f (block i) (block j) :=
  ⟨fun _ _ h k => (h k).symm⟩

/-- Blocks without a key in common. -/
theorem interchangeable_of_ne {u v : List α} (h : ∀ a ∈ u, ∀ b ∈ v, key a ≠ key b) :
    Interchangeable key f u v := by
  have hnil : ∀ {k : κ} {l : List α}, (∀ a ∈ l, key a ≠ k) → part key f k l = [] := by
    intro k l hne
    rw [part, List.filter_eq_nil_iff.2 fun a ha => by simpa using hne a ha, List.map_nil]
  intro k
  by_cases hk : ∃ a ∈ u, key a = k
  · obtain ⟨a, ha, rfl⟩ := hk
    rw [hnil fun b hb heq => h a ha b hb heq.symm, List.append_nil, List.nil_append]
  · rw [hnil fun a ha heq => hk ⟨a, ha, heq⟩, List.append_nil, List.nil_append]

/-- **The order of blocks makes no difference** exactly if any two of them can be
interchanged. -/
theorem pairwise_interchangeable_iff {l : List ι} {block : ι → List α} :
    l.Pairwise (fun i j => Interchangeable key f (block i) (block j)) ↔
      ∀ l' : List ι, l'.Perm l → ∀ k,
        part key f k (l'.flatMap block) = part key f k (l.flatMap block) := by
  constructor
  · intro h l' hperm k
    -- the parts are a product of elements that commute
    have hprod : ∀ l : List ι, part key f k (l.flatMap block) =
        FreeMonoid.toList (l.map fun i => FreeMonoid.ofList (part key f k (block i))).prod := by
      intro l
      have hparts := FreeMonoid.ofList_flatten (l.map fun i => part key f k (block i))
      rw [List.map_map] at hparts
      rw [part_flatMap]
      exact congrArg FreeMonoid.toList hparts
    rw [hprod, hprod]
    refine congrArg _ (((hperm.map _).symm.prod_eq' ?_).symm)
    exact List.pairwise_map.2 (h.imp fun {i j} hij => hij k)
  · intro h
    rw [List.pairwise_iff_forall_sublist]
    intro i j hsub k
    obtain ⟨rest, hrest⟩ := hsub.exists_perm_append
    have hij := h (i :: j :: rest) hrest.symm k
    have hji := h (j :: i :: rest) ((List.Perm.swap i j rest).trans hrest.symm) k
    have heq := hij.trans hji.symm
    simp only [List.flatMap_cons, part_append, ← List.append_assoc] at heq
    exact List.append_cancel_right heq

end GoStd
