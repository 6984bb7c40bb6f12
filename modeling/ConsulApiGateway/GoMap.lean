/-
Go maps.

A Go map is a finite partial function.  A `range` loop visits each entry once,
in an order the language leaves open, so code that ranges over a map is
modelled as a function of the visited list and the list is only required to
enumerate the map:

* `GoMap.Ranges m l` — the list `l` is one possible order of `range m`;
* `GoMap.lookup_writeBack_of_mem` — what is in a map after the objects of a
  batch that carry a mark have been written to it.

`GoSet.Ranges` is the same for a `map[K]struct{}`, modelled as a `Finset`.
-/
import ConsulApiGateway.Pointwise
import Mathlib.Data.Finmap
import Mathlib.Data.Finset.Dedup

/-- A Go map with keys in `K` and values in `V`. -/
abbrev GoMap (K V : Type*) := Finmap fun _ : K => V

namespace GoMap

variable {K V : Type*}

/-! ### Marked objects -/

/-- The objects that carry the mark. -/
def marked {α : Type*} (l : List (α × Bool)) : List α := (l.filter Prod.snd).map Prod.fst

section Marked

variable {key : V → K} {l : List (K × V)} {l' : List (V × Bool)} {R : K × V → V × Bool → Prop}

private theorem map_key_eq (hkey : ∀ p p', R p p' → key p'.1 = p.1) (h : List.Forall₂ R l l') :
    l'.map (fun p => key p.1) = l.map Prod.fst := by
  induction h with
  | nil => rfl
  | cons hp _ ih => rw [List.map_cons, List.map_cons, ih, hkey _ _ hp]

private theorem mem_batch {k : K} {v : V} :
    (k, v) ∈ (marked l').map (fun v => (key v, v)) ↔ (v, true) ∈ l' ∧ key v = k := by
  simp [marked, and_comm]

private theorem mem_batch_keys {k : K} :
    k ∈ ((marked l').map fun v => (key v, v)).map Prod.fst ↔ ∃ v, (v, true) ∈ l' ∧ key v = k := by
  simp [marked]

end Marked

/-! ### Lookups -/

variable [DecidableEq K]

variable {k : K} {v : V} {m : GoMap K V} {l l' : List (K × V)}

theorem lookup_insert_ite (m : GoMap K V) (a k : K) (v : V) :
    (m.insert a v).lookup k = if k = a then some v else m.lookup k := by
  by_cases h : k = a
  · subst h
    rw [Finmap.lookup_insert, if_pos rfl]
  · rw [Finmap.lookup_insert_of_ne _ h, if_neg h]

theorem lookup_insert_eq_some {a : K} {w : V} :
    (m.insert a v).lookup k = some w ↔ k = a ∧ w = v ∨ k ≠ a ∧ m.lookup k = some w := by
  rw [lookup_insert_ite]
  by_cases h : k = a
  · simp [h, eq_comm]
  · simp [h]

theorem lookup_erase_ite (m : GoMap K V) (a k : K) :
    (m.erase a).lookup k = if k = a then none else m.lookup k := by
  by_cases h : k = a
  · subst h
    rw [Finmap.lookup_erase, if_pos rfl]
  · rw [Finmap.lookup_erase_ne h, if_neg h]

theorem lookup_union_ite (m m' : GoMap K V) (k : K) :
    (m ∪ m').lookup k = if k ∈ m then m.lookup k else m'.lookup k := by
  by_cases h : k ∈ m
  · rw [Finmap.lookup_union_left h, if_pos h]
  · rw [Finmap.lookup_union_right h, if_neg h]

/-- The entries whose keys are not in another map. -/
def diff {W : Type*} (m : GoMap K V) (other : GoMap K W) : GoMap K V where
  entries := m.entries.filter fun entry => entry.1 ∉ other
  nodupKeys := by
    rw [← Multiset.nodup_keys]
    exact Multiset.nodup_of_le (Multiset.map_le_map (Multiset.filter_le _ _))
      (Multiset.nodup_keys.2 m.nodupKeys)

theorem lookup_diff {W : Type*} (m : GoMap K V) (other : GoMap K W) (k : K) :
    (diff m other).lookup k = if k ∈ other then none else m.lookup k := by
  ext v
  simp only [Finmap.lookup_eq_some_iff, diff, Multiset.mem_filter]
  by_cases h : k ∈ other
  · simp [h]
  · simp [h, Finmap.lookup_eq_some_iff]

/-- The map with every value changed by `f`. -/
def mapValues {W : Type*} (f : V → W) (m : GoMap K V) : GoMap K W where
  entries := m.entries.map fun entry => ⟨entry.1, f entry.2⟩
  nodupKeys := by
    rw [← Multiset.nodup_keys, Multiset.keys, Multiset.map_map]
    exact Multiset.nodup_keys.2 m.nodupKeys

theorem lookup_mapValues {W : Type*} (f : V → W) (m : GoMap K V) (k : K) :
    (mapValues f m).lookup k = (m.lookup k).map f := by
  ext w
  simp only [Finmap.lookup_eq_some_iff, mapValues, Multiset.mem_map, Option.map_eq_some_iff]
  constructor
  · rintro ⟨⟨k', v⟩, hmem, heq⟩
    cases heq
    exact ⟨v, hmem, rfl⟩
  · rintro ⟨v, hmem, rfl⟩
    exact ⟨⟨k, v⟩, hmem, rfl⟩

/-! ### Orders of `range` -/

/-- One possible order in which `range m` visits the entries of `m`. -/
def Ranges (m : GoMap K V) (l : List (K × V)) : Prop :=
  (l.map Prod.fst).Nodup ∧ ∀ k v, (k, v) ∈ l ↔ m.lookup k = some v

theorem Ranges.mem_iff (h : Ranges m l) :
    (k, v) ∈ l ↔ m.lookup k = some v := h.2 k v

theorem Ranges.mem_keys (h : Ranges m l) :
    k ∈ l.map Prod.fst ↔ k ∈ m := by
  rw [Finmap.mem_iff, List.mem_map]
  constructor
  · rintro ⟨⟨k', v⟩, hp, rfl⟩
    exact ⟨v, h.mem_iff.mp hp⟩
  · rintro ⟨v, hv⟩
    exact ⟨(k, v), h.mem_iff.mpr hv, rfl⟩

/-- The orders of a map are the rearrangements of any one of them. -/
theorem Ranges.ranges_iff_perm (h : Ranges m l) :
    Ranges m l' ↔ l'.Perm l := by
  constructor
  · intro h'
    refine (List.perm_ext_iff_of_nodup h'.1.of_map h.1.of_map).2 ?_
    rintro ⟨k, v⟩
    rw [h'.mem_iff, h.mem_iff]
  · intro hperm
    exact ⟨(hperm.map Prod.fst).nodup_iff.2 h.1, fun k v => hperm.mem_iff.trans (h.2 k v)⟩

/-- The empty map has nothing to visit. -/
theorem ranges_empty : Ranges (∅ : GoMap K V) [] :=
  ⟨List.nodup_nil, by simp⟩

/-- A new entry may be visited first. -/
theorem Ranges.insert (h : Ranges m l) (v : V) (hk : m.lookup k = none) :
    Ranges (m.insert k v) ((k, v) :: l) := by
  have hnot : k ∉ l.map Prod.fst := by
    rw [h.mem_keys, ← Finmap.lookup_eq_none]
    exact hk
  refine ⟨List.nodup_cons.mpr ⟨hnot, h.1⟩, fun k' v' => ?_⟩
  rw [lookup_insert_ite, List.mem_cons, h.mem_iff, Prod.mk.injEq]
  by_cases heq : k' = k
  · subst heq
    simp [hk, eq_comm]
  · simp [heq]

theorem ranges_singleton (k : K) (v : V) : Ranges ((∅ : GoMap K V).insert k v) [(k, v)] :=
  ranges_empty.insert v (Finmap.lookup_empty k)

/-- Every map can be visited. -/
theorem exists_ranges (m : GoMap K V) : ∃ l, Ranges m l := by
  induction m using Finmap.induction_on with
  | _ s =>
    refine ⟨s.entries.map fun p => (p.1, p.2), ?_, fun k v => ?_⟩
    · rw [List.map_map]
      exact s.nodupKeys
    · rw [Finmap.lookup_toFinmap, ← Option.mem_def, AList.mem_lookup_iff, List.mem_map]
      constructor
      · rintro ⟨⟨k', v'⟩, hmem, heq⟩
        cases heq
        exact hmem
      · exact fun hmem => ⟨⟨k, v⟩, hmem, rfl⟩

/-- Every list with different keys is an order of some map. -/
theorem exists_of_nodup (h : (l.map Prod.fst).Nodup) : ∃ m, Ranges m l := by
  induction l with
  | nil => exact ⟨∅, ranges_empty⟩
  | cons p l ih =>
    obtain ⟨k, v⟩ := p
    rw [List.map_cons, List.nodup_cons] at h
    obtain ⟨m, hm⟩ := ih h.2
    refine ⟨m.insert k v, hm.insert v ?_⟩
    exact Finmap.lookup_eq_none.2 fun hmem => h.1 (hm.mem_keys.2 hmem)

/-- A map of choices, one for each entry. -/
theorem exists_choice {W : Type*} {R : K → V → W → Prop}
    (h : ∀ k v, m.lookup k = some v → ∃ w, R k v w) :
    ∃ m' : GoMap K W, ∀ k, Option.Rel (fun w v => R k v w) (m'.lookup k) (m.lookup k) := by
  choose w hw using h
  obtain ⟨l, hl⟩ := exists_ranges m
  have hnodup : ((l.attach.map fun p => (p.1.1, w p.1.1 p.1.2 (hl.mem_iff.1 p.2))).map
      Prod.fst).Nodup := by
    rw [List.map_map]
    have hkeys : l.attach.map (Prod.fst ∘ Subtype.val) = l.map Prod.fst := by
      rw [← List.map_map, List.attach_map_subtype_val]
    exact hkeys ▸ hl.1
  obtain ⟨m', hm'⟩ := exists_of_nodup hnodup
  refine ⟨m', fun k => ?_⟩
  cases hv : m.lookup k with
  | some v =>
    have hlook : m'.lookup k = some (w k v hv) := hm'.mem_iff.1
      (List.mem_map.2 ⟨⟨(k, v), hl.mem_iff.2 hv⟩, List.mem_attach _ _, rfl⟩)
    rw [hlook]
    exact .some (hw k v hv)
  | none =>
    cases hlook : m'.lookup k with
    | none => exact .none
    | some w' =>
      obtain ⟨⟨⟨k', v⟩, hp⟩, -, heq⟩ := List.mem_map.1 (hm'.mem_iff.2 hlook)
      cases heq
      rw [hl.mem_iff.1 hp] at hv
      cases hv

/-- A key is visited once. -/
theorem Ranges.filter_key (h : Ranges m l) (hk : m.lookup k = some v) :
    l.filter (fun p => p.1 = k) = [(k, v)] := by
  have hmem := h.mem_iff.mpr hk
  have hnodup := h.1
  clear h
  induction l with
  | nil => cases hmem
  | cons p l ih =>
    rw [List.map_cons, List.nodup_cons] at hnodup
    rcases List.mem_cons.mp hmem with rfl | hmem
    · have hrest : l.filter (fun p => p.1 = k) = [] := by
        rw [List.filter_eq_nil_iff]
        intro p hp hpk
        exact hnodup.1 (List.mem_map.mpr ⟨p, hp, by simpa using hpk⟩)
      simp [hrest]
    · have hne : p.1 ≠ k := by
        rintro rfl
        exact hnodup.1 (List.mem_map.mpr ⟨(p.1, v), hmem, rfl⟩)
      simp [hne, ih hmem hnodup.2]

theorem Ranges.eq_nil (h : Ranges (∅ : GoMap K V) l) : l = [] := by
  rw [List.eq_nil_iff_forall_not_mem]
  rintro ⟨k, v⟩ hp
  have := h.mem_iff.mp hp
  simp at this

/-- Deleting a key that is not there changes nothing. -/
theorem erase_of_notMem (h : k ∉ m) : m.erase k = m := by
  refine Finmap.ext_lookup fun k' => ?_
  rw [lookup_erase_ite]
  split
  · next heq => rw [heq, Finmap.lookup_eq_none.mpr h]
  · rfl

/-! ### Batches of insertions -/

/-- Store the records of `l` one after the other. -/
def insertAll (m : GoMap K V) (l : List (K × V)) : GoMap K V :=
  l.foldl (fun m p => m.insert p.1 p.2) m

@[simp] theorem insertAll_cons (m : GoMap K V) (p : K × V) (l : List (K × V)) :
    insertAll m (p :: l) = insertAll (m.insert p.1 p.2) l := rfl

/-- Keys outside the batch keep their value. -/
theorem lookup_insertAll_of_notMem (h : k ∉ l.map Prod.fst) (m : GoMap K V) :
    (insertAll m l).lookup k = m.lookup k := by
  induction l generalizing m with
  | nil => rfl
  | cons p l ih =>
    rw [List.map_cons, List.mem_cons, not_or] at h
    rw [insertAll_cons, ih h.2, Finmap.lookup_insert_of_ne _ h.1]

/-- A batch with distinct keys stores each of its records. -/
theorem lookup_insertAll_of_mem (hl : (l.map Prod.fst).Nodup) (h : (k, v) ∈ l) (m : GoMap K V) :
    (insertAll m l).lookup k = some v := by
  induction l generalizing m with
  | nil => cases h
  | cons p l ih =>
    rw [List.map_cons, List.nodup_cons] at hl
    rw [insertAll_cons]
    rcases List.mem_cons.mp h with rfl | h
    · rw [lookup_insertAll_of_notMem hl.1, Finmap.lookup_insert]
    · exact ih hl.2 h _

/-- What a batch stores is what it consists of exactly if its keys are distinct. -/
theorem Ranges.perm_batch_iff (h : Ranges (insertAll ∅ l) l') :
    l'.Perm l ↔ (l.map Prod.fst).Nodup := by
  constructor
  · intro hperm
    exact (hperm.map Prod.fst).nodup_iff.1 h.1
  · intro hnodup
    refine (List.perm_ext_iff_of_nodup h.1.of_map hnodup.of_map).2 ?_
    rintro ⟨k, v⟩
    rw [h.mem_iff]
    refine ⟨fun hlook => ?_, fun hmem => lookup_insertAll_of_mem hnodup hmem ∅⟩
    by_cases hk : k ∈ l.map Prod.fst
    · obtain ⟨⟨k', v'⟩, hmem, rfl⟩ := List.mem_map.1 hk
      cases (lookup_insertAll_of_mem hnodup hmem ∅).symm.trans hlook
      exact hmem
    · rw [lookup_insertAll_of_notMem hk] at hlook
      simp at hlook

/-- Store the objects of `l` that carry the mark, each under its own key. -/
def writeBack (key : V → K) (m : GoMap K V) (l : List (V × Bool)) : GoMap K V :=
  insertAll m ((marked l).map fun v => (key v, v))

section WriteBack

variable {key : V → K} {m : GoMap K V} {l : List (K × V)} {l' : List (V × Bool)}
  {R : K × V → V × Bool → Prop}

/-- A visited entry is replaced if its object came back with the mark. -/
theorem lookup_writeBack_of_mem (hl : Ranges m l) (hkey : ∀ p p', R p p' → key p'.1 = p.1)
    (h : List.Forall₂ R l l') {k : K} {v : V} (hk : m.lookup k = some v) :
    ∃ v' b, R (k, v) (v', b) ∧
      (writeBack key m l').lookup k = some (if b then v' else v) := by
  have hnodup : (l'.map fun p => key p.1).Nodup := by
    rw [map_key_eq hkey h]
    exact hl.1
  obtain ⟨⟨v', b⟩, hmem, hR⟩ := h.exists_right (hl.mem_iff.mpr hk)
  have hkv : key v' = k := hkey _ _ hR
  refine ⟨v', b, hR, ?_⟩
  cases b with
  | true =>
    refine lookup_insertAll_of_mem ?_ (mem_batch.mpr ⟨hmem, hkv⟩) m
    have hsub : List.Sublist (((marked l').map fun v => (key v, v)).map Prod.fst)
        (l'.map fun p => key p.1) := by
      have := (List.filter_sublist (l := l') (p := Prod.snd)).map fun p => key p.1
      simpa [marked, Function.comp_def] using this
    exact hnodup.sublist hsub
  | false =>
    refine (lookup_insertAll_of_notMem ?_ m).trans hk
    rw [mem_batch_keys]
    rintro ⟨v₁, hv₁, hk₁⟩
    -- two objects with one key are the same object
    have heq := List.inj_on_of_nodup_map hnodup hv₁ hmem (hk₁.trans hkv.symm)
    cases heq

/-- Nothing is written under a key that was not visited. -/
theorem lookup_writeBack_of_notMem (hl : Ranges m l) (hkey : ∀ p p', R p p' → key p'.1 = p.1)
    (h : List.Forall₂ R l l') {k : K} (hk : m.lookup k = none) :
    (writeBack key m l').lookup k = none := by
  refine (lookup_insertAll_of_notMem ?_ m).trans hk
  rw [mem_batch_keys]
  rintro ⟨v, hv, rfl⟩
  have hmem : key v ∈ l.map Prod.fst := by
    rw [← map_key_eq hkey h]
    exact List.mem_map_of_mem hv
  rw [hl.mem_keys, ← Finmap.lookup_isSome, hk] at hmem
  cases hmem

end WriteBack

end GoMap

namespace GoSet

variable {K : Type*}

/-- One possible order in which a `range` loop visits the set `s`. -/
def Ranges (s : Finset K) (l : List K) : Prop :=
  l.Nodup ∧ ∀ k, k ∈ l ↔ k ∈ s

theorem Ranges.mem_iff {s : Finset K} {l : List K} (h : Ranges s l) {k : K} :
    k ∈ l ↔ k ∈ s := h.2 k

theorem Ranges.of_toFinset [DecidableEq K] {s : Finset K} {l : List K} (hnodup : l.Nodup)
    (h : l.toFinset = s) :
    Ranges s l :=
  ⟨hnodup, fun k => by rw [← h, List.mem_toFinset]⟩

theorem Ranges.perm {s : Finset K} {l l' : List K} (h : Ranges s l) (h' : Ranges s l') :
    l'.Perm l :=
  (List.perm_ext_iff_of_nodup h'.1 h.1).2 fun k => (h'.2 k).trans (h.2 k).symm

theorem Ranges.of_perm {s : Finset K} {l l' : List K} (h : Ranges s l) (hperm : l'.Perm l) :
    Ranges s l' :=
  ⟨hperm.nodup_iff.2 h.1, fun k => hperm.mem_iff.trans (h.2 k)⟩

end GoSet

theorem GoMap.Ranges.keys {K V : Type*} [DecidableEq K] {m : GoMap K V} {l : List (K × V)}
    (h : GoMap.Ranges m l) : GoSet.Ranges (Finmap.keys m) (l.map Prod.fst) :=
  ⟨h.1, fun _ => h.mem_keys.trans Finmap.mem_keys.symm⟩

/-- The order in which one `range` statement visits a map whose entries are kept
as a list. -/
structure RangeOrder where
  visit : {α : Type} → List α → List α
  perm : ∀ {α : Type} (l : List α), (visit l).Perm l

/-- The order of the list itself. -/
def RangeOrder.listed : RangeOrder := ⟨fun l => l, fun _ => .refl _⟩

/-- The first entry comes first, and the others in the given order. -/
def RangeOrder.cons (order : RangeOrder) : RangeOrder where
  visit
    | [] => []
    | a :: l => a :: order.visit l
  perm
    | [] => .nil
    | a :: l => (order.perm l).cons a

/-- The first two entries change places. -/
def RangeOrder.swap : RangeOrder where
  visit
    | a :: b :: l => b :: a :: l
    | l => l
  perm
    | [] => .nil
    | [_] => .refl _
    | a :: b :: l => .swap a b l

/-- The second order, applied to the entries in the first one. -/
def RangeOrder.comp (order order' : RangeOrder) : RangeOrder where
  visit l := order'.visit (order.visit l)
  perm l := (order'.perm _).trans (order.perm l)

/-- Every rearrangement of the entries is the order of some `range`. -/
theorem RangeOrder.exists_visit {α : Type} {l l' : List α} (h : l.Perm l') :
    ∃ order : RangeOrder, order.visit l = l' := by
  induction h with
  | nil => exact ⟨.listed, rfl⟩
  | cons a _ ih =>
    obtain ⟨order, rfl⟩ := ih
    exact ⟨order.cons, rfl⟩
  | swap a b l => exact ⟨.swap, rfl⟩
  | trans _ _ ih ih' =>
    obtain ⟨order, rfl⟩ := ih
    obtain ⟨order', rfl⟩ := ih'
    exact ⟨order.comp order', rfl⟩
