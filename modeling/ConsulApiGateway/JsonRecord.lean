/-
Records as JSON objects (`encoding/json`).

A record is written as an object with a member for each of its fields, without those that are empty
where the field says so.  It is read into a record that is there already: each member goes to the
field of its name, a name that differs in upper and lower case will do, and members without a field
are skipped.

* `read_write` — what is written of each field is what is read back into it, so that a record is
  read back field by field.
-/
import ConsulApiGateway.GoMap
import ConsulApiGateway.Json
import Mathlib.Data.Finset.Sort
import Mathlib.Data.String.Basic

namespace JsonRecord

open GoStd (Json)

/-- How the values of a type are written, and read into a value that is there already. -/
structure Codec (A : Type) where
  write : A → Json
  read : Json → A → Option A

namespace Codec

variable {A : Type}

def bool : Codec Bool where
  write := .bool
  read
    | .bool b, _ => some b
    | .null, b => some b
    | _, _ => none

def string : Codec String where
  write := .str
  read
    | .str s, _ => some s
    | .null, s => some s
    | _, _ => none

/-- An integer of so many bits. -/
def int (bits : ℕ) : Codec ℤ where
  write := .num
  read
    | .num n, _ => if -2 ^ (bits - 1) ≤ n ∧ n < 2 ^ (bits - 1) then some n else none
    | .null, n => some n
    | _, _ => none

/-- A pointer; what it points to is read into the zero value if it is nil. -/
def pointer (zero : A) (codec : Codec A) : Codec (Option A) where
  write a := (a.map codec.write).getD .null
  read
    | .null, _ => some none
    | v, a => (codec.read v (a.getD zero)).map some

/-- A slice, which may be nil. -/
def slice (zero : A) (codec : Codec A) : Codec (Option (List A)) where
  write l := (l.map fun l => .arr (l.map codec.write)).getD .null
  read
    | .arr vs, _ => (vs.mapM fun v => codec.read v zero).map some
    | .null, _ => some none
    | _, _ => none

/-- A map, whose keys are written in order. -/
def stringMap : Codec (GoMap String String) where
  write m := .obj ((m.keys.sort (· ≤ ·)).map fun k => (k, .str ((m.lookup k).getD "")))
  read
    | .obj members, m => members.foldlM (fun (m : GoMap String String) p =>
        (string.read p.2 "").map fun s => m.insert p.1 s) m
    | .null, _ => some ∅
    | _, _ => none

end Codec

/-! ### Fields -/

/-- A field of a record: its member if there is one, and how a member is read into it. -/
structure StructField (S : Type) where
  name : String
  member : S → Option Json
  read : Json → S → Option S

variable {S A : Type}

/-- A field that is omitted when it is empty. -/
def StructField.omitEmpty (name : String) (get : S → A) (set : A → S → S) (codec : Codec A)
    (empty : A → Bool) : StructField S where
  name := name
  member s := if empty (get s) then none else some (codec.write (get s))
  read v s := (codec.read v (get s)).map fun a => set a s

/-- A field that is always written, such as that of a record. -/
def StructField.always (name : String) (get : S → A) (set : A → S → S) (codec : Codec A) :
    StructField S :=
  .omitEmpty name get set codec fun _ => false

/-- Letters are the same in upper and lower case; besides these, two characters are read as the
letters they look like. -/
def foldChar (c : Char) : Char :=
  if c.toNat = 0x212A then 'k' else if c.toNat = 0x17F then 's' else c.toLower

def equalFold (a b : String) : Bool := a.toList.map foldChar = b.toList.map foldChar

def fieldNamed (fields : List (StructField S)) (name : String) : Option (StructField S) :=
  (fields.find? fun f => f.name = name).or (fields.find? fun f => equalFold f.name name)

/-- A member is read into the record. -/
def assign (fields : List (StructField S)) (s : S) (m : String × Json) : Option S :=
  match fieldNamed fields m.1 with
  | none => some s
  | some f => f.read m.2 s

def members (fields : List (StructField S)) (s : S) : List (String × Json) :=
  fields.filterMap fun f => (f.member s).map fun v => (f.name, v)

def record (fields : List (StructField S)) : Codec S where
  write s := .obj (members fields s)
  read
    | .obj ms, s => ms.foldlM (assign fields) s
    | .null, s => some s
    | _, _ => none

/-! ### Reading what was written -/

/-- What was written of the field of `s` is read into a record. -/
def restore (s : S) (acc : S) (f : StructField S) : Option S :=
  match f.member s with
  | none => some acc
  | some v => f.read v acc

theorem fieldNamed_of_mem {fields : List (StructField S)}
    (hnodup : (fields.map StructField.name).Nodup)
    {f : StructField S} (hf : f ∈ fields) : fieldNamed fields f.name = some f := by
  have hfind : (fields.find? fun f' => f'.name = f.name) = some f := by
    induction fields with
    | nil => cases hf
    | cons f' fields ih =>
      rw [List.map_cons, List.nodup_cons] at hnodup
      rcases List.mem_cons.1 hf with rfl | hf
      · simp
      · have hne : f'.name ≠ f.name := fun heq => hnodup.1 (heq ▸ List.mem_map_of_mem hf)
        rw [List.find?_cons_of_neg (by simpa using hne)]
        exact ih hnodup.2 hf
  rw [fieldNamed, hfind]
  rfl

theorem foldlM_members {fields fs : List (StructField S)}
    (hnodup : (fields.map StructField.name).Nodup)
    (hfs : fs ⊆ fields) (s acc : S) :
    (members fs s).foldlM (assign fields) acc = fs.foldlM (restore s) acc := by
  induction fs generalizing acc with
  | nil => rfl
  | cons f fs ih =>
    rw [List.cons_subset] at hfs
    rw [List.foldlM_cons, restore]
    cases hmember : f.member s with
    | none =>
      rw [members, List.filterMap_cons_none (by rw [hmember]; rfl)]
      exact ih hfs.2 acc
    | some v =>
      rw [members, List.filterMap_cons_some (by rw [hmember]; rfl), List.foldlM_cons, assign,
        fieldNamed_of_mem hnodup hfs.1]
      exact congrArg _ (funext fun acc => ih hfs.2 acc)

/-- **A record is read back field by field.** -/
theorem read_write {fields : List (StructField S)}
    (hnodup : (fields.map StructField.name).Nodup) (s acc : S) :
    (record fields).read ((record fields).write s) acc = fields.foldlM (restore s) acc :=
  foldlM_members hnodup (List.Subset.refl _) s acc

/-- A field is read back, if it is not empty or is read into the value that the empty one stands
for. -/
theorem restore_omitEmpty {name : String} {get : S → A} {set : A → S → S} {codec : Codec A}
    {empty : A → Bool} {s acc : S} {a : A}
    (hread : empty (get s) = false → codec.read (codec.write (get s)) (get acc) = some a)
    (hempty : empty (get s) = true → set a acc = acc) :
    restore s acc (.omitEmpty name get set codec empty) = some (set a acc) := by
  unfold restore StructField.omitEmpty
  dsimp only
  cases h : empty (get s) with
  | true => exact congrArg some (hempty h).symm
  | false =>
    rw [if_neg Bool.false_ne_true]
    dsimp only
    rw [hread h]
    rfl

theorem restore_always {name : String} (get : S → A) {set : A → S → S} {codec : Codec A} {s acc : S}
    {zero a : A} (hread : codec.read (codec.write (get s)) zero = some a) (hzero : get acc = zero) :
    restore s acc (.always name get set codec) = some (set a acc) :=
  restore_omitEmpty (fun _ => hzero ▸ hread) fun h => by cases h

/-- A field is read back into a record in which it is zero, if only zero is empty. -/
theorem restore_of_zero {name : String} {get : S → A} {set : A → S → S} {codec : Codec A}
    {empty : A → Bool} {s acc : S} {zero : A} (hzero : get acc = zero)
    (hset : set (get acc) acc = acc) (hempty : empty (get s) = true → get s = zero)
    (hread : codec.read (codec.write (get s)) zero = some (get s)) :
    restore s acc (.omitEmpty name get set codec empty) = some (set (get s) acc) := by
  refine restore_omitEmpty (fun _ => hzero ▸ hread) fun h => ?_
  rw [hempty h, ← hzero, hset]

namespace Codec

theorem read_int {bits : ℕ} {n : ℤ} (hn : -2 ^ (bits - 1) ≤ n ∧ n < 2 ^ (bits - 1)) (m : ℤ) :
    (int bits).read ((int bits).write n) m = some n := if_pos hn

theorem read_slice {zero : A} {codec : Codec A} {l : List A}
    (h : ∀ a ∈ l, codec.read (codec.write a) zero = some a) (current : Option (List A)) :
    (slice zero codec).read ((slice zero codec).write (some l)) current = some (some l) := by
  have hmapM : (l.map codec.write).mapM (fun v => codec.read v zero) = some l := by
    induction l with
    | nil => rfl
    | cons a l ih =>
      rw [List.map_cons, List.mapM_cons, h a List.mem_cons_self,
        ih fun a' ha' => h a' (List.mem_cons_of_mem _ ha')]
      rfl
  exact congrArg (Option.map some) hmapM

theorem read_stringMap (m : GoMap String String) :
    stringMap.read (stringMap.write m) ∅ = some m := by
  have hinsert : ∀ (l : List (String × String)) (m : GoMap String String),
      (l.map fun p => (p.1, Json.str p.2)).foldlM (fun (m : GoMap String String) p =>
        (string.read p.2 "").map fun s => m.insert p.1 s) m = some (m.insertAll l) := by
    intro l
    induction l with
    | nil => exact fun _ => rfl
    | cons p l ih => exact fun m => ih _
  have hwrite : stringMap.write m = .obj (((m.keys.sort (· ≤ ·)).map fun k =>
      (k, (m.lookup k).getD "")).map fun p => (p.1, Json.str p.2)) := by
    rw [List.map_map]
    rfl
  rw [hwrite]
  refine (hinsert _ ∅).trans (congrArg some (Finmap.ext_lookup fun k => ?_))
  -- the keys are written once each, so no later one overwrites
  have hkeys : ((m.keys.sort (· ≤ ·)).map fun k => (k, (m.lookup k).getD "")).map Prod.fst =
      m.keys.sort (· ≤ ·) := by
    rw [List.map_map]
    exact List.map_id _
  cases hk : m.lookup k with
  | none =>
    rw [GoMap.lookup_insertAll_of_notMem]
    · rfl
    · rw [hkeys, Finset.mem_sort]
      exact fun hmem => Finmap.lookup_eq_none.1 hk (Finmap.mem_keys.1 hmem)
  | some v =>
    refine GoMap.lookup_insertAll_of_mem (by rw [hkeys]; exact Finset.sort_nodup _ _) ?_ ∅
    refine List.mem_map.2 ⟨k, (Finset.mem_sort _).2 (Finmap.mem_keys.2
      (Finmap.mem_of_lookup_eq_some hk)), ?_⟩
    rw [hk]
    rfl

end Codec

end JsonRecord
