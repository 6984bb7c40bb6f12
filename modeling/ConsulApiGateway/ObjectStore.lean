/-
Objects on a server with optimistic concurrency.

The server gives every write a new revision and keeps with each object the revision it was
written at.  An update names the version that was read and is refused if the object has another
one by now.  Others write as well; all that is asked of them is that what they write gets a new
revision too (`Table.Grows`).

* `Table.Grows.unchanged` — an object that still has the version it was read with is the object
  that was read;
* `createOrUpdate_guarantees` — so reading an object, changing it and writing it back is one
  step as far as the object is concerned: what is replaced is what was changed.
-/
import ConsulApiGateway.GoMap
import ConsulApiGateway.Interference

namespace ObjectStore

open Shared

/-! ### Tables -/

structure Versioned (V : Type) where
  version : ℕ
  value : V

/-- The objects of one kind. -/
structure Table (K V : Type) [DecidableEq K] where
  revision : ℕ
  objects : GoMap K (Versioned V)
  bounded : ∀ k o, objects.lookup k = some o → o.version ≤ revision

namespace Table

variable {K V : Type} [DecidableEq K]

def empty : Table K V := ⟨0, ∅, fun _ _ h => by simp at h⟩

def lookup (t : Table K V) (k : K) : Option (Versioned V) := t.objects.lookup k

/-- The value stored under a key. -/
def value (t : Table K V) (k : K) : Option V := (t.lookup k).map Versioned.value

def write (t : Table K V) (k : K) (v : V) : Table K V where
  revision := t.revision + 1
  objects := t.objects.insert k ⟨t.revision + 1, v⟩
  bounded k' o h := by
    rw [GoMap.lookup_insert_eq_some] at h
    rcases h with ⟨-, rfl⟩ | ⟨-, h⟩
    · exact le_refl _
    · exact Nat.le_succ_of_le (t.bounded k' o h)

def remove (t : Table K V) (k : K) : Table K V where
  revision := t.revision + 1
  objects := t.objects.erase k
  bounded k' o h := by
    rw [GoMap.lookup_erase_ite] at h
    split_ifs at h
    exact Nat.le_succ_of_le (t.bounded k' o h)

theorem lookup_write (t : Table K V) (k k' : K) (v : V) :
    (t.write k v).lookup k' = if k' = k then some ⟨t.revision + 1, v⟩ else t.lookup k' :=
  GoMap.lookup_insert_ite _ _ _ _

theorem value_write (t : Table K V) (k k' : K) (v : V) :
    (t.write k v).value k' = if k' = k then some v else t.value k' := by
  rw [value, lookup_write]
  split_ifs <;> rfl

theorem lookup_remove (t : Table K V) (k k' : K) :
    (t.remove k).lookup k' = if k' = k then none else t.lookup k' :=
  GoMap.lookup_erase_ite _ _ _

theorem value_remove (t : Table K V) (k k' : K) :
    (t.remove k).value k' = if k' = k then none else t.value k' := by
  rw [value, lookup_remove]
  split_ifs <;> rfl

/-- What writes do to a table: the revision grows, and an object is as it was or has a version
that is new. -/
structure Grows (t t' : Table K V) : Prop where
  revision : t.revision ≤ t'.revision
  lookup : ∀ k o, t'.lookup k = some o → t.lookup k = some o ∨ t.revision < o.version

theorem Grows.refl (t : Table K V) : Grows t t := ⟨le_refl _, fun _ _ h => .inl h⟩

theorem Grows.trans {t t' t'' : Table K V} (h : Grows t t') (h' : Grows t' t'') : Grows t t'' := by
  refine ⟨h.revision.trans h'.revision, fun k o ho => ?_⟩
  rcases h'.lookup k o ho with ho | hnew
  · exact h.lookup k o ho
  · exact .inr (lt_of_le_of_lt h.revision hnew)

theorem grows_write (t : Table K V) (k : K) (v : V) : Grows t (t.write k v) := by
  refine ⟨Nat.le_succ _, fun k' o h => ?_⟩
  rw [lookup_write] at h
  split_ifs at h
  · cases h
    exact .inr (Nat.lt_succ_self _)
  · exact .inl h

theorem grows_remove (t : Table K V) (k : K) : Grows t (t.remove k) := by
  refine ⟨Nat.le_succ _, fun k' o h => ?_⟩
  rw [lookup_remove] at h
  split_ifs at h
  exact .inl h

/-- **An object that still has its version is unchanged.** -/
theorem Grows.unchanged {t t' : Table K V} (h : Grows t t') {k : K} {o o' : Versioned V}
    (ho : t.lookup k = some o) (ho' : t'.lookup k = some o') (hversion : o'.version = o.version) :
    o' = o := by
  rcases h.lookup k o' ho' with hold | hnew
  · exact Option.some_inj.1 (hold.symm.trans ho)
  · -- a new version is larger than all that were there when the object was read
    have hle := t.bounded k o ho
    omega

end Table

/-! ### Calls -/

/-- Why the server refuses a call. -/
inductive Refusal
  | notFound
  | alreadyExists
  | conflict
  deriving DecidableEq

/-- A kind of object in a state: where its table is, what the server makes of an object that it
stores, and whether an object goes away when it is stored. -/
structure Resource (σ ε K V : Type) [DecidableEq K] where
  part : Part σ (Table K V)
  admitted : V → V
  collected : V → Bool
  fail : Refusal → ε

variable {σ ε K V : Type} [DecidableEq K]

namespace Resource

variable (r : Resource σ ε K V)

def table (s : σ) : Table K V := r.part.get s

/-- The table after an object has been stored. -/
def stored (k : K) (v : V) (s : σ) : Table K V :=
  if r.collected (r.admitted v) then (r.table s).remove k else (r.table s).write k (r.admitted v)

def put (k : K) (v : V) (s : σ) : σ := r.part.set (r.stored k v s) s

theorem table_put (k : K) (v : V) (s : σ) : r.table (r.put k v s) = r.stored k v s :=
  r.part.get_set _ _

theorem grows_put (k : K) (v : V) (s : σ) : (r.table s).Grows (r.table (r.put k v s)) := by
  rw [table_put, stored]
  split_ifs
  · exact Table.grows_remove _ _
  · exact Table.grows_write _ _ _

theorem value_put (k k' : K) (v : V) (s : σ) :
    (r.table (r.put k v s)).value k' =
      if k' = k then (if r.collected (r.admitted v) then none else some (r.admitted v))
      else (r.table s).value k' := by
  rw [table_put, stored]
  by_cases hcollected : r.collected (r.admitted v) = true
  · rw [if_pos hcollected, if_pos hcollected, Table.value_remove]
  · rw [if_neg hcollected, if_neg hcollected, Table.value_write]

/-- The other objects are as they were. -/
theorem lookup_put_of_ne {k k' : K} (hk : k' ≠ k) (v : V) (s : σ) :
    (r.table (r.put k v s)).lookup k' = (r.table s).lookup k' := by
  rw [table_put, stored]
  split_ifs
  · rw [Table.lookup_remove, if_neg hk]
  · rw [Table.lookup_write, if_neg hk]

theorem revision_put (k : K) (v : V) (s : σ) :
    (r.table (r.put k v s)).revision = (r.table s).revision + 1 := by
  rw [table_put, stored]
  split_ifs <;> rfl

/-- What is stored has the new revision. -/
theorem version_put {k : K} {v : V} {s : σ} {o : Versioned V}
    (ho : (r.table (r.put k v s)).lookup k = some o) : o.version = (r.table s).revision + 1 := by
  rw [table_put, stored] at ho
  split_ifs at ho
  · rw [Table.lookup_remove, if_pos rfl] at ho
    cases ho
  · rw [Table.lookup_write, if_pos rfl] at ho
    cases Option.some.inj ho
    rfl

/-- An object that is stored is not the one that was there. -/
theorem lookup_put_ne {k : K} {o : Versioned V} {s : σ} (ho : (r.table s).lookup k = some o)
    (v : V) : (r.table (r.put k v s)).lookup k ≠ (r.table s).lookup k := by
  intro heq
  have hversion := r.version_put (heq.trans ho)
  have hle := (r.table s).bounded k o ho
  omega

def get (k : K) : Program σ ε (Option (Versioned V)) :=
  call fun s => (.ok ((r.table s).lookup k), s)

/-- How a state answers the creation of an object. -/
def created (k : K) (v : V) (s : σ) : Except ε Unit × σ :=
  match (r.table s).lookup k with
  | some _ => (.error (r.fail .alreadyExists), s)
  | none => (.ok (), r.put k v s)

/-- How a state answers the update of the version that was read. -/
def updated (k : K) (version : ℕ) (v : V) (s : σ) : Except ε Unit × σ :=
  match (r.table s).lookup k with
  | none => (.error (r.fail .notFound), s)
  | some o => if o.version = version then (.ok (), r.put k v s) else (.error (r.fail .conflict), s)

def create (k : K) (v : V) : Program σ ε Unit := call (r.created k v)

def update (k : K) (version : ℕ) (v : V) : Program σ ε Unit := call (r.updated k version v)

end Resource

/-- What `createOrUpdate` did. -/
inductive Operation
  | none | created | updated
  deriving DecidableEq

/-- `controllerutil.CreateOrUpdate`: an object that does not exist is created, and one that does
is read, changed, and written if that made a difference. -/
def createOrUpdate [DecidableEq V] (r : Resource σ ε K V) (k : K) (obj : V)
    (mutate : V → Except ε V) : Program σ ε Operation := do
  match ← r.get k with
  | none =>
    let new ← Program.ofExcept (mutate obj)
    r.create k new
    return .created
  | some existing =>
    let new ← Program.ofExcept (mutate existing.value)
    if new = existing.value then return .none
    else
      r.update k existing.version new
      return .updated

/-! ### What a program writes -/

/-- The object under the key is stored as `mutate` makes it: from the given object if there is
none, and else from the one that is there, if that makes a difference. -/
def Stores (r : Resource σ ε K V) (k : K) (obj : V) (mutate : V → Except ε V) (s s' : σ) : Prop :=
  ∃ v, mutate (((r.table s).value k).getD obj) = .ok v ∧ (r.table s).value k ≠ some v ∧
    s' = r.put k v s

variable {r : Resource σ ε K V} {k : K} {R G : σ → σ → Prop}

variable {mutate : V → Except ε V} {v : V} {obj : V} {o : Versioned V} {s s' : σ} {w w' : World σ ε}

theorem guarantees_get (hrefl : ∀ s, G s s) : Guarantees R G (r.get k) :=
  guarantees_call hrefl hrefl

theorem guarantees_create (hrefl : ∀ s, G s s)
    (hG : ∀ s, (r.table s).lookup k = none → G s (r.put k v s)) :
    Guarantees R G (r.create k v) := by
  refine guarantees_call hrefl fun s => ?_
  unfold Resource.created
  cases hlookup : (r.table s).lookup k with
  | none => exact hG s hlookup
  | some o => exact hrefl s

/-- What `get` returns is in the table that it found. -/
theorem get_eq_ok {o : Option (Versioned V)} (h : r.get k w = (.ok o, w')) :
    (r.table w.found).lookup k = o ∧ w' = w.after w.found w.found := by
  obtain ⟨hok, hw'⟩ := call_eq_ok h
  exact ⟨Except.ok.inj hok, hw'⟩

/-- What holds after the object that was read is replaced holds after an update of it. -/
theorem updated_preserves {P : σ → Prop} {s₀ : σ} (ho : (r.table s₀).lookup k = some o)
    (hgrows : (r.table s₀).Grows (r.table s)) (hs : P s)
    (hput : (r.table s).lookup k = some o → P (r.put k v s)) : P (r.updated k o.version v s).2 := by
  unfold Resource.updated
  cases ho' : (r.table s).lookup k with
  | none => exact hs
  | some o' =>
    dsimp only
    split_ifs with hversion
    · rw [hgrows.unchanged ho ho' hversion] at ho'
      exact hput ho'
    · exact hs

/-- An update of an object that was read replaces that object. -/
theorem keeps_update {s₀ : σ} (hw : w.Relies R) (ho : (r.table s₀).lookup k = some o)
    (hgrows : (r.table s₀).Grows (r.table w.found)) (hrefl : ∀ s, G s s)
    (hG : ∀ s, (r.table s).lookup k = some o → G s (r.put k v s)) :
    Keeps R G w (r.update k o.version v w).2 :=
  keeps_call hw (hrefl _) (updated_preserves ho hgrows (hrefl _) (hG _))

/-- **Reading, changing and writing back is one step**: whatever the others do in between, what
is replaced is what was changed. -/
theorem createOrUpdate_guarantees [DecidableEq V]
    (hR : ∀ s s', R s s' → (r.table s).Grows (r.table s')) (hrefl : ∀ s, G s s)
    (hG : ∀ s s', Stores r k obj mutate s s' → G s s') :
    Guarantees R G (createOrUpdate r k obj mutate) := by
  intro w hw
  unfold createOrUpdate
  refine (guarantees_get hrefl w hw).bind fun o w₁ hget hw₁ => ?_
  obtain ⟨hlookup, rfl⟩ := get_eq_ok hget
  cases o with
  | none =>
    refine guarantees_ofExcept_bind (fun new hnew => ?_) _ hw₁
    refine (guarantees_create hrefl fun s hs => hG s _ ⟨new, ?_, ?_, rfl⟩).bind fun _ =>
      guarantees_pure _
    · rw [Table.value, hs]
      exact hnew
    · simp [Table.value, hs]
  | some o =>
    refine (guarantees_ofExcept (mutate o.value) _ hw₁).bind fun new w₂ hok hw₂ => ?_
    obtain ⟨hnew, rfl⟩ := Prod.mk.inj hok
    split_ifs with hsame
    · exact .refl hw₂
    · -- the object may have been replaced since it was read
      refine (keeps_update hw₂ hlookup (hR _ _ hw₂.found) hrefl fun s hs =>
        hG s _ ⟨new, ?_, ?_, rfl⟩).bind fun _ w₃ _ hw₃ => .refl hw₃
      · rw [Table.value, hs]
        exact hnew
      · rw [Table.value, hs]
        exact fun heq => hsame (Option.some.inj heq).symm

/-! ### Objects that only this program writes -/

/-- The object is there, and `mutate` would leave it as it is. -/
def Settled (r : Resource σ ε K V) (k : K) (mutate : V → Except ε V) (s : σ) : Prop :=
  ∃ o, (r.table s).value k = some o ∧ mutate o = .ok o

theorem Settled.congr (hlookup : (r.table s').lookup k = (r.table s).lookup k)
    (h : Settled r k mutate s) : Settled r k mutate s' := by
  unfold Settled Table.value at h ⊢
  rwa [hlookup]

/-- What `mutate` has made is settled when it has been stored, if storing it does not undo it. -/
theorem settled_put {o : V}
    (hstable : ∀ o v, mutate o = .ok v →
      mutate (r.admitted v) = .ok (r.admitted v) ∧ r.collected (r.admitted v) = false)
    (h : mutate o = .ok v) : Settled r k mutate (r.put k v s) := by
  obtain ⟨hmutate, hcollected⟩ := hstable o v h
  refine ⟨r.admitted v, ?_, hmutate⟩
  rw [r.value_put, if_pos rfl, hcollected]
  rfl

theorem created_eq_ok (h : (r.created k v s).1 = .ok ()) :
    (r.table s).lookup k = none ∧ (r.created k v s).2 = r.put k v s := by
  unfold Resource.created at h ⊢
  cases hlookup : (r.table s).lookup k with
  | none => exact ⟨rfl, rfl⟩
  | some o =>
    rw [hlookup] at h
    cases h

theorem updated_eq_ok {version : ℕ} (h : (r.updated k version v s).1 = .ok ()) :
    (r.updated k version v s).2 = r.put k v s := by
  unfold Resource.updated at h ⊢
  cases hlookup : (r.table s).lookup k with
  | none =>
    rw [hlookup] at h
    cases h
  | some o =>
    rw [hlookup] at h
    dsimp only at h ⊢
    split_ifs at h ⊢
    rfl

/-- When `createOrUpdate` has returned, the object is settled. -/
theorem createOrUpdate_settles [DecidableEq V] {op : Operation}
    (hstable : ∀ o v, mutate o = .ok v →
      mutate (r.admitted v) = .ok (r.admitted v) ∧ r.collected (r.admitted v) = false)
    (h : createOrUpdate r k obj mutate w = (.ok op, w')) : Settled r k mutate w'.state := by
  obtain ⟨o, w₁, hget, hnext⟩ := bind_eq_ok h
  obtain ⟨hlookup, rfl⟩ := get_eq_ok hget
  cases o with
  | none =>
    obtain ⟨new, w₂, hnew, hnext⟩ := bind_eq_ok hnext
    obtain ⟨hmutate, rfl⟩ := Prod.mk.inj hnew
    obtain ⟨u, w₃, hcreate, hnext⟩ := bind_eq_ok hnext
    cases hnext
    obtain ⟨hok, rfl⟩ := call_eq_ok hcreate
    obtain ⟨-, hstate⟩ := created_eq_ok hok
    rw [World.after, hstate]
    exact settled_put hstable hmutate
  | some o =>
    obtain ⟨new, w₂, hnew, hnext⟩ := bind_eq_ok hnext
    obtain ⟨hmutate, rfl⟩ := Prod.mk.inj hnew
    split_ifs at hnext with hsame
    · cases hnext
      exact ⟨o.value, by rw [World.after, Table.value, hlookup]; rfl, by rw [hmutate, hsame]⟩
    · obtain ⟨u, w₃, hupdate, hnext⟩ := bind_eq_ok hnext
      cases hnext
      obtain ⟨hok, rfl⟩ := call_eq_ok hupdate
      rw [World.after, updated_eq_ok hok]
      exact settled_put hstable hmutate

/-- A settled object that the others leave alone is only read. -/
theorem createOrUpdate_rests [DecidableEq V]
    (hR : ∀ s s', R s s' → (r.table s').lookup k = (r.table s).lookup k) (hw : w.Relies R)
    (h : Settled r k mutate w.state) : Keeps R Eq w (createOrUpdate r k obj mutate w).2 := by
  unfold createOrUpdate
  refine (guarantees_get (fun _ => rfl) w hw).bind fun o w₁ hget hw₁ => ?_
  obtain ⟨v, hv, hmutate⟩ := h.congr (hR _ _ hw.found)
  obtain ⟨hlookup, rfl⟩ := get_eq_ok hget
  rw [Table.value, hlookup] at hv
  cases o with
  | none => cases hv
  | some o =>
    cases Option.some.inj hv
    refine (guarantees_ofExcept (mutate o.value) _ hw₁).bind fun new w₂ hok hw₂ => ?_
    obtain ⟨hnew, rfl⟩ := Prod.mk.inj hok
    rw [if_pos (Except.ok.inj (hnew.symm.trans hmutate))]
    exact .refl hw₂

/-- **Creating or updating an object** that the others leave alone. -/
theorem createOrUpdate_ensures [DecidableEq V]
    (hgrows : ∀ s s', R s s' → (r.table s).Grows (r.table s'))
    (hlookup : ∀ s s', R s s' → (r.table s').lookup k = (r.table s).lookup k)
    (hstable : ∀ o v, mutate o = .ok v →
      mutate (r.admitted v) = .ok (r.admitted v) ∧ r.collected (r.admitted v) = false) :
    Ensures R (fun s s' => s' = s ∨ Stores r k obj mutate s s') (createOrUpdate r k obj mutate)
      (Settled r k mutate) where
  stable s s' hR h := h.congr (hlookup s s' hR)
  calls := createOrUpdate_guarantees hgrows (fun _ => .inl rfl) fun _ _ => .inr
  establishes _ _ _ _ h := createOrUpdate_settles hstable h
  rests _ hw h := createOrUpdate_rests hlookup hw h

/-- An object that is there is changed, when nothing fails and the others do not act between the
reading and the writing. -/
theorem createOrUpdate_of_some [DecidableEq V] (obj : V) (hread : (w.turns 0).fault = .none)
    (hwrite : w.turns 1 = ⟨id, .none⟩) (ho : (r.table w.found).lookup k = some o)
    (hv : mutate o.value = .ok v) :
    ∃ op w', createOrUpdate r k obj mutate w = (.ok op, w') ∧
      (w'.state = w.found ∧ v = o.value ∨ w'.state = r.put k v w.found) := by
  have hget : r.get k w = (.ok (some o), w.after w.found w.found) := by
    rw [Resource.get, call_of_none hread, ho]
  have hnew : (Program.ofExcept (mutate o.value) : Program σ ε V) (w.after w.found w.found) =
      (.ok v, w.after w.found w.found) := by
    rw [ofExcept_apply, hv]
  unfold createOrUpdate
  rw [bind_of_ok hget]
  dsimp only
  rw [bind_of_ok hnew]
  split_ifs with hsame
  · exact ⟨_, _, rfl, .inl ⟨rfl, hsame⟩⟩
  · have hfound : (w.after w.found w.found).found = w.found := by
      rw [World.found, World.after, hwrite]
      rfl
    have hupdated : r.updated k o.version v w.found = (.ok (), r.put k v w.found) := by
      rw [Resource.updated, ho]
      exact if_pos rfl
    have hupdate : r.update k o.version v (w.after w.found w.found) =
        (.ok (), (w.after w.found w.found).after w.found (r.put k v w.found)) := by
      rw [Resource.update, call_of_none (by rw [World.after, hwrite]), hfound, hupdated]
    rw [bind_of_ok hupdate]
    exact ⟨_, _, rfl, .inr rfl⟩

end ObjectStore
