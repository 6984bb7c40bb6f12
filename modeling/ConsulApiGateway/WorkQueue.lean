/-
A controller with a work queue.

Objects change, and each change puts the key of the object into a queue.  A worker takes a key,
reads the object, and later brings a local state into line with what it has read; if it fails, the
key goes back into the queue.  Meanwhile the object may change again, other keys are worked on, and
others change the local state.

* `Follows` — what is asked of the work;
* `InStep.step` — then every step keeps the local state in line with the objects, all but those
  whose keys are in the queue or in hand;
* `Idle.enqueue`, `Idle.take`, `Idle.finish` — a key that nothing puts into the queue is not worked
  on.
-/
import Mathlib.Data.Finset.Basic
import Mathlib.Logic.Function.Basic

/-- The objects with their keys, those keys that are to be worked on, and for each key that is
worked on what was read. -/
structure WorkQueue (K V : Type*) where
  objects : K → Option V
  /-- The highest version that an object has been given. -/
  revision : ℤ
  dirty : Finset K
  processing : K → Option (Option V)

namespace WorkQueue

variable {K V L : Type*}

section Operations

variable [DecidableEq K]

def enqueue (q : WorkQueue K V) (keys : List K) : WorkQueue K V :=
  { q with dirty := q.dirty ∪ keys.toFinset }

/-- An object is written, or deleted. -/
def change (version : V → ℤ) (q : WorkQueue K V) (key : K) (new : Option V) : WorkQueue K V :=
  { q with
    objects := Function.update q.objects key new
    revision := (new.map version).getD q.revision
    dirty := insert key q.dirty }

/-- The key is out of the queue while it is worked on, unless it is put there again. -/
def take (q : WorkQueue K V) (key : K) : WorkQueue K V :=
  { q with
    dirty := q.dirty.erase key
    processing := Function.update q.processing key (some (q.objects key)) }

def finish (q : WorkQueue K V) (key : K) (requeue : Bool) : WorkQueue K V :=
  { q with
    dirty := if requeue then insert key q.dirty else q.dirty
    processing := Function.update q.processing key none }

variable (q : WorkQueue K V) (key : K)

theorem objects_change_self (version : V → ℤ) (new : Option V) :
    (q.change version key new).objects key = new := Function.update_self _ _ _

theorem processing_take_self : (q.take key).processing key = some (q.objects key) :=
  Function.update_self _ _ _

theorem processing_finish_self (requeue : Bool) : (q.finish key requeue).processing key = none :=
  Function.update_self _ _ _

variable {key} {key' : K}

theorem objects_change_of_ne (version : V → ℤ) (new : Option V) (h : key' ≠ key) :
    (q.change version key new).objects key' = q.objects key' := Function.update_of_ne h _ _

theorem processing_take_of_ne (h : key' ≠ key) :
    (q.take key).processing key' = q.processing key' := Function.update_of_ne h _ _

theorem processing_finish_of_ne (requeue : Bool) (h : key' ≠ key) :
    (q.finish key requeue).processing key' = q.processing key' := Function.update_of_ne h _ _

theorem mem_dirty_finish {requeue : Bool} (h : key' ∈ q.dirty) :
    key' ∈ (q.finish key requeue).dirty := by
  cases requeue with
  | true => exact Finset.mem_insert_of_mem h
  | false => exact h

end Operations

/-- The key is not in the queue, and it is not worked on. -/
structure Idle (q : WorkQueue K V) (key : K) : Prop where
  clean : key ∉ q.dirty
  free : q.processing key = none

section Idle

variable {q : WorkQueue K V} {key key' : K}

/-- The work that is finished is not on a key that is idle. -/
theorem Idle.ne_of_processing (h : q.Idle key) {read : Option V}
    (hread : q.processing key' = some read) : key ≠ key' := by
  rintro rfl
  cases h.free.symm.trans hread

variable [DecidableEq K]

theorem Idle.enqueue (h : q.Idle key) {keys : List K} (hkeys : key ∉ keys) :
    (q.enqueue keys).Idle key where
  clean hmem := (Finset.mem_union.1 hmem).elim h.clean fun hmem => hkeys (List.mem_toFinset.1 hmem)
  free := h.free

theorem Idle.change (h : q.Idle key) (version : V → ℤ) (new : Option V) (hkey : key ≠ key') :
    (q.change version key' new).Idle key where
  clean hmem := (Finset.mem_insert.1 hmem).elim hkey h.clean
  free := h.free

theorem Idle.take (h : q.Idle key) (hkey : key' ∈ q.dirty) : (q.take key').Idle key where
  clean hmem := h.clean (Finset.mem_of_mem_erase hmem)
  free := by
    rw [processing_take_of_ne q (ne_of_mem_of_not_mem hkey h.clean).symm]
    exact h.free

theorem Idle.finish (h : q.Idle key) (requeue : Bool) (hkey : key ≠ key') :
    (q.finish key' requeue).Idle key where
  clean hmem := by
    cases requeue with
    | true => exact (Finset.mem_insert.1 hmem).elim hkey h.clean
    | false => exact h.clean hmem
  free := (processing_finish_of_ne q requeue hkey).trans h.free

end Idle

/-- The steps of a controller: the objects are `Valid` under their keys, `work` says what becomes of
the local state, and whether the key goes back into the queue, and `others` what else may happen to
it. -/
inductive Step [DecidableEq K] (version : V → ℤ) (Valid : K → V → Prop)
    (work : L → K → Option V → L → Bool → Prop) (others : L → L → Prop) :
    WorkQueue K V → L → WorkQueue K V → L → Prop
  | enqueue (q : WorkQueue K V) (l : L) (keys : List K) :
      Step version Valid work others q l (q.enqueue keys) l
  | change (q : WorkQueue K V) (l : L) (key : K) (new : Option V)
      (hnew : ∀ v, new = some v → Valid key v ∧ q.revision < version v) :
      Step version Valid work others q l (q.change version key new) l
  | take (q : WorkQueue K V) (l : L) (key : K) : Step version Valid work others q l (q.take key) l
  | finish (q : WorkQueue K V) (l l' : L) (key : K) (read : Option V) (requeue : Bool)
      (hread : q.processing key = some read) (hwork : work l key read l' requeue) :
      Step version Valid work others q l (q.finish key requeue) l'
  | others (q : WorkQueue K V) (l l' : L) (h : others l l') :
      Step version Valid work others q l q l'

/-- While a key is idle, what the work on the others keeps is kept. -/
theorem Step.keeps_of_idle [DecidableEq K] {version : V → ℤ} {Valid : K → V → Prop}
    {work : L → K → Option V → L → Bool → Prop} {others : L → L → Prop} {q q' : WorkQueue K V}
    {l l' : L} {key : K} {P : L → Prop} (hstep : Step version Valid work others q l q' l')
    (hidle : q.Idle key)
    (hvalid : ∀ {key' v}, q.processing key' = some (some v) → Valid key' v)
    (hwork : ∀ {key' read requeue}, key ≠ key' → (∀ v, read = some v → Valid key' v) →
      work l key' read l' requeue → P l → P l')
    (hothers : others l l' → P l → P l') (hP : P l) : P l' := by
  cases hstep with
  | enqueue | change | take => exact hP
  | finish _ key' read requeue hread h =>
    exact hwork (hidle.ne_of_processing hread) (fun v hv => hvalid (hv ▸ hread)) h hP
  | others _ h => exact hothers h hP

/-- What is asked of the work, in terms of what the local state has of a key: `NotAfter l key n` if
it is of no version after `n`, and `Agrees l key object` if it is in line with the object. -/
structure Follows (version : V → ℤ) (Valid : K → V → Prop)
    (work : L → K → Option V → L → Bool → Prop) (others : L → L → Prop)
    (NotAfter : L → K → ℤ → Prop) (Agrees : L → K → Option V → Prop) : Prop where
  mono : ∀ {l key n n'}, NotAfter l key n → n ≤ n' → NotAfter l key n'
  /-- What is written is what was read. -/
  bounded : ∀ {l key read l' requeue n}, work l key read l' requeue →
    (∀ v, read = some v → Valid key v ∧ version v ≤ n) → NotAfter l key n → NotAfter l' key n
  agrees : ∀ {l key read l'}, work l key read l' false →
    (∀ v, read = some v → Valid key v ∧ NotAfter l key (version v)) → Agrees l' key read
  /-- The work on a key leaves the others alone. -/
  work_other : ∀ {l key read l' requeue key'}, work l key read l' requeue →
    (∀ v, read = some v → Valid key v) → key' ≠ key →
    (∀ n, NotAfter l key' n → NotAfter l' key' n) ∧ ∀ o, Agrees l key' o → Agrees l' key' o
  others : ∀ {l l'} key, others l l' →
    (∀ n, NotAfter l key n → NotAfter l' key n) ∧ ∀ o, Agrees l key o → Agrees l' key o

/-- The local state is in step with the objects. -/
structure InStep (version : V → ℤ) (Valid : K → V → Prop) (NotAfter : L → K → ℤ → Prop)
    (Agrees : L → K → Option V → Prop) (q : WorkQueue K V) (l : L) : Prop where
  notAfter : ∀ key, NotAfter l key q.revision
  valid_object : ∀ {key v}, q.objects key = some v → Valid key v
  object : ∀ {key v}, q.objects key = some v →
    version v ≤ q.revision ∧ NotAfter l key (version v)
  valid_read : ∀ {key v}, q.processing key = some (some v) → Valid key v
  read : ∀ {key v}, q.processing key = some (some v) → version v ≤ q.revision ∧
    NotAfter l key (version v) ∧ ∀ w, q.objects key = some w → version v ≤ version w
  current : ∀ {key read}, key ∉ q.dirty → q.processing key = some read → read = q.objects key
  agrees : ∀ {key}, q.Idle key → Agrees l key (q.objects key)

/-- A queue as it is when the controller is started: every object is to be worked on. -/
structure Fresh (version : V → ℤ) (Valid : K → V → Prop) (q : WorkQueue K V) : Prop where
  free : ∀ key, q.processing key = none
  dirty : ∀ key, (q.objects key).isSome → key ∈ q.dirty
  valid : ∀ {key v}, q.objects key = some v → Valid key v ∧ version v ≤ q.revision

variable {version : V → ℤ} {Valid : K → V → Prop} {work : L → K → Option V → L → Bool → Prop}
  {others : L → L → Prop} {NotAfter : L → K → ℤ → Prop} {Agrees : L → K → Option V → Prop}
  {q q' : WorkQueue K V} {l l' : L} {key : K}

/-- A local state that has nothing of any key is in step with a queue that is just started. -/
theorem Fresh.inStep (h : q.Fresh version Valid) (hnothing : ∀ key n, NotAfter l key n)
    (hnone : ∀ key, Agrees l key none) : InStep version Valid NotAfter Agrees q l where
  notAfter key := hnothing key _
  valid_object hv := (h.valid hv).1
  object hv := ⟨(h.valid hv).2, hnothing _ _⟩
  valid_read {key v} hv := by cases (h.free key).symm.trans hv
  read {key v} hv := by cases (h.free key).symm.trans hv
  current {key read} _ hread := by cases (h.free key).symm.trans hread
  agrees {key} hidle := by
    rw [Option.not_isSome_iff_eq_none.1 (mt (h.dirty key) hidle.clean)]
    exact hnone key

namespace InStep

variable [DecidableEq K]

theorem enqueue (h : InStep version Valid NotAfter Agrees q l) (keys : List K) :
    InStep version Valid NotAfter Agrees (q.enqueue keys) l where
  notAfter := h.notAfter
  valid_object := h.valid_object
  object := h.object
  valid_read := h.valid_read
  read := h.read
  current hclean := h.current fun hmem => hclean (Finset.mem_union_left _ hmem)
  agrees hidle := h.agrees ⟨fun hmem => hidle.clean (Finset.mem_union_left _ hmem), hidle.free⟩

theorem change (hf : Follows version Valid work others NotAfter Agrees)
    (h : InStep version Valid NotAfter Agrees q l) {new : Option V}
    (hnew : ∀ v, new = some v → Valid key v ∧ q.revision < version v) :
    InStep version Valid NotAfter Agrees (q.change version key new) l := by
  have hle : q.revision ≤ (q.change version key new).revision := by
    cases new with
    | none => exact le_rfl
    | some v => exact (hnew v rfl).2.le
  have hother : ∀ {key'}, key' ∉ (q.change version key new).dirty →
      key' ∉ q.dirty ∧ (q.change version key new).objects key' = q.objects key' := by
    intro key' hclean
    obtain ⟨hne, hclean⟩ := not_or.1 (mt Finset.mem_insert.2 hclean)
    exact ⟨hclean, objects_change_of_ne q version new hne⟩
  refine ⟨fun key' => hf.mono (h.notAfter key') hle, fun {key' v} hv => ?_, fun {key' v} hv => ?_,
    h.valid_read, fun {key' v} hv => ?_, fun hclean hread => ?_, fun hidle => ?_⟩
  · by_cases hkey : key' = key
    · subst hkey
      obtain rfl : new = some v := (objects_change_self q key' version new).symm.trans hv
      exact (hnew v rfl).1
    · exact h.valid_object ((objects_change_of_ne q version new hkey).symm.trans hv)
  · by_cases hkey : key' = key
    · subst hkey
      obtain rfl : new = some v := (objects_change_self q key' version new).symm.trans hv
      exact ⟨le_rfl, hf.mono (h.notAfter key') (hnew v rfl).2.le⟩
    · have hv' : q.objects key' = some v := (objects_change_of_ne q version new hkey).symm.trans hv
      exact ⟨(h.object hv').1.trans hle, (h.object hv').2⟩
  · obtain ⟨hversion, hnotAfter, hobject⟩ := h.read hv
    refine ⟨hversion.trans hle, hnotAfter, fun w hw => ?_⟩
    by_cases hkey : key' = key
    · subst hkey
      obtain rfl : new = some w := (objects_change_self q key' version new).symm.trans hw
      exact hversion.trans (hnew w rfl).2.le
    · exact hobject w ((objects_change_of_ne q version new hkey).symm.trans hw)
  · obtain ⟨hclean, hobject⟩ := hother hclean
    rw [hobject]
    exact h.current hclean hread
  · obtain ⟨hclean, hobject⟩ := hother hidle.clean
    rw [hobject]
    exact h.agrees ⟨hclean, hidle.free⟩

theorem take (h : InStep version Valid NotAfter Agrees q l) :
    InStep version Valid NotAfter Agrees (q.take key) l := by
  refine ⟨h.notAfter, h.valid_object, h.object, fun {key' v} hv => ?_, fun {key' v} hv => ?_,
    fun {key' read} hclean hread => ?_, fun {key'} hidle => ?_⟩
  · by_cases hkey : key' = key
    · subst hkey
      exact h.valid_object (Option.some.inj ((processing_take_self q key').symm.trans hv))
    · exact h.valid_read ((processing_take_of_ne q hkey).symm.trans hv)
  · by_cases hkey : key' = key
    · subst hkey
      have hv' : q.objects key' = some v :=
        Option.some.inj ((processing_take_self q key').symm.trans hv)
      exact ⟨(h.object hv').1, (h.object hv').2,
        fun w hw => (congrArg version (Option.some.inj (hv'.symm.trans hw))).le⟩
    · exact h.read ((processing_take_of_ne q hkey).symm.trans hv)
  · by_cases hkey : key' = key
    · subst hkey
      exact (Option.some.inj ((processing_take_self q key').symm.trans hread)).symm
    · exact h.current (fun hmem => hclean (Finset.mem_erase.2 ⟨hkey, hmem⟩))
        ((processing_take_of_ne q hkey).symm.trans hread)
  · have hkey : key' ≠ key := by
      rintro rfl
      cases (processing_take_self q key').symm.trans hidle.free
    exact h.agrees ⟨fun hmem => hidle.clean (Finset.mem_erase.2 ⟨hkey, hmem⟩),
      (processing_take_of_ne q hkey).symm.trans hidle.free⟩

theorem finish (hf : Follows version Valid work others NotAfter Agrees)
    (h : InStep version Valid NotAfter Agrees q l) {read : Option V} {requeue : Bool}
    (hread : q.processing key = some read) (hwork : work l key read l' requeue) :
    InStep version Valid NotAfter Agrees (q.finish key requeue) l' := by
  have hclean : ∀ {key'}, key' ∉ (q.finish key requeue).dirty → key' ∉ q.dirty :=
    mt (mem_dirty_finish q)
  have hvalid : ∀ v, read = some v → Valid key v := fun v hv => h.valid_read (hv ▸ hread)
  -- what was read is no newer than the object, which may have changed since
  have hnotAfter : ∀ key' n, NotAfter l key' n →
      (key' = key → ∀ v, read = some v → version v ≤ n) → NotAfter l' key' n := by
    intro key' n hn hle
    by_cases hkey : key' = key
    · subst hkey
      exact hf.bounded hwork (fun v hv => ⟨hvalid v hv, hle rfl v hv⟩) hn
    · exact (hf.work_other hwork hvalid hkey).1 n hn
  have hother : ∀ {key' read'}, (q.finish key requeue).processing key' = some read' →
      key' ≠ key := by
    rintro key' read' hread' rfl
    cases (processing_finish_self q key' requeue).symm.trans hread'
  refine ⟨fun key' => ?_, h.valid_object, fun {key' v} hv => ?_, fun {key' v} hv => ?_,
    fun {key' v} hv => ?_, fun {key' read'} hclean' hread' => ?_, fun {key'} hidle => ?_⟩
  · exact hnotAfter key' _ (h.notAfter key') fun _ v hv => (h.read (hv ▸ hread)).1
  · refine ⟨(h.object hv).1, hnotAfter key' _ (h.object hv).2 fun hkey w hw => ?_⟩
    subst hkey
    exact (h.read (hw ▸ hread)).2.2 v hv
  · have hkey := hother hv
    exact h.valid_read ((processing_finish_of_ne q requeue hkey).symm.trans hv)
  · have hkey := hother hv
    obtain ⟨hversion, hn, hobject⟩ :=
      h.read ((processing_finish_of_ne q requeue hkey).symm.trans hv)
    exact ⟨hversion, hnotAfter key' _ hn fun heq => absurd heq hkey, hobject⟩
  · have hkey := hother hread'
    exact h.current (hclean hclean') ((processing_finish_of_ne q requeue hkey).symm.trans hread')
  · by_cases hkey : key' = key
    · subst hkey
      cases requeue with
      | true => exact absurd (Finset.mem_insert_self _ _) hidle.clean
      | false =>
        -- the key has not been put back, so that what was read is still the object
        have hcurrent : read = q.objects key' := h.current (hclean hidle.clean) hread
        have hagrees := hf.agrees hwork fun v hv => ⟨hvalid v hv, (h.read (hv ▸ hread)).2.1⟩
        exact hcurrent ▸ hagrees
    · exact (hf.work_other hwork hvalid hkey).2 _ (h.agrees ⟨hclean hidle.clean,
        (processing_finish_of_ne q requeue hkey).symm.trans hidle.free⟩)

/-- **Every step keeps the local state in step with the objects.** -/
theorem step (hf : Follows version Valid work others NotAfter Agrees)
    (h : InStep version Valid NotAfter Agrees q l)
    (hstep : Step version Valid work others q l q' l') :
    InStep version Valid NotAfter Agrees q' l' := by
  cases hstep with
  | enqueue keys => exact h.enqueue keys
  | change key new hnew => exact h.change hf hnew
  | take key => exact h.take
  | finish _ key read requeue hread hwork => exact h.finish hf hread hwork
  | others _ hothers =>
    have hkeep := fun key => hf.others key hothers
    exact ⟨fun key => (hkeep key).1 _ (h.notAfter key), h.valid_object,
      fun hv => ⟨(h.object hv).1, (hkeep _).1 _ (h.object hv).2⟩, h.valid_read,
      fun hv => ⟨(h.read hv).1, (hkeep _).1 _ (h.read hv).2.1, (h.read hv).2.2⟩,
      h.current, fun hidle => (hkeep _).2 _ (h.agrees hidle)⟩

end InStep

end WorkQueue
