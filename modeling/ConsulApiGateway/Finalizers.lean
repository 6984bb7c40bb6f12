/-
Objects with finalizers.

An object that is deleted stays, marked for deletion, as long as it has finalizers, and goes with
the last of them.  Whoever wants an object to wait adds a finalizer to it while it is not marked,
and removes it when the object may go.

* `value_put_of_mem` — an object stays as long as it has a finalizer;
* `preserves_ensureFinalizer`, `preserves_removeFinalizer` — whatever the others do, the object that
  is replaced is the one that was read.
-/
import ConsulApiGateway.ObjectStore

namespace ObjectStore

open Shared

/-- An object, whether it is marked for deletion, and the finalizers that it waits for. -/
structure Finalized (V : Type) where
  value : V
  deleting : Bool := false
  finalizers : List String := []
  deriving DecidableEq

variable {σ ε K V : Type} [DecidableEq K]

namespace Finalized

/-- Nothing holds the object back. -/
def released (o : Finalized V) : Bool := o.deleting && o.finalizers.isEmpty

def addFinalizer (o : Finalized V) (finalizer : String) : Finalized V :=
  { o with finalizers := o.finalizers ++ [finalizer] }

def dropFinalizer (o : Finalized V) (finalizer : String) : Finalized V :=
  { o with finalizers := o.finalizers.filter (· ≠ finalizer) }

theorem not_released_of_mem {o : Finalized V} {finalizer : String} (h : finalizer ∈ o.finalizers) :
    o.released = false := by
  rw [released, List.isEmpty_eq_false_iff_exists_mem.2 ⟨finalizer, h⟩, Bool.and_false]

end Finalized

/-- A kind of objects with finalizers, which the server stores as they are. -/
def finalizedResource (part : Part σ (Table K (Finalized V))) (fail : Refusal → ε) :
    Resource σ ε K (Finalized V) := ⟨part, id, Finalized.released, fail⟩

/-- An object that has a finalizer stays. -/
theorem value_put_of_mem {part : Part σ (Table K (Finalized V))} {fail : Refusal → ε} {k : K}
    {v : Finalized V} {s : σ} {finalizer : String} (hmem : finalizer ∈ v.finalizers) :
    ((finalizedResource part fail).table ((finalizedResource part fail).put k v s)).value k =
      some v := by
  have hreleased : v.released ≠ true := by
    rw [Finalized.not_released_of_mem hmem]
    decide
  rw [Resource.value_put, if_pos rfl]
  exact if_neg hreleased

/-- Adds the finalizer to an object that was read; whether the object was written. -/
def ensureFinalizer (r : Resource σ ε K (Finalized V)) (k : K) (o : Versioned (Finalized V))
    (finalizer : String) : Program σ ε Bool :=
  if finalizer ∈ o.value.finalizers then pure false
  else do
    r.update k o.version (o.value.addFinalizer finalizer)
    return true

/-- Removes the finalizer from an object that was read; whether the object was written. -/
def removeFinalizer (r : Resource σ ε K (Finalized V)) (k : K) (o : Versioned (Finalized V))
    (finalizer : String) : Program σ ε Bool :=
  if finalizer ∈ o.value.finalizers then do
    r.update k o.version (o.value.dropFinalizer finalizer)
    return true
  else pure false

section

variable {r : Resource σ ε K (Finalized V)} {R : σ → σ → Prop} {P : σ → Prop} {k : K}
  {o : Versioned (Finalized V)} {finalizer : String} {s₀ : σ}

theorem ensureFinalizer_of_mem (h : finalizer ∈ o.value.finalizers) (w : World σ ε) :
    ensureFinalizer r k o finalizer w = (.ok false, w) := by
  rw [ensureFinalizer, if_pos h]
  rfl

/-- What is kept when the finalizer is added to the object that was read. -/
theorem preserves_ensureFinalizer (ho : (r.table s₀).lookup k = some o)
    (hR : ∀ s s', R s s' → P s → P s') (hgrows : ∀ s, P s → (r.table s₀).Grows (r.table s))
    (hput : ∀ s, P s → (r.table s).lookup k = some o → finalizer ∉ o.value.finalizers →
      P (r.put k (o.value.addFinalizer finalizer) s)) :
    Preserves R P (ensureFinalizer r k o finalizer) := by
  unfold ensureFinalizer
  split_ifs with hmem
  · exact preserves_pure _
  · exact (preserves_call hR fun s hs => updated_preserves ho (hgrows s hs) hs fun hlookup =>
      hput s hs hlookup hmem).bind fun _ => preserves_pure _

/-- What is kept when the finalizer is removed from the object that was read. -/
theorem preserves_removeFinalizer (ho : (r.table s₀).lookup k = some o)
    (hR : ∀ s s', R s s' → P s → P s') (hgrows : ∀ s, P s → (r.table s₀).Grows (r.table s))
    (hput : ∀ s, P s → (r.table s).lookup k = some o → finalizer ∈ o.value.finalizers →
      P (r.put k (o.value.dropFinalizer finalizer) s)) :
    Preserves R P (removeFinalizer r k o finalizer) := by
  unfold removeFinalizer
  split_ifs with hmem
  · exact (preserves_call hR fun s hs => updated_preserves ho (hgrows s hs) hs fun hlookup =>
      hput s hs hlookup hmem).bind fun _ => preserves_pure _
  · exact preserves_pure _

end

end ObjectStore
