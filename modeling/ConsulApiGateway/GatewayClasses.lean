/-
The classes of gateways (`gateway_class_controller.go` and `gateway_class_config_controller.go` of
`internal/k8s/controllers`, with `internal/k8s/reconciler/gatewayclass.go` and the calls that they
make of `internal/k8s/gatewayclient`).

A gateway names a class, and a class may name a configuration.  The controllers hold on to a class
that a gateway names, and to a configuration that a class names, by a finalizer.  They keep the
classes that they have accepted in memory, each with a copy of its configuration.

* `in_use_kept` — what is in use is held on to, through any number of reconciliations;
* `class_removed_in_use` — but a gateway that is made after the check of whether the class is in use
  is too late.
-/
import ConsulApiGateway.ClassConfig
import ConsulApiGateway.Finalizers
import ConsulApiGateway.Namespaces
import ConsulApiGateway.StatusConditions

namespace K8s

/-- The parameters of a class; the namespace of the reference is ignored. -/
structure ParametersReference where
  group : String
  kind : String
  name : String
  deriving DecidableEq

structure GatewayClass where
  controllerName : String
  parametersRef : Option ParametersReference := none
  generation : ℤ := 0
  conditions : List Condition := []
  deriving DecidableEq

end K8s

/-- The object with another status. -/
def ObjectStore.Finalized.withConditions (o : ObjectStore.Finalized K8s.GatewayClass)
    (conditions : List K8s.Condition) : ObjectStore.Finalized K8s.GatewayClass :=
  { o with value := { o.value with conditions := conditions } }

namespace Reconciler

open K8s Shared ObjectStore
open V1alpha1 (GatewayClassConfigSpec)

/-! ### Classes in memory -/

structure GatewayClassAcceptedStatus where
  invalidParameters : Err := none
  waiting : Err := none
  deriving DecidableEq

def GatewayClassAcceptedStatus.hasError (s : GatewayClassAcceptedStatus) : Bool :=
  s.invalidParameters.isSome || s.waiting.isSome

def GatewayClassAcceptedStatus.condition (s : GatewayClassAcceptedStatus) : ℤ → Time → Condition :=
  conditionOf "Accepted" .false_
    [("InvalidParameters", s.invalidParameters), ("Waiting", s.waiting)]
    .true_ "Accepted" "Accepted"

/-- A class as it was read, with its configuration. -/
structure K8sGatewayClass where
  class_ : Versioned (Finalized GatewayClass)
  accepted : GatewayClassAcceptedStatus := {}
  config : V1alpha1.GatewayClassConfig := {}

def K8sGatewayClass.isValid (c : K8sGatewayClass) : Bool := !c.accepted.hasError

/-- The objects of the cluster, of the gateways only the classes that they name, and the classes in
the memory of the controller. -/
structure Classes where
  classes : Table String (Finalized GatewayClass)
  configs : Table String (Finalized GatewayClassConfigSpec)
  gateways : GoMap NamespacedName String
  gatewayClasses : String → Option K8sGatewayClass

namespace Classes

def getConfig (s : Classes) (name : String) : Option V1alpha1.GatewayClassConfig :=
  (s.gatewayClasses name).bind fun c => if c.isValid then some c.config else none

def delete (name : String) (s : Classes) : Classes :=
  { s with gatewayClasses := Function.update s.gatewayClasses name none }

/-- A class that is older than the one in memory is ignored. -/
def store (name : String) (c : K8sGatewayClass) (s : Classes) : Bool × Classes :=
  if (s.gatewayClasses name).any fun current => c.class_.version < current.class_.version then
    (false, s)
  else (true, { s with gatewayClasses := Function.update s.gatewayClasses name (some c) })

/-- The answer of the server is written into the object. -/
def refresh (name : String) (written : Versioned (Finalized GatewayClass)) (s : Classes) :
    Classes :=
  let current := (s.gatewayClasses name).map fun c => { c with class_ := written }
  { s with gatewayClasses := Function.update s.gatewayClasses name current }

/-- The evictions are independent of each other. -/
def evict (names : Finset String) (s : Classes) : Classes :=
  { s with gatewayClasses := fun name => if name ∈ names then none else s.gatewayClasses name }

end Classes

/-! ### Calls -/

def gatewayClassConfigGroup : String := "api-gateway.consul.hashicorp.com"
def gatewayClassConfigKind : String := "GatewayClassConfig"

def gatewayClassUsesConfig (gc : GatewayClass) (gcc : String) : Bool :=
  gc.parametersRef.any fun ref => ref.group = gatewayClassConfigGroup ∧
    ref.kind = gatewayClassConfigKind ∧ ref.name = gcc

/-- The classes that use a configuration. -/
def Classes.using (s : Classes) (gcc : String) : Finset String :=
  s.classes.objects.keys.filter fun name =>
    (s.classes.value name).any fun gc => gatewayClassUsesConfig gc.value gcc

/-- A gateway names the class. -/
def Classes.InUse (s : Classes) (gc : String) : Prop :=
  ∃ g ∈ s.gateways.keys, s.gateways.lookup g = some gc

instance (s : Classes) (gc : String) : Decidable (s.InUse gc) :=
  inferInstanceAs (Decidable (∃ g ∈ s.gateways.keys, _))

/-- The controllers: the name that their classes have to have, and the errors of the server. -/
structure ClassControllers where
  controllerName : String
  refuse : Refusal → Failure

namespace ClassControllers

variable (d : ClassControllers)

def classes : Resource Classes Failure String (Finalized GatewayClass) :=
  finalizedResource ⟨Classes.classes, fun t s => { s with classes := t }, fun _ _ => rfl⟩ d.refuse

def configs : Resource Classes Failure String (Finalized GatewayClassConfigSpec) :=
  finalizedResource ⟨Classes.configs, fun t s => { s with configs := t }, fun _ _ => rfl⟩ d.refuse

def getGatewayClass (name : String) :
    Program Classes Failure (Option (Versioned (Finalized GatewayClass))) :=
  (d.classes.get name).mapError newK8sError

def getGatewayClassConfig (name : String) :
    Program Classes Failure (Option (Versioned (Finalized GatewayClassConfigSpec))) :=
  (d.configs.get name).mapError newK8sError

def gatewayClassInUse (gc : String) : Program Classes Failure Bool :=
  (call fun s => (.ok (decide (s.InUse gc)), s)).mapError newK8sError

def gatewayClassesUsingConfig (gcc : String) : Program Classes Failure (Finset String) :=
  (call fun s => (.ok (s.using gcc), s)).mapError newK8sError

def gatewayClassConfigInUse (gcc : String) : Program Classes Failure Bool :=
  (call fun s => (.ok (decide (s.using gcc).Nonempty), s)).mapError newK8sError

/-- How a state answers the update of a status: the object as it has been stored. -/
def statusUpdated (name : String) (o : Versioned (Finalized GatewayClass))
    (conditions : List Condition) (s : Classes) :
    Except Failure (Versioned (Finalized GatewayClass)) × Classes :=
  ((d.classes.updated name o.version (o.value.withConditions conditions) s).1.map fun _ =>
      ⟨s.classes.revision + 1, o.value.withConditions conditions⟩,
    (d.classes.updated name o.version (o.value.withConditions conditions) s).2)

def updateStatus (name : String) (o : Versioned (Finalized GatewayClass))
    (conditions : List Condition) :
    Program Classes Failure (Versioned (Finalized GatewayClass)) :=
  (call (d.statusUpdated name o conditions)).mapError newK8sError

def getConfigForGatewayClassName (name : String) :
    Program Classes Failure (Option V1alpha1.GatewayClassConfig) := do
  match ← d.getGatewayClass name with
  | none => return none
  | some class_ =>
    if class_.value.value.controllerName ≠ d.controllerName then return none
    else
      match class_.value.value.parametersRef with
      -- a legal class without a configuration
      | none => return some {}
      | some ref =>
        if ref.group ≠ gatewayClassConfigGroup ∨ ref.kind ≠ gatewayClassConfigKind then return none
        else
          let found ← d.getGatewayClassConfig ref.name
          return found.map fun gcc => ⟨ref.name, gcc.value.value⟩

/-! ### Accepting a class -/

def validate (gc : Versioned (Finalized GatewayClass)) : Program Classes Failure K8sGatewayClass :=
  match gc.value.value.parametersRef with
  | none => pure { class_ := gc }
  | some ref =>
    if ref.group ≠ gatewayClassConfigGroup ∨ ref.kind ≠ gatewayClassConfigKind then
      pure { class_ := gc
             accepted := { invalidParameters := some "unsupported gateway class configuration" } }
    else do
      match ← d.getGatewayClassConfig ref.name with
      | none => return { class_ := gc
                         accepted := { invalidParameters := some "gateway class not found" } }
      | some found => return { class_ := gc, config := ⟨ref.name, found.value.value⟩ }

def syncStatus (name : String) (now : Time) (c : K8sGatewayClass) : Program Classes Failure Unit :=
  let conditions := [c.accepted.condition c.class_.value.value.generation now]
  if conditionsEqual conditions c.class_.value.value.conditions then pure ()
  else do
    let written ← d.updateStatus name c.class_ conditions
    access fun s => ((), s.refresh name written)

/-- `Upsert` of the classes in memory. -/
def upsert (name : String) (now : Time) (c : K8sGatewayClass) : Program Classes Failure Unit := do
  if ← access (Classes.store name c) then d.syncStatus name now c

def upsertGatewayClass (name : String) (now : Time) (gc : Versioned (Finalized GatewayClass)) :
    Program Classes Failure Unit := do
  let c ← d.validate gc
  d.upsert name now c

/-! ### Reconciliation -/

/-- `ctrl.Result`, in milliseconds. -/
structure Result where
  requeueAfter : ℕ := 0

def gatewayClassFinalizer : String := "gateway-exists-finalizer.networking.x-k8s.io"

def gatewayClassConfigFinalizer : String :=
  "gateway-class-exists-finalizer.api-gateway.consul.hashicorp.com"

/-- `Reconcile` of the `GatewayClassReconciler`. -/
def reconcileClass (name : String) (now : Time) : Program Classes Failure Result := do
  match ← d.getGatewayClass name with
  | none =>
    access fun s => ((), s.delete name)
    return {}
  | some gc =>
    if gc.value.value.controllerName ≠ d.controllerName then return {}
    else if gc.value.deleting then
      if ← gatewayClassInUse name then return ⟨10000⟩
      else
        let _ ← (removeFinalizer d.classes name gc gatewayClassFinalizer).mapError newK8sError
        return {}
    else if ← (ensureFinalizer d.classes name gc gatewayClassFinalizer).mapError newK8sError then
      -- the update leads to another event
      return {}
    else
      d.upsertGatewayClass name now gc
      return {}

/-- Classes that use a configuration are evicted when it has changed; an error is ignored. -/
def evictUsing (gcc : String) : Program Classes Failure Unit := do
  match ← (gatewayClassesUsingConfig gcc).attempt with
  | .ok names => access fun s => ((), s.evict names)
  | .error _ => return ()

/-- `Reconcile` of the `GatewayClassConfigReconciler`. -/
def reconcileConfig (name : String) : Program Classes Failure Result := do
  match ← d.getGatewayClassConfig name with
  | none => return {}
  | some gcc =>
    if gcc.value.deleting then
      if ← gatewayClassConfigInUse name then return ⟨10000⟩
      else
        let _ ← (removeFinalizer d.configs name gcc gatewayClassConfigFinalizer).mapError
          newK8sError
        return {}
    else
      evictUsing name
      let _ ← (ensureFinalizer d.configs name gcc gatewayClassConfigFinalizer).mapError newK8sError
      return {}

/-- A request to one of the controllers, with the time at which it is served. -/
inductive Request
  | class_ (name : String) (now : Time)
  | config (name : String)

def reconcile : Request → Program Classes Failure Result
  | .class_ name now => d.reconcileClass name now
  | .config name => d.reconcileConfig name

/-- The requests one after the other, each to its end. -/
def serve : List Request → Program Classes Failure Unit
  | [] => pure ()
  | request :: requests => do
    let _ ← (d.reconcile request).attempt
    serve requests

/-! ### What is in use -/

/-- A gateway names the class, and the controllers hold on to the class and to the configuration
that its parameters name. -/
structure Held (g : NamespacedName) (name : String) (ref : Option ParametersReference)
    (s : Classes) : Prop where
  gateway : s.gateways.lookup g = some name
  class_ : ∃ gc, s.classes.value name = some gc ∧ gatewayClassFinalizer ∈ gc.finalizers ∧
    gc.value.parametersRef = ref ∧ ∀ k, gatewayClassUsesConfig gc.value k = true →
      ∃ gcc, s.configs.value k = some gcc ∧ gatewayClassConfigFinalizer ∈ gcc.finalizers

/-- The others leave what is held as it is, and what they write gets a new version. -/
structure Respects (g : NamespacedName) (name : String) (ref : Option ParametersReference)
    (s s' : Classes) : Prop where
  classes : s.classes.Grows s'.classes
  configs : s.configs.Grows s'.configs
  held : Held g name ref s → Held g name ref s'

/-- What is held, since an object was read. -/
structure HeldSince (g : NamespacedName) (name : String) (ref : Option ParametersReference)
    (s₀ s : Classes) : Prop where
  held : Held g name ref s
  classes : s₀.classes.Grows s.classes
  configs : s₀.configs.Grows s.configs

section

variable {d} {g : NamespacedName} {name name' : String} {ref : Option ParametersReference}
  {s₀ s s' : Classes}

theorem Held.inUse (h : Held g name ref s) : s.InUse name :=
  ⟨g, Finmap.mem_keys.2 (Finmap.mem_of_lookup_eq_some h.gateway), h.gateway⟩

theorem mem_using_iff {k : String} : name ∈ s.using k ↔
    ∃ gc, s.classes.value name = some gc ∧ gatewayClassUsesConfig gc.value k = true := by
  unfold Classes.using
  rw [Finset.mem_filter, Option.any_eq_true]
  refine ⟨fun h => h.2, fun h => ⟨?_, h⟩⟩
  obtain ⟨gc, hgc, -⟩ := h
  obtain ⟨o, ho, -⟩ := Option.map_eq_some_iff.1 hgc
  exact Finmap.mem_keys.2 (Finmap.mem_of_lookup_eq_some ho)

/-- The class is replaced by one with the same parameters and the finalizers it had, or another
class is replaced. -/
theorem Held.put_class {o : Versioned (Finalized GatewayClass)} {v : Finalized GatewayClass}
    (h : Held g name ref s) (ho : s.classes.lookup name' = some o)
    (hkept : name = name' → o.value.finalizers ⊆ v.finalizers ∧
      v.value.parametersRef = o.value.value.parametersRef) :
    Held g name ref (d.classes.put name' v s) := by
  obtain ⟨gc, hgc, hmem, href, hconfig⟩ := h.class_
  refine ⟨h.gateway, ?_⟩
  by_cases hname : name = name'
  · obtain ⟨hfinalizers, hparameters⟩ := hkept hname
    subst hname
    rw [Table.value, ho] at hgc
    cases Option.some.inj hgc
    have hvalue : (d.classes.table (d.classes.put name v s)).value name = some v :=
      value_put_of_mem (hfinalizers hmem)
    refine ⟨v, hvalue, hfinalizers hmem, hparameters.trans href, fun k huses => hconfig k ?_⟩
    unfold gatewayClassUsesConfig at huses ⊢
    rwa [← hparameters]
  · have hvalue := d.classes.value_put name' name v s
    rw [if_neg hname] at hvalue
    exact ⟨gc, hvalue.trans hgc, hmem, href, hconfig⟩

/-- The configuration is replaced by one with the finalizers it had, or one that is not in use is
replaced. -/
theorem Held.put_config {o : Versioned (Finalized GatewayClassConfigSpec)}
    {v : Finalized GatewayClassConfigSpec} (h : Held g name ref s)
    (ho : s.configs.lookup name' = some o)
    (hkept :
      (∀ gc : GatewayClass, gc.parametersRef = ref → gatewayClassUsesConfig gc name' = true) →
      o.value.finalizers ⊆ v.finalizers) :
    Held g name ref (d.configs.put name' v s) := by
  obtain ⟨gc, hgc, hmem, href, hconfig⟩ := h.class_
  refine ⟨h.gateway, gc, hgc, hmem, href, fun k huses => ?_⟩
  obtain ⟨gcc, hgcc, hheld⟩ := hconfig k huses
  by_cases hname : k = name'
  · subst hname
    have hfinalizers := hkept fun gc' href' => by
      unfold gatewayClassUsesConfig at huses ⊢
      rwa [href', ← href]
    rw [Table.value, ho] at hgcc
    cases Option.some.inj hgcc
    have hvalue : (d.configs.table (d.configs.put k v s)).value k = some v :=
      value_put_of_mem (hfinalizers hheld)
    exact ⟨v, hvalue, hfinalizers hheld⟩
  · have hvalue := d.configs.value_put name' k v s
    rw [if_neg hname] at hvalue
    exact ⟨gcc, hvalue.trans hgcc, hheld⟩

theorem HeldSince.respects (h : HeldSince g name ref s₀ s) (hR : Respects g name ref s s') :
    HeldSince g name ref s₀ s' :=
  ⟨hR.held h.held, h.classes.trans hR.classes, h.configs.trans hR.configs⟩

/-- Only the memory of the controller is changed. -/
theorem HeldSince.memory (h : HeldSince g name ref s₀ s) (hgateways : s'.gateways = s.gateways)
    (hclasses : s'.classes = s.classes) (hconfigs : s'.configs = s.configs) :
    HeldSince g name ref s₀ s' := by
  obtain ⟨⟨hgateway, hclass⟩, hgrows, hgrows'⟩ := h
  rw [← hgateways] at hgateway
  rw [← hclasses] at hclass hgrows
  rw [← hconfigs] at hclass hgrows'
  exact ⟨⟨hgateway, hclass⟩, hgrows, hgrows'⟩

theorem HeldSince.put_class {o : Versioned (Finalized GatewayClass)} {v : Finalized GatewayClass}
    (h : HeldSince g name ref s₀ s) (ho : s.classes.lookup name' = some o)
    (hkept : name = name' → o.value.finalizers ⊆ v.finalizers ∧
      v.value.parametersRef = o.value.value.parametersRef) :
    HeldSince g name ref s₀ (d.classes.put name' v s) :=
  ⟨h.held.put_class ho hkept, h.classes.trans (d.classes.grows_put name' v s), h.configs⟩

theorem HeldSince.put_config {o : Versioned (Finalized GatewayClassConfigSpec)}
    {v : Finalized GatewayClassConfigSpec} (h : HeldSince g name ref s₀ s)
    (ho : s.configs.lookup name' = some o)
    (hkept :
      (∀ gc : GatewayClass, gc.parametersRef = ref → gatewayClassUsesConfig gc name' = true) →
      o.value.finalizers ⊆ v.finalizers) :
    HeldSince g name ref s₀ (d.configs.put name' v s) :=
  ⟨h.held.put_config ho hkept, h.classes, h.configs.trans (d.configs.grows_put name' v s)⟩

/-- Reading keeps what is held. -/
theorem preserves_read {α : Type} (f : Classes → Except Failure α) :
    Preserves (Respects g name ref) (HeldSince g name ref s₀) (call fun s => (f s, s)) :=
  preserves_call (fun _ _ hR h => h.respects hR) fun _ h => h

/-- So does a step in the memory of the controller. -/
theorem preserves_memory {α : Type} {f : Classes → α × Classes}
    (hf : ∀ s, (f s).2.gateways = s.gateways ∧ (f s).2.classes = s.classes ∧
      (f s).2.configs = s.configs) :
    Preserves (Respects g name ref) (HeldSince g name ref s₀)
      (access f : Program Classes Failure α) :=
  preserves_access (fun _ _ hR h => h.respects hR) fun s h =>
    h.memory (hf s).1 (hf s).2.1 (hf s).2.2

/-- An object is read from a state in which everything is held. -/
theorem held_of_since {α : Type} {w : World Classes Failure} {p : Program Classes Failure α}
    (hw : w.Relies (Respects g name ref)) (h : Held g name ref w.state)
    (hp : Preserves (Respects g name ref) (HeldSince g name ref w.found) p) :
    Held g name ref (p (w.after w.found w.found)).2.state ∧
      (p (w.after w.found w.found)).2.Relies (Respects g name ref) := by
  obtain ⟨hheld, hrelies⟩ := hp _ (hw.after w.found w.found)
    ⟨hw.found.held h, .refl _, .refl _⟩
  exact ⟨hheld.held, hrelies⟩

/-! ### Classes -/

theorem preserves_validate (gc : Versioned (Finalized GatewayClass)) :
    Preserves (Respects g name ref) (HeldSince g name ref s₀) (d.validate gc) := by
  unfold validate
  split
  · exact preserves_pure _
  · split_ifs
    · exact preserves_pure _
    · refine ((preserves_read _).mapError _).bind fun found => ?_
      cases found with
      | none => exact preserves_pure _
      | some found => exact preserves_pure _

/-- The class that was read is the class that is accepted or not. -/
theorem class_validate {gc : Versioned (Finalized GatewayClass)} {w w' : World Classes Failure}
    {c : K8sGatewayClass} (h : d.validate gc w = (.ok c, w')) : c.class_ = gc := by
  unfold validate at h
  cases href : gc.value.value.parametersRef with
  | none =>
    rw [href] at h
    cases h
    rfl
  | some ref =>
    rw [href] at h
    dsimp only at h
    split_ifs at h
    · cases h
      rfl
    · obtain ⟨found, w₁, -, hnext⟩ := bind_eq_ok h
      cases found with
      | none =>
        cases hnext
        rfl
      | some found =>
        cases hnext
        rfl

theorem preserves_syncStatus {c : K8sGatewayClass} (now : Time)
    (ho : s₀.classes.lookup name' = some c.class_) :
    Preserves (Respects g name ref) (HeldSince g name ref s₀) (d.syncStatus name' now c) := by
  unfold syncStatus
  dsimp only
  split_ifs
  · exact preserves_pure _
  · refine Preserves.bind (Preserves.mapError (preserves_call (fun _ _ hR h => h.respects hR)
      fun s hs => ?_) _) fun written => preserves_memory fun _ => ⟨rfl, rfl, rfl⟩
    exact updated_preserves (r := d.classes) ho hs.classes hs fun hlookup =>
      hs.put_class hlookup fun _ => ⟨List.Subset.refl _, rfl⟩

theorem preserves_upsertGatewayClass {gc : Versioned (Finalized GatewayClass)} (now : Time)
    (ho : s₀.classes.lookup name' = some gc) :
    Preserves (Respects g name ref) (HeldSince g name ref s₀)
      (d.upsertGatewayClass name' now gc) := by
  refine (preserves_validate gc).bind_of fun w c w₁ _ _ hvalidate hP hw => ?_
  obtain rfl := class_validate hvalidate
  refine Preserves.bind (preserves_memory fun s => ?_) (fun stored => ?_) w₁ hw hP
  · unfold Classes.store
    split_ifs
    · exact ⟨rfl, rfl, rfl⟩
    · exact ⟨rfl, rfl, rfl⟩
  · cases stored with
    | false => exact preserves_pure _
    | true => exact preserves_syncStatus now ho

/-- A class that is in use is not let go. -/
theorem preserves_releaseClass {gc : Versioned (Finalized GatewayClass)}
    (ho : s₀.classes.lookup name' = some gc) :
    Preserves (Respects g name ref) (HeldSince g name ref s₀) (do
      if ← gatewayClassInUse name' then return (⟨10000⟩ : Result)
      else
        let _ ← (removeFinalizer d.classes name' gc gatewayClassFinalizer).mapError newK8sError
        return {}) := by
  refine ((preserves_read _).mapError _).bind_of fun w used w₁ hw hP hused hP₁ hw₁ => ?_
  obtain ⟨hvalue, -⟩ := call_eq_ok (mapError_eq_ok hused)
  cases used with
  | true => exact ⟨hP₁, hw₁⟩
  | false =>
    have hne : name ≠ name' := by
      rintro rfl
      exact of_decide_eq_false (Except.ok.inj hvalue) (hP.respects hw.found).held.inUse
    exact ((preserves_removeFinalizer (r := d.classes) ho (fun _ _ hR h => h.respects hR)
      (fun s hs => hs.classes) fun s hs hlookup _ =>
        hs.put_class hlookup fun h => absurd h hne).mapError _).bind
      (fun _ => preserves_pure _) w₁ hw₁ hP₁

theorem preserves_reconcileClass (name' : String) (now : Time) :
    Preserves (Respects g name ref) (Held g name ref) (d.reconcileClass name' now) := by
  have hread : Preserves (Respects g name ref) (Held g name ref) (d.getGatewayClass name') :=
    (preserves_call (fun _ _ hR h => hR.held h) fun _ h => h).mapError _
  refine hread.bind_of fun w o w₁ hw hheld hget _ hw₁ => ?_
  obtain ⟨hlookup, rfl⟩ := get_eq_ok (mapError_eq_ok hget)
  refine held_of_since hw hheld ?_
  cases o with
  | none => exact (preserves_memory fun _ => ⟨rfl, rfl, rfl⟩).bind fun _ => preserves_pure _
  | some gc =>
    dsimp only
    split_ifs
    · exact preserves_pure _
    · exact preserves_releaseClass hlookup
    · refine ((preserves_ensureFinalizer hlookup (fun _ _ hR h => h.respects hR)
        (fun s hs => hs.classes) fun s hs ho _ => hs.put_class ho fun _ =>
          ⟨List.subset_append_left _ _, rfl⟩).mapError _).bind fun updated => ?_
      cases updated with
      | true => exact preserves_pure _
      | false => exact (preserves_upsertGatewayClass now hlookup).bind fun _ => preserves_pure _

/-! ### Configurations -/

theorem preserves_evictUsing (gcc : String) :
    Preserves (Respects g name ref) (HeldSince g name ref s₀) (evictUsing gcc) := by
  refine (((preserves_read _).mapError _).attempt).bind fun result => ?_
  cases result with
  | ok names => exact preserves_memory fun _ => ⟨rfl, rfl, rfl⟩
  | error err => exact preserves_pure _

/-- A configuration that is in use is not let go. -/
theorem preserves_releaseConfig {gcc : Versioned (Finalized GatewayClassConfigSpec)}
    (ho : s₀.configs.lookup name' = some gcc) :
    Preserves (Respects g name ref) (HeldSince g name ref s₀) (do
      if ← gatewayClassConfigInUse name' then return (⟨10000⟩ : Result)
      else
        let _ ← (removeFinalizer d.configs name' gcc gatewayClassConfigFinalizer).mapError
          newK8sError
        return {}) := by
  refine ((preserves_read _).mapError _).bind_of fun w used w₁ hw hP hused hP₁ hw₁ => ?_
  obtain ⟨hvalue, -⟩ := call_eq_ok (mapError_eq_ok hused)
  cases used with
  | true => exact ⟨hP₁, hw₁⟩
  | false =>
    have hunused : ¬ ∀ gc : GatewayClass, gc.parametersRef = ref →
        gatewayClassUsesConfig gc name' = true := by
      intro huses
      obtain ⟨gc, hgc, -, href, -⟩ := (hP.respects hw.found).held.class_
      exact of_decide_eq_false (Except.ok.inj hvalue)
        ⟨name, mem_using_iff.2 ⟨gc, hgc, huses gc.value href⟩⟩
    exact ((preserves_removeFinalizer (r := d.configs) ho (fun _ _ hR h => h.respects hR)
      (fun s hs => hs.configs) fun s hs hlookup _ =>
        hs.put_config hlookup fun h => absurd h hunused).mapError _).bind
      (fun _ => preserves_pure _) w₁ hw₁ hP₁

theorem preserves_reconcileConfig (name' : String) :
    Preserves (Respects g name ref) (Held g name ref) (d.reconcileConfig name') := by
  have hread : Preserves (Respects g name ref) (Held g name ref) (d.getGatewayClassConfig name') :=
    (preserves_call (fun _ _ hR h => hR.held h) fun _ h => h).mapError _
  refine hread.bind_of fun w o w₁ hw hheld hget _ hw₁ => ?_
  obtain ⟨hlookup, rfl⟩ := get_eq_ok (mapError_eq_ok hget)
  refine held_of_since hw hheld ?_
  cases o with
  | none => exact preserves_pure _
  | some gcc =>
    dsimp only
    split_ifs
    · exact preserves_releaseConfig hlookup
    · refine (preserves_evictUsing name').bind fun _ => ?_
      exact ((preserves_ensureFinalizer hlookup (fun _ _ hR h => h.respects hR)
        (fun s hs => hs.configs) fun s hs ho _ => hs.put_config ho fun _ =>
          List.subset_append_left _ _).mapError _).bind fun _ => preserves_pure _

end

/-- **What is in use stays**: through any requests, whatever else happens, as long as nobody else
lets go of it. -/
theorem in_use_kept (g : NamespacedName) (name : String) (ref : Option ParametersReference)
    (requests : List Request) (w : World Classes Failure) (hw : w.Relies (Respects g name ref))
    (h : Held g name ref w.state) : Held g name ref (d.serve requests w).2.state := by
  suffices hserve : Preserves (Respects g name ref) (Held g name ref) (d.serve requests) from
    (hserve w hw h).1
  induction requests with
  | nil => exact preserves_pure _
  | cons request requests ih =>
    refine Preserves.bind (Preserves.attempt ?_) fun _ => ih
    cases request with
    | class_ name' now => exact preserves_reconcileClass name' now
    | config name' => exact preserves_reconcileConfig name'

namespace SampleClasses

def controllers : ClassControllers := ⟨"controller", fun _ => ⟨false, "refused"⟩⟩

def gateway : NamespacedName := ⟨"team", "gateway"⟩

/-- A class that is deleted while a gateway uses it, with a configuration that is deleted too. -/
def class_ : Finalized GatewayClass where
  value := { controllerName := "controller"
             parametersRef := some ⟨gatewayClassConfigGroup, gatewayClassConfigKind, "config"⟩ }
  deleting := true
  finalizers := [gatewayClassFinalizer]

def config : Finalized GatewayClassConfigSpec := ⟨{}, true, [gatewayClassConfigFinalizer]⟩

def classes (gateways : GoMap NamespacedName String) : Classes where
  classes := Table.empty.write "class" class_
  configs := Table.empty.write "config" config
  gateways := gateways
  gatewayClasses _ := none

theorem held : Held gateway "class" class_.value.parametersRef
    (classes ((∅ : GoMap _ _).insert gateway "class")) := by
  refine ⟨Finmap.lookup_insert _, class_, rfl, List.mem_singleton_self _, rfl, fun k huses => ?_⟩
  have hk : k = "config" := (of_decide_eq_true huses).2.2.symm
  subst hk
  exact ⟨config, rfl, List.mem_singleton_self _⟩

theorem in_use_kept_here : Held gateway "class" class_.value.parametersRef
    (controllers.serve [.class_ "class" none, .config "config"]
      (World.quiet (classes ((∅ : GoMap _ _).insert gateway "class")))).2.state :=
  controllers.in_use_kept _ _ _ _ _
    (World.quiet_relies (fun _ => ⟨.refl _, .refl _, id⟩) _) held

end SampleClasses

/-! ### A gateway that comes too late -/

/-- Somebody makes a gateway of the class. -/
def makeGateway (g : NamespacedName) (name : String) (s : Classes) : Classes :=
  { s with gateways := s.gateways.insert g name }

/-- The gateway is made between the check and the removal of the finalizer. -/
def lateGateway (g : NamespacedName) (name : String) (s : Classes) : World Classes Failure :=
  ⟨s, fun n => ⟨if n = 2 then makeGateway g name else id, .none⟩, []⟩

/-- **A class may go although a gateway names it**: whether it is in use is not checked again when
the finalizer is removed. -/
theorem class_removed_in_use {s : Classes} {name : String} {gc : Finalized GatewayClass}
    (hvalue : s.classes.value name = some gc) (hname : gc.value.controllerName = d.controllerName)
    (hdeleting : gc.deleting = true) (hfinalizers : gc.finalizers = [gatewayClassFinalizer])
    (hunused : ¬ s.InUse name) (g : NamespacedName) (now : Time) :
    (d.reconcileClass name now (lateGateway g name s)).1 = .ok {} ∧
      (d.reconcileClass name now (lateGateway g name s)).2.state.InUse name ∧
      (d.reconcileClass name now (lateGateway g name s)).2.state.classes.value name = none := by
  obtain ⟨o, ho, rfl⟩ := Option.map_eq_some_iff.1 hvalue
  have hget : d.getGatewayClass name (lateGateway g name s) =
      (.ok (some o), (lateGateway g name s).after s s) :=
    congrArg (fun o => (Except.ok o, (lateGateway g name s).after s s)) ho
  have hused : gatewayClassInUse name ((lateGateway g name s).after s s) =
      (.ok false, ((lateGateway g name s).after s s).after s s) :=
    congrArg (fun used => (Except.ok used, ((lateGateway g name s).after s s).after s s))
      (decide_eq_false hunused)
  -- the gateway is there, and the class is as it was read
  have hupdated : d.classes.updated name o.version (o.value.dropFinalizer gatewayClassFinalizer)
      (makeGateway g name s) = (.ok (), d.classes.put name
        (o.value.dropFinalizer gatewayClassFinalizer) (makeGateway g name s)) := by
    have hlookup : (d.classes.table (makeGateway g name s)).lookup name = some o := ho
    rw [Resource.updated, hlookup]
    exact if_pos rfl
  have hremove : (removeFinalizer d.classes name o gatewayClassFinalizer).mapError newK8sError
      (((lateGateway g name s).after s s).after s s) = (.ok true,
        (((lateGateway g name s).after s s).after s s).after (makeGateway g name s)
          (d.classes.put name (o.value.dropFinalizer gatewayClassFinalizer)
            (makeGateway g name s))) := by
    refine mapError_of_ok ?_ _
    rw [removeFinalizer, if_pos (by rw [hfinalizers]; exact List.mem_singleton_self _)]
    refine bind_of_ok (a := ()) ?_ _
    exact congrArg (fun result => (result.1, (((lateGateway g name s).after s s).after s s).after
      (makeGateway g name s) result.2)) hupdated
  have hreconcile : d.reconcileClass name now (lateGateway g name s) = (.ok {},
      (((lateGateway g name s).after s s).after s s).after (makeGateway g name s)
        (d.classes.put name (o.value.dropFinalizer gatewayClassFinalizer)
          (makeGateway g name s))) := by
    rw [reconcileClass, bind_of_ok hget]
    dsimp only
    rw [if_neg (not_not.2 hname), if_pos hdeleting, bind_of_ok hused, if_neg Bool.false_ne_true,
      bind_of_ok hremove]
    rfl
  rw [hreconcile]
  refine ⟨rfl, ⟨g, Finmap.mem_keys.2 (Finmap.mem_of_lookup_eq_some (Finmap.lookup_insert _)),
    Finmap.lookup_insert _⟩, ?_⟩
  have hreleased : (o.value.dropFinalizer gatewayClassFinalizer).released = true := by
    simp [Finalized.released, Finalized.dropFinalizer, hdeleting, hfinalizers]
  refine (d.classes.value_put name name _ _).trans ?_
  rw [if_pos rfl]
  exact if_pos hreleased

theorem SampleClasses.class_removed_in_use_here :
    (controllers.reconcileClass "class" none (lateGateway gateway "class" (classes ∅))).1 = .ok {} ∧
      (controllers.reconcileClass "class" none
        (lateGateway gateway "class" (classes ∅))).2.state.InUse "class" ∧
      (controllers.reconcileClass "class" none
        (lateGateway gateway "class" (classes ∅))).2.state.classes.value "class" = none := by
  have hvalue : (classes ∅).classes.value "class" = some class_ := rfl
  exact controllers.class_removed_in_use hvalue rfl rfl rfl (by decide) gateway none

end ClassControllers

end Reconciler
