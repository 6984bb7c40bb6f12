/-
The classes in the memory of the controller (`internal/k8s/reconciler/gatewayclass.go`, with the two
controllers of the classes).

A gateway that has no configuration yet gets the one of its class: from the memory of the controller
if the class is there, and from the cluster otherwise.  What is in memory is a copy, which the
controllers have to replace or to evict when the class or the configuration has changed.

* `memory_agrees` — where no request is left to be served, both ways lead to one configuration, if
  the reconciliations do not overlap and the classes can be listed;
* `stale_config_stored` — if they do overlap, an old configuration may be stored after it has been
  evicted;
* `failed_listing_not_retried` — and if the classes cannot be listed, nothing is evicted.
-/
import ConsulApiGateway.GatewayClasses
import ConsulApiGateway.Run

namespace Reconciler

open K8s Shared ObjectStore
open V1alpha1 (GatewayClassConfigSpec)

namespace Classes

/-- The configuration that the parameters of a class name. -/
def parameters (s : Classes) :
    Option ParametersReference → Option V1alpha1.GatewayClassConfig
  | none => some {}
  | some ref =>
    if ref.group ≠ gatewayClassConfigGroup ∨ ref.kind ≠ gatewayClassConfigKind then none
    else (s.configs.lookup ref.name).map fun gcc => ⟨ref.name, gcc.value.value⟩

/-- What is in memory was read before the cluster was as it is. -/
def Bounded (s : Classes) (name : String) : Prop :=
  ∀ c, s.gatewayClasses name = some c → c.class_.version ≤ s.classes.revision ∧
    ∀ o, s.classes.lookup name = some o → c.class_.version ≤ o.version

/-- The class of a controller has in memory the configuration that it names. -/
def Current (s : Classes) (controllerName name : String) : Prop :=
  ∀ c o config, s.gatewayClasses name = some c → c.isValid = true →
    s.classes.lookup name = some o → o.value.value.controllerName = controllerName →
    s.parameters o.value.value.parametersRef = some config → c.config = config

/-- Only the class of the name is changed, in the cluster or in memory. -/
structure OnlyClass (name : String) (s s' : Classes) : Prop where
  configs : s'.configs = s.configs
  grows : s.classes.Grows s'.classes
  lookup : ∀ n ≠ name, s'.classes.lookup n = s.classes.lookup n
  memory : ∀ n ≠ name, s'.gatewayClasses n = s.gatewayClasses n

section

variable {s s' s'' : Classes} {name controllerName : String}

theorem OnlyClass.refl (s : Classes) : OnlyClass name s s :=
  ⟨rfl, .refl _, fun _ _ => rfl, fun _ _ => rfl⟩

theorem OnlyClass.trans (h : OnlyClass name s s') (h' : OnlyClass name s' s'') :
    OnlyClass name s s'' :=
  ⟨h'.configs.trans h.configs, h.grows.trans h'.grows,
    fun n hn => (h'.lookup n hn).trans (h.lookup n hn),
    fun n hn => (h'.memory n hn).trans (h.memory n hn)⟩

/-- A step in memory, at one name. -/
theorem onlyClass_update (c : Option K8sGatewayClass) :
    OnlyClass name s { s with gatewayClasses := Function.update s.gatewayClasses name c } :=
  ⟨rfl, .refl _, fun _ _ => rfl, fun _ hn => Function.update_of_ne hn _ _⟩

theorem onlyClass_put (d : ClassControllers) (v : Finalized GatewayClass) :
    OnlyClass name s (d.classes.put name v s) :=
  ⟨rfl, d.classes.grows_put name v s, fun _ hn => d.classes.lookup_put_of_ne hn v s,
    fun _ _ => rfl⟩

theorem Bounded.grows (h : s.Bounded name) (hgrows : s.classes.Grows s'.classes)
    (hmemory : ∀ c, s'.gatewayClasses name = some c → s.gatewayClasses name = some c) :
    s'.Bounded name := by
  intro c hc
  obtain ⟨hrevision, hversion⟩ := h c (hmemory c hc)
  refine ⟨hrevision.trans hgrows.revision, fun o ho => ?_⟩
  rcases hgrows.lookup name o ho with hold | hnew
  · exact hversion o hold
  · exact hrevision.trans hnew.le

end

end Classes

namespace ClassControllers

open Classes

variable {d : ClassControllers} {s : Classes} {name : String}

/-! ### Reconciling a class alone -/

/-- A read that fails or returns what is there. -/
theorem alone_read {α : Type} (f : Classes → α) :
    Alone s ((call fun s => (.ok (f s), s) : Program Classes Failure α).mapError newK8sError)
      fun r s' => s' = s ∧ ∀ a, r = .ok a → a = f s := by
  refine Alone.mapError (alone_call ⟨rfl, fun a ha => ?_⟩ fun err => ⟨⟨rfl, ?_⟩, rfl, ?_⟩)
  · exact (Except.ok.inj ha).symm
  · rintro a ha
    cases ha
  · rintro a ha
    cases ha

/-- What is accepted has the configuration that is there. -/
theorem alone_validate (gc : Versioned (Finalized GatewayClass)) :
    Alone s (d.validate gc) fun r s' => s' = s ∧ ∀ c, r = .ok c → c.class_ = gc ∧
      (c.isValid = true → ∀ config, s.parameters gc.value.value.parametersRef = some config →
        c.config = config) := by
  unfold validate
  cases gc.value.value.parametersRef with
  | none =>
    refine alone_pure ⟨rfl, fun c hc => ?_⟩
    cases hc
    exact ⟨rfl, fun _ config hconfig => Option.some.inj hconfig⟩
  | some ref =>
    dsimp only
    split_ifs with hkind
    · refine alone_pure ⟨rfl, fun c hc => ?_⟩
      cases hc
      exact ⟨rfl, fun hvalid => by cases hvalid⟩
    · refine (alone_read _).bind (fun err s' h => ⟨h.1, fun c hc => by cases hc⟩) ?_
      rintro found s' ⟨rfl, hfound⟩
      have hlookup : found = s'.configs.lookup ref.name := hfound found rfl
      cases found with
      | none =>
        refine alone_pure ⟨rfl, fun c hc => ?_⟩
        cases hc
        exact ⟨rfl, fun hvalid => by cases hvalid⟩
      | some found =>
        refine alone_pure ⟨rfl, fun c hc => ?_⟩
        cases hc
        refine ⟨rfl, fun _ config hconfig => ?_⟩
        rw [parameters, if_neg hkind, ← hlookup] at hconfig
        exact Option.some.inj hconfig

/-- The write of the status fails without an effect, or the class is replaced. -/
theorem alone_updateStatus {o : Versioned (Finalized GatewayClass)} (conditions : List Condition)
    (hlookup : s.classes.lookup name = some o) :
    Alone s (d.updateStatus name o conditions) fun r s' => (s' = s ∧ ∃ err, r = .error err) ∨
      ∃ v, s' = d.classes.put name v s ∧ ∀ written, r = .ok written →
        written.version = s.classes.revision + 1 := by
  have hupdated : ∀ v, d.classes.updated name o.version v s = (.ok (), d.classes.put name v s) := by
    intro v
    have hlookup' : (d.classes.table s).lookup name = some o := hlookup
    rw [Resource.updated, hlookup']
    exact if_pos rfl
  refine Alone.mapError (alone_call ?_ fun err => ⟨.inl ⟨rfl, _, rfl⟩, ?_⟩)
  · rw [statusUpdated, hupdated]
    refine .inr ⟨_, rfl, fun written hwritten => ?_⟩
    cases hwritten
    rfl
  · rw [statusUpdated, hupdated]
    refine .inr ⟨_, rfl, fun written hwritten => ?_⟩
    cases hwritten

/-- What the write of the status leaves: the class in memory is the one in the cluster, and if
nothing was written it is as it was. -/
structure Synced (name : String) (c : K8sGatewayClass) (s : Classes) (r : Except Failure Unit)
    (s' : Classes) : Prop where
  only : OnlyClass name s s'
  bounded : s'.Bounded name
  unchanged : r = .ok () → s'.classes.lookup name = s.classes.lookup name →
    s'.gatewayClasses name = some c

theorem alone_syncStatus {c : K8sGatewayClass} (now : Time) (hbounded : s.Bounded name)
    (hlookup : s.classes.lookup name = some c.class_) (hmemory : s.gatewayClasses name = some c) :
    Alone s (d.syncStatus name now c) (Synced name c s) := by
  have hrefl : ∀ r, Synced name c s r s := fun r => ⟨.refl s, hbounded, fun _ _ => hmemory⟩
  unfold syncStatus
  dsimp only
  split_ifs
  · exact alone_pure (hrefl _)
  · refine (alone_updateStatus _ hlookup).bind (fun err s' h => ?_) fun o s' h => ?_
    · rcases h with ⟨rfl, -⟩ | ⟨v, rfl, -⟩
      · exact hrefl _
      · exact ⟨onlyClass_put d v, hbounded.grows (onlyClass_put d v).grows fun _ h => h, by simp⟩
    · rcases h with ⟨-, err, herr⟩ | ⟨v, rfl, ho⟩
      · cases herr
      · refine alone_access ⟨(onlyClass_put d v).trans (onlyClass_update _), ?_, fun _ hsame =>
          absurd hsame (d.classes.lookup_put_ne hlookup v)⟩
        intro c' hc'
        have hwritten := ho o rfl
        have hmemory' : some c' = (s.gatewayClasses name).map fun c => { c with class_ := o } :=
          hc'.symm.trans (Function.update_self _ _ _)
        rw [hmemory] at hmemory'
        cases Option.some.inj hmemory'
        exact ⟨(hwritten.trans (d.classes.revision_put name v s).symm).le, fun o' ho' =>
          (hwritten.trans (d.classes.version_put ho').symm).le⟩

/-- A request that has been served is not made again unless that is asked for. -/
def Done (r : Except Failure Result) : Prop := r = .ok {}

/-- What serving a class leaves. -/
structure ServedClass (d : ClassControllers) (name : String) (s : Classes)
    (r : Except Failure Result) (s' : Classes) : Prop where
  only : OnlyClass name s s'
  bounded : s'.Bounded name
  /-- When the class has not been written and is not being deleted, it is current. -/
  current : Done r → s'.classes.lookup name = s.classes.lookup name →
    (∀ o, s.classes.lookup name = some o → o.value.deleting = false) →
      s'.Current d.controllerName name

theorem alone_upsertGatewayClass {gc : Versioned (Finalized GatewayClass)} (now : Time)
    (hbounded : s.Bounded name) (hlookup : s.classes.lookup name = some gc) :
    Alone s (d.upsertGatewayClass name now gc) fun r s' => OnlyClass name s s' ∧ s'.Bounded name ∧
      (r = .ok () → s'.classes.lookup name = s.classes.lookup name →
        s'.Current d.controllerName name) := by
  refine (alone_validate gc).bind (fun err s' h => ?_) fun c s' h => ?_
  · obtain ⟨rfl, -⟩ := h
    exact ⟨.refl _, hbounded, fun hok => by cases hok⟩
  · obtain ⟨rfl, hc⟩ := h
    obtain ⟨rfl, hconfig⟩ := hc c rfl
    -- what is in memory is not newer than what has just been read
    have hstore : Classes.store name c s' = (true,
        { s' with gatewayClasses := Function.update s'.gatewayClasses name (some c) }) := by
      refine if_neg fun hnewer => ?_
      cases hcurrent : s'.gatewayClasses name with
      | none =>
        rw [hcurrent] at hnewer
        cases hnewer
      | some current =>
        rw [hcurrent] at hnewer
        have hlt := of_decide_eq_true hnewer
        have hle := (hbounded current hcurrent).2 _ hlookup
        omega
    have hmemory : (Classes.store name c s').2.gatewayClasses name = some c := by
      rw [hstore]
      exact Function.update_self _ _ _
    have honly : OnlyClass name s' (Classes.store name c s').2 := by
      rw [hstore]
      exact onlyClass_update _
    have hclasses : (Classes.store name c s').2.classes = s'.classes := by rw [hstore]
    have hbounded' : (Classes.store name c s').2.Bounded name := by
      intro c' hc'
      cases Option.some.inj (hmemory.symm.trans hc')
      rw [hclasses]
      refine ⟨s'.classes.bounded name _ hlookup, fun o ho => ?_⟩
      rw [Option.some.inj (hlookup.symm.trans ho)]
    refine Alone.bind (alone_access (Q := fun r s₁ => r = .ok true ∧ s₁ = (store name c s').2)
      ⟨congrArg (fun p => Except.ok p.1) hstore, rfl⟩) (fun err s₁ h => by cases h.1) ?_
    rintro stored s₁ ⟨hstored, rfl⟩
    cases hstored
    refine (alone_syncStatus now hbounded' (hclasses ▸ hlookup) hmemory).mono fun r s₁ h =>
      ⟨honly.trans h.only, h.bounded, fun hok hsame c' o config hc' hvalid ho _ hparameters => ?_⟩
    have hsame' : s₁.classes.lookup name = (Classes.store name c s').2.classes.lookup name := by
      rw [hsame, hclasses]
    cases Option.some.inj ((h.unchanged hok hsame').symm.trans hc')
    rw [hsame, hlookup] at ho
    cases Option.some.inj ho
    refine hconfig hvalid config ?_
    unfold parameters at hparameters ⊢
    rwa [h.only.configs, honly.configs] at hparameters

/-- An object that is there is replaced, unless that fails without an effect. -/
theorem alone_updated {V α : Type} {r : Resource Classes Failure String (Finalized V)}
    {o : Versioned (Finalized V)} {v : Finalized V} {a : α}
    (hlookup : (r.table s).lookup name = some o) :
    Alone s (do
      r.update name o.version v
      return a) fun result s' => (s' = s ∧ ∃ err, result = .error err) ∨
        (s' = r.put name v s ∧ ∀ a', result = .ok a' → a' = a) := by
  have hupdated : r.updated name o.version v s = (.ok (), r.put name v s) := by
    rw [Resource.updated, hlookup]
    exact if_pos rfl
  have hcall : Alone s (r.update name o.version v) fun result s' =>
      (s' = s ∧ ∃ err, result = .error err) ∨ s' = r.put name v s := by
    refine alone_call (.inr ?_) fun err => ⟨.inl ⟨rfl, err, rfl⟩, .inr ?_⟩
    · rw [hupdated]
    · rw [hupdated]
  refine hcall.bind (fun err s' h => ?_) fun u s' h => alone_pure ?_
  · exact h.imp (fun h => ⟨h.1, err, rfl⟩) fun h => ⟨h, fun a' ha' => by cases ha'⟩
  · refine h.imp (fun h => ?_) fun h => ⟨h, fun a' ha' => (Except.ok.inj ha').symm⟩
    obtain ⟨-, err, herr⟩ := h
    cases herr

/-- Adding a finalizer: nothing is written, because it is there or because of an error, or the
object is replaced. -/
theorem alone_ensureFinalizer {V : Type} {r : Resource Classes Failure String (Finalized V)}
    {o : Versioned (Finalized V)} (finalizer : String)
    (hlookup : (r.table s).lookup name = some o) :
    Alone s ((ensureFinalizer r name o finalizer).mapError newK8sError) fun result s' =>
      (s' = s ∧ result ≠ .ok true) ∨
        (s' = r.put name (o.value.addFinalizer finalizer) s ∧ result ≠ .ok false) := by
  refine Alone.mapError ?_
  unfold ensureFinalizer
  split_ifs
  · exact alone_pure (.inl ⟨rfl, by rintro h; cases h⟩)
  · refine (alone_updated hlookup).mono fun result s' h => ?_
    rcases h with ⟨rfl, err, rfl⟩ | ⟨rfl, hresult⟩
    · exact .inl ⟨rfl, by rintro h; cases h⟩
    · refine .inr ⟨rfl, fun h => ?_⟩
      cases result with
      | error err => cases h
      | ok a =>
        cases hresult a rfl
        cases h

/-- Removing a finalizer: nothing is written, or the object is replaced. -/
theorem alone_removeFinalizer {V : Type} {r : Resource Classes Failure String (Finalized V)}
    {o : Versioned (Finalized V)} (finalizer : String)
    (hlookup : (r.table s).lookup name = some o) :
    Alone s ((removeFinalizer r name o finalizer).mapError newK8sError) fun _ s' =>
      s' = s ∨ s' = r.put name (o.value.dropFinalizer finalizer) s := by
  refine Alone.mapError ?_
  unfold removeFinalizer
  split_ifs
  · exact (alone_updated hlookup).mono fun result s' h => h.imp (fun h => h.1) fun h => h.1
  · exact alone_pure (.inl rfl)

theorem alone_reconcileClass (now : Time) (hbounded : s.Bounded name) :
    Alone s (d.reconcileClass name now) (d.ServedClass name s) := by
  have hsame : ∀ r, (Done r → (∀ o, s.classes.lookup name = some o → o.value.deleting = false) →
      s.Current d.controllerName name) → d.ServedClass name s r s :=
    fun r h => ⟨.refl s, hbounded, fun hdone _ => h hdone⟩
  have hput : ∀ r v, (∃ o, s.classes.lookup name = some o) →
      d.ServedClass name s r (d.classes.put name v s) := by
    rintro r v ⟨o, ho⟩
    exact ⟨onlyClass_put d v, hbounded.grows (onlyClass_put d v).grows fun _ h => h, fun _ h =>
      absurd h (d.classes.lookup_put_ne ho v)⟩
  have herror : ∀ err, d.ServedClass name s (.error err) s := fun err =>
    hsame _ fun hdone => by cases hdone
  refine (alone_read _).bind (fun err s' h => ?_) fun gc s' h => ?_
  · rw [h.1]
    exact herror err
  · obtain ⟨rfl, hgc⟩ := h
    have hlookup : gc = s'.classes.lookup name := hgc gc rfl
    cases gc with
    -- the class is gone from the cluster and is dropped from the memory
    | none =>
      refine Alone.bind
        (alone_access (Q := fun r s₁ => r = .ok () ∧ s₁ = s'.delete name) ⟨rfl, rfl⟩)
        (fun err s₁ h => by cases h.1) fun u s₁ h => alone_pure ?_
      have hmemory : (s'.delete name).gatewayClasses name = none := Function.update_self _ _ _
      rw [h.2]
      refine ⟨onlyClass_update _, fun c hc => ?_, fun _ _ _ c o config hc => ?_⟩
      · rw [hmemory] at hc
        cases hc
      · rw [hmemory] at hc
        cases hc
    | some gc =>
      have hlookup' : (d.classes.table s').lookup name = some gc := hlookup.symm
      dsimp only
      split_ifs with hforeign hdeleting
      · -- a class of another controller is left alone
        refine alone_pure (hsame _ fun _ _ c o config _ _ ho hname => ?_)
        rw [← hlookup] at ho
        cases Option.some.inj ho
        exact absurd hname hforeign
      · have hmarked : ∀ r, d.ServedClass name s' r s' := fun r => hsame r fun _ hlive => by
          rw [hlive gc hlookup.symm] at hdeleting
          cases hdeleting
        refine (alone_read _).bind (fun err s₁ h => ?_) fun used s₁ h => ?_
        · rw [h.1]
          exact herror err
        · obtain ⟨rfl, -⟩ := h
          cases used with
          | true => exact alone_pure (hmarked _)
          | false =>
            refine (alone_removeFinalizer _ hlookup').bind (fun err s₁ h => ?_) fun u s₁ h =>
              alone_pure ?_
            · rcases h with rfl | rfl
              · exact herror err
              · exact hput _ _ ⟨gc, hlookup.symm⟩
            · rcases h with rfl | rfl
              · exact hmarked _
              · exact hput _ _ ⟨gc, hlookup.symm⟩
      · -- the finalizer comes first, and the write of it ends the call
        refine (alone_ensureFinalizer _ hlookup').bind (fun err s₁ h => ?_) fun updated s₁ h => ?_
        · rcases h with ⟨rfl, -⟩ | ⟨rfl, -⟩
          · exact herror err
          · exact hput _ _ ⟨gc, hlookup.symm⟩
        · cases updated with
          | true =>
            rcases h with ⟨-, hne⟩ | ⟨rfl, -⟩
            · exact absurd rfl hne
            · exact alone_pure (hput _ _ ⟨gc, hlookup.symm⟩)
          | false =>
            rcases h with ⟨rfl, -⟩ | ⟨-, hne⟩
            · refine (alone_upsertGatewayClass now hbounded hlookup.symm).bind (fun err s₁ h => ?_)
                fun u s₁ h => alone_pure ?_
              · exact ⟨h.1, h.2.1, fun hdone => by cases hdone⟩
              · exact ⟨h.1, h.2.1, fun _ hsame _ => h.2.2 rfl hsame⟩
            · exact absurd rfl hne

/-! ### Reconciling a configuration alone -/

/-- What serving a configuration leaves. -/
structure ServedConfig (name : String) (s : Classes) (r : Except Failure Result) (s' : Classes) :
    Prop where
  classes : s'.classes = s.classes
  lookup : ∀ k ≠ name, s'.configs.lookup k = s.configs.lookup k
  memory : ∀ n, s'.gatewayClasses n = s.gatewayClasses n ∨ s'.gatewayClasses n = none
  /-- When the configuration has not been written, no class that uses it is in memory. -/
  evicted : Done r → s'.configs.lookup name = s.configs.lookup name →
    ∀ n ∈ s.using name, s'.gatewayClasses n = none ∨ s.configs.lookup name = none

theorem ServedConfig.error (name : String) (s : Classes) (err : Failure) :
    ServedConfig name s (.error err) s :=
  ⟨rfl, fun _ _ => rfl, fun _ => .inl rfl, fun hdone => by cases hdone⟩

/-- The configuration is written, after some classes may have been evicted. -/
theorem servedConfig_put {s' : Classes} {gcc : Versioned (Finalized GatewayClassConfigSpec)}
    (hlookup : s.configs.lookup name = some gcc) (hclasses : s'.classes = s.classes)
    (hconfigs : s'.configs = s.configs)
    (hmemory : ∀ n, s'.gatewayClasses n = s.gatewayClasses n ∨ s'.gatewayClasses n = none)
    (r : Except Failure Result) (v : Finalized GatewayClassConfigSpec) :
    ServedConfig name s r (d.configs.put name v s') := by
  refine ⟨hclasses, fun k hk => ?_, hmemory, fun _ hsame => absurd hsame ?_⟩
  · rw [← hconfigs]
    exact d.configs.lookup_put_of_ne hk v s'
  · rw [← hconfigs] at hlookup ⊢
    exact d.configs.lookup_put_ne hlookup v

/-- A configuration that is being deleted is let go if it is not in use. -/
theorem alone_releaseConfig {gcc : Versioned (Finalized GatewayClassConfigSpec)}
    (hlookup : s.configs.lookup name = some gcc) :
    Alone s (do
      if ← gatewayClassConfigInUse name then return (⟨10000⟩ : Result)
      else
        let _ ← (removeFinalizer d.configs name gcc gatewayClassConfigFinalizer).mapError
          newK8sError
        return {}) (ServedConfig name s) := by
  have hsame : ∀ r : Except Failure Result, (Done r → ∀ n ∈ s.using name,
      s.gatewayClasses n = none ∨ s.configs.lookup name = none) → ServedConfig name s r s :=
    fun r h => ⟨rfl, fun _ _ => rfl, fun _ => .inl rfl, fun hdone _ => h hdone⟩
  refine (alone_read _).bind (fun err s₁ h => ?_) fun used s₁ h => ?_
  · rw [h.1]
    exact .error name s err
  · obtain ⟨rfl, hused⟩ := h
    cases used with
    | true => exact alone_pure (hsame _ fun hdone => by cases hdone)
    | false =>
      have hunused : ∀ r, ServedConfig name s₁ r s₁ := fun r => hsame r fun _ n hn =>
        absurd ⟨n, hn⟩ (of_decide_eq_false (hused false rfl).symm)
      have hput : ∀ r v, ServedConfig name s₁ r (d.configs.put name v s₁) :=
        servedConfig_put hlookup rfl rfl fun _ => .inl rfl
      refine (alone_removeFinalizer (r := d.configs) _ hlookup).bind (fun err s₂ h => ?_)
        fun u s₂ h => alone_pure ?_
      · rcases h with rfl | rfl
        · exact hunused _
        · exact hput _ _
      · rcases h with rfl | rfl
        · exact hunused _
        · exact hput _ _

theorem memory_evict (names : Finset String) (n : String) :
    (s.evict names).gatewayClasses n = s.gatewayClasses n ∨
      (s.evict names).gatewayClasses n = none := by
  by_cases hn : n ∈ names
  · exact .inr (if_pos hn)
  · exact .inl (if_neg hn)

/-- A configuration is held on to, after the classes that use it have been evicted. -/
theorem alone_holdConfig {gcc : Versioned (Finalized GatewayClassConfigSpec)}
    (hlookup : s.configs.lookup name = some gcc) :
    Alone (s.evict (s.using name)) (do
      let _ ← (ensureFinalizer d.configs name gcc gatewayClassConfigFinalizer).mapError newK8sError
      return ({} : Result)) (ServedConfig name s) := by
  have hlookup' : (d.configs.table (s.evict (s.using name))).lookup name = some gcc := hlookup
  have hevicted : ∀ r, ServedConfig name s r (s.evict (s.using name)) := fun r =>
    ⟨rfl, fun _ _ => rfl, memory_evict _, fun _ _ n hn => .inl (if_pos hn)⟩
  have hput : ∀ r v, ServedConfig name s r (d.configs.put name v (s.evict (s.using name))) :=
    servedConfig_put hlookup rfl rfl (memory_evict _)
  refine (alone_ensureFinalizer _ hlookup').bind (fun err s₁ h => ?_) fun u s₁ h => alone_pure ?_
  · rcases h with ⟨rfl, -⟩ | ⟨rfl, -⟩
    · exact hevicted _
    · exact hput _ _
  · rcases h with ⟨rfl, -⟩ | ⟨rfl, -⟩
    · exact hevicted _
    · exact hput _ _

/-- The classes that use the configuration are evicted if they can be listed. -/
theorem evictUsing_of_none (gcc : String) {w : World Classes Failure} (hw : w.Undisturbed)
    (hfault : (w.turns 0).fault = .none) : ∃ w', evictUsing gcc w = (.ok (), w') ∧
      w'.state = w.state.evict (w.state.using gcc) ∧ w'.Undisturbed := by
  have hlist : gatewayClassesUsingConfig gcc w =
      (.ok (w.state.using gcc), w.after w.state w.state) := by
    refine mapError_of_ok ?_ _
    rw [call_of_none hfault, hw.found]
  refine ⟨(w.after w.state w.state).after w.state (w.state.evict (w.state.using gcc)), ?_, rfl,
    (hw.after _ _).after _ _⟩
  rw [evictUsing, attempt_bind, hlist]
  dsimp only
  rw [access, (hw.after _ _).found]
  rfl

theorem reconcileConfig_served {w : World Classes Failure} (hw : w.Undisturbed)
    (hlisting : (w.turns 1).fault = .none) :
    ServedConfig name w.state (d.reconcileConfig name w).1 (d.reconcileConfig name w).2.state := by
  have hw₁ : (w.after w.state w.state).Undisturbed := hw.after _ _
  rcases bind_cases (d.getGatewayClassConfig name) _ w with
    ⟨gcc, w₁, hget, hbind⟩ | ⟨err, w₁, hget, hbind⟩
  · rw [reconcileConfig, hbind]
    obtain ⟨hlookup, rfl⟩ := get_eq_ok (mapError_eq_ok hget)
    rw [hw.found] at hlookup ⊢
    cases gcc with
    | none =>
      exact ⟨rfl, fun _ _ => rfl, fun _ => .inl rfl, fun _ _ n _ => .inr hlookup⟩
    | some gcc =>
      dsimp only
      split_ifs with hdeleting
      · exact (alone_releaseConfig hlookup _ hw₁ rfl).1
      · obtain ⟨w₂, hevict, hstate, hw₂⟩ := evictUsing_of_none name hw₁ hlisting
        rw [bind_of_ok hevict]
        exact (alone_holdConfig hlookup w₂ hw₂ hstate).1
  · have hstate : (d.getGatewayClassConfig name w).2.state = w.state :=
      (alone_read (fun s : Classes => s.configs.lookup name) w hw rfl).1.1
    rw [hget] at hstate
    rw [reconcileConfig, hbind, hstate]
    exact .error name w.state err

/-! ### Runs of the controllers -/

/-- The requests that are still to be served. -/
structure Pending where
  classes : Set String
  configs : Set String

/-- What has changed is requested. -/
structure Announced (s s' : Classes) (pending : Pending) : Prop where
  classes : ∀ name, s'.classes.lookup name ≠ s.classes.lookup name → name ∈ pending.classes
  configs : ∀ name, s'.configs.lookup name ≠ s.configs.lookup name → name ∈ pending.configs

inductive Event
  -- somebody else changes classes, configurations and gateways
  | change
  | class_ (name : String)
  | config (name : String)

/-- One step of the system.  The controllers serve one request at a time, and a request that is not
done is made again.  Calls may fail, but not the listing of the classes that use a configuration. -/
inductive Step (d : ClassControllers) : Classes × Pending → Event → Classes × Pending → Prop
  | change {s s' : Classes} {p p' : Pending} (hgrows : s.classes.Grows s'.classes)
      (hmemory : s'.gatewayClasses = s.gatewayClasses) (hclasses : p.classes ⊆ p'.classes)
      (hconfigs : p.configs ⊆ p'.configs) (hannounced : Announced s s' p') :
      Step d (s, p) .change (s', p')
  | class_ {w : World Classes Failure} {p p' : Pending} (name : String) (now : Time)
      (hw : w.Undisturbed) (hclasses : p.classes ⊆ insert name p'.classes)
      (hconfigs : p.configs ⊆ p'.configs)
      (hagain : ¬ Done (d.reconcileClass name now w).1 → name ∈ p'.classes)
      (hannounced : Announced w.state (d.reconcileClass name now w).2.state p') :
      Step d (w.state, p) (.class_ name) ((d.reconcileClass name now w).2.state, p')
  | config {w : World Classes Failure} {p p' : Pending} (name : String) (hw : w.Undisturbed)
      (hlisting : (w.turns 1).fault = .none) (hclasses : p.classes ⊆ p'.classes)
      (hconfigs : p.configs ⊆ insert name p'.configs)
      (hagain : ¬ Done (d.reconcileConfig name w).1 → name ∈ p'.configs)
      (hannounced : Announced w.state (d.reconcileConfig name w).2.state p') :
      Step d (w.state, p) (.config name) ((d.reconcileConfig name w).2.state, p')

/-- No request is left that concerns the class, and the class is not being deleted. -/
structure Quiescent (s : Classes) (p : Pending) (name : String) : Prop where
  live : ∀ o, s.classes.lookup name = some o → o.value.deleting = false
  class_ : name ∉ p.classes
  config : ∀ k ∈ p.configs, name ∉ s.using k

/-- What every step keeps: a class that no request concerns is current. -/
def UpToDate (d : ClassControllers) (x : Classes × Pending) : Prop :=
  ∀ name, x.1.Bounded name ∧ (Quiescent x.1 x.2 name → x.1.Current d.controllerName name)

section

variable {s' : Classes} {p p' : Pending}

theorem mem_using_congr (h : s'.classes.lookup name = s.classes.lookup name) (k : String) :
    name ∈ s'.using k ↔ name ∈ s.using k := by
  rw [mem_using_iff, mem_using_iff, Table.value, Table.value, h]

/-- A class stays current as long as neither it nor its configuration is changed. -/
theorem current_congr {controllerName : String} (h : s.Current controllerName name)
    (hlookup : s'.classes.lookup name = s.classes.lookup name)
    (hmemory : s'.gatewayClasses name = s.gatewayClasses name ∨ s'.gatewayClasses name = none)
    (hconfigs : ∀ k, name ∈ s.using k → s'.configs.lookup k = s.configs.lookup k) :
    s'.Current controllerName name := by
  intro c o config hc hvalid ho hname hparameters
  rw [hlookup] at ho
  have hc' : s.gatewayClasses name = some c := by
    rcases hmemory with hmemory | hmemory
    · exact hmemory.symm.trans hc
    · rw [hmemory] at hc
      cases hc
  refine h c o config hc' hvalid ho hname ?_
  cases href : o.value.value.parametersRef with
  | none =>
    rw [href] at hparameters
    exact hparameters
  | some ref =>
    rw [href] at hparameters
    rw [parameters] at hparameters ⊢
    split_ifs at hparameters ⊢ with hkind
    rw [← hconfigs ref.name]
    · exact hparameters
    · refine mem_using_iff.2 ⟨o.value, by rw [Table.value, ho]; rfl, ?_⟩
      rw [not_or, not_not, not_not] at hkind
      simp [gatewayClassUsesConfig, href, hkind]

/-- A class whose configuration is missing has none. -/
theorem current_of_missing (controllerName : String) {k : String} (hmem : name ∈ s.using k)
    (hmissing : s.configs.lookup k = none) : s.Current controllerName name := by
  intro c o config _ _ ho _ hparameters
  obtain ⟨gc, hgc, huses⟩ := mem_using_iff.1 hmem
  rw [Table.value, ho] at hgc
  cases Option.some.inj hgc
  unfold gatewayClassUsesConfig at huses
  cases href : o.value.value.parametersRef with
  | none =>
    rw [href] at huses
    cases huses
  | some ref =>
    rw [href] at huses hparameters
    obtain ⟨-, -, rfl⟩ := of_decide_eq_true huses
    rw [parameters, hmissing, Option.map_none, ite_self] at hparameters
    cases hparameters

/-- A class that no request concerns has not changed. -/
theorem Quiescent.before (h : Quiescent s' p' name) (hannounced : Announced s s' p')
    (hclass : name ∈ p.classes → name ∈ p'.classes)
    (hconfig : ∀ k ∈ p.configs, name ∈ s.using k → k ∈ p'.configs) :
    Quiescent s p name ∧ s'.classes.lookup name = s.classes.lookup name ∧
      ∀ k, name ∈ s.using k → s'.configs.lookup k = s.configs.lookup k := by
  have hlookup : s'.classes.lookup name = s.classes.lookup name :=
    not_not.1 fun hne => h.class_ (hannounced.classes name hne)
  refine ⟨⟨fun o ho => h.live o (hlookup.trans ho), fun hmem => h.class_ (hclass hmem),
    fun k hk hmem => h.config k (hconfig k hk hmem) ((mem_using_congr hlookup k).2 hmem)⟩, hlookup,
    fun k hmem => not_not.1 fun hne => ?_⟩
  exact h.config k (hannounced.configs k hne) ((mem_using_congr hlookup k).2 hmem)

theorem UpToDate.change (h : d.UpToDate (s, p)) (hgrows : s.classes.Grows s'.classes)
    (hmemory : s'.gatewayClasses = s.gatewayClasses) (hclasses : p.classes ⊆ p'.classes)
    (hconfigs : p.configs ⊆ p'.configs) (hannounced : Announced s s' p') : d.UpToDate (s', p') := by
  intro n
  obtain ⟨hbounded, hcurrent⟩ := h n
  refine ⟨hbounded.grows hgrows fun c hc => by rwa [hmemory] at hc, fun hq => ?_⟩
  obtain ⟨hq', hlookup, hsame⟩ :=
    hq.before hannounced (fun h => hclasses h) fun k hk _ => hconfigs hk
  exact current_congr (hcurrent hq') hlookup (.inl (congrFun hmemory n)) hsame

theorem UpToDate.serveClass {r : Except Failure Result} (h : d.UpToDate (s, p))
    (hserved : d.ServedClass name s r s') (hclasses : p.classes ⊆ insert name p'.classes)
    (hconfigs : p.configs ⊆ p'.configs) (hagain : ¬ Done r → name ∈ p'.classes)
    (hannounced : Announced s s' p') : d.UpToDate (s', p') := by
  intro n
  by_cases hn : n = name
  · subst hn
    refine ⟨hserved.bounded, fun hq => ?_⟩
    have hlookup : s'.classes.lookup n = s.classes.lookup n :=
      not_not.1 fun hne => hq.class_ (hannounced.classes n hne)
    exact hserved.current (not_not.1 fun hdone => hq.class_ (hagain hdone)) hlookup fun o ho =>
      hq.live o (hlookup.trans ho)
  · obtain ⟨hbounded, hcurrent⟩ := h n
    have hmemory := hserved.only.memory n hn
    refine ⟨hbounded.grows hserved.only.grows fun c hc => by rwa [hmemory] at hc, fun hq => ?_⟩
    obtain ⟨hq', hlookup, hsame⟩ := hq.before hannounced
      (fun hmem => (hclasses hmem).resolve_left hn) fun k hk _ => hconfigs hk
    exact current_congr (hcurrent hq') hlookup (.inl hmemory) hsame

theorem UpToDate.serveConfig {r : Except Failure Result} (h : d.UpToDate (s, p))
    (hserved : ServedConfig name s r s') (hclasses : p.classes ⊆ p'.classes)
    (hconfigs : p.configs ⊆ insert name p'.configs) (hagain : ¬ Done r → name ∈ p'.configs)
    (hannounced : Announced s s' p') : d.UpToDate (s', p') := by
  intro n
  obtain ⟨hbounded, hcurrent⟩ := h n
  refine ⟨hbounded.grows (hserved.classes ▸ .refl _) fun c hc => ?_, fun hq => ?_⟩
  · rcases hserved.memory n with hmemory | hmemory
    · rwa [hmemory] at hc
    · rw [hmemory] at hc
      cases hc
  have hlookup : s'.classes.lookup n = s.classes.lookup n := by rw [hserved.classes]
  by_cases hn : n ∈ s.using name
  · -- the class uses the configuration that is served, and this is not served again
    have hnot : name ∉ p'.configs :=
      fun hmem => hq.config name hmem ((mem_using_congr hlookup _).2 hn)
    have hsame : s'.configs.lookup name = s.configs.lookup name :=
      not_not.1 fun hne => hnot (hannounced.configs name hne)
    rcases hserved.evicted (not_not.1 fun hdone => hnot (hagain hdone)) hsame n hn with
      hevicted | hmissing
    · intro c o config hc
      rw [hevicted] at hc
      cases hc
    · exact current_of_missing _ ((mem_using_congr hlookup _).2 hn) (hsame.trans hmissing)
  · obtain ⟨hq', -, hsame⟩ := hq.before hannounced (fun h => hclasses h) fun k hk hmem =>
      (hconfigs hk).resolve_left fun heq => hn (heq ▸ hmem)
    exact current_congr (hcurrent hq') hlookup (hserved.memory n) hsame

theorem UpToDate.step {x x' : Classes × Pending} {e : Event} (h : d.UpToDate x)
    (hstep : d.Step x e x') : d.UpToDate x' := by
  cases hstep with
  | change hgrows hmemory hclasses hconfigs hannounced =>
    exact h.change hgrows hmemory hclasses hconfigs hannounced
  | class_ name now hw hclasses hconfigs hagain hannounced =>
    exact h.serveClass (alone_reconcileClass now (h name).1 _ hw rfl).1 hclasses hconfigs hagain
      hannounced
  | config name hw hlisting hclasses hconfigs hagain hannounced =>
    exact h.serveConfig (reconcileConfig_served hw hlisting) hclasses hconfigs hagain hannounced

end

/-- What is found in the cluster is the configuration that the parameters name. -/
theorem alone_getConfigForGatewayClassName (name : String) :
    Alone s (d.getConfigForGatewayClassName name) fun r _ => ∀ config, r = .ok (some config) →
      ∃ o, s.classes.lookup name = some o ∧ o.value.value.controllerName = d.controllerName ∧
        s.parameters o.value.value.parametersRef = some config := by
  refine (alone_read _).bind (fun err s' _ config hconfig => by cases hconfig) fun o s' h => ?_
  obtain ⟨rfl, ho⟩ := h
  have hlookup : o = s'.classes.lookup name := ho o rfl
  cases o with
  | none => exact alone_pure fun config hconfig => by cases hconfig
  | some o =>
    dsimp only
    split_ifs with hname
    · exact alone_pure fun config hconfig => by cases hconfig
    · rw [not_not] at hname
      cases href : o.value.value.parametersRef with
      | none =>
        refine alone_pure fun config hconfig => ⟨o, hlookup.symm, hname, ?_⟩
        rw [href]
        exact Except.ok.inj hconfig
      | some ref =>
        dsimp only
        split_ifs with hkind
        · exact alone_pure fun config hconfig => by cases hconfig
        · refine (alone_read _).bind (fun err s₁ _ config hconfig => by cases hconfig)
            fun gcc s₁ h => alone_pure fun config hconfig => ⟨o, hlookup.symm, hname, ?_⟩
          obtain ⟨rfl, hgcc⟩ := h
          have hgcc' : gcc = s₁.configs.lookup ref.name := hgcc gcc rfl
          rw [href, parameters, if_neg hkind, ← hgcc']
          exact Except.ok.inj hconfig

/-- **The memory and the cluster agree**: in every run that starts with nothing in memory, a class
that is not being deleted and that no request concerns has the configuration in memory that would be
found in the cluster. -/
theorem memory_agrees {s₀ s : Classes} {p₀ p : Pending} {name : String}
    {config : V1alpha1.GatewayClassConfig} (hmemory : ∀ name, s₀.gatewayClasses name = none)
    (hreach : Reachable d.Step (s₀, p₀) (s, p)) (hquiescent : Quiescent s p name)
    (hconfig : s.getConfig name = some config) :
    Alone s (d.getConfigForGatewayClassName name) fun r _ =>
      ∀ config', r = .ok (some config') → config' = config := by
  have hstart : d.UpToDate (s₀, p₀) := by
    intro n
    refine ⟨fun c hc => ?_, fun _ c o config hc => ?_⟩
    · rw [hmemory] at hc
      cases hc
    · rw [hmemory] at hc
      cases hc
  have hcurrent := (hreach.invariant hstart fun h hstep => h.step hstep) name
  obtain ⟨c, hc, hvalid⟩ := Option.bind_eq_some_iff.1 hconfig
  split_ifs at hvalid with hisValid
  refine (alone_getConfigForGatewayClassName name).mono fun r _ h config' hr => ?_
  obtain ⟨o, ho, hname, hparameters⟩ := h config' hr
  rw [← hcurrent.2 hquiescent c o config' hc hisValid ho hname hparameters]
  exact Option.some.inj hvalid

namespace SampleMemory

def controllers : ClassControllers := ⟨"controller", fun _ => ⟨false, "refused"⟩⟩

/-- A class that has been accepted before. -/
def class_ : Finalized GatewayClass where
  value := { controllerName := "controller"
             parametersRef := some ⟨gatewayClassConfigGroup, gatewayClassConfigKind, "config"⟩
             conditions := [({} : GatewayClassAcceptedStatus).condition 0 none] }
  finalizers := [gatewayClassFinalizer]

def config : Finalized GatewayClassConfigSpec := ⟨{}, false, [gatewayClassConfigFinalizer]⟩

/-- The state in which the controller starts. -/
def started : Classes where
  classes := Table.empty.write "class" class_
  configs := Table.empty.write "config" config
  gateways := ∅
  gatewayClasses _ := none

def served : Classes := (controllers.reconcileClass "class" none (World.quiet started)).2.state

theorem reachable_served :
    Reachable controllers.Step (started, ⟨{"class"}, ∅⟩) (served, ⟨∅, ∅⟩) := by
  refine .single ⟨.class_ "class", .class_ (w := World.quiet started) "class" none (fun _ _ => rfl)
    ?_ (Set.Subset.refl _) (fun hnot => absurd rfl hnot) ⟨?_, ?_⟩⟩
  · intro name hname
    exact .inl hname
  · exact fun name hne => absurd rfl hne
  · exact fun name hne => absurd rfl hne

theorem memory_agrees_here :
    Alone served (controllers.getConfigForGatewayClassName "class") fun r _ =>
      ∀ config', r = .ok (some config') → config' = ⟨"config", {}⟩ := by
  refine memory_agrees (fun _ => rfl) reachable_served ⟨?_, Set.notMem_empty _, ?_⟩ rfl
  · intro o ho
    cases Option.some.inj ho
    rfl
  · exact fun k hk => absurd hk (Set.notMem_empty k)

end SampleMemory

/-! ### Requests that overlap -/

/-- Somebody changes the configuration. -/
def changeConfig (k : String) (gcc : Finalized GatewayClassConfigSpec) (s : Classes) : Classes :=
  { s with configs := s.configs.write k gcc }

/-- The change of a configuration that is held on to already is served alone. -/
theorem reconcileConfig_quiet {k : String} {gcc : Versioned (Finalized GatewayClassConfigSpec)}
    (hlookup : s.configs.lookup k = some gcc) (hdeleting : gcc.value.deleting = false)
    (hfinalizer : gatewayClassConfigFinalizer ∈ gcc.value.finalizers) :
    (d.reconcileConfig k (World.quiet s)).1 = .ok {} ∧
      (d.reconcileConfig k (World.quiet s)).2.state = s.evict (s.using k) := by
  have hquiet : (World.quiet s : World Classes Failure).Undisturbed := fun _ _ => rfl
  have hget : d.getGatewayClassConfig k (World.quiet s) =
      (.ok (some gcc), (World.quiet s).after s s) :=
    congrArg (fun o => (Except.ok o, (World.quiet s).after s s)) hlookup
  obtain ⟨w, hevict, hstate, -⟩ := evictUsing_of_none k (hquiet.after s s) rfl
  have hensure : (ensureFinalizer d.configs k gcc gatewayClassConfigFinalizer).mapError newK8sError
      w = (.ok false, w) := mapError_of_ok (ensureFinalizer_of_mem hfinalizer w) _
  rw [reconcileConfig, bind_of_ok hget]
  dsimp only
  rw [if_neg (by simp [hdeleting]), bind_of_ok hevict, bind_of_ok hensure]
  exact ⟨rfl, hstate⟩

/-- The configuration is changed, and that is served, after the class has been accepted with the old
one and before it is stored. -/
def lateChange (d : ClassControllers) (k : String) (gcc : Finalized GatewayClassConfigSpec)
    (s : Classes) : World Classes Failure :=
  ⟨s, fun n => ⟨fun s => if n = 2 then
    (d.reconcileConfig k (World.quiet (changeConfig k gcc s))).2.state else s, .none⟩, []⟩

/-- **An old configuration may be stored after it has been evicted**: both requests are done, and
the class is in memory with a configuration that the cluster does not have any more. -/
theorem stale_config_stored {s : Classes} {name k : String}
    {gc : Versioned (Finalized GatewayClass)} {gcc : Versioned (Finalized GatewayClassConfigSpec)}
    {now : Time} (hclass : s.classes.lookup name = some gc)
    (hname : gc.value.value.controllerName = d.controllerName)
    (hdeleting : gc.value.deleting = false)
    (hfinalizer : gatewayClassFinalizer ∈ gc.value.finalizers)
    (href : gc.value.value.parametersRef =
      some ⟨gatewayClassConfigGroup, gatewayClassConfigKind, k⟩)
    (hstatus : conditionsEqual
      [({} : GatewayClassAcceptedStatus).condition gc.value.value.generation now]
      gc.value.value.conditions = true)
    (hconfig : s.configs.lookup k = some gcc) (hdeleting' : gcc.value.deleting = false)
    (hfinalizer' : gatewayClassConfigFinalizer ∈ gcc.value.finalizers)
    (spec : GatewayClassConfigSpec) :
    ∃ s', (d.reconcileConfig k
        (World.quiet (changeConfig k { gcc.value with value := spec } s))).1 = .ok {} ∧
      (d.reconcileClass name now (d.lateChange k { gcc.value with value := spec } s)).1 = .ok {} ∧
      (d.reconcileClass name now (d.lateChange k { gcc.value with value := spec } s)).2.state = s' ∧
      s'.classes = s.classes ∧ s'.getConfig name = some ⟨k, gcc.value.value⟩ ∧
      (d.getConfigForGatewayClassName name (World.quiet s')).1 = .ok (some ⟨k, spec⟩) := by
  set gcc' : Finalized GatewayClassConfigSpec := { gcc.value with value := spec } with hgcc'
  set w := d.lateChange k gcc' s with hw
  set c : K8sGatewayClass := { class_ := gc, config := ⟨k, gcc.value.value⟩ } with hc
  have hchanged : (changeConfig k gcc' s).configs.lookup k =
      some ⟨s.configs.revision + 1, gcc'⟩ := by
    refine (Table.lookup_write _ _ _ _).trans ?_
    rw [if_pos rfl]
  obtain ⟨hdone, hserved⟩ := reconcileConfig_quiet (d := d) hchanged hdeleting' hfinalizer'
  set s₂ := (changeConfig k gcc' s).evict ((changeConfig k gcc' s).using k) with hs₂
  -- the class is evicted before it is stored
  have hevicted : s₂.gatewayClasses name = none := by
    refine if_pos (mem_using_iff.2 ⟨gc.value, ?_, ?_⟩)
    · exact (congrArg (Option.map Versioned.value) hclass)
    · simp [gatewayClassUsesConfig, href]
  have hget : d.getGatewayClass name w = (.ok (some gc), w.after s s) :=
    congrArg (fun o => (Except.ok o, w.after s s)) hclass
  have hensure : (ensureFinalizer d.classes name gc gatewayClassFinalizer).mapError newK8sError
      (w.after s s) = (.ok false, w.after s s) :=
    mapError_of_ok (ensureFinalizer_of_mem hfinalizer _) _
  have hvalidate : d.validate gc (w.after s s) = (.ok c, (w.after s s).after s s) := by
    have hread : d.getGatewayClassConfig k (w.after s s) =
        (.ok (some gcc), (w.after s s).after s s) :=
      congrArg (fun o => (Except.ok o, (w.after s s).after s s)) hconfig
    rw [validate, href]
    dsimp only
    rw [if_neg (by simp), bind_of_ok hread]
    rfl
  set s₃ : Classes := { s₂ with gatewayClasses := Function.update s₂.gatewayClasses name (some c) }
    with hs₃
  have hstore : (access (Classes.store name c) : Program Classes Failure Bool)
      ((w.after s s).after s s) = (.ok true, ((w.after s s).after s s).after s₂ s₃) := by
    have hfound : ((w.after s s).after s s).found = s₂ := hserved
    have hstored : Classes.store name c s₂ = (true, s₃) := by
      rw [Classes.store, hevicted]
      exact if_neg Bool.false_ne_true
    rw [access, hfound, hstored]
  have hsync : d.syncStatus name now c (((w.after s s).after s s).after s₂ s₃) =
      (.ok (), ((w.after s s).after s s).after s₂ s₃) := by
    rw [syncStatus, if_pos hstatus]
    rfl
  have hreconcile : d.reconcileClass name now w =
      (.ok {}, ((w.after s s).after s s).after s₂ s₃) := by
    have hupsert : d.upsertGatewayClass name now gc (w.after s s) =
        (.ok (), ((w.after s s).after s s).after s₂ s₃) := by
      rw [upsertGatewayClass, bind_of_ok hvalidate, upsert, bind_of_ok hstore, if_pos rfl, hsync]
    rw [reconcileClass, bind_of_ok hget]
    dsimp only
    rw [if_neg (not_not.2 hname), if_neg (by simp [hdeleting]), bind_of_ok hensure,
      if_neg Bool.false_ne_true, bind_of_ok hupsert]
    rfl
  refine ⟨s₃, hdone, by rw [hreconcile], by rw [hreconcile]; rfl, rfl, ?_, ?_⟩
  · have hmemory : s₃.gatewayClasses name = some c := Function.update_self _ _ _
    rw [getConfig, hmemory]
    rfl
  · have hclass' : d.getGatewayClass name (World.quiet s₃) =
        (.ok (some gc), (World.quiet s₃).after s₃ s₃) :=
      congrArg (fun o => (Except.ok o, (World.quiet s₃).after s₃ s₃)) hclass
    have hconfig' : d.getGatewayClassConfig k ((World.quiet s₃).after s₃ s₃) =
        (.ok (some ⟨s.configs.revision + 1, gcc'⟩),
          ((World.quiet s₃).after s₃ s₃).after s₃ s₃) :=
      congrArg (fun o => (Except.ok o, ((World.quiet s₃).after s₃ s₃).after s₃ s₃)) hchanged
    rw [getConfigForGatewayClassName, bind_of_ok hclass']
    dsimp only
    rw [if_neg (not_not.2 hname), href]
    dsimp only
    rw [if_neg (by simp), bind_of_ok hconfig']
    rfl

/-- The configuration is changed to one with another log level. -/
theorem SampleMemory.stale_config_stored_here :
    ∃ s', (controllers.reconcileConfig "config"
        (World.quiet (changeConfig "config" { config with value := { logLevel := "debug" } }
          started))).1 = .ok {} ∧
      (controllers.reconcileClass "class" none (controllers.lateChange "config"
        { config with value := { logLevel := "debug" } } started)).1 = .ok {} ∧
      (controllers.reconcileClass "class" none (controllers.lateChange "config"
        { config with value := { logLevel := "debug" } } started)).2.state = s' ∧
      s'.classes = started.classes ∧ s'.getConfig "class" = some ⟨"config", {}⟩ ∧
      (controllers.getConfigForGatewayClassName "class" (World.quiet s')).1 =
        .ok (some ⟨"config", { logLevel := "debug" }⟩) := by
  have hclass : started.classes.lookup "class" = some ⟨1, class_⟩ := rfl
  have hconfig : started.configs.lookup "config" = some ⟨1, config⟩ := rfl
  exact stale_config_stored hclass rfl rfl (List.mem_singleton_self _) rfl (by decide) hconfig rfl
    (List.mem_singleton_self _) _

/-- **A listing that fails is not made again**: nothing is evicted, and the request is done. -/
theorem failed_listing_not_retried {w : World Classes Failure} {k : String}
    {gcc : Versioned (Finalized GatewayClassConfigSpec)} (hw : w.Undisturbed)
    (hread : (w.turns 0).fault = .none) (hlisting : (w.turns 1).fault ≠ .none)
    (hlookup : w.state.configs.lookup k = some gcc) (hdeleting : gcc.value.deleting = false)
    (hfinalizer : gatewayClassConfigFinalizer ∈ gcc.value.finalizers) :
    (d.reconcileConfig k w).1 = .ok {} ∧ (d.reconcileConfig k w).2.state = w.state := by
  have hget : d.getGatewayClassConfig k w = (.ok (some gcc), w.after w.state w.state) := by
    refine mapError_of_ok ?_ _
    rw [Resource.get, call_of_none hread, hw.found]
    exact congrArg (fun o => (Except.ok o, w.after w.state w.state)) hlookup
  -- the failure is dropped
  have hevict : evictUsing k (w.after w.state w.state) =
      (.ok (), (w.after w.state w.state).after w.state w.state) := by
    have hfound : (w.after w.state w.state).found = w.state := (hw.after _ _).found
    have hfault : ((w.after w.state w.state).turns 0).fault ≠ .none := hlisting
    rw [evictUsing, attempt_bind, gatewayClassesUsingConfig, Program.mapError, call]
    cases h : ((w.after w.state w.state).turns 0).fault with
    | none => exact absurd h hfault
    | refused err =>
      rw [hfound]
      rfl
    | unanswered err =>
      rw [hfound]
      rfl
  have hensure : (ensureFinalizer d.configs k gcc gatewayClassConfigFinalizer).mapError newK8sError
      ((w.after w.state w.state).after w.state w.state) =
        (.ok false, (w.after w.state w.state).after w.state w.state) :=
    mapError_of_ok (ensureFinalizer_of_mem hfinalizer _) _
  rw [reconcileConfig, bind_of_ok hget]
  dsimp only
  rw [if_neg (by simp [hdeleting]), bind_of_ok hevict, bind_of_ok hensure]
  exact ⟨rfl, rfl⟩

end ClassControllers

end Reconciler
