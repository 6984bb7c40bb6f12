/-
The configuration of a gateway (`UpsertGateway` of `internal/k8s/reconciler/manager.go`).

When the manager sees a Gateway for the first time it looks for the configuration of its class and
writes it into an annotation.  From then on the Gateway is stored, and so deployed, with what it
reads from there.  Nobody else is taken to write the annotation, and the cluster to refuse an update
that is made from a copy of the Gateway without it.

* `Annotated.Step` — an operation of the manager, and what it does to the annotations;
* `Annotated.Fixed`, `Annotated.Unset` — the Gateway has its configuration for good, or none yet;
* `configuration_fixed` — over every run the configuration of a Gateway is the one that was found
  when the annotation was written, as it is read back.
-/
import ConsulApiGateway.ConfigSnapshot
import ConsulApiGateway.Manager

namespace Reconciler.GatewayReconcileManager

open K8s
open V1alpha1 (GatewayClassConfig GatewayClassConfigSpec Typed)

variable {config : ConsulNamespaceConfig} {M : Marshaler} {a : UpsertAnswers} {g : Gateway}
  {m m' : GatewayReconcileManager} {name : NamespacedName} {e : Event}

/-- The text of the annotation. -/
def configText (spec : GatewayClassConfigSpec) : String :=
  String.ofList (V1alpha1.marshal spec).text

/-- The configurations that are found are of the types of the source, and are written and read as
JSON. -/
structure ReadsJSON (a : UpsertAnswers) : Prop where
  marshal : ∀ spec, a.marshal spec = .ok (configText spec)
  unmarshal : ∀ spec, a.unmarshal (configText spec) = V1alpha1.unmarshal (V1alpha1.marshal spec)
  getConfig : ∀ {class_ config}, a.getConfig class_ = some config → Typed config.spec
  getConfigForGatewayClassName : ∀ {class_ config},
    a.getConfigForGatewayClassName class_ = .ok (some config) → Typed config.spec

theorem ReadsJSON.typed (ha : ReadsJSON a) {config : GatewayClassConfig}
    (h : managedConfig a g = .ok (some (config, false))) : Typed config.spec := by
  unfold managedConfig at h
  split at h
  · cases h
  · split at h
    · next hmemory =>
      cases h
      exact ha.getConfig hmemory
    · obtain ⟨config?, hcluster, heq⟩ := GoStd.map_eq_ok h
      obtain ⟨config', rfl, heq⟩ := Option.map_eq_some_iff.1 heq
      cases heq
      exact ha.getConfigForGatewayClassName hcluster

theorem ReadsJSON.unmarshal_configText (ha : ReadsJSON a) {spec : GatewayClassConfigSpec}
    (hspec : Typed spec) : a.unmarshal (configText spec) = some spec.snapshot :=
  (ha.unmarshal spec).trans (V1alpha1.unmarshal_marshal hspec)

/-- The manager, and the annotations of the Gateways in the cluster. -/
structure Annotated where
  manager : GatewayReconcileManager
  texts : NamespacedName → Option String

namespace Annotated

/-- An upsert is given the Gateway with its annotation, or a copy from before it had one: then the
cluster refuses the update. -/
def Reads (s : Annotated) (g : Gateway) (a : UpsertAnswers) : Prop :=
  g.annotations.lookup annotationConfig = s.texts g.namespacedName ∨
    g.annotations.lookup annotationConfig = none ∧ a.update ≠ none

/-- The annotations after an operation. -/
def written (mapper : String → String) (s : Annotated) : Op → NamespacedName → Option String
  | .upsertGateway g a _ =>
    match prepareGateway mapper a g with
    | .annotated g' =>
      if a.update = none then
        Function.update s.texts g.namespacedName (g'.annotations.lookup annotationConfig)
      else s.texts
    | _ => s.texts
  | _ => s.texts

/-- An operation of the manager; nobody else writes the annotations. -/
def Step (config : ConsulNamespaceConfig) (M : Marshaler) (s : Annotated) (e : Event)
    (s' : Annotated) : Prop :=
  GatewayReconcileManager.Step config M s.manager e s'.manager ∧
    (∀ g a c, e.op = .upsertGateway g a c → s.Reads g a ∧ ReadsJSON a) ∧
    s'.texts = s.written config.namespace_ e.op

def new : Annotated := ⟨GatewayReconcileManager.new, fun _ => none⟩

end Annotated

/-- An upsert of the Gateway finds the configuration and writes it into the annotation. -/
def Annotates (name : NamespacedName) (spec : GatewayClassConfigSpec) (e : Event) : Prop :=
  ∃ g a c config, e.op = .upsertGateway g a c ∧ g.namespacedName = name ∧
    managedConfig a g = .ok (some (config, false)) ∧ a.update = none ∧ config.spec = spec

/-- Where a stored gateway has its configuration from: it was there before, or the operation is an
upsert that has read it. -/
theorem config_of_step {stored : K8sGateway} (hm : Consistent config m)
    (h : Step config M m e m') (hstored : m'.HoldsGateway name stored) :
    (∃ old : K8sGateway, m.HoldsGateway name old ∧ stored.config = old.config) ∨
      ∃ g a c, e.op = .upsertGateway g a c ∧ g.namespacedName = name ∧
        (g.annotations.lookup annotationConfig).bind a.unmarshal = some stored.config.spec := by
  obtain ⟨hv, hexec⟩ := h
  obtain ⟨op, v⟩ := e
  obtain ⟨gid, hlook, hname⟩ := hstored
  cases op with
  | upsertGateway g a c =>
    obtain ⟨⟨m₁, err⟩, hup, rfl⟩ := Option.map_eq_some_iff.1 hexec
    rcases (upsertGateway_cases hup).1 with ⟨hsame, -⟩ | ⟨gateway, hp, hstore⟩
    · exact .inl ⟨stored, ⟨gid, hsame ▸ hlook, hname⟩, rfl⟩
    rcases Store.upsertGateway_cases hm.toKeyed hv hstore with
      ⟨-, hsame⟩ | ⟨-, ls, _, _, -, hgs, -, -⟩
    · exact .inl ⟨stored, ⟨gid, hsame ▸ hlook, hname⟩, rfl⟩
    -- only the gateway that is written can get another configuration
    rw [hgs, GoMap.lookup_insert_ite] at hlook
    split at hlook
    · cases hlook
      obtain ⟨-, hconfig, -, hown, -⟩ := prepareGateway_validated hp
      exact .inr ⟨g, a, c, rfl, hown.symm.trans hname, hconfig⟩
    · exact .inl ⟨stored, ⟨gid, hlook, hname⟩, rfl⟩
  | deleteGateway name' clearErr statusErr =>
    obtain ⟨⟨m₁, err⟩, hdel, rfl⟩ := Option.map_eq_some_iff.1 hexec
    have hbefore := Store.deleteGateway_of_some (deleteGateway_cases hdel).1 hlook
    exact .inl ⟨stored, ⟨gid, hbefore, hname⟩, rfl⟩
  | upsertRoute route cond c =>
    obtain ⟨store, hstore, rfl⟩ := Option.map_eq_some_iff.1 hexec
    obtain ⟨old, ls, hold, rfl⟩ := Store.upsertRoute_of_some hm.toKeyed hv hstore hlook
    exact .inl ⟨old, ⟨gid, hold, hname⟩, rfl⟩
  | deleteRoute id =>
    obtain ⟨store, hstore, rfl⟩ := Option.map_eq_some_iff.1 hexec
    obtain ⟨old, ls, hold, rfl⟩ := Store.deleteRoute_of_some hm.toKeyed hv hstore hlook
    exact .inl ⟨old, ⟨gid, hold, hname⟩, rfl⟩

namespace Annotated

variable {s s' : Annotated} {spec : GatewayClassConfigSpec}

/-- An operation leaves the annotation of a Gateway alone, or writes the configuration that it has
found. -/
theorem Step.texts_cases (h : Annotated.Step config M s e s') (name : NamespacedName) :
    s'.texts name = s.texts name ∨
      ∃ g a c config, e.op = .upsertGateway g a c ∧ g.namespacedName = name ∧
        managedConfig a g = .ok (some (config, false)) ∧ a.update = none ∧
        Typed config.spec ∧ s'.texts name = some (configText config.spec) := by
  obtain ⟨-, hanswers, hwritten⟩ := h
  obtain ⟨op, v⟩ := e
  rw [hwritten]
  cases op with
  | upsertGateway g a c =>
    have hjson := (hanswers g a c rfl).2
    cases hp : prepareGateway config.namespace_ a g with
    | done | rejected | validated =>
      left
      simp [written, hp]
    | annotated g' =>
      obtain ⟨found, marshaled, hmanaged, hmarshal, rfl⟩ := prepareGateway_annotated hp
      by_cases hupdate : a.update = none
      · by_cases hname : name = g.namespacedName
        · right
          refine ⟨g, a, c, found, rfl, hname.symm, hmanaged, hupdate, hjson.typed hmanaged, ?_⟩
          rw [hjson.marshal] at hmarshal
          cases hmarshal
          simp [written, hp, hupdate, hname, annotate]
        · left
          simp [written, hp, hupdate, hname]
      · left
        simp [written, hp, hupdate]
  | deleteGateway | upsertRoute | deleteRoute => exact .inl rfl

/-- The Gateway has its configuration for good. -/
structure Fixed (config : ConsulNamespaceConfig) (name : NamespacedName)
    (spec : GatewayClassConfigSpec) (s : Annotated) : Prop where
  consistent : Consistent config s.manager
  text : s.texts name = some (configText spec)
  stored : ∀ stored, s.manager.HoldsGateway name stored → stored.config.spec = spec.snapshot

/-- The Gateway has no configuration yet. -/
structure Unset (config : ConsulNamespaceConfig) (name : NamespacedName) (s : Annotated) :
    Prop where
  consistent : Consistent config s.manager
  text : s.texts name = none
  stored : ∀ stored, ¬ s.manager.HoldsGateway name stored

/-- What an upsert reads from the annotation of a Gateway that has one: the configuration that was
written, or nothing, and then it cannot write. -/
theorem bind_unmarshal_of_text (hspec : Typed spec) (ha : ReadsJSON a) (hreads : s.Reads g a)
    (htext : s.texts g.namespacedName = some (configText spec)) :
    (g.annotations.lookup annotationConfig).bind a.unmarshal = some spec.snapshot ∨
      (g.annotations.lookup annotationConfig).bind a.unmarshal = none ∧ a.update ≠ none := by
  rcases hreads with hcurrent | ⟨hold, hupdate⟩
  · left
    rw [hcurrent, htext]
    exact ha.unmarshal_configText hspec
  · right
    rw [hold]
    exact ⟨rfl, hupdate⟩

theorem Fixed.step (hspec : Typed spec) (hs : Fixed config name spec s)
    (h : Annotated.Step config M s e s') : Fixed config name spec s' where
  consistent := hs.consistent.step h.1
  text := by
    rcases h.texts_cases name with heq | ⟨g, a, c, found, hop, rfl, hmanaged, hupdate, -, -⟩
    · rw [heq, hs.text]
    · -- the annotation can be read, so that nothing else is looked for
      obtain ⟨hreads, hjson⟩ := h.2.1 g a c hop
      have hnone := managedConfig_unannotated hmanaged
      rcases bind_unmarshal_of_text hspec hjson hreads hs.text with
        hread | ⟨-, hrefused⟩
      · cases hread.symm.trans hnone
      · exact absurd hupdate hrefused
  stored stored hstored := by
    rcases config_of_step hs.consistent h.1 hstored with
      ⟨old, hold, heq⟩ | ⟨g, a, c, hop, rfl, hread⟩
    · rw [heq]
      exact hs.stored old hold
    · obtain ⟨hreads, hjson⟩ := h.2.1 g a c hop
      rcases bind_unmarshal_of_text hspec hjson hreads hs.text with hread' | ⟨hnone, -⟩
      · exact Option.some.inj (hread.symm.trans hread')
      · cases hread.symm.trans hnone

theorem Unset.step (hs : Unset config name s) (h : Annotated.Step config M s e s') :
    Unset config name s' ∨ ∃ spec, Typed spec ∧ Annotates name spec e ∧
      Fixed config name spec s' := by
  have hstored : ∀ stored, ¬ s'.manager.HoldsGateway name stored := by
    intro stored hstored
    rcases config_of_step hs.consistent h.1 hstored with ⟨old, hold, -⟩ | ⟨g, a, c, hop, rfl, hread⟩
    · exact hs.stored old hold
    · have hnone : g.annotations.lookup annotationConfig = none := by
        rcases (h.2.1 g a c hop).1 with hcurrent | ⟨hold, -⟩
        · rw [hcurrent, hs.text]
        · exact hold
      rw [hnone] at hread
      cases hread
  rcases h.texts_cases name with
    heq | ⟨g, a, c, found, hop, hname, hmanaged, hupdate, htyped, htext⟩
  · exact .inl ⟨hs.consistent.step h.1, heq.trans hs.text, hstored⟩
  · exact .inr ⟨found.spec, htyped, ⟨g, a, c, found, hop, hname, hmanaged, hupdate, rfl⟩,
      hs.consistent.step h.1, htext, fun stored hheld => absurd hheld (hstored stored)⟩

theorem Fixed.run {run : List (Event × Annotated)} (hspec : Typed spec)
    (hs : Fixed config name spec s) (hr : Run (Annotated.Step config M) s run) :
    ∀ x ∈ run, Fixed config name spec x.2 := by
  induction hr with
  | nil => exact fun x hx => absurd hx List.not_mem_nil
  | cons hstep _ ih =>
    have hs' := hs.step hspec hstep
    exact List.forall_mem_cons.2 ⟨hs', ih hs'⟩

theorem Unset.run {run : List (Event × Annotated)} (hs : Unset config name s)
    (hr : Run (Annotated.Step config M) s run) : (∀ x ∈ run, Unset config name x.2) ∨
      ∃ spec, (∃ x ∈ run, Annotates name spec x.1) ∧
        ∀ x ∈ run, ∀ stored, x.2.manager.HoldsGateway name stored →
          stored.config.spec = spec.snapshot := by
  induction hr with
  | nil => exact .inl fun x hx => absurd hx List.not_mem_nil
  | cons hstep hrest ih =>
    rcases hs.step hstep with hs' | ⟨spec, htyped, hannotates, hs'⟩
    · rcases ih hs' with hall | ⟨spec, ⟨x, hx, hannotates⟩, hstored⟩
      · exact .inl (List.forall_mem_cons.2 ⟨hs', hall⟩)
      · exact .inr ⟨spec, ⟨x, List.mem_cons_of_mem _ hx, hannotates⟩, List.forall_mem_cons.2
          ⟨fun stored hheld => absurd hheld (hs'.stored stored), hstored⟩⟩
    · exact .inr ⟨spec, ⟨_, List.mem_cons_self, hannotates⟩, List.forall_mem_cons.2
        ⟨hs'.stored, fun x hx => (hs'.run htyped hrest x hx).stored⟩⟩

end Annotated

namespace SampleConfig

open V1alpha1.SampleSnapshot (spec typed)
open SampleCluster (client)
open Store.Sample (marshaler orders)
open SampleGateway (mirroring)

def gateway : Gateway := { SampleGateway.gateway with annotations := ∅ }

/-- The class is only found in memory; what the encoder has written is read back. -/
noncomputable def answers (memory : Option GatewayClassConfig) : UpsertAnswers :=
  { SampleGateway.answers with
    unmarshal := fun text => (Function.partialInv (fun j : GoStd.Json => String.ofList j.text)
      text).bind V1alpha1.unmarshal
    marshal := fun spec => .ok (configText spec)
    getConfig := fun _ => memory }

theorem readsJSON {memory : Option GatewayClassConfig}
    (hmemory : ∀ config ∈ memory, Typed config.spec) : ReadsJSON (answers memory) where
  marshal _ := rfl
  unmarshal spec := by
    dsimp only [answers, configText]
    rw [Function.partialInv_left GoStd.Json.ofList_text_injective]
    rfl
  getConfig h := hmemory _ h
  getConfigForGatewayClassName h := by cases h

def annotatedGateway : Gateway := annotate gateway (configText spec)

/-- The Gateway arrives while its class is there. -/
noncomputable def arrives : Event :=
  ⟨.upsertGateway gateway (answers (some { name := "config", spec := spec })) client,
    ⟨[], [], orders⟩⟩

/-- It comes again when the class is gone. -/
noncomputable def comesAgain : Event :=
  ⟨.upsertGateway annotatedGateway (answers none) client, ⟨[], [], orders⟩⟩

def texts : NamespacedName → Option String :=
  Function.update (fun _ => none) gateway.namespacedName (some (configText spec))

def stored : K8sGateway :=
  { SampleGateway.validated with
    gateway := (annotate annotatedGateway (configText spec.snapshot)).toGatewayMeta
    config := { spec := spec.snapshot } }

def withGateway : GatewayReconcileManager where
  store := ⟨(∅ : GoMap _ _).insert stored.id stored, ∅⟩
  namespaceMap := (∅ : GoMap _ _).insert gateway.namespacedName ""

theorem arrives_step :
    Annotated.Step mirroring marshaler Annotated.new arrives ⟨new, texts⟩ := by
  refine ⟨⟨⟨GoMap.ranges_empty, GoMap.ranges_empty⟩, rfl⟩, ?_, rfl⟩
  rintro g a c heq
  cases heq
  refine ⟨.inl rfl, readsJSON ?_⟩
  rintro config ⟨⟩
  exact typed

theorem comesAgain_step :
    Annotated.Step mirroring marshaler ⟨new, texts⟩ comesAgain ⟨withGateway, texts⟩ := by
  have hjson : ReadsJSON (answers none) := readsJSON fun config h => by cases h
  have hread : (annotatedGateway.annotations.lookup annotationConfig).bind
      (answers none).unmarshal = some spec.snapshot := hjson.unmarshal_configText typed
  have hprepare : prepareGateway mirroring.namespace_ (answers none) annotatedGateway =
      .validated stored := by
    simp only [prepareGateway, managedConfig, hread]
    rfl
  refine ⟨⟨⟨GoMap.ranges_empty, GoMap.ranges_empty⟩, ?_⟩, ?_, ?_⟩
  · simp only [exec, comesAgain, upsertGateway, hprepare]
    rfl
  · rintro g a c heq
    cases heq
    exact ⟨.inl rfl, hjson⟩
  · simp only [Annotated.written, comesAgain, hprepare]

end SampleConfig

open SampleConfig

end Reconciler.GatewayReconcileManager
