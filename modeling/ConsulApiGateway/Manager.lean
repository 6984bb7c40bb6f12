/-
The gateways of the reconcile manager (`internal/k8s/reconciler/manager.go`, with
`ConsulNamespaceConfig` of `internal/k8s/controller.go` and `versions.go` of
`internal/k8s/utils`).

The manager is told of Gateways by their Kubernetes names.  The store keeps them
under the Consul namespace and the name, and the manager remembers which Consul
namespace it has used for a Gateway.  Two Gateways with one name may get the same
Consul namespace, and a Gateway the manager has never stored gets the empty one.

* `Consistent` — what every step keeps;
* `frame_run_of_mirroring` — with mirrored namespaces the operations on one Gateway
  leave the others alone, when only Gateways that the manager knows are deleted;
* `frame_run_iff` — in general they do exactly as long as each of them addresses its
  own Gateway.
-/
import ConsulApiGateway.Bindings
import ConsulApiGateway.Validator

namespace K8s

/-- The configuration of the namespaces; the partition does not take part. -/
structure ConsulNamespaceConfig where
  consulDestinationNamespace : String := ""
  mirrorKubernetesNamespaces : Bool := false
  mirrorKubernetesNamespacePrefix : String := ""

/-- The Consul namespace of a Kubernetes namespace; the default one is `""`. -/
def ConsulNamespaceConfig.namespace_ (c : ConsulNamespaceConfig) (kubernetes : String) : String :=
  let consulNamespace :=
    if c.mirrorKubernetesNamespaces then c.mirrorKubernetesNamespacePrefix ++ kubernetes
    else c.consulDestinationNamespace
  if consulNamespace = "default" then "" else consulNamespace

def resourceVersionGreater (a b : String) : Bool :=
  match GoStd.atoi a, GoStd.atoi b with
  -- a isn't numeric, b is greater
  | none, _ => false
  | some _, none => true
  | some aVal, some bVal => bVal < aVal

/-- Mirrored namespaces stay apart. -/
theorem ConsulNamespaceConfig.namespace_injective {c : ConsulNamespaceConfig} {a b : String}
    (hc : c.mirrorKubernetesNamespaces = true) (ha : a ≠ "") (hb : b ≠ "")
    (h : c.namespace_ a = c.namespace_ b) : a = b := by
  have hne : ∀ {k}, k ≠ "" → c.mirrorKubernetesNamespacePrefix ++ k ≠ "" := by
    intro k hk heq
    exact hk (String.append_eq_empty_iff.1 heq).2
  have hinj : ∀ {k k'}, c.mirrorKubernetesNamespacePrefix ++ k =
      c.mirrorKubernetesNamespacePrefix ++ k' → k = k' := fun heq =>
    (String.append_right_inj _).1 heq
  simp only [namespace_, hc, if_true] at h
  split_ifs at h with h₁ h₂ h₂
  · exact hinj (h₁.trans h₂.symm)
  · exact absurd h.symm (hne hb)
  · exact absurd h (hne ha)
  · exact hinj h

end K8s

namespace Reconciler

open K8s
open V1alpha1 (GatewayClassConfig GatewayClassConfigSpec)

/-! ### The manager -/

structure GatewayReconcileManager where
  store : Store
  namespaceMap : GoMap NamespacedName String

def annotationConfig : String := "api-gateway.consul.hashicorp.com/config"

/-- What an upsert asks for: the configuration of the class from the annotation,
from the cache of the classes or from the cluster; the service the deployer makes;
and the errors of updating the object and of synchronising the store. -/
structure UpsertAnswers where
  unmarshal : String → Option GatewayClassConfigSpec
  marshal : GatewayClassConfigSpec → Except String String
  getConfig : String → Option GatewayClassConfig
  getConfigForGatewayClassName : String → Except String (Option GatewayClassConfig)
  update : Err := none
  service : GatewayClassConfig → Gateway → Option Service
  cluster : ClusterAnswers
  texts : Texts
  sync : Err := none

/-- How an upsert goes on after the configuration of the class has been looked up
and the Gateway validated. -/
inductive Prepared
  -- it returns
  | done (err : Err)
  -- it updates the object, which triggers another upsert, and returns
  | annotated (g : Gateway)
  -- it returns as well, but the namespace is already in the map
  | rejected (err : String)
  | validated (gateway : K8sGateway)

namespace GatewayReconcileManager

def new : GatewayReconcileManager := ⟨Store.new, ∅⟩

/-- The configuration of a managed Gateway, and whether it was annotated. -/
def managedConfig (a : UpsertAnswers) (g : Gateway) :
    Except String (Option (GatewayClassConfig × Bool)) :=
  match (g.annotations.lookup annotationConfig).bind a.unmarshal with
  | some spec => .ok (some ({ spec := spec }, true))
  | none =>
    match a.getConfig g.gatewayClassName with
    | some config => .ok (some (config, false))
    | none => (a.getConfigForGatewayClassName g.gatewayClassName).map fun config? =>
        config?.map fun config => (config, false)

/-- The Gateway with its configuration as an annotation. -/
def annotate (g : Gateway) (marshaled : String) : Gateway :=
  { g with annotations := g.annotations.insert annotationConfig marshaled }

/-- `UpsertGateway` up to the store. -/
def prepareGateway (mapper : String → String) (a : UpsertAnswers) (g : Gateway) : Prepared :=
  match managedConfig a g with
  | .error err => .done (some err)
  -- we don't own the gateway
  | .ok none => .done none
  | .ok (some (config, annotated)) =>
    match a.marshal config.spec with
    | .error err => .done (some err)
    | .ok marshaled =>
      let g := annotate g marshaled
      if !annotated then .annotated g
      else
        match Validator.validate a.cluster a.texts g (a.service config g) with
        | .error err => .rejected err
        | .ok state =>
          .validated (newK8sGateway config g { state with consulNamespace := mapper g.namespace_ })

/-- The condition under which a gateway replaces the stored one. -/
def updateCondition (gateway : K8sGateway) : Option K8sGateway → Bool
  | none => true
  | some current =>
    !resourceVersionGreater current.gateway.resourceVersion gateway.gateway.resourceVersion

/-- The manager after an upsert, and the error that is returned. -/
def upsertGateway (mapper : String → String) (c : Client) (M : Marshaler) (v : Store.Visit)
    (a : UpsertAnswers) (m : GatewayReconcileManager) (g : Gateway) :
    Option (GatewayReconcileManager × Err) :=
  let namespaceMap := m.namespaceMap.insert g.namespacedName (mapper g.namespace_)
  match prepareGateway mapper a g with
  | .done err => some (m, err)
  | .annotated _ => some (m, a.update)
  | .rejected err => some (⟨m.store, namespaceMap⟩, some err)
  | .validated gateway =>
    (Store.upsertGateway c M v m.store gateway (some (updateCondition gateway))).map fun store =>
      (⟨store, namespaceMap⟩,
        if updateCondition gateway (m.store.getGateway gateway.id) then a.sync else none)

/-- The ID that a deletion is for: the map has no entry for a Gateway that the
manager does not know, and reading it gives the empty namespace. -/
def deletedID (m : GatewayReconcileManager) (name : NamespacedName) : Core.GatewayID where
  service := name.name
  consulNamespace := (m.namespaceMap.lookup name).getD ""

/-- `clearErr` is the error of clearing the gateway in Consul, and `statusErr` that
of updating the routes it served. -/
def deleteGateway (M : Marshaler) (v : Store.Visit) (clearErr statusErr : Err)
    (m : GatewayReconcileManager) (name : NamespacedName) :
    Option (GatewayReconcileManager × Err) :=
  let err := if (m.store.getGateway (m.deletedID name)).isSome then clearErr.or statusErr else none
  (Store.deleteGateway M v m.store (m.deletedID name) clearErr).map fun store =>
    (⟨store, if err.isSome then m.namespaceMap else m.namespaceMap.erase name⟩, err)

/-! ### Runs -/

/-- The operations on Gateways, and those on routes, which go to the store. -/
inductive Op
  | upsertGateway (g : Gateway) (a : UpsertAnswers) (c : Client)
  | deleteGateway (name : NamespacedName) (clearErr statusErr : Err)
  | upsertRoute (route : K8sRoute) (updateConditionFn : Option (Option K8sRoute → Bool))
      (c : Client)
  | deleteRoute (id : String)

structure Event where
  op : Op
  visit : Store.Visit

def exec (mapper : String → String) (M : Marshaler) (m : GatewayReconcileManager) (e : Event) :
    Option GatewayReconcileManager :=
  match e.op with
  | .upsertGateway g a c => (upsertGateway mapper c M e.visit a m g).map Prod.fst
  | .deleteGateway name clearErr statusErr =>
    (deleteGateway M e.visit clearErr statusErr m name).map Prod.fst
  | .upsertRoute route cond c =>
    (Store.upsertRoute c M e.visit m.store route cond).map fun store => { m with store := store }
  | .deleteRoute id =>
    (Store.deleteRoute M e.visit m.store id).map fun store => { m with store := store }

/-- One operation that goes through, under a configuration of the namespaces. -/
def Step (config : ConsulNamespaceConfig) (M : Marshaler) (m : GatewayReconcileManager) (e : Event)
    (m' : GatewayReconcileManager) : Prop :=
  e.visit.Of m.store ∧ exec config.namespace_ M m e = some m'

/-- The Gateway an operation is for. -/
def Op.target : Op → Option NamespacedName
  | .upsertGateway g _ _ => some g.namespacedName
  | .deleteGateway name _ _ => some name
  | _ => none

/-- An operation for one Gateway leaves the others as they are. -/
def Frame (m : GatewayReconcileManager) (e : Event) (m' : GatewayReconcileManager) : Prop :=
  ∀ name, e.op.target = some name → ∀ gid g, m.store.gateways.lookup gid = some g →
    g.namespacedName ≠ name → m'.store.gateways.lookup gid = some g

/-- An upsert gets as far as the store: the Gateway is annotated with a configuration,
and the validation goes through. -/
def Reaches (a : UpsertAnswers) (g : Gateway) : Prop :=
  ∃ spec marshaled state, (g.annotations.lookup annotationConfig).bind a.unmarshal = some spec ∧
    a.marshal spec = .ok marshaled ∧
    Validator.validate a.cluster a.texts (annotate g marshaled)
      (a.service { spec := spec } (annotate g marshaled)) = .ok state

/-- An operation that is going to replace or delete a gateway does so to its own
Gateway. -/
def Addressed (config : ConsulNamespaceConfig) (m : GatewayReconcileManager) (e : Event) : Prop :=
  match e.op with
  | .upsertGateway g a _ => Reaches a g → ∀ current,
      m.store.gateways.lookup ⟨config.namespace_ g.namespace_, g.name⟩ = some current →
      resourceVersionGreater current.gateway.resourceVersion g.resourceVersion = false →
      current.namespacedName = g.namespacedName
  | .deleteGateway name clearErr _ => clearErr = none → ∀ current,
      m.store.gateways.lookup (m.deletedID name) = some current → current.namespacedName = name
  | _ => True

/-- The gateway is stored for the Gateway of the name. -/
def HoldsGateway (m : GatewayReconcileManager) (name : NamespacedName) (g : K8sGateway) : Prop :=
  ∃ gid, m.store.gateways.lookup gid = some g ∧ g.namespacedName = name

variable {config : ConsulNamespaceConfig} {mapper : String → String} {M : Marshaler} {c : Client}
  {v : Store.Visit} {a : UpsertAnswers} {g : Gateway} {m m' : GatewayReconcileManager}

/-! ### What an operation can do -/

/-- A configuration that does not come from the annotation is only looked for without one. -/
theorem managedConfig_unannotated {config : GatewayClassConfig}
    (h : managedConfig a g = .ok (some (config, false))) :
    (g.annotations.lookup annotationConfig).bind a.unmarshal = none := by
  unfold managedConfig at h
  split at h
  · cases h
  · assumption

theorem managedConfig_annotated {config : GatewayClassConfig}
    (h : managedConfig a g = .ok (some (config, true))) :
    ∃ spec, (g.annotations.lookup annotationConfig).bind a.unmarshal = some spec ∧
      config = { spec := spec } := by
  unfold managedConfig at h
  split at h
  · next spec hc =>
    cases h
    exact ⟨spec, hc, rfl⟩
  · split at h
    · cases h
    · obtain ⟨config?, -, heq⟩ := GoStd.map_eq_ok h
      obtain ⟨config', -, heq⟩ := Option.map_eq_some_iff.1 heq
      cases heq

/-- The object that is updated has the configuration that was found. -/
theorem prepareGateway_annotated {g' : Gateway} (h : prepareGateway mapper a g = .annotated g') :
    ∃ config marshaled, managedConfig a g = .ok (some (config, false)) ∧
      a.marshal config.spec = .ok marshaled ∧ g' = annotate g marshaled := by
  unfold prepareGateway at h
  split at h
  · cases h
  · cases h
  · next config annotated hmanaged =>
    split at h
    · cases h
    · next marshaled hmarshal =>
      cases annotated with
      | true =>
        rw [if_neg (by simp)] at h
        split at h
        · cases h
        · cases h
      | false =>
        cases h
        exact ⟨config, marshaled, hmanaged, hmarshal, rfl⟩

/-- The gateway that goes to the store, and its configuration. -/
theorem prepareGateway_validated {gateway : K8sGateway}
    (h : prepareGateway mapper a g = .validated gateway) :
    Reaches a g ∧ (g.annotations.lookup annotationConfig).bind a.unmarshal =
        some gateway.config.spec ∧
      gateway.id = ⟨mapper g.namespace_, g.name⟩ ∧ gateway.namespacedName = g.namespacedName ∧
      gateway.gateway.resourceVersion = g.resourceVersion := by
  unfold prepareGateway at h
  split at h
  · cases h
  · cases h
  · next config annotated hmanaged =>
    split at h
    · cases h
    · next marshaled hmarshal =>
      cases annotated with
      -- without the annotation the upsert returns before the validation
      | false => cases h
      | true =>
        obtain ⟨spec, hc, rfl⟩ := managedConfig_annotated hmanaged
        rw [if_neg (by simp)] at h
        split at h
        · cases h
        · next state hstate =>
          cases h
          exact ⟨⟨spec, marshaled, state, hc, hmarshal, hstate⟩, hc, rfl, rfl, rfl⟩

theorem prepareGateway_spec {gateway : K8sGateway}
    (h : prepareGateway mapper a g = .validated gateway) :
    Reaches a g ∧ gateway.id = ⟨mapper g.namespace_, g.name⟩ ∧
      gateway.namespacedName = g.namespacedName ∧
      gateway.gateway.resourceVersion = g.resourceVersion := by
  obtain ⟨hreaches, -, hrest⟩ := prepareGateway_validated h
  exact ⟨hreaches, hrest⟩

theorem prepareGateway_of_reaches (h : Reaches a g) :
    ∃ gateway, prepareGateway mapper a g = .validated gateway := by
  obtain ⟨spec, marshaled, state, hc, hmarshal, hstate⟩ := h
  refine ⟨newK8sGateway { spec := spec } (annotate g marshaled)
    { state with consulNamespace := mapper g.namespace_ }, ?_⟩
  simp only [prepareGateway, managedConfig, hc, hmarshal, hstate]
  rfl

theorem upsertGateway_cases {err : Err}
    (h : upsertGateway mapper c M v a m g = some (m', err)) :
    ((m'.store = m.store ∧ ¬ Reaches a g) ∨
      ∃ gateway, prepareGateway mapper a g = .validated gateway ∧
        Store.upsertGateway c M v m.store gateway (some (updateCondition gateway)) =
          some m'.store) ∧
    (m'.namespaceMap = m.namespaceMap ∨
      m'.namespaceMap = m.namespaceMap.insert g.namespacedName (mapper g.namespace_)) := by
  have hreaches : (∀ gateway, prepareGateway mapper a g ≠ .validated gateway) → ¬ Reaches a g :=
    fun hne hr => (prepareGateway_of_reaches hr).elim hne
  unfold upsertGateway at h
  dsimp only at h
  cases hp : prepareGateway mapper a g with
  | done | annotated =>
    simp only [hp] at h
    cases h
    exact ⟨.inl ⟨rfl, hreaches (by simp [hp])⟩, .inl rfl⟩
  | rejected =>
    simp only [hp] at h
    cases h
    exact ⟨.inl ⟨rfl, hreaches (by simp [hp])⟩, .inr rfl⟩
  | validated gateway =>
    simp only [hp] at h
    obtain ⟨store, hstore, heq⟩ := Option.map_eq_some_iff.1 h
    cases heq
    exact ⟨.inr ⟨gateway, rfl, hstore⟩, .inr rfl⟩

theorem deleteGateway_cases {name : NamespacedName} {clearErr statusErr err : Err}
    (h : deleteGateway M v clearErr statusErr m name = some (m', err)) :
    Store.deleteGateway M v m.store (m.deletedID name) clearErr = some m'.store ∧
      (m'.namespaceMap = m.namespaceMap ∨ m'.namespaceMap = m.namespaceMap.erase name) := by
  unfold deleteGateway at h
  obtain ⟨store, hstore, heq⟩ := Option.map_eq_some_iff.1 h
  cases heq
  exact ⟨hstore, ite_eq_or_eq _ _ _⟩

/-- The stored gateway, if any, gives way to the Gateway. -/
def Replaces (m : GatewayReconcileManager) (id : Core.GatewayID) (g : Gateway) : Prop :=
  ∀ current, m.store.gateways.lookup id = some current →
    resourceVersionGreater current.gateway.resourceVersion g.resourceVersion = false

/-- What an upsert does to the stored gateways: nothing, or it writes one with the
name of the Gateway. -/
theorem upsertGateway_gateways {err : Err} (hs : m.store.Keyed) (hv : v.Of m.store)
    (h : upsertGateway mapper c M v a m g = some (m', err)) :
    (m'.store = m.store ∧
        ¬ (Reaches a g ∧ m.Replaces ⟨mapper g.namespace_, g.name⟩ g)) ∨
      Reaches a g ∧ m.Replaces ⟨mapper g.namespace_, g.name⟩ g ∧
        ∃ gateway, gateway.id = ⟨mapper g.namespace_, g.name⟩ ∧
          gateway.namespacedName = g.namespacedName ∧
          m'.store.gateways = m.store.gateways.insert gateway.id gateway := by
  rcases (upsertGateway_cases h).1 with ⟨hsame, hnot⟩ | ⟨gateway, hp, hstore⟩
  · exact .inl ⟨hsame, fun hr => hnot hr.1⟩
  obtain ⟨hreaches, hid, hname, hversion⟩ := prepareGateway_spec hp
  have hcond : updateCondition gateway (m.store.getGateway gateway.id) = true ↔
      m.Replaces ⟨mapper g.namespace_, g.name⟩ g := by
    rw [Replaces, ← hid, Store.getGateway]
    cases m.store.gateways.lookup gateway.id with
    | none => simp [updateCondition]
    | some current => simp [updateCondition, hversion]
  rcases Store.upsertGateway_cases hs hv hstore with
    ⟨hskip, hsame⟩ | ⟨hwrite, ls, _, _, -, hgs, -, -⟩
  · refine .inl ⟨hsame, fun hr => ?_⟩
    simp [hcond.2 hr.2] at hskip
  · exact .inr ⟨hreaches, hcond.1 (by simpa using hwrite), gateway.setListeners ls, hid, hname, hgs⟩

/-! ### The invariant -/

/-- Every gateway is stored under its own ID, which has the namespace that the
configuration gives, and so has every entry of the map. -/
structure Consistent (config : ConsulNamespaceConfig) (m : GatewayReconcileManager) : Prop
    extends m.store.Keyed where
  consulNamespace : ∀ {gid g}, m.store.gateways.lookup gid = some g →
    g.gatewayState.consulNamespace = config.namespace_ g.gateway.namespace_
  namespaceMap : ∀ {name ns}, m.namespaceMap.lookup name = some ns →
    ns = config.namespace_ name.namespace_

theorem consistent_new : Consistent config new where
  gateways h := by simp [new, Store.new] at h
  routes h := by simp [new, Store.new] at h
  consulNamespace h := by simp [new, Store.new] at h
  namespaceMap h := by simp [new] at h

theorem Consistent.upsertGateway {err : Err} (hm : Consistent config m) (hv : v.Of m.store)
    (h : GatewayReconcileManager.upsertGateway config.namespace_ c M v a m g = some (m', err)) :
    Consistent config m' := by
  obtain ⟨hstore, hmap⟩ := upsertGateway_cases h
  refine ⟨?_, fun {gid g'} hlook => ?_, fun {name ns} hlook => ?_⟩
  · rcases hstore with ⟨hsame, -⟩ | ⟨gateway, -, hstore⟩
    · exact hsame ▸ hm.toKeyed
    · exact hm.toKeyed.upsertGateway hv hstore
  · rcases upsertGateway_gateways hm.toKeyed hv h with
      ⟨hsame, -⟩ | ⟨-, -, gateway, hid, hname, hgs⟩
    · exact hm.consulNamespace (hsame ▸ hlook)
    rw [hgs, GoMap.lookup_insert_ite] at hlook
    split at hlook
    · cases hlook
      have hns : g'.gateway.namespace_ = g.namespace_ := congrArg NamespacedName.namespace_ hname
      rw [hns]
      exact congrArg Core.GatewayID.consulNamespace hid
    · exact hm.consulNamespace hlook
  · rcases hmap with hmap | hmap
    · exact hm.namespaceMap (hmap ▸ hlook)
    rw [hmap, GoMap.lookup_insert_ite] at hlook
    split at hlook
    · next heq => cases hlook; rw [heq]; rfl
    · exact hm.namespaceMap hlook

theorem Consistent.deleteGateway {name : NamespacedName} {clearErr statusErr err : Err}
    (hm : Consistent config m) (hv : v.Of m.store)
    (h : GatewayReconcileManager.deleteGateway M v clearErr statusErr m name = some (m', err)) :
    Consistent config m' := by
  obtain ⟨hstore, hmap⟩ := deleteGateway_cases h
  refine ⟨hm.toKeyed.deleteGateway hv hstore, fun hlook => ?_, fun {name' ns} hlook => ?_⟩
  · exact hm.consulNamespace (Store.deleteGateway_of_some hstore hlook)
  · rcases hmap with hmap | hmap
    · exact hm.namespaceMap (hmap ▸ hlook)
    rw [hmap, GoMap.lookup_erase_ite] at hlook
    split at hlook
    · cases hlook
    · exact hm.namespaceMap hlook

theorem Consistent.step {e : Event} (hm : Consistent config m) (h : Step config M m e m') :
    Consistent config m' := by
  obtain ⟨hv, hexec⟩ := h
  obtain ⟨op, v⟩ := e
  cases op with
  | upsertGateway g a c =>
    obtain ⟨⟨m₁, err⟩, hup, rfl⟩ := Option.map_eq_some_iff.1 hexec
    exact hm.upsertGateway hv hup
  | deleteGateway name clearErr statusErr =>
    obtain ⟨⟨m₁, err⟩, hdel, rfl⟩ := Option.map_eq_some_iff.1 hexec
    exact hm.deleteGateway hv hdel
  | upsertRoute route cond c =>
    obtain ⟨store, hstore, rfl⟩ := Option.map_eq_some_iff.1 hexec
    refine ⟨hm.toKeyed.upsertRoute hv hstore, fun hlook => ?_, hm.namespaceMap⟩
    obtain ⟨g, ls, hg, rfl⟩ := Store.upsertRoute_of_some hm.toKeyed hv hstore hlook
    have := hm.consulNamespace hg
    exact this
  | deleteRoute id =>
    obtain ⟨store, hstore, rfl⟩ := Option.map_eq_some_iff.1 hexec
    refine ⟨hm.toKeyed.deleteRoute hv hstore, fun hlook => ?_, hm.namespaceMap⟩
    obtain ⟨g, ls, hg, rfl⟩ := Store.deleteRoute_of_some hm.toKeyed hv hstore hlook
    have := hm.consulNamespace hg
    exact this

/-! ### The others -/

theorem frame_upsertGateway_iff {err : Err} (hs : m.store.Keyed) (hv : v.Of m.store)
    (h : upsertGateway config.namespace_ c M v a m g = some (m', err)) :
    Frame m ⟨.upsertGateway g a c, v⟩ m' ↔ Addressed config m ⟨.upsertGateway g a c, v⟩ := by
  have hreplaces : ∀ {current},
      m.store.gateways.lookup ⟨config.namespace_ g.namespace_, g.name⟩ = some current →
      resourceVersionGreater current.gateway.resourceVersion g.resourceVersion = false →
      m.Replaces ⟨config.namespace_ g.namespace_, g.name⟩ g := by
    intro current hlook hversion current' hlook'
    cases hlook.symm.trans hlook'
    exact hversion
  rcases upsertGateway_gateways hs hv h with
    ⟨hsame, hskip⟩ | ⟨hreaches, hrep, gateway, hid, hname, hgs⟩
  · -- nothing is written
    refine ⟨fun _ hreaches current hlook hversion => ?_,
      fun _ _ _ gid g' hlook _ => hsame ▸ hlook⟩
    exact absurd ⟨hreaches, hreplaces hlook hversion⟩ hskip
  constructor
  · intro hframe _ current hlook _
    by_contra hne
    -- a gateway with another name would have been replaced
    have hafter := hframe _ rfl _ current hlook hne
    rw [hgs, GoMap.lookup_insert_ite, if_pos hid.symm] at hafter
    cases hafter
    exact hne hname
  · intro haddr name htarget gid g' hlook hne
    cases htarget
    rw [hgs, GoMap.lookup_insert_ite, if_neg ?_, hlook]
    rintro rfl
    rw [hid] at hlook
    exact hne (haddr hreaches g' hlook (hrep g' hlook))

theorem frame_deleteGateway_iff {name : NamespacedName} {clearErr statusErr err : Err}
    (h : deleteGateway M v clearErr statusErr m name = some (m', err)) :
    Frame m ⟨.deleteGateway name clearErr statusErr, v⟩ m' ↔
      Addressed config m ⟨.deleteGateway name clearErr statusErr, v⟩ := by
  rcases Store.deleteGateway_cases (deleteGateway_cases h).1 with
    ⟨hskip, hsame⟩ | ⟨hclear, g, _, _, -, -, hgs, -⟩
  · -- nothing is deleted
    refine ⟨fun _ hclear g' hlook => ?_, fun _ _ _ gid g' hlook _ => hsame ▸ hlook⟩
    rcases hskip with hnone | herr
    · cases hnone.symm.trans hlook
    · rw [hclear] at herr
      cases herr
  constructor
  · intro hframe _ g' hlook
    by_contra hne
    have hafter := hframe _ rfl _ g' hlook hne
    rw [hgs, GoMap.lookup_erase_ite, if_pos rfl] at hafter
    cases hafter
  · intro haddr name' htarget gid g' hlook hne
    cases htarget
    rw [hgs, GoMap.lookup_erase_ite, if_neg ?_, hlook]
    rintro rfl
    exact hne (haddr hclear g' hlook)

theorem frame_step_iff {e : Event} (hm : Consistent config m) (h : Step config M m e m') :
    Frame m e m' ↔ Addressed config m e := by
  obtain ⟨hv, hexec⟩ := h
  obtain ⟨op, v⟩ := e
  cases op with
  | upsertGateway g a c =>
    obtain ⟨⟨m₁, err⟩, hup, rfl⟩ := Option.map_eq_some_iff.1 hexec
    exact frame_upsertGateway_iff hm.toKeyed hv hup
  | deleteGateway name clearErr statusErr =>
    obtain ⟨⟨m₁, err⟩, hdel, rfl⟩ := Option.map_eq_some_iff.1 hexec
    exact frame_deleteGateway_iff hdel
  | upsertRoute | deleteRoute => exact ⟨fun _ => trivial, fun _ _ htarget => by cases htarget⟩

/-! ### Mirrored namespaces -/

/-- The operation is for a Gateway in some namespace, and a deletion for one that
the manager has in its map. -/
def Known (m : GatewayReconcileManager) (e : Event) : Prop :=
  match e.op with
  | .upsertGateway g _ _ => g.namespace_ ≠ ""
  | .deleteGateway name _ _ => name ∈ m.namespaceMap ∧ name.namespace_ ≠ ""
  | _ => True

/-- Every stored gateway is in some namespace. -/
def Namespaced (m : GatewayReconcileManager) : Prop :=
  ∀ gid g, m.store.gateways.lookup gid = some g → g.gateway.namespace_ ≠ ""

theorem Namespaced.step {e : Event} (hn : Namespaced m) (hm : Consistent config m)
    (h : Step config M m e m') (hk : Known m e) : Namespaced m' := by
  obtain ⟨hv, hexec⟩ := h
  obtain ⟨op, v⟩ := e
  intro gid g' hlook
  cases op with
  | upsertGateway g a c =>
    obtain ⟨⟨m₁, err⟩, hup, rfl⟩ := Option.map_eq_some_iff.1 hexec
    rcases upsertGateway_gateways hm.toKeyed hv hup with
      ⟨hsame, -⟩ | ⟨-, -, gateway, -, hname, hgs⟩
    · exact hn gid g' (hsame ▸ hlook)
    rw [hgs, GoMap.lookup_insert_ite] at hlook
    split at hlook
    · cases hlook
      have hns : g'.gateway.namespace_ = g.namespace_ := congrArg NamespacedName.namespace_ hname
      exact fun hempty => hk (hns.symm.trans hempty)
    · exact hn gid g' hlook
  | deleteGateway name clearErr statusErr =>
    obtain ⟨⟨m₁, err⟩, hdel, rfl⟩ := Option.map_eq_some_iff.1 hexec
    exact hn gid g' (Store.deleteGateway_of_some (deleteGateway_cases hdel).1 hlook)
  | upsertRoute route cond c =>
    obtain ⟨store, hstore, rfl⟩ := Option.map_eq_some_iff.1 hexec
    obtain ⟨g, ls, hg, rfl⟩ := Store.upsertRoute_of_some hm.toKeyed hv hstore hlook
    exact hn gid g hg
  | deleteRoute id =>
    obtain ⟨store, hstore, rfl⟩ := Option.map_eq_some_iff.1 hexec
    obtain ⟨g, ls, hg, rfl⟩ := Store.deleteRoute_of_some hm.toKeyed hv hstore hlook
    exact hn gid g hg

/-- With mirrored namespaces only the Gateway itself is stored under the ID that its
name and namespace give. -/
theorem namespacedName_of_mirroring (name : NamespacedName) {current : K8sGateway}
    (hmirror : config.mirrorKubernetesNamespaces = true) (hm : Consistent config m)
    (hn : Namespaced m) (hname : name.namespace_ ≠ "")
    (hlook : m.store.gateways.lookup ⟨config.namespace_ name.namespace_, name.name⟩ =
      some current) : current.namespacedName = name := by
  have hid := hm.gateways hlook
  have hservice : current.gateway.name = name.name := congrArg Core.GatewayID.service hid
  have hns : config.namespace_ current.gateway.namespace_ = config.namespace_ name.namespace_ :=
    (hm.consulNamespace hlook).symm.trans (congrArg Core.GatewayID.consulNamespace hid)
  have hnamespace := ConsulNamespaceConfig.namespace_injective hmirror (hn _ _ hlook) hname hns
  show (⟨current.gateway.namespace_, current.gateway.name⟩ : NamespacedName) = name
  rw [hnamespace, hservice]

theorem addressed_of_mirroring {e : Event}
    (hmirror : config.mirrorKubernetesNamespaces = true) (hm : Consistent config m)
    (hn : Namespaced m) (hk : Known m e) : Addressed config m e := by
  obtain ⟨op, v⟩ := e
  cases op with
  | upsertGateway g a c =>
    intro _ current hlook _
    exact namespacedName_of_mirroring g.namespacedName hmirror hm hn hk hlook
  | deleteGateway name clearErr statusErr =>
    intro _ current hlook
    obtain ⟨hmem, hname⟩ := hk
    obtain ⟨ns, hns⟩ := Finmap.mem_iff.1 hmem
    rw [deletedID, hns, hm.namespaceMap hns] at hlook
    exact namespacedName_of_mirroring name hmirror hm hn hname hlook
  | upsertRoute | deleteRoute => trivial

/-- With mirrored namespaces the operations leave the other Gateways alone, as long
as only Gateways that the manager knows are deleted. -/
theorem frame_run_of_mirroring {run : List (Event × GatewayReconcileManager)}
    (hmirror : config.mirrorKubernetesNamespaces = true) (hr : Run (Step config M) new run)
    (hk : Always (fun m e _ => Known m e) new run) : Always Frame new run := by
  refine hr.always_of_invariant (I := fun m => Consistent config m ∧ Namespaced m)
    ⟨consistent_new, fun _ _ hlook => by simp [new, Store.new] at hlook⟩ ?_ hk
  rintro m e m' ⟨hm, hn⟩ hstep hknown
  exact ⟨(frame_step_iff hm hstep).2 (addressed_of_mirroring hmirror hm hn hknown),
    hm.step hstep, hn.step hm hstep hknown⟩

/-! ### Every run -/

/-- **The operations of a run leave the other Gateways alone** iff each of them
finds its own Gateway, or none, under the ID that it writes or deletes. -/
theorem frame_run_iff {run : List (Event × GatewayReconcileManager)}
    (hr : Run (Step config M) new run) :
    Always Frame new run ↔ Always (fun m e _ => Addressed config m e) new run :=
  hr.always_iff consistent_new frame_step_iff fun hm hstep _ => hm.step hstep

/-! ### A Gateway in the default namespace -/

namespace SampleGateway

open SampleCluster (client)
open Store.Sample (marshaler orders)

def mirroring : ConsulNamespaceConfig := { mirrorKubernetesNamespaces := true }

def gateway : Gateway where
  namespace_ := "default"
  name := "gateway"
  groupKind := ⟨groupName, "Gateway"⟩
  annotations := (∅ : GoMap _ _).insert annotationConfig "config"
  listeners := []

def answers : UpsertAnswers where
  unmarshal _ := some {}
  marshal _ := .ok "config"
  getConfig _ := none
  getConfigForGatewayClassName _ := .ok none
  service _ _ := none
  cluster :=
    { podsWithLabels := .ok []
      addressPods := .ok []
      getService := .ok none
      getReferenceGrantsInNamespace := fun _ _ => .ok []
      getSecret := fun _ _ => .ok false }
  texts := ⟨.listed, .listed, fun _ => ""⟩

/-- The gateway as it is validated; nothing runs for it yet. -/
def validated : K8sGateway where
  gateway := { gateway.toGatewayMeta with
    annotations := gateway.annotations.insert annotationConfig "config" }
  gatewayState :=
    { status :=
        { ready := { listenersNotReady := some "gateway listeners not ready" }
          scheduled := { notReconciled := some "pods not found" } }
      listeners := [] }

def gatewayArrives : Event := ⟨.upsertGateway gateway answers client, ⟨[], [], orders⟩⟩

def withGateway : GatewayReconcileManager where
  store := ⟨(∅ : GoMap _ _).insert validated.id validated, ∅⟩
  namespaceMap := (∅ : GoMap _ _).insert gateway.namespacedName ""

/-- A Gateway of some name is gone. -/
def goes (name : NamespacedName) : Event :=
  ⟨.deleteGateway name none none, ⟨[(validated.id, validated)], [], orders⟩⟩

/-- The manager after that, if the name leads to the stored gateway. -/
def afterwards (name : NamespacedName) : GatewayReconcileManager where
  store := ⟨((∅ : GoMap _ _).insert validated.id validated).erase validated.id, ∅⟩
  namespaceMap := ((∅ : GoMap _ _).insert gateway.namespacedName "").erase name

/-- A Gateway with the same name that the manager has never stored. -/
def other : NamespacedName := ⟨"other", "gateway"⟩

theorem gatewayArrives_step : Step mirroring marshaler new gatewayArrives withGateway :=
  ⟨⟨GoMap.ranges_empty, GoMap.ranges_empty⟩, rfl⟩

theorem run_goes {name : NamespacedName} (hid : withGateway.deletedID name = validated.id) :
    Run (Step mirroring marshaler) new
      [(gatewayArrives, withGateway), (goes name, afterwards name)] := by
  refine .cons gatewayArrives_step (.cons ⟨⟨GoMap.ranges_singleton _ _, GoMap.ranges_empty⟩, ?_⟩
    (.nil _))
  simp only [exec, goes, deleteGateway, hid]
  rfl

/-- The Gateway of a team, with the same name. -/
def teamGateway : Gateway := { gateway with namespace_ := "team" }

def teamValidated : K8sGateway where
  gateway := { validated.gateway with namespace_ := "team" }
  gatewayState := { validated.gatewayState with consulNamespace := "team" }

def teamArrives : Event :=
  ⟨.upsertGateway teamGateway answers client, ⟨[(validated.id, validated)], [], orders⟩⟩

def withBoth : GatewayReconcileManager where
  store := ⟨withGateway.store.gateways.insert teamValidated.id teamValidated, ∅⟩
  namespaceMap := withGateway.namespaceMap.insert teamGateway.namespacedName "team"

/-- The Gateway of the team goes again. -/
def teamGoes : Event :=
  ⟨.deleteGateway teamGateway.namespacedName none none,
    ⟨[(teamValidated.id, teamValidated), (validated.id, validated)], [], orders⟩⟩

def withoutTeam : GatewayReconcileManager where
  store := ⟨withBoth.store.gateways.erase teamValidated.id, ∅⟩
  namespaceMap := withBoth.namespaceMap.erase teamGateway.namespacedName

theorem run_team : Run (Step mirroring marshaler) new
    [(gatewayArrives, withGateway), (teamArrives, withBoth), (teamGoes, withoutTeam)] := by
  have hone : GoMap.Ranges withGateway.store.gateways [(validated.id, validated)] :=
    GoMap.ranges_singleton _ _
  have hboth : GoMap.Ranges withBoth.store.gateways
      [(teamValidated.id, teamValidated), (validated.id, validated)] := hone.insert _ rfl
  exact .cons gatewayArrives_step (.cons ⟨⟨hone, GoMap.ranges_empty⟩, rfl⟩
    (.cons ⟨⟨hboth, GoMap.ranges_empty⟩, rfl⟩ (.nil _)))

end SampleGateway

open SampleGateway
open Store.Sample (marshaler)

/-- The Gateway of the team comes and goes, and the other one stays. -/
theorem frame_comes_and_goes :
    withoutTeam.store.gateways.lookup validated.id = some validated ∧
      Always Frame new
        [(gatewayArrives, withGateway), (teamArrives, withBoth), (teamGoes, withoutTeam)] := by
  refine ⟨rfl, (frame_run_iff run_team).2 ⟨?_, ?_, ?_, trivial⟩⟩
  · intro _ current hlook
    cases hlook
  · intro _ current hlook
    cases hlook
  · intro _ current hlook
    cases hlook
    rfl

/-- **The deletion of a Gateway that was never stored deletes another one**: the
namespace of an unknown Gateway is read as the empty one, where a Gateway of the
default namespace is stored. -/
theorem unknownGateway_deletes_other :
    Run (Step mirroring marshaler) new
        [(gatewayArrives, withGateway), (goes other, afterwards other)] ∧
      ¬ Always Frame new [(gatewayArrives, withGateway), (goes other, afterwards other)] := by
  refine ⟨run_goes rfl, ?_⟩
  rintro ⟨-, hframe, -⟩
  have hafter := hframe other rfl validated.id validated rfl (by decide)
  cases hafter

end GatewayReconcileManager

end Reconciler
