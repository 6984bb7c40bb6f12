/-
The deployer (`internal/k8s/reconciler/deployer.go`, with `CreateOrUpdate…`, `EnsureExists`,
`EnsureServiceAccount` and `SetControllerOwnership` of `internal/k8s/gatewayclient`).

`Deploy` makes a series of calls to the cluster and to Consul.  Users, other controllers and the
garbage collector change the same objects in between, and every call may fail.  A read returns what
is stored when it is made: the cache that the client of the manager reads from, and with it reads of
a state that has passed, are not modelled.

* `Allowed` — what a call may do to the cluster;
* `deploy_allowed` — whatever the others do and wherever it fails, the deployer only writes objects
  under the name of the gateway, and none that something else controls.
-/
import ConsulApiGateway.Cluster
import ConsulApiGateway.Manager

/-! ### Merges -/

namespace V1alpha1

open K8s

/-- A merge brings one side of an object, its view, to that of another, and leaves it as it is if it
is there already. -/
structure Merges {S A : Type} (merge : Object S → Object S → Object S) (view : Object S → A) :
    Prop where
  view_merge : ∀ a b, view (merge a b) = view a
  merge_of_view : ∀ a b, view a = view b → merge a b = b
  ownerReferences_merge : ∀ a b, (merge a b).ownerReferences = b.ownerReferences
  view_owned : ∀ a refs, view { a with ownerReferences := refs } = view a

theorem merges_mergeSecret : Merges mergeSecret fun o => (o.annotations, o.spec) where
  view_merge a b := by
    unfold mergeSecret
    split_ifs with h
    · obtain ⟨hannotations, hspec⟩ := (compareSecrets_iff a b).1 h
      rw [hannotations, hspec]
    · rfl
  merge_of_view a b h := if_pos ((compareSecrets_iff a b).2 (Prod.mk.inj h))
  ownerReferences_merge a b := by
    unfold mergeSecret
    split_ifs <;> rfl
  view_owned _ _ := rfl

theorem merges_mergeService : Merges mergeService fun o => (o.annotations, exposedPorts o) where
  view_merge a b := by
    unfold mergeService
    split_ifs with h
    · obtain ⟨hannotations, hports⟩ := (compareServices_iff a b).1 h
      rw [hannotations, hports]
    · rfl
  merge_of_view a b h := if_pos ((compareServices_iff a b).2 (Prod.mk.inj h))
  ownerReferences_merge a b := by
    unfold mergeService
    split_ifs <;> rfl
  view_owned _ _ := rfl

theorem merges_mergeDeployment :
    Merges mergeDeployment fun o => (openPorts o, o.spec.replicas) where
  view_merge a b := by
    unfold mergeDeployment
    split_ifs with h
    · obtain ⟨hports, hreplicas⟩ := (compareDeployments_iff a b).1 h
      rw [hports, hreplicas]
    · rfl
  merge_of_view a b h := if_pos ((compareDeployments_iff a b).2 (Prod.mk.inj h))
  ownerReferences_merge a b := by
    unfold mergeDeployment
    split_ifs <;> rfl
  view_owned _ _ := rfl

end V1alpha1

/-! ### The deployer -/

namespace Reconciler

open K8s V1alpha1 Builder Shared ObjectStore

/-- An error wrapped with `%w`. -/
def wrapped (text : String) (err : Failure) : Failure :=
  { err with message := text ++ ": " ++ err.message }

section

variable (server : Server)

def getDeployment (key : NamespacedName) : Program Cluster Failure (Option Deployment) := do
  let o ← ((server.resource .deployment).get key).mapError newK8sError
  return o.map Versioned.value

/-- `CreateOrUpdateDeployment`, `CreateOrUpdateSecret`, `CreateOrUpdateService` and `EnsureExists`:
whether anything was written. -/
def createOrUpdateObject (kind : Kind) (key : NamespacedName) (obj : Object kind.Spec)
    (mutator : Object kind.Spec → Except Failure (Object kind.Spec)) :
    Program Cluster Failure Bool := do
  let operation ← (createOrUpdate (server.resource kind) key obj mutator).mapError newK8sError
  return operation ≠ .none

def setControllerOwnership {S : Type} (gateway : DeployedGateway) (o : Object S) :
    Except Failure (Object S) := (setControllerReference gateway o).mapError newK8sError

/-- What the mutators of the deployer do: merge, and then take the object over. -/
def mergeOwned {S : Type} (gateway : DeployedGateway) (merge : Object S → Object S → Object S)
    (desired mutated : Object S) : Except Failure (Object S) :=
  setControllerOwnership gateway (merge desired mutated)

def createOrUpdateDeployment (gateway : DeployedGateway) (deployment : Deployment) :
    Program Cluster Failure Bool :=
  createOrUpdateObject server .deployment gateway.namespacedName deployment
    (mergeOwned gateway mergeDeployment deployment)

def createOrUpdateSecret (gateway : DeployedGateway) (secret : Secret) :
    Program Cluster Failure Bool :=
  createOrUpdateObject server .secret gateway.namespacedName secret
    (mergeOwned gateway mergeSecret secret)

def createOrUpdateService (gateway : DeployedGateway) (service : K8s.Service) :
    Program Cluster Failure Bool :=
  createOrUpdateObject server .service gateway.namespacedName service
    (mergeOwned gateway mergeService service)

/-- An object that exists is left as it is, whoever owns it. -/
def ensureExists (kind : Kind) (key : NamespacedName) (obj : Object kind.Spec) :
    Program Cluster Failure Bool :=
  createOrUpdateObject server kind key obj .ok

def notOwned : Failure := ⟨false, "service account not owned by the gateway"⟩

/-- One of the owners of the object is the gateway. -/
def ownedByGateway {S : Type} (owner : DeployedGateway) (o : Object S) : Bool :=
  o.ownerReferences.any fun ref => ref.uid = owner.uid ∧ ref.name = owner.name

/-- `gatewayclient.EnsureServiceAccount` -/
def ensureAccount (owner : DeployedGateway) (serviceAccount : ServiceAccount) :
    Program Cluster Failure Unit := do
  match ← ((server.resource .serviceAccount).get owner.namespacedName).mapError newK8sError with
  | none =>
    let owned ← Program.ofExcept (setControllerOwnership owner serviceAccount)
    ((server.resource .serviceAccount).create owner.namespacedName owned).mapError newK8sError
  | some created =>
    if ownedByGateway owner created.value then return ()
    -- we found the object, but we're not the owner of it
    else Program.throw notOwned

end

structure GatewayDeployer where
  consulCA : String
  primaryDatacenter : String
  sdsHost : String
  sdsPort : ℤ
  consulNamespaceMirroring : Bool
  partitionInfo : Consul.PartitionInfo
  /-- The environment of the controller. -/
  getenv : String → String

namespace GatewayDeployer

variable (d : GatewayDeployer) (server : Server) (consulNamespace : String)
  (config : GatewayClassConfigSpec) (gateway : DeployedGateway)

def builder : GatewayDeploymentBuilder where
  gateway := gateway
  gwConfig := config
  sdsHost := d.sdsHost
  sdsPort := d.sdsPort
  consulCAData := d.consulCA
  consulGatewayNamespace := consulNamespace
  consulPrimaryDatacenter := d.primaryDatacenter
  getenv := d.getenv

def secret : Secret where
  labels := labelsForGateway gateway
  spec := (∅ : GoMap String String).insert "consul-ca-cert" d.consulCA

def ensureNamespace : Program Cluster Failure Unit := do
  if d.consulNamespaceMirroring then
    let _ ← Consul.ensureNamespaceExists Cluster.registry gateway.namespace_ d.partitionInfo
    return ()
  else return ()

def ensureRoleBinding : Program Cluster Failure Unit :=
  match config.roleBindingFor gateway with
  | none => pure ()
  | some binding => do
    let _ ← ensureExists server .roleBinding gateway.namespacedName binding
    return ()

def ensureRole : Program Cluster Failure Unit :=
  match config.roleFor gateway with
  | none => pure ()
  | some role => do
    let _ ← ensureExists server .role gateway.namespacedName role
    ensureRoleBinding server config gateway

def ensureServiceAccount : Program Cluster Failure Unit :=
  match config.serviceAccountFor gateway with
  | none => pure ()
  | some serviceAccount => do
    ensureAccount server gateway serviceAccount
    ensureRole server config gateway

def ensureSecret : Program Cluster Failure Unit :=
  -- Only deploy the Secret if the config requires CA
  if config.consulSpec.scheme ≠ "https" then pure ()
  else do
    let _ ← (createOrUpdateSecret server gateway (d.secret gateway)).mapError
      (wrapped "failed to create or update gateway secret")
    return ()

def ensureDeployment : Program Cluster Failure Unit := do
  -- get current deployment so user set replica count isn't overridden by default values
  let currentDeployment ← getDeployment server gateway.namespacedName
  let currentReplicas := currentDeployment.map fun deployment => deployment.spec.replicas
  let _ ← (createOrUpdateDeployment server gateway
    ((d.builder consulNamespace config gateway).build currentReplicas)).mapError
      (wrapped "failed to create or update gateway deployment")
  return ()

def ensureService : Program Cluster Failure Unit :=
  match buildService gateway config with
  | none => pure ()
  | some service => do
    let _ ← (createOrUpdateService server gateway service).mapError
      (wrapped "failed to create or update gateway service")
    return ()

def deploy : Program Cluster Failure Unit := do
  d.ensureNamespace gateway
  ensureServiceAccount server config gateway
  d.ensureSecret server config gateway
  d.ensureDeployment server consulNamespace config gateway
  ensureService server config gateway

end GatewayDeployer

/-! ### What the calls write -/

theorem setControllerOwnership_eq_ok {S : Type} {gateway : DeployedGateway} {o o' : Object S} :
    setControllerOwnership gateway o = .ok o' ↔ setControllerReference gateway o = .ok o' := by
  unfold setControllerOwnership
  cases setControllerReference gateway o <;> simp [Except.mapError]

namespace GatewayDeployer

/-- What a call may do to the cluster. -/
structure Allowed (d : GatewayDeployer) (consulNamespace : String) (config : GatewayClassConfigSpec)
    (gateway : DeployedGateway) (s s' : Cluster) : Prop where
  /-- Nothing is written under another name. -/
  elsewhere : ∀ kind key, key ≠ gateway.namespacedName →
    (s'.tables kind).lookup key = (s.tables kind).lookup key
  /-- Nothing that exists in Consul is changed, and no namespace is added but that of the
  gateway. -/
  consul : s.consul.Extends s'.consul
  namespaces : ∀ ns ≠ gateway.namespace_,
    s'.consul.namespaces.lookup ns = s.consul.namespaces.lookup ns
  /-- Nothing is deleted. -/
  kept : ∀ kind, (s.object kind gateway.namespacedName).isSome →
    (s'.object kind gateway.namespacedName).isSome
  /-- An account, a role or a binding is left as it is. -/
  account : ∀ kind ∈ [Kind.serviceAccount, .role, .roleBinding], ∀ o,
    s.object kind gateway.namespacedName = some o → s'.object kind gateway.namespacedName = some o
  /-- So is an object that something else controls. -/
  foreign : ∀ kind o, s.object kind gateway.namespacedName = some o →
    ControlledByOther gateway o.ownerReferences → s'.object kind gateway.namespacedName = some o
  /-- What is written is controlled by the gateway. -/
  owned : ∀ kind ∈ [Kind.deployment, .service, .secret, .serviceAccount], ∀ o,
    s'.object kind gateway.namespacedName = some o → s.object kind gateway.namespacedName = some o ∨
      getControllerOf o.ownerReferences = some (controllerReference gateway)
  /-- A deployment that is written opens the ports of the listeners, and runs as many replicas as
  the class allows. -/
  deployment : ∀ o : Deployment, s'.object .deployment gateway.namespacedName = some o →
    s.object .deployment gateway.namespacedName = some o ∨
      openPorts o = [(20000, "TCP") :: gateway.listeners.map fun l => (l.port, "TCP")] ∧
      ((d.builder consulNamespace config gateway).Bounded →
        (d.builder consulNamespace config gateway).Allows o.spec.replicas)

section

variable {d : GatewayDeployer} {server : Server} {consulNamespace : String}
  {config : GatewayClassConfigSpec} {gateway : DeployedGateway} {s s' : Cluster}

theorem Allowed.refl (s : Cluster) : d.Allowed consulNamespace config gateway s s where
  elsewhere _ _ _ := rfl
  consul := .refl _
  namespaces _ _ := rfl
  kept _ := id
  account _ _ _ := id
  foreign _ _ h _ := h
  owned _ _ _ := .inl
  deployment _ := .inl

/-- What is added to the registry. -/
theorem Allowed.of_adds (h : Consul.Adds Cluster.registry gateway.namespace_ s s') :
    d.Allowed consulNamespace config gateway s s' := by
  rcases h with rfl | ⟨r', hextends, hnamespaces, rfl⟩
  · exact .refl _
  · exact ⟨fun _ _ _ => rfl, hextends, hnamespaces, fun _ => id, fun _ _ _ => id, fun _ _ h _ => h,
      fun _ _ _ => .inl, fun _ => .inl⟩

/-- A write of one object. -/
theorem Allowed.of_put {kind : Kind} {v : Object kind.Spec}
    (haccount : kind ∈ [Kind.serviceAccount, .role, .roleBinding] →
      s.object kind gateway.namespacedName = none)
    (hforeign : ∀ o, s.object kind gateway.namespacedName = some o →
      ¬ ControlledByOther gateway o.ownerReferences)
    (howned : kind ∈ [Kind.deployment, .service, .secret, .serviceAccount] →
      getControllerOf v.ownerReferences = some (controllerReference gateway))
    (hdeployment : ∀ o : Deployment, ((server.resource kind).put gateway.namespacedName v s).object
        .deployment gateway.namespacedName = some o →
      s.object .deployment gateway.namespacedName = some o ∨
        openPorts o = [(20000, "TCP") :: gateway.listeners.map fun l => (l.port, "TCP")] ∧
        ((d.builder consulNamespace config gateway).Bounded →
          (d.builder consulNamespace config gateway).Allows o.spec.replicas)) :
    d.Allowed consulNamespace config gateway s
      ((server.resource kind).put gateway.namespacedName v s) := by
  -- each clause is about one kind: the one that is written, or another
  refine ⟨fun kind' key hkey => lookup_put_of_ne hkey, .refl _, fun _ _ => rfl, ?_, ?_, ?_, ?_,
    hdeployment⟩
  · intro kind' h
    by_cases hkind : kind' = kind
    · subst hkind
      rw [object_put_self]
      rfl
    · rwa [object_put_of_ne hkind]
  · intro kind' hmem o ho
    by_cases hkind : kind' = kind
    · subst hkind
      rw [haccount hmem] at ho
      cases ho
    · rwa [object_put_of_ne hkind]
  · intro kind' o ho hother
    by_cases hkind : kind' = kind
    · subst hkind
      exact absurd hother (hforeign o ho)
    · rwa [object_put_of_ne hkind]
  · intro kind' hmem o ho
    by_cases hkind : kind' = kind
    · subst hkind
      rw [object_put_self] at ho
      cases ho
      exact .inr (by rw [server.ownerReferences_admit, howned hmem])
    · exact .inl (by rwa [object_put_of_ne hkind] at ho)

/-- The deployment is not concerned by a write of another kind. -/
theorem deployment_of_put {kind : Kind} {v : Object kind.Spec} {o : Deployment} {p : Prop}
    (hkind : kind ≠ .deployment) (h : ((server.resource kind).put gateway.namespacedName v s).object
      .deployment gateway.namespacedName = some o) :
    s.object .deployment gateway.namespacedName = some o ∨ p :=
  .inl (by rwa [object_put_of_ne hkind.symm] at h)

/-- A write that merges and takes over. -/
theorem Allowed.of_stores {kind : Kind} {A : Type} {desired : Object kind.Spec}
    {merge : Object kind.Spec → Object kind.Spec → Object kind.Spec} {view : Object kind.Spec → A}
    (hmerges : Merges merge view) (hkind : kind ∈ [Kind.deployment, .service, .secret])
    (hdeployment : ∀ v, view v = view desired → ∀ o : Deployment,
      ((server.resource kind).put gateway.namespacedName v s).object
        .deployment gateway.namespacedName = some o →
      s.object .deployment gateway.namespacedName = some o ∨
        openPorts o = [(20000, "TCP") :: gateway.listeners.map fun l => (l.port, "TCP")] ∧
        ((d.builder consulNamespace config gateway).Bounded →
          (d.builder consulNamespace config gateway).Allows o.spec.replicas))
    (h : Stores (server.resource kind) gateway.namespacedName desired
      (mergeOwned gateway merge desired) s s') : d.Allowed consulNamespace config gateway s s' := by
  obtain ⟨v, hv, -, rfl⟩ := h
  rw [mergeOwned, setControllerOwnership_eq_ok, setControllerReference_eq_ok,
    hmerges.ownerReferences_merge] at hv
  obtain ⟨hnot, rfl⟩ := hv
  refine .of_put ?_ ?_ ?_ (hdeployment _ ?_)
  · intro haccount
    simp only [List.mem_cons, List.not_mem_nil, or_false] at hkind haccount
    rcases hkind with rfl | rfl | rfl <;> simp at haccount
  · intro o ho
    change ((server.resource kind).table s).value _ = _ at ho
    rwa [ho] at hnot
  · intro _
    exact getControllerOf_upsertOwnerRef hnot
  · rw [hmerges.view_owned, hmerges.view_merge]

theorem openPorts_build (b : GatewayDeploymentBuilder) (currentReplicas : Option ℤ) :
    openPorts (b.build currentReplicas) =
      [(20000, "TCP") :: b.gateway.listeners.map fun l => (l.port, "TCP")] := by
  simp [openPorts, GatewayDeploymentBuilder.build, GatewayDeploymentBuilder.podSpec,
    GatewayDeploymentBuilder.containerPorts]

/-- The server leaves alone what the builder has set. -/
theorem view_admit_deployment {o : Deployment} {b : GatewayDeploymentBuilder}
    {currentReplicas : Option ℤ}
    (h : (openPorts o, o.spec.replicas) =
      (openPorts (b.build currentReplicas), (b.build currentReplicas).spec.replicas)) :
    (openPorts (server.admitted .deployment o), (server.admitted .deployment o).spec.replicas) =
      (openPorts (b.build currentReplicas), (b.build currentReplicas).spec.replicas) := by
  obtain ⟨hports, hreplicas⟩ := Prod.mk.inj h
  have hexplicit : ∀ ports ∈ openPorts o, ∀ p ∈ ports, p.2 ≠ "" := by
    rw [hports, openPorts_build]
    intro ports hmem p hp
    cases List.mem_singleton.1 hmem
    rcases List.mem_cons.1 hp with rfl | hp
    · simp
    · obtain ⟨l, -, rfl⟩ := List.mem_map.1 hp
      simp
  rw [server.openPorts_admit o hexplicit, server.replicas_admit, hports, hreplicas]

variable {R : Cluster → Cluster → Prop}

theorem createOrUpdateObject_guarantees {kind : Kind} {key : NamespacedName}
    {obj : Object kind.Spec}
    {mutator : Object kind.Spec → Except Failure (Object kind.Spec)} {G : Cluster → Cluster → Prop}
    (hR : ∀ s s', R s s' → s.Grows s') (hrefl : ∀ s, G s s)
    (hG : ∀ s s', Stores (server.resource kind) key obj mutator s s' → G s s') :
    Guarantees R G (createOrUpdateObject server kind key obj mutator) := by
  have hgrows : ∀ s s', R s s' →
      ((server.resource kind).table s).Grows ((server.resource kind).table s') :=
    fun s s' h => hR s s' h kind
  exact ((createOrUpdate_guarantees hgrows hrefl hG).mapError _).bind fun _ => guarantees_pure _

theorem createOrUpdateDeployment_guarantees (hR : ∀ s s', R s s' → s.Grows s')
    (currentReplicas : Option ℤ) :
    Guarantees R (d.Allowed consulNamespace config gateway) (createOrUpdateDeployment server gateway
      ((d.builder consulNamespace config gateway).build currentReplicas)) := by
  refine createOrUpdateObject_guarantees hR .refl fun s s' =>
    .of_stores merges_mergeDeployment (by simp) fun v hv o ho => ?_
  rw [object_put_self] at ho
  cases ho
  obtain ⟨hports, hreplicas⟩ := Prod.mk.inj (view_admit_deployment hv)
  refine .inr ⟨hports.trans (openPorts_build _ _), fun hbounded => ?_⟩
  rw [hreplicas]
  exact GatewayDeploymentBuilder.instances_allowed hbounded _

theorem createOrUpdateSecret_guarantees (hR : ∀ s s', R s s' → s.Grows s') (desired : Secret) :
    Guarantees R (d.Allowed consulNamespace config gateway)
      (createOrUpdateSecret server gateway desired) :=
  createOrUpdateObject_guarantees hR .refl fun _ _ =>
    .of_stores merges_mergeSecret (by simp) fun _ _ _ => deployment_of_put (by simp)

theorem createOrUpdateService_guarantees (hR : ∀ s s', R s s' → s.Grows s')
    (desired : K8s.Service) :
    Guarantees R (d.Allowed consulNamespace config gateway)
      (createOrUpdateService server gateway desired) :=
  createOrUpdateObject_guarantees hR .refl fun _ _ =>
    .of_stores merges_mergeService (by simp) fun _ _ _ => deployment_of_put (by simp)

/-- A role or a binding is only written where there is none. -/
theorem ensureExists_guarantees (kind : Kind) (hkind : kind ∈ [Kind.role, .roleBinding])
    (hR : ∀ s s', R s s' → s.Grows s') (obj : Object kind.Spec) :
    Guarantees R (d.Allowed consulNamespace config gateway)
      (ensureExists server kind gateway.namespacedName obj) := by
  refine createOrUpdateObject_guarantees hR .refl fun s s' h => ?_
  obtain ⟨v, hv, hne, rfl⟩ := h
  have hnone : s.object kind gateway.namespacedName = none := by
    by_contra hsome
    obtain ⟨o, ho⟩ := Option.ne_none_iff_exists'.1 hsome
    change ((server.resource kind).table s).value _ = _ at ho
    rw [ho] at hv hne
    exact hne (congrArg some (Except.ok.inj hv))
  refine .of_put (fun _ => hnone) (fun o ho => ?_) (fun howned => ?_) fun _ =>
    deployment_of_put ?_
  · rw [hnone] at ho
    cases ho
  · simp only [List.mem_cons, List.not_mem_nil, or_false] at hkind howned
    rcases hkind with rfl | rfl <;> simp at howned
  · rintro rfl
    simp at hkind

theorem ensureAccount_guarantees (serviceAccount : ServiceAccount) :
    Guarantees R (d.Allowed consulNamespace config gateway)
      (ensureAccount server gateway serviceAccount) := by
  refine ((guarantees_get .refl).mapError _).bind fun o => ?_
  cases o with
  | none =>
    refine guarantees_ofExcept_bind fun owned howned => .mapError (guarantees_create .refl ?_) _
    intro s hs
    have hnone : s.object .serviceAccount gateway.namespacedName = none := by
      change ((server.resource .serviceAccount).table s).value _ = _
      rw [Table.value, hs]
      rfl
    rw [setControllerOwnership_eq_ok, setControllerReference_eq_ok] at howned
    obtain ⟨hnot, rfl⟩ := howned
    refine .of_put (fun _ => hnone) (fun o ho => ?_) (fun _ => getControllerOf_upsertOwnerRef hnot)
      fun _ => deployment_of_put (by simp)
    rw [hnone] at ho
    cases ho
  | some o =>
    dsimp only
    split_ifs
    · exact guarantees_pure _
    · exact guarantees_throw _

theorem ensureNamespace_guarantees :
    Guarantees R (d.Allowed consulNamespace config gateway) (d.ensureNamespace gateway) := by
  unfold ensureNamespace
  split_ifs
  · exact ((Consul.ensureNamespaceExists_guarantees _ _).mono fun _ _ => .of_adds).bind fun _ =>
      guarantees_pure _
  · exact guarantees_pure _

theorem ensureServiceAccount_guarantees (hR : ∀ s s', R s s' → s.Grows s') :
    Guarantees R (d.Allowed consulNamespace config gateway)
      (ensureServiceAccount server config gateway) := by
  unfold ensureServiceAccount ensureRole ensureRoleBinding
  cases config.serviceAccountFor gateway with
  | none => exact guarantees_pure _
  | some serviceAccount =>
    refine (ensureAccount_guarantees serviceAccount).bind fun _ => ?_
    cases config.roleFor gateway with
    | none => exact guarantees_pure _
    | some role =>
      refine (ensureExists_guarantees .role (by simp) hR role).bind fun _ => ?_
      cases config.roleBindingFor gateway with
      | none => exact guarantees_pure _
      | some binding =>
        exact (ensureExists_guarantees .roleBinding (by simp) hR binding).bind
          fun _ => guarantees_pure _

theorem ensureSecret_guarantees (hR : ∀ s s', R s s' → s.Grows s') :
    Guarantees R (d.Allowed consulNamespace config gateway)
      (d.ensureSecret server config gateway) := by
  unfold ensureSecret
  split_ifs
  · exact guarantees_pure _
  · exact ((createOrUpdateSecret_guarantees hR _).mapError _).bind fun _ => guarantees_pure _

theorem ensureDeployment_guarantees (hR : ∀ s s', R s s' → s.Grows s') :
    Guarantees R (d.Allowed consulNamespace config gateway)
      (d.ensureDeployment server consulNamespace config gateway) := by
  have hget : Guarantees R (d.Allowed consulNamespace config gateway)
      (getDeployment server gateway.namespacedName) :=
    ((guarantees_get .refl).mapError _).bind fun _ => guarantees_pure _
  exact hget.bind fun _ => ((createOrUpdateDeployment_guarantees hR _).mapError _).bind fun _ =>
    guarantees_pure _

theorem ensureService_guarantees (hR : ∀ s s', R s s' → s.Grows s') :
    Guarantees R (d.Allowed consulNamespace config gateway)
      (ensureService server config gateway) := by
  unfold ensureService
  cases buildService gateway config with
  | none => exact guarantees_pure _
  | some service =>
    exact ((createOrUpdateService_guarantees hR service).mapError _).bind fun _ => guarantees_pure _

theorem deploy_allowed (hR : ∀ s s', R s s' → s.Grows s') :
    Guarantees R (d.Allowed consulNamespace config gateway)
      (d.deploy server consulNamespace config gateway) :=
  ensureNamespace_guarantees.bind fun _ => (ensureServiceAccount_guarantees hR).bind fun _ =>
    (ensureSecret_guarantees hR).bind fun _ => (ensureDeployment_guarantees hR).bind fun _ =>
      ensureService_guarantees hR

end

/-- **What a deployment of a gateway does to the cluster**, whatever happens around it. -/
theorem deploy_guarantees (d : GatewayDeployer) (server : Server) (consulNamespace : String)
    (config : GatewayClassConfigSpec) (gateway : DeployedGateway) :
    Guarantees Cluster.Grows (d.Allowed consulNamespace config gateway)
      (d.deploy server consulNamespace config gateway) :=
  deploy_allowed fun _ _ h => h

namespace SampleDeployment

/-- A server that stores what it is given. -/
def server : Server where
  admitted _ o := o
  refuse _ _ := ⟨true, "refused"⟩
  ownerReferences_admit _ _ := rfl
  annotations_admit _ _ := rfl
  replicas_admit _ := rfl
  openPorts_admit _ _ := rfl
  exposedPorts_admit _ _ := rfl
  data_admit _ := rfl

/-- A certificate, as far as its encoding goes. -/
def certificate : String :=
  "-----BEGIN CERTIFICATE-----\nMIIB\n-----END CERTIFICATE-----\n"

def deployer : GatewayDeployer where
  consulCA := certificate
  primaryDatacenter := ""
  sdsHost := "controller"
  sdsPort := 9090
  consulNamespaceMirroring := true
  partitionInfo := {}
  getenv _ := ""

def config : GatewayClassConfigSpec where
  serviceType := some .loadBalancer
  consulSpec := { scheme := "https", authSpec := { managed := true, podSecurityPolicy := "psp" } }
  deploymentSpec := { minInstances := some 1, maxInstances := some 5 }

def gateway : DeployedGateway where
  groupKind := gatewayGroupKind
  name := "gateway"
  namespace_ := "team"
  listeners := [{ name := "http", port := 80, protocol := .http }]
  uid := "1"
  creationTimestamp := 7

def cluster : Cluster where
  tables _ := Table.empty
  consul := ⟨∅, ∅, by simp⟩

end SampleDeployment

end GatewayDeployer

end Reconciler
