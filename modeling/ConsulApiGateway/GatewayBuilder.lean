/-
The objects that are deployed for a gateway (`internal/k8s/builder`, with the labels of
`internal/k8s/utils/labels.go` and the objects and merges of `pkg/apis/v1alpha1/types.go`).

A gateway runs as a Deployment, behind a Service if its class asks for one, as a service account
with a role if its class manages accounts, and with the certificate authority of Consul in a
Secret if Consul is reached over TLS.  The objects are built from the Gateway and the
configuration of its class, and merged onto those that the cluster has already.  The cluster
fills in defaults and others change fields, so a merge only looks at what the builder may change:
the ports, the number of replicas, the annotations and the data.

* `gatewayByLabels_labelsForGateway`, `isManagedGateway_labelsForGateway` — the labels lead back
  to the gateway;
* `instances_allowed`, `instances_of_allowed`, `instances_instances` — the number of replicas;
* `compareDeployments_iff`, `compareServices_iff`, `compareSecrets_iff` — what a merge compares.
-/
import ConsulApiGateway.CommandLine
import ConsulApiGateway.Validator

open CommandLine (itoa)

/-! ### Objects -/

namespace K8s

/-- A Gateway with the rest of its metadata: `creationTimestamp` counts seconds. -/
structure DeployedGateway extends Gateway where
  uid : String
  creationTimestamp : ℤ

/-- `metav1.OwnerReference`: its API version is the group and the version. -/
structure OwnerReference where
  groupKind : GroupKind
  version : String
  name : String
  uid : String
  controller : Bool
  blockOwnerDeletion : Bool
  deriving DecidableEq

/-- An object of the cluster.  It is kept under its namespace and name. -/
structure Object (S : Type) where
  labels : GoMap String String
  annotations : GoMap String String := ∅
  ownerReferences : List OwnerReference := []
  spec : S
  deriving DecidableEq

structure ContainerPort where
  name : String
  protocol : String
  containerPort : ℤ
  hostPort : ℤ := 0
  deriving DecidableEq

/-- The value of a variable: a text, or a field of the pod. -/
inductive EnvVarSource
  | value (text : String)
  | fieldRef (fieldPath : String)
  deriving DecidableEq

structure EnvVar where
  name : String
  source : EnvVarSource
  deriving DecidableEq

structure VolumeMount where
  name : String
  mountPath : String
  deriving DecidableEq

inductive VolumeSource
  | emptyDir
  -- a secret, with the keys that become files
  | secret (secretName : String) (items : List (String × String)) (optional : Bool)
  deriving DecidableEq

structure Volume where
  name : String
  source : VolumeSource
  deriving DecidableEq

structure HTTPGetAction where
  path : String
  port : ℤ
  deriving DecidableEq

structure Container where
  image : String
  name : String
  volumeMounts : List VolumeMount
  command : List String
  args : List String := []
  env : List EnvVar := []
  ports : List ContainerPort := []
  readinessProbe : Option HTTPGetAction := none
  deriving DecidableEq

/-- A preference to keep pods with these labels on different hosts. -/
structure WeightedPodAffinityTerm where
  weight : ℤ
  matchLabels : GoMap String String
  topologyKey : String
  deriving DecidableEq

structure PodSpec where
  antiAffinity : List WeightedPodAffinityTerm
  nodeSelector : GoMap String String
  tolerations : List V1alpha1.Toleration
  serviceAccountName : String
  initContainers : List Container
  containers : List Container
  volumes : List Volume
  deriving DecidableEq

structure PodTemplateSpec where
  labels : GoMap String String
  annotations : GoMap String String
  spec : PodSpec
  deriving DecidableEq

/-- The builder sets the number of replicas, and the server does if it is missing. -/
structure DeploymentSpec where
  replicas : ℤ
  matchLabels : GoMap String String
  template : PodTemplateSpec
  deriving DecidableEq

structure ServicePort where
  name : String
  protocol : String
  port : ℤ
  deriving DecidableEq

structure ServiceSpec where
  selector : GoMap String String
  type : V1alpha1.ServiceType
  ports : List ServicePort
  deriving DecidableEq

structure PolicyRule where
  apiGroups : List String
  resources : List String
  resourceNames : List String
  verbs : List String
  deriving DecidableEq

/-- The role a binding refers to, and the service accounts it is for. -/
structure RoleBindingSpec where
  roleRef : GroupKind × String
  subjects : List NamespacedName
  deriving DecidableEq

abbrev Deployment := Object DeploymentSpec
abbrev Service := Object ServiceSpec
/-- The data of a secret. -/
abbrev Secret := Object (GoMap String String)
abbrev ServiceAccount := Object Unit
abbrev Role := Object (List PolicyRule)
abbrev RoleBinding := Object RoleBindingSpec

/-! ### Labels -/

def managedLabel : String := "api-gateway.consul.hashicorp.com/managed"
def nameLabel : String := "api-gateway.consul.hashicorp.com/name"
def namespaceLabel : String := "api-gateway.consul.hashicorp.com/namespace"
def createdAtLabel : String := "api-gateway.consul.hashicorp.com/created"

def labelsForGateway (gw : DeployedGateway) : GoMap String String :=
  GoMap.insertAll ∅ [(nameLabel, gw.name), (namespaceLabel, gw.namespace_),
    (createdAtLabel, itoa gw.creationTimestamp), (managedLabel, "true")]

def gatewayByLabels (labels : GoMap String String) : NamespacedName where
  name := (labels.lookup nameLabel).getD ""
  namespace_ := (labels.lookup namespaceLabel).getD ""

/-- The name of the gateway that an object with these labels belongs to. -/
def isManagedGateway (labels : GoMap String String) : Option String :=
  if labels.lookup managedLabel = some "true" then labels.lookup nameLabel else none

/-- The labels of a gateway, each with its value. -/
theorem lookup_labelsForGateway (gw : DeployedGateway) :
    (labelsForGateway gw).lookup nameLabel = some gw.name ∧
      (labelsForGateway gw).lookup namespaceLabel = some gw.namespace_ ∧
      (labelsForGateway gw).lookup managedLabel = some "true" := by
  have hlookup : ∀ p ∈ [(nameLabel, gw.name), (namespaceLabel, gw.namespace_),
      (createdAtLabel, itoa gw.creationTimestamp), (managedLabel, "true")],
      (labelsForGateway gw).lookup p.1 = some p.2 := fun p hp =>
    GoMap.lookup_insertAll_of_mem
      (by simp [nameLabel, namespaceLabel, createdAtLabel, managedLabel]) hp ∅
  simp only [List.forall_mem_cons] at hlookup
  exact ⟨hlookup.1, hlookup.2.1, hlookup.2.2.2.1⟩

theorem gatewayByLabels_labelsForGateway (gw : DeployedGateway) :
    gatewayByLabels (labelsForGateway gw) = gw.namespacedName := by
  obtain ⟨hname, hnamespace, -⟩ := lookup_labelsForGateway gw
  rw [gatewayByLabels, hname, hnamespace]
  rfl

theorem isManagedGateway_labelsForGateway (gw : DeployedGateway) :
    isManagedGateway (labelsForGateway gw) = some gw.name := by
  obtain ⟨hname, -, hmanaged⟩ := lookup_labelsForGateway gw
  rw [isManagedGateway, if_pos hmanaged, hname]

end K8s

namespace Builder

open K8s V1alpha1

/-! ### Defaults -/

def defaultServiceAnnotations : List String := ["external-dns.alpha.kubernetes.io/hostname"]

def defaultImage : String := "hashicorp/consul-api-gateway:0.6.0-dev"
def defaultEnvoyImage : String := "envoyproxy/envoy:v1.24-latest"
def defaultLogLevel : String := "info"
def defaultConsulAddress : String := "$(HOST_IP)"
def defaultConsulHTTPPort : String := "8500"
def defaultConsulXDSPort : String := "8502"
def defaultInstances : ℤ := 1
def consulCALocalPath : String := "/consul/tls"
def consulCAFilename : String := "ca.pem"
def consulCALocalFile : String := "/consul/tls/ca.pem"
def k8sHostnameTopologyKey : String := "kubernetes.io/hostname"

def orDefault (value defaultValue : String) : String := if value ≠ "" then value else defaultValue

def orDefaultIntString (value : ℤ) (defaultValue : String) : String :=
  if value ≠ 0 then itoa value else defaultValue

/-! ### The service -/

/-- The annotations that are allowed, in the order in which they are allowed. -/
def filterAnnotations (annotations : GoMap String String) (allowed : List String) :
    GoMap String String :=
  GoMap.insertAll ∅ (allowed.filterMap fun key =>
    (annotations.lookup key).map fun value => (key, value))

def servicePorts (gateway : Gateway) : List ServicePort :=
  gateway.listeners.map fun listener => ⟨listener.name, "TCP", listener.port⟩

/-- The service of a gateway, if its class has one. -/
def buildService (gateway : DeployedGateway) (gwConfig : GatewayClassConfigSpec) : Option Service :=
  gwConfig.serviceType.map fun serviceType =>
    { labels := labelsForGateway gateway
      annotations := filterAnnotations gateway.annotations
        (gwConfig.copyAnnotations.service.getD defaultServiceAnnotations)
      spec :=
        { selector := labelsForGateway gateway
          type := serviceType
          ports := servicePorts gateway.toGateway } }

/-! ### The deployment -/

structure GatewayDeploymentBuilder where
  gateway : DeployedGateway
  gwConfig : GatewayClassConfigSpec
  sdsHost : String
  sdsPort : ℤ
  consulCAData : String
  consulGatewayNamespace : String
  consulPrimaryDatacenter : String
  /-- The environment of the controller. -/
  getenv : String → String

namespace GatewayDeploymentBuilder

variable (b : GatewayDeploymentBuilder)

def requiresCA : Bool := b.gwConfig.consulSpec.scheme = "https"

/-- Over the maximum, the number is lowered to the maximum. -/
def lower (instanceValue : ℤ) : Option ℤ → ℤ
  | some maxValue => if maxValue < instanceValue then maxValue else instanceValue
  | none => instanceValue

/-- Under the minimum, the number is raised to the minimum. -/
def raise (instanceValue : ℤ) : Option ℤ → ℤ
  | some minValue => if instanceValue < minValue then minValue else instanceValue
  | none => instanceValue

/-- The number of replicas: the current one if there is one and the default of the class
otherwise, within the bounds of the class. -/
def instances (currentReplicas : Option ℤ) : ℤ :=
  raise
    (lower (currentReplicas.getD (b.gwConfig.deploymentSpec.defaultInstances.getD defaultInstances))
      b.gwConfig.deploymentSpec.maxInstances)
    b.gwConfig.deploymentSpec.minInstances

/-- The lines of `gwContainerArgsTpl`, which the template joins. -/
def argLines : List String :=
  ["-log-json", "-log-level", orDefault b.gwConfig.logLevel defaultLogLevel,
    "-gateway-host", "$(IP)", "-gateway-name", b.gateway.name] ++
  (if b.consulGatewayNamespace ≠ "" then ["-gateway-namespace", b.consulGatewayNamespace]
    else []) ++
  ["-consul-http-address", orDefault b.gwConfig.consulSpec.address defaultConsulAddress,
    "-consul-http-port",
    orDefaultIntString b.gwConfig.consulSpec.portSpec.http defaultConsulHTTPPort,
    "-consul-xds-port",
    orDefaultIntString b.gwConfig.consulSpec.portSpec.grpc defaultConsulXDSPort] ++
  (if b.gwConfig.consulSpec.authSpec.method ≠ "" then
    ["-acl-auth-method", b.gwConfig.consulSpec.authSpec.method] else []) ++
  (if b.consulPrimaryDatacenter ≠ "" then
    ["-consul-primary-datacenter", b.consulPrimaryDatacenter] else []) ++
  ["-envoy-bootstrap-path", "/bootstrap/envoy.json", "-envoy-sds-address", b.sdsHost,
    "-envoy-sds-port", itoa b.sdsPort]

/-- The rendered template is split into lines again, wherever they come from. -/
def execArgs : List String := GoStd.split ("\n".intercalate b.argLines) '\n'

def envVars : List EnvVar :=
  [⟨"IP", .fieldRef "status.podIP"⟩, ⟨"HOST_IP", .fieldRef "status.hostIP"⟩,
    ⟨"CONSUL_LOGIN_PARTITION", .value (b.getenv "CONSUL_LOGIN_PARTITION")⟩,
    ⟨"CONSUL_LOGIN_DATACENTER", .value (b.getenv "CONSUL_LOGIN_DATACENTER")⟩,
    ⟨"CONSUL_DYNAMIC_SERVER_DISCOVERY", .value (b.getenv "CONSUL_DYNAMIC_SERVER_DISCOVERY")⟩,
    ⟨"CONSUL_PARTITION",
      .value (orDefault b.gwConfig.consulSpec.partition (b.getenv "CONSUL_PARTITION"))⟩,
    ⟨"CONSUL_TLS_SERVER_NAME",
      .value (orDefault b.gwConfig.consulSpec.serverName (b.getenv "CONSUL_TLS_SERVER_NAME"))⟩,
    ⟨"PATH", .value "/:/sbin:/bin:/usr/bin:/usr/local/bin:/bootstrap"⟩] ++
  (if b.requiresCA then [⟨"CONSUL_CACERT", .value consulCALocalFile⟩] else [])

def volumes : List Volume :=
  [⟨"bootstrap", .emptyDir⟩, ⟨"certs", .emptyDir⟩] ++
  (if b.requiresCA then
    [⟨"ca", .secret b.gateway.name [("consul-ca-cert", consulCAFilename)] false⟩] else [])

def mounts : List VolumeMount :=
  [⟨"bootstrap", "/bootstrap"⟩, ⟨"certs", "/certs"⟩] ++
  (if b.requiresCA then [⟨"ca", consulCALocalPath⟩] else [])

def containerPorts : List ContainerPort :=
  ⟨"ready", "TCP", 20000, 0⟩ :: b.gateway.listeners.map fun listener =>
    ⟨listener.name, "TCP", listener.port, if b.gwConfig.useHostPorts then listener.port else 0⟩

def podSpec : PodSpec where
  antiAffinity := [⟨1, labelsForGateway b.gateway, k8sHostnameTopologyKey⟩]
  nodeSelector := b.gwConfig.nodeSelector
  tolerations := b.gwConfig.tolerations
  serviceAccountName := orDefault b.gwConfig.consulSpec.authSpec.account
    (if b.gwConfig.consulSpec.authSpec.managed then b.gateway.name else "")
  initContainers :=
    [{ image := orDefault b.gwConfig.imageSpec.consulAPIGateway defaultImage
       name := "consul-api-gateway-init"
       volumeMounts := b.mounts
       command := ["cp", "/bin/discover", "/bin/consul-api-gateway", "/bootstrap/"] }]
  containers :=
    [{ image := orDefault b.gwConfig.imageSpec.envoy defaultEnvoyImage
       name := "consul-api-gateway"
       volumeMounts := b.mounts
       ports := b.containerPorts
       env := b.envVars
       command := ["/bootstrap/consul-api-gateway", "exec"]
       args := b.execArgs
       readinessProbe := some ⟨"/ready", 20000⟩ }]
  volumes := b.volumes

def build (currentReplicas : Option ℤ) : Deployment where
  labels := labelsForGateway b.gateway
  spec :=
    { replicas := b.instances currentReplicas
      matchLabels := labelsForGateway b.gateway
      template :=
        { labels := labelsForGateway b.gateway
          annotations :=
            (∅ : GoMap String String).insert "consul.hashicorp.com/connect-inject" "false"
          spec := b.podSpec } }

/-! ### The number of replicas -/

/-- The bounds of the class do not contradict each other. -/
def Bounded : Prop :=
  ∀ minValue maxValue, b.gwConfig.deploymentSpec.minInstances = some minValue →
    b.gwConfig.deploymentSpec.maxInstances = some maxValue → minValue ≤ maxValue

/-- The number is one that the class allows. -/
def Allows (replicas : ℤ) : Prop :=
  (∀ minValue, b.gwConfig.deploymentSpec.minInstances = some minValue → minValue ≤ replicas) ∧
    ∀ maxValue, b.gwConfig.deploymentSpec.maxInstances = some maxValue → replicas ≤ maxValue

variable {b}

/-- The bounds are respected if they can be. -/
theorem instances_allowed (hb : b.Bounded) (currentReplicas : Option ℤ) :
    b.Allows (b.instances currentReplicas) := by
  unfold instances
  generalize currentReplicas.getD _ = n
  constructor
  · intro minValue hmin
    rw [hmin, raise]
    split_ifs <;> omega
  · intro maxValue hmax
    have hlower : lower n (some maxValue) ≤ maxValue := by
      rw [lower]
      split_ifs <;> omega
    rw [hmax]
    cases hmin : b.gwConfig.deploymentSpec.minInstances with
    | none => exact hlower
    | some minValue =>
      have hle := hb minValue maxValue hmin hmax
      rw [raise]
      split_ifs <;> omega

/-- A number of replicas that the class allows is left as it is. -/
theorem instances_of_allowed {replicas : ℤ} (h : b.Allows replicas) :
    b.instances (some replicas) = replicas := by
  have hlower : lower replicas b.gwConfig.deploymentSpec.maxInstances = replicas := by
    cases hmax : b.gwConfig.deploymentSpec.maxInstances with
    | none => rfl
    | some maxValue => exact if_neg (not_lt.2 (h.2 maxValue hmax))
  rw [instances, Option.getD_some, hlower]
  cases hmin : b.gwConfig.deploymentSpec.minInstances with
  | none => rfl
  | some minValue => exact if_neg (not_lt.2 (h.1 minValue hmin))

/-- What the builder has set it does not change again, even if the bounds contradict each
other. -/
theorem instances_instances (currentReplicas : Option ℤ) :
    b.instances (some (b.instances currentReplicas)) = b.instances currentReplicas := by
  unfold instances
  generalize currentReplicas.getD _ = n
  rw [Option.getD_some]
  cases b.gwConfig.deploymentSpec.maxInstances <;>
    cases b.gwConfig.deploymentSpec.minInstances <;>
    simp only [lower, raise] <;> split_ifs <;> omega

end GatewayDeploymentBuilder

end Builder

/-! ### Merging onto the objects of the cluster -/

namespace V1alpha1

open K8s

def compareSecrets (a b : Secret) : Bool :=
  a.annotations = b.annotations ∧ b.spec.keys.card = a.spec.keys.card ∧
    ∀ k ∈ a.spec.keys, b.spec.lookup k = a.spec.lookup k

def mergeSecret (a b : Secret) : Secret :=
  if compareSecrets a b then b else { b with annotations := a.annotations, spec := a.spec }

/-- The names of the ports are not compared. -/
def compareServices (a b : Service) : Bool :=
  a.annotations = b.annotations ∧
    a.spec.ports.all₂ (fun port otherPort =>
      port.port = otherPort.port ∧ port.protocol = otherPort.protocol) b.spec.ports

/-- The type of the service is left alone. -/
def mergeService (a b : Service) : Service :=
  if compareServices a b then b
  else { b with annotations := a.annotations, spec := { b.spec with ports := a.spec.ports } }

def compareDeployments (a b : Deployment) : Bool :=
  a.spec.template.spec.containers.all₂ (fun container otherContainer =>
      container.ports.all₂ (fun port otherPort =>
        port.containerPort = otherPort.containerPort ∧ port.protocol = otherPort.protocol)
        otherContainer.ports)
      b.spec.template.spec.containers ∧
    b.spec.replicas = a.spec.replicas

def mergeDeployment (a b : Deployment) : Deployment :=
  if compareDeployments a b then b
  else { b with spec :=
    { b.spec with template := a.spec.template, replicas := a.spec.replicas } }

/-- The ports that the containers of a deployment open. -/
def openPorts (d : Deployment) : List (List (ℤ × String)) :=
  d.spec.template.spec.containers.map fun container =>
    container.ports.map fun port => (port.containerPort, port.protocol)

/-- The ports of a service. -/
def exposedPorts (service : Service) : List (ℤ × String) :=
  service.spec.ports.map fun port => (port.port, port.protocol)

theorem all₂_iff_map_eq {α β γ : Type} {same : α → β → Bool} {f : α → γ} {g : β → γ}
    (h : ∀ a b, same a b = true ↔ f a = g b) (as : List α) (bs : List β) :
    as.all₂ same bs = true ↔ as.map f = bs.map g := by
  induction as generalizing bs with
  | nil => cases bs <;> simp [List.all₂]
  | cons a as ih =>
    cases bs with
    | nil => simp [List.all₂]
    | cons b bs => simp [List.all₂, h, ih]

theorem compareDeployments_iff (a b : Deployment) :
    compareDeployments a b = true ↔
      openPorts a = openPorts b ∧ a.spec.replicas = b.spec.replicas := by
  have hports : ∀ ports otherPorts : List ContainerPort,
      ports.all₂ (fun port otherPort => decide (port.containerPort = otherPort.containerPort ∧
        port.protocol = otherPort.protocol)) otherPorts = true ↔
      ports.map (fun port => (port.containerPort, port.protocol)) =
        otherPorts.map fun port => (port.containerPort, port.protocol) :=
    all₂_iff_map_eq fun _ _ => by rw [decide_eq_true_iff, Prod.mk.injEq]
  have hcontainers := all₂_iff_map_eq (fun (c c' : Container) => hports c.ports c'.ports)
    a.spec.template.spec.containers b.spec.template.spec.containers
  simp only [compareDeployments, Bool.decide_and, Bool.and_eq_true, decide_eq_true_eq] at *
  rw [hcontainers, openPorts, openPorts, eq_comm (a := b.spec.replicas)]

theorem compareServices_iff (a b : Service) :
    compareServices a b = true ↔
      a.annotations = b.annotations ∧ exposedPorts a = exposedPorts b := by
  have hports : a.spec.ports.all₂ (fun port otherPort => decide (port.port = otherPort.port ∧
        port.protocol = otherPort.protocol)) b.spec.ports = true ↔
      a.spec.ports.map (fun port => (port.port, port.protocol)) =
        b.spec.ports.map fun port => (port.port, port.protocol) :=
    all₂_iff_map_eq (fun _ _ => by rw [decide_eq_true_iff, Prod.mk.injEq]) _ _
  simp only [compareServices, Bool.decide_and, Bool.and_eq_true, decide_eq_true_eq] at *
  rw [hports, exposedPorts, exposedPorts]

theorem compareSecrets_iff (a b : Secret) :
    compareSecrets a b = true ↔ a.annotations = b.annotations ∧ a.spec = b.spec := by
  unfold compareSecrets
  rw [decide_eq_true_iff]
  refine and_congr_right fun _ => ⟨?_, ?_⟩
  · rintro ⟨hcard, hlookup⟩
    -- every key is there, and there is no room for another one
    have hsub : a.spec.keys ⊆ b.spec.keys := by
      intro k hk
      have hsome := Finmap.lookup_isSome.2 (Finmap.mem_keys.1 hk)
      rw [← hlookup k hk] at hsome
      exact Finmap.mem_keys.2 (Finmap.lookup_isSome.1 hsome)
    have hkeys := Finset.eq_of_subset_of_card_le hsub hcard.le
    refine Finmap.ext_lookup fun k => ?_
    by_cases hk : k ∈ a.spec.keys
    · exact (hlookup k hk).symm
    · rw [Finmap.lookup_eq_none.2 fun h => hk (Finmap.mem_keys.2 h),
        Finmap.lookup_eq_none.2 fun h => hk (hkeys ▸ Finmap.mem_keys.2 h)]
  · intro h
    rw [h]
    exact ⟨rfl, fun _ _ => rfl⟩

/-! ### The objects of a managed account -/

def GatewayClassConfigSpec.serviceAccountFor (c : GatewayClassConfigSpec) (gw : DeployedGateway) :
    Option ServiceAccount :=
  if c.consulSpec.authSpec.managed then some ⟨labelsForGateway gw, ∅, [], ()⟩ else none

def GatewayClassConfigSpec.roleFor (c : GatewayClassConfigSpec) (gw : DeployedGateway) :
    Option Role :=
  if !c.consulSpec.authSpec.managed ∨ c.consulSpec.authSpec.podSecurityPolicy = "" then none
  else some
    { labels := labelsForGateway gw
      spec := [⟨["policy"], ["podsecuritypolicies"], [c.consulSpec.authSpec.podSecurityPolicy],
        ["use"]⟩] }

/-- The account and the role have the name of the gateway. -/
def GatewayClassConfigSpec.roleBindingFor (c : GatewayClassConfigSpec) (gw : DeployedGateway) :
    Option RoleBinding :=
  match c.serviceAccountFor gw, c.roleFor gw with
  | some _, some _ => some
      { labels := labelsForGateway gw
        spec := ⟨(⟨"rbac.authorization.k8s.io", "Role"⟩, gw.name), [gw.namespacedName]⟩ }
  | _, _ => none

end V1alpha1
