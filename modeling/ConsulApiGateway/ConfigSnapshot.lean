/-
The configuration of a class as JSON (`pkg/apis/v1alpha1/types.go`, as `UpsertGateway` of
`internal/k8s/reconciler/manager.go` writes and reads it).

When the controller sees a gateway for the first time it writes the configuration of its class into
an annotation, as JSON.  From then on the gateway is deployed with the configuration that is read
back from the annotation, whatever becomes of the class.

* `snapshot_exact_iff` — what is read back is what was written, but for an empty list;
* `service_of_annotation_iff` — what follows for the service of the gateway.
-/
import ConsulApiGateway.GatewayBuilder
import ConsulApiGateway.JsonRecord

namespace V1alpha1

open JsonRecord
open GoStd (Json)

/-! ### Fields -/

section

variable {S : Type}

def stringField (name : String) (get : S → String) (set : String → S → S) : StructField S :=
  .omitEmpty name get set .string fun a => a = ""

def boolField (name : String) (get : S → Bool) (set : Bool → S → S) : StructField S :=
  .omitEmpty name get set .bool fun a => a = false

def intField (name : String) (get : S → ℤ) (set : ℤ → S → S) : StructField S :=
  .omitEmpty name get set (.int 64) fun a => a = 0

def intPointerField (bits : ℕ) (name : String) (get : S → Option ℤ) (set : Option ℤ → S → S) :
    StructField S :=
  .omitEmpty name get set (.pointer 0 (.int bits)) fun a => a = none

end

def tolerationFields : List (StructField Toleration) :=
  [stringField "key" (·.key) fun a s => { s with key := a },
    stringField "operator" (·.operator) fun a s => { s with operator := a },
    stringField "value" (·.value) fun a s => { s with value := a },
    stringField "effect" (·.effect) fun a s => { s with effect := a },
    intPointerField 64 "tolerationSeconds" (·.tolerationSeconds) fun a s =>
      { s with tolerationSeconds := a }]

def authSpecFields : List (StructField AuthSpec) :=
  [boolField "managed" (·.managed) fun a s => { s with managed := a },
    stringField "method" (·.method) fun a s => { s with method := a },
    stringField "account" (·.account) fun a s => { s with account := a },
    stringField "namespace" (·.namespace_) fun a s => { s with namespace_ := a },
    stringField "podSecurityPolicy" (·.podSecurityPolicy) fun a s =>
      { s with podSecurityPolicy := a }]

def portSpecFields : List (StructField PortSpec) :=
  [intField "http" (·.http) fun a s => { s with http := a },
    intField "grpc" (·.grpc) fun a s => { s with grpc := a }]

def consulSpecFields : List (StructField ConsulSpec) :=
  [.always "authentication" (·.authSpec) (fun a s => { s with authSpec := a })
      (record authSpecFields),
    stringField "scheme" (·.scheme) fun a s => { s with scheme := a },
    stringField "partition" (·.partition) fun a s => { s with partition := a },
    stringField "serverName" (·.serverName) fun a s => { s with serverName := a },
    stringField "address" (·.address) fun a s => { s with address := a },
    .always "ports" (·.portSpec) (fun a s => { s with portSpec := a }) (record portSpecFields)]

def imageSpecFields : List (StructField ImageSpec) :=
  [stringField "consulAPIGateway" (·.consulAPIGateway) fun a s => { s with consulAPIGateway := a },
    stringField "envoy" (·.envoy) fun a s => { s with envoy := a }]

def copyAnnotationsSpecFields : List (StructField CopyAnnotationsSpec) :=
  [.omitEmpty "service" (·.service) (fun a s => { s with service := a }) (.slice "" .string)
    fun a => a.getD [] = []]

def deploymentSpecFields : List (StructField DeploymentSpec) :=
  [intPointerField 32 "defaultInstances" (·.defaultInstances) fun a s =>
      { s with defaultInstances := a },
    intPointerField 32 "maxInstances" (·.maxInstances) fun a s => { s with maxInstances := a },
    intPointerField 32 "minInstances" (·.minInstances) fun a s => { s with minInstances := a }]

def connectionManagementSpecFields : List (StructField ConnectionManagementSpec) :=
  [intPointerField 32 "maxConnections" (·.maxConnections) fun a s => { s with maxConnections := a }]

/-- `corev1.ServiceType`, which is a string. -/
def serviceTypeName : ServiceType → String
  | .loadBalancer => "LoadBalancer"
  | .clusterIP => "ClusterIP"
  | .nodePort => "NodePort"
  | .other name => name

def serviceTypeOfName (name : String) : ServiceType :=
  if name = "LoadBalancer" then .loadBalancer
  else if name = "ClusterIP" then .clusterIP
  else if name = "NodePort" then .nodePort
  else .other name

def serviceType : Codec ServiceType where
  write t := .str (serviceTypeName t)
  read v t := (Codec.string.read v (serviceTypeName t)).map serviceTypeOfName

def gatewayClassConfigSpecFields : List (StructField GatewayClassConfigSpec) :=
  [.omitEmpty "serviceType" (·.serviceType) (fun a s => { s with serviceType := a })
      (.pointer (.other "") serviceType) fun a => a = none,
    .omitEmpty "nodeSelector" (·.nodeSelector) (fun a s => { s with nodeSelector := a })
      .stringMap fun a => a = ∅,
    -- a nil slice is an empty one
    .omitEmpty "tolerations" (fun s => some s.tolerations)
      (fun a s => { s with tolerations := a.getD [] }) (.slice {} (record tolerationFields))
      fun a => a.getD [] = [],
    boolField "useHostPorts" (·.useHostPorts) fun a s => { s with useHostPorts := a },
    .always "consul" (·.consulSpec) (fun a s => { s with consulSpec := a })
      (record consulSpecFields),
    .always "image" (·.imageSpec) (fun a s => { s with imageSpec := a }) (record imageSpecFields),
    .always "copyAnnotations" (·.copyAnnotations) (fun a s => { s with copyAnnotations := a })
      (record copyAnnotationsSpecFields),
    stringField "logLevel" (·.logLevel) fun a s => { s with logLevel := a },
    .always "deployment" (·.deploymentSpec) (fun a s => { s with deploymentSpec := a })
      (record deploymentSpecFields),
    .always "connectionManagement" (·.connectionManagement)
      (fun a s => { s with connectionManagement := a }) (record connectionManagementSpecFields)]

/-- `json.Marshal` of a configuration, as a value. -/
def marshal (spec : GatewayClassConfigSpec) : Json :=
  (record gatewayClassConfigSpecFields).write spec

/-- `json.Unmarshal` into an empty configuration. -/
def unmarshal (v : Json) : Option GatewayClassConfigSpec :=
  (record gatewayClassConfigSpecFields).read v {}

/-! ### Reading a configuration back -/

section

variable {S : Type} {name : String} {s acc : S}

theorem restore_string {get : S → String} {set : String → S → S} (hzero : get acc = "")
    (hset : set (get acc) acc = acc) :
    restore s acc (stringField name get set) = some (set (get s) acc) :=
  restore_of_zero hzero hset of_decide_eq_true rfl

theorem restore_bool {get : S → Bool} {set : Bool → S → S} (hzero : get acc = false)
    (hset : set (get acc) acc = acc) :
    restore s acc (boolField name get set) = some (set (get s) acc) :=
  restore_of_zero hzero hset of_decide_eq_true rfl

/-- The number fits in so many bits. -/
def Fits (bits : ℕ) (n : ℤ) : Prop := -2 ^ (bits - 1) ≤ n ∧ n < 2 ^ (bits - 1)

theorem restore_int {get : S → ℤ} {set : ℤ → S → S} (hfits : Fits 64 (get s)) (hzero : get acc = 0)
    (hset : set (get acc) acc = acc) :
    restore s acc (intField name get set) = some (set (get s) acc) :=
  restore_of_zero hzero hset of_decide_eq_true (Codec.read_int hfits 0)

theorem restore_intPointer {bits : ℕ} {get : S → Option ℤ} {set : Option ℤ → S → S}
    (hfits : ∀ n ∈ get s, Fits bits n) (hzero : get acc = none) (hset : set (get acc) acc = acc) :
    restore s acc (intPointerField bits name get set) = some (set (get s) acc) := by
  refine restore_of_zero hzero hset of_decide_eq_true ?_
  cases hn : get s with
  | none => rfl
  | some n => exact congrArg (Option.map some) (Codec.read_int (hfits n hn) 0)

end

theorem read_toleration {t : Toleration} (h : ∀ n ∈ t.tolerationSeconds, Fits 64 n) :
    (record tolerationFields).read ((record tolerationFields).write t) {} = some t := by
  rw [read_write (by decide), tolerationFields]
  simp only [List.foldlM_cons, List.foldlM_nil, restore_string, restore_intPointer h,
    Option.bind_eq_bind, Option.bind_some]
  rfl

theorem read_authSpec (a : AuthSpec) :
    (record authSpecFields).read ((record authSpecFields).write a) {} = some a := by
  rw [read_write (by decide), authSpecFields]
  simp only [List.foldlM_cons, List.foldlM_nil, restore_bool, restore_string, Option.bind_eq_bind,
    Option.bind_some]
  rfl

theorem read_portSpec {p : PortSpec} (hhttp : Fits 64 p.http) (hgrpc : Fits 64 p.grpc) :
    (record portSpecFields).read ((record portSpecFields).write p) {} = some p := by
  rw [read_write (by decide), portSpecFields]
  simp only [List.foldlM_cons, List.foldlM_nil, restore_int hhttp, restore_int hgrpc,
    Option.bind_eq_bind, Option.bind_some]
  rfl

theorem read_consulSpec {c : ConsulSpec} (hhttp : Fits 64 c.portSpec.http)
    (hgrpc : Fits 64 c.portSpec.grpc) :
    (record consulSpecFields).read ((record consulSpecFields).write c) {} = some c := by
  rw [read_write (by decide), consulSpecFields]
  simp only [List.foldlM_cons, List.foldlM_nil, restore_string,
    restore_always ConsulSpec.authSpec (read_authSpec c.authSpec),
    restore_always ConsulSpec.portSpec (read_portSpec hhttp hgrpc), Option.bind_eq_bind,
    Option.bind_some]
  rfl

theorem read_imageSpec (i : ImageSpec) :
    (record imageSpecFields).read ((record imageSpecFields).write i) {} = some i := by
  rw [read_write (by decide), imageSpecFields]
  simp only [List.foldlM_cons, List.foldlM_nil, restore_string, Option.bind_eq_bind,
    Option.bind_some]
  rfl

theorem read_deploymentSpec {p : DeploymentSpec} (hdefault : ∀ n ∈ p.defaultInstances, Fits 32 n)
    (hmax : ∀ n ∈ p.maxInstances, Fits 32 n) (hmin : ∀ n ∈ p.minInstances, Fits 32 n) :
    (record deploymentSpecFields).read ((record deploymentSpecFields).write p) {} = some p := by
  rw [read_write (by decide), deploymentSpecFields]
  simp only [List.foldlM_cons, List.foldlM_nil, restore_intPointer hdefault,
    restore_intPointer hmax, restore_intPointer hmin, Option.bind_eq_bind, Option.bind_some]
  rfl

theorem read_connectionManagementSpec {c : ConnectionManagementSpec}
    (h : ∀ n ∈ c.maxConnections, Fits 32 n) :
    (record connectionManagementSpecFields).read
      ((record connectionManagementSpecFields).write c) {} = some c := by
  rw [read_write (by decide), connectionManagementSpecFields]
  simp only [List.foldlM_cons, List.foldlM_nil, restore_intPointer h, Option.bind_eq_bind,
    Option.bind_some]
  rfl

/-- An empty list is not written, and is nil when it is read back. -/
theorem read_copyAnnotationsSpec (c : CopyAnnotationsSpec) :
    (record copyAnnotationsSpecFields).read ((record copyAnnotationsSpecFields).write c) {} =
      some ⟨c.service.filter (· ≠ [])⟩ := by
  rw [read_write (by decide), copyAnnotationsSpecFields, List.foldlM_cons, restore_omitEmpty]
  · rfl
  · intro h
    cases hservice : c.service with
    | none =>
      rw [hservice] at h
      cases h
    | some l =>
      rw [hservice] at h
      have hne : l ≠ [] := of_decide_eq_false h
      rw [Option.filter_some_pos (by simpa using hne)]
      exact Codec.read_slice (fun _ _ => rfl) none
  · intro h
    cases hservice : c.service with
    | none => rfl
    | some l =>
      rw [hservice] at h
      rw [show l = [] from of_decide_eq_true h]
      rfl

/-- The values of the configuration are of the types of the source: the numbers fit, and a type of
service that has a name of its own is not another one. -/
structure Typed (spec : GatewayClassConfigSpec) : Prop where
  serviceType : ∀ t ∈ spec.serviceType, serviceTypeOfName (serviceTypeName t) = t
  tolerations : ∀ t ∈ spec.tolerations, ∀ n ∈ t.tolerationSeconds, Fits 64 n
  http : Fits 64 spec.consulSpec.portSpec.http
  grpc : Fits 64 spec.consulSpec.portSpec.grpc
  defaultInstances : ∀ n ∈ spec.deploymentSpec.defaultInstances, Fits 32 n
  maxInstances : ∀ n ∈ spec.deploymentSpec.maxInstances, Fits 32 n
  minInstances : ∀ n ∈ spec.deploymentSpec.minInstances, Fits 32 n
  maxConnections : ∀ n ∈ spec.connectionManagement.maxConnections, Fits 32 n

/-- What is kept of a configuration. -/
def GatewayClassConfigSpec.snapshot (spec : GatewayClassConfigSpec) : GatewayClassConfigSpec :=
  { spec with copyAnnotations := ⟨spec.copyAnnotations.service.filter (· ≠ [])⟩ }

section

variable {spec acc : GatewayClassConfigSpec} {name : String}

theorem restore_serviceType (h : ∀ t ∈ spec.serviceType, serviceTypeOfName (serviceTypeName t) = t)
    (hzero : acc.serviceType = none) :
    restore spec acc (.omitEmpty name (·.serviceType) (fun a s => { s with serviceType := a })
      (.pointer (.other "") serviceType) fun a => a = none) =
        some { acc with serviceType := spec.serviceType } := by
  refine restore_of_zero hzero rfl of_decide_eq_true ?_
  cases ht : spec.serviceType with
  | none => rfl
  | some t => exact congrArg (fun t => some (some t)) (h t ht)

theorem restore_nodeSelector (hzero : acc.nodeSelector = ∅) :
    restore spec acc (.omitEmpty name (·.nodeSelector) (fun a s => { s with nodeSelector := a })
      .stringMap fun a => a = ∅) = some { acc with nodeSelector := spec.nodeSelector } :=
  restore_of_zero hzero rfl of_decide_eq_true (Codec.read_stringMap _)

theorem restore_tolerations (h : ∀ t ∈ spec.tolerations, ∀ n ∈ t.tolerationSeconds, Fits 64 n)
    (hzero : acc.tolerations = []) :
    restore spec acc (.omitEmpty name (fun s => some s.tolerations)
      (fun a s => { s with tolerations := a.getD [] }) (.slice {} (record tolerationFields))
      fun a => a.getD [] = []) = some { acc with tolerations := spec.tolerations } := by
  refine restore_omitEmpty (a := some spec.tolerations) (fun _ => ?_) fun hempty => ?_
  · exact Codec.read_slice (fun t ht => read_toleration (h t ht)) _
  · have hnil : spec.tolerations = [] := of_decide_eq_true hempty
    rw [hnil, ← hzero]
    rfl

/-- A configuration is read back but for an empty list of annotations. -/
theorem unmarshal_marshal (h : Typed spec) : unmarshal (marshal spec) = some spec.snapshot := by
  rw [unmarshal, marshal, read_write (by decide), gatewayClassConfigSpecFields]
  simp only [List.foldlM_cons, List.foldlM_nil, restore_serviceType h.serviceType,
    restore_nodeSelector, restore_tolerations h.tolerations, restore_bool, restore_string,
    restore_always GatewayClassConfigSpec.consulSpec (read_consulSpec h.http h.grpc),
    restore_always GatewayClassConfigSpec.imageSpec (read_imageSpec spec.imageSpec),
    restore_always GatewayClassConfigSpec.copyAnnotations
      (read_copyAnnotationsSpec spec.copyAnnotations),
    restore_always GatewayClassConfigSpec.deploymentSpec
      (read_deploymentSpec h.defaultInstances h.maxInstances h.minInstances),
    restore_always GatewayClassConfigSpec.connectionManagement
      (read_connectionManagementSpec h.maxConnections), Option.bind_eq_bind, Option.bind_some]
  rfl

end

theorem snapshot_of_ne {spec : GatewayClassConfigSpec}
    (h : spec.copyAnnotations.service ≠ some []) :
    spec.snapshot = spec := by
  have hservice : spec.copyAnnotations.service.filter (· ≠ []) = spec.copyAnnotations.service := by
    cases hservice : spec.copyAnnotations.service with
    | none => rfl
    | some l =>
      refine Option.filter_some_pos ?_
      simpa using fun hl => h (by rw [hservice, hl])
  rw [GatewayClassConfigSpec.snapshot, hservice]

/-- **The annotation keeps the configuration exactly unless its list of annotations to copy is
empty.** -/
theorem snapshot_exact_iff {spec : GatewayClassConfigSpec} (h : Typed spec) :
    unmarshal (marshal spec) = some spec ↔ spec.copyAnnotations.service ≠ some [] := by
  rw [unmarshal_marshal h, Option.some_inj]
  refine ⟨fun heq hempty => ?_, snapshot_of_ne⟩
  have hservice := congrArg (fun s => s.copyAnnotations.service) heq
  dsimp only [GatewayClassConfigSpec.snapshot] at hservice
  rw [hempty] at hservice
  cases hservice

theorem filterAnnotations_default (annotations : GoMap String String) :
    Builder.filterAnnotations annotations Builder.defaultServiceAnnotations = ∅ ↔
      annotations.lookup "external-dns.alpha.kubernetes.io/hostname" = none := by
  rw [Builder.filterAnnotations, Builder.defaultServiceAnnotations, List.filterMap_cons]
  cases annotations.lookup "external-dns.alpha.kubernetes.io/hostname" with
  | none => exact iff_of_true rfl rfl
  | some value =>
    refine iff_of_false (fun heq => ?_) (Option.some_ne_none value)
    have hlookup := congrArg (Finmap.lookup "external-dns.alpha.kubernetes.io/hostname") heq
    rw [Finmap.lookup_empty] at hlookup
    exact Option.some_ne_none value ((Finmap.lookup_insert _).symm.trans hlookup)

/-- **The service of a gateway**: made from the annotation, it is the service that the class asks
for, unless the class asks for no annotations to be copied and the gateway has the one that is
copied by default. -/
theorem service_of_annotation_iff {spec : GatewayClassConfigSpec} (h : Typed spec)
    (gateway : K8s.DeployedGateway) :
    (unmarshal (marshal spec)).bind (Builder.buildService gateway) =
        Builder.buildService gateway spec ↔
      spec.serviceType = none ∨ spec.copyAnnotations.service ≠ some [] ∨
        gateway.annotations.lookup "external-dns.alpha.kubernetes.io/hostname" = none := by
  rw [unmarshal_marshal h, Option.bind_some]
  by_cases hservice : spec.copyAnnotations.service = some []
  · -- the empty list is left out of the annotation, and reads back as the default
    rw [← filterAnnotations_default]
    unfold Builder.buildService
    cases htype : spec.serviceType with
    | none =>
      refine iff_of_true ?_ (.inl rfl)
      rw [GatewayClassConfigSpec.snapshot, htype]
      rfl
    | some type =>
      have htype' : spec.snapshot.serviceType = some type := htype
      have hcopy : spec.snapshot.copyAnnotations.service = none := by
        rw [GatewayClassConfigSpec.snapshot, hservice]
        rfl
      rw [htype', hcopy, hservice]
      rw [Option.getD_none, Option.map_some, Option.map_some]
      constructor
      · intro heq
        exact .inr (.inr (congrArg K8s.Object.annotations (Option.some.inj heq)))
      · rintro (hnone | hne | hdefault)
        · cases hnone
        · exact absurd rfl hne
        · rw [hdefault]
          rfl
  · rw [snapshot_of_ne hservice]
    exact iff_of_true rfl (.inr (.inl hservice))

namespace SampleSnapshot

/-- A configuration that asks for no annotations to be copied. -/
def spec : GatewayClassConfigSpec where
  serviceType := some .clusterIP
  copyAnnotations := ⟨some []⟩
  deploymentSpec := { maxInstances := some 8 }

theorem typed : Typed spec := by
  refine ⟨?_, ?_, ?_, ?_, ?_, ?_, ?_, ?_⟩
  · rintro t ⟨⟩
    decide
  · rintro t ⟨⟩
  · exact ⟨by decide, by decide⟩
  · exact ⟨by decide, by decide⟩
  · rintro n ⟨⟩
  · rintro n ⟨⟩
    exact ⟨by decide, by decide⟩
  · rintro n ⟨⟩
  · rintro n ⟨⟩

def gateway : K8s.DeployedGateway where
  groupKind := ⟨"gateway.networking.k8s.io", "Gateway"⟩
  name := "gateway"
  namespace_ := "team"
  annotations := (∅ : GoMap _ _).insert "external-dns.alpha.kubernetes.io/hostname" "team.example"
  listeners := []
  uid := "1"
  creationTimestamp := 7

theorem snapshot_not_exact : ¬ unmarshal (marshal spec) = some spec :=
  fun h => (snapshot_exact_iff typed).1 h rfl

theorem service_not_of_snapshot : ¬ (unmarshal (marshal spec)).bind
    (Builder.buildService gateway) = Builder.buildService gateway spec :=
  fun h => absurd ((service_of_annotation_iff typed gateway).1 h) (by decide)

end SampleSnapshot

end V1alpha1
