/-
The validation of gateways (`internal/k8s/reconciler/validator`: `gateway.go`,
`utils.go` and `tls.go`, with `internal/common/tls.go` and
`internal/k8s/utils/secrets.go`).

`validate` derives the state of a gateway from the object and the answers of the
cluster.  What is wrong with a listener is recorded in its status; only a cluster
that does not answer fails the validation as a whole.

* `referenceAllowed_spec` — what allows a reference to another namespace;
* `validateTLS_spec` — a listener that has to terminate TLS is either not ready, or
  has a certificate the gateway may use;
* `validate_spec` — the listeners of a validated gateway.
-/
import ConsulApiGateway.Objects
import ConsulApiGateway.Pointwise
import ConsulApiGateway.UrlText

namespace Reconciler

open K8s
open V1alpha1 (ServiceType)

/-! ### What the cluster answers -/

inductive PodPhase
  | pending | running | succeeded | failed
  | other (name : String)

structure PodCondition where
  type : String
  status : String
  reason : String
  message : String

structure Pod where
  phase : PodPhase
  conditions : List PodCondition
  podIP : String
  hostIP : String

structure LoadBalancerIngress where
  ip : String
  hostname : String

/-- The service of a gateway.  The deployer decides its type, the cluster the
addresses. -/
structure Service where
  type : ServiceType
  ingress : List LoadBalancerIngress := []
  clusterIP : String := ""

structure ReferenceGrantFrom where
  group : String
  kind : String
  namespace_ : String

structure ReferenceGrantTo where
  group : String
  kind : String
  name : Option String

/-- A `ReferenceGrant`, or the one made from a `ReferencePolicy`. -/
structure ReferenceGrant where
  from_ : List ReferenceGrantFrom
  to_ : List ReferenceGrantTo

/-- The answers of the cluster during one validation.  The pods are listed twice,
and the listeners ask for grants and secrets each on its own. -/
structure ClusterAnswers where
  podsWithLabels : Except String (List Pod)
  addressPods : Except String (List Pod)
  getService : Except String (Option Service)
  getReferenceGrantsInNamespace : ℕ → String → Except String (List ReferenceGrant)
  /-- Whether the secret exists. -/
  getSecret : ℕ → NamespacedName → Except String Bool

/-- What the texts of the errors depend on otherwise: the orders in which the
protocols of a port are visited, and how Go prints a list of kinds. -/
structure Texts where
  protocolConflict : RangeOrder
  hostnameConflict : RangeOrder
  kinds : List RouteGroupKind → String

/-! ### Secrets -/

structure K8sSecret where
  namespace_ : String
  name : String

/-- The name a secret is served under. -/
def K8sSecret.toString (k : K8sSecret) : String :=
  Url.text (Url.URL.string
    { scheme := GoStd.bytes "k8s"
      host := []
      path := GoStd.bytes ("/" ++ k.namespace_ ++ "/" ++ k.name)
      rawQuery := [] })

namespace Validator

/-! ### Conflicts -/

/-- The set with one more element. -/
def addToSet (set : List String) (value : String) : List String :=
  if value ∈ set then set else set ++ [value]

structure MergedListener where
  listeners : List ℕ := []
  protocols : List String := []
  hostnames : List String := []

def mergeListenersByPort (g : Gateway) : GoMap ℤ MergedListener :=
  g.listeners.zipIdx.foldl (fun merged p =>
    let m := (merged.lookup p.1.port).getD {}
    merged.insert p.1.port
      { listeners := m.listeners ++ [p.2]
        protocols := addToSet m.protocols p.1.protocol.toString
        hostnames := match p.1.hostname with
          | some hostname => addToSet m.hostnames hostname
          | none => m.hostnames }) ∅

def setToCSV (order : RangeOrder) (set : List String) : String :=
  String.intercalate ", " (order.visit set)

/-- The conflicts of the listeners of one port; both texts list the protocols. -/
def conflicts (texts : Texts) (merged : MergedListener) (s : ListenerConflictedStatus) :
    ListenerConflictedStatus :=
  let s := if 1 < merged.protocols.length then
    { s with protocolConflict := some ("listeners have conflicting protocols for port: " ++
        setToCSV texts.protocolConflict merged.protocols) } else s
  if 1 < merged.hostnames.length then
    { s with hostnameConflict := some ("listeners have conflicting hostnames for port: " ++
        setToCSV texts.hostnameConflict merged.protocols) } else s

/-- The listeners of a port are those that were merged for it, so that the loop
over the ports is one over the listeners. -/
def validateListenerConflicts (texts : Texts) (g : Gateway) (state : GatewayState) :
    GatewayState :=
  { state with listeners := state.listeners.map fun l =>
      match (mergeListenersByPort g).lookup l.spec.port with
      | none => l
      | some merged => { l with state := { l.state with status := { l.state.status with
          conflicted := conflicts texts merged l.state.status.conflicted } } } }

/-! ### Pods and addresses -/

def validatePodStatusPending (state : GatewayState) (pod : Pod) : GatewayState :=
  let unschedulable := pod.conditions.find? fun condition =>
    condition.type = "PodScheduled" ∧ condition.status = "False" ∧
      "Unschedulable".toList <:+: condition.reason.toList
  let scheduled := state.status.scheduled
  -- without such a condition the pod is taken as not reconciled yet
  { state with status := { state.status with scheduled := match unschedulable with
      | some condition => { scheduled with noResources := some condition.message }
      | none => { scheduled with notReconciled := some "pod conditions not found" } } }

def validatePodStatusRunning (state : GatewayState) (pod : Pod) : GatewayState :=
  if pod.conditions.any fun condition => condition.type = "Ready" ∧ condition.status = "True" then
    { state with podReady := true }
  else state

/-- A pod that has succeeded should still be running, and counts as failed. -/
def validatePodConditions (state : GatewayState) (pod : Pod) : GatewayState :=
  let setScheduled (scheduled : GatewayScheduledStatus) : GatewayState :=
    { state with status := { state.status with scheduled := scheduled } }
  match pod.phase with
  | .pending => validatePodStatusPending state pod
  | .running => validatePodStatusRunning state pod
  | .succeeded | .failed =>
    setScheduled { state.status.scheduled with podFailed := some "pod not running" }
  | .other _ => setScheduled { state.status.scheduled with unknown := some "pod status unknown" }

def validatePods (a : ClusterAnswers) (state : GatewayState) : Except String GatewayState :=
  a.podsWithLabels.map fun pods => pods.foldl validatePodConditions state

/-- Nothing to take an address from was found. -/
def notReconciled (state : GatewayState) (message : String) : GatewayState :=
  { state with status := { state.status with
      scheduled := { state.status.scheduled with notReconciled := some message } } }

/-- An address makes the service ready; an empty one is none. -/
def addAddress (state : GatewayState) (address : String) : GatewayState :=
  if address ≠ "" then
    { state with serviceReady := true, addresses := state.addresses ++ [address] }
  else state

/-- The same for a list that keeps its addresses apart. -/
def addNewAddress (state : GatewayState) (address : String) : GatewayState :=
  if address ≠ "" then
    { state with
      serviceReady := true
      addresses := if address ∈ state.addresses then state.addresses
        else state.addresses ++ [address] }
  else state

def assignGatewayIPFromServiceIngress (a : ClusterAnswers) (state : GatewayState) :
    Except String GatewayState :=
  a.getService.map fun
    | none => notReconciled state "service not found"
    | some updated => updated.ingress.foldl (fun state ingress =>
        addAddress (addAddress state ingress.ip) ingress.hostname) state

def assignGatewayIPFromService (a : ClusterAnswers) (state : GatewayState) :
    Except String GatewayState :=
  a.getService.map fun
    | none => notReconciled state "service not found"
    | some updated => addAddress state updated.clusterIP

/-- `assignGatewayIPFromPods` and `assignGatewayIPFromPodHost`, which differ in
the address they take. -/
def assignGatewayIPFrom (address : Pod → String) (a : ClusterAnswers) (state : GatewayState) :
    Except String GatewayState :=
  a.addressPods.map fun pods =>
    if pods.length = 0 then notReconciled state "pods not found"
    else pods.foldl (fun state pod => addNewAddress state (address pod)) state

def assignGatewayIPFromPods : ClusterAnswers → GatewayState → Except String GatewayState :=
  assignGatewayIPFrom Pod.podIP

def assignGatewayIPFromPodHost : ClusterAnswers → GatewayState → Except String GatewayState :=
  assignGatewayIPFrom Pod.hostIP

def validateGatewayIP (a : ClusterAnswers) (state : GatewayState) (service : Option Service) :
    Except String GatewayState :=
  match service with
  | none => assignGatewayIPFromPods a state
  | some service =>
    match service.type with
    | .loadBalancer => assignGatewayIPFromServiceIngress a state
    | .clusterIP => assignGatewayIPFromService a state
    -- the nodes the pods run on may not be reachable from outside the cluster
    | .nodePort => assignGatewayIPFromPodHost a state
    | .other name => .error ("unsupported service type: " ++ name)

/-! ### Protocols -/

def validateUnsupported (g : Gateway) (state : ListenerState) : ListenerState :=
  -- a field of the gateway, reported on each of its listeners
  if 0 < g.addresses.length then
    { state with status := { state.status with detached := { state.status.detached with
        unsupportedAddress := some "specified addresses are not supported" } } }
  else state

def kindsNotInSet (set parent : List RouteGroupKind) : List RouteGroupKind :=
  set.filter fun kind => kind ∉ parent

def validateProtocols (texts : Texts) (listener : Listener) (state : ListenerState) :
    ListenerState :=
  let supportedKinds := supportedKindsFor listener.protocol
  let state := if supportedKinds.length = 0 then
    { state with status := { state.status with detached := { state.status.detached with
        unsupportedProtocol := some ("unsupported protocol: " ++ listener.protocol.toString) } } }
    else state
  match listener.allowedRoutes with
  | none => state
  | some allowedRoutes =>
    let remainderKinds := kindsNotInSet allowedRoutes.kinds supportedKinds
    if remainderKinds.length ≠ 0 then
      { state with status := { state.status with resolvedRefs := { state.status.resolvedRefs with
          invalidRouteKinds :=
            some ("listener has unsupported kinds: " ++ texts.kinds remainderKinds) } } }
    else state

/-! ### References to secrets -/

/-- The `From` entry allows references of the kind and from the namespace. -/
def ReferenceGrantFrom.applies (fromGK : GroupKind) (fromNamespace : String)
    (f : ReferenceGrantFrom) : Bool :=
  fromGK.group = f.group ∧ fromGK.kind = f.kind ∧ fromNamespace = f.namespace_

/-- The `To` entry allows references to the object; without a name it allows all
of its kind. -/
def ReferenceGrantTo.applies (toGK : GroupKind) (toName : String) (t : ReferenceGrantTo) : Bool :=
  toGK.group = t.group ∧ toGK.kind = t.kind ∧
    (t.name = none ∨ t.name = some "" ∨ t.name = some toName)

def referenceAllowed (fromGK : GroupKind) (fromNamespace : String) (toGK : GroupKind)
    (toNamespace toName : String)
    (getReferenceGrantsInNamespace : String → Except String (List ReferenceGrant)) :
    Except String Bool :=
  -- the reference does not cross namespaces
  if toNamespace = "" ∨ toNamespace = fromNamespace then .ok true
  else (getReferenceGrantsInNamespace toNamespace).map fun refGrants =>
    refGrants.any fun refGrant =>
      refGrant.from_.any (ReferenceGrantFrom.applies fromGK fromNamespace) &&
        refGrant.to_.any (ReferenceGrantTo.applies toGK toName)

/-- The group and kind a reference names; by default a secret. -/
def secretGroupKind (ref : SecretObjectReference) : GroupKind :=
  ⟨ref.group.getD "", ref.kind.getD "Secret"⟩

def gatewayAllowedForSecretRef (g : Gateway) (secretRef : SecretObjectReference)
    (getReferenceGrantsInNamespace : String → Except String (List ReferenceGrant)) :
    Except String Bool :=
  referenceAllowed g.groupKind g.namespace_ (secretGroupKind secretRef)
    ((secretRef.namespace_.map Subtype.val).getD "") secretRef.name getReferenceGrantsInNamespace

def getNamespacedName (name : String) (namespace_ : Option Namespace) (parentNamespace : String) :
    NamespacedName :=
  ⟨(namespace_.map Subtype.val).getD parentNamespace, name⟩

/-- Why a certificate could not be resolved: a `CertificateResolutionError`, or
any other error. -/
inductive CertificateFailure
  | resolution (inner : String)
  | other (message : String)

def resolveCertificateReference (g : Gateway) (ref : SecretObjectReference)
    (getSecret : NamespacedName → Except String Bool) : Except CertificateFailure String :=
  let gk := secretGroupKind ref
  let nsName := getNamespacedName ref.name ref.namespace_ g.namespace_
  if gk.kind = "Secret" ∧ gk.group = "" then
    match getSecret nsName with
    | .error err => .error (.other ("error fetching secret: " ++ err))
    | .ok false => .error (.resolution "certificate not found")
    | .ok true => .ok (K8sSecret.toString ⟨nsName.namespace_, nsName.name⟩)
  else
    .error (.resolution
      ("unsupported certificate type - group: " ++ gk.group ++ ", kind: " ++ gk.kind))

/-! ### TLS -/

def annotationKeyPrefix : String := "api-gateway.consul.hashicorp.com/"

def tlsMinVersionAnnotationKey : String := annotationKeyPrefix ++ "tls_min_version"

def tlsMaxVersionAnnotationKey : String := annotationKeyPrefix ++ "tls_max_version"

def tlsCipherSuitesAnnotationKey : String := annotationKeyPrefix ++ "tls_cipher_suites"

def supportedTLSVersions : List String :=
  ["TLS_AUTO", "TLSv1_0", "TLSv1_1", "TLSv1_2", "TLSv1_3"]

def tlsVersionsWithConfigurableCipherSuites : List String :=
  ["", "TLS_AUTO", "TLSv1_0", "TLSv1_1", "TLSv1_2"]

def extraTLSCipherSuites : List String :=
  ["TLS_RSA_WITH_AES_128_GCM_SHA256",
   "TLS_RSA_WITH_AES_128_CBC_SHA",
   "TLS_RSA_WITH_AES_256_GCM_SHA384",
   "TLS_RSA_WITH_AES_256_CBC_SHA",
   "TLS_ECDHE_ECDSA_WITH_AES_128_CBC_SHA",
   "TLS_ECDHE_RSA_WITH_AES_128_CBC_SHA",
   "TLS_ECDHE_ECDSA_WITH_AES_256_CBC_SHA",
   "TLS_ECDHE_RSA_WITH_AES_256_CBC_SHA"]

def supportedTLSCipherSuite (cipherSuite : String) : Bool :=
  cipherSuite ∈ Core.defaultTLSCipherSuites ++ extraTLSCipherSuites

def setInvalid (state : ListenerState) (message : String) : ListenerState :=
  { state with status := { state.status with
      ready := { state.status.ready with invalid := some message } } }

def validateTLSCipherSuites (tlsCipherSuitesStr : String) (state : ListenerState) :
    ListenerState :=
  if tlsCipherSuitesStr ≠ "" then
    let tlsCipherSuites := (GoStd.split tlsCipherSuitesStr ',').map GoStd.trimSpace
    match tlsCipherSuites.find? fun c => !supportedTLSCipherSuite c with
    | some c => setInvalid state ("unrecognized or unsupported TLS cipher suite: " ++ c)
    | none => { state with tls := { state.tls with cipherSuites := tlsCipherSuites } }
  else state

def validateTLSMaxVersion (tlsMaxVersion tlsCipherSuitesStr : String) (state : ListenerState) :
    ListenerState :=
  if tlsMaxVersion ≠ "" then
    if tlsMaxVersion ∉ supportedTLSVersions then
      setInvalid state "unrecognized TLS max version"
    else validateTLSCipherSuites tlsCipherSuitesStr
      { state with tls := { state.tls with maxVersion := tlsMaxVersion } }
  else validateTLSCipherSuites tlsCipherSuitesStr state

/-- The options of the TLS configuration: each of the three checks ends the
validation if it fails. -/
def validateTLSOptions (options : GoMap String String) (state : ListenerState) : ListenerState :=
  let tlsMinVersion := (options.lookup tlsMinVersionAnnotationKey).getD ""
  let tlsMaxVersion := (options.lookup tlsMaxVersionAnnotationKey).getD ""
  let tlsCipherSuitesStr := (options.lookup tlsCipherSuitesAnnotationKey).getD ""
  if tlsMinVersion ≠ "" then
    if tlsMinVersion ∉ supportedTLSVersions then
      setInvalid state "unrecognized TLS min version"
    else if tlsCipherSuitesStr ≠ "" ∧
        tlsMinVersion ∉ tlsVersionsWithConfigurableCipherSuites then
      setInvalid state
        "configuring TLS cipher suites is only supported for TLS 1.2 and earlier"
    else validateTLSMaxVersion tlsMaxVersion tlsCipherSuitesStr
      { state with tls := { state.tls with minVersion := tlsMinVersion } }
  else validateTLSMaxVersion tlsMaxVersion tlsCipherSuitesStr state

/-- The certificate of a listener: the first reference is the only one that
counts. -/
def validateCertificate (a : ClusterAnswers) (i : ℕ) (g : Gateway) (tls : GatewayTLSConfig)
    (ref : SecretObjectReference) (state : ListenerState) : Except String ListenerState :=
  let setResolvedRefs (resolvedRefs : ListenerResolvedRefsStatus) : ListenerState :=
    { state with status := { state.status with resolvedRefs := resolvedRefs } }
  match gatewayAllowedForSecretRef g ref (a.getReferenceGrantsInNamespace i) with
  | .error err => .error err
  | .ok false =>
    let nsName := getNamespacedName ref.name ref.namespace_ g.namespace_
    .ok <| setResolvedRefs
      { state.status.resolvedRefs with
        refNotPermitted := some ("Cross-namespace listener certificate not allowed without " ++
          "matching ReferenceGrant for Secret \"" ++ nsName.toString ++ "\"") }
  | .ok true =>
    match resolveCertificateReference g ref (a.getSecret i) with
    | .error (.other err) => .error err
    | .error (.resolution err) =>
      .ok <| setResolvedRefs { state.status.resolvedRefs with invalidCertificateRef := some err }
    | .ok resource => .ok <| validateTLSOptions tls.options
        { state with tls := { state.tls with certificates := [resource] } }

/-- `i` is the index of the listener. -/
def validateTLS (a : ClusterAnswers) (i : ℕ) (g : Gateway) (listener : Listener)
    (state : ListenerState) : Except String ListenerState :=
  match listener.tls with
  | none =>
    if (protocolToConsul listener.protocol).2 then
      .ok (setInvalid state "tls configuration required for the given protocol")
    else .ok state
  | some tls =>
    if tls.mode = some .passthrough then .ok (setInvalid state "tls passthrough not supported")
    else
      match tls.certificateRefs with
      | [] => .ok { state with status := { state.status with
          resolvedRefs := { state.status.resolvedRefs with
            invalidCertificateRef := some "certificate reference must be set" } } }
      | ref :: _ => validateCertificate a i g tls ref state

/-! ### Listeners and gateways -/

/-- One turn of the loop over the listeners. -/
def validateListener (a : ClusterAnswers) (texts : Texts) (g : Gateway) (i : ℕ)
    (l : GatewayListener) : Except String GatewayListener :=
  (validateTLS a i g l.spec
    (validateProtocols texts l.spec (validateUnsupported g l.state))).map fun state =>
      -- any other error makes the listener invalid as well
      if state.status.ready.invalid = none ∧ !state.status.valid then
        ⟨l.spec, setInvalid state "listener is in an invalid state"⟩
      else ⟨l.spec, state⟩

/-- The loop, from index `i` on. -/
def validateListenersFrom (a : ClusterAnswers) (texts : Texts) (g : Gateway) :
    ℕ → List GatewayListener → Except String (List GatewayListener)
  | _, [] => .ok []
  | i, l :: ls => do
    let l' ← validateListener a texts g i l
    let ls' ← validateListenersFrom a texts g (i + 1) ls
    return l' :: ls'

def validateListeners (a : ClusterAnswers) (texts : Texts) (g : Gateway) (state : GatewayState) :
    Except String GatewayState :=
  (validateListenersFrom a texts g 0 state.listeners).map fun listeners =>
    let listenersInvalid := listeners.any fun l => l.state.status.ready.invalid.isSome
    let listenersReady := listeners.all fun l => l.state.status.ready.pending.isNone
    let ready := state.status.ready
    { state with
      listeners := listeners
      status := { state.status with ready :=
        if listenersInvalid then
          { ready with listenersNotValid := some "gateway listeners not valid" }
        else if !state.podReady || !state.serviceReady || !listenersReady then
          { ready with listenersNotReady := some "gateway listeners not ready" }
        else ready } }

/-- `service` is the service the deployer makes for the gateway, if any. -/
def validate (a : ClusterAnswers) (texts : Texts) (g : Gateway) (service : Option Service) :
    Except String GatewayState := do
  let state := validateListenerConflicts texts g (initialGatewayState g)
  let state ← validatePods a state
  let state ← validateGatewayIP a state service
  let state := if g.addresses.length ≠ 0 then
    { state with status := { state.status with ready := { state.status.ready with
        addressNotAssigned := some "gateway does not support requesting addresses" } } }
    else state
  validateListeners a texts g state

/-! ### What is permitted -/

/-- The grant permits references of a kind from a namespace to an object; a target without a name
stands for all objects of its kind. -/
def Permits (fromGK : GroupKind) (fromNamespace : String) (toGK : GroupKind) (toName : String)
    (refGrant : ReferenceGrant) : Prop :=
  (∃ f ∈ refGrant.from_,
      f.group = fromGK.group ∧ f.kind = fromGK.kind ∧ f.namespace_ = fromNamespace) ∧
    ∃ t ∈ refGrant.to_, t.group = toGK.group ∧ t.kind = toGK.kind ∧ t.name.getD "" ∈ ["", toName]

variable {a : ClusterAnswers} {g : Gateway} {i : ℕ} {texts : Texts} {state state' : GatewayState}
  {service : Option Service}

theorem permits_iff {fromGK toGK : GroupKind} {fromNamespace toName : String}
    {refGrant : ReferenceGrant} :
    (refGrant.from_.any (ReferenceGrantFrom.applies fromGK fromNamespace) &&
        refGrant.to_.any (ReferenceGrantTo.applies toGK toName)) = true ↔
      Permits fromGK fromNamespace toGK toName refGrant := by
  rw [Bool.and_eq_true, List.any_eq_true, List.any_eq_true]
  refine and_congr (exists_congr fun f => and_congr_right' ?_)
    (exists_congr fun t => and_congr_right' ?_)
  · rw [ReferenceGrantFrom.applies, decide_eq_true_iff, eq_comm, @eq_comm _ fromGK.kind,
      @eq_comm _ fromNamespace]
  · rw [ReferenceGrantTo.applies, decide_eq_true_iff, eq_comm, @eq_comm _ toGK.kind]
    refine and_congr_right' (and_congr_right' ?_)
    cases t.name with
    | none => simp
    | some name => simp

theorem referenceAllowed_spec {fromGK toGK : GroupKind}
    {fromNamespace toNamespace toName : String}
    {grants : String → Except String (List ReferenceGrant)}
    (h : referenceAllowed fromGK fromNamespace toGK toNamespace toName grants = .ok true) :
    toNamespace = "" ∨ toNamespace = fromNamespace ∨ ∃ refGrants refGrant,
      grants toNamespace = .ok refGrants ∧ refGrant ∈ refGrants ∧
        Permits fromGK fromNamespace toGK toName refGrant := by
  unfold referenceAllowed at h
  split_ifs at h with hsame
  · rcases hsame with hsame | hsame
    · exact .inl hsame
    · exact .inr (.inl hsame)
  · refine .inr (.inr ?_)
    obtain ⟨refGrants, hgrants, hany⟩ := GoStd.map_eq_ok h
    obtain ⟨refGrant, hmem, hpermits⟩ := List.any_eq_true.1 hany
    exact ⟨refGrants, refGrant, hgrants, hmem, permits_iff.1 hpermits⟩

/-- The gateway may use the secret: it is in its own namespace, or a grant in the
namespace of the secret permits it. -/
def Permitted (a : ClusterAnswers) (i : ℕ) (g : Gateway) (secret : K8sSecret) : Prop :=
  secret.namespace_ = g.namespace_ ∨ ∃ refGrants refGrant,
    a.getReferenceGrantsInNamespace i secret.namespace_ = .ok refGrants ∧
      refGrant ∈ refGrants ∧ Permits g.groupKind g.namespace_ ⟨"", "Secret"⟩ secret.name refGrant

/-- The listener serves a secret that the gateway may use. -/
def Certified (a : ClusterAnswers) (i : ℕ) (g : Gateway) (tls : Core.TLSParams) : Prop :=
  ∃ secret : K8sSecret, tls.certificates = [secret.toString] ∧ Permitted a i g secret

/-- A reference that is allowed and resolves names a secret the gateway may use. -/
theorem certified_of_resolved {ref : SecretObjectReference} {resource : String}
    {tls : Core.TLSParams}
    (hallowed : gatewayAllowedForSecretRef g ref (a.getReferenceGrantsInNamespace i) = .ok true)
    (hresolved : resolveCertificateReference g ref (a.getSecret i) = .ok resource)
    (htls : tls.certificates = [resource]) : Certified a i g tls := by
  simp only [resolveCertificateReference] at hresolved
  split_ifs at hresolved with hgk
  have hsecret : secretGroupKind ref = ⟨"", "Secret"⟩ := by
    rw [← hgk.1, ← hgk.2]
  cases hget : a.getSecret i (getNamespacedName ref.name ref.namespace_ g.namespace_) with
  | error err => simp [hget] at hresolved
  | ok found =>
    cases found with
    | false => simp [hget] at hresolved
    | true =>
      simp only [hget, Except.ok.injEq] at hresolved
      refine ⟨⟨(getNamespacedName ref.name ref.namespace_ g.namespace_).namespace_, ref.name⟩,
        by rw [htls, ← hresolved]; rfl, ?_⟩
      rcases referenceAllowed_spec hallowed with hempty | hsame | ⟨refGrants, refGrant, hgrants⟩
      · -- the reference does not name a namespace
        left
        cases hns : ref.namespace_ with
        | none => rfl
        | some ns =>
          rw [hns] at hempty
          exact absurd hempty ns.2
      · left
        cases hns : ref.namespace_ with
        | none => rfl
        | some ns =>
          rw [hns] at hsame
          exact hsame
      · cases hns : ref.namespace_ with
        | none => exact .inl rfl
        | some ns =>
          right
          rw [hns, hsecret] at hgrants
          exact ⟨refGrants, refGrant, hgrants⟩

/-! ### What validation leaves of a listener -/

/-- The two states differ at most in the TLS parameters and in the parts of the
status the checks of a single listener write: the conflicts with other listeners
are not among them. -/
def SameState (state state' : ListenerState) : Prop :=
  ∃ tls detached ready resolvedRefs, state' = { state with
    tls := tls
    status := { state.status with
      detached := detached, ready := ready, resolvedRefs := resolvedRefs } }

theorem SameState.trans {s s' s'' : ListenerState} (h : SameState s s') (h' : SameState s' s'') :
    SameState s s'' := by
  obtain ⟨tls, detached, ready, resolvedRefs, rfl⟩ := h
  obtain ⟨tls', detached', ready', resolvedRefs', rfl⟩ := h'
  exact ⟨tls', detached', ready', resolvedRefs', rfl⟩

theorem sameState_validateUnsupported (g : Gateway) (state : ListenerState) :
    SameState state (validateUnsupported g state) := by
  unfold validateUnsupported
  split_ifs
  · exact ⟨_, _, _, _, rfl⟩
  · exact ⟨_, _, _, _, rfl⟩

theorem sameState_validateProtocols (texts : Texts) (listener : Listener) (state : ListenerState) :
    SameState state (validateProtocols texts listener state) := by
  unfold validateProtocols
  cases listener.allowedRoutes with
  | none =>
    dsimp only
    split_ifs
    · exact ⟨_, _, _, _, rfl⟩
    · exact ⟨_, _, _, _, rfl⟩
  | some allowedRoutes =>
    dsimp only
    split_ifs <;> exact ⟨_, _, _, _, rfl⟩

/-- The certificates stay as well. -/
def SameCertificates (state state' : ListenerState) : Prop :=
  SameState state state' ∧ state'.tls.certificates = state.tls.certificates

theorem sameCertificates_validateTLSCipherSuites (suites : String) (state : ListenerState) :
    SameCertificates state (validateTLSCipherSuites suites state) := by
  unfold validateTLSCipherSuites
  split
  · dsimp only
    split
    · exact ⟨⟨_, _, _, _, rfl⟩, rfl⟩
    · exact ⟨⟨_, _, _, _, rfl⟩, rfl⟩
  · exact ⟨⟨_, _, _, _, rfl⟩, rfl⟩

theorem sameCertificates_validateTLSMaxVersion (version suites : String) (state : ListenerState) :
    SameCertificates state (validateTLSMaxVersion version suites state) := by
  unfold validateTLSMaxVersion
  split
  · split
    · exact ⟨⟨_, _, _, _, rfl⟩, rfl⟩
    · obtain ⟨hsame, hcerts⟩ := sameCertificates_validateTLSCipherSuites suites
        { state with tls := { state.tls with maxVersion := version } }
      exact ⟨SameState.trans ⟨_, _, _, _, rfl⟩ hsame, hcerts⟩
  · exact sameCertificates_validateTLSCipherSuites suites state

theorem sameCertificates_validateTLSOptions (options : GoMap String String)
    (state : ListenerState) : SameCertificates state (validateTLSOptions options state) := by
  unfold validateTLSOptions
  dsimp only
  split
  · split
    · exact ⟨⟨_, _, _, _, rfl⟩, rfl⟩
    · split
      · exact ⟨⟨_, _, _, _, rfl⟩, rfl⟩
      · obtain ⟨hsame, hcerts⟩ := sameCertificates_validateTLSMaxVersion
          ((options.lookup tlsMaxVersionAnnotationKey).getD "")
          ((options.lookup tlsCipherSuitesAnnotationKey).getD "")
          { state with tls := { state.tls with
            minVersion := (options.lookup tlsMinVersionAnnotationKey).getD "" } }
        exact ⟨SameState.trans ⟨_, _, _, _, rfl⟩ hsame, hcerts⟩
  · exact sameCertificates_validateTLSMaxVersion _ _ state

/-- A listener with an error in its references is not valid. -/
theorem not_valid_of_resolvedRefs {s : ListenerStatus} (h : s.resolvedRefs.hasError = true) :
    s.valid = false := by
  simp [ListenerStatus.valid, h]

theorem validateCertificate_spec {tls : GatewayTLSConfig} {ref : SecretObjectReference}
    {state state' : ListenerState} (h : validateCertificate a i g tls ref state = .ok state') :
    SameState state state' ∧ (state'.status.valid = false ∨ Certified a i g state'.tls) := by
  simp only [validateCertificate] at h
  cases hallowed : gatewayAllowedForSecretRef g ref (a.getReferenceGrantsInNamespace i) with
  | error err => simp [hallowed] at h
  | ok allowed =>
    cases allowed with
    | false =>
      simp only [hallowed] at h
      cases h
      -- no grant: the reference is refused and the listener is not valid
      exact ⟨⟨_, _, _, _, rfl⟩, .inl (not_valid_of_resolvedRefs
        (by simp [ListenerResolvedRefsStatus.hasError]))⟩
    | true =>
      cases hresolved : resolveCertificateReference g ref (a.getSecret i) with
      | error failure =>
        cases failure with
        | other err => simp [hallowed, hresolved] at h
        | resolution err =>
          simp only [hallowed, hresolved] at h
          cases h
          exact ⟨⟨_, _, _, _, rfl⟩, .inl (not_valid_of_resolvedRefs
            (by simp [ListenerResolvedRefsStatus.hasError]))⟩
      | ok resource =>
        simp only [hallowed, hresolved] at h
        cases h
        obtain ⟨hsame, hcerts⟩ := sameCertificates_validateTLSOptions tls.options
          { state with tls := { state.tls with certificates := [resource] } }
        exact ⟨SameState.trans ⟨_, _, _, _, rfl⟩ hsame,
          .inr (certified_of_resolved hallowed hresolved hcerts)⟩

/-- A listener that has to terminate TLS is found to be invalid or has a
certificate the gateway may use. -/
theorem validateTLS_spec {listener : Listener} {state state' : ListenerState}
    (h : validateTLS a i g listener state = .ok state') :
    SameState state state' ∧ ((protocolToConsul listener.protocol).2 = true →
      state'.status.ready.invalid.isSome ∨ state'.status.valid = false ∨
        Certified a i g state'.tls) := by
  simp only [validateTLS] at h
  cases htls : listener.tls with
  | none =>
    simp only [htls] at h
    split_ifs at h with hrequired
    · cases h
      exact ⟨⟨_, _, _, _, rfl⟩, fun _ => .inl rfl⟩
    · cases h
      exact ⟨⟨_, _, _, _, rfl⟩, fun hr => absurd hr hrequired⟩
  | some tls =>
    simp only [htls] at h
    split_ifs at h
    · cases h
      exact ⟨⟨_, _, _, _, rfl⟩, fun _ => .inl rfl⟩
    · cases hrefs : tls.certificateRefs with
      | nil =>
        simp only [hrefs] at h
        cases h
        exact ⟨⟨_, _, _, _, rfl⟩, fun _ => .inr (.inl (not_valid_of_resolvedRefs
          (by simp [ListenerResolvedRefsStatus.hasError])))⟩
      | cons ref refs =>
        simp only [hrefs] at h
        obtain ⟨hsame, hcert⟩ := validateCertificate_spec h
        exact ⟨hsame, fun _ => .inr hcert⟩

/-- What validation guarantees of a listener with index `i`. -/
structure Validated (a : ClusterAnswers) (g : Gateway) (i : ℕ) (l : GatewayListener) : Prop where
  protocol : l.state.protocol = l.spec.protocol
  routes : l.state.routes = ∅
  certified : (protocolToConsul l.spec.protocol).2 = true →
    l.state.status.ready.hasError = true ∨ Certified a i g l.state.tls

theorem validateListener_spec {l l' : GatewayListener} (h : validateListener a texts g i l = .ok l')
    (hprotocol : l.state.protocol = l.spec.protocol) (hroutes : l.state.routes = ∅) :
    l'.spec = l.spec ∧ Validated a g i l' := by
  obtain ⟨state, htls, rfl⟩ := GoStd.map_eq_ok h
  obtain ⟨hsame, hcert⟩ := validateTLS_spec htls
  -- the checks before it touch the status only
  obtain ⟨tls, detached, ready, resolvedRefs, rfl⟩ :=
    (sameState_validateUnsupported g l.state).trans
      ((sameState_validateProtocols texts l.spec _).trans hsame)
  split_ifs with hinvalid
  · exact ⟨rfl, hprotocol, hroutes, fun _ => .inl rfl⟩
  · refine ⟨rfl, hprotocol, hroutes, fun hrequired => ?_⟩
    rcases hcert hrequired with hready | hvalid | hcert
    · left
      simp only [ListenerReadyStatus.hasError, hready, Bool.true_or]
    · -- an invalid listener has been given a reason not to be ready
      left
      have hready : ready.invalid ≠ none := by
        intro hnone
        exact hinvalid ⟨hnone, by simp [hvalid]⟩
      simp [ListenerReadyStatus.hasError, Option.isSome_iff_ne_none.2 hready]
    · exact .inr hcert

theorem validateListenersFrom_spec {ls ls' : List GatewayListener}
    (h : validateListenersFrom a texts g i ls = .ok ls')
    (hls : ∀ l ∈ ls, l.state.protocol = l.spec.protocol ∧ l.state.routes = ∅) :
    ls'.map GatewayListener.spec = ls.map GatewayListener.spec ∧
      ∀ (j : ℕ) l', ls'[j]? = some l' → Validated a g (i + j) l' := by
  induction ls generalizing i ls' with
  | nil =>
    cases h
    exact ⟨rfl, fun j l' hl' => by cases hl'⟩
  | cons l ls ih =>
    rw [List.forall_mem_cons] at hls
    obtain ⟨l₁, hl, h⟩ := GoStd.bind_eq_ok h
    obtain ⟨ls₁, hrest, h⟩ := GoStd.bind_eq_ok h
    cases h
    obtain ⟨hspec, hvalidated⟩ := validateListener_spec hl hls.1.1 hls.1.2
    obtain ⟨hspecs, hall⟩ := ih hrest hls.2
    refine ⟨by rw [List.map_cons, List.map_cons, hspec, hspecs], fun j l' hl' => ?_⟩
    cases j with
    | zero =>
      cases Option.some.inj hl'
      exact hvalidated
    | succ j =>
      have hl' := hall j l' hl'
      rwa [Nat.add_assoc, Nat.add_comm 1] at hl'

/-! ### What validation leaves of a gateway -/

theorem foldl_listeners {α : Type} {f : GatewayState → α → GatewayState}
    (hf : ∀ state x, (f state x).listeners = state.listeners) (l : List α) (state : GatewayState) :
    (l.foldl f state).listeners = state.listeners := by
  induction l generalizing state with
  | nil => rfl
  | cons x l ih => rw [List.foldl_cons, ih, hf]

theorem validatePodConditions_listeners (state : GatewayState) (pod : Pod) :
    (validatePodConditions state pod).listeners = state.listeners := by
  unfold validatePodConditions
  split
  · rfl
  · unfold validatePodStatusRunning
    split <;> rfl
  · rfl
  · rfl
  · rfl

theorem addAddress_listeners (state : GatewayState) (address : String) :
    (addAddress state address).listeners = state.listeners := by
  unfold addAddress
  split <;> rfl

theorem addNewAddress_listeners (state : GatewayState) (address : String) :
    (addNewAddress state address).listeners = state.listeners := by
  unfold addNewAddress
  split <;> rfl

theorem validatePods_listeners (h : validatePods a state = .ok state') :
    state'.listeners = state.listeners := by
  obtain ⟨pods, -, rfl⟩ := GoStd.map_eq_ok h
  exact foldl_listeners validatePodConditions_listeners pods state

theorem assignGatewayIPFrom_listeners {address : Pod → String}
    (h : assignGatewayIPFrom address a state = .ok state') :
    state'.listeners = state.listeners := by
  obtain ⟨pods, -, rfl⟩ := GoStd.map_eq_ok h
  split
  · rfl
  · exact foldl_listeners (fun state pod => addNewAddress_listeners state (address pod)) pods state

theorem validateGatewayIP_listeners (h : validateGatewayIP a state service = .ok state') :
    state'.listeners = state.listeners := by
  cases service with
  | none => exact assignGatewayIPFrom_listeners h
  | some service =>
    simp only [validateGatewayIP] at h
    split at h
    · obtain ⟨updated, -, rfl⟩ := GoStd.map_eq_ok h
      cases updated with
      | none => rfl
      | some updated =>
        refine foldl_listeners (fun state ingress => ?_) updated.ingress state
        rw [addAddress_listeners, addAddress_listeners]
    · obtain ⟨updated, -, rfl⟩ := GoStd.map_eq_ok h
      cases updated with
      | none => rfl
      | some updated => exact addAddress_listeners state updated.clusterIP
    · exact assignGatewayIPFrom_listeners h
    · cases h

/-- The listeners before the loop over them. -/
theorem conflicts_listeners (texts : Texts) (g : Gateway) :
    (validateListenerConflicts texts g (initialGatewayState g)).listeners.map
        GatewayListener.spec = g.listeners ∧
      ∀ l ∈ (validateListenerConflicts texts g (initialGatewayState g)).listeners,
        l.state.protocol = l.spec.protocol ∧ l.state.routes = ∅ := by
  have hlistener : ∀ l : GatewayListener, ∃ status : ListenerStatus,
      (match (mergeListenersByPort g).lookup l.spec.port with
        | none => l
        | some merged => { l with state := { l.state with status := { l.state.status with
            conflicted := conflicts texts merged l.state.status.conflicted } } }) =
        { l with state := { l.state with status := status } } := by
    intro l
    split
    · exact ⟨_, rfl⟩
    · exact ⟨_, rfl⟩
  constructor
  · rw [validateListenerConflicts, List.map_map, initialGatewayState, List.map_map]
    refine (List.map_congr_left fun listener _ => ?_).trans (List.map_id _)
    obtain ⟨status, hstatus⟩ := hlistener
      ⟨listener, { protocol := listener.protocol, name := listener.name }⟩
    exact congrArg GatewayListener.spec hstatus
  · intro l hl
    obtain ⟨l₀, hl₀, rfl⟩ := List.mem_map.1 hl
    obtain ⟨listener, -, rfl⟩ := List.mem_map.1 hl₀
    obtain ⟨status, hstatus⟩ := hlistener
      ⟨listener, { protocol := listener.protocol, name := listener.name }⟩
    rw [hstatus]
    exact ⟨rfl, rfl⟩

/-- The listeners of a validated gateway are the outcome of the loop over them:
pods and addresses leave them alone. -/
theorem validate_listeners (h : validate a texts g service = .ok state) :
    validateListenersFrom a texts g 0
      (validateListenerConflicts texts g (initialGatewayState g)).listeners =
        .ok state.listeners := by
  obtain ⟨state₁, hpods, h⟩ := GoStd.bind_eq_ok h
  obtain ⟨state₂, hip, h⟩ := GoStd.bind_eq_ok h
  have hlisteners : state₂.listeners =
      (validateListenerConflicts texts g (initialGatewayState g)).listeners :=
    (validateGatewayIP_listeners hip).trans (validatePods_listeners hpods)
  obtain ⟨ls, hls, rfl⟩ := GoStd.map_eq_ok h
  rw [← hlisteners, ← hls]
  split <;> rfl

/-- **The listeners of a validated gateway**: they are those of the object, none
has a route, and one that has to terminate TLS is not ready or has a certificate
the gateway may use. -/
theorem validate_spec (h : validate a texts g service = .ok state) :
    state.listeners.map GatewayListener.spec = g.listeners ∧
      ∀ (i : ℕ) l, state.listeners[i]? = some l → Validated a g i l := by
  obtain ⟨hspecs, hinitial⟩ := conflicts_listeners texts g
  obtain ⟨hspecs', hall⟩ := validateListenersFrom_spec (validate_listeners h) hinitial
  refine ⟨hspecs'.trans hspecs, fun i l hl => ?_⟩
  have hl := hall i l hl
  rwa [Nat.zero_add] at hl

end Validator

end Reconciler
