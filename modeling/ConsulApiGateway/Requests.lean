/-
What makes the controllers look at an object again (`internal/k8s/controllers`, with
`PodsWithLabels` and `GetReferenceGrantsInNamespace` of `internal/k8s/gatewayclient`).

A gateway or a route is validated when it changes itself, and its validation asks for other objects:
grants, pods, services.  The controllers watch those too, and map each of their changes to the
gateways and routes that have to be validated again.

* `validate_congr`, `validateRoute_congr` — what a validation depends on;
* `gateway_of_grant`, `gateway_of_pod`, `route_of_grant`, `route_of_service` — a change that makes a
  difference to a validation leads to a request for it;
* `certificate_not_watched` — but a certificate that appears does not.
-/
import ConsulApiGateway.BackendResolver
import ConsulApiGateway.Cluster

namespace Controllers

open K8s Reconciler

/-! ### Requests -/

/-- The objects of a kind. -/
abbrev Objects (V : Type) := NamespacedName → Option V

/-- Nothing but the object under the key is changed. -/
def ChangesAt {V : Type} (key : NamespacedName) (before after : Objects V) : Prop :=
  ∀ key' ≠ key, after key' = before key'

/-- `handler.EnqueueRequestsFromMapFunc`: what an object was and what it is now are both mapped. -/
def enqueue {V : Type} (requests : V → List NamespacedName) (old new : Option V) :
    List NamespacedName :=
  (old.map requests).getD [] ++ (new.map requests).getD []

theorem mem_enqueue {V : Type} {requests : V → List NamespacedName} {old new : Option V} {v : V}
    {request : NamespacedName} (hv : old = some v ∨ new = some v) (h : request ∈ requests v) :
    request ∈ enqueue requests old new := by
  rcases hv with rfl | rfl
  · exact List.mem_append_left _ h
  · exact List.mem_append_right _ h

/-! ### Grants -/

/-- The two kinds of objects that grant references. -/
inductive GrantKind
  | referenceGrant | referencePolicy
  deriving DecidableEq

/-- The grants of the cluster; that of a policy is its spec. -/
abbrev Grants := GrantKind → Objects ReferenceGrant

/-- `getGatewaysAffectedByReferenceGrant` and `getRoutesAffectedByReferenceGrant`: the objects of
the namespaces that the grant is for, up to a namespace that cannot be listed. -/
def affectedByReferenceGrant {α : Type} (inNamespace : String → Except String (List α)) :
    List ReferenceGrantFrom → List α
  | [] => []
  | f :: rest =>
    match inNamespace f.namespace_ with
    | .error _ => []
    | .ok objects => objects ++ affectedByReferenceGrant inNamespace rest

/-- `getRequestsFromReferenceGrant` and `getRouteRequestsFromReferenceGrant`. -/
def requestsFromReferenceGrant {α : Type} (name : α → NamespacedName)
    (inNamespace : String → Except String (List α)) (refGrant : ReferenceGrant) :
    List NamespacedName :=
  (affectedByReferenceGrant inNamespace refGrant.from_).map name

/-- What a listing of the grants in a namespace returns. -/
def ListsGrants (grants : Grants) (list : String → Except String (List ReferenceGrant)) : Prop :=
  ∀ ns, ∃ refGrants, list ns = .ok refGrants ∧
    ∀ refGrant, refGrant ∈ refGrants ↔ ∃ kind name, grants kind ⟨ns, name⟩ = some refGrant

/-- One object that grants references is changed. -/
structure ChangesGrant (kind : GrantKind) (key : NamespacedName) (before after : Grants) :
    Prop where
  same : ChangesAt key (before kind) (after kind)
  others : ∀ kind' ≠ kind, after kind' = before kind'

theorem mem_affectedByReferenceGrant {α : Type} {inNamespace : String → Except String (List α)}
    (hlist : ∀ ns, ∃ objects, inNamespace ns = .ok objects) {froms : List ReferenceGrantFrom}
    {f : ReferenceGrantFrom} (hf : f ∈ froms) {objects : List α} {object : α}
    (hobjects : inNamespace f.namespace_ = .ok objects) (hobject : object ∈ objects) :
    object ∈ affectedByReferenceGrant inNamespace froms := by
  induction froms with
  | nil => cases hf
  | cons f' rest ih =>
    rw [affectedByReferenceGrant]
    rcases List.mem_cons.1 hf with rfl | hf
    · rw [hobjects]
      exact List.mem_append_left _ hobject
    · obtain ⟨objects', hobjects'⟩ := hlist f'.namespace_
      rw [hobjects']
      exact List.mem_append_right _ (ih hf)

theorem ChangesGrant.symm {kind : GrantKind} {key : NamespacedName} {before after : Grants}
    (h : ChangesGrant kind key before after) : ChangesGrant kind key after before :=
  ⟨fun key' hkey => (h.same key' hkey).symm, fun kind' hkind => (h.others kind' hkind).symm⟩

/-- The grant does not concern references from the namespace. -/
def NotFor (fromNamespace : String) (refGrant : ReferenceGrant) : Prop :=
  ∀ f ∈ refGrant.from_, f.namespace_ ≠ fromNamespace

/-- A grant that permits a reference is not the one that is changed. -/
theorem ChangesGrant.lookup {kind kind' : GrantKind} {key key' : NamespacedName}
    {before after : Grants} {refGrant : ReferenceGrant} {fromGK : GroupKind}
    {fromNamespace : String}
    (hchange : ChangesGrant kind key before after)
    (hfrom : ∀ refGrant, before kind key = some refGrant → NotFor fromNamespace refGrant)
    (hlookup : before kind' key' = some refGrant)
    (happlies : refGrant.from_.any
      (Validator.ReferenceGrantFrom.applies fromGK fromNamespace) = true) :
    after kind' key' = some refGrant := by
  by_cases hkind : kind' = kind
  · subst hkind
    by_cases hkey : key' = key
    · subst hkey
      obtain ⟨f, hf, hf'⟩ := List.any_eq_true.1 happlies
      simp only [Validator.ReferenceGrantFrom.applies, decide_eq_true_eq] at hf'
      exact absurd hf'.2.2.symm (hfrom refGrant hlookup f hf)
    · rw [hchange.same key' hkey, hlookup]
  · rw [hchange.others kind' hkind, hlookup]

/-- A change of a grant that is not for a namespace makes no difference there. -/
theorem referenceAllowed_congr {kind : GrantKind} {key : NamespacedName} {before after : Grants}
    {list list' : String → Except String (List ReferenceGrant)} {fromGK toGK : GroupKind}
    {fromNamespace toNamespace toName : String} (hchange : ChangesGrant kind key before after)
    (hbefore : ListsGrants before list) (hafter : ListsGrants after list')
    (hold : ∀ refGrant, before kind key = some refGrant → NotFor fromNamespace refGrant)
    (hnew : ∀ refGrant, after kind key = some refGrant → NotFor fromNamespace refGrant) :
    Validator.referenceAllowed fromGK fromNamespace toGK toNamespace toName list =
      Validator.referenceAllowed fromGK fromNamespace toGK toNamespace toName list' := by
  unfold Validator.referenceAllowed
  obtain ⟨l, hl, hmem⟩ := hbefore toNamespace
  obtain ⟨l', hl', hmem'⟩ := hafter toNamespace
  rw [hl, hl']
  refine if_congr Iff.rfl rfl (congrArg Except.ok (Bool.eq_iff_iff.2 ?_))
  simp only [List.any_eq_true, Bool.and_eq_true]
  constructor
  · rintro ⟨refGrant, hrefGrant, hfrom, hto⟩
    obtain ⟨kind', name, hlookup⟩ := (hmem refGrant).1 hrefGrant
    exact ⟨refGrant, (hmem' refGrant).2
      ⟨kind', name, hchange.lookup hold hlookup (List.any_eq_true.2 hfrom)⟩, hfrom, hto⟩
  · rintro ⟨refGrant, hrefGrant, hfrom, hto⟩
    obtain ⟨kind', name, hlookup⟩ := (hmem' refGrant).1 hrefGrant
    exact ⟨refGrant, (hmem refGrant).2
      ⟨kind', name, hchange.symm.lookup hnew hlookup (List.any_eq_true.2 hfrom)⟩, hfrom, hto⟩

/-- Where a change of a grant makes a difference to what is allowed in a namespace, the objects of
the namespace are requested. -/
theorem mem_requests_of_grant {α : Type} {name : α → NamespacedName}
    {inNamespace : String → Except String (List α)} {old new : Option ReferenceGrant}
    {fromNamespace : String} {objects : List α} {object : α}
    (hlist : ∀ ns, ∃ objects, inNamespace ns = .ok objects)
    (hobjects : inNamespace fromNamespace = .ok objects) (hobject : object ∈ objects)
    (h : ¬ ((∀ refGrant, old = some refGrant → NotFor fromNamespace refGrant) ∧
      ∀ refGrant, new = some refGrant → NotFor fromNamespace refGrant)) :
    name object ∈ enqueue (requestsFromReferenceGrant name inNamespace) old new := by
  have hmem : ∀ refGrant, ¬ NotFor fromNamespace refGrant →
      name object ∈ requestsFromReferenceGrant name inNamespace refGrant := by
    intro refGrant hfor
    simp only [NotFor, not_forall, ne_eq, not_not] at hfor
    obtain ⟨f, hf, rfl⟩ := hfor
    exact List.mem_map_of_mem (mem_affectedByReferenceGrant hlist hf hobjects hobject)
  simp only [not_and_or, not_forall] at h
  rcases h with ⟨refGrant, hlookup, hfor⟩ | ⟨refGrant, hlookup, hfor⟩
  · exact mem_enqueue (.inl hlookup) (hmem refGrant hfor)
  · exact mem_enqueue (.inr hlookup) (hmem refGrant hfor)

/-! ### Gateways -/

section

variable {a : ClusterAnswers} {texts : Texts} {g : Gateway}
  {grants : ℕ → String → Except String (List ReferenceGrant)}

/-- Answers that differ in the grants, but not in what these permit the gateway. -/
def SamePermissions (a : ClusterAnswers) (g : Gateway)
    (grants : ℕ → String → Except String (List ReferenceGrant)) : Prop :=
  ∀ i ref, Validator.gatewayAllowedForSecretRef g ref (a.getReferenceGrantsInNamespace i) =
    Validator.gatewayAllowedForSecretRef g ref (grants i)

theorem validateCertificate_congr (h : SamePermissions a g grants) (i : ℕ) (tls : GatewayTLSConfig)
    (ref : SecretObjectReference) (state : ListenerState) :
    Validator.validateCertificate a i g tls ref state =
      Validator.validateCertificate { a with getReferenceGrantsInNamespace := grants } i g tls ref
        state := by
  unfold Validator.validateCertificate
  rw [h i ref]

theorem validateTLS_congr (h : SamePermissions a g grants) (i : ℕ) (listener : Listener)
    (state : ListenerState) :
    Validator.validateTLS a i g listener state =
      Validator.validateTLS { a with getReferenceGrantsInNamespace := grants } i g listener
        state := by
  unfold Validator.validateTLS
  simp only [validateCertificate_congr h]

theorem validateListenersFrom_congr (h : SamePermissions a g grants) (i : ℕ)
    (ls : List GatewayListener) :
    Validator.validateListenersFrom a texts g i ls =
      Validator.validateListenersFrom { a with getReferenceGrantsInNamespace := grants } texts g i
        ls := by
  induction ls generalizing i with
  | nil => rfl
  | cons l ls ih =>
    have hlistener : Validator.validateListener a texts g i l = Validator.validateListener
        { a with getReferenceGrantsInNamespace := grants } texts g i l := by
      unfold Validator.validateListener
      rw [validateTLS_congr h]
    rw [Validator.validateListenersFrom, Validator.validateListenersFrom, hlistener, ih]

/-- A gateway's validation depends on the grants by what they permit it. -/
theorem validate_congr (h : SamePermissions a g grants)
    (service : Option Reconciler.Service) :
    Validator.validate a texts g service =
      Validator.validate { a with getReferenceGrantsInNamespace := grants } texts g service := by
  have hlisteners : Validator.validateListeners a texts g =
      Validator.validateListeners { a with getReferenceGrantsInNamespace := grants } texts g := by
    funext state
    unfold Validator.validateListeners
    rw [validateListenersFrom_congr h]
  unfold Validator.validate
  rw [hlisteners]
  rfl

end

/-- **A change of a grant that makes a difference to a gateway leads to a request for it**, if the
gateways can be listed. -/
theorem gateway_of_grant {kind : GrantKind} {key : NamespacedName} {before after : Grants}
    {a : ClusterAnswers} {grants : ℕ → String → Except String (List ReferenceGrant)} {texts : Texts}
    {g : Gateway} {service : Option Reconciler.Service}
    {inNamespace : String → Except String (List Gateway)} {gateways : List Gateway}
    (hchange : ChangesGrant kind key before after)
    (hbefore : ∀ i, ListsGrants before (a.getReferenceGrantsInNamespace i))
    (hafter : ∀ i, ListsGrants after (grants i))
    (hlist : ∀ ns, ∃ gateways, inNamespace ns = .ok gateways)
    (hgateways : inNamespace g.namespace_ = .ok gateways) (hg : g ∈ gateways)
    (hdiffers : Validator.validate a texts g service ≠
      Validator.validate { a with getReferenceGrantsInNamespace := grants } texts g service) :
    g.namespacedName ∈ enqueue (requestsFromReferenceGrant (fun g => g.namespacedName) inNamespace)
      (before kind key) (after kind key) := by
  refine mem_requests_of_grant hlist hgateways hg fun hnot => hdiffers (validate_congr ?_ service)
  exact fun i ref => referenceAllowed_congr hchange (hbefore i) (hafter i) hnot.1 hnot.2

namespace SampleRequests

/-- A gateway whose certificate is in another namespace. -/
def gateway : DeployedGateway where
  groupKind := gatewayGroupKind
  name := "gateway"
  namespace_ := "team"
  listeners := [
    { name := "https", port := 443, protocol := .https
      tls := some
        { certificateRefs := [{ name := "cert", namespace_ := some ⟨"certs", by decide⟩ }] } }]
  uid := "1"
  creationTimestamp := 7

def grant : ReferenceGrant :=
  ⟨[⟨groupName, "Gateway", "team"⟩, ⟨groupName, "TCPRoute", "team"⟩],
    [⟨"", "Secret", none⟩, ⟨"", "Service", none⟩]⟩

def key : NamespacedName := ⟨"certs", "grant"⟩

/-- The cluster without the grant, and with it. -/
def grants (granted : Bool) : Grants := fun kind name =>
  if granted ∧ kind = .referenceGrant ∧ name = key then some grant else none

def list (granted : Bool) (ns : String) : Except String (List ReferenceGrant) :=
  .ok (if granted ∧ ns = "certs" then [grant] else [])

theorem lists (granted : Bool) : ListsGrants (grants granted) (list granted) := by
  intro ns
  refine ⟨_, rfl, fun refGrant => ?_⟩
  unfold grants
  constructor
  · intro hmem
    split_ifs at hmem with h
    · cases List.mem_singleton.1 hmem
      exact ⟨.referenceGrant, "grant", if_pos ⟨h.1, rfl, by rw [h.2]; rfl⟩⟩
    · cases hmem
  · rintro ⟨kind, name, hsome⟩
    split_ifs at hsome with h
    · cases hsome
      obtain ⟨hgranted, -, hkey⟩ := h
      rw [if_pos ⟨hgranted, (NamespacedName.mk.inj hkey).1⟩]
      exact List.mem_singleton_self _

theorem changes : ChangesGrant .referenceGrant key (grants false) (grants true) := by
  constructor
  · intro key' hkey
    simp [grants, hkey]
  · intro kind hkind
    funext name
    simp [grants, hkind]

def answers : ClusterAnswers where
  podsWithLabels := .ok []
  addressPods := .ok []
  getService := .ok none
  getReferenceGrantsInNamespace _ := list false
  getSecret _ _ := .ok true

def texts : Texts := ⟨.listed, .listed, fun _ => ""⟩

/-- The certificates that a validation ends with. -/
def certificates (result : Except String GatewayState) : List (List String) :=
  (result.toOption.map fun state => state.listeners.map fun l => l.state.tls.certificates).getD []

theorem gateway_of_grant_here : gateway.namespacedName ∈ enqueue
    (requestsFromReferenceGrant (fun g : Gateway => g.namespacedName) fun ns =>
      .ok (if ns = "team" then [gateway.toGateway] else []))
    (grants false .referenceGrant key) (grants true .referenceGrant key) := by
  have hdiffers : Validator.validate answers texts gateway.toGateway none ≠ Validator.validate
      { answers with getReferenceGrantsInNamespace := fun _ => list true } texts gateway.toGateway
        none :=
    fun h => absurd (congrArg certificates h) (by decide)
  exact gateway_of_grant changes (fun _ => lists false) (fun _ => lists true)
    (fun _ => ⟨_, rfl⟩) rfl
    List.mem_cons_self hdiffers

end SampleRequests

/-! ### Certificates -/

/-- `handler.EnqueueRequestForOwner`: a secret of the gateway's own leads to its controller. -/
def ownerRequests (key : NamespacedName) (owners : List OwnerReference) : List NamespacedName :=
  (((getControllerOf owners).filter fun ref => ref.groupKind = gatewayGroupKind).map fun ref =>
    ⟨key.namespace_, ref.name⟩).toList

/-- **A certificate that appears is not noticed**: it makes a difference to the listener that refers
to it, but a secret without a controller does not lead to a request. -/
theorem certificate_not_watched {a : ClusterAnswers}
    {getSecret : ℕ → NamespacedName → Except String Bool}
    {i : ℕ} {g : Gateway} {tls : GatewayTLSConfig} {ref : SecretObjectReference}
    {state : ListenerState} {owners : List OwnerReference}
    (hkind : Validator.secretGroupKind ref = ⟨"", "Secret"⟩)
    (hallowed : Validator.gatewayAllowedForSecretRef g ref (a.getReferenceGrantsInNamespace i) =
      .ok true)
    (hbefore : a.getSecret i (Validator.getNamespacedName ref.name ref.namespace_ g.namespace_) =
      .ok false)
    (hafter : getSecret i (Validator.getNamespacedName ref.name ref.namespace_ g.namespace_) =
      .ok true)
    (hstate : state.tls.certificates = []) (howners : getControllerOf owners = none) :
    Validator.validateCertificate a i g tls ref state ≠
        Validator.validateCertificate { a with getSecret := getSecret } i g tls ref state ∧
      enqueue (ownerRequests (Validator.getNamespacedName ref.name ref.namespace_ g.namespace_))
        none (some owners) = [] := by
  constructor
  · intro heq
    unfold Validator.validateCertificate Validator.resolveCertificateReference at heq
    simp only [hallowed, hkind, and_self, if_true, hbefore, hafter] at heq
    have hcertificates := congrArg (fun state => state.tls.certificates) (Except.ok.inj heq)
    dsimp only at hcertificates
    rw [hstate, (Validator.sameCertificates_validateTLSOptions _ _).2] at hcertificates
    cases hcertificates
  · simp [enqueue, ownerRequests, howners]

namespace SampleRequests

def missing (_ : ℕ) (_ : NamespacedName) : Except String Bool := .ok false

def listenerState : ListenerState := { protocol := .https, name := "https" }

/-- The gateway refers to a secret of its own namespace, which nothing owns. -/
theorem certificate_not_watched_here :
    Validator.validateCertificate { answers with getSecret := missing } 0 gateway.toGateway {}
        { name := "cert" } listenerState ≠
      Validator.validateCertificate answers 0 gateway.toGateway {} { name := "cert" }
        listenerState ∧
      enqueue (ownerRequests ⟨"team", "cert"⟩) none (some []) = [] :=
  certificate_not_watched rfl rfl rfl rfl rfl rfl

end SampleRequests

/-! ### Pods -/

/-- A pod with its labels, and whether it is being deleted. -/
structure ClusterPod where
  labels : GoMap String String
  deleting : Bool
  pod : Pod

/-- `client.MatchingLabels` -/
def matchesLabels (selector labels : GoMap String String) : Bool :=
  ∀ k ∈ selector.keys, labels.lookup k = selector.lookup k

/-- All namespaces are searched. -/
def podsWithLabels (pods : Objects ClusterPod) (selector : GoMap String String) : Objects Pod :=
  fun key => (pods key).bind fun p =>
    if matchesLabels selector p.labels && !p.deleting then some p.pod else none

/-- The request is for a gateway in the namespace of the pod. -/
def podToGatewayRequest (key : NamespacedName) (pod : ClusterPod) : List NamespacedName :=
  match isManagedGateway pod.labels with
  | some gw => [⟨key.namespace_, gw⟩]
  | none => []

/-- The watch of the pods, whose predicate looks at what a pod is now, or was when it was
deleted. -/
def enqueuePod (key : NamespacedName) (old new : Option ClusterPod) : List NamespacedName :=
  if (new.or old).any fun p => p.labels.lookup managedLabel = some "true" then
    enqueue (podToGatewayRequest key) old new
  else []

/-- A pod that is selected by the labels of a gateway. -/
theorem isManagedGateway_of_matches {g : DeployedGateway} {labels : GoMap String String}
    (h : matchesLabels (labelsForGateway g) labels = true) :
    labels.lookup managedLabel = some "true" ∧ isManagedGateway labels = some g.name := by
  obtain ⟨hname, -, hmanaged⟩ := lookup_labelsForGateway g
  have hkeys := of_decide_eq_true h
  have hlookup : ∀ {k v}, (labelsForGateway g).lookup k = some v → labels.lookup k = some v := by
    intro k v hk
    rw [hkeys k (Finmap.mem_keys.2 (Finmap.mem_of_lookup_eq_some hk)), hk]
  exact ⟨hlookup hmanaged, by rw [isManagedGateway, if_pos (hlookup hmanaged), hlookup hname]⟩

/-- The answers with the pods that a listing returns. -/
def withPods (a : ClusterAnswers) (pods : Except String (List Pod)) : ClusterAnswers :=
  { a with podsWithLabels := pods, addressPods := pods }

/-- **A change of a pod that makes a difference to a gateway of its namespace leads to a request for
it**, unless the pod loses the label that the controller watches. -/
theorem gateway_of_pod {key : NamespacedName} {before after : Objects ClusterPod}
    {list : Objects Pod → Except String (List Pod)} {a : ClusterAnswers} {texts : Texts}
    {g : DeployedGateway} {service : Option Reconciler.Service}
    (hchange : ChangesAt key before after)
    (hnamespace : key.namespace_ = g.namespace_)
    (hwatched : ∀ p, after key = some p → p.labels.lookup managedLabel = some "true")
    (hdiffers :
      Validator.validate (withPods a (list (podsWithLabels before (labelsForGateway g)))) texts
        g.toGateway service ≠
      Validator.validate (withPods a (list (podsWithLabels after (labelsForGateway g)))) texts
        g.toGateway service) :
    g.namespacedName ∈ enqueuePod key (before key) (after key) := by
  -- the pod is selected before or after
  have hselected : ∃ p, (before key = some p ∨ after key = some p) ∧
      matchesLabels (labelsForGateway g) p.labels = true := by
    by_contra hnot
    simp only [not_exists, not_and, Bool.not_eq_true] at hnot
    refine hdiffers (congrArg (fun pods => Validator.validate (withPods a (list pods)) texts
      g.toGateway service) (funext fun key' => ?_))
    by_cases hkey : key' = key
    · subst hkey
      have hnone : ∀ pods : Objects ClusterPod, (∀ p, pods key' = some p →
          matchesLabels (labelsForGateway g) p.labels = false) →
          podsWithLabels pods (labelsForGateway g) key' = none := by
        intro pods hpods
        unfold podsWithLabels
        cases hp : pods key' with
        | none => rfl
        | some p => simp [hpods p hp]
      rw [hnone before fun p hp => hnot p (.inl hp), hnone after fun p hp => hnot p (.inr hp)]
    · unfold podsWithLabels
      rw [hchange key' hkey]
  obtain ⟨p, hp, hmatches⟩ := hselected
  obtain ⟨hmanaged, hgateway⟩ := isManagedGateway_of_matches hmatches
  unfold enqueuePod
  rw [if_pos]
  · refine mem_enqueue hp ?_
    rw [podToGatewayRequest, hgateway, hnamespace]
    exact List.mem_singleton_self _
  · cases hafter : after key with
    | some p' => simp [hwatched p' hafter]
    | none =>
      have hbefore : before key = some p := hp.resolve_right (by simp [hafter])
      simp [hbefore, hmanaged]

namespace SampleRequests

def podKey : NamespacedName := ⟨"team", "pod"⟩

/-- A pod of the gateway that runs. -/
def pods (running : Bool) : Objects ClusterPod := fun key =>
  if running ∧ key = podKey then some ⟨labelsForGateway gateway, false, ⟨.running, [], "", ""⟩⟩
  else none

def listPods (pods : Objects Pod) : Except String (List Pod) := .ok (pods podKey).toList

/-- What a validation says of the pods. -/
def scheduled (result : Except String GatewayState) : Bool :=
  result.toOption.any fun state => state.status.scheduled.notReconciled.isNone

theorem gateway_of_pod_here :
    gateway.namespacedName ∈ enqueuePod podKey (pods false podKey) (pods true podKey) := by
  have hchange : ChangesAt podKey (pods false) (pods true) := by
    intro key' hkey
    simp [pods, hkey]
  have hdiffers : Validator.validate (withPods answers (listPods
        (podsWithLabels (pods false) (labelsForGateway gateway)))) texts gateway.toGateway none ≠
      Validator.validate (withPods answers (listPods
        (podsWithLabels (pods true) (labelsForGateway gateway)))) texts gateway.toGateway none :=
    fun h => absurd (congrArg scheduled h) (by decide)
  refine gateway_of_pod hchange rfl (fun p hp => ?_) hdiffers
  cases Option.some.inj hp
  exact (lookup_labelsForGateway gateway).2.2

end SampleRequests

/-! ### Routes -/

/-- The references of a route, rule by rule. -/
def backendRefs : Route → List (List BackendRef)
  | .http route => route.rules.map fun rule => rule.backendRefs.map HTTPBackendRef.toBackendRef
  | .tcp route => route.rules.map TCPRouteRule.backendRefs

/-- The backend of a route is the service; the kind of the backend is not looked at. -/
def refersTo (namespace_ : String) (service : NamespacedName) (ref : BackendRef) : Bool :=
  (ref.namespace_.map Subtype.val).getD namespace_ = service.namespace_ ∧ ref.name = service.name

/-- `getRoutesAffectedByService` of either kind of routes. -/
def getRoutesAffectedByService (routes : Except String (List Route)) (service : NamespacedName) :
    List Route :=
  match routes with
  | .error _ => []
  | .ok routes => routes.filter fun route => (backendRefs route).any fun refs =>
      refs.any (refersTo route.toRouteMeta.namespace_ service)

def serviceToRouteRequests (routes : Except String (List Route)) (service : NamespacedName) :
    List NamespacedName :=
  (getRoutesAffectedByService routes service).map fun route => route.toRouteMeta.namespacedName

section

variable {a a' : RouteAnswers} {object : ObjectMeta}

theorem validateBackendRefs_congr {i : ℕ} {refs : List HTTPBackendRef}
    (h : ∀ i j, ∀ ref ∈ refs, RouteValidator.resolveBackendRef a i j object ref.toBackendRef =
      RouteValidator.resolveBackendRef a' i j object ref.toBackendRef)
    (j : ℕ) (errors : ResolutionErrors) :
    RouteValidator.validateBackendRefs a i object j refs errors =
      RouteValidator.validateBackendRefs a' i object j refs errors := by
  induction refs generalizing j errors with
  | nil => rfl
  | cons ref refs ih =>
    have hrest := ih fun i j ref' hmem => h i j ref' (List.mem_cons_of_mem _ hmem)
    rw [RouteValidator.validateBackendRefs, RouteValidator.validateBackendRefs,
      h i j ref List.mem_cons_self]
    simp only [hrest]

theorem validateRules_congr {rules : List HTTPRouteRule}
    (h : ∀ i j, ∀ rule ∈ rules, ∀ ref ∈ rule.backendRefs,
      RouteValidator.resolveBackendRef a i j object ref.toBackendRef =
        RouteValidator.resolveBackendRef a' i j object ref.toBackendRef)
    (i : ℕ) (errors : ResolutionErrors) :
    RouteValidator.validateRules a object i rules errors =
      RouteValidator.validateRules a' object i rules errors := by
  induction rules generalizing i errors with
  | nil => rfl
  | cons rule rules ih =>
    have hrest := ih fun i j rule' hmem => h i j rule' (List.mem_cons_of_mem _ hmem)
    rw [RouteValidator.validateRules, RouteValidator.validateRules,
      validateBackendRefs_congr fun i j => h i j rule List.mem_cons_self]
    simp only [hrest]

theorem validateTCPRoute_congr {route : TCPRoute}
    (h : ∀ i j, ∀ rule ∈ route.rules, ∀ ref ∈ rule.backendRefs,
      RouteValidator.resolveBackendRef a i j route.toObjectMeta ref =
        RouteValidator.resolveBackendRef a' i j route.toObjectMeta ref) :
    RouteValidator.validateTCPRoute a route = RouteValidator.validateTCPRoute a' route := by
  unfold RouteValidator.validateTCPRoute
  rcases hrules : route.rules with _ | ⟨rule, _ | ⟨rule', rules⟩⟩
  · rfl
  · dsimp only
    rcases hrefs : rule.backendRefs with _ | ⟨ref, _ | ⟨ref', refs⟩⟩
    · rfl
    · dsimp only
      rw [h 0 0 rule (by simp [hrules]) ref (by simp [hrefs])]
    · rfl
  · rfl

/-- A route's validation depends on what its backends are resolved to. -/
theorem validateRoute_congr {route : Route}
    (h : ∀ i j, ∀ refs ∈ backendRefs route, ∀ ref ∈ refs,
      RouteValidator.resolveBackendRef a i j route.toRouteMeta.toObjectMeta ref =
        RouteValidator.resolveBackendRef a' i j route.toRouteMeta.toObjectMeta ref) :
    RouteValidator.validate a route = RouteValidator.validate a' route := by
  cases route with
  | http route =>
    have hroute : RouteValidator.validateHTTPRoute a route =
        RouteValidator.validateHTTPRoute a' route :=
      validateRules_congr (fun i j rule hrule ref href =>
        h i j _ (List.mem_map_of_mem hrule) _ (List.mem_map_of_mem href)) 0 ∅
    exact congrArg (Except.map (newHTTPRoute route)) hroute
  | tcp route =>
    have hroute : RouteValidator.validateTCPRoute a route =
        RouteValidator.validateTCPRoute a' route :=
      validateTCPRoute_congr fun i j rule hrule ref href =>
        h i j _ (List.mem_map_of_mem hrule) ref href
    exact congrArg (Except.map (newTCPRoute route)) hroute

end

/-- **A change of a grant that makes a difference to a route leads to a request for it**, if the
routes can be listed. -/
theorem route_of_grant {kind : GrantKind} {key : NamespacedName} {before after : Grants}
    {a : RouteAnswers} {grants : ℕ → ℕ → String → Except String (List ReferenceGrant)}
    {route : Route} {inNamespace : String → Except String (List Route)} {routes : List Route}
    (hchange : ChangesGrant kind key before after)
    (hbefore : ∀ i j, ListsGrants before (a.getReferenceGrantsInNamespace i j))
    (hafter : ∀ i j, ListsGrants after (grants i j))
    (hlist : ∀ ns, ∃ routes, inNamespace ns = .ok routes)
    (hroutes : inNamespace route.toRouteMeta.namespace_ = .ok routes) (hroute : route ∈ routes)
    (hdiffers : RouteValidator.validate a route ≠
      RouteValidator.validate { a with getReferenceGrantsInNamespace := grants } route) :
    route.toRouteMeta.namespacedName ∈ enqueue
      (requestsFromReferenceGrant (fun route => route.toRouteMeta.namespacedName) inNamespace)
      (before kind key) (after kind key) := by
  refine mem_requests_of_grant hlist hroutes hroute fun hnot => hdiffers (validateRoute_congr ?_)
  intro i j refs _ ref _
  unfold RouteValidator.resolveBackendRef RouteValidator.routeAllowedForBackendRef
  rw [referenceAllowed_congr hchange (hbefore i j) (hafter i j) hnot.1 hnot.2]

namespace SampleRequests

/-- A route whose backend is in another namespace. -/
def route : Route := .tcp
  { namespace_ := "team"
    name := "route"
    groupKind := ⟨groupName, "TCPRoute"⟩
    parentRefs := [{ name := "gateway" }]
    rules := [{ backendRefs :=
      [{ name := "web", namespace_ := some ⟨"certs", by decide⟩, port := some 80 }] }] }

def routeAnswers (granted : Bool) : RouteAnswers where
  getReferenceGrantsInNamespace _ _ := list granted
  resolve _ _ _ _ := .ok (.consulService () ⟨"", "web"⟩)

/-- The backend of the route is found and permitted. -/
def resolved (result : Except String K8sRoute) : Bool :=
  result.toOption.any fun r => r.routeState.resolutionErrors = ∅

theorem route_of_grant_here : route.toRouteMeta.namespacedName ∈ enqueue
    (requestsFromReferenceGrant (fun route : Route => route.toRouteMeta.namespacedName) fun ns =>
      .ok (if ns = "team" then [route] else []))
    (grants false .referenceGrant key) (grants true .referenceGrant key) := by
  have hdiffers : RouteValidator.validate (routeAnswers false) route ≠ RouteValidator.validate
      { routeAnswers false with getReferenceGrantsInNamespace := fun _ _ => list true } route :=
    fun h => absurd (congrArg resolved h) (by decide)
  exact route_of_grant changes (fun _ _ => lists false) (fun _ _ => lists true) (fun _ => ⟨_, rfl⟩)
    rfl List.mem_cons_self hdiffers

end SampleRequests

/-- The answers of the cluster to the resolver, with these services. -/
def withServices (resolver : ℕ → ℕ → ResolverAnswers)
    (getService : NamespacedName → Except String (Option NamespacedName)) (mapper : String → String)
    (a : RouteAnswers) : RouteAnswers :=
  { a with resolve := fun i j =>
      BackendResolver.resolve mapper { resolver i j with getService := getService } }

/-- A reference to another object is resolved without asking for the service. -/
theorem resolve_congr {mapper : String → String} {resolver : ResolverAnswers}
    {getService getService' : NamespacedName → Except String (Option NamespacedName)}
    {service : NamespacedName} {namespace_ : String} {ref : BackendRef}
    (hchange : ∀ name ≠ service, getService' name = getService name)
    (href : refersTo namespace_ service ref = false) :
    BackendResolver.resolve mapper { resolver with getService := getService } namespace_
        ref.toBackendObjectReference =
      BackendResolver.resolve mapper { resolver with getService := getService' } namespace_
        ref.toBackendObjectReference := by
  have hname : (⟨(ref.namespace_.map Subtype.val).getD namespace_, ref.name⟩ : NamespacedName) ≠
      service := by
    rintro rfl
    simp [refersTo] at href
  unfold BackendResolver.resolve BackendResolver.consulServiceForK8SService
  simp only [hchange _ hname]
  rfl

/-- **A service that comes or goes and makes a difference to a route leads to a request for it**, if
the routes can be listed. -/
theorem route_of_service {mapper : String → String} {a : RouteAnswers}
    {resolver : ℕ → ℕ → ResolverAnswers}
    {getService getService' : NamespacedName → Except String (Option NamespacedName)}
    {service : NamespacedName} {route : Route} {routes : List Route}
    (hchange : ∀ name ≠ service, getService' name = getService name) (hroute : route ∈ routes)
    (hdiffers : RouteValidator.validate (withServices resolver getService mapper a) route ≠
      RouteValidator.validate (withServices resolver getService' mapper a) route) :
    route.toRouteMeta.namespacedName ∈ serviceToRouteRequests (.ok routes) service := by
  by_contra hnot
  refine hdiffers (validateRoute_congr fun i j refs hrefs ref href => ?_)
  have hrefersTo : refersTo route.toRouteMeta.namespace_ service ref = false := by
    by_contra hrefersTo
    refine hnot (List.mem_map.2 ⟨route, List.mem_filter.2 ⟨hroute, List.any_eq_true.2
      ⟨refs, hrefs, List.any_eq_true.2 ⟨ref, href, by simpa using hrefersTo⟩⟩⟩, rfl⟩)
  unfold RouteValidator.resolveBackendRef
  simp only [withServices, resolve_congr hchange hrefersTo]

namespace SampleRequests

def getService (present : Bool) (name : NamespacedName) : Except String (Option NamespacedName) :=
  .ok (if present ∧ name = ⟨"certs", "web"⟩ then some name else none)

/-- A node of Consul on which the service runs. -/
def consul : ConsulAnswers where
  nodes := .ok ["node"]
  namespaces := .ok []
  node _ _ _ := .ok (some [("web", ⟨"web", ""⟩)])
  peering _ _ := .ok none
  service _ _ := .ok []

def resolver (_ _ : ℕ) : ResolverAnswers := ⟨getService false, fun _ => .ok none, consul, []⟩

theorem route_of_service_here :
    route.toRouteMeta.namespacedName ∈ serviceToRouteRequests (.ok [route]) ⟨"certs", "web"⟩ := by
  have hchange : ∀ name ≠ ⟨"certs", "web"⟩, getService true name = getService false name := by
    intro name hname
    simp [getService, hname]
  have hdiffers : RouteValidator.validate
        (withServices resolver (getService false) id (routeAnswers true)) route ≠
      RouteValidator.validate (withServices resolver (getService true) id (routeAnswers true))
        route :=
    fun h => absurd (congrArg resolved h) (by decide)
  exact route_of_service hchange List.mem_cons_self hdiffers

end SampleRequests

end Controllers
