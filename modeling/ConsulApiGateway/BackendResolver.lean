/-
The resolver of backends (`internal/k8s/service/resolver.go`).

A backend of a route is a service of Kubernetes or a mesh service.  The resolver
looks for the Consul services that belong to it and asks that they be one: the
same name and namespace for all of them.  It keeps the name and the namespace it
has seen so far, where `""` is both "not seen yet" and a value of its own.

* `validateFrom_eq_ok_iff` — the loop accepts the services that come in ascending
  order, where a service precedes those that agree with it on all it specifies,
  and returns the last one;
* `isConsulService_resolve` — a resolved backend is a Consul service;
* `validateConsulReference_iff` — the loop decides whether all services agree,
  whatever the order, exactly if the services are equal or not all comparable;
* `consulReference_order_dependent` — two services that are comparable.
-/
import ConsulApiGateway.IntentionUpdates
import ConsulApiGateway.RouteValidator
import Mathlib.Order.Preorder.Chain

namespace Reconciler

open K8s

/-! ### What the resolver asks for -/

structure AgentService where
  service : String
  namespace_ : String

def AgentService.consul (s : AgentService) : ConsulService := ⟨s.namespace_, s.service⟩

structure CatalogService where
  serviceName : String
  namespace_ : String

def CatalogService.consul (s : CatalogService) : ConsulService := ⟨s.namespace_, s.serviceName⟩

/-- A `MeshService`: its own namespace, and the name and peer of its spec. -/
structure MeshService where
  namespace_ : String
  name : String
  peer : Option String

/-- What Consul answers during one attempt.  The services of a node are a map, and
are given in the order in which it is visited. -/
structure ConsulAnswers where
  nodes : Except String (List String)
  namespaces : Except String (List String)
  node : (node filter namespace_ : String) → Except String (Option (List (String × AgentService)))
  peering : (peer namespace_ : String) → Except String (Option (List String))
  service : (name namespace_ : String) → Except String (List CatalogService)

/-- What a resolution meets.  Consul is asked at least once, and again as long as
it fails, the context is alive and there are retries left. -/
structure ResolverAnswers where
  getService : NamespacedName → Except String (Option NamespacedName)
  getMeshService : NamespacedName → Except String (Option MeshService)
  consul : ConsulAnswers
  retries : List ConsulAnswers

namespace BackendResolver

/-! ### One Consul service for all -/

/-- The loop of `validateAgentConsulReference` and `validateCatalogConsulReference`,
from the name and the namespace seen so far. -/
def validateFrom (seen : ConsulService) :
    List ConsulService → Except ResolveFailure (ResolvedReference Unit)
  | [] => .ok (.consulService () seen)
  | service :: services =>
    let serviceName := if seen.name = "" then service.name else seen.name
    let serviceNamespace := if seen.namespace_ = "" then service.namespace_ else seen.namespace_
    if service.name ≠ serviceName ∨ service.namespace_ ≠ serviceNamespace then
      .error (.resolution .consulService
        ("must have a single service map to a kubernetes service, found - (" ++
          GoStd.quote serviceNamespace ++ ", " ++ GoStd.quote serviceName ++ ") and (" ++
          GoStd.quote service.namespace_ ++ ", " ++ GoStd.quote service.name ++ ")"))
    else validateFrom ⟨serviceNamespace, serviceName⟩ services

/-- The services in the order in which the map is visited. -/
def validateAgentConsulReference (services : List (String × AgentService)) :
    Except ResolveFailure (ResolvedReference Unit) :=
  validateFrom ⟨"", ""⟩ (services.map fun s => s.2.consul)

def validateCatalogConsulReference (services : List CatalogService) :
    Except ResolveFailure (ResolvedReference Unit) :=
  validateFrom ⟨"", ""⟩ (services.map CatalogService.consul)

/-! ### Resolving a backend -/

/-- `backoff.Retry`: the first success or the last error. -/
def retry {α ε β : Type} (attempt : α → Except ε β) : α → List α → Except ε β
  | a, [] => attempt a
  | a, next :: rest =>
    match attempt a with
    | .ok b => .ok b
    | .error _ => retry attempt next rest

/-- At most thirty retries are made. -/
def retryConsul {β : Type} (a : ResolverAnswers)
    (attempt : ConsulAnswers → Except ResolveFailure β) : Except ResolveFailure β :=
  retry attempt a.consul (a.retries.take 30)

/-- The loop over the nodes and, for each, the namespaces. -/
def findOnNodes (c : ConsulAnswers) (filter : String) :
    List (String × String) → Except ResolveFailure (Option (ResolvedReference Unit))
  | [] => .ok none
  | (node, namespace_) :: rest =>
    match c.node node filter namespace_ with
    | .error err => .error (.other err)
    | .ok none => findOnNodes c filter rest
    | .ok (some []) => findOnNodes c filter rest
    | .ok (some services) => (validateAgentConsulReference services).map some

/-- The default namespace and, on Consul Enterprise, those that are listed. -/
def catalogNamespaces (c : ConsulAnswers) : Except ResolveFailure (List String) :=
  match c.namespaces with
  | .ok names => .ok ("" :: names)
  | .error err =>
    if Consul.contains err "Unexpected response code: 404" then .ok [""] else .error (.other err)

def findGlobalCatalogService (c : ConsulAnswers) (service : NamespacedName) :
    Except ResolveFailure (Option (ResolvedReference Unit)) := do
  let nodes ← c.nodes.mapError .other
  let namespaces ← catalogNamespaces c
  let filter := "Meta[\"k8s-service-name\"] == " ++ GoStd.quote service.name ++
    " and Meta[\"k8s-namespace\"] == " ++ GoStd.quote service.namespace_ ++
    " and Kind != \"connect-proxy\""
  findOnNodes c filter (nodes.flatMap fun node => namespaces.map fun ns => (node, ns))

def consulServiceForK8SService (a : ResolverAnswers) (name : NamespacedName) :
    Except ResolveFailure (ResolvedReference Unit) :=
  match a.getService name with
  | .error err => .error (.other err)
  | .ok none => .error (.resolution .backendNotFound ("service " ++ name.toString ++ " not found"))
  | .ok (some service) => retryConsul a fun c =>
    match findGlobalCatalogService c service with
    | .error err => .error err
    | .ok none => .error (.resolution .backendNotFound
        ("consul service " ++ name.toString ++ " not found"))
    | .ok (some resolved) => .ok resolved

def findPeerService (mapper : String → String) (c : ConsulAnswers) (service : MeshService) :
    Except ResolveFailure (ResolvedReference Unit) :=
  let peer := service.peer.getD ""
  let consulNamespace := mapper service.namespace_
  if peer = "" then .error (.resolution .consulService "peer name expected but not provided")
  else match c.peering peer consulNamespace with
    | .error err => .error (.other err)
    | .ok none => .error (.resolution .consulService ("no peer " ++ GoStd.quote peer ++ " found"))
    | .ok (some importedServices) =>
      if service.name ∈ importedServices then
        .ok (.consulService () ⟨consulNamespace, service.name⟩)
      else .error (.resolution .consulService
        ("no service " ++ service.name ++ " found from peer " ++ peer))

def findCatalogService (mapper : String → String) (c : ConsulAnswers) (service : MeshService) :
    Except ResolveFailure (ResolvedReference Unit) :=
  let consulNamespace := mapper service.namespace_
  match c.service service.name consulNamespace with
  | .error err => .error (.other err)
  | .ok [] => .error (.resolution .backendNotFound
      ("consul service (" ++ consulNamespace ++ ", " ++ service.name ++ ") not found"))
  | .ok services => validateCatalogConsulReference services

/-- Neither search returns without a service, so that the errors for that case do
not occur. -/
def consulServiceForMeshService (mapper : String → String) (a : ResolverAnswers)
    (name : NamespacedName) : Except ResolveFailure (ResolvedReference Unit) :=
  match a.getMeshService name with
  | .error err => .error (.other err)
  | .ok none => .error (.resolution .backendNotFound
      ("kubernetes mesh service object " ++ name.toString ++ " not found"))
  | .ok (some service) => retryConsul a fun c =>
    if service.peer.getD "" ≠ "" then findPeerService mapper c service
    else findCatalogService mapper c service

/-- The group of the custom resources. -/
def apiGroup : String := "api-gateway.consul.hashicorp.com"

def resolve (mapper : String → String) (a : ResolverAnswers) (namespace_ : String)
    (ref : BackendObjectReference) : Except ResolveFailure (ResolvedReference Unit) :=
  let group := ref.group.getD ""
  let kind := ref.kind.getD "Service"
  let name : NamespacedName := ⟨(ref.namespace_.map Subtype.val).getD namespace_, ref.name⟩
  if group = "" ∧ kind = "Service" then
    if ref.port = none then .error (.resolution .k8sService "service port must not be empty")
    else consulServiceForK8SService a name
  else if group = apiGroup ∧ kind = "MeshService" then consulServiceForMeshService mapper a name
  else .error (.resolution .invalidKind ("unsupported reference kind " ++ kind))

/-! ### The order of the services -/

/-- `t` agrees with all that `s` specifies. -/
def Precedes (s t : ConsulService) : Prop :=
  (s.name = "" ∨ s.name = t.name) ∧ (s.namespace_ = "" ∨ s.namespace_ = t.namespace_)

instance (s t : ConsulService) : Decidable (Precedes s t) := by
  unfold Precedes
  infer_instance

/-- How many of the two strings a service specifies. -/
def specified (s : ConsulService) : ℕ :=
  (if s.name = "" then 0 else 1) + (if s.namespace_ = "" then 0 else 1)

section Order

variable {s t u : ConsulService}

theorem precedes_refl (s : ConsulService) : Precedes s s := ⟨.inr rfl, .inr rfl⟩

theorem bottom_precedes (s : ConsulService) : Precedes ⟨"", ""⟩ s := ⟨.inl rfl, .inl rfl⟩

theorem Precedes.trans (h : Precedes s t) (h' : Precedes t u) : Precedes s u := by
  obtain ⟨hname, hnamespace⟩ := h
  obtain ⟨hname', hnamespace'⟩ := h'
  constructor
  · rcases hname with h | h
    · exact .inl h
    · rwa [h]
  · rcases hnamespace with h | h
    · exact .inl h
    · rwa [h]

instance : Trans Precedes Precedes Precedes := ⟨Precedes.trans⟩

/-- A service that precedes another one and specifies as much is the same. -/
theorem Precedes.eq_of_specified_le (h : Precedes s t) (hle : specified t ≤ specified s) :
    s = t := by
  obtain ⟨sns, sname⟩ := s
  obtain ⟨tns, tname⟩ := t
  obtain ⟨hname, hnamespace⟩ := h
  dsimp only at hname hnamespace
  unfold specified at hle
  dsimp only at hle
  grind

/-- One step of the loop: the service that is visited replaces the one seen so
far, unless it contradicts it. -/
theorem validateFrom_cons (services : List ConsulService) (h : Precedes s t) :
    validateFrom s (t :: services) = validateFrom t services := by
  obtain ⟨hname, hnamespace⟩ := h
  have hname' : (if s.name = "" then t.name else s.name) = t.name := by
    split_ifs with hempty
    · rfl
    · exact hname.resolve_left hempty
  have hnamespace' : (if s.namespace_ = "" then t.namespace_ else s.namespace_) = t.namespace_ := by
    split_ifs with hempty
    · rfl
    · exact hnamespace.resolve_left hempty
  rw [validateFrom, hname', hnamespace']
  simp

theorem validateFrom_cons_of_not (services : List ConsulService) (h : ¬ Precedes s t)
    (r : ResolvedReference Unit) : validateFrom s (t :: services) ≠ .ok r := by
  have hdiffers : t.name ≠ (if s.name = "" then t.name else s.name) ∨
      t.namespace_ ≠ (if s.namespace_ = "" then t.namespace_ else s.namespace_) := by
    unfold Precedes at h
    grind
  intro hok
  rw [validateFrom, if_pos hdiffers] at hok
  cases hok

/-- The loop accepts what comes in ascending order, and returns the last service. -/
theorem validateFrom_eq_ok_iff {seen : ConsulService} {services : List ConsulService}
    {r : ResolvedReference Unit} : validateFrom seen services = .ok r ↔
      (seen :: services).Pairwise Precedes ∧
        r = .consulService () ((seen :: services).getLast (List.cons_ne_nil _ _)) := by
  rw [← List.isChain_iff_pairwise]
  induction services generalizing seen with
  | nil => simp [validateFrom, eq_comm]
  | cons service services ih =>
    rw [List.isChain_cons_cons, List.getLast_cons_cons]
    by_cases h : Precedes seen service
    · rw [validateFrom_cons services h, ih]
      simp only [h, true_and]
    · exact iff_of_false (validateFrom_cons_of_not services h r) fun hchain => h hchain.1.1

end Order

/-! ### Resolved backends -/

/-- What holds of every success of an attempt holds of the success after retries. -/
theorem retry_rule {α β : Type} {attempt : α → Except ResolveFailure β} {P : β → Prop}
    (h : ∀ a b, attempt a = .ok b → P b) {a : α} {rest : List α} {b : β}
    (hb : retry attempt a rest = .ok b) : P b := by
  induction rest generalizing a with
  | nil => exact h a b hb
  | cons next rest ih =>
    rw [retry] at hb
    split at hb
    · rename_i b' hb'
      cases hb
      exact h a b hb'
    · exact ih hb

/-- The reference is to a Consul service. -/
def IsConsulService (r : ResolvedReference Unit) : Prop := ∃ consul, r = .consulService () consul

theorem isConsulService_validateFrom {seen : ConsulService} {services : List ConsulService}
    {r : ResolvedReference Unit} (h : validateFrom seen services = .ok r) : IsConsulService r :=
  ⟨_, (validateFrom_eq_ok_iff.mp h).2⟩

theorem isConsulService_findOnNodes {c : ConsulAnswers} {filter : String}
    {nodes : List (String × String)} {r : ResolvedReference Unit}
    (h : findOnNodes c filter nodes = .ok (some r)) : IsConsulService r := by
  induction nodes with
  | nil => cases h
  | cons node nodes ih =>
    obtain ⟨node, namespace_⟩ := node
    rw [findOnNodes] at h
    split at h
    · cases h
    · exact ih h
    · exact ih h
    · obtain ⟨r', hr', heq⟩ := GoStd.map_eq_ok h
      cases heq
      exact isConsulService_validateFrom hr'

theorem isConsulService_k8sService {a : ResolverAnswers} {name : NamespacedName}
    {r : ResolvedReference Unit} (h : consulServiceForK8SService a name = .ok r) :
    IsConsulService r := by
  unfold consulServiceForK8SService at h
  split at h
  · cases h
  · cases h
  · refine retry_rule (fun c r hr => ?_) h
    split at hr
    · cases hr
    · cases hr
    · rename_i resolved hfound
      cases hr
      obtain ⟨nodes, -, hfound⟩ := GoStd.bind_eq_ok hfound
      obtain ⟨namespaces, -, hfound⟩ := GoStd.bind_eq_ok hfound
      exact isConsulService_findOnNodes hfound

theorem isConsulService_meshService {mapper : String → String} {a : ResolverAnswers}
    {name : NamespacedName} {r : ResolvedReference Unit}
    (h : consulServiceForMeshService mapper a name = .ok r) : IsConsulService r := by
  unfold consulServiceForMeshService at h
  split at h
  · cases h
  · cases h
  · refine retry_rule (fun c r hr => ?_) h
    split_ifs at hr
    · unfold findPeerService at hr
      dsimp only at hr
      split_ifs at hr
      split at hr
      · cases hr
      · cases hr
      · split_ifs at hr
        cases hr
        exact ⟨_, rfl⟩
    · unfold findCatalogService at hr
      dsimp only at hr
      split at hr
      · cases hr
      · cases hr
      · exact isConsulService_validateFrom hr

/-- A backend that is resolved is a Consul service. -/
theorem isConsulService_resolve {mapper : String → String} {a : ResolverAnswers}
    {namespace_ : String} {ref : BackendObjectReference} {r : ResolvedReference Unit}
    (h : resolve mapper a namespace_ ref = .ok r) : IsConsulService r := by
  unfold resolve at h
  dsimp only at h
  split_ifs at h
  · exact isConsulService_k8sService h
  · exact isConsulService_meshService h

/-! ### Whether all services agree -/

/-- Some order of the services is ascending, although they are not all the same. -/
def Ambiguous (services : Set ConsulService) : Prop :=
  IsChain Precedes services ∧ services.Nontrivial

section Agreement

variable {α : Type} {consul : α → ConsulService} {l l' : List α}

/-- In every order of the services the validation succeeds exactly if all of them
have one name and namespace, and then returns these; and no two orders differ in
that. -/
def AgreementDecided (consul : α → ConsulService) (orders : List α → Prop)
    (validate : List α → Except ResolveFailure (ResolvedReference Unit)) : Prop :=
  (∀ order, orders order → ∀ r, validate order = .ok r ↔
    ∃ c, r = .consulService () c ∧ ∀ s ∈ order, consul s = c) ∧
  ∀ order order', orders order → orders order' →
    (validate order).toOption = (validate order').toOption

theorem validate_eq_ok_iff (hne : l ≠ []) {r : ResolvedReference Unit} :
    validateFrom ⟨"", ""⟩ (l.map consul) = .ok r ↔
      (l.map consul).Pairwise Precedes ∧ r = .consulService () (consul (l.getLast hne)) := by
  have hne' : l.map consul ≠ [] := fun h => hne (List.map_eq_nil_iff.mp h)
  rw [validateFrom_eq_ok_iff, List.pairwise_cons, List.getLast_cons hne', List.getLast_map]
  constructor
  · rintro ⟨⟨-, hpairwise⟩, hr⟩
    exact ⟨hpairwise, hr⟩
  · rintro ⟨hpairwise, hr⟩
    exact ⟨⟨fun s _ => bottom_precedes s, hpairwise⟩, hr⟩

/-- Comparable services have an ascending order: by how much they specify. -/
theorem exists_ascending (h : IsChain Precedes {c | ∃ s ∈ l, consul s = c}) :
    ∃ l' : List α, l'.Perm l ∧ (l'.map consul).Pairwise Precedes := by
  let le (s t : α) : Prop := specified (consul s) ≤ specified (consul t)
  have : Std.Total le := ⟨fun s t => Nat.le_total _ _⟩
  have : IsTrans α le := ⟨fun s t u => Nat.le_trans⟩
  have hperm : (l.insertionSort le).Perm l := List.perm_insertionSort le l
  refine ⟨l.insertionSort le, hperm, List.pairwise_map.mpr ?_⟩
  refine (List.pairwise_insertionSort le l).imp_of_mem ?_
  intro s t hs ht hle
  by_cases heq : consul s = consul t
  · rw [heq]
    exact precedes_refl (consul t)
  · rcases h ⟨s, hperm.mem_iff.mp hs, rfl⟩ ⟨t, hperm.mem_iff.mp ht, rfl⟩ heq with hst | hts
    · exact hst
    · exact absurd (hts.eq_of_specified_le hle).symm heq

theorem agree_of_pairwise (h : ¬ Ambiguous {c | ∃ s ∈ l, consul s = c})
    (hpairwise : (l.map consul).Pairwise Precedes) {s t : α} (hs : s ∈ l) (ht : t ∈ l) :
    consul s = consul t := by
  have hchain : IsChain Precedes {c | ∃ s ∈ l, consul s = c} := by
    have hcomparable : (l.map consul).Pairwise fun c d => Precedes c d ∨ Precedes d c :=
      hpairwise.imp Or.inl
    have : Std.Symm fun c d => Precedes c d ∨ Precedes d c := ⟨fun c d h => h.symm⟩
    rintro _ ⟨s, hs, rfl⟩ _ ⟨t, ht, rfl⟩ hst
    exact hcomparable.forall (List.mem_map_of_mem hs) (List.mem_map_of_mem ht) hst
  exact Set.not_nontrivial_iff.mp (fun hnontrivial => h ⟨hchain, hnontrivial⟩)
    ⟨s, hs, rfl⟩ ⟨t, ht, rfl⟩

theorem agreementDecided_iff {orders : List α → Prop} (hne : l ≠ [])
    (horders : ∀ l', orders l' ↔ l'.Perm l) :
    AgreementDecided consul orders (fun order => validateFrom ⟨"", ""⟩ (order.map consul)) ↔
      ¬ Ambiguous {c | ∃ s ∈ l, consul s = c} := by
  constructor
  · -- an ascending order is accepted, so that all services would be the same
    rintro ⟨hdecided, -⟩ ⟨hchain, _, ⟨s, hs, rfl⟩, _, ⟨t, ht, rfl⟩, hst⟩
    obtain ⟨l', hperm, hpairwise⟩ := exists_ascending hchain
    have hne' : l' ≠ [] := fun h => hne (List.perm_nil.mp (h ▸ hperm.symm))
    have hok := (validate_eq_ok_iff hne').mpr ⟨hpairwise, rfl⟩
    obtain ⟨c, -, hall⟩ := (hdecided l' ((horders l').mpr hperm) _).mp hok
    exact hst ((hall s (hperm.mem_iff.mpr hs)).trans (hall t (hperm.mem_iff.mpr ht)).symm)
  · intro hunambiguous
    have hdecided : ∀ order, orders order → ∀ r,
        validateFrom ⟨"", ""⟩ (order.map consul) = .ok r ↔
          ∃ c, r = .consulService () c ∧ ∀ s ∈ order, consul s = c := by
      intro order horder r
      have hperm := (horders order).mp horder
      have hne' : order ≠ [] := fun h => hne (List.perm_nil.mp (h ▸ hperm.symm))
      have hlast := List.getLast_mem hne'
      rw [validate_eq_ok_iff hne']
      constructor
      · rintro ⟨hpairwise, hr⟩
        refine ⟨_, hr, fun s hs => agree_of_pairwise ?_ hpairwise hs hlast⟩
        simpa only [hperm.mem_iff] using hunambiguous
      · rintro ⟨c, hr, hall⟩
        rw [hall _ hlast]
        refine ⟨List.pairwise_map.mpr (List.pairwise_of_forall_mem_list ?_), hr⟩
        intro s hs t ht
        rw [hall s hs, hall t ht]
        exact precedes_refl c
    refine ⟨hdecided, fun order order' horder horder' => ?_⟩
    have hsame : ∀ r, validateFrom ⟨"", ""⟩ (order.map consul) = .ok r ↔
        validateFrom ⟨"", ""⟩ (order'.map consul) = .ok r := by
      intro r
      have hmem : ∀ s, s ∈ order ↔ s ∈ order' := fun s =>
        ((horders order).mp horder).mem_iff.trans ((horders order').mp horder').mem_iff.symm
      simp only [hdecided order horder r, hdecided order' horder' r, hmem]
    refine Option.ext fun r => ?_
    rw [GoStd.toOption_eq_some_iff, GoStd.toOption_eq_some_iff, hsame]

end Agreement

/-- **When the Consul services of a backend are found to be one.** Over a map of
services in any order, and over a list of services in any order, the validation
decides whether all have one name and namespace exactly if the services are not
ambiguous, that is, if they are all the same or two of them contradict each
other. -/
theorem validateConsulReference_iff (agentServices : GoMap String AgentService)
    (catalogServices : List CatalogService) :
    (agentServices ≠ ∅ →
      (AgreementDecided (fun s => s.2.consul) agentServices.Ranges validateAgentConsulReference ↔
        ¬ Ambiguous {c | ∃ id s, agentServices.lookup id = some s ∧ s.consul = c})) ∧
    (catalogServices ≠ [] →
      (AgreementDecided CatalogService.consul (·.Perm catalogServices)
          validateCatalogConsulReference ↔
        ¬ Ambiguous {c | ∃ s ∈ catalogServices, s.consul = c})) := by
  constructor
  · intro hne
    obtain ⟨l, hl⟩ := GoMap.exists_ranges agentServices
    have hl' : l ≠ [] := by
      rintro rfl
      refine hne (Finmap.ext_lookup fun id => ?_)
      rw [Finmap.lookup_empty, Option.eq_none_iff_forall_ne_some]
      intro s hs
      cases hl.mem_iff.mpr hs
    have hset : {c | ∃ id s, agentServices.lookup id = some s ∧ s.consul = c} =
        {c | ∃ s ∈ l, s.2.consul = c} := by
      ext c
      simp only [Set.mem_ofPred_eq, Prod.exists, hl.mem_iff]
    rw [hset]
    exact agreementDecided_iff hl' fun l' => hl.ranges_iff_perm
  · intro hne
    exact agreementDecided_iff hne fun l' => Iff.rfl

/-! ### A service with and without a namespace -/

namespace SampleServices

/-- What the agent of a node has: a service registered in the default namespace
and in another one. -/
def agents : GoMap String AgentService :=
  ((∅ : GoMap String AgentService).insert "web-1" ⟨"web", ""⟩).insert "web-2" ⟨"web", "foo"⟩

def catalog : List CatalogService := [⟨"web", ""⟩, ⟨"web", "foo"⟩]

/-- What the services are refused with in the other order. -/
def refused : Except ResolveFailure (ResolvedReference Unit) :=
  .error (.resolution .consulService ("must have a single service map to a kubernetes " ++
    "service, found - (\"foo\", \"web\") and (\"\", \"web\")"))

theorem agents_ranges :
    agents.Ranges [("web-1", ⟨"web", ""⟩), ("web-2", ⟨"web", "foo"⟩)] := by
  refine ⟨by decide, fun id s => ?_⟩
  rw [agents, GoMap.lookup_insert_ite, GoMap.lookup_insert_ite]
  by_cases h₂ : id = "web-2"
  · simp [h₂, eq_comm]
  · by_cases h₁ : id = "web-1"
    · simp [h₁, eq_comm]
    · simp [h₁, h₂]

end SampleServices

open SampleServices

/-- An agent with one instance of a service, and two in the catalog. -/
theorem oneService_agreementDecided :
    AgreementDecided (fun s => s.2.consul)
        (GoMap.Ranges ((∅ : GoMap String AgentService).insert "web-1" ⟨"web", ""⟩))
        validateAgentConsulReference ∧
      AgreementDecided CatalogService.consul (·.Perm [⟨"web", "foo"⟩, ⟨"web", "foo"⟩])
        validateCatalogConsulReference := by
  obtain ⟨hagents, hcatalog⟩ := validateConsulReference_iff
    ((∅ : GoMap String AgentService).insert "web-1" ⟨"web", ""⟩) [⟨"web", "foo"⟩, ⟨"web", "foo"⟩]
  constructor
  · refine (hagents fun hempty => ?_).mpr ?_
    · have hlook := congrArg (Finmap.lookup "web-1") hempty
      rw [Finmap.lookup_insert, Finmap.lookup_empty] at hlook
      cases hlook
    · have hsame : ∀ {id s}, ((∅ : GoMap String AgentService).insert "web-1"
          ⟨"web", ""⟩).lookup id = some s → s = ⟨"web", ""⟩ := by
        intro id s hs
        rw [GoMap.lookup_insert_ite] at hs
        split_ifs at hs
        · exact (Option.some.inj hs).symm
        · cases hs
      rintro ⟨-, _, ⟨id, s, hs, rfl⟩, _, ⟨id', s', hs', rfl⟩, hne⟩
      rw [hsame hs, hsame hs'] at hne
      exact hne rfl
  · refine (hcatalog (List.cons_ne_nil _ _)).mpr ?_
    rintro ⟨-, _, ⟨s, hs, rfl⟩, _, ⟨s', hs', rfl⟩, hne⟩
    simp only [List.mem_cons, List.not_mem_nil, or_false, or_self] at hs hs'
    rw [hs, hs'] at hne
    exact hne rfl

/-- **The order of the services decides**: a service without a namespace before one
with a namespace passes for the latter, and is refused after it. -/
theorem consulReference_order_dependent :
    (validateCatalogConsulReference catalog = .ok (.consulService () ⟨"foo", "web"⟩) ∧
      validateCatalogConsulReference catalog.reverse = refused ∧
      ¬ AgreementDecided CatalogService.consul (·.Perm catalog) validateCatalogConsulReference) ∧
    ∃ order, agents.Ranges order ∧ agents.Ranges order.reverse ∧
      validateAgentConsulReference order = .ok (.consulService () ⟨"foo", "web"⟩) ∧
      validateAgentConsulReference order.reverse = refused ∧
      ¬ AgreementDecided (fun s => s.2.consul) agents.Ranges validateAgentConsulReference := by
  refine ⟨⟨rfl, rfl, ?_⟩, _, agents_ranges,
    agents_ranges.ranges_iff_perm.mpr (List.reverse_perm _), rfl, rfl, ?_⟩
  · rintro ⟨hdecided, -⟩
    obtain ⟨c, -, hall⟩ := (hdecided catalog (.refl _) _).mp rfl
    have hfirst := hall ⟨"web", ""⟩ (by simp [catalog])
    have hsecond := hall ⟨"web", "foo"⟩ (by simp [catalog])
    rw [← hsecond] at hfirst
    simp [CatalogService.consul] at hfirst
  · rintro ⟨hdecided, -⟩
    obtain ⟨c, -, hall⟩ := (hdecided _ agents_ranges _).mp rfl
    have hfirst := hall ("web-1", ⟨"web", ""⟩) (by simp)
    have hsecond := hall ("web-2", ⟨"web", "foo"⟩) (by simp)
    rw [← hsecond] at hfirst
    simp [AgentService.consul] at hfirst

end BackendResolver

end Reconciler
