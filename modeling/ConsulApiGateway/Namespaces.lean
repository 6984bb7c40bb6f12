/-
The Consul namespace of a gateway (`internal/consul/namespaces.go`).

Where Kubernetes namespaces are mirrored, a gateway is deployed only after its namespace has been
made in Consul, linked to a policy that lets services be found across namespaces.  Both may exist
already, and others may create them at the same time.

* `ensureNamespaceExists_guarantees` — nothing that exists is changed;
* `ensureNamespaceExists_spec` — when the call returns the namespace is there, and one that the
  call has made is linked to a policy that is there too.
-/
import ConsulApiGateway.IntentionUpdates
import ConsulApiGateway.Interference

namespace Reconciler

/-- An error: whether it is, or wraps, a `K8sError`, and its text. -/
structure Failure where
  k8s : Bool
  message : String
  deriving DecidableEq

/-- `gatewayclient.NewK8sError` -/
def newK8sError (err : Failure) : Failure := { err with k8s := true }

end Reconciler

namespace Consul

open Shared
open Reconciler (Failure)

/-! ### Namespaces and policies -/

structure PartitionInfo where
  enablePartitions : Bool := false
  partitionName : String := ""

structure ACLPolicy where
  name : String
  description : String
  rules : String

/-- A namespace with the policies that its tokens get by default. -/
structure Namespace where
  description : String
  policyDefaults : List String
  metadata : GoMap String String

/-- The namespaces and the policies of a Consul server. -/
structure Registry where
  namespaces : GoMap String Namespace
  policies : GoMap String ACLPolicy
  named : ∀ name policy, policies.lookup name = some policy → policy.name = name

def Registry.addNamespace (r : Registry) (ns : String) (namespace_ : Namespace) : Registry :=
  { r with namespaces := r.namespaces.insert ns namespace_ }

def Registry.addPolicy (r : Registry) (policy : ACLPolicy) : Registry where
  namespaces := r.namespaces
  policies := r.policies.insert policy.name policy
  named name policy' h := by
    rcases GoMap.lookup_insert_eq_some.1 h with ⟨rfl, rfl⟩ | ⟨-, h⟩
    · rfl
    · exact r.named name policy' h

def wildcardNamespace : String := "*"
def defaultNamespace : String := "default"
def crossNamespacePolicyName : String := "cross-namespace-policy"

/-- What `html/template` makes of a character of a text. -/
def htmlEscapeChar (c : Char) : List Char :=
  if c = '\x00' then ['�']
  else if c = '"' then "&#34;".toList
  else if c = '&' then "&amp;".toList
  else if c = '\'' then "&#39;".toList
  else if c = '+' then "&#43;".toList
  else if c = '<' then "&lt;".toList
  else if c = '>' then "&gt;".toList
  else [c]

def crossNamespaceRules (partitionInfo : PartitionInfo) : String :=
  -- the braces of the rules, which an interpolated string would take as its own
  let opened := String.ofList [' ', '{']
  let closed := String.ofList ['}']
  (if partitionInfo.enablePartitions then
    "\npartition \"" ++ String.ofList (partitionInfo.partitionName.toList.flatMap htmlEscapeChar) ++
      "\"" ++ opened else "") ++
  "\n  namespace_prefix \"\"" ++ opened ++
  "\n    service_prefix \"\"" ++ opened ++ "\n      policy = \"read\"\n    " ++ closed ++
  "\n    node_prefix \"\"" ++ opened ++ "\n      policy = \"read\"\n    " ++ closed ++
  "\n  " ++ closed ++
  (if partitionInfo.enablePartitions then "\n" ++ closed else "")

/-! ### Calls -/

variable {σ : Type} (registry : Part σ Registry)

/-- What Consul answers when a policy of the name exists. -/
def policyExists (name : String) : Failure :=
  ⟨false, "Unexpected response code: 500 (Invalid Policy: A Policy with Name " ++
    GoStd.quote name ++ " already exists)"⟩

def isPolicyExistsErr (err : Failure) (policyName : String) : Bool :=
  contains err.message "Unexpected response code: 500" &&
    contains err.message
      ("Invalid Policy: A Policy with Name " ++ GoStd.quote policyName ++ " already exists")

def namespacesRead (ns : String) : Program σ Failure (Option Namespace) :=
  call fun s => (.ok ((registry.get s).namespaces.lookup ns), s)

/-- How a state answers the creation of a namespace. -/
def namespaceCreated (ns : String) (namespace_ : Namespace) (s : σ) : Except Failure Unit × σ :=
  match (registry.get s).namespaces.lookup ns with
  | some _ => (.error ⟨false, "Unexpected response code: 500 (Namespace already exists)"⟩, s)
  | none => (.ok (), registry.set ((registry.get s).addNamespace ns namespace_) s)

def namespacesCreate (ns : String) (namespace_ : Namespace) : Program σ Failure Unit :=
  call (namespaceCreated registry ns namespace_)

/-- How a state answers the creation of a policy. -/
def policyCreated (policy : ACLPolicy) (s : σ) : Except Failure ACLPolicy × σ :=
  match (registry.get s).policies.lookup policy.name with
  | some _ => (.error (policyExists policy.name), s)
  | none => (.ok policy, registry.set ((registry.get s).addPolicy policy) s)

def policyCreate (policy : ACLPolicy) : Program σ Failure ACLPolicy :=
  call (policyCreated registry policy)

def policyReadByName (name : String) : Program σ Failure (Option ACLPolicy) :=
  call fun s => (.ok ((registry.get s).policies.lookup name), s)

/-! ### Ensuring that a namespace exists -/

def crossNamespacePolicy (partitionInfo : PartitionInfo) : ACLPolicy where
  name := crossNamespacePolicyName
  description := "Policy to allow permissions to cross Consul namespaces for k8s services"
  rules := crossNamespaceRules partitionInfo

def policyNotRead : Failure :=
  ⟨false, "failed to read policy \"cross-namespace-policy\" from consul server"⟩

def getOrCreateCrossNamespacePolicy (partitionInfo : PartitionInfo) :
    Program σ Failure ACLPolicy := do
  match ← (policyCreate registry (crossNamespacePolicy partitionInfo)).attempt with
  -- the policy is newly created
  | .ok createdPolicy => return createdPolicy
  | .error err =>
    if !isPolicyExistsErr err crossNamespacePolicyName then Program.throw err
    else
      -- the policy already exists so we need to fetch it
      match ← policyReadByName registry crossNamespacePolicyName with
      | none => Program.throw policyNotRead
      | some createdPolicy => return createdPolicy

/-- The namespace that is made for a gateway. -/
def gatewayNamespace (policy : ACLPolicy) : Namespace where
  description := "Auto-generated by consul-api-gateway"
  policyDefaults := [policy.name]
  metadata := (∅ : GoMap String String).insert "external-source" "kubernetes"

/-- Whether the namespace was created by this call. -/
def ensureNamespaceExists (ns : String) (partitionInfo : PartitionInfo) :
    Program σ Failure Bool := do
  if ns = wildcardNamespace ∨ ns = defaultNamespace then return false
  else
    match ← namespacesRead registry ns with
    | some _ => return false
    | none =>
      let policy ← getOrCreateCrossNamespacePolicy registry partitionInfo
      namespacesCreate registry ns (gatewayNamespace policy)
      return true

/-! ### What the call does -/

/-- What was there is still there. -/
structure Registry.Extends (r r' : Registry) : Prop where
  namespaces : ∀ ns v, r.namespaces.lookup ns = some v → r'.namespaces.lookup ns = some v
  policies : ∀ name v, r.policies.lookup name = some v → r'.policies.lookup name = some v

theorem Registry.Extends.refl (r : Registry) : r.Extends r := ⟨fun _ _ h => h, fun _ _ h => h⟩

theorem lookup_insert_of_lookup {V : Type} {m : GoMap String V} {k k' : String} {v v' : V}
    (hk : m.lookup k = none) (h : m.lookup k' = some v') : (m.insert k v).lookup k' = some v' := by
  rw [GoMap.lookup_insert_ite]
  split_ifs with heq
  · rw [heq, hk] at h
    cases h
  · exact h

variable {registry}

/-- A namespace is created where there is none. -/
theorem namespaceCreated_eq_ok {ns : String} {namespace_ : Namespace} {s : σ}
    (h : (namespaceCreated registry ns namespace_ s).1 = .ok ()) :
    (registry.get s).namespaces.lookup ns = none ∧
      (namespaceCreated registry ns namespace_ s).2 =
        registry.set ((registry.get s).addNamespace ns namespace_) s := by
  unfold namespaceCreated at h ⊢
  cases hlookup : (registry.get s).namespaces.lookup ns with
  | none => exact ⟨rfl, rfl⟩
  | some v =>
    rw [hlookup] at h
    cases h

/-- A policy is created where there is none. -/
theorem policyCreated_eq_ok {policy policy' : ACLPolicy} {s : σ}
    (h : (policyCreated registry policy s).1 = .ok policy') :
    policy' = policy ∧
      (policyCreated registry policy s).2 = registry.set ((registry.get s).addPolicy policy) s := by
  unfold policyCreated at h ⊢
  cases hlookup : (registry.get s).policies.lookup policy.name with
  | none =>
    rw [hlookup] at h
    exact ⟨(Except.ok.inj h).symm, rfl⟩
  | some v =>
    rw [hlookup] at h
    cases h

/-- The registry grows from one state to the next. -/
def Grows (registry : Part σ Registry) (s s' : σ) : Prop :=
  (registry.get s).Extends (registry.get s')

/-- What a call may do: nothing that exists is changed, and no namespace but `ns` is added. -/
def Adds (registry : Part σ Registry) (ns : String) (s s' : σ) : Prop :=
  s' = s ∨ ∃ r', (registry.get s).Extends r' ∧
    (∀ ns' ≠ ns, r'.namespaces.lookup ns' = (registry.get s).namespaces.lookup ns') ∧
    s' = registry.set r' s

theorem adds_refl (ns : String) (s : σ) : Adds registry ns s s := .inl rfl

theorem adds_namespaceCreated (ns : String) (namespace_ : Namespace) (s : σ) :
    Adds registry ns s (namespaceCreated registry ns namespace_ s).2 := by
  unfold namespaceCreated
  cases hlookup : (registry.get s).namespaces.lookup ns with
  | some v => exact .inl rfl
  | none =>
    exact .inr ⟨(registry.get s).addNamespace ns namespace_,
      ⟨fun _ _ h => lookup_insert_of_lookup hlookup h, fun _ _ h => h⟩,
      fun _ hne => Finmap.lookup_insert_of_ne _ hne, rfl⟩

theorem adds_policyCreated (ns : String) (policy : ACLPolicy) (s : σ) :
    Adds registry ns s (policyCreated registry policy s).2 := by
  unfold policyCreated
  cases hlookup : (registry.get s).policies.lookup policy.name with
  | some v => exact .inl rfl
  | none =>
    exact .inr ⟨(registry.get s).addPolicy policy,
      ⟨fun _ _ h => h, fun _ _ h => lookup_insert_of_lookup hlookup h⟩,
      fun _ _ => rfl, rfl⟩

theorem getOrCreate_guarantees {R : σ → σ → Prop} (ns : String) (partitionInfo : PartitionInfo) :
    Guarantees R (Adds registry ns) (getOrCreateCrossNamespacePolicy registry partitionInfo) := by
  refine (guarantees_call (adds_refl ns) (adds_policyCreated ns _)).attempt.bind fun result => ?_
  cases result with
  | ok policy => exact guarantees_pure _
  | error err =>
    dsimp only
    split_ifs
    · exact guarantees_throw _
    · refine (guarantees_call (adds_refl ns) (adds_refl ns)).bind fun o => ?_
      cases o with
      | none => exact guarantees_throw _
      | some policy => exact guarantees_pure _

/-- Nothing that exists is changed, whatever the others do. -/
theorem ensureNamespaceExists_guarantees {R : σ → σ → Prop} (ns : String)
    (partitionInfo : PartitionInfo) :
    Guarantees R (Adds registry ns) (ensureNamespaceExists registry ns partitionInfo) := by
  unfold ensureNamespaceExists
  split_ifs
  · exact guarantees_pure _
  · refine (guarantees_call (adds_refl ns) (adds_refl ns)).bind fun o => ?_
    cases o with
    | some v => exact guarantees_pure _
    | none =>
      exact (getOrCreate_guarantees ns partitionInfo).bind fun policy =>
        (guarantees_call (adds_refl ns) (adds_namespaceCreated ns _)).bind fun _ =>
          guarantees_pure _

/-- A policy is there when it has been created or found. -/
theorem getOrCreate_lookup {partitionInfo : PartitionInfo} {w w' : World σ Failure}
    {policy : ACLPolicy}
    (h : getOrCreateCrossNamespacePolicy registry partitionInfo w = (.ok policy, w')) :
    (registry.get w'.state).policies.lookup crossNamespacePolicyName = some policy := by
  unfold getOrCreateCrossNamespacePolicy at h
  rw [attempt_bind] at h
  rcases hcreate : policyCreate registry (crossNamespacePolicy partitionInfo) w with
    ⟨err | policy', w₁⟩
  · rw [hcreate] at h
    dsimp only at h
    split_ifs at h with hexists
    · cases h
    · obtain ⟨o, w₂, hread, hnext⟩ := bind_eq_ok h
      obtain ⟨hlookup, rfl⟩ := call_eq_ok hread
      cases o with
      | none => cases hnext
      | some policy' =>
        cases hnext
        exact Except.ok.inj hlookup
  · rw [hcreate] at h
    cases h
    obtain ⟨hok, rfl⟩ := call_eq_ok hcreate
    obtain ⟨rfl, hstate⟩ := policyCreated_eq_ok hok
    change (registry.get (policyCreated registry _ w.found).2).policies.lookup _ = _
    rw [hstate, registry.get_set]
    exact Finmap.lookup_insert _

/-- The namespace is one that always exists, or it is there. -/
def Present (registry : Part σ Registry) (ns : String) (s : σ) : Prop :=
  (ns = wildcardNamespace ∨ ns = defaultNamespace) ∨
    ∃ v, (registry.get s).namespaces.lookup ns = some v

/-- What is true when `ensureNamespaceExists` has returned: the namespace is there, and if this call
has made it, it was not there before, and the policy that it is linked to is there as well. -/
structure Ensured (registry : Part σ Registry) (ns : String) (before after : σ) (created : Bool) :
    Prop where
  present : Present registry ns after
  created : created = true → (registry.get before).namespaces.lookup ns = none ∧
    ∃ policy, (registry.get after).policies.lookup crossNamespacePolicyName = some policy ∧
      (registry.get after).namespaces.lookup ns = some (gatewayNamespace policy) ∧
      (gatewayNamespace policy).policyDefaults = [crossNamespacePolicyName]

/-- A namespace that is made after its policy. -/
theorem namespaceCreated_ensured {ns : String} {policy : ACLPolicy} {before s : σ}
    (hpolicy : (registry.get s).policies.lookup crossNamespacePolicyName = some policy)
    (hbefore : (registry.get before).namespaces.lookup ns = none)
    (h : (namespaceCreated registry ns (gatewayNamespace policy) s).1 = .ok ()) :
    Ensured registry ns before (namespaceCreated registry ns (gatewayNamespace policy) s).2
      true := by
  obtain ⟨-, hstate⟩ := namespaceCreated_eq_ok h
  have hlookup : (registry.get (namespaceCreated registry ns (gatewayNamespace policy) s).2
      ).namespaces.lookup ns = some (gatewayNamespace policy) := by
    rw [hstate, registry.get_set]
    exact Finmap.lookup_insert _
  refine ⟨.inr ⟨_, hlookup⟩, fun _ => ⟨hbefore, policy, ?_, hlookup, ?_⟩⟩
  · rw [hstate, registry.get_set]
    exact hpolicy
  · exact congrArg (fun name => [name]) ((registry.get s).named _ _ hpolicy)

/-- A call that has returned, while others add namespaces and policies too. -/
theorem ensured_of_eq_ok {R : σ → σ → Prop} {ns : String} {partitionInfo : PartitionInfo}
    {w w' : World σ Failure} {created : Bool} (hR : ∀ s s', R s s' → Grows registry s s')
    (hw : w.Relies R) (h : ensureNamespaceExists registry ns partitionInfo w = (.ok created, w')) :
    Ensured registry ns w.state w'.state created := by
  unfold ensureNamespaceExists at h
  split_ifs at h with hexempt
  · cases h
    exact ⟨.inl hexempt, by simp⟩
  · obtain ⟨o, w₁, hread, hnext⟩ := bind_eq_ok h
    obtain ⟨hlookup, rfl⟩ := call_eq_ok hread
    cases o with
    | some v =>
      cases hnext
      exact ⟨.inr ⟨v, Except.ok.inj hlookup⟩, by simp⟩
    | none =>
      obtain ⟨policy, w₂, hpolicy, hnext⟩ := bind_eq_ok hnext
      obtain ⟨u, w₃, hcreate, hnext⟩ := bind_eq_ok hnext
      cases hnext
      have hw₂ : w₂.Relies R := by
        have hkeeps : Keeps R (Adds registry ns) _ _ :=
          getOrCreate_guarantees ns partitionInfo _ (hw.after w.found w.found)
        rw [hpolicy] at hkeeps
        exact hkeeps.relies
      obtain ⟨hok, rfl⟩ := call_eq_ok hcreate
      refine namespaceCreated_ensured
        ((hR _ _ hw₂.found).policies _ _ (getOrCreate_lookup hpolicy)) ?_ hok
      -- what was there at the start would have been read
      refine Option.eq_none_iff_forall_not_mem.2 fun v hv => ?_
      have hfound := (hR _ _ hw.found).namespaces ns v hv
      rw [Except.ok.inj hlookup] at hfound
      cases hfound

/-- A namespace that is there is only read. -/
theorem ensureNamespaceExists_rests {R : σ → σ → Prop} {ns : String}
    {partitionInfo : PartitionInfo} {w : World σ Failure}
    (hR : ∀ s s', R s s' → Grows registry s s') (hw : w.Relies R)
    (h : Present registry ns w.state) :
    Keeps R Eq w (ensureNamespaceExists registry ns partitionInfo w).2 := by
  unfold ensureNamespaceExists
  split_ifs with hexempt
  · exact .refl hw
  · refine (guarantees_call (fun _ => rfl) (fun _ => rfl) w hw).bind fun o w₁ hread hw₁ => ?_
    obtain ⟨hlookup, rfl⟩ := call_eq_ok hread
    obtain ⟨v, hv⟩ := h.resolve_left hexempt
    cases o with
    | some v => exact .refl hw₁
    | none =>
      have hfound := (hR _ _ hw.found).namespaces ns v hv
      rw [Except.ok.inj hlookup] at hfound
      cases hfound

theorem ensureNamespaceExists_ensures {R : σ → σ → Prop} {ns : String}
    {partitionInfo : PartitionInfo} (hR : ∀ s s', R s s' → Grows registry s s') :
    Ensures R (Adds registry ns) (ensureNamespaceExists registry ns partitionInfo)
      (Present registry ns) where
  stable s s' h hpresent := hpresent.imp_right (Exists.imp ((hR s s' h).namespaces ns))
  calls := ensureNamespaceExists_guarantees ns partitionInfo
  establishes _ _ _ hw h := (ensured_of_eq_ok hR hw h).present
  rests _ hw h := ensureNamespaceExists_rests hR hw h

/-- **Ensuring that a namespace exists**, while others add namespaces and policies too. -/
theorem ensureNamespaceExists_spec (registry : Part σ Registry) (ns : String)
    (partitionInfo : PartitionInfo) (w : World σ Failure) (hw : w.Relies (Grows registry)) :
    Keeps (Grows registry) (Adds registry ns) w
        (ensureNamespaceExists registry ns partitionInfo w).2 ∧
      ∀ created, (ensureNamespaceExists registry ns partitionInfo w).1 = .ok created →
        Ensured registry ns w.state (ensureNamespaceExists registry ns partitionInfo w).2.state
          created := by
  refine ⟨ensureNamespaceExists_guarantees ns partitionInfo w hw, fun created hok => ?_⟩
  exact ensured_of_eq_ok (fun _ _ h => h) hw (Prod.ext hok rfl)

namespace SampleRegistry

def whole : Part Registry Registry := ⟨id, fun r _ => r, fun _ _ => rfl⟩

def empty : Registry := ⟨∅, ∅, fun _ _ h => by cases h⟩

/-- Another gateway makes the policy before this one does. -/
def makePolicy (r : Registry) : Registry := (policyCreated whole (crossNamespacePolicy {}) r).2

def world : World Registry Failure :=
  ⟨empty, fun n => ⟨if n = 1 then makePolicy else id, .none⟩, []⟩

theorem world_relies : world.Relies (Grows whole) := by
  intro n r
  unfold world
  dsimp only
  split_ifs
  · have hadds : Adds whole "" r (makePolicy r) := adds_policyCreated "" (crossNamespacePolicy {}) r
    rcases hadds with h | ⟨r', hr', -, h⟩
    · rw [h]
      exact Registry.Extends.refl r
    · rw [h]
      exact hr'
  · exact Registry.Extends.refl r

/-- The policy that was found is linked. -/
theorem ensureNamespaceExists_spec_here :
    Ensured whole "team" empty (ensureNamespaceExists whole "team" {} world).2.state true :=
  (ensureNamespaceExists_spec whole "team" {} world world_relies).2 true (by rfl)

end SampleRegistry

end Consul
