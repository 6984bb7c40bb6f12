/-
The objects of the cluster and their owners (`internal/k8s/gatewayclient`, with
`SetControllerReference` of the controller runtime).

Objects are kept by kind and name.  An object may have owners, at most one of which controls it, and
a gateway only takes over an object that nothing else controls.  Owners are compared by their kind
and name, so a gateway is followed by the next one of its name.

* `setControllerReference_eq_ok` — when a gateway may take an object over;
* `owned_of_setControllerReference` — what it has taken over it leaves as it is.
-/
import ConsulApiGateway.GatewayBuilder
import ConsulApiGateway.Namespaces
import ConsulApiGateway.ObjectStore

/-! ### The cluster -/

namespace K8s

open Shared ObjectStore

inductive Kind
  | deployment | service | secret | serviceAccount | role | roleBinding
  deriving DecidableEq

@[reducible] def Kind.Spec : Kind → Type
  | .deployment => DeploymentSpec
  | .service => ServiceSpec
  | .secret => GoMap String String
  | .serviceAccount => Unit
  | .role => List PolicyRule
  | .roleBinding => RoleBindingSpec

instance : (kind : Kind) → DecidableEq kind.Spec
  | .deployment => inferInstanceAs (DecidableEq DeploymentSpec)
  | .service => inferInstanceAs (DecidableEq ServiceSpec)
  | .secret => inferInstanceAs (DecidableEq (GoMap String String))
  | .serviceAccount => inferInstanceAs (DecidableEq Unit)
  | .role => inferInstanceAs (DecidableEq (List PolicyRule))
  | .roleBinding => inferInstanceAs (DecidableEq RoleBindingSpec)

/-- The objects of the cluster, with what Consul has. -/
structure Cluster where
  tables : (kind : Kind) → Table NamespacedName (Object kind.Spec)
  consul : Consul.Registry

namespace Cluster

def part (kind : Kind) : Part Cluster (Table NamespacedName (Object kind.Spec)) where
  get s := s.tables kind
  set t s := { s with tables := Function.update s.tables kind t }
  get_set _ _ := Function.update_self ..

def registry : Part Cluster Consul.Registry :=
  ⟨consul, fun r s => { s with consul := r }, fun _ _ => rfl⟩

/-- What the others do: all that is asked of them is that what they write gets a new revision. -/
def Grows (s s' : Cluster) : Prop := ∀ kind, (s.tables kind).Grows (s'.tables kind)

/-- The object of a kind under a name. -/
def object (s : Cluster) (kind : Kind) (key : NamespacedName) : Option (Object kind.Spec) :=
  (s.tables kind).value key

end Cluster

/-- The API server: what it makes of an object that it stores, and its errors.  It fills in what is
not set. -/
structure Server where
  admitted : (kind : Kind) → Object kind.Spec → Object kind.Spec
  refuse : Kind → Refusal → Reconciler.Failure
  ownerReferences_admit : ∀ kind o, (admitted kind o).ownerReferences = o.ownerReferences
  annotations_admit : ∀ kind o, (admitted kind o).annotations = o.annotations
  replicas_admit : ∀ d : Deployment, (admitted .deployment d).spec.replicas = d.spec.replicas
  /-- A port without a protocol gets one. -/
  openPorts_admit : ∀ d : Deployment, (∀ ports ∈ V1alpha1.openPorts d, ∀ p ∈ ports, p.2 ≠ "") →
    V1alpha1.openPorts (admitted .deployment d) = V1alpha1.openPorts d
  exposedPorts_admit : ∀ service : Service, (∀ p ∈ V1alpha1.exposedPorts service, p.2 ≠ "") →
    V1alpha1.exposedPorts (admitted .service service) = V1alpha1.exposedPorts service
  data_admit : ∀ secret : Secret, (admitted .secret secret).spec = secret.spec

def Server.resource (server : Server) (kind : Kind) :
    Resource Cluster Reconciler.Failure NamespacedName (Object kind.Spec) where
  part := Cluster.part kind
  admitted := server.admitted kind
  collected _ := false
  fail := server.refuse kind

/-! ### Owners -/

def gatewayGroupKind : GroupKind := ⟨"gateway.networking.k8s.io", "Gateway"⟩

/-- The reference by which an object names the gateway as its controller. -/
def controllerReference (gateway : DeployedGateway) : OwnerReference :=
  ⟨gatewayGroupKind, "v1beta1", gateway.name, gateway.uid, true, true⟩

/-- The UID is not compared. -/
def referSameObject (a b : OwnerReference) : Bool := a.groupKind = b.groupKind ∧ a.name = b.name

def getControllerOf (refs : List OwnerReference) : Option OwnerReference :=
  refs.find? OwnerReference.controller

def upsertOwnerRef (ref : OwnerReference) : List OwnerReference → List OwnerReference
  | [] => [ref]
  | r :: refs => if referSameObject r ref then ref :: refs else r :: upsertOwnerRef ref refs

/-- `newAlreadyOwnedError` -/
def alreadyOwned (key : NamespacedName) (owner : OwnerReference) : Reconciler.Failure :=
  ⟨false, "Object " ++ key.namespace_ ++ "/" ++ key.name ++ " is already owned by another " ++
    owner.groupKind.kind ++ " controller " ++ owner.name⟩

/-- `ctrl.SetControllerReference`, for an object under the name of its owner. -/
def setControllerReference {S : Type} (gateway : DeployedGateway) (o : Object S) :
    Except Reconciler.Failure (Object S) :=
  match (getControllerOf o.ownerReferences).filter
      (!referSameObject · (controllerReference gateway)) with
  | some existing => .error (alreadyOwned gateway.namespacedName existing)
  | none => .ok { o with
      ownerReferences := upsertOwnerRef (controllerReference gateway) o.ownerReferences }

/-- Something other than the gateway controls the object. -/
def ControlledByOther (gateway : DeployedGateway) (refs : List OwnerReference) : Prop :=
  ∃ existing, getControllerOf refs = some existing ∧
    referSameObject existing (controllerReference gateway) = false

section

variable {S : Type} {gateway : DeployedGateway} {o o' : Object S}

theorem referSameObject_self (ref : OwnerReference) : referSameObject ref ref = true := by
  simp [referSameObject]

theorem mem_upsertOwnerRef (ref : OwnerReference) (refs : List OwnerReference) :
    ref ∈ upsertOwnerRef ref refs := by
  induction refs with
  | nil => exact List.mem_singleton_self ref
  | cons r refs ih =>
    rw [upsertOwnerRef]
    split_ifs
    · exact List.mem_cons_self
    · exact List.mem_cons_of_mem _ ih

theorem upsertOwnerRef_upsertOwnerRef (ref : OwnerReference) (refs : List OwnerReference) :
    upsertOwnerRef ref (upsertOwnerRef ref refs) = upsertOwnerRef ref refs := by
  induction refs with
  | nil => simp [upsertOwnerRef, referSameObject_self]
  | cons r refs ih =>
    by_cases hsame : referSameObject r ref = true
    · simp [upsertOwnerRef, hsame, referSameObject_self]
    · simp [upsertOwnerRef, hsame, ih]

/-- The gateway is the controller if nothing else was. -/
theorem getControllerOf_upsertOwnerRef {refs : List OwnerReference}
    (h : ¬ ControlledByOther gateway refs) :
    getControllerOf (upsertOwnerRef (controllerReference gateway) refs) =
      some (controllerReference gateway) := by
  induction refs with
  | nil => rfl
  | cons r refs ih =>
    rw [upsertOwnerRef]
    by_cases hsame : referSameObject r (controllerReference gateway) = true
    · rw [if_pos hsame]
      rfl
    · -- a controller that is met before the gateway would be another one
      have hr : r.controller = false := by
        by_contra hr
        exact h ⟨r, List.find?_cons_of_pos (by simpa using hr), by simpa using hsame⟩
      have hfind : ∀ l : List OwnerReference, getControllerOf (r :: l) = getControllerOf l :=
        fun l => List.find?_cons_of_neg (by simp [hr])
      rw [if_neg hsame, hfind]
      exact ih fun hother => h (by rwa [ControlledByOther, hfind])

theorem setControllerReference_eq_ok : setControllerReference gateway o = .ok o' ↔
    ¬ ControlledByOther gateway o.ownerReferences ∧
      o' = { o with
        ownerReferences := upsertOwnerRef (controllerReference gateway) o.ownerReferences } := by
  unfold setControllerReference
  cases hfilter : (getControllerOf o.ownerReferences).filter
      (!referSameObject · (controllerReference gateway)) with
  | some existing =>
    have hother := Option.filter_eq_some_iff.1 hfilter
    exact ⟨fun h => (by cases h), fun h =>
      absurd ⟨existing, hother.1, by simpa using hother.2⟩ h.1⟩
  | none =>
    have hnot : ¬ ControlledByOther gateway o.ownerReferences := by
      rintro ⟨existing, hexisting, hsame⟩
      rw [hexisting, Option.filter_some, hsame] at hfilter
      cases hfilter
    exact ⟨fun h => ⟨hnot, (Except.ok.inj h).symm⟩, fun h => by rw [h.2]⟩

/-- Nothing has to be done for the gateway to be the controller of the object. -/
def Owned (gateway : DeployedGateway) (o : Object S) : Prop :=
  setControllerReference gateway o = .ok o

theorem owned_of_setControllerReference {o'' : Object S}
    (h : setControllerReference gateway o = .ok o')
    (hrefs : o''.ownerReferences = o'.ownerReferences) : Owned gateway o'' := by
  obtain ⟨hnot, rfl⟩ := setControllerReference_eq_ok.1 h
  refine setControllerReference_eq_ok.2 ⟨?_, ?_⟩
  · rintro ⟨existing, hexisting, hsame⟩
    rw [hrefs, getControllerOf_upsertOwnerRef hnot] at hexisting
    cases hexisting
    rw [referSameObject_self] at hsame
    cases hsame
  · rw [hrefs, upsertOwnerRef_upsertOwnerRef]
    exact congrArg (fun refs => { o'' with ownerReferences := refs }) hrefs

end

/-! ### What is stored -/

section

variable {server : Server} {kind kind' : Kind} {key key' : NamespacedName} {s : Cluster}
  {v : Object kind.Spec}

theorem tables_put_of_ne (h : kind' ≠ kind) :
    ((server.resource kind).put key v s).tables kind' = s.tables kind' :=
  Function.update_of_ne h ..

theorem lookup_put_of_ne (h : key' ≠ key) :
    (((server.resource kind).put key v s).tables kind').lookup key' =
      (s.tables kind').lookup key' := by
  by_cases hkind : kind' = kind
  · subst hkind
    exact (server.resource kind').lookup_put_of_ne h v s
  · rw [tables_put_of_ne hkind]

theorem object_put_self :
    ((server.resource kind).put key v s).object kind key = some (server.admitted kind v) := by
  change ((server.resource kind).table ((server.resource kind).put key v s)).value key = _
  rw [Resource.value_put, if_pos rfl, if_neg (by simp [Server.resource])]
  rfl

theorem object_put_of_ne (h : kind' ≠ kind) :
    ((server.resource kind).put key v s).object kind' key' = s.object kind' key' := by
  rw [Cluster.object, tables_put_of_ne h]
  rfl

end

end K8s
