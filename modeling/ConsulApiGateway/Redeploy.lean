/-
Deploying again (`internal/k8s/reconciler/deployer.go`).

Every reconciliation of a gateway deploys it.  If the others leave the objects of the gateway alone,
a `Deploy` that returns has brought them to a state in which the next one only reads.  What it looks
at is what the merges compare: a deployment with other images or arguments is left as it is.  As in
`Deployer`, a read returns what is stored when it is made, and no cache is modelled.

* `deploy_ensures` — `Deploy` establishes `Deployed`, and rests where it holds;
* `prefixed_namespace_not_created` — the Consul namespace that it makes, and the one it should make;
* `redeploy_only_reads`, `deploy_keeps_replicas` — what later calls leave alone;
* `scaling_between_reads_undone`, `pod_settings_not_rolled_out` — what they undo and what they miss.
-/
import ConsulApiGateway.Deployer

namespace Reconciler

open K8s V1alpha1 Builder Shared ObjectStore

namespace GatewayDeployer

/-- What the others may do so that a deployment comes to an end: they leave the objects of the
gateway alone. -/
structure Spares (gateway : DeployedGateway) (s s' : Cluster) : Prop where
  grows : s.Grows s'
  lookup : ∀ kind, (s'.tables kind).lookup gateway.namespacedName =
    (s.tables kind).lookup gateway.namespacedName
  consul : s.consul.Extends s'.consul

theorem Spares.object {gateway : DeployedGateway} {s s' : Cluster} (h : Spares gateway s s')
    (kind : Kind) :
    s'.object kind gateway.namespacedName = s.object kind gateway.namespacedName := by
  rw [Cluster.object, Table.value, h.lookup]
  rfl

/-- Only objects of these kinds are written. -/
structure Touches (kinds : List Kind) (s s' : Cluster) : Prop where
  tables : ∀ kind, kind ∉ kinds → s'.tables kind = s.tables kind
  consul : s'.consul = s.consul

section

variable {d : GatewayDeployer} {server : Server} {consulNamespace : String}
  {config : GatewayClassConfigSpec} {gateway : DeployedGateway} {s s' : Cluster} {kind : Kind}

theorem Touches.refl (kinds : List Kind) (s : Cluster) : Touches kinds s s := ⟨fun _ _ => rfl, rfl⟩

theorem Touches.object {kinds : List Kind} (h : Touches kinds s s') (hkind : kind ∉ kinds)
    (key : NamespacedName) : s'.object kind key = s.object kind key := by
  rw [Cluster.object, h.tables kind hkind]
  rfl

theorem touches_put {key : NamespacedName} {v : Object kind.Spec} :
    Touches [kind] s ((server.resource kind).put key v s) :=
  ⟨fun _ h => tables_put_of_ne (by simpa using h), rfl⟩

theorem Touches.or {kinds kinds' : List Kind} (h : Touches kinds s s' ∨ Touches kinds' s s') :
    Touches (kinds ++ kinds') s s' := by
  rcases h with h | h
  · exact ⟨fun kind hkind => h.tables kind fun hmem => hkind (List.mem_append_left _ hmem),
      h.consul⟩
  · exact ⟨fun kind hkind => h.tables kind fun hmem => hkind (List.mem_append_right _ hmem),
      h.consul⟩

/-- The object is there, with a property. -/
def Has (gateway : DeployedGateway) (kind : Kind) (p : Object kind.Spec → Prop) (s : Cluster) :
    Prop := ∃ o, s.object kind gateway.namespacedName = some o ∧ p o

theorem Has.congr {p : Object kind.Spec → Prop}
    (hobject : s'.object kind gateway.namespacedName = s.object kind gateway.namespacedName)
    (h : Has gateway kind p s) : Has gateway kind p s' := by
  rwa [Has, hobject]

theorem ensureAccount_touches {R : Cluster → Cluster → Prop} (serviceAccount : ServiceAccount) :
    Guarantees R (Touches [.serviceAccount]) (ensureAccount server gateway serviceAccount) := by
  refine ((guarantees_get (.refl _)).mapError _).bind fun o => ?_
  cases o with
  | none =>
    exact (guarantees_ofExcept _).bind fun owned =>
      .mapError (guarantees_create (.refl _) fun _ _ => touches_put) _
  | some o =>
    dsimp only
    split_ifs
    · exact guarantees_pure _
    · exact guarantees_throw _

theorem createOrUpdateObject_ensures {obj : Object kind.Spec}
    {mutator : Object kind.Spec → Except Failure (Object kind.Spec)}
    (hstable : ∀ o v, mutator o = .ok v →
      mutator (server.admitted kind v) = .ok (server.admitted kind v)) :
    Ensures (Spares gateway) (Touches [kind])
      (createOrUpdateObject server kind gateway.namespacedName obj mutator)
      (Has gateway kind fun o => mutator o = .ok o) := by
  have h : Ensures (Spares gateway) _ (createOrUpdate (server.resource kind)
      gateway.namespacedName obj mutator) _ :=
    createOrUpdate_ensures (fun s s' hs => hs.grows kind) (fun s s' hs => hs.lookup kind)
      fun o v hv => ⟨hstable o v hv, rfl⟩
  refine ((h.mono fun s s' hs => ?_).mapError _).map _
  rcases hs with rfl | ⟨v, -, -, rfl⟩
  · exact .refl _ _
  · exact touches_put

/-- An object that the merge would leave as it is has the desired view and is owned. -/
theorem mergeOwned_self_iff {S A : Type} {merge : Object S → Object S → Object S}
    {view : Object S → A} (hmerges : Merges merge view) {desired o : Object S} :
    mergeOwned gateway merge desired o = .ok o ↔ view o = view desired ∧ Owned gateway o := by
  rw [mergeOwned, setControllerOwnership_eq_ok]
  constructor
  · intro h
    have hview : view o = view desired := by
      rw [(setControllerReference_eq_ok.1 h).2, hmerges.view_owned, hmerges.view_merge]
    rw [hmerges.merge_of_view desired o hview.symm] at h
    exact ⟨hview, h⟩
  · rintro ⟨hview, howned⟩
    rwa [hmerges.merge_of_view desired o hview.symm]

/-- Merging and taking over, when the server leaves alone what was merged. -/
theorem mergeOwned_ensures {A : Type}
    {merge : Object kind.Spec → Object kind.Spec → Object kind.Spec}
    {view : Object kind.Spec → A} {desired : Object kind.Spec} (hmerges : Merges merge view)
    (hadmitted : ∀ o, view o = view desired → view (server.admitted kind o) = view desired) :
    Ensures (Spares gateway) (Touches [kind])
      (createOrUpdateObject server kind gateway.namespacedName desired
        (mergeOwned gateway merge desired))
      (Has gateway kind fun o => view o = view desired ∧ Owned gateway o) := by
  refine (createOrUpdateObject_ensures fun o v hv => ?_).congr fun s =>
    exists_congr fun o => and_congr_right fun _ => mergeOwned_self_iff hmerges
  rw [mergeOwned, setControllerOwnership_eq_ok] at hv
  refine (mergeOwned_self_iff hmerges).2 ⟨hadmitted v ?_,
    owned_of_setControllerReference hv (server.ownerReferences_admit kind v)⟩
  rw [(setControllerReference_eq_ok.1 hv).2, hmerges.view_owned, hmerges.view_merge]

theorem ensureNamespace_ensures :
    Ensures (Spares gateway) (Consul.Adds Cluster.registry gateway.namespace_)
      (d.ensureNamespace gateway) fun s => d.consulNamespaceMirroring = true →
        Consul.Present Cluster.registry gateway.namespace_ s := by
  unfold ensureNamespace
  by_cases hmirroring : d.consulNamespaceMirroring = true
  · rw [if_pos hmirroring]
    refine ((Consul.ensureNamespaceExists_ensures fun _ _ h => h.consul).map _).congr fun s => ?_
    simp only [hmirroring, forall_const]
  · rw [if_neg hmirroring]
    exact (ensures_pure ()).congr fun s => by simp [hmirroring]

/-- A role or a binding is there. -/
theorem ensureExists_ensures (kind : Kind) (obj : Object kind.Spec) :
    Ensures (Spares gateway) (Touches [kind])
      (ensureExists server kind gateway.namespacedName obj) (Has gateway kind fun _ => True) :=
  (createOrUpdateObject_ensures fun _ _ _ => rfl).congr fun _ =>
    exists_congr fun _ => and_congr_right fun _ => by simp

theorem ensureAccount_ensures (serviceAccount : ServiceAccount) :
    Ensures (Spares gateway) (Touches [.serviceAccount])
      (ensureAccount server gateway serviceAccount)
      (Has gateway .serviceAccount fun o => ownedByGateway gateway o = true) where
  stable s s' hs h := h.congr (hs.object _)
  calls := ensureAccount_touches serviceAccount
  establishes w w' u hw h := by
    obtain ⟨o, w₁, hget, hnext⟩ := bind_eq_ok h
    obtain ⟨hlookup, rfl⟩ := get_eq_ok (mapError_eq_ok hget)
    cases o with
    | none =>
      -- the account is created with its owner
      obtain ⟨owned, w₂, howned, hnext⟩ := bind_eq_ok hnext
      obtain ⟨hset, rfl⟩ := Prod.mk.inj howned
      obtain ⟨hok, rfl⟩ := call_eq_ok (mapError_eq_ok hnext)
      obtain ⟨-, hstate⟩ := created_eq_ok hok
      rw [setControllerOwnership_eq_ok, setControllerReference_eq_ok] at hset
      rw [World.after, hstate]
      refine ⟨_, object_put_self, ?_⟩
      change (server.admitted .serviceAccount owned).ownerReferences.any _ = true
      rw [server.ownerReferences_admit, hset.2, List.any_eq_true]
      exact ⟨controllerReference gateway, mem_upsertOwnerRef _ _, by simp [controllerReference]⟩
    | some o =>
      dsimp only at hnext
      -- one that is there is never written, and that of another owner is an error
      split_ifs at hnext with howned
      · cases hnext
        refine ⟨o.value, ?_, howned⟩
        change ((server.resource .serviceAccount).table w.found).value _ = _
        rw [Table.value, hlookup]
        rfl
      · cases hnext
  rests w hw h := by
    refine (Guarantees.mapError (guarantees_get fun _ => rfl) newK8sError w hw).bind
      fun o w₁ hget hw₁ => ?_
    obtain ⟨hlookup, rfl⟩ := get_eq_ok (mapError_eq_ok hget)
    obtain ⟨account, haccount, howned⟩ := h.congr (hw.found.object _)
    change ((server.resource .serviceAccount).table w.found).value _ = _ at haccount
    rw [Table.value, hlookup] at haccount
    cases o with
    | none => cases haccount
    | some o =>
      cases Option.some.inj haccount
      dsimp only
      rw [if_pos howned]
      exact .refl hw₁

theorem ensureRoleBinding_ensures :
    Ensures (Spares gateway) (Touches [.roleBinding]) (ensureRoleBinding server config gateway)
      fun s => (config.roleBindingFor gateway).isSome →
        Has gateway .roleBinding (fun _ => True) s := by
  unfold ensureRoleBinding
  cases config.roleBindingFor gateway with
  | none => exact (ensures_pure ()).congr fun s => by simp
  | some binding =>
    exact ((ensureExists_ensures .roleBinding binding).map _).congr fun s => by simp

/-- Without a role there is no binding. -/
theorem roleBindingFor_of_roleFor (h : config.roleFor gateway = none) :
    config.roleBindingFor gateway = none := by
  unfold GatewayClassConfigSpec.roleBindingFor
  rw [h]
  cases config.serviceAccountFor gateway <;> rfl

/-- Without an account there is no role. -/
theorem roleFor_of_serviceAccountFor (h : config.serviceAccountFor gateway = none) :
    config.roleFor gateway = none := by
  unfold GatewayClassConfigSpec.serviceAccountFor at h
  split_ifs at h with hmanaged
  rw [GatewayClassConfigSpec.roleFor, if_pos (.inl (by simpa using hmanaged))]

theorem ensureRole_ensures :
    Ensures (Spares gateway) (Touches [.role, .roleBinding]) (ensureRole server config gateway)
      fun s => ((config.roleFor gateway).isSome → Has gateway .role (fun _ => True) s) ∧
        ((config.roleBindingFor gateway).isSome → Has gateway .roleBinding (fun _ => True) s) := by
  unfold ensureRole
  cases hrole : config.roleFor gateway with
  | none =>
    exact (ensures_pure ()).congr fun s => by simp [roleBindingFor_of_roleFor hrole]
  | some role =>
    refine (((ensureExists_ensures .role role).seq ensureRoleBinding_ensures
      fun s s' hs h => h.congr (hs.object (by simp) _)).mono fun s s' => .or).congr fun s => ?_
    simp

theorem ensureServiceAccount_ensures :
    Ensures (Spares gateway) (Touches [.serviceAccount, .role, .roleBinding])
      (ensureServiceAccount server config gateway) fun s =>
        ((config.serviceAccountFor gateway).isSome →
          Has gateway .serviceAccount (fun o => ownedByGateway gateway o = true) s) ∧
        ((config.roleFor gateway).isSome → Has gateway .role (fun _ => True) s) ∧
        ((config.roleBindingFor gateway).isSome → Has gateway .roleBinding (fun _ => True) s) := by
  unfold ensureServiceAccount
  cases haccount : config.serviceAccountFor gateway with
  | none =>
    have hrole := roleFor_of_serviceAccountFor haccount
    exact (ensures_pure ()).congr fun s => by simp [hrole, roleBindingFor_of_roleFor hrole]
  | some account =>
    refine (((ensureAccount_ensures account).seq ensureRole_ensures
      fun s s' hs h => h.congr (hs.object (by simp) _)).mono fun s s' => .or).congr fun s => ?_
    simp

theorem ensureSecret_ensures :
    Ensures (Spares gateway) (Touches [.secret]) (d.ensureSecret server config gateway) fun s =>
      config.consulSpec.scheme = "https" → Has gateway .secret (fun o =>
        (o.annotations, o.spec) = (∅, (d.secret gateway).spec) ∧ Owned gateway o) s := by
  unfold ensureSecret
  by_cases hscheme : config.consulSpec.scheme = "https"
  · rw [if_neg (not_not.2 hscheme)]
    refine Ensures.congr
      (.map (.mapError (mergeOwned_ensures merges_mergeSecret fun o ho => ?_) _) _)
      fun s => ?_
    · rw [server.annotations_admit, server.data_admit, ho]
    · simp only [hscheme, forall_const]
      rfl
  · rw [if_pos hscheme]
    exact (ensures_pure ()).congr fun s => by simp [hscheme]

theorem exposedPorts_buildService {service : K8s.Service}
    (h : buildService gateway config = some service) :
    exposedPorts service = gateway.listeners.map fun l => (l.port, "TCP") := by
  obtain ⟨serviceType, -, rfl⟩ := Option.map_eq_some_iff.1 h
  simp [exposedPorts, servicePorts]

theorem ensureService_ensures :
    Ensures (Spares gateway) (Touches [.service]) (ensureService server config gateway) fun s =>
      ∀ service, buildService gateway config = some service → Has gateway .service (fun o =>
        (o.annotations, exposedPorts o) = (service.annotations, exposedPorts service) ∧
          Owned gateway o) s := by
  unfold ensureService
  cases hbuild : buildService gateway config with
  | none => exact (ensures_pure ()).congr fun s => by simp
  | some service =>
    refine Ensures.congr (.map (.mapError (mergeOwned_ensures merges_mergeService fun o ho => ?_) _)
      _) fun s => ?_
    · obtain ⟨hannotations, hports⟩ := Prod.mk.inj ho
      have hexplicit : ∀ p ∈ exposedPorts o, p.2 ≠ "" := by
        rw [hports, exposedPorts_buildService hbuild]
        intro p hp
        obtain ⟨l, -, rfl⟩ := List.mem_map.1 hp
        simp
      rw [server.annotations_admit, server.exposedPorts_admit o hexplicit, ho]
    · simp

/-- The deployment opens the ports of the listeners, with a number of replicas that the builder does
not change. -/
def Current (b : GatewayDeploymentBuilder) (o : Deployment) : Prop :=
  openPorts o = [(20000, "TCP") :: b.gateway.listeners.map fun l => (l.port, "TCP")] ∧
    b.instances (some o.spec.replicas) = o.spec.replicas

theorem createOrUpdateDeployment_ensures (currentReplicas : Option ℤ) :
    Ensures (Spares gateway) (Touches [.deployment])
      (createOrUpdateDeployment server gateway
        ((d.builder consulNamespace config gateway).build currentReplicas))
      (Has gateway .deployment fun o => (openPorts o, o.spec.replicas) =
        (openPorts ((d.builder consulNamespace config gateway).build currentReplicas),
          (d.builder consulNamespace config gateway).instances currentReplicas) ∧
        Owned gateway o) :=
  mergeOwned_ensures merges_mergeDeployment fun _ => view_admit_deployment

/-- What was read is what is there. -/
theorem getDeployment_eq_ok {key : NamespacedName} {w w' : World Cluster Failure}
    {o : Option Deployment} (h : getDeployment server key w = (.ok o, w')) :
    w.found.object .deployment key = o ∧ w' = w.after w.found w.found := by
  obtain ⟨o', w₁, hget, hnext⟩ := bind_eq_ok h
  obtain ⟨hlookup, rfl⟩ := get_eq_ok (mapError_eq_ok hget)
  cases hnext
  exact ⟨congrArg (Option.map Versioned.value) hlookup, rfl⟩

theorem getDeployment_of_none {key : NamespacedName} {w : World Cluster Failure}
    (h : (w.turns 0).fault = .none) : getDeployment server key w =
      (.ok (w.found.object .deployment key), w.after w.found w.found) := by
  have hget : (((server.resource .deployment).get key).mapError newK8sError) w =
      (.ok (((server.resource .deployment).table w.found).lookup key),
        w.after w.found w.found) := by
    rw [Program.mapError, Resource.get, call_of_none h]
    rfl
  rw [getDeployment, bind_of_ok hget]
  rfl

theorem guarantees_getDeployment {R G : Cluster → Cluster → Prop} (hrefl : ∀ s, G s s)
    (key : NamespacedName) : Guarantees R G (getDeployment server key) :=
  ((guarantees_get hrefl).mapError _).bind fun _ => guarantees_pure _

theorem ensureDeployment_ensures :
    Ensures (Spares gateway) (Touches [.deployment])
      (d.ensureDeployment server consulNamespace config gateway)
      (Has gateway .deployment fun o =>
        Current (d.builder consulNamespace config gateway) o ∧ Owned gateway o) where
  stable s s' hs h := h.congr (hs.object _)
  calls := (guarantees_getDeployment (.refl _) _).bind fun _ =>
    ((createOrUpdateDeployment_ensures _).calls.mapError _).bind fun _ => guarantees_pure _
  establishes w w' u hw h := by
    obtain ⟨current, w₁, hget, hnext⟩ := bind_eq_ok h
    obtain ⟨-, rfl⟩ := getDeployment_eq_ok hget
    obtain ⟨o, ho, hview, howned⟩ :=
      (((createOrUpdateDeployment_ensures _).mapError _).map _).establishes _ _ _
        (hw.after w.found w.found) hnext
    obtain ⟨hports, hreplicas⟩ := Prod.mk.inj hview
    refine ⟨o, ho, ⟨hports.trans (openPorts_build _ _), ?_⟩, howned⟩
    rw [hreplicas, GatewayDeploymentBuilder.instances_instances]
  rests w hw h := by
    refine (guarantees_getDeployment (fun _ => rfl) _ w hw).bind fun current w₁ hget hw₁ => ?_
    obtain ⟨hobject, rfl⟩ := getDeployment_eq_ok hget
    obtain ⟨o, ho, ⟨hports, hreplicas⟩, howned⟩ := h.congr (hw.found.object _)
    rw [ho] at hobject
    subst hobject
    have hview := hports.trans
      (openPorts_build (d.builder consulNamespace config gateway) (some o.spec.replicas)).symm
    exact (((createOrUpdateDeployment_ensures (some o.spec.replicas)).mapError _).map _).rests _ hw₁
      ⟨o, ho, Prod.ext hview hreplicas.symm, howned⟩

/-- The objects of the gateway are as the deployer wants them. -/
structure Deployed (d : GatewayDeployer) (consulNamespace : String)
    (config : GatewayClassConfigSpec) (gateway : DeployedGateway) (s : Cluster) : Prop where
  namespace_ : d.consulNamespaceMirroring = true →
    Consul.Present Cluster.registry gateway.namespace_ s
  account : (config.serviceAccountFor gateway).isSome →
    Has gateway .serviceAccount (fun o => ownedByGateway gateway o = true) s
  role : (config.roleFor gateway).isSome → Has gateway .role (fun _ => True) s
  roleBinding : (config.roleBindingFor gateway).isSome → Has gateway .roleBinding (fun _ => True) s
  secret : config.consulSpec.scheme = "https" → Has gateway .secret (fun o =>
    (o.annotations, o.spec) = (∅, (d.secret gateway).spec) ∧ Owned gateway o) s
  deployment : Has gateway .deployment (fun o =>
    Current (d.builder consulNamespace config gateway) o ∧ Owned gateway o) s
  service : ∀ service, buildService gateway config = some service → Has gateway .service (fun o =>
    (o.annotations, exposedPorts o) = (service.annotations, exposedPorts service) ∧
      Owned gateway o) s

theorem deploy_ensures :
    Ensures (Spares gateway) (fun s s' => Consul.Adds Cluster.registry gateway.namespace_ s s' ∨
        Touches [.serviceAccount, .role, .roleBinding, .secret, .deployment, .service] s s')
      (d.deploy server consulNamespace config gateway)
      (d.Deployed consulNamespace config gateway) := by
  unfold deploy
  refine (ensureNamespace_ensures.seq (.mono (ensureServiceAccount_ensures.seq (.mono
    (ensureSecret_ensures.seq (.mono (ensureDeployment_ensures.seq ensureService_ensures ?_)
      fun _ _ => .or) ?_) fun _ _ => .or) ?_) fun _ _ => .or) ?_).congr fun s => ?_
  · exact fun s s' hs h => h.congr (hs.object (by simp) _)
  · exact fun s s' hs h hscheme => (h hscheme).congr (hs.object (by simp) _)
  · exact fun s s' hs h => ⟨fun hsome => (h.1 hsome).congr (hs.object (by simp) _),
      fun hsome => (h.2.1 hsome).congr (hs.object (by simp) _),
      fun hsome => (h.2.2 hsome).congr (hs.object (by simp) _)⟩
  · intro s s' hs h hmirroring
    have hconsul : Cluster.registry.get s' = Cluster.registry.get s := hs.consul
    rw [Consul.Present, hconsul]
    exact h hmirroring
  · constructor
    · rintro ⟨hnamespace, ⟨haccount, hrole, hbinding⟩, hsecret, hdeployment, hservice⟩
      exact ⟨hnamespace, haccount, hrole, hbinding, hsecret, hdeployment, hservice⟩
    · rintro ⟨hnamespace, haccount, hrole, hbinding, hsecret, hdeployment, hservice⟩
      exact ⟨hnamespace, ⟨haccount, hrole, hbinding⟩, hsecret, hdeployment, hservice⟩

end

/-- **Deploying again only reads**: once a `Deploy` has returned, later ones change nothing as long
as the others leave the objects of the gateway alone, whichever of their calls fail. -/
theorem redeploy_only_reads {d : GatewayDeployer} {server : Server} {consulNamespace : String}
    {config : GatewayClassConfigSpec} {gateway : DeployedGateway} {w w' w'' : World Cluster Failure}
    (hw : w.Relies (Spares gateway))
    (h : d.deploy server consulNamespace config gateway w = (.ok (), w'))
    (hlater : Relation.ReflTransGen (Spares gateway) w'.state w''.state)
    (hw'' : w''.Relies (Spares gateway)) :
    d.Deployed consulNamespace config gateway w'.state ∧
      Keeps (Spares gateway) Eq w'' (d.deploy server consulNamespace config gateway w'').2 := by
  have hensures : Ensures _ _ (d.deploy server consulNamespace config gateway) _ := deploy_ensures
  have hdeployed := hensures.establishes w w' () hw h
  exact ⟨hdeployed, hensures.rests w'' hw'' (hensures.stays hlater hdeployed)⟩

namespace SampleDeployment

theorem spares_refl (s : Cluster) : Spares gateway s s :=
  ⟨fun _ => .refl _, fun _ => rfl, .refl _⟩

/-- The world after a first deployment. -/
def deployed : World Cluster Failure :=
  (deployer.deploy server "team" config gateway (World.quiet cluster)).2

theorem deploy_eq_ok :
    deployer.deploy server "team" config gateway (World.quiet cluster) = (.ok (), deployed) := rfl

theorem redeploy_only_reads_here : deployer.Deployed "team" config gateway deployed.state ∧
    Keeps (Spares gateway) Eq deployed (deployer.deploy server "team" config gateway deployed).2 :=
  redeploy_only_reads (World.quiet_relies spares_refl _) deploy_eq_ok .refl fun _ => spares_refl

end SampleDeployment

/-! ### The namespace of a gateway -/

/-- With a prefix, no namespace is mirrored under its own name. -/
theorem namespace_ne_of_prefixed {c : ConsulNamespaceConfig} {ns : String}
    (hmirror : c.mirrorKubernetesNamespaces = true) (hlead : c.mirrorKubernetesNamespacePrefix ≠ "")
    (hns : ns ≠ "") : c.namespace_ ns ≠ ns := by
  simp only [ConsulNamespaceConfig.namespace_, hmirror, if_true]
  split_ifs
  · exact hns.symm
  · intro heq
    have hlength := congrArg String.length heq
    rw [String.length_append] at hlength
    exact hlead (String.length_eq_zero_iff.1 (by omega))

/-- **With a prefix the wrong namespace is made**: `Deploy` makes the Consul namespace that has the
name of the Kubernetes namespace, and gives the gateway the one with the prefix, which it never
makes. -/
theorem prefixed_namespace_not_created {c : ConsulNamespaceConfig} {d : GatewayDeployer}
    {server : Server} {config : GatewayClassConfigSpec} {gateway : DeployedGateway}
    {w : World Cluster Failure} (hmirror : c.mirrorKubernetesNamespaces = true)
    (hd : d.consulNamespaceMirroring = c.mirrorKubernetesNamespaces)
    (hlead : c.mirrorKubernetesNamespacePrefix ≠ "") (hns : gateway.namespace_ ≠ "")
    (hw : w.Relies fun s s' => s.Grows s' ∧
      (s.consul.namespaces.lookup (c.namespace_ gateway.namespace_) = none →
        s'.consul.namespaces.lookup (c.namespace_ gateway.namespace_) = none))
    (h : w.state.consul.namespaces.lookup (c.namespace_ gateway.namespace_) = none) :
    c.namespace_ gateway.namespace_ ≠ gateway.namespace_ ∧
      (d.deploy server (c.namespace_ gateway.namespace_) config gateway
        w).2.state.consul.namespaces.lookup (c.namespace_ gateway.namespace_) = none ∧
      (w.Relies (Spares gateway) →
        (d.deploy server (c.namespace_ gateway.namespace_) config gateway w).1 = .ok () →
        Consul.Present Cluster.registry gateway.namespace_
          (d.deploy server (c.namespace_ gateway.namespace_) config gateway w).2.state) := by
  have hne := namespace_ne_of_prefixed hmirror hlead hns
  refine ⟨hne, ?_, fun hspares hok => ?_⟩
  · refine (deploy_allowed (fun _ _ hs => hs.1) w hw).preserves
      (P := fun s => s.consul.namespaces.lookup (c.namespace_ gateway.namespace_) = none)
      (fun _ _ hs => hs.2) (fun s s' hs hnone => ?_) h
    rw [hs.namespaces _ hne, hnone]
  · have hdeployed : d.Deployed (c.namespace_ gateway.namespace_) config gateway
        (d.deploy server (c.namespace_ gateway.namespace_) config gateway w).2.state :=
      deploy_ensures.establishes w _ () hspares (Prod.ext hok rfl)
    exact hdeployed.namespace_ (hd.trans hmirror)

namespace SampleDeployment

def namespaces : ConsulNamespaceConfig where
  mirrorKubernetesNamespaces := true
  mirrorKubernetesNamespacePrefix := "k8s-"

theorem prefixed_namespace_not_created_here :
    (deployer.deploy server (namespaces.namespace_ gateway.namespace_) config gateway
      (World.quiet cluster)).2.state.consul.namespaces.lookup
        (namespaces.namespace_ gateway.namespace_) = none ∧
      Consul.Present Cluster.registry gateway.namespace_
        (deployer.deploy server (namespaces.namespace_ gateway.namespace_) config gateway
          (World.quiet cluster)).2.state := by
  have hquiet : (World.quiet cluster : World Cluster Failure).Relies fun s s' => s.Grows s' ∧
      (s.consul.namespaces.lookup (namespaces.namespace_ gateway.namespace_) = none →
        s'.consul.namespaces.lookup (namespaces.namespace_ gateway.namespace_) = none) :=
    World.quiet_relies (fun _ => ⟨fun _ => .refl _, id⟩) _
  obtain ⟨-, hnone, hpresent⟩ := prefixed_namespace_not_created (d := deployer) rfl rfl (by decide)
    (by decide) hquiet rfl
  exact ⟨hnone, hpresent (World.quiet_relies spares_refl _) rfl⟩

end SampleDeployment

/-! ### The number of replicas -/

/-- The others do what they like, but not to the deployment of the gateway. -/
structure SparesDeployment (gateway : DeployedGateway) (s s' : Cluster) : Prop where
  grows : s.Grows s'
  deployment : s'.object .deployment gateway.namespacedName =
    s.object .deployment gateway.namespacedName

/-- The deployment runs this many replicas. -/
def Runs (gateway : DeployedGateway) (replicas : ℤ) (s : Cluster) : Prop :=
  Has gateway .deployment (fun o => o.spec.replicas = replicas) s

section

variable {d : GatewayDeployer} {server : Server} {consulNamespace : String}
  {config : GatewayClassConfigSpec} {gateway : DeployedGateway} {s s' : Cluster} {replicas : ℤ}
  {w : World Cluster Failure}

theorem runs_of_spares (h : SparesDeployment gateway s s') (hruns : Runs gateway replicas s) :
    Runs gateway replicas s' := hruns.congr h.deployment

theorem runs_of_touches {kinds : List Kind} (hkinds : Kind.deployment ∉ kinds)
    (h : Touches kinds s s') (hruns : Runs gateway replicas s) : Runs gateway replicas s' :=
  hruns.congr (h.object hkinds _)

/-- A call that does not write deployments leaves the replicas alone. -/
theorem createOrUpdateObject_runs (kind : Kind) {obj : Object kind.Spec}
    {mutator : Object kind.Spec → Except Failure (Object kind.Spec)} (hkind : kind ≠ .deployment) :
    Preserves (SparesDeployment gateway) (Runs gateway replicas)
      (createOrUpdateObject server kind gateway.namespacedName obj mutator) := by
  have htouches : Guarantees (SparesDeployment gateway) (Touches [kind])
      (createOrUpdateObject server kind gateway.namespacedName obj mutator) := by
    refine createOrUpdateObject_guarantees (fun _ _ hs => hs.grows) (.refl _) ?_
    rintro s s' ⟨v, -, -, rfl⟩
    exact touches_put
  exact htouches.preserves (fun _ _ => runs_of_spares) fun _ _ =>
    runs_of_touches (by simpa using hkind.symm)

theorem ensureNamespace_runs :
    Preserves (SparesDeployment gateway) (Runs gateway replicas) (d.ensureNamespace gateway) := by
  unfold ensureNamespace
  split_ifs
  · refine Preserves.bind ((Consul.ensureNamespaceExists_guarantees _ _).preserves
      (fun _ _ => runs_of_spares) ?_) fun _ => preserves_pure _
    rintro s s' (rfl | ⟨r', -, -, rfl⟩)
    · exact id
    · exact Has.congr rfl
  · exact preserves_pure _

theorem ensureServiceAccount_runs : Preserves (SparesDeployment gateway) (Runs gateway replicas)
    (ensureServiceAccount server config gateway) := by
  unfold ensureServiceAccount ensureRole ensureRoleBinding
  cases config.serviceAccountFor gateway with
  | none => exact preserves_pure _
  | some serviceAccount =>
    refine ((ensureAccount_touches serviceAccount).preserves (P := Runs gateway replicas)
      (fun _ _ => runs_of_spares) fun _ _ => runs_of_touches (by simp)).bind fun _ => ?_
    cases config.roleFor gateway with
    | none => exact preserves_pure _
    | some role =>
      refine (createOrUpdateObject_runs .role (by simp)).bind fun _ => ?_
      cases config.roleBindingFor gateway with
      | none => exact preserves_pure _
      | some binding =>
        exact (createOrUpdateObject_runs .roleBinding (by simp)).bind fun _ => preserves_pure _

theorem ensureSecret_runs : Preserves (SparesDeployment gateway) (Runs gateway replicas)
    (d.ensureSecret server config gateway) := by
  unfold ensureSecret
  split_ifs
  · exact preserves_pure _
  · exact (Preserves.mapError (createOrUpdateObject_runs .secret (by simp)) _).bind fun _ =>
      preserves_pure _

theorem ensureService_runs : Preserves (SparesDeployment gateway) (Runs gateway replicas)
    (ensureService server config gateway) := by
  unfold ensureService
  cases buildService gateway config with
  | none => exact preserves_pure _
  | some service =>
    exact (Preserves.mapError (createOrUpdateObject_runs .service (by simp)) _).bind fun _ =>
      preserves_pure _

/-- What is stored was built from this number of replicas. -/
theorem runs_of_stores {server : Server}
    (hreplicas : (d.builder consulNamespace config gateway).Allows replicas)
    (h : Stores (server.resource .deployment) gateway.namespacedName
      ((d.builder consulNamespace config gateway).build (some replicas))
      (mergeOwned gateway mergeDeployment
        ((d.builder consulNamespace config gateway).build (some replicas))) s s') :
    Runs gateway replicas s' := by
  obtain ⟨v, hv, -, rfl⟩ := h
  rw [mergeOwned, setControllerOwnership_eq_ok, setControllerReference_eq_ok] at hv
  refine ⟨_, object_put_self, ?_⟩
  change (server.admitted .deployment v).spec.replicas = replicas
  rw [server.replicas_admit, hv.2]
  exact (Prod.mk.inj (merges_mergeDeployment.view_merge _ _)).2.trans
    (GatewayDeploymentBuilder.instances_of_allowed hreplicas)

theorem ensureDeployment_runs
    (hreplicas : (d.builder consulNamespace config gateway).Allows replicas) :
    Preserves (SparesDeployment gateway) (Runs gateway replicas)
      (d.ensureDeployment server consulNamespace config gateway) := by
  refine Preserves.bind_of ((guarantees_getDeployment (fun _ => rfl) _).preserves (G := Eq)
    (fun _ _ => runs_of_spares) fun _ _ heq => heq ▸ id) ?_
  intro w current w' hw hruns hget hruns' hw'
  obtain ⟨hobject, rfl⟩ := getDeployment_eq_ok hget
  -- the first read finds the number that is there
  obtain ⟨o, ho, rfl⟩ := hruns'
  cases ho.symm.trans hobject
  have hstores : Guarantees (SparesDeployment gateway) (fun s s' => s' = s ∨
      Runs gateway o.spec.replicas s') (createOrUpdateDeployment server gateway
        ((d.builder consulNamespace config gateway).build (some o.spec.replicas))) :=
    createOrUpdateObject_guarantees (fun _ _ hs => hs.grows) (fun _ => .inl rfl) fun _ _ h =>
      .inr (runs_of_stores hreplicas h)
  refine (Preserves.mapError (hstores.preserves (fun _ _ => runs_of_spares) ?_) _).bind
    (fun _ => preserves_pure _) _ hw' ⟨o, ho, rfl⟩
  rintro s s' (rfl | h) hruns
  · exact hruns
  · exact h

end

/-- **A number of replicas that the class allows survives** every `Deploy`, whether it succeeds or
fails, as long as the others do not change the deployment meanwhile. -/
theorem deploy_keeps_replicas {d : GatewayDeployer} {server : Server} {consulNamespace : String}
    {config : GatewayClassConfigSpec} {gateway : DeployedGateway} {replicas : ℤ}
    {w : World Cluster Failure} (hw : w.Relies (SparesDeployment gateway))
    (hreplicas : (d.builder consulNamespace config gateway).Allows replicas)
    (hruns : Runs gateway replicas w.state) :
    Runs gateway replicas (d.deploy server consulNamespace config gateway w).2.state := by
  have hpreserves : Preserves (SparesDeployment gateway) (Runs gateway replicas)
      (d.deploy server consulNamespace config gateway) :=
    ensureNamespace_runs.bind fun _ => ensureServiceAccount_runs.bind fun _ =>
      ensureSecret_runs.bind fun _ => (ensureDeployment_runs hreplicas).bind fun _ =>
        ensureService_runs
  exact (hpreserves w hw hruns).1

namespace SampleDeployment

/-- The deployment of the sample with this many replicas. -/
def deployment (replicas : ℤ) : Deployment :=
  { (deployer.builder "team" config gateway).build (some replicas) with
    ownerReferences := [controllerReference gateway] }

def scaled (replicas : ℤ) (s : Cluster) : Cluster :=
  (server.resource .deployment).put gateway.namespacedName (deployment replicas) s

theorem allows_two : (deployer.builder "team" config gateway).Allows 2 := by
  constructor
  · intro minValue h
    cases h
    decide
  · intro maxValue h
    cases h
    decide

theorem deploy_keeps_replicas_here : Runs gateway 2
    (deployer.deploy server "team" config gateway (World.quiet (scaled 2 cluster))).2.state :=
  deploy_keeps_replicas (World.quiet_relies (fun _ => ⟨fun _ => .refl _, rfl⟩) _) allows_two
    ⟨deployment 2, rfl, rfl⟩

end SampleDeployment

/-- An update of a deployment that is there, when nothing fails. -/
theorem createOrUpdateDeployment_of_some {d : GatewayDeployer} (server : Server)
    {consulNamespace : String} {config : GatewayClassConfigSpec} {gateway : DeployedGateway}
    {w : World Cluster Failure} {replicas : ℤ} {o : Deployment}
    (hread : (w.turns 0).fault = .none) (hwrite : w.turns 1 = ⟨id, .none⟩)
    (ho : w.found.object .deployment gateway.namespacedName = some o)
    (hother : ¬ ControlledByOther gateway o.ownerReferences)
    (hreplicas : (d.builder consulNamespace config gateway).Allows replicas) :
    ∃ updated w', createOrUpdateDeployment server gateway
        ((d.builder consulNamespace config gateway).build (some replicas)) w = (.ok updated, w') ∧
      Runs gateway replicas w'.state := by
  obtain ⟨found, hlookup, rfl⟩ := Option.map_eq_some_iff.1 ho
  obtain ⟨v, hv⟩ : ∃ v, mergeOwned gateway mergeDeployment
      ((d.builder consulNamespace config gateway).build (some replicas)) found.value = .ok v := by
    refine ⟨_, setControllerOwnership_eq_ok.2 (setControllerReference_eq_ok.2 ⟨?_, rfl⟩)⟩
    rwa [merges_mergeDeployment.ownerReferences_merge]
  have hview : v.spec.replicas = replicas := by
    rw [mergeOwned, setControllerOwnership_eq_ok, setControllerReference_eq_ok] at hv
    rw [hv.2]
    exact (Prod.mk.inj (merges_mergeDeployment.view_merge _ _)).2.trans
      (GatewayDeploymentBuilder.instances_of_allowed hreplicas)
  obtain ⟨op, w', heq, hstate⟩ := createOrUpdate_of_some (r := server.resource .deployment)
    ((d.builder consulNamespace config gateway).build (some replicas)) hread hwrite hlookup hv
  refine ⟨op ≠ .none, w', ?_, ?_⟩
  · exact bind_of_ok (mapError_of_ok heq newK8sError) _
  · rcases hstate with ⟨hstate, rfl⟩ | hstate
    · rw [hstate]
      exact ⟨_, ho, hview⟩
    · rw [hstate]
      exact ⟨_, object_put_self, (server.replicas_admit v).trans hview⟩

/-- **Scaling between the two reads is undone**: the deployer reads the number of replicas, and
reads the deployment again when it updates it.  What was set in between is overwritten with what was
read first. -/
theorem scaling_between_reads_undone {d : GatewayDeployer} {server : Server}
    {consulNamespace : String} {config : GatewayClassConfigSpec} {gateway : DeployedGateway}
    {w : World Cluster Failure} {scale : Cluster → Cluster} {o o' : Deployment}
    (hturns : w.turns 0 = ⟨id, .none⟩ ∧ w.turns 1 = ⟨scale, .none⟩ ∧ w.turns 2 = ⟨id, .none⟩)
    (ho : w.state.object .deployment gateway.namespacedName = some o)
    (ho' : (scale w.state).object .deployment gateway.namespacedName = some o')
    (hother : ¬ ControlledByOther gateway o'.ownerReferences)
    (hreplicas : (d.builder consulNamespace config gateway).Allows o.spec.replicas) :
    (d.ensureDeployment server consulNamespace config gateway w).1 = .ok () ∧
      Runs gateway o.spec.replicas
        (d.ensureDeployment server consulNamespace config gateway w).2.state := by
  obtain ⟨h₀, h₁, h₂⟩ := hturns
  have hfound : w.found = w.state := by
    rw [World.found, h₀]
    rfl
  have hget : getDeployment server gateway.namespacedName w =
      (.ok (some o), w.after w.state w.state) := by
    rw [getDeployment_of_none (by rw [h₀]), hfound, ho]
  -- the second read finds the deployment as it has been scaled
  have hfound' : (w.after w.state w.state).found = scale w.state := by
    rw [World.found, World.after, h₁]
  obtain ⟨updated, w', heq, hruns⟩ := createOrUpdateDeployment_of_some server
    (w := w.after w.state w.state) (by rw [World.after, h₁]) h₂ (by rw [hfound', ho']) hother
    hreplicas
  have hrun : d.ensureDeployment server consulNamespace config gateway w = (.ok (), w') := by
    rw [ensureDeployment, bind_of_ok hget]
    exact bind_of_ok (mapError_of_ok heq _) _
  rw [hrun]
  exact ⟨rfl, hruns⟩

namespace SampleDeployment

/-- Between the first two calls the deployment is scaled to three replicas. -/
def scaledWhileDeploying : World Cluster Failure :=
  ⟨scaled 2 cluster, fun n => ⟨if n = 1 then scaled 3 else id, .none⟩, []⟩

theorem scaling_between_reads_undone_here :
    (deployer.ensureDeployment server "team" config gateway scaledWhileDeploying).1 = .ok () ∧
      Runs gateway (deployment 2).spec.replicas
        (deployer.ensureDeployment server "team" config gateway scaledWhileDeploying).2.state := by
  have hscaled : (scaled 3 (scaled 2 cluster)).object .deployment gateway.namespacedName =
    some (deployment 3) := rfl
  refine scaling_between_reads_undone ⟨rfl, rfl, rfl⟩ rfl hscaled ?_ allows_two
  rintro ⟨existing, hexisting, hsame⟩
  cases hexisting
  exact absurd hsame (by decide)

end SampleDeployment

/-! ### What is not rolled out -/

theorem deployed_of_settings {d d' : GatewayDeployer} {consulNamespace consulNamespace' : String}
    {config config' : GatewayClassConfigSpec} {gateway : DeployedGateway} {s : Cluster}
    (hconsulCA : d'.consulCA = d.consulCA)
    (hmirroring : d'.consulNamespaceMirroring = d.consulNamespaceMirroring)
    (hauth : config'.consulSpec.authSpec = config.consulSpec.authSpec)
    (hscheme : config'.consulSpec.scheme = config.consulSpec.scheme)
    (hinstances : config'.deploymentSpec = config.deploymentSpec)
    (hservice : config'.serviceType = config.serviceType)
    (hannotations : config'.copyAnnotations = config.copyAnnotations)
    (h : d.Deployed consulNamespace config gateway s) :
    d'.Deployed consulNamespace' config' gateway s := by
  have haccountFor : config'.serviceAccountFor gateway = config.serviceAccountFor gateway := by
    rw [GatewayClassConfigSpec.serviceAccountFor, hauth]
    rfl
  have hroleFor : config'.roleFor gateway = config.roleFor gateway := by
    rw [GatewayClassConfigSpec.roleFor, hauth]
    rfl
  have hbindingFor : config'.roleBindingFor gateway = config.roleBindingFor gateway := by
    rw [GatewayClassConfigSpec.roleBindingFor, haccountFor, hroleFor]
    rfl
  have hbuild : buildService gateway config' = buildService gateway config := by
    rw [buildService, hservice, hannotations]
    rfl
  have hinstances' : (d'.builder consulNamespace' config' gateway).instances =
      (d.builder consulNamespace config gateway).instances := by
    funext current
    simp only [GatewayDeploymentBuilder.instances, builder, hinstances]
  refine ⟨by rw [hmirroring]; exact h.namespace_, by rw [haccountFor]; exact h.account,
    by rw [hroleFor]; exact h.role, by rw [hbindingFor]; exact h.roleBinding, ?_, ?_,
    by rw [hbuild]; exact h.service⟩
  · rw [hscheme, secret, hconsulCA]
    exact h.secret
  · unfold Current
    rw [hinstances']
    exact h.deployment

/-- **Settings that only the pods see are not rolled out**: where a gateway has been deployed,
another address of the certificate server, another image, log level or Consul address does not lead
to a write. -/
theorem pod_settings_not_rolled_out {d d' : GatewayDeployer} {server : Server}
    {consulNamespace consulNamespace' : String} {config config' : GatewayClassConfigSpec}
    {gateway : DeployedGateway} {w : World Cluster Failure} (hconsulCA : d'.consulCA = d.consulCA)
    (hmirroring : d'.consulNamespaceMirroring = d.consulNamespaceMirroring)
    (hauth : config'.consulSpec.authSpec = config.consulSpec.authSpec)
    (hscheme : config'.consulSpec.scheme = config.consulSpec.scheme)
    (hinstances : config'.deploymentSpec = config.deploymentSpec)
    (hservice : config'.serviceType = config.serviceType)
    (hannotations : config'.copyAnnotations = config.copyAnnotations)
    (hw : w.Relies (Spares gateway)) (h : d.Deployed consulNamespace config gateway w.state) :
    Keeps (Spares gateway) Eq w (d'.deploy server consulNamespace' config' gateway w).2 :=
  deploy_ensures.rests w hw
    (deployed_of_settings hconsulCA hmirroring hauth hscheme hinstances hservice hannotations h)

namespace SampleDeployment

theorem deployed_deployed : deployer.Deployed "team" config gateway deployed.state := by
  have hensures : Ensures _ _ (deployer.deploy server "team" config gateway) _ := deploy_ensures
  exact hensures.establishes _ _ () (World.quiet_relies spares_refl _) deploy_eq_ok

theorem pod_settings_not_rolled_out_here :
    Keeps (Spares gateway) Eq deployed
      (GatewayDeployer.deploy { deployer with sdsHost := "elsewhere" } server "team"
        { config with logLevel := "trace" } gateway deployed).2 := by
  refine pod_settings_not_rolled_out (d := deployer) rfl rfl ?_ ?_ ?_ ?_ ?_ (fun _ => spares_refl)
    deployed_deployed
  all_goals rfl

end SampleDeployment

end GatewayDeployer

end Reconciler
