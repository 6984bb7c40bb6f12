/-
The gateways that are stored, and those of the cluster (`internal/k8s/reconciler/manager.go`, as the
controllers of `internal/k8s/controllers` call it).

A Gateway is stored under an ID that another one may have too, and a Gateway that the manager does
not take for its own is left as it is.

* `Orderly` — what every request keeps;
* `upsertGateway_worked`, `deleteGateway_worked` — what becomes of the gateways of the store;
* `follows_gateways`, `Step.gateways` — the controllers work off a queue of gateways;
* `stored_gateways_current` — a stored gateway is the one in the cluster, unless it is still to be
  worked on or has lost its configuration.
-/
import ConsulApiGateway.Operator

namespace Reconciler.GatewayReconcileManager

open K8s

variable {config : ConsulNamespaceConfig} {M : Marshaler} {c : Client} {v : Store.Visit}
  {m m' : GatewayReconcileManager} {a : UpsertAnswers} {g : Gateway} {err : Err}

/-! ### The manager -/

/-- The manager remembers every Gateway that is stored, and all have numeric versions. -/
structure Orderly (config : ConsulNamespaceConfig) (m : GatewayReconcileManager) : Prop
    extends Consistent config m where
  mapped : ∀ {gid g}, m.store.gateways.lookup gid = some g → g.namespacedName ∈ m.namespaceMap
  numeric : ∀ {gid g}, m.store.gateways.lookup gid = some g → Numeric g.gateway.resourceVersion

theorem orderly_new : Orderly config new :=
  { consistent_new with
    mapped := fun {gid g} h => by cases h
    numeric := fun {gid g} h => by cases h }

theorem gateway_of_sameGateway {g g' : K8sGateway} (h : g.SameGateway g') :
    g'.gateway = g.gateway := by
  obtain ⟨ls, rfl, -⟩ := h
  rfl

theorem namespacedName_of_sameGateway {g g' : K8sGateway} (h : g.SameGateway g') :
    g'.namespacedName = g.namespacedName := by
  rw [K8sGateway.namespacedName, gateway_of_sameGateway h, K8sGateway.namespacedName]

/-- The ID of a stored gateway is the one that its name gives. -/
theorem Consistent.gid_eq (hm : Consistent config m) {gid : Core.GatewayID} {g : K8sGateway}
    (hg : m.store.gateways.lookup gid = some g) :
    gid = ⟨config.namespace_ g.namespacedName.namespace_, g.namespacedName.name⟩ := by
  rw [← hm.gateways hg, K8sGateway.id, hm.consulNamespace hg]
  rfl

/-- A stored gateway is found by the name of its Gateway. -/
theorem Orderly.deletedID_eq (hm : Orderly config m) {gid : Core.GatewayID} {g : K8sGateway}
    (hg : m.store.gateways.lookup gid = some g) : m.deletedID g.namespacedName = gid := by
  obtain ⟨ns, hns⟩ := Finmap.mem_iff.1 (hm.mapped hg)
  rw [hm.gid_eq hg, deletedID, hns, hm.namespaceMap hns]
  rfl

/-- **What an upsert does**: it returns before the store, with an error or because it finds no
configuration on the Gateway, or the Gateway is validated and delivered. -/
theorem upsertGateway_worked (hm : Orderly config m) (hv : v.Of m.store)
    (hnumeric : Numeric g.resourceVersion)
    (h : upsertGateway config.namespace_ c M v a m g = some (m', err)) :
    (m'.store = m.store ∧
        (err.isSome ∨ (g.annotations.lookup annotationConfig).bind a.unmarshal = none)) ∨
      ∃ validated, prepareGateway config.namespace_ a g = .validated validated ∧
        m'.namespaceMap = m.namespaceMap.insert g.namespacedName (config.namespace_ g.namespace_) ∧
        Takes K8sGateway.version K8sGateway.SameGateway (some validated)
          (m.store.gateways.lookup validated.id) (m'.store.gateways.lookup validated.id) ∧
        ∀ gid ≠ validated.id, m'.store.gateways.lookup gid = m.store.gateways.lookup gid := by
  unfold upsertGateway at h
  dsimp only at h
  cases hp : prepareGateway config.namespace_ a g with
  | done err' =>
    rw [hp] at h
    cases h
    refine .inl ⟨rfl, ?_⟩
    -- with a configuration it is only the marshaling that can end the upsert here
    cases hc : (g.annotations.lookup annotationConfig).bind a.unmarshal with
    | none => exact .inr rfl
    | some config' =>
      left
      simp only [prepareGateway, managedConfig, hc] at hp
      split at hp
      · cases hp
        rfl
      · rw [if_neg (by simp)] at hp
        split at hp
        · cases hp
        · cases hp
  | annotated g' =>
    rw [hp] at h
    cases h
    obtain ⟨config', marshaled, hmanaged, -, -⟩ := prepareGateway_annotated hp
    exact .inl ⟨rfl, .inr (managedConfig_unannotated hmanaged)⟩
  | rejected err' =>
    rw [hp] at h
    cases h
    exact .inl ⟨rfl, .inl rfl⟩
  | validated validated =>
    rw [hp] at h
    obtain ⟨store, hstore, heq⟩ := Option.map_eq_some_iff.1 h
    cases heq
    have hversion := (prepareGateway_spec hp).2.2.2
    refine .inr ⟨validated, rfl, rfl, ?_, fun gid hne => ?_⟩
    · exact takes_own_gateway hm.toKeyed hv (fun _ hg => hm.numeric hg) (hversion ▸ hnumeric) hstore
    · rcases Store.upsertGateway_cases hm.toKeyed hv hstore with
        ⟨-, hsame⟩ | ⟨-, ls, _, _, -, hgs, -, -⟩
      · rw [hsame]
      · rw [hgs, GoMap.lookup_insert_ite, if_neg hne]

/-- What a deletion does: nothing is added, and without an error nothing is left of the Gateway. -/
theorem deleteGateway_worked {name : NamespacedName} {clearErr statusErr : Err}
    (hm : Orderly config m) (h : deleteGateway M v clearErr statusErr m name = some (m', err)) :
    (∀ gid g, m'.store.gateways.lookup gid = some g → m.store.gateways.lookup gid = some g) ∧
      (err = none → ∀ g, ¬ m'.HoldsGateway name g) := by
  obtain ⟨hstore, -⟩ := deleteGateway_cases h
  have hsub : ∀ gid g, m'.store.gateways.lookup gid = some g →
      m.store.gateways.lookup gid = some g := fun gid g => Store.deleteGateway_of_some hstore
  refine ⟨hsub, ?_⟩
  rintro rfl g ⟨gid, hg, rfl⟩
  have hid := hm.deletedID_eq (hsub gid g hg)
  have hfound : m.store.getGateway (m.deletedID g.namespacedName) = some g := by
    rw [hid]
    exact hsub gid g hg
  rcases Store.deleteGateway_cases hstore with ⟨hnone | herr, -⟩ | ⟨-, _, _, _, -, -, hgs, -⟩
  · cases hnone.symm.trans hfound
  · -- clearing the gateway has failed, and that is returned
    obtain ⟨store, -, heq⟩ := Option.map_eq_some_iff.1 h
    have hreturned := congrArg Prod.snd heq
    simp only [hfound, Option.isSome_some, if_true] at hreturned
    obtain ⟨err, rfl⟩ := Option.isSome_iff_exists.1 herr
    cases hreturned
  · rw [hgs, hid, GoMap.lookup_erase_ite, if_pos rfl] at hg
    cases hg

theorem deleteGateway_namespaceMap {name : NamespacedName} {clearErr statusErr : Err}
    (h : deleteGateway M v clearErr statusErr m name = some (m', err)) :
    m'.namespaceMap = if err.isSome then m.namespaceMap else m.namespaceMap.erase name := by
  obtain ⟨store, -, heq⟩ := Option.map_eq_some_iff.1 h
  cases heq
  rfl

/-- What is stored after an upsert was stored before it, or is the Gateway. -/
theorem exists_of_upsertGateway (hm : Orderly config m) (hv : v.Of m.store)
    (hnumeric : Numeric g.resourceVersion)
    (h : upsertGateway config.namespace_ c M v a m g = some (m', err)) {gid : Core.GatewayID}
    {g' : K8sGateway} (hg' : m'.store.gateways.lookup gid = some g') :
    m.store.gateways.lookup gid = some g' ∨ g.namespacedName ∈ m'.namespaceMap ∧
      g'.namespacedName = g.namespacedName ∧
      g'.gateway.resourceVersion = g.resourceVersion := by
  rcases upsertGateway_worked hm hv hnumeric h with
    ⟨hsame, -⟩ | ⟨validated, hp, hmap, htakes, hother⟩
  · exact .inl (hsame ▸ hg')
  by_cases hid : gid = validated.id
  · subst hid
    rcases htakes.cases_some with ⟨r, hr, hsame⟩ | ⟨hkept, -⟩
    · obtain rfl : r = g' := Option.some.inj (hr.symm.trans hg')
      obtain ⟨-, -, hname, hversion⟩ := prepareGateway_spec hp
      refine .inr ⟨hmap ▸ Finmap.mem_insert.2 (.inl rfl), ?_, ?_⟩
      · rw [namespacedName_of_sameGateway hsame, hname]
      · rw [gateway_of_sameGateway hsame, hversion]
    · exact .inl (hkept ▸ hg')
  · exact .inl (hother gid hid ▸ hg')

theorem Orderly.upsertGateway (hm : Orderly config m) (hv : v.Of m.store)
    (hnumeric : Numeric g.resourceVersion)
    (h : GatewayReconcileManager.upsertGateway config.namespace_ c M v a m g = some (m', err)) :
    Orderly config m' where
  toConsistent := hm.toConsistent.upsertGateway hv h
  mapped {gid g'} hg' := by
    rcases exists_of_upsertGateway hm hv hnumeric h hg' with hg' | ⟨hmapped, hname, -⟩
    · rcases (upsertGateway_cases h).2 with hmap | hmap
      · exact hmap ▸ hm.mapped hg'
      · exact hmap ▸ Finmap.mem_insert.2 (.inr (hm.mapped hg'))
    · exact hname ▸ hmapped
  numeric {gid g'} hg' := by
    rcases exists_of_upsertGateway hm hv hnumeric h hg' with hg' | ⟨-, -, hversion⟩
    · exact hm.numeric hg'
    · exact hversion ▸ hnumeric

theorem Orderly.deleteGateway {name : NamespacedName} {clearErr statusErr : Err}
    (hm : Orderly config m) (hv : v.Of m.store)
    (h : GatewayReconcileManager.deleteGateway M v clearErr statusErr m name = some (m', err)) :
    Orderly config m' where
  toConsistent := hm.toConsistent.deleteGateway hv h
  mapped {gid g} hg := by
    obtain ⟨hsub, hgone⟩ := deleteGateway_worked hm h
    have hmapped := hm.mapped (hsub gid g hg)
    -- the name is forgotten only together with its gateway
    rw [deleteGateway_namespaceMap h]
    split_ifs with herr
    · exact hmapped
    · refine Finmap.mem_erase.2 ⟨fun hname => ?_, hmapped⟩
      exact hgone (Option.not_isSome_iff_eq_none.1 herr) g ⟨gid, hg, hname⟩
  numeric {gid g} hg := hm.numeric ((deleteGateway_worked hm h).1 gid g hg)

/-- The gateways of the one manager are copies of those of the other. -/
def Copied (m m' : GatewayReconcileManager) : Prop :=
  ∀ gid g', m'.store.gateways.lookup gid = some g' →
    ∃ g : K8sGateway, m.store.gateways.lookup gid = some g ∧ g.SameGateway g'

theorem Orderly.copied (hm : Orderly config m) (hm' : Consistent config m')
    (hmap : m'.namespaceMap = m.namespaceMap) (hcopied : Copied m m') : Orderly config m' where
  toConsistent := hm'
  mapped {gid g'} hg' := by
    obtain ⟨g, hg, hsame⟩ := hcopied gid g' hg'
    rw [namespacedName_of_sameGateway hsame, hmap]
    exact hm.mapped hg
  numeric {gid g'} hg' := by
    obtain ⟨g, hg, hsame⟩ := hcopied gid g' hg'
    rw [gateway_of_sameGateway hsame]
    exact hm.numeric hg

end Reconciler.GatewayReconcileManager

namespace Controllers

open K8s Reconciler GatewayReconcileManager

variable {config : ConsulNamespaceConfig} {M : Marshaler} {v : Store.Visit}
  {m m' : GatewayReconcileManager} {key : NamespacedName} {read : Option Gateway} {requeue : Bool}
  {n : ℤ} {unmarshal : String → Option V1alpha1.GatewayClassConfigSpec}

/-! ### The work on gateways -/

/-- The stored gateway is what the validation has made of the Gateway, apart from its routes. -/
def IsCurrentGateway (config : ConsulNamespaceConfig) (g : Gateway) (stored : K8sGateway) : Prop :=
  ∃ a validated, prepareGateway config.namespace_ a g = .validated validated ∧
    validated.SameGateway stored

/-- What is stored of a Gateway is of no version after `n`. -/
def GatewayNotAfter (m : GatewayReconcileManager) (key : NamespacedName) (n : ℤ) : Prop :=
  ∀ stored, m.HoldsGateway key stored → stored.version ≤ n

/-- The configuration of the Gateway can be read from its annotation. -/
def Configured (unmarshal : String → Option V1alpha1.GatewayClassConfigSpec) (g : Gateway) : Prop :=
  ((g.annotations.lookup annotationConfig).bind unmarshal).isSome

/-- What is stored of a Gateway is in line with the object, if that has its configuration. -/
def GatewayAgrees (config : ConsulNamespaceConfig)
    (unmarshal : String → Option V1alpha1.GatewayClassConfigSpec) (m : GatewayReconcileManager)
    (key : NamespacedName) : Option Gateway → Prop
  | none => ∀ stored, ¬ m.HoldsGateway key stored
  | some g => Configured unmarshal g → ∀ stored, m.HoldsGateway key stored →
      IsCurrentGateway config g stored

def GatewayWork (config : ConsulNamespaceConfig) (M : Marshaler)
    (unmarshal : String → Option V1alpha1.GatewayClassConfigSpec) (m : GatewayReconcileManager)
    (key : NamespacedName) (read : Option Gateway) (m' : GatewayReconcileManager) (requeue : Bool) :
    Prop :=
  Orderly config m ∧ ∃ a v err, v.Of m.store ∧ a.upsert.unmarshal = unmarshal ∧
    serve config.namespace_ M v m (gatewayRequest key a read) = some (m', err) ∧
    requeue = err.isSome

theorem GatewayWork.notAfter (h : GatewayWork config M unmarshal m key read m' requeue)
    (hread : ∀ g, read = some g → GatewayValid key g ∧ gatewayVersion g ≤ n)
    (hn : GatewayNotAfter m key n) : GatewayNotAfter m' key n := by
  obtain ⟨hm, a, v, err, hv, -, hserve, -⟩ := h
  rintro stored ⟨gid, hstored, hname⟩
  cases read with
  | none => exact hn stored ⟨gid, (deleteGateway_worked hm hserve).1 gid stored hstored, hname⟩
  | some g =>
    obtain ⟨⟨hkey, hnumeric⟩, hle⟩ := hread g rfl
    rcases exists_of_upsertGateway hm hv hnumeric hserve hstored with hstored | ⟨-, -, hversion⟩
    · exact hn stored ⟨gid, hstored, hname⟩
    · rw [K8sGateway.version, hversion]
      exact hle

theorem GatewayWork.agrees (h : GatewayWork config M unmarshal m key read m' false)
    (hread : ∀ g, read = some g → GatewayValid key g ∧ GatewayNotAfter m key (gatewayVersion g)) :
    GatewayAgrees config unmarshal m' key read := by
  obtain ⟨hm, a, v, err, hv, rfl, hserve, herr⟩ := h
  obtain rfl : err = none := Option.not_isSome_iff_eq_none.1 (by simp [← herr])
  cases read with
  | none => exact (deleteGateway_worked hm hserve).2 rfl
  | some g =>
    obtain ⟨⟨hkey, hnumeric⟩, hn⟩ := hread g rfl
    intro hconfigured stored hholds
    rcases upsertGateway_worked hm hv hnumeric hserve with
      ⟨-, hreturned⟩ | ⟨validated, hp, -, htakes, hother⟩
    · rcases hreturned with herr | hnone
      · cases herr
      · rw [Configured, hnone] at hconfigured
        cases hconfigured
    obtain ⟨-, hid, hname, hversion⟩ := prepareGateway_spec hp
    obtain ⟨gid, hstored, hholds⟩ := hholds
    obtain rfl : gid = validated.id := by
      rw [(hm.upsertGateway hv hnumeric hserve).gid_eq hstored, hholds, ← hkey, hid]
      rfl
    rcases htakes.cases_some with ⟨r, hr, hsame⟩ | ⟨hkept, r, hr, hlt⟩
    · exact Option.some.inj (hr.symm.trans hstored) ▸ ⟨a.upsert, validated, hp, hsame⟩
    · -- a newer gateway under the ID is not one of this Gateway
      rw [hkept] at hstored
      obtain rfl : r = stored := Option.some.inj (hr.symm.trans hstored)
      refine absurd (hn r ⟨_, hstored, hholds⟩) (not_le.2 ?_)
      rwa [K8sGateway.version, hversion] at hlt

/-- The work on one Gateway leaves the others alone, or takes their place. -/
theorem GatewayWork.holds_other {key' : NamespacedName} {stored : K8sGateway}
    (h : GatewayWork config M unmarshal m key read m' requeue)
    (hread : ∀ g, read = some g → GatewayValid key g) (hne : key' ≠ key)
    (hstored : m'.HoldsGateway key' stored) : m.HoldsGateway key' stored := by
  obtain ⟨hm, a, v, err, hv, -, hserve, -⟩ := h
  obtain ⟨gid, hstored, hname⟩ := hstored
  cases read with
  | none => exact ⟨gid, (deleteGateway_worked hm hserve).1 gid stored hstored, hname⟩
  | some g =>
    obtain ⟨hkey, hnumeric⟩ := hread g rfl
    rcases exists_of_upsertGateway hm hv hnumeric hserve hstored with hstored | ⟨-, hown, -⟩
    · exact ⟨gid, hstored, hname⟩
    · exact absurd (hname.symm.trans (hown.trans hkey)) hne

theorem holds_of_copied {stored' : K8sGateway} (h : Copied m m')
    (hstored' : m'.HoldsGateway key stored') :
    ∃ stored : K8sGateway, m.HoldsGateway key stored ∧ stored.SameGateway stored' := by
  obtain ⟨gid, hstored', hname⟩ := hstored'
  obtain ⟨stored, hstored, hsame⟩ := h gid stored' hstored'
  exact ⟨stored, ⟨gid, hstored, (namespacedName_of_sameGateway hsame).symm.trans hname⟩, hsame⟩

/-- The work on a Gateway is such that the store follows the objects. -/
theorem follows_gateways (config : ConsulNamespaceConfig) (M : Marshaler)
    (unmarshal : String → Option V1alpha1.GatewayClassConfigSpec) :
    WorkQueue.Follows gatewayVersion GatewayValid (GatewayWork config M unmarshal) Copied
      GatewayNotAfter (GatewayAgrees config unmarshal) where
  mono h hle stored hstored := (h stored hstored).trans hle
  bounded hwork hread hn := hwork.notAfter hread hn
  agrees hwork hread := hwork.agrees hread
  work_other {m key read m' requeue key'} hwork hread hne := by
    refine ⟨fun n hn stored hstored => hn stored (hwork.holds_other hread hne hstored),
      fun o ho => ?_⟩
    cases o with
    | none => exact fun stored hstored => ho stored (hwork.holds_other hread hne hstored)
    | some g =>
      exact fun hconfigured stored hstored =>
        ho hconfigured stored (hwork.holds_other hread hne hstored)
  others {m m'} key hcopied := by
    refine ⟨fun n hn stored' hstored' => ?_, fun o ho => ?_⟩
    · obtain ⟨stored, hstored, hsame⟩ := holds_of_copied hcopied hstored'
      rw [copies_gateways.version_eq hsame]
      exact hn stored hstored
    · cases o with
      | none =>
        intro stored' hstored'
        obtain ⟨stored, hstored, -⟩ := holds_of_copied hcopied hstored'
        exact ho stored hstored
      | some g =>
        intro hconfigured stored' hstored'
        obtain ⟨stored, hstored, hsame⟩ := holds_of_copied hcopied hstored'
        obtain ⟨a, validated, hp, hsame'⟩ := ho hconfigured stored hstored
        exact ⟨a, validated, hp, copies_gateways.trans hsame' hsame⟩

/-! ### The queue of the gateways -/

/-- The work on a route comes down to an operation on a route. -/
theorem issued_routeRequest {deployments : List (GoMap String String)} {name : RouteName}
    {a : RouteServed} {r : Option Route} {op : Op}
    (h : (routeRequest deployments name a r).issued m = some op) :
    (∃ route cond c, op = .upsertRoute route cond c) ∨ ∃ id, op = .deleteRoute id := by
  cases r with
  | none =>
    unfold routeRequest at h
    cases hkind : name.kind with
    | http | tcp =>
      rw [hkind] at h
      cases h
      exact .inr ⟨_, rfl⟩
  | some r =>
    simp only [routeRequest, Request.issued] at h
    split at h
    · cases h
    · cases h
      exact .inr ⟨_, rfl⟩
    · split at h
      · cases h
      · cases h
        exact .inl ⟨_, _, _, rfl⟩

/-- An operation on a route leaves of every gateway all but its routes. -/
theorem copied_of_step (op : Op) (hm : Orderly config m)
    (hgateway : ∀ gid, op.gateway config.namespace_ gid = none)
    (hdelete : ∀ gid, ¬ op.DeletesGateway m gid) (h : Step config M m ⟨op, v⟩ m') :
    Copied m m' := by
  intro gid g' hg'
  have htakes := takes_gateway hm.toConsistent (fun _ hg => hm.numeric hg) (hdelete gid)
    (fun g hg => by cases (hgateway gid).symm.trans hg) h
  rw [hgateway gid] at htakes
  have hrel := htakes.rel_of_none
  rw [hg'] at hrel
  generalize m.store.gateways.lookup gid = before at hrel
  cases hrel with
  | some hsame => exact ⟨_, rfl, hsame⟩

theorem copied_routeRequest {deployments : List (GoMap String String)} {name : RouteName}
    {a : RouteServed} {r : Option Route} {err : Err} (hm : Orderly config m) (hv : v.Of m.store)
    (h : serve config.namespace_ M v m (routeRequest deployments name a r) = some (m', err)) :
    m'.namespaceMap = m.namespaceMap ∧ Copied m m' := by
  have hserve : ServeStep config M m (routeRequest deployments name a r, v) m' := ⟨hv, err, h⟩
  rcases hserve.cases with ⟨-, rfl⟩ | ⟨op, hissued, -, hstep⟩
  · exact ⟨rfl, fun gid g hg => ⟨g, hg, copies_gateways.refl g⟩⟩
  rcases issued_routeRequest hissued with ⟨route, cond, c, rfl⟩ | ⟨id, rfl⟩
  · obtain ⟨store, -, heq⟩ := Option.map_eq_some_iff.1 hstep.2
    exact ⟨heq ▸ rfl, copied_of_step (.upsertRoute route cond c) hm (fun _ => rfl) (fun _ h => h)
      hstep⟩
  · obtain ⟨store, -, heq⟩ := Option.map_eq_some_iff.1 hstep.2
    exact ⟨heq ▸ rfl, copied_of_step (.deleteRoute id) hm (fun _ => rfl) (fun _ h => h) hstep⟩

namespace Operator

variable {s s' s₀ : Operator} {e : Event}

/-- The configurations are read as they always are. -/
def Reads (unmarshal : String → Option V1alpha1.GatewayClassConfigSpec) : Event → Prop
  | .finishGateway _ a _ => a.upsert.unmarshal = unmarshal
  | _ => True

/-- **The controllers work off a queue of gateways**: a step of the operator is one of the queue. -/
theorem Step.gateways (hm : Orderly config s.manager) (he : Reads unmarshal e)
    (h : Step config M s e s') :
    WorkQueue.Step gatewayVersion GatewayValid (GatewayWork config M unmarshal) Copied s.gateways
      s.manager s'.gateways s'.manager := by
  have hunchanged : ∀ m, WorkQueue.Step gatewayVersion GatewayValid
      (GatewayWork config M unmarshal) Copied s.gateways m s.gateways m :=
    fun m => .others _ _ _ fun gid g hg => ⟨g, hg, copies_gateways.refl g⟩
  cases e with
  | gateway name new =>
    obtain ⟨hnew, hexec⟩ := h
    cases hexec
    exact .change _ _ name new hnew
  | deployments | owned | grant | resync =>
    cases h.2
    exact .enqueue _ _ _
  | takeGateway name =>
    rw [h.takeGateway]
    exact .take _ _ name
  | takeRoute name =>
    rw [h.takeRoute.2]
    exact hunchanged _
  | finishGateway name a v =>
    obtain ⟨read, err, hread, hv, hserve, hs'⟩ := h.finishGateway
    rw [hs']
    exact .finish _ _ _ name read _ hread ⟨hm, a, v, err, hv, he, hserve, rfl⟩
  | finishRoute name a v =>
    obtain ⟨read, err, -, hv, hserve, hs'⟩ := h.finishRoute
    rw [hs']
    -- a route that is worked on leaves copies of the gateways
    exact .others _ _ _ (copied_routeRequest hm hv hserve).2
  | route | service =>
    cases h.2
    exact hunchanged _

theorem orderly_step (hm : Orderly config s.manager)
    (hread : ∀ {name g}, s.gateways.processing name = some (some g) → GatewayValid name g)
    (h : Step config M s e s') : Orderly config s'.manager := by
  cases e with
  | finishGateway name a v =>
    obtain ⟨read, err, hprocessing, hv, hserve, -⟩ := h.finishGateway
    cases read with
    | none => exact hm.deleteGateway hv hserve
    | some g => exact hm.upsertGateway hv (hread hprocessing).2 hserve
  | finishRoute name a v =>
    obtain ⟨read, err, -, hv, hserve, -⟩ := h.finishRoute
    obtain ⟨hmap, hcopied⟩ := copied_routeRequest hm hv hserve
    exact hm.copied (consistent_step hm.toConsistent h) hmap hcopied
  | takeGateway name => exact h.takeGateway ▸ hm
  | takeRoute name => exact h.takeRoute.2 ▸ hm
  | _ =>
    cases h.2
    exact hm

/-! ### Every run -/

/-- **A stored gateway is the one in the cluster**, unless it is still to be worked on: nothing is
stored of a Gateway that is gone, and of one that has its configuration at most the current version.
Gateways that share an ID take each other's place, but are not mixed up. -/
theorem stored_gateways_current (hstart : s₀.Started)
    (h : Reachable (fun s e s' => Step config M s e s' ∧ Reads unmarshal e) s₀ s)
    (hidle : s.gateways.Idle key) :
    (s.gateways.objects key = none → ∀ stored, ¬ s.manager.HoldsGateway key stored) ∧
      ∀ g, s.gateways.objects key = some g → Configured unmarshal g →
        ∀ stored, s.manager.HoldsGateway key stored → IsCurrentGateway config g stored := by
  have hinv : Orderly config s.manager ∧ WorkQueue.InStep gatewayVersion GatewayValid
      GatewayNotAfter (GatewayAgrees config unmarshal) s.gateways s.manager := by
    refine h.invariant (I := fun s => Orderly config s.manager ∧ WorkQueue.InStep gatewayVersion
      GatewayValid GatewayNotAfter (GatewayAgrees config unmarshal) s.gateways s.manager)
      ⟨hstart.manager ▸ orderly_new, ?_⟩ fun {s e s'} hs hstep => ?_
    · have hempty : ∀ name stored, ¬ s₀.manager.HoldsGateway name stored := by
        rintro name stored ⟨gid, hstored, -⟩
        rw [hstart.manager] at hstored
        cases hstored
      exact hstart.gateways.inStep
        (fun name n stored hstored => absurd hstored (hempty name stored)) hempty
    · obtain ⟨hm, hin⟩ := hs
      obtain ⟨hstep, hreads⟩ := hstep
      exact ⟨orderly_step hm hin.valid_read hstep,
        hin.step (follows_gateways config M unmarshal) (hstep.gateways hm hreads)⟩
  have hagrees := hinv.2.agrees hidle
  constructor
  · intro hnone
    rwa [hnone] at hagrees
  · intro g hg
    rwa [hg] at hagrees

end Operator

namespace SampleParent

open SampleCluster (client)
open Store.Sample (marshaler orders)

/-- A Gateway with its configuration. -/
def parent : Gateway where
  namespace_ := "web"
  name := "gateway"
  groupKind := ⟨groupName, "Gateway"⟩
  resourceVersion := "2"
  annotations := (∅ : GoMap _ _).insert annotationConfig "config"
  listeners := [{ name := "http", port := 80, protocol := .http }]

def gatewayServed : GatewayServed := ⟨SampleGateway.answers, client, none, none⟩

/-- The manager once the gateway has been worked on. -/
def arrived : GatewayReconcileManager :=
  let config : ConsulNamespaceConfig := {}
  let request := gatewayRequest parent.namespacedName gatewayServed parent
  ((serve config.namespace_ marshaler ⟨[], [], orders⟩ new request).map Prod.fst).getD new

def start : Operator where
  gateways := ⟨fun _ => none, 0, ∅, fun _ => none⟩
  routes := ⟨fun _ => none, 0, ∅, fun _ => none⟩
  deployments := []
  manager := new

def written : Operator :=
  { start with
    gateways := start.gateways.change gatewayVersion parent.namespacedName (some parent) }

def taken : Operator :=
  { written with gateways := written.gateways.take parent.namespacedName }

def worked : Operator :=
  { taken with manager := arrived, gateways := taken.gateways.finish parent.namespacedName false }

theorem started : start.Started where
  manager := rfl
  gateways := ⟨fun _ => rfl, fun _ h => (by cases h), fun h => (by cases h)⟩
  routes := ⟨fun _ => rfl, fun _ h => (by cases h), fun h => (by cases h)⟩

theorem writes : Operator.Step {} marshaler start (.gateway parent.namespacedName (some parent))
    written := by
  refine ⟨fun g hg => ?_, rfl⟩
  cases hg
  exact ⟨⟨rfl, by decide⟩, (by decide : 0 < gatewayVersion parent)⟩

theorem works : Operator.Step {} marshaler taken
    (.finishGateway parent.namespacedName gatewayServed ⟨[], [], orders⟩) worked :=
  ⟨⟨GoMap.ranges_empty, GoMap.ranges_empty⟩, rfl⟩

theorem reaches : Reachable (fun s e s' => Operator.Step {} marshaler s e s' ∧
    Operator.Reads SampleGateway.answers.unmarshal e) start worked :=
  .tail (.tail (.single ⟨_, writes, trivial⟩)
    ⟨.takeGateway parent.namespacedName, ⟨trivial, rfl⟩, trivial⟩) ⟨_, works, rfl⟩

theorem stored_gateways_current_here :
    ∃ stored, worked.manager.store.gateways.lookup ⟨"", "gateway"⟩ = some stored ∧
      IsCurrentGateway {} parent stored := by
  have hidle : worked.gateways.Idle parent.namespacedName := ⟨by decide, rfl⟩
  have hcurrent := (Operator.stored_gateways_current started reaches hidle).2 parent rfl rfl
  exact ⟨_, rfl, hcurrent _ ⟨⟨"", "gateway"⟩, rfl, rfl⟩⟩

end SampleParent

end Controllers
