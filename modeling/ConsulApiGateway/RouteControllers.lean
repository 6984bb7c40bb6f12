/-
The routes that are stored, and those of the cluster (`internal/k8s/reconciler/manager.go`, as the
controllers of `internal/k8s/controllers` call it).

* `serve_route` — what becomes of the routes of the store when a route is worked on;
* `follows_routes`, `Step.routes` — the controllers work off a queue of routes;
* `stored_routes_current` — a stored route is the one in the cluster, unless it is still to be
  worked on;
* `deployed_route_stored` — a route of a gateway that has been deployed is stored, also after a
  restart.
-/
import ConsulApiGateway.Operator

namespace Controllers

open K8s Reconciler GatewayReconcileManager

/-! ### The routes of the store -/

/-- The stored route is what the validation has made of the object, apart from the statuses. -/
def IsCurrent (r : Route) (stored : K8sRoute) : Prop :=
  ∃ a validated, RouteValidator.validate a r = .ok validated ∧ validated.SameBinding stored

variable {config : ConsulNamespaceConfig} {mapper : String → String} {M : Marshaler}
  {v : Store.Visit} {m m' : GatewayReconcileManager} {deployments : List (GoMap String String)}
  {key : RouteName} {a : RouteServed} {err : Err}

theorem lookup_deleteRoute {s s' : Store} {id : String} (h : Store.deleteRoute M v s id = some s')
    (k : String) : s'.routes.lookup k = if k = id then none else s.routes.lookup k := by
  unfold Store.deleteRoute at h
  split at h
  · next hnone =>
    cases h
    split_ifs with hk
    · rw [hk]
      exact Option.map_eq_none_iff.1 hnone
    · rfl
  · simp only [Option.bind_eq_bind, Option.bind_eq_some_iff, Prod.exists] at h
    obtain ⟨gs', rs', -, heq⟩ := h
    cases heq
    exact GoMap.lookup_erase_ite _ _ _

theorem lookup_deleteRoute_serve {sync : Err} {id : String}
    (h : GatewayReconcileManager.deleteRoute M v sync m id = some (m', err)) (k : String) :
    m'.store.routes.lookup k = if k = id then none else m.store.routes.lookup k := by
  obtain ⟨store, hstore, heq⟩ := Option.map_eq_some_iff.1 h
  cases heq
  exact lookup_deleteRoute hstore k

/-- What the work on a route may do, by what was read and what the manager knows. -/
inductive Worked (m : GatewayReconcileManager) (deployments : List (GoMap String String))
    (key : RouteName) (read : Option Route) (m' : GatewayReconcileManager) : Err → Prop
  -- it returns before the store
  | failed (err : String) (hsame : m' = m) : Worked m deployments key read m' (some err)
  | dropped (err : Err) (hunmanaged : ∀ r, read = some r → manages m deployments r = false)
      (hnone : m'.store.routes.lookup key.id = none) : Worked m deployments key read m' err
  | kept (err : Err) (r : Route) (a : RouteAnswers) (validated : K8sRoute) (hread : read = some r)
      (hmanaged : manages m deployments r = true)
      (hvalidate : RouteValidator.validate a r = .ok validated)
      (htakes : (∀ r, m.store.routes.lookup key.id = some r → Numeric r.object.resourceVersion) →
        Takes K8sRoute.version K8sRoute.SameBinding (some validated)
          (m.store.routes.lookup key.id) (m'.store.routes.lookup key.id)) :
      Worked m deployments key read m' err

/-- What the manager finds out about a route. -/
theorem isManaged_cases (m : GatewayReconcileManager) (deployments : List (GoMap String String))
    (a : RouteServed) (r : Route) :
    (∃ err, isManaged (a.answers deployments r) m r.toRouteMeta = .error err) ∨
      isManaged (a.answers deployments r) m r.toRouteMeta = .ok (manages m deployments r) := by
  unfold isManaged manages RouteServed.answers
  split_ifs with hcached
  · rw [hcached, Bool.true_or]
    exact .inr rfl
  · rw [Bool.eq_false_iff.2 hcached, Bool.false_or]
    cases a.listErr with
    | none => exact .inr rfl
    | some err => exact .inl ⟨err, rfl⟩

/-- The work on a route changes nothing but this route. -/
theorem serve_route {read : Option Route}
    (hread : ∀ r, read = some r → RouteValid key r)
    (h : serve mapper M v m (routeRequest deployments key a read) = some (m', err)) :
    Worked m deployments key read m' err ∧
      ∀ id ≠ key.id, m'.store.routes.lookup id = m.store.routes.lookup id := by
  have hdropped : ∀ {sync : Err}, GatewayReconcileManager.deleteRoute M v sync m key.id =
      some (m', err) → (∀ r, read = some r → manages m deployments r = false) →
      Worked m deployments key read m' err ∧
        ∀ id ≠ key.id, m'.store.routes.lookup id = m.store.routes.lookup id := by
    intro sync hdelete hunmanaged
    refine ⟨.dropped err hunmanaged ?_, fun id hid => ?_⟩
    · rw [lookup_deleteRoute_serve hdelete, if_pos rfl]
    · rw [lookup_deleteRoute_serve hdelete, if_neg hid]
  cases read with
  | none =>
    have hnone : ∀ r, (none : Option Route) = some r → manages m deployments r = false :=
      fun r hr => by cases hr
    unfold routeRequest at h
    cases hkind : key.kind with
    | http | tcp =>
      rw [RouteName.id, hkind] at hdropped
      rw [hkind] at h
      rw [RouteName.id, hkind]
      exact hdropped h hnone
  | some r =>
    obtain ⟨hnames, hnumeric⟩ := hread r rfl
    simp only [routeRequest, serve, upsertRoute] at h
    -- whether the route is managed is asked first, and the question can fail
    rcases isManaged_cases m deployments a r with ⟨err', hmanaged⟩ | hmanaged
    · rw [hmanaged] at h
      cases h
      exact ⟨.failed err' rfl, fun _ _ => rfl⟩
    rw [hmanaged] at h
    cases hmanages : manages m deployments r with
    | false =>
      rw [hmanages, hnames.routeID_eq] at h
      exact hdropped h fun r' hr' => by rw [← Option.some.inj hr', hmanages]
    | true =>
      rw [hmanages] at h
      dsimp only at h
      cases hvalidate : RouteValidator.validate (a.answers deployments r).resolution r with
      | error err' =>
        rw [hvalidate] at h
        cases h
        exact ⟨.failed err' rfl, fun _ _ => rfl⟩
      | ok validated =>
        rw [hvalidate] at h
        obtain ⟨store, hstore, heq⟩ := Option.map_eq_some_iff.1 h
        cases heq
        obtain ⟨hid, hobject, -⟩ := RouteValidator.validate_spec hvalidate
        rw [hnames.routeID_eq] at hid
        refine ⟨.kept _ r _ validated rfl hmanages hvalidate fun hnum => ?_, fun id hne => ?_⟩
        · have htakes := takes_own_route (routeCopies_sameBinding M) (hid ▸ hnum)
            (hobject ▸ hnumeric) hstore
          rwa [hid] at htakes
        -- the table of the routes changes at the ID of the route only
        rcases Store.upsertRoute_cases hstore with ⟨-, hsame⟩ | ⟨-, gs', r', _, -, -, -, hrs⟩
        · rw [hsame]
        · rw [hrs, GoMap.lookup_insert_ite, hid, if_neg hne]

/-! ### The work on routes -/

/-- What is stored of a route is of no version after `n`. -/
def RouteNotAfter (m : GatewayReconcileManager) (key : RouteName) (n : ℤ) : Prop :=
  ∀ stored, m.store.routes.lookup key.id = some stored →
    Numeric stored.object.resourceVersion ∧ stored.version ≤ n

/-- What is stored of a route is in line with the object; what is `expected` is stored. -/
def RouteAgrees (expected : RouteName → Prop) (m : GatewayReconcileManager) (key : RouteName) :
    Option Route → Prop
  | none => m.store.routes.lookup key.id = none
  | some r => (∀ stored, m.store.routes.lookup key.id = some stored → IsCurrent r stored) ∧
      (expected key → (m.store.routes.lookup key.id).isSome)

/-- The work on a route, where the manager knows what is expected to be its own. -/
def RouteWork (config : ConsulNamespaceConfig) (M : Marshaler) (expected : RouteName → Prop)
    (m : GatewayReconcileManager) (key : RouteName) (read : Option Route)
    (m' : GatewayReconcileManager) (requeue : Bool) : Prop :=
  ∃ deployments a v err, serve config.namespace_ M v m (routeRequest deployments key a read) =
      some (m', err) ∧ requeue = err.isSome ∧
    (expected key → ∀ r, read = some r → manages m deployments r = true)

variable {expected : RouteName → Prop} {read : Option Route} {requeue : Bool} {n : ℤ}

theorem RouteNotAfter.numeric (h : RouteNotAfter m key n) (r : K8sRoute)
    (hr : m.store.routes.lookup key.id = some r) : Numeric r.object.resourceVersion := (h r hr).1

/-- A route that is taken by the store, as it is validated. -/
theorem version_validated {r : Route} {answers : RouteAnswers} {validated stored : K8sRoute}
    (hvalidate : RouteValidator.validate answers r = .ok validated)
    (hsame : validated.SameBinding stored) :
    stored.object.resourceVersion = r.toRouteMeta.resourceVersion ∧
      stored.version = routeVersion r := by
  have hobject : stored.object = r.toRouteMeta.toObjectMeta :=
    hsame.object.trans (RouteValidator.validate_spec hvalidate).2.1
  rw [K8sRoute.version, hobject]
  exact ⟨rfl, rfl⟩

theorem RouteWork.notAfter (h : RouteWork config M expected m key read m' requeue)
    (hread : ∀ r, read = some r → RouteValid key r ∧ routeVersion r ≤ n)
    (hn : RouteNotAfter m key n) : RouteNotAfter m' key n := by
  obtain ⟨deployments, a, v, err, hserve, -, -⟩ := h
  intro stored hstored
  cases (serve_route (fun r hr => (hread r hr).1) hserve).1 with
  | failed err hsame => exact hn stored (hsame ▸ hstored)
  | dropped err hunmanaged hnone => cases hnone.symm.trans hstored
  | kept err r answers validated hr hmanaged hvalidate htakes =>
    rcases (htakes hn.numeric).cases_some with ⟨r', hr', hsame⟩ | ⟨hkept, -⟩
    · obtain rfl : r' = stored := Option.some.inj (hr'.symm.trans hstored)
      obtain ⟨hversion, heq⟩ := version_validated hvalidate hsame
      rw [hversion, heq]
      exact ⟨(hread r hr).1.2, (hread r hr).2⟩
    · exact hn stored (hkept ▸ hstored)

theorem RouteWork.agrees (h : RouteWork config M expected m key read m' false)
    (hread : ∀ r, read = some r → RouteValid key r ∧ RouteNotAfter m key (routeVersion r)) :
    RouteAgrees expected m' key read := by
  obtain ⟨deployments, a, v, err, hserve, herr, hexpected⟩ := h
  cases (serve_route (fun r hr => (hread r hr).1) hserve).1 with
  | failed err hsame => cases herr
  | dropped err hunmanaged hnone =>
    cases read with
    | none => exact hnone
    | some r =>
      refine ⟨fun stored hstored => ?_, fun hkey => ?_⟩
      · cases hnone.symm.trans hstored
      · cases (hunmanaged r rfl).symm.trans (hexpected hkey r rfl)
  | kept err r answers validated hr hmanaged hvalidate htakes =>
    subst hr
    have hn := (hread r rfl).2
    rcases (htakes hn.numeric).cases_some with ⟨r', hr', hsame⟩ | ⟨-, r', hr', hlt⟩
    · refine ⟨fun stored hstored => ?_, fun _ => Option.isSome_of_eq_some hr'⟩
      exact Option.some.inj (hr'.symm.trans hstored) ▸ ⟨answers, validated, hvalidate, hsame⟩
    · -- what is stored was read before
      have heq := (version_validated hvalidate (.refl validated)).2
      exact absurd (hn r' hr').2 (not_le.2 (heq ▸ hlt))

/-- The work on a route is such that the store follows the objects. -/
theorem follows_routes {Valid : RouteName → Route → Prop}
    (hvalid : ∀ key r, Valid key r → RouteValid key r) (config : ConsulNamespaceConfig)
    (M : Marshaler) (expected : RouteName → Prop) :
    WorkQueue.Follows routeVersion Valid (RouteWork config M expected)
      (fun m m' => Store.SameRoutes m.store m'.store) RouteNotAfter (RouteAgrees expected) where
  mono h hle stored hstored := ⟨(h stored hstored).1, (h stored hstored).2.trans hle⟩
  bounded hwork hread hn :=
    hwork.notAfter (fun r hr => ⟨hvalid _ r (hread r hr).1, (hread r hr).2⟩) hn
  agrees hwork hread := hwork.agrees fun r hr => ⟨hvalid _ r (hread r hr).1, (hread r hr).2⟩
  work_other {m key read m' requeue key'} hwork hread hne := by
    obtain ⟨deployments, a, v, err, hserve, -, -⟩ := hwork
    have hsame := (serve_route (fun r hr => hvalid _ r (hread r hr)) hserve).2 key'.id
      (RouteName.id_injective.ne hne)
    unfold RouteNotAfter
    refine ⟨fun n hn => hsame ▸ hn, fun o ho => ?_⟩
    cases o with
    | none | some r =>
      unfold RouteAgrees at ho ⊢
      exact hsame ▸ ho
  others {m m'} key hsame := by
    refine ⟨fun n hn stored' hstored' => ?_, fun o ho => ?_⟩
    · obtain ⟨stored, hstored, hsame⟩ := hsame.of_some hstored'
      rw [K8sRoute.version, hsame.object]
      exact hn stored hstored
    · -- what the others write are copies, which agree with what the copied route agrees with
      have hkey := hsame key.id
      unfold RouteAgrees at ho ⊢
      generalize m.store.routes.lookup key.id = before at hkey ho
      generalize m'.store.routes.lookup key.id = after at hkey ⊢
      cases hkey with
      | none => exact ho
      | some hsame =>
        cases o with
        | none => cases ho
        | some r =>
          refine ⟨fun stored hstored => ?_, fun _ => rfl⟩
          obtain ⟨answers, validated, hvalidate, hsame'⟩ := ho.1 _ rfl
          exact Option.some.inj hstored ▸ ⟨answers, validated, hvalidate, hsame'.trans hsame⟩

/-! ### The queue of the routes -/

namespace Operator

variable {s s' s₀ : Operator} {e : Event} {Valid : RouteName → Route → Prop}

/-- The store is in step with the routes of the cluster. -/
abbrev RoutesInStep (Valid : RouteName → Route → Prop) (expected : RouteName → Prop)
    (s : Operator) : Prop :=
  WorkQueue.InStep routeVersion Valid RouteNotAfter (RouteAgrees expected) s.routes s.manager

theorem routesInStep_of_new (hmanager : s.manager = GatewayReconcileManager.new)
    (hroutes : s.routes.Fresh routeVersion Valid) : s.RoutesInStep Valid expected := by
  have hempty : ∀ key : RouteName, s.manager.store.routes.lookup key.id = none := by
    intro key
    rw [hmanager]
    exact Finmap.lookup_empty _
  refine hroutes.inStep (fun key n stored hstored => ?_) hempty
  cases (hempty key).symm.trans hstored

/-- A gateway that is worked on leaves of every route all but its statuses. -/
theorem sameRoutes_gatewayRequest {name : NamespacedName} {a : GatewayServed}
    {read : Option Gateway} (hm : Consistent config m) (hv : v.Of m.store)
    (h : serve config.namespace_ M v m (gatewayRequest name a read) = some (m', err)) :
    Store.SameRoutes m.store m'.store := by
  cases read with
  | none => exact Store.sameRoutes_deleteGateway hm.toKeyed hv (deleteGateway_cases h).1
  | some g =>
    rcases (upsertGateway_cases h).1 with ⟨hsame, -⟩ | ⟨gateway, -, hstore⟩
    · exact hsame ▸ .refl _
    · exact Store.sameRoutes_upsertGateway hm.toKeyed hv hstore

/-- **The controllers work off a queue of routes**: a step of the operator is one of the queue. -/
theorem Step.routes (hm : Consistent config s.manager)
    (hvalid : ∀ {key new}, e = .route key new → ∀ r, new = some r → Valid key r)
    (hexpected : ∀ {key r}, expected key → s.routes.processing key = some (some r) →
      manages s.manager s.deployments r = true)
    (h : Step config M s e s') :
    WorkQueue.Step routeVersion Valid (RouteWork config M expected)
      (fun m m' => Store.SameRoutes m.store m'.store) s.routes s.manager s'.routes s'.manager := by
  have hunchanged : ∀ m, WorkQueue.Step routeVersion Valid (RouteWork config M expected)
      (fun m m' => Store.SameRoutes m.store m'.store) s.routes m s.routes m :=
    fun m => .others _ _ _ (.refl _)
  cases e with
  | route key new =>
    obtain ⟨hnew, hexec⟩ := h
    cases hexec
    exact .change _ _ key new fun r hr => ⟨hvalid rfl r hr, (hnew r hr).2⟩
  | grant | service | resync =>
    cases h.2
    exact .enqueue _ _ _
  | takeRoute key =>
    rw [h.takeRoute.2]
    exact .take _ _ key
  | takeGateway name =>
    rw [h.takeGateway]
    exact hunchanged _
  | finishGateway name a v =>
    obtain ⟨read, err, -, hv, hserve, hs'⟩ := h.finishGateway
    rw [hs']
    -- a gateway that is worked on rewrites routes, but only their statuses
    exact .others _ _ _ (sameRoutes_gatewayRequest hm hv hserve)
  | finishRoute key a v =>
    obtain ⟨read, err, hread, -, hserve, hs'⟩ := h.finishRoute
    rw [hs']
    exact .finish _ _ _ key read _ hread ⟨s.deployments, a, v, err, hserve, rfl,
      fun hkey r hr => hexpected hkey (hr ▸ hread)⟩
  | _ =>
    cases h.2
    exact hunchanged _

/-- The names and versions are those that the cluster has given. -/
theorem Step.routeValid (h : Step config M s e s') {key : RouteName} {new : Option Route}
    (he : e = .route key new) (r : Route) (hr : new = some r) : RouteValid key r := by
  subst he
  exact (h.1 r hr).1

/-! ### Every run -/

/-- What holds of the controllers whatever happens. -/
structure Sound (config : ConsulNamespaceConfig) (s : Operator) : Prop where
  consistent : Consistent config s.manager
  routes : s.RoutesInStep RouteValid fun _ => False

theorem Sound.queue (hs : Sound config s) (h : Step config M s e s') :
    WorkQueue.Step routeVersion RouteValid (RouteWork config M fun _ => False)
      (fun m m' => Store.SameRoutes m.store m'.store) s.routes s.manager s'.routes s'.manager :=
  h.routes hs.consistent h.routeValid fun hfalse => hfalse.elim

theorem Sound.step (hs : Sound config s) (h : Step config M s e s') : Sound config s' :=
  ⟨consistent_step hs.consistent h,
    hs.routes.step (follows_routes (fun _ _ hvalid => hvalid) config M _) (hs.queue h)⟩

theorem Started.sound (h : s.Started) : Sound config s :=
  ⟨h.manager ▸ consistent_new, routesInStep_of_new h.manager h.routes⟩

theorem sound_of_reachable (hstart : s₀.Started) (h : Reachable (Step config M) s₀ s) :
    Sound config s := h.invariant (I := Sound config) hstart.sound Sound.step

/-- **A stored route is the one in the cluster**, unless it is still to be worked on: nothing is
stored of a route that is gone, and of any other at most its current version. -/
theorem stored_routes_current (hstart : s₀.Started) (h : Reachable (Step config M) s₀ s)
    (hidle : s.routes.Idle key) :
    (s.routes.objects key = none → s.manager.store.routes.lookup key.id = none) ∧
      ∀ r stored, s.routes.objects key = some r →
        s.manager.store.routes.lookup key.id = some stored → IsCurrent r stored := by
  have hagrees := (sound_of_reachable hstart h).routes.agrees hidle
  constructor
  · intro hnone
    rwa [hnone] at hagrees
  · intro r stored hr hstored
    rw [hr] at hagrees
    exact hagrees.1 stored hstored

/-- The route has the gateway as a parent. -/
def HasParent (gateway : NamespacedName) (r : Route) : Prop :=
  ∃ ref ∈ r.toRouteMeta.parentRefs, referencesGateway r.toRouteMeta.namespace_ ref = some gateway

/-- The gateway has a deployment, and the route has the gateway as a parent as long as it exists. -/
structure Deployed (gateway : NamespacedName) (key : RouteName) (s : Operator) : Prop where
  deployment : ∃ labels ∈ s.deployments, labels.lookup managedLabel = some "true" ∧
    gatewayByLabels labels = gateway
  parent : ∀ {r}, s.routes.objects key = some r → HasParent gateway r

theorem Deployed.manages {gateway : NamespacedName} {r : Route} (hs : s.Deployed gateway key)
    (hr : HasParent gateway r) (m : GatewayReconcileManager) :
    manages m s.deployments r = true := by
  obtain ⟨labels, hlabels, hmanaged, hgateway⟩ := hs.deployment
  obtain ⟨ref, href, hparent⟩ := hr
  rw [Controllers.manages, Bool.or_eq_true]
  refine .inr (List.any_eq_true.2 ⟨ref, href, ?_⟩)
  rw [hparent, Option.any_some, List.any_eq_true]
  exact ⟨labels, List.mem_filter.2 ⟨hlabels, by simpa using hmanaged⟩, by simpa using hgateway.symm⟩

/-- **A route of a gateway that has been deployed is stored**, in its current version, unless it is
still to be worked on.  It does not matter in which order the gateway and the route are worked on
after a start, nor that the manager has forgotten both. -/
theorem deployed_route_stored {gateway : NamespacedName} {r : Route} (hstart : s₀.Started)
    (hdeployed : s₀.Deployed gateway key)
    (h : Reachable (fun s e s' => Step config M s e s' ∧ s'.Deployed gateway key) s₀ s)
    (hidle : s.routes.Idle key) (hr : s.routes.objects key = some r) :
    ∃ stored, s.manager.store.routes.lookup key.id = some stored ∧ IsCurrent r stored := by
  -- the parent is among what holds of every version of the route
  let Valid (key' : RouteName) (r : Route) : Prop :=
    RouteValid key' r ∧ (key' = key → HasParent gateway r)
  have hfresh : s₀.routes.Fresh routeVersion Valid := by
    refine ⟨hstart.routes.free, hstart.routes.dirty, fun {key' r} hr => ?_⟩
    obtain ⟨hvalid, hle⟩ := hstart.routes.valid hr
    exact ⟨⟨hvalid, fun hkey => hdeployed.parent (hkey ▸ hr)⟩, hle⟩
  have hinv : Consistent config s.manager ∧ s.RoutesInStep Valid (· = key) ∧
      s.Deployed gateway key := by
    refine h.invariant (I := fun s => Consistent config s.manager ∧
      s.RoutesInStep Valid (· = key) ∧ s.Deployed gateway key)
      ⟨hstart.manager ▸ consistent_new, routesInStep_of_new hstart.manager hfresh, hdeployed⟩
      fun {s e s'} hs hstep => ?_
    obtain ⟨hm, hin, hdeployed⟩ := hs
    obtain ⟨hstep, hdeployed'⟩ := hstep
    refine ⟨consistent_step hm hstep, hin.step (follows_routes (fun _ _ h => h.1) config M _)
      (hstep.routes hm (fun {key' new} he r hr => ?_) fun {key' r} hkey hr => ?_), hdeployed'⟩
    · refine ⟨hstep.routeValid he r hr, fun hkey => hdeployed'.parent ?_⟩
      subst he hr hkey
      cases hstep.2
      exact s.routes.objects_change_self key' routeVersion (some r)
    · exact hdeployed.manages ((hin.valid_read hr).2 hkey) _
  have hagrees := hinv.2.1.agrees hidle
  rw [hr] at hagrees
  obtain ⟨stored, hstored⟩ := Option.isSome_iff_exists.1 (hagrees.2 rfl)
  exact ⟨stored, hstored, hagrees.1 stored hstored⟩

end Operator

/-! ### A start with a route -/

namespace SampleControllers

open SampleCluster (client)
open Store.Sample (marshaler orders)
open SampleVersions (route validated holding)

def webRoute : RouteName := ⟨.http, ⟨"web", "route"⟩, by decide⟩

/-- The labels of the deployment of the parent of the route. -/
def labels : GoMap String String :=
  GoMap.insertAll ∅ [(nameLabel, "gateway"), (namespaceLabel, "web"), (managedLabel, "true")]

def start (deployments : List (GoMap String String)) : Operator where
  gateways := ⟨fun _ => none, 0, ∅, fun _ => none⟩
  routes := ⟨fun name => if name = webRoute then some (route "1") else none, 1, {webRoute},
    fun _ => none⟩
  deployments := deployments
  manager := new

/-- The route has been taken from the queue. -/
def taken (deployments : List (GoMap String String)) : Operator :=
  { start deployments with routes := (start deployments).routes.take webRoute }

/-- The route has been worked on, and the manager is then `m`. -/
def worked (deployments : List (GoMap String String)) (m : GatewayReconcileManager) : Operator :=
  { taken deployments with
    manager := m
    routes := (taken deployments).routes.finish webRoute false }

def served : RouteServed where
  resolution := ⟨fun _ _ _ => .ok [], fun _ _ _ _ => .error (.other "")⟩
  client := client

def visit : Store.Visit := ⟨[], [], orders⟩

theorem object (deployments : List (GoMap String String)) :
    (start deployments).routes.objects webRoute = some (route "1") := by
  simp [start]

theorem started (deployments : List (GoMap String String)) : (start deployments).Started where
  manager := rfl
  gateways := ⟨fun _ => rfl, fun _ h => (by cases h), fun h => (by cases h)⟩
  routes := by
    refine ⟨fun _ => rfl, fun name h => ?_, fun {name r} h => ?_⟩
    · by_cases hname : name = webRoute
      · exact Finset.mem_singleton.2 hname
      · simp [start, hname] at h
    · by_cases hname : name = webRoute
      · subst hname
        cases Option.some.inj (object deployments ▸ h)
        exact ⟨⟨⟨rfl, rfl⟩, by decide⟩, (by decide : routeVersion (route "1") ≤ 1)⟩
      · simp [start, hname] at h

theorem takes (deployments : List (GoMap String String)) :
    Operator.Step {} marshaler (start deployments) (.takeRoute webRoute) (taken deployments) :=
  ⟨trivial, rfl⟩

theorem works : Operator.Step {} marshaler (taken [labels]) (.finishRoute webRoute served visit)
    (worked [labels] (holding "1")) :=
  ⟨⟨GoMap.ranges_empty, GoMap.ranges_empty⟩, rfl⟩

theorem idle (deployments : List (GoMap String String)) (m : GatewayReconcileManager) :
    (worked deployments m).routes.Idle webRoute :=
  ⟨Finset.notMem_erase _ _, rfl⟩

theorem stored_routes_current_here : IsCurrent (route "1") (validated "1") := by
  have hreach : Reachable (Operator.Step {} marshaler) (start [labels])
      (worked [labels] (holding "1")) :=
    .tail (.single ⟨_, takes [labels]⟩) ⟨_, works⟩
  exact (Operator.stored_routes_current (started [labels]) hreach (idle [labels] (holding "1"))).2
    (route "1") (validated "1") rfl rfl

theorem deployed (s : Operator) (hdeployments : s.deployments = [labels])
    (hobjects : s.routes.objects = (start [labels]).routes.objects) :
    s.Deployed ⟨"web", "gateway"⟩ webRoute where
  deployment := ⟨labels, hdeployments ▸ List.mem_singleton_self _, rfl, rfl⟩
  parent {r} hr := by
    rw [hobjects] at hr
    cases Option.some.inj (object [labels] ▸ hr)
    exact ⟨{ name := "gateway" }, List.mem_singleton_self _, rfl⟩

theorem deployed_route_stored_here : ∃ stored,
    (worked [labels] (holding "1")).manager.store.routes.lookup webRoute.id = some stored ∧
      IsCurrent (route "1") stored :=
  Operator.deployed_route_stored (started [labels]) (deployed _ rfl rfl)
    (.tail (.single ⟨_, takes [labels], deployed _ rfl rfl⟩)
      ⟨_, works, deployed _ rfl rfl⟩)
    (idle [labels] (holding "1")) rfl

end SampleControllers

end Controllers
