/-
Routes and the gateways that come after them (`internal/k8s/controllers`, with the manager they
call).

Whether a route is kept is decided when the route is worked on, by the gateways that are known then.
The watches lead to a route when the route changes, or a grant for its namespace, or a service it
refers to; a gateway that comes or goes leads to no route.

* `Listed`, `listed_serve` — every route on a listener is stored;
* `Concerns`, `idle_step` — what puts a route into the queue;
* `decided_when_worked_on` — a route that was given up stays off every listener, whatever becomes of
  the gateways it names, and one that was kept stays in the store.
-/
import ConsulApiGateway.GatewayController
import ConsulApiGateway.RouteControllers

namespace Reconciler.GatewayReconcileManager

open K8s

variable {config : ConsulNamespaceConfig} {mapper : String → String} {M : Marshaler} {c : Client}
  {v : Store.Visit} {m m' : GatewayReconcileManager}

/-! ### Routes on listeners -/

/-- Every route on a listener of a stored gateway is stored. -/
def Listed (s : Store) : Prop :=
  ∀ gid g, s.gateways.lookup gid = some g → ∀ l ∈ g.gatewayState.listeners,
    ∀ k ∈ l.state.routes, k ∈ s.routes

theorem isSome_of_sameRoutes {s s' : Store} (h : Store.SameRoutes s s') (k : String) :
    (s'.routes.lookup k).isSome = (s.routes.lookup k).isSome := by
  have hkey := h k
  generalize s.routes.lookup k = before at hkey ⊢
  generalize s'.routes.lookup k = after at hkey ⊢
  cases hkey with
  | none => rfl
  | some hsame => rfl

theorem mem_of_sameRoutes {s s' : Store} (h : Store.SameRoutes s s') {k : String}
    (hk : k ∈ s.routes) : k ∈ s'.routes := by
  rw [← Finmap.lookup_isSome, isSome_of_sameRoutes h, Finmap.lookup_isSome]
  exact hk

/-- A gateway that has been validated has no routes. -/
theorem prepareGateway_routes {a : UpsertAnswers} {g : Gateway} {gateway : K8sGateway}
    (h : prepareGateway mapper a g = .validated gateway) :
    ∀ l ∈ gateway.gatewayState.listeners, l.state.routes = ∅ := by
  obtain ⟨config, marshaled, state, hc, hmarshal, hstate⟩ := (prepareGateway_spec h).1
  simp only [prepareGateway, managedConfig, hc, hmarshal, hstate] at h
  cases h
  intro l hl
  obtain ⟨i, hi⟩ := List.mem_iff_getElem?.1 hl
  exact ((Validator.validate_spec hstate).2 i l hi).routes

theorem listed_upsertGateway {s s' : Store} {gateway : K8sGateway}
    {cond : Option (Option K8sGateway → Bool)} (hs : s.Keyed) (hv : v.Of s) (hlisted : Listed s)
    (hempty : ∀ l ∈ gateway.gatewayState.listeners, l.state.routes = ∅)
    (h : Store.upsertGateway c M v s gateway cond = some s') : Listed s' := by
  have hsame := Store.sameRoutes_upsertGateway hs hv h
  intro gid g hlook l' hl' k hk
  refine mem_of_sameRoutes hsame ?_
  rcases Store.upsertGateway_cases hs hv h with ⟨-, rfl⟩ | ⟨-, ls, _, rs', -, hgs, -, hls⟩
  · exact hlisted gid g hlook l' hl' k hk
  rw [hgs, GoMap.lookup_insert_ite] at hlook
  split_ifs at hlook
  · -- the gateway itself has been tried on the stored routes only
    cases hlook
    obtain ⟨l, hl, -, hroutes⟩ := hls.exists_left hl'
    rcases (hroutes k).1 hk with ⟨r, hr, -⟩ | ⟨-, hmem⟩
    · exact Finmap.mem_iff.2 ⟨r, hr⟩
    · rw [hempty l hl] at hmem
      exact absurd hmem Finmap.notMem_empty
  · exact hlisted gid g hlook l' hl' k hk

/-- One route has been tried on a gateway. -/
theorem mem_of_attached {s : Store} {id : String} {b : Prop} {g : K8sGateway}
    {ls : List GatewayListener} {gid : Core.GatewayID} (hlisted : Listed s)
    (hg : s.gateways.lookup gid = some g)
    (hls : List.Forall₂ (fun l l' => ∃ b' : Prop, (b' → b) ∧ Binder.Attached id b' l l')
      g.gatewayState.listeners ls)
    {l' : GatewayListener} (hl' : l' ∈ ls) {k : String} (hk : k ∈ l'.state.routes) :
    k = id ∧ b ∨ k ≠ id ∧ k ∈ s.routes := by
  obtain ⟨l, hl, b', hb, hatt⟩ := hls.exists_left hl'
  by_cases hid : k = id
  · subst hid
    exact .inl ⟨rfl, hb (hatt.self.1 hk)⟩
  · refine .inr ⟨hid, hlisted gid g hg l hl k ?_⟩
    rw [← Finmap.lookup_isSome, ← hatt.other k hid, Finmap.lookup_isSome]
    exact hk

theorem listed_upsertRoute {s s' : Store} {route : K8sRoute}
    {cond : Option (Option K8sRoute → Bool)} (hs : s.Keyed) (hv : v.Of s) (hlisted : Listed s)
    (h : Store.upsertRoute c M v s route cond = some s') : Listed s' := by
  rcases Store.upsertRoute_cases h with ⟨-, rfl⟩ | ⟨-, gs', r', _, hbind, -, hgs, hrs⟩
  · exact hlisted
  intro gid g' hlook l' hl' k hk
  obtain ⟨g, ls, r₀, hg, rfl, -, -, hls⟩ :=
    Store.bindGateways_of_some (Store.isBinder_bind c v.orders) hs hv hbind hgs hlook
  rw [← Finmap.lookup_isSome, hrs, GoMap.lookup_insert_ite]
  split_ifs with hid
  · rfl
  · have hcases := mem_of_attached (b := True) hlisted hg
      (hls.imp fun l l' hatt => ⟨_, fun _ => trivial, hatt⟩) hl' hk
    exact Finmap.lookup_isSome.2 (hcases.resolve_left fun heq => hid heq.1).2

theorem listed_deleteRoute {s s' : Store} {id : String} (hs : s.Keyed) (hv : v.Of s)
    (hlisted : Listed s) (h : Store.deleteRoute M v s id = some s') : Listed s' := by
  rcases Store.deleteRoute_cases h with rfl | ⟨r, gs', rs', hr, hbind, hgs, hrs⟩
  · exact hlisted
  have hid : (M.reloadRoute r).id = id := (M.sameBinding r).id_eq.trans (hs.routes hr)
  intro gid g' hlook l' hl' k hk
  obtain ⟨g, ls, r₀, hg, rfl, -, -, hls⟩ :=
    Store.bindGateways_of_some Store.isBinder_unbind hs hv hbind hgs hlook
  rw [hid] at hls
  have hcases := mem_of_attached (b := False) hlisted hg
    (hls.imp fun l l' hatt => ⟨_, fun h => h, hatt⟩) hl' hk
  obtain ⟨hne, hmem⟩ := hcases.resolve_left fun heq => heq.2
  rw [← Finmap.lookup_isSome, hrs, GoMap.lookup_erase_ite, if_neg hne, Finmap.lookup_isSome]
  exact hmem

theorem listed_deleteGateway {s s' : Store} {id : Core.GatewayID} {clearErr : Err} (hs : s.Keyed)
    (hv : v.Of s) (hlisted : Listed s) (h : Store.deleteGateway M v s id clearErr = some s') :
    Listed s' := fun gid g hlook l hl k hk =>
  mem_of_sameRoutes (Store.sameRoutes_deleteGateway hs hv h)
    (hlisted gid g (Store.deleteGateway_of_some h hlook) l hl k hk)

/-- Every request leaves on the listeners nothing but stored routes. -/
theorem listed_serve {e : Request × Store.Visit} (hm : Consistent config m)
    (hlisted : Listed m.store) (h : ServeStep config M m e m') : Listed m'.store := by
  rcases h.cases with ⟨-, rfl⟩ | ⟨op, -, -, hv, hexec⟩
  · exact hlisted
  have hs := hm.toKeyed
  cases op with
  | upsertGateway g a c =>
    obtain ⟨⟨m₁, err⟩, hup, rfl⟩ := Option.map_eq_some_iff.1 hexec
    rcases (upsertGateway_cases hup).1 with ⟨hsame, -⟩ | ⟨gateway, hprepared, hstore⟩
    · exact hsame ▸ hlisted
    · exact listed_upsertGateway hs hv hlisted (prepareGateway_routes hprepared) hstore
  | deleteGateway name clearErr statusErr =>
    obtain ⟨⟨m₁, err⟩, hdelete, rfl⟩ := Option.map_eq_some_iff.1 hexec
    exact listed_deleteGateway hs hv hlisted (deleteGateway_cases hdelete).1
  | upsertRoute route cond c =>
    obtain ⟨store, hstore, rfl⟩ := Option.map_eq_some_iff.1 hexec
    exact listed_upsertRoute hs hv hlisted hstore
  | deleteRoute id =>
    obtain ⟨store, hstore, rfl⟩ := Option.map_eq_some_iff.1 hexec
    exact listed_deleteRoute hs hv hlisted hstore

end Reconciler.GatewayReconcileManager

namespace Controllers

open K8s Reconciler GatewayReconcileManager

variable {config : ConsulNamespaceConfig} {M : Marshaler} {v : Store.Visit} {key : RouteName}
  {a : RouteServed}

/-! ### What leads to a route -/

theorem exists_of_mem_enqueue {V : Type} {requests : V → List NamespacedName} {old new : Option V}
    {request : NamespacedName} (h : request ∈ enqueue requests old new) :
    ∃ v, (old = some v ∨ new = some v) ∧ request ∈ requests v := by
  rcases List.mem_append.1 h with h | h
  · cases old with
    | none => cases h
    | some v => exact ⟨v, .inl rfl, h⟩
  · cases new with
    | none => cases h
    | some v => exact ⟨v, .inr rfl, h⟩

theorem exists_of_mem_affectedByReferenceGrant {α : Type}
    {inNamespace : String → Except String (List α)} {froms : List ReferenceGrantFrom} {object : α}
    (h : object ∈ affectedByReferenceGrant inNamespace froms) :
    ∃ f ∈ froms, ∃ objects, inNamespace f.namespace_ = .ok objects ∧ object ∈ objects := by
  induction froms with
  | nil => cases h
  | cons f rest ih =>
    rw [affectedByReferenceGrant] at h
    cases hlist : inNamespace f.namespace_ with
    | error err =>
      rw [hlist] at h
      cases h
    | ok objects =>
      rw [hlist] at h
      rcases List.mem_append.1 h with h | h
      · exact ⟨f, List.mem_cons_self, objects, hlist, h⟩
      · obtain ⟨f', hf', hobjects⟩ := ih h
        exact ⟨f', List.mem_cons_of_mem _ hf', hobjects⟩

namespace Operator

variable {s s' s₀ s₁ : Operator} {e : Event} {r : Route}

/-- The event is about the route, a grant for its namespace, or a service that it refers to, or it
repeats the route. -/
def Concerns (s : Operator) (key : RouteName) : Event → Prop
  | .route key' _ => key' = key
  | .grant old new _ _ => ∃ refGrant, (old = some refGrant ∨ new = some refGrant) ∧
      ¬ NotFor key.name.namespace_ refGrant
  | .service service _ => ∃ r, s.routes.objects key = some r ∧ ∃ refs ∈ backendRefs r,
      ∃ ref ∈ refs, refersTo r.toRouteMeta.namespace_ service ref = true
  | .resync _ routes => key ∈ routes
  | _ => False

/-- A route that is listed under the name is the one of the cluster. -/
theorem Sound.key_eq {key' : RouteName} (hs : Sound config s) (hkind : key'.kind = key.kind)
    (hr : s.routes.objects key' = some r) (hname : r.toRouteMeta.namespacedName = key.name) :
    key' = key := by
  have hname' := (hs.routes.valid_object hr).1.namespacedName_eq.trans hname
  obtain ⟨kind, name, _⟩ := key
  obtain ⟨kind', name', _⟩ := key'
  obtain rfl : kind' = kind := hkind
  obtain rfl : name' = name := hname'
  rfl

/-- Nothing but what concerns a route puts it into the queue. -/
theorem idle_step (hs : Sound config s) (hidle : s.routes.Idle key) (hnot : ¬ s.Concerns key e)
    (h : Step config M s e s') : s'.routes.Idle key := by
  cases e with
  | route key' new =>
    cases h.2
    exact hidle.change routeVersion new (Ne.symm hnot)
  | grant old new gateways routes =>
    obtain ⟨hlist, hexec⟩ := h
    cases hexec
    refine hidle.enqueue fun hmem => hnot ?_
    obtain ⟨refGrant, hgrant, hmem⟩ := exists_of_mem_enqueue (mem_requested.1 hmem)
    obtain ⟨r, hr, hname⟩ := List.mem_map.1 hmem
    obtain ⟨f, hf, listed, hlisted, hr⟩ := exists_of_mem_affectedByReferenceGrant hr
    obtain ⟨key', hkind, hns, hobject⟩ := (hlist key.kind _ listed hlisted r).1 hr
    cases hs.key_eq hkind hobject hname
    -- only routes of the namespaces that the grant names are enqueued
    exact ⟨refGrant, hgrant, fun hnotFor => hnotFor f hf hns.symm⟩
  | service service routes =>
    obtain ⟨hlist, hexec⟩ := h
    cases hexec
    refine hidle.enqueue fun hmem => hnot ?_
    obtain ⟨r, hr, hname⟩ := List.mem_map.1 (mem_requested.1 hmem)
    unfold getRoutesAffectedByService at hr
    cases hlisted : routes key.kind with
    | error err =>
      rw [hlisted] at hr
      cases hr
    | ok listed =>
      rw [hlisted] at hr
      -- the routes are filtered by what their rules refer to
      obtain ⟨hr, hrefers⟩ := List.mem_filter.1 hr
      obtain ⟨key', hkind, hobject⟩ := (hlist key.kind listed hlisted r).1 hr
      cases hs.key_eq hkind hobject hname
      obtain ⟨refs, hrefs, hany⟩ := List.any_eq_true.1 hrefers
      obtain ⟨ref, href, hrefersTo⟩ := List.any_eq_true.1 hany
      exact ⟨r, hobject, refs, hrefs, ref, href, hrefersTo⟩
  | resync gateways routes =>
    cases h.2
    exact hidle.enqueue hnot
  | takeRoute key' =>
    obtain ⟨hdirty, rfl⟩ := h.takeRoute
    exact hidle.take hdirty
  | takeGateway name =>
    rw [h.takeGateway]
    exact hidle
  | finishGateway name a v =>
    obtain ⟨read, err, -, -, -, hs'⟩ := h.finishGateway
    rw [hs']
    exact hidle
  | finishRoute key' a v =>
    obtain ⟨read, err, hread, -, -, hs'⟩ := h.finishRoute
    rw [hs']
    exact hidle.finish _ (hidle.ne_of_processing hread)
  | _ =>
    cases h.2
    exact hidle

/-- Nothing else changes whether the route is stored. -/
theorem isSome_step (hs : Sound config s) (hidle : s.routes.Idle key) (h : Step config M s e s')
    {b : Bool} (hb : (s.manager.store.routes.lookup key.id).isSome = b) :
    (s'.manager.store.routes.lookup key.id).isSome = b := by
  refine (hs.queue h).keeps_of_idle (P := fun m => (m.store.routes.lookup key.id).isSome = b) hidle
    hs.routes.valid_read ?_ ?_ hb
  · intro key' read requeue hne hread hwork hb
    obtain ⟨deployments, a, v, err, hserve, -, -⟩ := hwork
    have hsame := (serve_route hread hserve).2 key.id (RouteName.id_injective.ne hne)
    rwa [hsame]
  · intro hsame hb
    exact (isSome_of_sameRoutes hsame key.id).trans hb

/-- The controllers have settled whether the route is stored. -/
structure Decided (config : ConsulNamespaceConfig) (key : RouteName) (b : Bool) (s : Operator) :
    Prop where
  sound : Sound config s
  listed : Listed s.manager.store
  idle : s.routes.Idle key
  stored : (s.manager.store.routes.lookup key.id).isSome = b

theorem listed_step (hs : Sound config s) (hlisted : Listed s.manager.store)
    (h : Step config M s e s') : Listed s'.manager.store := by
  rcases h.manager with hsame | ⟨req, v, hserve⟩
  · exact hsame ▸ hlisted
  · exact listed_serve hs.consistent hlisted hserve

theorem listed_of_reachable (hstart : s₀.Started) (h : Reachable (Step config M) s₀ s) :
    Listed s.manager.store := by
  have hinv : Sound config s ∧ Listed s.manager.store := by
    refine h.invariant (I := fun s => Sound config s ∧ Listed s.manager.store)
      ⟨hstart.sound, fun gid g hg => ?_⟩
      fun hs hstep => ⟨hs.1.step hstep, listed_step hs.1 hs.2 hstep⟩
    rw [hstart.manager] at hg
    cases hg
  exact hinv.2

theorem Decided.step {b : Bool} (hs : Decided config key b s) (hnot : ¬ s.Concerns key e)
    (h : Step config M s e s') : Decided config key b s' where
  sound := hs.sound.step h
  listed := listed_step hs.sound hs.listed h
  idle := idle_step hs.sound hs.idle hnot h
  stored := isSome_step hs.sound hs.idle h hs.stored

theorem Decided.run {b : Bool} {run : List (Event × Operator)} (hs : Decided config key b s)
    (hrun : Run (Step config M) s run)
    (hquiet : Always (fun s e _ => ¬ s.Concerns key e) s run) :
    ∀ s' ∈ s :: run.map Prod.snd, Decided config key b s' := by
  induction hrun with
  | nil s =>
    intro s' hs'
    exact List.mem_singleton.1 hs' ▸ hs
  | cons hstep _ ih =>
    obtain ⟨hnot, hquiet⟩ := hquiet
    intro s' hs'
    rcases List.mem_cons.1 hs' with rfl | hs'
    · exact hs
    · exact ih (hs.step hnot hstep) hquiet s' hs'

/-- A route is kept or given up by what the manager knows when it is worked on. -/
theorem decided_of_finish (hstart : s₀.Started) (hreach : Reachable (Step config M) s₀ s)
    (hread : s.routes.processing key = some (some r))
    (hfinish : Step config M s (.finishRoute key a v) s₁) (hdone : key ∉ s₁.routes.dirty) :
    Decided config key (manages s.manager s.deployments r) s₁ := by
  have hsound := sound_of_reachable hstart hreach
  obtain ⟨read, err, hread', -, hserve, hs₁⟩ := hfinish.finishRoute
  obtain rfl : read = some r := Option.some.inj (hread'.symm.trans hread)
  refine ⟨hsound.step hfinish, listed_step hsound (listed_of_reachable hstart hreach) hfinish,
    ⟨hdone, ?_⟩, ?_⟩
  · rw [hs₁]
    exact s.routes.processing_finish_self key err.isSome
  have hworked := (serve_route
    (fun r' hr' => Option.some.inj hr' ▸ hsound.routes.valid_read hread) hserve).1
  cases hworked with
  | failed err hsame =>
    rw [hs₁] at hdone
    exact absurd (Finset.mem_insert_self _ _) hdone
  | dropped err hunmanaged hnone => rw [hnone, hunmanaged r rfl, Option.isSome_none]
  | kept err r' answers validated hr' hmanaged hvalidate htakes =>
    cases Option.some.inj hr'
    rw [hmanaged]
    have hnumeric := (hsound.routes.read hread).2.1.numeric
    rcases (htakes hnumeric).cases_some with ⟨r', hr', -⟩ | ⟨hkept, r', hr', -⟩
    · exact Option.isSome_of_eq_some hr'
    · exact Option.isSome_of_eq_some (hkept.trans hr')

/-- **Whether a route is kept is decided when it is worked on.**  If the manager knew none of the
gateways that the route names, the route is on no listener of any gateway, however many of them are
worked on later, until the route changes or is repeated, or a grant for its namespace changes, or a
service it refers to.  If it knew one, the route stays in the store, though all of its gateways may
go. -/
theorem decided_when_worked_on (hstart : s₀.Started) (hreach : Reachable (Step config M) s₀ s)
    (hread : s.routes.processing key = some (some r))
    (hfinish : Step config M s (.finishRoute key a v) s₁) (hdone : key ∉ s₁.routes.dirty)
    {run : List (Event × Operator)} (hrun : Run (Step config M) s₁ run)
    (hquiet : Always (fun s e _ => ¬ s.Concerns key e) s₁ run) :
    ∀ s' ∈ s₁ :: run.map Prod.snd,
      ((s'.manager.store.routes.lookup key.id).isSome ↔
        manages s.manager s.deployments r = true) ∧
      (manages s.manager s.deployments r = false →
        ∀ gid g, s'.manager.store.gateways.lookup gid = some g →
          ∀ l ∈ g.gatewayState.listeners, key.id ∉ l.state.routes) := by
  intro s' hs'
  have hdecided := (decided_of_finish hstart hreach hread hfinish hdone).run hrun hquiet s' hs'
  refine ⟨by rw [hdecided.stored], fun hunmanaged gid g hg l hl hmem => ?_⟩
  have hstored := Finmap.lookup_isSome.2 (hdecided.listed gid g hg l hl key.id hmem)
  rw [hdecided.stored, hunmanaged] at hstored
  cases hstored

end Operator

/-! ### A gateway that comes after its route -/

namespace SampleControllers

open Store.Sample (marshaler)
open SampleParent (parent gatewayServed arrived)

/-- The gateway comes when the route has been worked on. -/
def written : Operator :=
  { worked [] new with
    gateways :=
      (worked [] new).gateways.change gatewayVersion parent.namespacedName (some parent) }

def read : Operator :=
  { written with gateways := written.gateways.take parent.namespacedName }

def late : Operator :=
  { read with
    manager := arrived
    gateways := read.gateways.finish parent.namespacedName false }

def comesLate : List (Event × Operator) :=
  [(.gateway parent.namespacedName (some parent), written),
    (.takeGateway parent.namespacedName, read),
    (.finishGateway parent.namespacedName gatewayServed visit, late)]

theorem givesUp : Operator.Step {} marshaler (taken []) (.finishRoute webRoute served visit)
    (worked [] new) :=
  ⟨⟨GoMap.ranges_empty, GoMap.ranges_empty⟩, rfl⟩

theorem comesLate_run : Run (Operator.Step {} marshaler) (worked [] new) comesLate := by
  refine .cons ⟨fun g hg => ?_, rfl⟩ (.cons ⟨trivial, rfl⟩ (.cons ⟨?_, rfl⟩ (.nil _)))
  · cases hg
    exact ⟨⟨rfl, by decide⟩, (by decide : 0 < gatewayVersion parent)⟩
  · exact ⟨GoMap.ranges_empty, GoMap.ranges_empty⟩

/-- The gateway that the route names is stored in the end, with its listener, and the route is not
on it. -/
theorem decided_when_worked_on_here :
    (late.manager.store.gateways.lookup ⟨"", "gateway"⟩).any
        (fun g => g.gatewayState.listeners.length = 1) = true ∧
      ∀ gid g, late.manager.store.gateways.lookup gid = some g →
        ∀ l ∈ g.gatewayState.listeners, webRoute.id ∉ l.state.routes := by
  have hdecided := Operator.decided_when_worked_on (started []) (.single ⟨_, takes []⟩) rfl givesUp
    (idle [] new).clean comesLate_run ⟨not_false, not_false, not_false, trivial⟩ late
    (List.mem_of_getElem? (i := 3) rfl)
  exact ⟨rfl, hdecided.2 rfl⟩

end SampleControllers

end Controllers
