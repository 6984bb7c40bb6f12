/-
The statuses of the routes once a gateway is deleted.

Deleting a gateway unbinds the routes its listeners hold, and each of them loses
the status of the first parent that names the gateway.  A route that never bound,
or that names the gateway more than once, keeps what was recorded about it.

* `deleteGateway_statuses` — the statuses a deletion leaves;
* `statusesCleared_run_iff` — the runs along which every deletion clears all of
  them;
* `failedBind_keeps_status` — a route that failed to bind.
-/
import ConsulApiGateway.Bindings
import ConsulApiGateway.BindStatuses

open Reconciler

namespace Store

open Binder K8s

variable {c : Client} {M : Marshaler} {s s' : Store} {v : Visit} {g : K8sGateway}

/-! ### What a deletion leaves -/

/-- The gateway holds the route, and the parent is the first that names it: the
only status a deletion removes. -/
def Removed (r : K8sRoute) (g : K8sGateway) (p : ParentReference) : Prop :=
  HeldBy r g.gatewayState.listeners ∧ r.parentRefs.find? (references r g) = some p

/-- Other routes being unbound first makes no difference. -/
theorem heldBy_reload {r : K8sRoute} {k : String} {ids : List String} {ls : List GatewayListener}
    (hid : r.id = k) (hk : k ∉ ids)
    (hls : List.Forall₂ (fun l l' => l.SameListener l' ∧
      ∀ k ∉ ids, l'.state.routes.lookup k = l.state.routes.lookup k) g.gatewayState.listeners ls) :
    HeldBy (M.reloadRoute r) ls ↔ HeldBy r g.gatewayState.listeners := by
  have hmem : ∀ {l l' : GatewayListener},
      (∀ k ∉ ids, l'.state.routes.lookup k = l.state.routes.lookup k) →
        (k ∈ l'.state.routes ↔ k ∈ l.state.routes) := by
    intro l l' h
    rw [← Finmap.lookup_isSome, ← Finmap.lookup_isSome, h k hk]
  unfold HeldBy
  rw [(M.sameBinding r).id_eq, hid]
  constructor
  · rintro ⟨l', hl', h⟩
    obtain ⟨l, hl, -, hroutes⟩ := hls.exists_left hl'
    exact ⟨l, hl, (hmem hroutes).1 h⟩
  · rintro ⟨l, hl, h⟩
    obtain ⟨l', hl', -, hroutes⟩ := hls.exists_right hl
    exact ⟨l', hl', (hmem hroutes).2 h⟩

theorem deleteGateway_statuses {id : Core.GatewayID} (hs : s.Keyed) (hv : v.Of s)
    (hg : s.gateways.lookup id = some g) (h : deleteGateway M v s id none = some s') {k : String}
    {r : K8sRoute} (hr : s.routes.lookup k = some r) :
    ∃ r', s'.routes.lookup k = some r' ∧ r.SameBinding r' ∧ ∀ p,
      (Removed r g p → r'.routeState.parentStatuses.lookup p = none) ∧
      (¬ Removed r g p → r'.routeState.parentStatuses.lookup p =
        r.routeState.parentStatuses.lookup p) := by
  rcases deleteGateway_cases h with ⟨hnone, -⟩ | ⟨-, g', gs', rs', hg', hbind, -, hrs⟩
  · rw [hg] at hnone
    simp at hnone
  cases hg.symm.trans hg'
  obtain ⟨ids, g₁, g₂, r₁, m, hk, ⟨ls, rfl, hls⟩, hub, hlook⟩ :=
    (bindRoutes_routes isBinder_unbind hs hv hbind k).1 r hr
  have hsame := M.sameBinding r
  have hheld : HeldBy (M.reloadRoute r) ls ↔ HeldBy r g.gatewayState.listeners :=
    heldBy_reload (hs.routes hr) hk hls
  have hfind : (M.reloadRoute r).parentRefs.find?
      (references (M.reloadRoute r) (g.setListeners ls)) =
        r.parentRefs.find? (references r g) := find?_references_congr (g := g) hsame
  have hunbound := unbindListeners_lookup (g.setListeners ls) ls (M.reloadRoute r)
  simp only [hheld, hfind, M.parentStatuses] at hunbound
  have hr₁ : r₁ = (unbindListeners (g.setListeners ls) ls (M.reloadRoute r)).2.1 :=
    (congrArg (fun x => x.2.1) (Option.some.inj hub)).symm
  have hm : m = (unbindListeners (g.setListeners ls) ls (M.reloadRoute r)).2.2 :=
    (congrArg (fun x => x.2.2) (Option.some.inj hub)).symm
  rw [← hr₁, ← hm] at hunbound
  rw [hrs, hlook]
  refine ⟨_, rfl, ?_, fun p => ?_⟩
  · cases m with
    | true => exact hsame.trans (isBinder_unbind.rebinds hub).route
    | false => exact .refl r
  · obtain ⟨hmod, hremoved, hkept⟩ := hunbound p
    cases m with
    | true => exact ⟨hremoved, hkept⟩
    | false =>
      -- a route that no listener holds is not written back
      have hnot : ¬ Removed r g p := fun h => Bool.false_ne_true (hmod.2 h.1)
      exact ⟨fun h => absurd h hnot, fun _ => rfl⟩

/-! ### The law and the deletions that keep it -/

/-- **The statuses of a deleted gateway are cleared**: no stored route has an
entry for a parent that names it, and the entries of the other parents are what
they were. -/
def StatusesCleared (s : Store) (e : Event) (s' : Store) : Prop :=
  match e.op with
  | .deleteGateway id none => ∀ g, s.gateways.lookup id = some g →
    ∀ k r', s'.routes.lookup k = some r' → ∃ r, s.routes.lookup k = some r ∧
      r'.parentRefs = r.parentRefs ∧ ∀ p ∈ r'.parentRefs,
        (references r' g p = true → r'.routeState.parentStatuses.lookup p = none) ∧
        (references r' g p = false → r'.routeState.parentStatuses.lookup p =
          r.routeState.parentStatuses.lookup p)
  | _ => True

/-- The deletions that clear all statuses: what is recorded about a parent that
names the gateway is recorded about the first of them, on a route the gateway
holds. -/
def Clearable (s : Store) (e : Event) : Prop :=
  match e.op with
  | .deleteGateway id none => ∀ g, s.gateways.lookup id = some g →
    ∀ k r p, s.routes.lookup k = some r → p ∈ r.parentRefs → references r g p = true →
      p ∈ r.routeState.parentStatuses → Removed r g p
  | _ => True

theorem statusesCleared_delete_iff {id : Core.GatewayID} (hs : s.Keyed) (hv : v.Of s)
    (h : deleteGateway M v s id none = some s') :
    StatusesCleared s ⟨.deleteGateway id none, v⟩ s' ↔
      Clearable s ⟨.deleteGateway id none, v⟩ := by
  refine forall_congr' fun g => forall_congr' fun hg => ?_
  constructor
  · intro hcleared k r p hr hp href hmem
    obtain ⟨r', hr', hsame, hstatus⟩ := deleteGateway_statuses hs hv hg h hr
    obtain ⟨r₀, hr₀, -, hparents⟩ := hcleared k r' hr'
    cases hr.symm.trans hr₀
    by_contra hnot
    have hnone := (hparents p (hsame.parentRefs.symm ▸ hp)).1 ((references_congr hsame).trans href)
    rw [(hstatus p).2 hnot, Finmap.lookup_eq_none] at hnone
    exact hnone hmem
  · intro hclearable k r' hr'
    obtain ⟨r, hr, -⟩ := (sameRoutes_deleteGateway hs hv h).of_some hr'
    obtain ⟨r₀, hr₀, hsame, hstatus⟩ := deleteGateway_statuses hs hv hg h hr
    cases hr'.symm.trans hr₀
    refine ⟨r, hr, hsame.parentRefs, fun p hp => ⟨fun href => ?_, fun href => ?_⟩⟩
    · rw [references_congr hsame] at href
      by_cases hremoved : Removed r g p
      · exact (hstatus p).1 hremoved
      · rw [(hstatus p).2 hremoved, Finmap.lookup_eq_none]
        exact fun hmem => hremoved (hclearable k r p hr (hsame.parentRefs ▸ hp) href hmem)
    · -- the parent that loses its status names the gateway
      rw [references_congr hsame] at href
      refine (hstatus p).2 fun hremoved => ?_
      rw [List.find?_some hremoved.2] at href
      cases href

theorem statusesCleared_step_iff {e : Event} (hs : s.Keyed) (h : Step c M s e s') :
    StatusesCleared s e s' ↔ Clearable s e := by
  obtain ⟨hv, -, hexec⟩ := h
  obtain ⟨op, v⟩ := e
  cases op with
  | upsertGateway g cond => exact Iff.rfl
  | deleteGateway id clearErr =>
    cases clearErr with
    | none => exact statusesCleared_delete_iff hs hv hexec
    | some err => exact Iff.rfl
  | upsertRoute r cond => exact Iff.rfl
  | deleteRoute id => exact Iff.rfl

/-- **Every deletion of a run clears the statuses of its gateway exactly if all of
them are clearable.** -/
theorem statusesCleared_run_iff {run : List (Event × Store)}
    (hr : Run (Step c M) Store.new run) :
    Always StatusesCleared Store.new run ↔ Always (fun s e _ => Clearable s e) Store.new run :=
  hr.always_iff (I := Bound c) bound_new (fun hb h => statusesCleared_step_iff hb.toKeyed h)
    fun hb h _ => bound_step hb h

/-! ### A route that failed to bind -/

namespace SampleDeletion

open Sample

/-- The gateway of the sample with a TCP listener. -/
def tcpOnly : K8sGateway where
  gateway := gateway.gateway
  gatewayState :=
    { listeners := [⟨{ name := "tcp", port := 80, protocol := .tcp },
        { name := "tcp", protocol := .tcp }⟩] }

def tcpRef : ParentReference := { name := "gateway", sectionName := some "tcp" }

/-- An HTTP route that asks for the TCP listener. -/
def misfit : K8sRoute := { route with parentRefs := [tcpRef] }

def refusedRoute : K8sRoute := misfit.bindFailed .listed
  (.bindError .routeKind "route kind not allowed for listener") tcpRef

def tcpArrives : Event := ⟨.upsertGateway tcpOnly none, ⟨[], [], orders⟩⟩

def misfitArrives : Event := ⟨.upsertRoute misfit none, ⟨[(gateway.id, tcpOnly)], [], orders⟩⟩

def tcpLeaves : Event :=
  ⟨.deleteGateway gateway.id none,
    ⟨[(gateway.id, tcpOnly)], [(route.id, refusedRoute)], orders⟩⟩

def withTcp : Store := ⟨(∅ : GoMap _ _).insert gateway.id tcpOnly, ∅⟩

def withMisfit : Store :=
  ⟨(∅ : GoMap _ _).insert gateway.id tcpOnly, (∅ : GoMap _ _).insert route.id refusedRoute⟩

/-- The route is stored as it was. -/
def withoutTcp : Store := ⟨withMisfit.gateways.erase gateway.id, withMisfit.routes⟩

theorem tcpArrives_step : Step client marshaler Store.new tcpArrives withTcp :=
  ⟨⟨GoMap.ranges_empty, GoMap.ranges_empty⟩, by simp [Op.Arrives, tcpArrives, tcpOnly], rfl⟩

theorem misfitArrives_step : Step client marshaler withTcp misfitArrives withMisfit :=
  ⟨⟨GoMap.ranges_singleton _ _, GoMap.ranges_empty⟩, trivial, rfl⟩

theorem tcpLeaves_step : Step client marshaler withMisfit tcpLeaves withoutTcp :=
  ⟨⟨GoMap.ranges_singleton _ _, GoMap.ranges_singleton _ _⟩, trivial, rfl⟩

/-- The gateway of the sample goes while it serves its route. -/
def servingLeaves : Event :=
  ⟨.deleteGateway gateway.id none,
    ⟨[(gateway.id, servingGateway)], [(route.id, route.bound parentRef)], orders⟩⟩

def withoutServing : Store :=
  ⟨withRoute.gateways.erase gateway.id,
    withRoute.routes.insert route.id ((route.bound parentRef).remove parentRef)⟩

theorem servingLeaves_step : Step client marshaler withRoute servingLeaves withoutServing :=
  ⟨⟨GoMap.ranges_singleton _ _, GoMap.ranges_singleton _ _⟩, trivial, rfl⟩

end SampleDeletion

open SampleDeletion

/-- **A route that failed to bind keeps its status**: no listener holds it, so that
the deletion does not touch it. -/
theorem failedBind_keeps_status :
    Run (Step SampleCluster.client Sample.marshaler) Store.new
        [(tcpArrives, withTcp), (misfitArrives, withMisfit), (tcpLeaves, withoutTcp)] ∧
    ¬ Always StatusesCleared Store.new
        [(tcpArrives, withTcp), (misfitArrives, withMisfit), (tcpLeaves, withoutTcp)] := by
  refine ⟨.cons tcpArrives_step (.cons misfitArrives_step (.cons tcpLeaves_step (.nil _))), ?_⟩
  rintro ⟨-, -, hcleared, -⟩
  obtain ⟨r, -, -, hparents⟩ := hcleared tcpOnly rfl Sample.route.id refusedRoute rfl
  have hnone := (hparents tcpRef List.mem_cons_self).1 rfl
  cases hnone

/-- The route of the sample is bound by its only parent, which loses its status. -/
theorem statusesCleared_serving :
    Always StatusesCleared Store.new
      [(Sample.gatewayArrives, Sample.withGateway), (Sample.routeArrives, Sample.withRoute),
        (servingLeaves, withoutServing)] := by
  refine (statusesCleared_run_iff (c := SampleCluster.client) (M := Sample.marshaler)
    (.cons Sample.gatewayArrives_step (.cons Sample.routeArrives_step
      (.cons servingLeaves_step (.nil _))))).2 ⟨trivial, trivial, ?_, trivial⟩
  intro g hg k r p hr hp href _
  obtain ⟨-, rfl⟩ | ⟨-, hg⟩ := GoMap.lookup_insert_eq_some.1 hg
  · obtain ⟨-, rfl⟩ | ⟨-, hr⟩ := GoMap.lookup_insert_eq_some.1 hr
    · obtain rfl : p = Sample.parentRef := List.mem_singleton.1 hp
      exact ⟨⟨_, List.mem_cons_self, Finmap.mem_insert.2 (.inl rfl)⟩, rfl⟩
    · simp at hr
  · simp at hg

end Store
