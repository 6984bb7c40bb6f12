/-
What binding records about the parents of a route.

Trying a route on the listeners of a gateway leaves, for each of its parents,
the last decision that `canBind` recorded about it, whichever gateway the parent
names.

* `binds_iff`, `recorded_ne_none_iff` — what a listener does about a parent, in
  terms of the listener, the parent and the route;
* `bindRefs_accepted`, `bind_accepted` — what one gateway leaves in the statuses;
* `bind_unbound`, `bind_of_unbound` — when a gateway is reported as modified.
-/
import ConsulApiGateway.Store

open Reconciler

namespace Reconciler

open K8s

namespace K8sRoute

/-- The parent is recorded as having accepted the route. -/
def Accepted (r : K8sRoute) (p : ParentReference) : Prop :=
  ∃ status, r.routeState.parentStatuses.lookup p = some status ∧ status.accepted.isTrue

variable (r : K8sRoute) (ref p : ParentReference)

theorem accepted_bound : (r.bound ref).Accepted p ↔ p = ref ∨ r.Accepted p := by
  simp only [Accepted, bound, setParentStatuses, RouteStatuses.bound, GoMap.lookup_insert_ite]
  by_cases h : p = ref
  · simp [h, RouteAcceptedStatus.isTrue]
  · simp [h]

theorem accepted_bindFailed (order : RangeOrder) (err : BindFailure) :
    (r.bindFailed order err ref).Accepted p ↔ p ≠ ref ∧ r.Accepted p := by
  simp only [Accepted, bindFailed, setParentStatuses, RouteStatuses.bindFailed,
    GoMap.lookup_insert_ite]
  by_cases h : p = ref
  · simp [h, RouteAcceptedStatus.not_isTrue_setFailure]
  · simp [h]

theorem accepted_remove_of_ne (h : p ≠ ref) : (r.remove ref).Accepted p ↔ r.Accepted p := by
  simp only [Accepted, remove, setParentStatuses, RouteStatuses.remove, Finmap.lookup_erase_ne h]

theorem accepted_reload (M : Marshaler) : (M.reloadRoute r).Accepted p ↔ r.Accepted p := by
  simp only [Accepted, M.parentStatuses]

end K8sRoute

namespace Binder

open K8sRoute GatewayListener

variable {c : Client} {orders : Orders} {g : K8sGateway} {r r' : K8sRoute} {l : GatewayListener}
  {ls ls' : List GatewayListener} {ref p : ParentReference} {refs : List ParentReference} {i : ℕ}
  {modified : Bool}

/-! ### What one listener decides -/

/-- The reference names no listener, or this one. -/
def Concerns (ref : ParentReference) (l : GatewayListener) : Prop :=
  ref.sectionName = none ∨ ref.sectionName = some l.spec.name

/-- The listener takes the route, whatever reference it comes with. -/
structure Admits (c : Client) (g : K8sGateway) (r : K8sRoute) (l : GatewayListener) : Prop where
  ready : l.state.status.ready.hasError = false
  kind : routeKindIsAllowedForListener (supportedKindsFor l.spec.protocol) r = true
  namespace_ : routeAllowedForListenerNamespaces c g.gateway.namespace_ l.spec.allowedRoutes r =
    some (.ok true)
  hostname : r.matchesHostname l.spec.hostname = true
  resolved : ResolutionErrors.empty r.routeState.resolutionErrors = true

theorem routeMatchesListener_iff :
    (routeMatchesListener l.spec.name ref.sectionName).1 = true ↔ Concerns ref l := by
  unfold Concerns
  cases ref.sectionName with
  | none => simp [routeMatchesListener]
  | some section_ => simp [routeMatchesListener, eq_comm]

theorem refusal_ne_bound (must : Bool) (kind : BindErrorType) (inner : String) :
    refusal must kind inner ≠ .bound := by
  cases must <;> simp [refusal]

/-- A reference binds the route to the listeners that it concerns and that admit
the route: which gateway it names is not asked. -/
theorem binds_iff : Binds c g r ref l ↔ Concerns ref l ∧ Admits c g r l := by
  rw [← routeMatchesListener_iff]
  constructor
  · intro h
    unfold Binds verdict at h
    -- every branch of `canBind` but the last one refuses the route
    split at h
    · cases h
    rename_i hready
    dsimp only at h
    split at h
    · cases h
    rename_i hmatch
    split at h
    · cases refusal_ne_bound _ _ _ (Option.some.inj h)
    rename_i hkind
    split at h
    · cases h
    · cases h
    · cases refusal_ne_bound _ _ _ (Option.some.inj h)
    rename_i hnamespace
    split at h
    · cases refusal_ne_bound _ _ _ (Option.some.inj h)
    rename_i hhost
    split at h
    · cases h
    rename_i hempty
    exact ⟨by simpa using hmatch, by simpa using hready, by simpa using hkind, hnamespace,
      by simpa using hhost, by simpa using hempty⟩
  · rintro ⟨hmatch, ha⟩
    simp [Binds, verdict, ha.ready, hmatch, ha.kind, ha.namespace_, ha.hostname, ha.resolved]

/-- Something is recorded about the parent.  A listener with errors of its own records
nothing.  About a parent that names it a listener records whatever it decides; about one
that names no listener it keeps to itself that the kind, the namespace or the hostname
does not suit, and records a check of the namespace that failed, or that the route has
come as far as its resolution errors. -/
def Judges (c : Client) (g : K8sGateway) (r : K8sRoute) (p : ParentReference)
    (l : GatewayListener) : Prop :=
  l.state.status.ready.hasError = false ∧
    (p.sectionName = some l.spec.name ∨
      p.sectionName = none ∧
        routeKindIsAllowedForListener (supportedKindsFor l.spec.protocol) r = true ∧
        ((∃ err, routeAllowedForListenerNamespaces c g.gateway.namespace_ l.spec.allowedRoutes r =
            some (.error err)) ∨
          routeAllowedForListenerNamespaces c g.gateway.namespace_ l.spec.allowedRoutes r =
              some (.ok true) ∧
            r.matchesHostname l.spec.hostname = true))

/-- What a verdict records about the parent, if anything. -/
def Verdict.recorded : Verdict → Option Bool
  | .bound => some true
  | .failed _ => some false
  | .refused => none

theorem recorded_refusal_ne_none {must : Bool} {kind : BindErrorType} {inner : String} :
    (refusal must kind inner).recorded ≠ none ↔ must = true := by
  cases must <;> simp [refusal, Verdict.recorded]

theorem Judges.concerns (h : Judges c g r p l) : Concerns p l := by
  rcases h.2 with hname | ⟨hnone, -⟩
  · exact .inr hname
  · exact .inl hnone

/-- A parent that a listener takes is judged by it. -/
theorem Admits.judges (ha : Admits c g r l) (hc : Concerns p l) : Judges c g r p l := by
  refine ⟨ha.ready, ?_⟩
  rcases hc with hnone | hname
  · exact .inr ⟨hnone, ha.kind, .inr ⟨ha.namespace_, ha.hostname⟩⟩
  · exact .inl hname

/-- Whatever a listener decides about a parent that names it is recorded. -/
theorem recorded_of_named {v : Verdict} (h : verdict c g.gateway.namespace_ l p r = some v)
    (hready : l.state.status.ready.hasError = false) (hname : p.sectionName = some l.spec.name) :
    v.recorded ≠ none := by
  have hmust : ∀ kind inner, (refusal true kind inner).recorded ≠ none := fun kind inner =>
    recorded_refusal_ne_none.mpr rfl
  simp only [verdict, hready, hname, routeMatchesListener, decide_true, Bool.not_true,
    Bool.false_eq_true, if_false] at h
  split at h
  · cases h; exact hmust _ _
  split at h
  · cases h
  · cases h; simp [Verdict.recorded]
  · cases h; exact hmust _ _
  split at h
  · cases h; exact hmust _ _
  split at h <;> cases h <;> simp [Verdict.recorded]

/-- Of a parent that names no listener the refusals are not recorded. -/
theorem recorded_of_unnamed {v : Verdict} (h : verdict c g.gateway.namespace_ l p r = some v)
    (hready : l.state.status.ready.hasError = false) (hnone : p.sectionName = none) :
    v.recorded ≠ none ↔ Judges c g r p l := by
  have hrefusal : ∀ kind inner, ¬ (refusal false kind inner).recorded ≠ none := fun kind inner =>
    by simp [refusal, Verdict.recorded]
  simp only [verdict, hready, hnone, routeMatchesListener, Bool.not_true, Bool.false_eq_true,
    if_false] at h
  simp only [Judges, hready, hnone, reduceCtorEq, false_or, true_and]
  split at h
  · next hkind =>
    cases h
    exact iff_of_false (hrefusal _ _) fun hj => by simp [hj.1] at hkind
  next hkind =>
  rw [and_iff_right (by simpa using hkind)]
  split at h
  · cases h
  · next herr => cases h; simp [herr, Verdict.recorded]
  · next hfalse => cases h; simp [hfalse, refusal, Verdict.recorded]
  next htrue =>
  split at h
  · next hhost =>
    cases h
    exact iff_of_false (hrefusal _ _) (by simpa [htrue] using hhost)
  next hhost =>
  refine iff_of_true ?_ (.inr ⟨htrue, by simpa using hhost⟩)
  split at h <;> cases h <;> simp [Verdict.recorded]

/-- A listener judges the parents about which `canBind` records something. -/
theorem recorded_ne_none_iff {v : Verdict} (h : verdict c g.gateway.namespace_ l p r = some v) :
    v.recorded ≠ none ↔ Judges c g r p l := by
  by_cases hready : l.state.status.ready.hasError = true
  · simp only [verdict, hready, if_true] at h
    cases h
    simp [Verdict.recorded, Judges, hready]
  rw [Bool.not_eq_true] at hready
  by_cases hnone : p.sectionName = none
  · exact recorded_of_unnamed h hready hnone
  by_cases hname : p.sectionName = some l.spec.name
  · exact iff_of_true (recorded_of_named h hready hname) ⟨hready, .inl hname⟩
  -- a parent that names another listener is none of this one's
  have hconcerns : ¬ Concerns p l := by simp [Concerns, hnone, hname]
  have hmatch : (routeMatchesListener l.spec.name p.sectionName).1 = false := by
    rw [← Bool.not_eq_true, routeMatchesListener_iff]
    exact hconcerns
  simp only [verdict, hready, hmatch, Bool.not_false, Bool.false_eq_true, if_false, if_true] at h
  cases h
  exact iff_of_false (by simp [Verdict.recorded]) fun hj => hconcerns hj.concerns

/-- What a listener records about a parent is whether it admits the route. -/
theorem recorded_eq_some_iff {v : Verdict} {b : Bool}
    (h : verdict c g.gateway.namespace_ l p r = some v) (hv : v.recorded = some b) :
    Judges c g r p l ∧ (b = true ↔ Admits c g r l) := by
  have hj : Judges c g r p l := (recorded_ne_none_iff h).mp (by simp [hv])
  have hbinds : Binds c g r p l ↔ Admits c g r l := by
    rw [binds_iff, and_iff_right hj.concerns]
  refine ⟨hj, ?_⟩
  rw [← hbinds, Binds, h]
  cases v <;> cases hv <;> simp

theorem admits_congr {l' : GatewayListener} (hr : r.SameBinding r') (hl : l.SameListener l') :
    Admits c (g.setListeners ls) r' l' ↔ Admits c g r l := by
  -- a reference that names no listener is bound to those that admit the route
  have hany : ∀ {g : K8sGateway} {r : K8sRoute} {l : GatewayListener},
      Binds c g r { name := "" } l ↔ Admits c g r l := binds_iff.trans (and_iff_right (.inl rfl))
  rw [← hany, ← hany]
  exact binds_congr hr hl

/-! ### What one gateway records -/

/-- What the listeners record about the parent: the last of them that records
anything decides. -/
def recorded (c : Client) (namespace_ : String) (r : K8sRoute) (p : ParentReference) :
    List GatewayListener → Option Bool
  | [] => none
  | l :: ls => (recorded c namespace_ r p ls).or
      ((verdict c namespace_ l p r).bind Verdict.recorded)

/-- The record after `o` was added to one that said `a`. -/
def after (o : Option Bool) (a : Prop) : Prop := o.elim a (· = true)

theorem after_or (o o' : Option Bool) (a : Prop) : after (o.or o') a ↔ after o (after o' a) := by
  cases o <;> simp [after]

theorem after_after (o : Option Bool) (a : Prop) : after o (after o a) ↔ after o a := by
  cases o <;> simp [after]

theorem accepted_record (order : RangeOrder) (v : Verdict) :
    (v.record order ref r).Accepted p ↔
      if p = ref then after v.recorded (r.Accepted p) else r.Accepted p := by
  cases v with
  | bound => by_cases h : p = ref <;> simp [Verdict.record, Verdict.recorded, after,
      accepted_bound, h]
  | failed err => by_cases h : p = ref <;> simp [Verdict.record, Verdict.recorded, after,
      accepted_bindFailed, h]
  | refused => simp [Verdict.record, Verdict.recorded, after]

theorem recorded_congr (namespace_ : String) (hr : r.SameBinding r')
    (hls : List.Forall₂ SameListener ls ls') :
    recorded c namespace_ r' p ls' = recorded c namespace_ r p ls := by
  induction hls with
  | nil => rfl
  | cons hl _ ih => simp only [recorded, ih, verdict_congr hr hl]

/-- A parent that binds the route somewhere is recorded. -/
theorem recorded_of_binds (hl : l ∈ ls) (hb : Binds c g r p l) :
    ∃ b, recorded c g.gateway.namespace_ r p ls = some b := by
  induction ls with
  | nil => cases hl
  | cons l' ls ih =>
    rw [recorded]
    rcases List.mem_cons.mp hl with rfl | hl
    · rw [show verdict c g.gateway.namespace_ l p r = some .bound from hb]
      cases recorded c g.gateway.namespace_ r p ls with
      | none => exact ⟨true, rfl⟩
      | some b => exact ⟨b, rfl⟩
    · obtain ⟨b, hb⟩ := ih hl
      exact ⟨b, by rw [hb]; rfl⟩

theorem recorded_eq_some {b : Bool} (h : recorded c g.gateway.namespace_ r p ls = some b) :
    ∃ l ∈ ls, Judges c g r p l ∧ (b = true ↔ Admits c g r l) := by
  induction ls with
  | nil => cases h
  | cons l ls ih =>
    rcases Option.or_eq_some_iff.mp h with h | ⟨-, h⟩
    · obtain ⟨l', hl', hj⟩ := ih h
      exact ⟨l', List.mem_cons_of_mem _ hl', hj⟩
    · obtain ⟨v, hv, hrec⟩ := Option.bind_eq_some_iff.mp h
      exact ⟨l, List.mem_cons_self, recorded_eq_some_iff hv hrec⟩

theorem recorded_eq_none_iff (hv : ∀ l ∈ ls, (verdict c g.gateway.namespace_ l p r).isSome) :
    recorded c g.gateway.namespace_ r p ls = none ↔ ∀ l ∈ ls, ¬ Judges c g r p l := by
  induction ls with
  | nil => simp [recorded]
  | cons l ls ih =>
    rw [List.forall_mem_cons] at hv ⊢
    obtain ⟨v, hverdict⟩ := Option.isSome_iff_exists.mp hv.1
    rw [recorded, hverdict, Option.bind_some, Option.or_eq_none_iff, ih hv.2,
      ← recorded_ne_none_iff hverdict, not_not, and_comm]

theorem bindListeners_accepted
    (h : bindListeners c orders g ref i ls r = some (ls', r', modified)) :
    r'.Accepted p ↔ if p = ref then after (recorded c g.gateway.namespace_ r ref ls) (r.Accepted p)
      else r.Accepted p := by
  induction ls generalizing i r ls' r' modified with
  | nil => cases h; simp [recorded, after]
  | cons l ls ih =>
    obtain ⟨l₁, r₁, m₁, ls₂, m₂, hl, hls, -, -⟩ := bindListeners_cons h
    obtain ⟨v, hv, rfl, -, -⟩ := bindListener_spec hl
    have hsame := (sameButStatuses_record (orders ref i) ref r v).sameBinding
    -- the rest records what it would have recorded on the route as it was
    have hrec := recorded_congr (c := c) (p := ref) g.gateway.namespace_ hsame
      (sameListeners ls)
    rw [ih hls, hrec, accepted_record, recorded, hv]
    split
    · rw [Option.bind_some, after_or]
    · rfl

/-- **What binding records**: the parents of the route, all of them, get what the
listeners of this gateway record about them. -/
theorem bindRefs_accepted (h : bindRefs c orders g refs ls r = some (ls', r', modified)) :
    r'.Accepted p ↔ if p ∈ refs then after (recorded c g.gateway.namespace_ r p ls) (r.Accepted p)
      else r.Accepted p := by
  induction refs generalizing ls r ls' r' modified with
  | nil => cases h; simp
  | cons ref refs ih =>
    obtain ⟨ls₁, r₁, m₁, m₂, hls, hrefs, -⟩ := bindRefs_cons h
    obtain ⟨hstatuses, hall, -⟩ := bindListeners_spec hls
    have hsame := hstatuses.sameBinding
    have hrec := recorded_congr (c := c) (p := p) g.gateway.namespace_ hsame
      (hall.imp fun _ _ hatt => hatt.same)
    rw [ih hrefs, hrec, bindListeners_accepted hls]
    by_cases hp : p = ref
    · subst hp
      -- the same parent may be listed again further on
      by_cases hmem : p ∈ refs <;> simp [hmem, after_after]
    · simp [hp]

/-! ### Unmodified gateways -/

theorem bindListeners_unbound (h : bindListeners c orders g ref i ls r = some (ls', r', false)) :
    ∀ l ∈ ls, ¬ Binds c g r ref l := by
  induction ls generalizing i r ls' r' with
  | nil => simp
  | cons l ls ih =>
    obtain ⟨l₁, r₁, m₁, ls₂, m₂, hl, hls, -, hm⟩ := bindListeners_cons h
    obtain ⟨rfl, rfl⟩ := Bool.or_eq_false_iff.1 hm.symm
    obtain ⟨v, hv, rfl, -, -⟩ := bindListener_spec hl
    have hsame := (sameButStatuses_record (orders ref i) ref r v).sameBinding
    rw [List.forall_mem_cons]
    refine ⟨fun hb => ?_, fun l' hl' hb => ih hls l' hl' ((binds_congr hsame (.refl l')).mpr hb)⟩
    -- a listener that takes the route is modified
    rw [bindListener_of_verdict (v := .bound) hb] at hl
    simpa [Verdict.isBound] using congrArg (fun o => o.2.2) (Option.some.inj hl)

theorem bindRefs_unbound (h : bindRefs c orders g refs ls r = some (ls', r', false)) :
    ∀ ref ∈ refs, ∀ l ∈ ls, ¬ Binds c g r ref l := by
  induction refs generalizing ls r ls' r' with
  | nil => simp
  | cons ref refs ih =>
    obtain ⟨ls₁, r₁, m₁, m₂, hls, hrefs, hm⟩ := bindRefs_cons h
    obtain ⟨rfl, rfl⟩ := Bool.or_eq_false_iff.1 hm.symm
    obtain ⟨hstatuses, hall, -⟩ := bindListeners_spec hls
    have hsame := hstatuses.sameBinding
    rw [List.forall_mem_cons]
    refine ⟨bindListeners_unbound hls, fun ref' href' l hl hb => ?_⟩
    obtain ⟨l', hl', hatt⟩ := hall.exists_right hl
    exact ih hrefs ref' href' l' hl' ((binds_congr hsame hatt.same).mpr hb)

theorem bindListeners_of_unbound
    (h : bindListeners c orders g ref i ls r = some (ls', r', modified))
    (hb : ∀ l ∈ ls, ¬ Binds c g r ref l) (hid : ∀ l ∈ ls, r.id ∉ l.state.routes) :
    modified = false := by
  induction ls generalizing i r ls' r' modified with
  | nil => cases h; rfl
  | cons l ls ih =>
    obtain ⟨l₁, r₁, m₁, ls₂, m₂, hl, hls, -, rfl⟩ := bindListeners_cons h
    rw [List.forall_mem_cons] at hb hid
    obtain ⟨v, hv, rfl, -, -⟩ := bindListener_spec hl
    have hsame := (sameButStatuses_record (orders ref i) ref r v).sameBinding
    have hm₂ : m₂ = false := ih hls
      (fun l' hl' => by rw [binds_congr hsame (.refl l')]; exact hb.2 l' hl')
      (fun l' hl' => by rw [hsame.id_eq]; exact hid.2 l' hl')
    have hm₁ : m₁ = false := by
      have hnot : v.isBound = false := by
        rw [← Bool.not_eq_true, Verdict.isBound_iff]
        rintro rfl
        exact hb.1 hv
      rw [bindListener_of_verdict hv, hnot] at hl
      simpa [hid.1] using congrArg (fun o => o.2.2) (Option.some.inj hl)
    rw [hm₁, hm₂]
    rfl

/-- A gateway without the route is modified only if some parent binds it. -/
theorem bindRefs_of_unbound (h : bindRefs c orders g refs ls r = some (ls', r', modified))
    (hb : ∀ ref ∈ refs, ∀ l ∈ ls, ¬ Binds c g r ref l) (hid : ∀ l ∈ ls, r.id ∉ l.state.routes) :
    modified = false := by
  induction refs generalizing ls r ls' r' modified with
  | nil => cases h; rfl
  | cons ref refs ih =>
    obtain ⟨ls₁, r₁, m₁, m₂, hls, hrefs, rfl⟩ := bindRefs_cons h
    rw [List.forall_mem_cons] at hb
    have hm₁ : m₁ = false := bindListeners_of_unbound hls hb.1 hid
    obtain ⟨hstatuses, -, hmod⟩ := bindListeners_spec hls
    have hsame := hstatuses.sameBinding
    have hls₁ : ls₁ = ls := hmod hm₁
    subst hls₁
    have hm₂ : m₂ = false := ih hrefs
      (fun ref' href' l hl => by rw [binds_congr hsame (.refl l)]; exact hb.2 ref' href' l hl)
      (fun l hl => by rw [hsame.id_eq]; exact hid l hl)
    rw [hm₁, hm₂]
    rfl

/-! ### `Bind` and `Unbind` as a whole -/

/-- Removing the status of a gateway concerns the parents that name it. -/
theorem removeGatewayStatus_accepted (hp : references r g p = false) :
    (removeGatewayStatus r g).Accepted p ↔ r.Accepted p := by
  unfold removeGatewayStatus
  split
  · next ref href =>
    refine accepted_remove_of_ne r ref p ?_
    rintro rfl
    have := List.find?_some href
    simp [hp] at this
  · rfl

theorem unbindListeners_accepted (hp : references r g p = false) :
    (unbindListeners g ls r).2.1.Accepted p ↔ r.Accepted p := by
  induction ls generalizing r with
  | nil => rfl
  | cons l ls ih =>
    by_cases hl : r.id ∈ l.state.routes
    · have hp' : references (removeGatewayStatus r g) g p = false :=
        (references_congr (sameButStatuses_removeGatewayStatus r g).sameBinding).trans hp
      rw [unbindListeners, if_pos hl]
      exact (ih hp').trans (removeGatewayStatus_accepted hp)
    · rw [unbindListeners, if_neg hl]
      exact ih hp

theorem unbind_accepted (hp : references r g p = false) :
    (unbind g r).2.1.Accepted p ↔ r.Accepted p := unbindListeners_accepted hp

/-- The status entry of a parent once the statuses of a gateway are removed. -/
theorem removeGatewayStatus_lookup :
    (removeGatewayStatus r g).routeState.parentStatuses.lookup p =
      if r.parentRefs.find? (references r g) = some p then none
      else r.routeState.parentStatuses.lookup p := by
  unfold removeGatewayStatus
  cases hfind : r.parentRefs.find? (references r g) with
  | none => simp
  | some ref =>
    simp only [remove, setParentStatuses, RouteStatuses.remove, GoMap.lookup_erase_ite,
      Option.some.injEq, eq_comm]

/-- The first parent that names a gateway. -/
theorem find?_references_congr (hr : r.SameBinding r') :
    r'.parentRefs.find? (references r' g) = r.parentRefs.find? (references r g) := by
  have hfun : references r' g = references r g := funext fun ref => references_congr hr
  rw [hr.parentRefs, hfun]

/-- A listener of the list holds the route. -/
def HeldBy (r : K8sRoute) (ls : List GatewayListener) : Prop := ∃ l ∈ ls, r.id ∈ l.state.routes

theorem unbindListeners_lookup (g : K8sGateway) (ls : List GatewayListener) (r : K8sRoute)
    (p : ParentReference) :
    ((unbindListeners g ls r).2.2 = true ↔ HeldBy r ls) ∧
      ((HeldBy r ls ∧ r.parentRefs.find? (references r g) = some p) →
        (unbindListeners g ls r).2.1.routeState.parentStatuses.lookup p = none) ∧
      (¬ (HeldBy r ls ∧ r.parentRefs.find? (references r g) = some p) →
        (unbindListeners g ls r).2.1.routeState.parentStatuses.lookup p =
          r.routeState.parentStatuses.lookup p) := by
  induction ls generalizing r with
  | nil => simp [unbindListeners, HeldBy]
  | cons l ls ih =>
    by_cases hl : r.id ∈ l.state.routes
    · have hheld : HeldBy r (l :: ls) := ⟨l, List.mem_cons_self, hl⟩
      have hsame := (sameButStatuses_removeGatewayStatus r g).sameBinding
      obtain ⟨-, hnone, hkept⟩ := ih (removeGatewayStatus r g)
      rw [find?_references_congr hsame, removeGatewayStatus_lookup] at hkept
      rw [find?_references_congr hsame] at hnone
      rw [unbindListeners, if_pos hl]
      refine ⟨iff_of_true rfl hheld, ?_, fun hp => ?_⟩
      · rintro ⟨-, hp⟩
        by_cases hrest : HeldBy (removeGatewayStatus r g) ls
        · exact hnone ⟨hrest, hp⟩
        · exact (hkept fun h => hrest h.1).trans (if_pos hp)
      · have hne : r.parentRefs.find? (references r g) ≠ some p := fun h => hp ⟨hheld, h⟩
        exact (hkept fun h => hne h.2).trans (if_neg hne)
    · have hheld : HeldBy r (l :: ls) ↔ HeldBy r ls := by simp [HeldBy, hl]
      rw [unbindListeners, if_neg hl, hheld]
      exact ih r

/-- What binding to a gateway records about a parent of the route. -/
def recordedBy (c : Client) (r : K8sRoute) (p : ParentReference) (g : K8sGateway) : Option Bool :=
  if routeReferencesGateway r g then
    recorded c g.gateway.namespace_ r p g.gatewayState.listeners
  else none

theorem recordedBy_congr (hr : r.SameBinding r') :
    recordedBy c r' p g = recordedBy c r p g := by
  simp only [recordedBy, routeReferencesGateway_congr hr,
    recorded_congr _ hr (sameListeners _)]

theorem recordedBy_eq_some {b : Bool} (h : recordedBy c r p g = some b) :
    routeReferencesGateway r g = true ∧
      ∃ l ∈ g.gatewayState.listeners, Judges c g r p l ∧ (b = true ↔ Admits c g r l) := by
  rw [recordedBy, Option.ite_none_right_eq_some] at h
  exact ⟨h.1, recorded_eq_some h.2⟩

theorem recordedBy_eq_none_iff (hb : Bindable c g r) (hp : p ∈ r.parentRefs) :
    recordedBy c r p g = none ↔ (routeReferencesGateway r g = true →
      ∀ l ∈ g.gatewayState.listeners, ¬ Judges c g r p l) := by
  rw [recordedBy, ite_eq_right_iff]
  exact imp_congr_right fun hr => recorded_eq_none_iff (hb hr p hp)

theorem bind_accepted {g' : K8sGateway} (h : bind c orders g r = some (g', r', modified))
    (hp : p ∈ r.parentRefs) :
    r'.Accepted p ↔ after (recordedBy c r p g) (r.Accepted p) := by
  unfold recordedBy
  cases hr : routeReferencesGateway r g with
  | false =>
    have hr' : r' = (unbind g r).2.1 := by rw [bind_of_not_references hr h]
    have hpg : references r g p = false := by
      simpa using List.any_eq_false.mp hr p hp
    rw [hr', unbind_accepted hpg]
    rfl
  | true =>
    obtain ⟨ls, hrefs, -⟩ := bind_of_references hr h
    rw [bindRefs_accepted hrefs, if_pos hp]
    rfl

theorem bind_unbound {g' : K8sGateway} (h : bind c orders g r = some (g', r', false))
    (hr : routeReferencesGateway r g = true) :
    ∀ ref ∈ r.parentRefs, ∀ l ∈ g.gatewayState.listeners, ¬ Binds c g r ref l := by
  obtain ⟨ls, hrefs, -⟩ := bind_of_references hr h
  exact bindRefs_unbound hrefs

theorem bind_of_unbound {g' : K8sGateway} (h : bind c orders g r = some (g', r', modified))
    (hr : routeReferencesGateway r g = true)
    (hb : ∀ ref ∈ r.parentRefs, ∀ l ∈ g.gatewayState.listeners, ¬ Binds c g r ref l)
    (hid : ∀ l ∈ g.gatewayState.listeners, r.id ∉ l.state.routes) : modified = false := by
  obtain ⟨ls, hrefs, -⟩ := bind_of_references hr h
  exact bindRefs_of_unbound hrefs hb hid

/-- The parent binds the route to some listener of the gateway. -/
def BindsSome (c : Client) (g : K8sGateway) (r : K8sRoute) (p : ParentReference) : Prop :=
  ∃ l ∈ g.gatewayState.listeners, Binds c g r p l

theorem bindsSome_congr (hr : r.SameBinding r')
    (hls : List.Forall₂ SameListener g.gatewayState.listeners ls) :
    BindsSome c (g.setListeners ls) r' p ↔ BindsSome c g r p := by
  constructor
  · rintro ⟨l', hl', hb⟩
    obtain ⟨l, hl, hsame⟩ := hls.exists_left hl'
    exact ⟨l, hl, (binds_congr (g := g) hr hsame).mp hb⟩
  · rintro ⟨l, hl, hb⟩
    obtain ⟨l', hl', hsame⟩ := hls.exists_right hl
    exact ⟨l', hl', (binds_congr (g := g) hr hsame).mpr hb⟩

theorem recordedBy_setListeners (hls : List.Forall₂ SameListener g.gatewayState.listeners ls) :
    recordedBy c r p (g.setListeners ls) = recordedBy c r p g := by
  have href : routeReferencesGateway r (g.setListeners ls) = routeReferencesGateway r g := rfl
  simp only [recordedBy, href]
  split
  · exact recorded_congr _ (SameBinding.refl r) hls
  · rfl

end Binder

end Reconciler
