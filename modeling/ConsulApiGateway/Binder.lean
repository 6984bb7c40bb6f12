/-
Binding routes to the listeners of a gateway
(`internal/k8s/reconciler/binder.go`).

`bind` tries every parent reference of a route on every listener of a gateway,
in two nested loops that overwrite each other's results: what a listener holds
in the end is what the last reference decided.

Main results:
* `bind_isSome_iff` — when binding goes through at all;
* `bind_rebinds` and `unbind_rebinds` — the routes of each listener afterwards,
  whatever they were before; a gateway that is not reported as modified has not
  changed.
-/
import ConsulApiGateway.Objects
import ConsulApiGateway.Pointwise

namespace Reconciler

open K8s

structure NamespaceObject where
  name : String
  labels : GoMap String String

/-- What binding asks of the cluster, and of the library that parses label
selectors.  A namespace that does not exist is `ok none`. -/
structure Client where
  getNamespace : String → Except String (Option NamespaceObject)
  labelSelectorAsSelector : Option LabelSelector → Except String (GoMap String String → Bool)

def K8sGateway.namespacedName (g : K8sGateway) : NamespacedName :=
  g.gateway.toObjectMeta.namespacedName

/-! ### The decision about one listener -/

namespace Binder

def namespaceNameLabel : String := "kubernetes.io/metadata.name"

/-- The labels of a namespace, with its name among them also where the cluster
does not add it. -/
def toNamespaceSet (name : String) (labels : GoMap String String) : GoMap String String :=
  if (labels.lookup namespaceNameLabel).getD "" = name then labels
  else labels.insert namespaceNameLabel name

/-- Whether a reference concerns a listener, and whether it names it: in that
case a failure to bind is an error. -/
def routeMatchesListener (listenerName : String) : Option String → Bool × Bool
  | none => (true, false)
  | some routeSectionName => (listenerName = routeSectionName, true)

/-- A protocol without supported kinds excludes no route. -/
def routeKindIsAllowedForListener (kinds : List RouteGroupKind) (route : K8sRoute) : Bool :=
  kinds = [] ∨ kinds.any fun kind =>
    kind.kind = route.object.groupKind.kind ∧
      (match kind.group with
        | some group => if group ≠ "" then group else groupName
        | none => groupName) = route.object.groupKind.group

/-- The namespaces a listener takes routes from. -/
def allowedFrom (namespaceSelector : Option RouteNamespaces) : FromNamespaces :=
  match namespaceSelector.bind RouteNamespaces.from_ with
  | none => .same
  | some (.other "") => .same
  | some from_ => from_

/-- The outer `none` is the nil dereference of a namespace that does not exist. -/
def routeAllowedForListenerNamespaces (c : Client) (gatewayNS : String)
    (allowedRoutes : Option AllowedRoutes) (route : K8sRoute) : Option (Except String Bool) :=
  let namespaceSelector := allowedRoutes.bind AllowedRoutes.namespaces
  match allowedFrom namespaceSelector with
  | .all => some (.ok true)
  | .same => some (.ok (gatewayNS = route.object.namespace_))
  | .selector =>
    match c.labelSelectorAsSelector (namespaceSelector.bind RouteNamespaces.selector) with
    | .error err => some (.error ("error parsing label selector: " ++ err))
    | .ok matches_ =>
      match c.getNamespace route.object.namespace_ with
      | .error err => some (.error ("error retrieving namespace for route: " ++ err))
      -- the client answers nil for a namespace it does not find
      | .ok none => none
      | .ok (some namespace_) =>
        some (.ok (matches_ (toNamespaceSet namespace_.name namespace_.labels)))
  | .other _ => some (.ok false)

/-- What `canBind` decides about a reference and a listener. -/
inductive Verdict
  | bound
  -- the route is not bound, and the status of the parent says why
  | failed (err : BindFailure)
  -- the route is not bound, and nothing is recorded
  | refused

/-- A refusal is an error of the parent only if it must bind. -/
def refusal (must : Bool) (kind : BindErrorType) (inner : String) : Verdict :=
  if must then .failed (.bindError kind inner) else .refused

/-- The decision of `canBind`; it does not read the statuses of the route. -/
def verdict (c : Client) (namespace_ : String) (l : GatewayListener) (ref : ParentReference)
    (route : K8sRoute) : Option Verdict :=
  if l.state.status.ready.hasError then some .refused
  else
    -- must is only true if there's a ref with a specific listener name
    let (allowed, must) := routeMatchesListener l.spec.name ref.sectionName
    if !allowed then some .refused
    else if !routeKindIsAllowedForListener (supportedKindsFor l.spec.protocol) route then
      some (refusal must .routeKind "route kind not allowed for listener")
    else
      match routeAllowedForListenerNamespaces c namespace_ l.spec.allowedRoutes route with
      | none => none
      | some (.error err) => some (.failed (.other ("error checking listener namespaces: " ++ err)))
      | some (.ok false) => some (refusal must .listenerNamespacePolicy
          "route not allowed because of listener namespace policy")
      | some (.ok true) =>
        if !route.matchesHostname l.spec.hostname then
          some (refusal must .hostnameMismatch "route does not match listener hostname")
        else if !ResolutionErrors.empty route.routeState.resolutionErrors then
          some (.failed (.bindError .routeInvalid "route is in an invalid state and cannot bind"))
        else some .bound

/-- What a verdict leaves in the status of the parent. -/
def Verdict.record (order : RangeOrder) (ref : ParentReference) (route : K8sRoute) :
    Verdict → K8sRoute
  | .bound => route.bound ref
  | .failed err => route.bindFailed order err ref
  | .refused => route

def Verdict.isBound : Verdict → Bool
  | .bound => true
  | .failed _ => false
  | .refused => false

def canBind (c : Client) (order : RangeOrder) (namespace_ : String) (l : GatewayListener)
    (ref : ParentReference) (route : K8sRoute) : Option (Bool × K8sRoute) :=
  (verdict c namespace_ l ref route).map fun v => (v.isBound, v.record order ref route)

/-! ### The two loops -/

/-- The parents of a route that name a gateway. -/
def references (route : K8sRoute) (gateway : K8sGateway) (ref : ParentReference) : Bool :=
  referencesGateway route.object.namespace_ ref = some gateway.namespacedName

def routeReferencesGateway (route : K8sRoute) (gateway : K8sGateway) : Bool :=
  route.parentRefs.any (references route gateway)

/-- Only the first parent that names the gateway loses its status. -/
def removeGatewayStatus (route : K8sRoute) (gateway : K8sGateway) : K8sRoute :=
  match route.parentRefs.find? (references route gateway) with
  | some ref => route.remove ref
  | none => route

end Binder

def GatewayListener.setRoutes (l : GatewayListener) (routes : GoMap String Core.ResolvedRoute) :
    GatewayListener :=
  { l with state := { l.state with routes := routes } }

def K8sGateway.setListeners (g : K8sGateway) (listeners : List GatewayListener) : K8sGateway :=
  { g with gatewayState := { g.gatewayState with listeners := listeners } }

namespace Binder

/-- The orders in which the maps of a route are visited, by reference and
listener. -/
abbrev Orders := ParentReference → ℕ → RangeOrder

/-- One turn of the inner loop: the listener, the route, and whether the
listener was modified. -/
def bindListener (c : Client) (order : RangeOrder) (g : K8sGateway) (ref : ParentReference)
    (l : GatewayListener) (r : K8sRoute) : Option (GatewayListener × K8sRoute × Bool) :=
  (canBind c order g.gateway.namespace_ l ref r).map fun (can, r') =>
    if can then
      (l.setRoutes (l.state.routes.insert r.id
        (r'.resolve order g.gatewayState.consulNamespace g.gateway l.spec)), r', true)
    else
      -- deleting a route that is not there changes nothing
      (l.setRoutes (l.state.routes.erase r.id), r', r.id ∈ l.state.routes)

/-- The loop over the listeners, from index `i` on. -/
def bindListeners (c : Client) (orders : Orders) (g : K8sGateway) (ref : ParentReference) :
    ℕ → List GatewayListener → K8sRoute → Option (List GatewayListener × K8sRoute × Bool)
  | _, [], r => some ([], r, false)
  | i, l :: ls, r => do
    let (l', r₁, modified₁) ← bindListener c (orders ref i) g ref l r
    let (ls', r₂, modified₂) ← bindListeners c orders g ref (i + 1) ls r₁
    return (l' :: ls', r₂, modified₁ || modified₂)

/-- The loop over the parent references. -/
def bindRefs (c : Client) (orders : Orders) (g : K8sGateway) :
    List ParentReference → List GatewayListener → K8sRoute →
      Option (List GatewayListener × K8sRoute × Bool)
  | [], ls, r => some (ls, r, false)
  | ref :: refs, ls, r => do
    let (ls₁, r₁, modified₁) ← bindListeners c orders g ref 0 ls r
    let (ls₂, r₂, modified₂) ← bindRefs c orders g refs ls₁ r₁
    return (ls₂, r₂, modified₁ || modified₂)

/-- The loop of `Unbind`. -/
def unbindListeners (g : K8sGateway) :
    List GatewayListener → K8sRoute → List GatewayListener × K8sRoute × Bool
  | [], r => ([], r, false)
  | l :: ls, r =>
    if r.id ∈ l.state.routes then
      let (ls', r', _) := unbindListeners g ls (removeGatewayStatus r g)
      (l.setRoutes (l.state.routes.erase r.id) :: ls', r', true)
    else
      let (ls', r', removed) := unbindListeners g ls r
      (l :: ls', r', removed)

def unbind (g : K8sGateway) (r : K8sRoute) : K8sGateway × K8sRoute × Bool :=
  let (ls, r', removed) := unbindListeners g g.gatewayState.listeners r
  (g.setListeners ls, r', removed)

/-- `none` is a nil dereference on the way. -/
def bind (c : Client) (orders : Orders) (g : K8sGateway) (r : K8sRoute) :
    Option (K8sGateway × K8sRoute × Bool) :=
  if !routeReferencesGateway r g then some (unbind g r)
  else
    (bindRefs c orders g r.parentRefs g.gatewayState.listeners r).map fun (ls, r', modified) =>
      (g.setListeners ls, r', modified)

end Binder

/-! ### What binding reads of a route and of a listener -/

/-- What the Kubernetes object of a route specifies besides its parents. -/
inductive RouteSpec
  | http (hostnames : List String) (rules : List HTTPRouteRule)
  | tcp (rules : List TCPRouteRule)

/-- The references are no part of the object: the validation has resolved them. -/
def RouteBody.spec : RouteBody → RouteSpec
  | .http hostnames _ rules => .http hostnames rules
  | .tcp _ rules => .tcp rules

namespace K8sRoute

/-- The two routes agree on what binding reads. -/
structure SameBinding (r r' : K8sRoute) : Prop where
  object : r'.object = r.object
  parentRefs : r'.parentRefs = r.parentRefs
  hostnames : r'.body.hostnames? = r.body.hostnames?
  empty : ResolutionErrors.empty r'.routeState.resolutionErrors =
    ResolutionErrors.empty r.routeState.resolutionErrors

variable {r r' r'' : K8sRoute}

theorem SameBinding.refl (r : K8sRoute) : r.SameBinding r := ⟨rfl, rfl, rfl, rfl⟩

theorem SameBinding.symm (h : r.SameBinding r') : r'.SameBinding r :=
  ⟨h.object.symm, h.parentRefs.symm, h.hostnames.symm, h.empty.symm⟩

theorem SameBinding.trans (h : r.SameBinding r') (h' : r'.SameBinding r'') : r.SameBinding r'' :=
  ⟨h'.object.trans h.object, h'.parentRefs.trans h.parentRefs, h'.hostnames.trans h.hostnames,
    h'.empty.trans h.empty⟩

/-- The routes differ at most in the statuses of their parents. -/
def SameButStatuses (r r' : K8sRoute) : Prop := ∃ statuses, r' = r.setParentStatuses statuses

theorem SameButStatuses.refl (r : K8sRoute) : r.SameButStatuses r :=
  ⟨r.routeState.parentStatuses, rfl⟩

theorem SameButStatuses.trans (h : r.SameButStatuses r') (h' : r'.SameButStatuses r'') :
    r.SameButStatuses r'' := by
  obtain ⟨statuses, rfl⟩ := h
  obtain ⟨statuses', rfl⟩ := h'
  exact ⟨statuses', rfl⟩

/-- Binding does not read the statuses. -/
theorem SameButStatuses.sameBinding (h : r.SameButStatuses r') : r.SameBinding r' := by
  obtain ⟨statuses, rfl⟩ := h
  exact ⟨rfl, rfl, rfl, rfl⟩

/-- The routes have the same Kubernetes object, its rules included, and bind alike. -/
structure SameObject (r r' : K8sRoute) : Prop extends r.SameBinding r' where
  spec : r'.body.spec = r.body.spec

theorem SameBinding.id_eq (h : r.SameBinding r') : r'.id = r.id := by
  simp only [K8sRoute.id, h.object, h.hostnames]

end K8sRoute

namespace GatewayListener

/-- The listeners differ at most in their routes. -/
def SameListener (l l' : GatewayListener) : Prop := ∃ routes, l' = l.setRoutes routes

variable {l l' l'' : GatewayListener}

theorem SameListener.refl (l : GatewayListener) : l.SameListener l := ⟨l.state.routes, rfl⟩

theorem SameListener.trans (h : l.SameListener l') (h' : l'.SameListener l'') :
    l.SameListener l'' := by
  obtain ⟨routes, rfl⟩ := h
  obtain ⟨routes', rfl⟩ := h'
  exact ⟨routes', rfl⟩

theorem SameListener.spec_eq (h : l.SameListener l') : l'.spec = l.spec := by
  obtain ⟨routes, rfl⟩ := h
  rfl

theorem sameListeners (ls : List GatewayListener) : List.Forall₂ SameListener ls ls :=
  List.forall₂_same.mpr fun l _ => .refl l

theorem sameListener_setRoutes (l : GatewayListener) (routes : GoMap String Core.ResolvedRoute) :
    l.SameListener (l.setRoutes routes) := ⟨routes, rfl⟩

end GatewayListener

/-- The gateways differ at most in the routes on their listeners. -/
def K8sGateway.SameGateway (g g' : K8sGateway) : Prop :=
  ∃ ls, g' = g.setListeners ls ∧
    List.Forall₂ GatewayListener.SameListener g.gatewayState.listeners ls

namespace Binder

open K8sRoute GatewayListener

variable {c : Client} {orders : Orders} {order : RangeOrder} {g : K8sGateway} {r r' : K8sRoute}
  {l l' : GatewayListener} {ls ls' : List GatewayListener} {ref : ParentReference}
  {refs : List ParentReference} {i : ℕ} {modified : Bool}

theorem verdict_congr {namespace_ : String} (hr : r.SameBinding r') (hl : l.SameListener l') :
    verdict c namespace_ l' ref r' = verdict c namespace_ l ref r := by
  obtain ⟨routes, rfl⟩ := hl
  have hkind : ∀ kinds, routeKindIsAllowedForListener kinds r' =
      routeKindIsAllowedForListener kinds r := by
    intro kinds
    simp only [routeKindIsAllowedForListener, hr.object]
  have hnamespace : ∀ allowedRoutes,
      routeAllowedForListenerNamespaces c namespace_ allowedRoutes r' =
        routeAllowedForListenerNamespaces c namespace_ allowedRoutes r := by
    intro allowedRoutes
    simp only [routeAllowedForListenerNamespaces, hr.object]
  have hhostname : ∀ hostname, r'.matchesHostname hostname = r.matchesHostname hostname := by
    intro hostname
    simp only [matchesHostname, hr.hostnames]
  simp only [verdict, GatewayListener.setRoutes, hkind, hnamespace, hhostname, hr.empty]

theorem references_congr (hr : r.SameBinding r') : references r' g ref = references r g ref := by
  simp only [references, hr.object]

theorem routeReferencesGateway_congr (hr : r.SameBinding r') :
    routeReferencesGateway r' g = routeReferencesGateway r g := by
  simp only [routeReferencesGateway, hr.parentRefs]
  exact congrArg _ (funext fun ref => references_congr hr)

theorem sameButStatuses_record (order : RangeOrder) (ref : ParentReference) (r : K8sRoute)
    (v : Verdict) : r.SameButStatuses (v.record order ref r) := by
  cases v with
  | bound | failed => exact ⟨_, rfl⟩
  | refused => exact .refl r

theorem sameButStatuses_removeGatewayStatus (r : K8sRoute) (g : K8sGateway) :
    r.SameButStatuses (removeGatewayStatus r g) := by
  unfold removeGatewayStatus
  split
  · exact ⟨_, rfl⟩
  · exact .refl r

/-! ### The routes of the listeners -/

/-- What binding route `id` does to a listener: only the entry of `id` may
change, and it is there in the end exactly if `b` holds. -/
structure Attached (id : String) (b : Prop) (l l' : GatewayListener) : Prop where
  same : l.SameListener l'
  other : ∀ k, k ≠ id → l'.state.routes.lookup k = l.state.routes.lookup k
  self : id ∈ l'.state.routes ↔ b

/-- The last of two attempts decides. -/
theorem Attached.trans {id : String} {b b' : Prop} {l'' : GatewayListener}
    (h : Attached id b l l') (h' : Attached id b' l' l'') : Attached id b' l l'' where
  same := h.same.trans h'.same
  other k hk := (h'.other k hk).trans (h.other k hk)
  self := h'.self

theorem attached_insert (id : String) (route : Core.ResolvedRoute) (l : GatewayListener) :
    Attached id True l (l.setRoutes (l.state.routes.insert id route)) where
  same := sameListener_setRoutes _ _
  other k hk := Finmap.lookup_insert_of_ne _ hk
  self := by simp [GatewayListener.setRoutes]

theorem attached_erase (id : String) (l : GatewayListener) :
    Attached id False l (l.setRoutes (l.state.routes.erase id)) where
  same := sameListener_setRoutes _ _
  other k hk := Finmap.lookup_erase_ne hk
  self := by simp [GatewayListener.setRoutes]

theorem setRoutes_erase_of_notMem {id : String} (h : id ∉ l.state.routes) :
    l.setRoutes (l.state.routes.erase id) = l := by
  rw [GoMap.erase_of_notMem h]
  rfl

theorem bindListener_of_verdict {v : Verdict}
    (hv : verdict c g.gateway.namespace_ l ref r = some v) :
    bindListener c order g ref l r = some (if v.isBound then
        (l.setRoutes (l.state.routes.insert r.id ((v.record order ref r).resolve order
          g.gatewayState.consulNamespace g.gateway l.spec)), v.record order ref r, true)
      else (l.setRoutes (l.state.routes.erase r.id), v.record order ref r,
        decide (r.id ∈ l.state.routes))) := by
  simp only [bindListener, canBind, hv, Option.map_some]

theorem bindListener_of_none (hv : verdict c g.gateway.namespace_ l ref r = none) :
    bindListener c order g ref l r = none := by
  simp only [bindListener, canBind, hv, Option.map_none]

/-- One turn, taken apart. -/
theorem bindListener_spec (h : bindListener c order g ref l r = some (l', r', modified)) :
    ∃ v, verdict c g.gateway.namespace_ l ref r = some v ∧ r' = v.record order ref r ∧
      Attached r.id (v.isBound = true) l l' ∧ (modified = false → l' = l) := by
  cases hv : verdict c g.gateway.namespace_ l ref r with
  | none => rw [bindListener_of_none hv] at h; cases h
  | some v =>
    rw [bindListener_of_verdict hv] at h
    refine ⟨v, rfl, ?_⟩
    cases hb : v.isBound with
    | true =>
      rw [hb] at h
      cases h
      exact ⟨rfl, by simpa using attached_insert r.id _ l, fun hm => by cases hm⟩
    | false =>
      rw [hb] at h
      cases h
      refine ⟨rfl, by simpa using attached_erase r.id l, fun hm => ?_⟩
      exact setRoutes_erase_of_notMem (of_decide_eq_false hm)

/-- The listener takes the route on account of the reference. -/
def Binds (c : Client) (g : K8sGateway) (r : K8sRoute) (ref : ParentReference)
    (l : GatewayListener) : Prop :=
  verdict c g.gateway.namespace_ l ref r = some .bound

theorem binds_congr (hr : r.SameBinding r') (hl : l.SameListener l') :
    Binds c g r' ref l' ↔ Binds c g r ref l := by
  simp only [Binds, verdict_congr hr hl]

theorem Verdict.isBound_iff {v : Verdict} : v.isBound = true ↔ v = .bound := by
  cases v <;> simp [Verdict.isBound]

theorem bindListeners_cons
    (h : bindListeners c orders g ref i (l :: ls) r = some (ls', r', modified)) :
    ∃ l₁ r₁ m₁ ls₂ m₂, bindListener c (orders ref i) g ref l r = some (l₁, r₁, m₁) ∧
      bindListeners c orders g ref (i + 1) ls r₁ = some (ls₂, r', m₂) ∧ ls' = l₁ :: ls₂ ∧
      modified = (m₁ || m₂) := by
  simp only [bindListeners, Option.bind_eq_bind, Option.bind_eq_some_iff, Prod.exists] at h
  obtain ⟨l₁, r₁, m₁, hl, ls₂, r₂, m₂, hls, heq⟩ := h
  cases heq
  exact ⟨l₁, r₁, m₁, ls₂, m₂, hl, hls, rfl, rfl⟩

theorem bindRefs_cons (h : bindRefs c orders g (ref :: refs) ls r = some (ls', r', modified)) :
    ∃ ls₁ r₁ m₁ m₂, bindListeners c orders g ref 0 ls r = some (ls₁, r₁, m₁) ∧
      bindRefs c orders g refs ls₁ r₁ = some (ls', r', m₂) ∧ modified = (m₁ || m₂) := by
  simp only [bindRefs, Option.bind_eq_bind, Option.bind_eq_some_iff, Prod.exists] at h
  obtain ⟨ls₁, r₁, m₁, hls, ls₂, r₂, m₂, hrefs, heq⟩ := h
  cases heq
  exact ⟨ls₁, r₁, m₁, m₂, hls, hrefs, rfl⟩

/-- The loop over the listeners. -/
theorem bindListeners_spec (h : bindListeners c orders g ref i ls r = some (ls', r', modified)) :
    r.SameButStatuses r' ∧
      List.Forall₂ (fun l l' => Attached r.id (Binds c g r ref l) l l') ls ls' ∧
      (modified = false → ls' = ls) := by
  -- every turn may record something on the route, so the rest runs on another one
  induction ls generalizing i r ls' r' modified with
  | nil =>
    cases h
    exact ⟨.refl r, .nil, fun _ => rfl⟩
  | cons l ls ih =>
    obtain ⟨l₁, r₁, m₁, ls₂, m₂, hl, hls, rfl, rfl⟩ := bindListeners_cons h
    obtain ⟨v, hv, rfl, hatt, hmod⟩ := bindListener_spec hl
    have hrecord := sameButStatuses_record (orders ref i) ref r v
    have hsame := hrecord.sameBinding
    obtain ⟨hrest, hall, hmod'⟩ := ih hls
    refine ⟨hrecord.trans hrest, .cons ?_ ?_, ?_⟩
    · simpa only [Binds, hv, Option.some.injEq, Verdict.isBound_iff] using hatt
    · -- the rest of the loop ran on the route with the new status
      simpa only [hsame.id_eq, binds_congr hsame (SameListener.refl _)] using hall
    · intro hm
      rw [Bool.or_eq_false_iff] at hm
      rw [hmod hm.1, hmod' hm.2]

/-- The loop over the references: the last one decides. -/
theorem bindRefs_spec (h : bindRefs c orders g refs ls r = some (ls', r', modified)) :
    r.SameButStatuses r' ∧ (modified = false → ls' = ls) ∧ ∀ last, refs.getLast? = some last →
      List.Forall₂ (fun l l' => Attached r.id (Binds c g r last l) l l') ls ls' := by
  induction refs generalizing ls r ls' r' modified with
  | nil =>
    cases h
    exact ⟨.refl r, fun _ => rfl, fun last hlast => by cases hlast⟩
  | cons ref refs ih =>
    obtain ⟨ls₁, r₁, m₁, m₂, hls, hrefs, rfl⟩ := bindRefs_cons h
    obtain ⟨hstatuses, hall, hmod⟩ := bindListeners_spec hls
    have hsame := hstatuses.sameBinding
    obtain ⟨hrest, hmod', hlast'⟩ := ih hrefs
    refine ⟨hstatuses.trans hrest, fun hm => ?_, fun last hlast => ?_⟩
    · rw [Bool.or_eq_false_iff] at hm
      rw [hmod' hm.2, hmod hm.1]
    · cases refs with
      | nil =>
        cases hlast
        cases hrefs
        exact hall
      | cons ref' refs' =>
        -- the rest overwrites what this reference has decided
        refine hall.comp ?_ (hlast' last (by simpa using hlast))
        intro l₀ l₁ l₂ h₁ h₂
        rw [hsame.id_eq, binds_congr hsame h₁.same] at h₂
        exact h₁.trans h₂

/-! ### Binding goes through -/

theorem bindListeners_isSome_iff :
    (bindListeners c orders g ref i ls r).isSome ↔
      ∀ l ∈ ls, (verdict c g.gateway.namespace_ l ref r).isSome := by
  induction ls generalizing i r with
  | nil => simp [bindListeners]
  | cons l ls ih =>
    rw [List.forall_mem_cons]
    cases hv : verdict c g.gateway.namespace_ l ref r with
    | none => simp [bindListeners, bindListener_of_none hv]
    | some v =>
      have hsame := (sameButStatuses_record (orders ref i) ref r v).sameBinding
      -- what is recorded on the way does not change the verdicts that follow
      have ih' := ih (i := i + 1) (r := v.record (orders ref i) ref r)
      simp only [verdict_congr hsame (SameListener.refl _)] at ih'
      rw [bindListeners, bindListener_of_verdict hv, ← ih']
      cases v.isBound <;>
        cases hls : bindListeners c orders g ref (i + 1) ls (v.record (orders ref i) ref r) <;>
        simp [hls]

/-- Listeners that differ in their routes only have the same verdicts. -/
theorem verdicts_congr {namespace_ : String} (hr : r.SameBinding r')
    (hls : List.Forall₂ SameListener ls ls') (ref : ParentReference) :
    (∀ l ∈ ls', (verdict c namespace_ l ref r').isSome) ↔
      ∀ l ∈ ls, (verdict c namespace_ l ref r).isSome := by
  induction hls with
  | nil => simp
  | cons hl _ ih => simp only [List.forall_mem_cons, ih, verdict_congr hr hl]

theorem bindRefs_isSome_iff :
    (bindRefs c orders g refs ls r).isSome ↔
      ∀ ref ∈ refs, ∀ l ∈ ls, (verdict c g.gateway.namespace_ l ref r).isSome := by
  induction refs generalizing ls r with
  | nil => simp [bindRefs]
  | cons ref refs ih =>
    have hhead : (bindListeners c orders g ref 0 ls r).isSome ↔ _ := bindListeners_isSome_iff
    rw [List.forall_mem_cons, ← hhead]
    cases hls : bindListeners c orders g ref 0 ls r with
    | none => simp [bindRefs, hls]
    | some p =>
      obtain ⟨ls₁, r₁, m₁⟩ := p
      obtain ⟨hsame, hall, -⟩ := bindListeners_spec hls
      have ih' : (bindRefs c orders g refs ls₁ r₁).isSome ↔ _ := ih
      simp only [verdicts_congr hsame.sameBinding (hall.imp fun _ _ hatt => hatt.same)] at ih'
      rw [← ih']
      cases hrefs : bindRefs c orders g refs ls₁ r₁ <;> simp [bindRefs, hls, hrefs]

/-- Nothing is dereferenced that is not there when the route is bound. -/
def Bindable (c : Client) (g : K8sGateway) (r : K8sRoute) : Prop :=
  routeReferencesGateway r g = true → ∀ ref ∈ r.parentRefs, ∀ l ∈ g.gatewayState.listeners,
    (verdict c g.gateway.namespace_ l ref r).isSome

theorem bind_isSome_iff : (bind c orders g r).isSome ↔ Bindable c g r := by
  unfold Bindable
  cases hr : routeReferencesGateway r g with
  | false => simp [bind, hr]
  | true => simp [bind, hr, bindRefs_isSome_iff]

/-! ### `Bind` and `Unbind` as a whole -/

/-- What `Bind` and `Unbind` do to a gateway and a route, where `P` says which
listeners hold the route in the end. -/
structure Rebinds (P : GatewayListener → Prop) (g : K8sGateway) (r : K8sRoute) (g' : K8sGateway)
    (r' : K8sRoute) (modified : Bool) : Prop where
  statuses : r.SameButStatuses r'
  gateway : ∃ ls, g' = g.setListeners ls ∧
    List.Forall₂ (fun l l' => Attached r.id (P l) l l') g.gatewayState.listeners ls
  unmodified : modified = false → g' = g

theorem Rebinds.route {P : GatewayListener → Prop} {g' : K8sGateway}
    (h : Rebinds P g r g' r' modified) : r.SameBinding r' := h.statuses.sameBinding

/-- The listener takes the route: the route names the gateway, and the last of
its parents, whatever that one names, binds it. -/
def Attaches (c : Client) (g : K8sGateway) (r : K8sRoute) (l : GatewayListener) : Prop :=
  routeReferencesGateway r g = true ∧ ∃ last, r.parentRefs.getLast? = some last ∧
    Binds c g r last l

theorem unbindListeners_spec (h : unbindListeners g ls r = (ls', r', modified)) :
    r.SameButStatuses r' ∧ List.Forall₂ (Attached r.id False) ls ls' ∧
      (modified = false → ls' = ls) := by
  induction ls generalizing r ls' r' modified with
  | nil =>
    cases h
    exact ⟨.refl r, .nil, fun _ => rfl⟩
  | cons l ls ih =>
    by_cases hl : r.id ∈ l.state.routes
    · rw [unbindListeners, if_pos hl] at h
      cases h
      have hsame := sameButStatuses_removeGatewayStatus r g
      obtain ⟨hsame', hall, -⟩ := ih (r := removeGatewayStatus r g) rfl
      rw [hsame.sameBinding.id_eq] at hall
      exact ⟨hsame.trans hsame', .cons (attached_erase _ _) hall, fun hm => by cases hm⟩
    · rw [unbindListeners, if_neg hl] at h
      cases h
      obtain ⟨hsame, hall, hmod⟩ := ih (r := r) rfl
      refine ⟨hsame, .cons ⟨SameListener.refl l, fun _ _ => rfl, iff_false_intro hl⟩ hall, ?_⟩
      intro hm
      rw [hmod hm]

private theorem setListeners_self (g : K8sGateway) :
    g.setListeners g.gatewayState.listeners = g := rfl

theorem unbind_rebinds (g : K8sGateway) (r : K8sRoute) :
    Rebinds (fun _ => False) g r (unbind g r).1 (unbind g r).2.1 (unbind g r).2.2 := by
  have hspec : unbindListeners g g.gatewayState.listeners r = _ := rfl
  obtain ⟨hsame, hall, hmod⟩ := unbindListeners_spec hspec
  refine ⟨hsame, ⟨_, rfl, hall⟩, fun hm => ?_⟩
  simp only [unbind, hmod hm, setListeners_self]

theorem bind_of_not_references {g' : K8sGateway} (hr : routeReferencesGateway r g = false)
    (h : bind c orders g r = some (g', r', modified)) : unbind g r = (g', r', modified) := by
  simpa [bind, hr] using h

theorem bind_of_references {g' : K8sGateway} (hr : routeReferencesGateway r g = true)
    (h : bind c orders g r = some (g', r', modified)) :
    ∃ ls, bindRefs c orders g r.parentRefs g.gatewayState.listeners r = some (ls, r', modified) ∧
      g' = g.setListeners ls := by
  simp only [bind, hr, Bool.not_true, Bool.false_eq_true, if_false, Option.map_eq_some_iff,
    Prod.exists] at h
  obtain ⟨ls, r₁, m₁, hrefs, heq⟩ := h
  cases heq
  exact ⟨ls, hrefs, rfl⟩

theorem bind_rebinds {g' : K8sGateway} (h : bind c orders g r = some (g', r', modified)) :
    Rebinds (Attaches c g r) g r g' r' modified := by
  cases hr : routeReferencesGateway r g with
  | false =>
    -- no listener takes a route that does not name the gateway
    have hno : Attaches c g r = fun _ => False := by
      funext l
      simp [Attaches, hr]
    have hub := unbind_rebinds g r
    rw [bind_of_not_references hr h] at hub
    rw [hno]
    exact hub
  | true =>
    obtain ⟨ls, hrefs, rfl⟩ := bind_of_references hr h
    obtain ⟨hsame, hmod, hlast⟩ := bindRefs_spec hrefs
    -- a route that references the gateway has a last parent
    obtain ⟨ref, href, -⟩ := List.any_eq_true.mp hr
    obtain ⟨last, hl⟩ :=
      Option.isSome_iff_exists.mp (List.getLast?_isSome.mpr (List.ne_nil_of_mem href))
    refine ⟨hsame, ⟨ls, rfl, ?_⟩, fun hm => ?_⟩
    · have hiff : ∀ l, Binds c g r last l ↔ Attaches c g r l := by
        intro l
        simp [Attaches, hr, hl]
      simpa only [hiff] using hlast last hl
    · rw [hmod hm, setListeners_self]

/-- The attached listeners are the same after anything that keeps what binding
reads. -/
theorem attaches_congr {ls : List GatewayListener} (hr : r.SameBinding r')
    (hl : l.SameListener l') : Attaches c (g.setListeners ls) r' l' ↔ Attaches c g r l := by
  have href : routeReferencesGateway r' (g.setListeners ls) = routeReferencesGateway r g :=
    routeReferencesGateway_congr (g := g) hr
  have hbinds : ∀ last, Binds c (g.setListeners ls) r' last l' ↔ Binds c g r last l :=
    fun last => binds_congr (g := g) hr hl
  simp only [Attaches, href, hr.parentRefs, hbinds]

theorem attaches_route_congr (hr : r.SameBinding r') : Attaches c g r' l ↔ Attaches c g r l := by
  have hcongr : Attaches c (g.setListeners g.gatewayState.listeners) r' l ↔ Attaches c g r l :=
    attaches_congr hr (.refl l)
  exact hcongr

end Binder

namespace SampleCluster

/-- A cluster whose namespaces are not looked up. -/
def client : Client := ⟨fun _ => .ok none, fun _ => .ok fun _ => true⟩

end SampleCluster

end Reconciler
