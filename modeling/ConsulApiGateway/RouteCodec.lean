/-
Routes as the store keeps them (`marshaler.go` and `route.go` of
`internal/k8s/reconciler`, with the codecs of `internal/k8s/service` and of the
generated statuses).

A stored route is written as JSON and read back by every operation that binds
it.  Plain fields survive that, and so do the statuses, whose errors are written
as their messages.  The errors of the resolution are written as objects without
fields; the references of the rules are written under the texts of the rules, so
that equal rules become one.

* `RouteStatus.unmarshalJSON_marshalJSON` — the statuses survive;
* `ResolutionErrors.reload_eq_iff` — the resolution errors survive if they are
  empty texts;
* `reload_same_iff` — when a route comes back as it was;
* `exists_marshaler` — what comes back binds as before, as the store assumes.
-/
import ConsulApiGateway.RouteValidator
import ConsulApiGateway.Store

namespace Reconciler

open K8s

/-! ### Statuses -/

/-- The errors that are set, by the names of their fields. -/
def marshalErrors (fields : List (String × Err)) : GoMap String String :=
  GoMap.insertAll ∅ (fields.filterMap fun field => field.2.map fun err => (field.1, err))

private theorem map_fst_filterMap (fields : List (String × Err)) :
    (fields.filterMap fun field => field.2.map fun err => (field.1, err)).map Prod.fst =
      (fields.filter fun field => field.2.isSome).map Prod.fst := by
  induction fields with
  | nil => rfl
  | cons field fields ih =>
    obtain ⟨name, _ | err⟩ := field
    · simpa using ih
    · simpa using ih

theorem lookup_marshalErrors {fields : List (String × Err)} {name : String} {err : Err}
    (hnodup : (fields.map Prod.fst).Nodup) (h : (name, err) ∈ fields) :
    (marshalErrors fields).lookup name = err := by
  have hbatch : ((fields.filterMap fun field => field.2.map fun err => (field.1, err)).map
      Prod.fst).Nodup := by
    rw [map_fst_filterMap]
    exact hnodup.sublist (List.filter_sublist.map _)
  cases err with
  | some err =>
    exact GoMap.lookup_insertAll_of_mem hbatch (List.mem_filterMap.2 ⟨_, h, rfl⟩) ∅
  | none =>
    refine (GoMap.lookup_insertAll_of_notMem ?_ ∅).trans (Finmap.lookup_empty name)
    rw [map_fst_filterMap]
    intro hmem
    obtain ⟨field, hfield, hname⟩ := List.mem_map.1 hmem
    obtain ⟨hin, hset⟩ := List.mem_filter.1 hfield
    -- a field has one error, and this one is not set
    have heq := List.inj_on_of_nodup_map hnodup hin h hname
    rw [heq] at hset
    cases hset

namespace RouteAcceptedStatus

def errors (s : RouteAcceptedStatus) : List (String × Err) :=
  [("InvalidRouteKind", s.invalidRouteKind), ("ListenerNamespacePolicy", s.listenerNamespacePolicy),
    ("ListenerHostnameMismatch", s.listenerHostnameMismatch), ("BindError", s.bindError)]

def marshalJSON (s : RouteAcceptedStatus) : GoMap String String := marshalErrors s.errors

def unmarshalJSON (data : GoMap String String) : RouteAcceptedStatus where
  invalidRouteKind := data.lookup "InvalidRouteKind"
  listenerNamespacePolicy := data.lookup "ListenerNamespacePolicy"
  listenerHostnameMismatch := data.lookup "ListenerHostnameMismatch"
  bindError := data.lookup "BindError"

theorem unmarshalJSON_marshalJSON (s : RouteAcceptedStatus) :
    unmarshalJSON s.marshalJSON = s := by
  have hfield : ∀ field ∈ s.errors, (marshalErrors s.errors).lookup field.1 = field.2 :=
    fun field h => lookup_marshalErrors (by simp [errors]) h
  simp only [errors, List.forall_mem_cons] at hfield
  obtain ⟨h₁, h₂, h₃, h₄, -⟩ := hfield
  simp only [unmarshalJSON, marshalJSON, errors, h₁, h₂, h₃, h₄]

end RouteAcceptedStatus

namespace RouteResolvedRefsStatus

def errorFields (s : RouteResolvedRefsStatus) : List (String × Err) :=
  [("Errors", s.errors), ("ServiceNotFound", s.serviceNotFound),
    ("ConsulServiceNotFound", s.consulServiceNotFound), ("RefNotPermitted", s.refNotPermitted),
    ("InvalidKind", s.invalidKind), ("BackendNotFound", s.backendNotFound)]

def marshalJSON (s : RouteResolvedRefsStatus) : GoMap String String := marshalErrors s.errorFields

def unmarshalJSON (data : GoMap String String) : RouteResolvedRefsStatus where
  errors := data.lookup "Errors"
  serviceNotFound := data.lookup "ServiceNotFound"
  consulServiceNotFound := data.lookup "ConsulServiceNotFound"
  refNotPermitted := data.lookup "RefNotPermitted"
  invalidKind := data.lookup "InvalidKind"
  backendNotFound := data.lookup "BackendNotFound"

theorem unmarshalJSON_marshalJSON (s : RouteResolvedRefsStatus) :
    unmarshalJSON s.marshalJSON = s := by
  have hfield : ∀ field ∈ s.errorFields,
      (marshalErrors s.errorFields).lookup field.1 = field.2 :=
    fun field h => lookup_marshalErrors (by simp [errorFields]) h
  simp only [errorFields, List.forall_mem_cons] at hfield
  obtain ⟨h₁, h₂, h₃, h₄, h₅, h₆, -⟩ := hfield
  simp only [unmarshalJSON, marshalJSON, errorFields, h₁, h₂, h₃, h₄, h₅, h₆]

end RouteResolvedRefsStatus

/-- A status as JSON: its two conditions, each with the errors that are set. -/
structure RouteStatusJSON where
  accepted : GoMap String String
  resolvedRefs : GoMap String String

def RouteStatus.marshalJSON (s : RouteStatus) : RouteStatusJSON :=
  ⟨s.accepted.marshalJSON, s.resolvedRefs.marshalJSON⟩

def RouteStatus.unmarshalJSON (data : RouteStatusJSON) : RouteStatus :=
  ⟨.unmarshalJSON data.accepted, .unmarshalJSON data.resolvedRefs⟩

theorem RouteStatus.unmarshalJSON_marshalJSON (s : RouteStatus) :
    unmarshalJSON s.marshalJSON = s := by
  simp only [unmarshalJSON, marshalJSON, RouteAcceptedStatus.unmarshalJSON_marshalJSON,
    RouteResolvedRefsStatus.unmarshalJSON_marshalJSON]

/-! ### Resolution errors -/

namespace ResolutionErrors

/-- The fields of a `ResolutionError` are not exported, so that it is written as
an object without any. -/
def marshalJSON (r : ResolutionErrors) : GoMap ServiceResolutionErrorType (List Unit) :=
  GoMap.mapValues (List.map fun _ => ()) r

/-- What an object without fields is read as has the empty text. -/
def unmarshalJSON (data : GoMap ServiceResolutionErrorType (List Unit)) : ResolutionErrors :=
  GoMap.mapValues (List.map fun _ => "") data

/-- No error has a text. -/
def Wordless (r : ResolutionErrors) : Prop :=
  ∀ remote inners, r.lookup remote = some inners → ∀ inner ∈ inners, inner = ""

theorem lookup_reload (r : ResolutionErrors) (remote : ServiceResolutionErrorType) :
    Finmap.lookup remote (unmarshalJSON r.marshalJSON) =
      (r.lookup remote).map (List.map fun _ => "") := by
  rw [unmarshalJSON, marshalJSON, GoMap.lookup_mapValues, GoMap.lookup_mapValues, Option.map_map]
  congr 1
  funext inners
  simp

/-- The resolution errors survive exactly if they have no texts to lose. -/
theorem reload_eq_iff (r : ResolutionErrors) : unmarshalJSON r.marshalJSON = r ↔ r.Wordless := by
  constructor
  · intro heq remote inners hlook inner hinner
    have hreload := lookup_reload r remote
    rw [heq, hlook, Option.map_some, Option.some.injEq] at hreload
    rw [hreload] at hinner
    obtain ⟨-, -, hempty⟩ := List.mem_map.1 hinner
    exact hempty.symm
  · intro hwordless
    refine Finmap.ext_lookup fun remote => ?_
    rw [lookup_reload]
    cases hlook : r.lookup remote with
    | none => rfl
    | some inners =>
      rw [Option.map_some, Option.some.injEq]
      calc inners.map (fun _ => "") = inners.map fun inner => inner :=
            List.map_congr_left fun inner h => (hwordless remote inners hlook inner h).symm
        _ = inners := List.map_id' inners

/-- Whether there are errors survives. -/
theorem empty_reload (r : ResolutionErrors) : empty (unmarshalJSON r.marshalJSON) = empty r := by
  have hkeys : Finmap.keys (unmarshalJSON r.marshalJSON) = r.keys := by
    ext remote
    rw [Finmap.mem_keys, Finmap.mem_keys, ← Finmap.lookup_isSome, ← Finmap.lookup_isSome,
      lookup_reload, Option.isSome_map]
  rw [empty, empty, hkeys]

end ResolutionErrors

/-! ### References -/

/-- The references of the rules, under the texts of the rules; a rule stands for
its text, and the rule that is visited last prevails. -/
def marshalReferences {ρ β : Type} [DecidableEq ρ] (order : RangeOrder)
    (references : RouteRuleReferenceMap ρ β) : GoMap ρ (List (ResolvedReference β)) :=
  GoMap.insertAll ∅ (order.visit references)

/-- The pairs survive exactly if no two rules are equal.  Every rule that is read
is an object of its own again. -/
theorem perm_references_iff {ρ β : Type} [DecidableEq ρ] {order : RangeOrder}
    {references visited : RouteRuleReferenceMap ρ β}
    (hv : GoMap.Ranges (marshalReferences order references) visited) :
    visited.Perm references ↔ (references.map Prod.fst).Nodup := by
  have hperm := order.perm references
  rw [← (hperm.map Prod.fst).nodup_iff, ← GoMap.Ranges.perm_batch_iff hv]
  exact ⟨fun h => h.trans hperm.symm, fun h => h.trans hperm⟩

/-! ### Routes -/

/-- What differs between the two types of routes, as JSON. -/
inductive RouteBodyJSON
  | http (hostnames : List String)
      (references : GoMap HTTPRouteRule (List (ResolvedReference HTTPBackendRef)))
      (rules : List HTTPRouteRule)
  | tcp (references : GoMap Unit (List (ResolvedReference BackendRef)))
      (rules : List TCPRouteRule)

namespace RouteBody

/-- The kind that the type of the object has. -/
def kind : RouteBody → String
  | .http .. => "HTTPRoute"
  | .tcp .. => "TCPRoute"

def marshalJSON (order : RangeOrder) : RouteBody → RouteBodyJSON
  | .http hostnames references rules => .http hostnames (marshalReferences order references) rules
  | .tcp references rules => .tcp (marshalReferences order references) rules

/-- No two references are those of equal rules. -/
def DistinctRules : RouteBody → Prop
  | .http _ references _ => (references.map Prod.fst).Nodup
  | .tcp references _ => (references.map Prod.fst).Nodup

/-- The same specification and the same pairs of rules and references. -/
def Same : RouteBody → RouteBody → Prop
  | .http hostnames references rules, .http hostnames' references' rules' =>
    hostnames' = hostnames ∧ references'.Perm references ∧ rules' = rules
  | .tcp references rules, .tcp references' rules' => references'.Perm references ∧ rules' = rules
  | _, _ => False

end RouteBody

/-- The body is read from the JSON, with the references in one of the orders in
which their map may be visited. -/
def RouteBodyJSON.Unmarshals : RouteBodyJSON → RouteBody → Prop
  | .http hostnames data rules, .http hostnames' references rules' =>
    hostnames' = hostnames ∧ GoMap.Ranges data references ∧ rules' = rules
  | .tcp data rules, .tcp references rules' => GoMap.Ranges data references ∧ rules' = rules
  | _, _ => False

/-- `serializedRoute`. -/
structure SerializedRoute where
  object : ObjectMeta
  parentRefs : List ParentReference
  body : RouteBodyJSON
  resolutionErrors : GoMap ServiceResolutionErrorType (List Unit)
  parentStatuses : GoMap ParentReference RouteStatusJSON

def K8sRoute.marshalJSON (order : RangeOrder) (r : K8sRoute) : SerializedRoute where
  object := r.object
  parentRefs := r.parentRefs
  body := r.body.marshalJSON order
  resolutionErrors := r.routeState.resolutionErrors.marshalJSON
  parentStatuses := GoMap.mapValues RouteStatus.marshalJSON r.routeState.parentStatuses

/-- `body` is what the specification and the references are read as.  The kind that
was written decides about the type of the object: `none` is an error, or a route of
another type. -/
def K8sRoute.unmarshalJSON (body : RouteBody) (stored : SerializedRoute) : Option K8sRoute :=
  if stored.object.groupKind.kind = body.kind then some
    { object := stored.object
      parentRefs := stored.parentRefs
      body := body
      routeState :=
        { resolutionErrors := .unmarshalJSON stored.resolutionErrors
          parentStatuses := GoMap.mapValues RouteStatus.unmarshalJSON stored.parentStatuses } }
  else none

variable {order : RangeOrder} {r r' : K8sRoute} {body : RouteBody}

theorem lookup_reload_parentStatuses (statuses : RouteStatuses) :
    GoMap.mapValues RouteStatus.unmarshalJSON (GoMap.mapValues RouteStatus.marshalJSON statuses) =
      statuses := by
  refine Finmap.ext_lookup fun p => ?_
  rw [GoMap.lookup_mapValues, GoMap.lookup_mapValues, Option.map_map]
  have hid : RouteStatus.unmarshalJSON ∘ RouteStatus.marshalJSON = id :=
    funext RouteStatus.unmarshalJSON_marshalJSON
  rw [hid, Option.map_id, id]

/-- The type of a route survives, and so does its specification. -/
theorem RouteBodyJSON.Unmarshals.same_iff {b : RouteBody}
    (h : (b.marshalJSON order).Unmarshals body) :
    body.kind = b.kind ∧ body.hostnames? = b.hostnames? ∧ (b.Same body ↔ b.DistinctRules) := by
  cases b with
  | http hostnames references rules =>
    cases body with
    | http hostnames' references' rules' =>
      obtain ⟨rfl, hv, rfl⟩ := h
      refine ⟨rfl, rfl, ?_⟩
      simp only [RouteBody.Same, RouteBody.DistinctRules, true_and, and_true]
      exact perm_references_iff hv
    | tcp => exact h.elim
  | tcp references rules =>
    cases body with
    | http => exact h.elim
    | tcp references' rules' =>
      obtain ⟨hv, rfl⟩ := h
      refine ⟨rfl, rfl, ?_⟩
      simp only [RouteBody.Same, RouteBody.DistinctRules, and_true]
      exact perm_references_iff hv

/-- The specification of a route is read as it was written. -/
theorem RouteBodyJSON.Unmarshals.spec_eq {b : RouteBody}
    (h : (b.marshalJSON order).Unmarshals body) : body.spec = b.spec := by
  cases b with
  | http hostnames references rules =>
    cases body with
    | http hostnames' references' rules' =>
      obtain ⟨rfl, -, rfl⟩ := h
      rfl
    | tcp => exact h.elim
  | tcp references rules =>
    cases body with
    | http => exact h.elim
    | tcp references' rules' =>
      obtain ⟨-, rfl⟩ := h
      rfl

/-- Everything that is written can be read, in some order. -/
theorem exists_unmarshals (order : RangeOrder) (b : RouteBody) :
    ∃ body, (b.marshalJSON order).Unmarshals body := by
  cases b with
  | http hostnames references rules =>
    obtain ⟨l, hl⟩ := GoMap.exists_ranges (marshalReferences order references)
    exact ⟨.http hostnames l rules, rfl, hl, rfl⟩
  | tcp references rules =>
    obtain ⟨l, hl⟩ := GoMap.exists_ranges (marshalReferences order references)
    exact ⟨.tcp l rules, hl, rfl⟩

namespace K8sRoute

/-- The object carries the kind of its type. -/
def Kinded (r : K8sRoute) : Prop := r.object.groupKind.kind = r.body.kind

/-- The routes are the same to an observer: the same object with the same
specification, the same statuses, the same resolution errors, and the same rules with
the same references. -/
structure SameRoute (r r' : K8sRoute) : Prop where
  id : r'.id = r.id
  object : r'.object = r.object
  parentRefs : r'.parentRefs = r.parentRefs
  body : r.body.Same r'.body
  parentStatuses : r'.routeState.parentStatuses = r.routeState.parentStatuses
  resolutionErrors : r'.routeState.resolutionErrors = r.routeState.resolutionErrors

/-- What is read of a route that was written. -/
theorem unmarshalJSON_eq_some (hv : (r.body.marshalJSON order).Unmarshals body) :
    unmarshalJSON body (r.marshalJSON order) = some r' ↔ r.Kinded ∧ r' =
      { object := r.object
        parentRefs := r.parentRefs
        body := body
        routeState :=
          { resolutionErrors := .unmarshalJSON r.routeState.resolutionErrors.marshalJSON
            parentStatuses := r.routeState.parentStatuses } } := by
  have hkind : (r.marshalJSON order).object.groupKind.kind = body.kind ↔ r.Kinded := by
    rw [hv.same_iff.1]
    rfl
  have hstatuses := lookup_reload_parentStatuses r.routeState.parentStatuses
  rw [unmarshalJSON, Option.ite_none_right_eq_some, hkind, Option.some.injEq]
  simp only [marshalJSON, hstatuses]
  exact and_congr_right fun _ => eq_comm

/-- What is read has the Kubernetes object of what was written, binds as it does, and
has the statuses of it. -/
theorem sameObject_unmarshalJSON (hv : (r.body.marshalJSON order).Unmarshals body)
    (h : unmarshalJSON body (r.marshalJSON order) = some r') :
    r.SameObject r' ∧ r'.routeState.parentStatuses = r.routeState.parentStatuses := by
  obtain ⟨-, rfl⟩ := (unmarshalJSON_eq_some hv).1 h
  exact ⟨⟨⟨rfl, rfl, hv.same_iff.2.1, ResolutionErrors.empty_reload _⟩, hv.spec_eq⟩, rfl⟩

/-- The store may read its routes back from JSON: what is assumed of that holds. -/
theorem exists_marshaler (order : RangeOrder) :
    ∃ M : Marshaler, M.KeepsObjects ∧ ∀ r : K8sRoute, r.Kinded →
      ∃ body, (r.body.marshalJSON order).Unmarshals body ∧
        unmarshalJSON body (r.marshalJSON order) = some (M.reloadRoute r) := by
  have hread : ∀ r : K8sRoute, ∃ r', r.SameObject r' ∧
      r'.routeState.parentStatuses = r.routeState.parentStatuses ∧
      (r.Kinded → ∃ body, (r.body.marshalJSON order).Unmarshals body ∧
        unmarshalJSON body (r.marshalJSON order) = some r') := by
    intro r
    by_cases hk : r.Kinded
    · obtain ⟨body, hv⟩ := exists_unmarshals order r.body
      have h := (unmarshalJSON_eq_some hv).2 ⟨hk, rfl⟩
      obtain ⟨hsame, hstatuses⟩ := sameObject_unmarshalJSON hv h
      exact ⟨_, hsame, hstatuses, fun _ => ⟨body, hv, h⟩⟩
    · exact ⟨r, ⟨.refl r, rfl⟩, rfl, fun h => absurd h hk⟩
  choose reload hsame hstatuses hjson using hread
  exact ⟨⟨reload, fun r => (hsame r).toSameBinding, hstatuses⟩, fun r => (hsame r).spec, hjson⟩

/-- **A route comes back as it was exactly if it has its kind, no texts in its
resolution errors, and no two references of equal rules.** -/
theorem reload_same_iff (hv : (r.marshalJSON order).body.Unmarshals body) :
    (∃ r', unmarshalJSON body (r.marshalJSON order) = some r' ∧ r.SameRoute r') ↔
      r.Kinded ∧ r.routeState.resolutionErrors.Wordless ∧ r.body.DistinctRules := by
  have hsome : ∀ {r'}, unmarshalJSON body (r.marshalJSON order) = some r' ↔ _ :=
    unmarshalJSON_eq_some hv
  obtain ⟨-, hhostnames, hbody⟩ := RouteBodyJSON.Unmarshals.same_iff hv
  constructor
  · rintro ⟨r', h, hsame⟩
    obtain ⟨hk, rfl⟩ := hsome.1 h
    exact ⟨hk, (ResolutionErrors.reload_eq_iff _).1 hsame.resolutionErrors,
      hbody.1 hsame.body⟩
  · rintro ⟨hk, hwordless, hrules⟩
    refine ⟨_, hsome.2 ⟨hk, rfl⟩, ?_⟩
    exact
      { id := by simp only [K8sRoute.id, hhostnames]
        object := rfl
        parentRefs := rfl
        body := hbody.2 hrules
        parentStatuses := rfl
        resolutionErrors := (ResolutionErrors.reload_eq_iff _).2 hwordless }

end K8sRoute

/-! ### What is lost -/

namespace SampleCodec

/-- A resolver that finds the service `api`, and no other. -/
def answers : RouteAnswers where
  getReferenceGrantsInNamespace _ _ _ := .ok []
  resolve _ _ namespace_ ref :=
    if ref.name = "api" then .ok (.consulService () ⟨"", ref.name⟩)
    else .error (.resolution .backendNotFound
      ("service " ++ (NamespacedName.mk namespace_ ref.name).toString ++ " not found"))

def ruleTo (service : String) : HTTPRouteRule :=
  { backendRefs := [{ name := service, port := some 80 }] }

/-- A route of the namespace `web`. -/
def routeWith (rules : List HTTPRouteRule) : HTTPRoute where
  namespace_ := "web"
  name := "route"
  groupKind := ⟨groupName, "HTTPRoute"⟩
  parentRefs := [{ name := "gateway" }]
  rules := rules

/-- The reference that a rule for `api` gets. -/
def reference : ResolvedReference HTTPBackendRef :=
  .consulService { name := "api", port := some 80 } ⟨"", "api"⟩

/-- A route with one rule, once it is validated. -/
def found : K8sRoute :=
  newHTTPRoute (routeWith [ruleTo "api"]) { references := [(ruleTo "api", [reference])] }

end SampleCodec

open SampleCodec K8sRoute

/-- **What a route loses in the store**: the texts of its resolution errors, and the
references of a rule that is there twice. -/
theorem reload_loses :
    (∃ r body r',
      RouteValidator.validate answers (.http (routeWith [ruleTo "missing"])) = .ok r ∧
      (r.marshalJSON .listed).body.Unmarshals body ∧
      unmarshalJSON body (r.marshalJSON .listed) = some r' ∧
      ResolutionErrors.flatten .listed r.routeState.resolutionErrors =
        some (.backendNotFound, "service web/missing not found") ∧
      ResolutionErrors.flatten .listed r'.routeState.resolutionErrors =
        some (.backendNotFound, "")) ∧
    (∃ r body r',
      RouteValidator.validate answers (.http (routeWith [ruleTo "api", ruleTo "api"])) = .ok r ∧
      (r.marshalJSON .listed).body.Unmarshals body ∧
      unmarshalJSON body (r.marshalJSON .listed) = some r' ∧
      r.body = .http [] [(ruleTo "api", [reference]), (ruleTo "api", [reference])]
        [ruleTo "api", ruleTo "api"] ∧
      r'.body = .http [] [(ruleTo "api", [reference])] [ruleTo "api", ruleTo "api"]) := by
  constructor
  · refine ⟨_, .http [] [] [ruleTo "missing"], _, rfl, ⟨rfl, GoMap.ranges_empty, rfl⟩, rfl, ?_, ?_⟩
    · decide
    · decide
  · refine ⟨_, .http [] [(ruleTo "api", [reference])] [ruleTo "api", ruleTo "api"], _, rfl,
      ⟨rfl, ?_, rfl⟩, rfl, rfl, rfl⟩
    have heq : marshalReferences .listed
        [(ruleTo "api", [reference]), (ruleTo "api", [reference])] =
          (∅ : GoMap _ _).insert (ruleTo "api") [reference] :=
      Finmap.insert_insert _
    exact heq ▸ GoMap.ranges_singleton _ _

/-- A route whose backends are all found, with different rules, comes back. -/
theorem reload_same_found :
    RouteValidator.validate answers (.http (routeWith [ruleTo "api"])) = .ok found ∧
    ∃ body r', (found.marshalJSON .listed).body.Unmarshals body ∧
      unmarshalJSON body (found.marshalJSON .listed) = some r' ∧ found.SameRoute r' := by
  have hv : (found.marshalJSON .listed).body.Unmarshals found.body :=
    ⟨rfl, GoMap.ranges_singleton _ _, rfl⟩
  have hwordless : found.routeState.resolutionErrors.Wordless := by
    intro remote inners hlook
    cases (Finmap.lookup_empty remote).symm.trans hlook
  obtain ⟨r', h, hsame⟩ := (reload_same_iff hv).2 ⟨rfl, hwordless, List.nodup_singleton _⟩
  exact ⟨rfl, found.body, r', hv, h, hsame⟩

end Reconciler
