/-
The rules of an HTTP route, from its spec to the route that a listener serves.

The converter finds the rules of a route as the keys of the map of references that
the validation has filled backend by backend.  A rule without backends never gets
an entry there.

* `represents_entry` — the rule that the converter makes of an entry;
* `corresponds_iff` — when the rules of the converted route are those of the spec;
* `ruleWithoutBackends_disappears` — a rule without backends, whose requests fall
  through to the next one.
-/
import ConsulApiGateway.BackendResolver
import ConsulApiGateway.RouteAccounting

namespace Reconciler

open K8s

/-- The answers of a validation that uses the resolver, with what each resolution
meets. -/
def RouteAnswers.ofResolver (mapper : String → String)
    (grants : ℕ → ℕ → String → Except String (List ReferenceGrant))
    (answers : ℕ → ℕ → ResolverAnswers) : RouteAnswers where
  getReferenceGrantsInNamespace := grants
  resolve i j := BackendResolver.resolve mapper (answers i j)

namespace RouteValidator

open Converter

/-! ### What the rules stand for -/

/-- The service that a backend of rule `i` stands for: the Consul service it is
resolved to, with the weight and the filters of the backend. -/
def IsServiceOf (a : RouteAnswers) (i : ℕ) (route : ObjectMeta) (ref : HTTPBackendRef × ℕ)
    (service : Core.HTTPService) : Prop :=
  ∃ consul, a.resolve i ref.2 route.namespace_ ref.1.toBackendObjectReference =
      .ok (.consulService () consul) ∧
    service =
      { service := ⟨consul.namespace_, consul.name⟩
        weight := ref.1.weight.getD 1
        filters := convertHTTPRouteFilters ref.1.filters }

/-- The rule of the converted route stands for the rule of the spec: it has its
matches and filters, and a service for every backend, in order. -/
structure Represents (a : RouteAnswers) (route : ObjectMeta) (rule : HTTPRouteRule × ℕ)
    (converted : Core.HTTPRouteRule) : Prop where
  matches_ : converted.matches_ = rule.1.matches_.map convertMatch
  filters : converted.filters = convertHTTPRouteFilters rule.1.filters
  services : List.Forall₂ (IsServiceOf a rule.2 route) rule.1.backendRefs.zipIdx converted.services

/-- The rules are, in some order, one for each rule of the spec. -/
def Corresponds (a : RouteAnswers) (route : HTTPRoute) (converted : List Core.HTTPRouteRule) :
    Prop :=
  ∃ rules : List Core.HTTPRouteRule, rules.Perm converted ∧
    List.Forall₂ (Represents a route.toObjectMeta) route.rules.zipIdx rules

/-! ### The rules of the converter -/

/-- What the converter makes of a rule and its references. -/
def convertRule (rule : HTTPRouteRule) (references : List (ResolvedReference HTTPBackendRef)) :
    Core.HTTPRouteRule where
  filters := convertHTTPRouteFilters rule.filters
  matches_ := rule.matches_.map convertMatch
  services := convertReferences references

theorem httpReferencesToRules_eq (order : RangeOrder)
    (references : RouteRuleReferenceMap HTTPRouteRule HTTPBackendRef) :
    httpReferencesToRules order references =
      (order.visit references).map fun entry => convertRule entry.1 entry.2 := rfl

section Rules

variable {a : RouteAnswers} {route : ObjectMeta}

theorem isServiceOf_of_outcomes
    (ha : ∀ i j ns ref r, a.resolve i j ns ref = .ok r → BackendResolver.IsConsulService r)
    {i : ℕ} {refs : List (HTTPBackendRef × ℕ)} {outcomes : List (Outcome HTTPBackendRef)}
    (h : List.Forall₂ (fun ref o => IsOutcome a i ref.2 route ref.1.toBackendRef ref.1 o)
      refs outcomes) (hno : ∀ o ∈ outcomes, o.error? = none) :
    List.Forall₂ (IsServiceOf a i route) refs
      (convertReferences (outcomes.filterMap Except.toOption)) := by
  induction h with
  | nil => exact .nil
  | cons houtcome _ ih =>
    obtain ⟨hfirst, hrest⟩ := List.forall_mem_cons.mp hno
    cases houtcome with
    | resolved _ hresolve =>
      obtain ⟨consul, rfl⟩ := ha _ _ _ _ _ hresolve
      exact .cons ⟨consul, hresolve, rfl⟩ (ih hrest)
    | unresolved => cases hfirst
    | denied => cases hfirst

/-- The rule that is made of the references of a rule stands for it, if no backend
has failed. -/
theorem represents_entry
    (ha : ∀ i j ns ref r, a.resolve i j ns ref = .ok r → BackendResolver.IsConsulService r)
    {rule : HTTPRouteRule × ℕ} {entry : HTTPRouteRule × List (Outcome HTTPBackendRef)}
    (h : entry.1 = rule.1 ∧ RuleOutcomes a rule.2 route rule.1 entry.2)
    (hno : ∀ o ∈ entry.2, o.error? = none) :
    Represents a route rule (convertRule entry.1 (entry.2.filterMap Except.toOption)) := by
  obtain ⟨heq, houtcomes⟩ := h
  exact ⟨by rw [heq]; rfl, by rw [heq]; rfl, isServiceOf_of_outcomes ha houtcomes hno⟩

/-- A rule whose backends are all resolved has an entry exactly if it has a
backend. -/
theorem entryOf_eq_some_iff {rule : HTTPRouteRule × ℕ}
    {entry : HTTPRouteRule × List (Outcome HTTPBackendRef)}
    (h : RuleOutcomes a rule.2 route rule.1 entry.2) (hno : ∀ o ∈ entry.2, o.error? = none) :
    entryOf entry = some (entry.1, entry.2.filterMap Except.toOption) ↔
      rule.1.backendRefs ≠ [] := by
  have hall : (entry.2.filterMap Except.toOption).length = entry.2.length := by
    rw [List.filterMap_length_eq_length]
    intro o ho
    cases o with
    | ok reference => rfl
    | error err => cases hno _ ho
  have hlen : (entry.2.filterMap Except.toOption).length = rule.1.backendRefs.length := by
    rw [hall, ← List.Forall₂.length_eq h, List.length_zipIdx]
  rw [ne_eq, ← List.length_eq_zero_iff, ← hlen, List.length_eq_zero_iff, ← List.isEmpty_iff,
    entryOf]
  split_ifs with hempty
  · exact iff_of_false id fun hne => hne hempty
  · exact iff_of_true rfl hempty

end Rules

/-- **The rules of a converted route.** For a route that is validated without
resolution errors, the rules of the route that a listener serves are those of the
spec, each with its matches and its backends, exactly if every rule has a
backend. -/
theorem corresponds_iff {mapper : String → String}
    {grants : ℕ → ℕ → String → Except String (List ReferenceGrant)}
    {answers : ℕ → ℕ → ResolverAnswers} {route : HTTPRoute} {r : K8sRoute}
    (h : validate (.ofResolver mapper grants answers) (.http route) = .ok r)
    (hno : r.routeState.resolutionErrors = ∅) (order : RangeOrder) (namespace_ : String)
    (gateway : GatewayMeta) (listener : Listener) :
    ∃ converted, r.resolve order namespace_ gateway listener = .http converted ∧
      (Corresponds (.ofResolver mapper grants answers) route converted.rules ↔
        ∀ rule ∈ route.rules, rule.backendRefs ≠ []) := by
  obtain ⟨state, hstate, rfl⟩ := GoStd.map_eq_ok h
  refine ⟨_, rfl, ?_⟩
  obtain ⟨rules, houtcomes, haccounted⟩ := validateHTTPRoute_accounted hstate
  have hnone := haccounted.resolutionErrors_eq_empty_iff.mp hno
  -- every rule of the spec with its outcomes, none of which is an error
  have hrules := List.Forall₂.and_right houtcomes hnone
  have hperm : (state.references.map fun entry => convertRule entry.1 entry.2).Perm
      (httpReferencesToRules order state.references) := by
    rw [httpReferencesToRules_eq]
    exact ((order.perm state.references).map _).symm
  have hentries : (∀ rule ∈ rules,
      entryOf rule = some (rule.1, rule.2.filterMap Except.toOption)) ↔
        ∀ rule ∈ route.rules, rule.backendRefs ≠ [] := by
    rw [← List.Forall₂.forall_mem_iff hrules fun rule entry h =>
      (entryOf_eq_some_iff h.1.2 h.2).symm, List.forall_zipIdx_iff]
    simp only [List.mem_iff_getElem?, forall_exists_index]
    exact forall_comm
  rw [← hentries]
  constructor
  · rintro ⟨converted, hconverted, hforall⟩
    -- there are as many entries as rules, so that none was left out
    have hlen : (rules.filterMap entryOf).length = rules.length := by
      rw [← haccounted.references, ← houtcomes.length_eq, hforall.length_eq, hconverted.length_eq,
        ← hperm.length_eq, List.length_map]
    intro rule hrule
    have hsome := List.filterMap_length_eq_length.mp hlen rule hrule
    rw [entryOf] at hsome ⊢
    split_ifs at hsome ⊢ with hempty
    · cases hsome
    · rfl
  · intro hall
    refine ⟨_, hperm, ?_⟩
    rw [haccounted.references, List.filterMap_eq_map_iff_forall_eq_some.mpr hall, List.map_map,
      List.forall₂_map_right_iff]
    refine hrules.imp fun rule entry h => represents_entry ?_ h.1 h.2
    intro i j ns ref r hr
    exact BackendResolver.isConsulService_resolve hr

/-! ### A rule without backends -/

namespace SampleRules

/-- Consul has the service `web` on its only node. -/
def resolver : ResolverAnswers where
  getService name := .ok (some name)
  getMeshService _ := .ok none
  consul :=
    { nodes := .ok ["node"]
      namespaces := .ok []
      node := fun _ _ _ => .ok (some [("web-1", ⟨"web", ""⟩)])
      peering := fun _ _ => .ok none
      service := fun _ _ => .ok [] }
  retries := []

def answers : RouteAnswers := .ofResolver id (fun _ _ _ => .ok []) fun _ _ => resolver

/-- The requests that nothing should answer. -/
def admin : HTTPRouteRule := { matches_ := [{ path := some ⟨some .pathPrefix, some "/admin"⟩ }] }

/-- All other requests. -/
def web : HTTPRouteRule := { backendRefs := [{ name := "web", port := some 80 }] }

def route (rules : List HTTPRouteRule) : HTTPRoute where
  namespace_ := "default"
  name := "route"
  groupKind := ⟨groupName, "HTTPRoute"⟩
  parentRefs := []
  rules := rules

def gateway : GatewayMeta where
  namespace_ := "default"
  name := "gateway"
  groupKind := ⟨groupName, "Gateway"⟩

def listener : Listener := { name := "http", port := 80, protocol := .http }

/-- The route once it is validated: the rule for all other requests is the only one
with references. -/
def validated (rules : List HTTPRouteRule) : K8sRoute :=
  newHTTPRoute (route rules)
    { references := [(web, [.consulService { name := "web", port := some 80 } ⟨"", "web"⟩])] }

end SampleRules

open SampleRules

/-- The rule with a backend is converted. -/
theorem ruleWithBackend_corresponds :
    validate answers (.http (route [web])) = .ok (validated [web]) ∧
    ∃ converted, (validated [web]).resolve .listed "" gateway listener = .http converted ∧
      Corresponds answers (route [web]) converted.rules := by
  have h : validate answers (.http (route [web])) = .ok (validated [web]) := rfl
  obtain ⟨converted, hconverted, hiff⟩ := corresponds_iff h rfl .listed "" gateway listener
  refine ⟨h, converted, hconverted, hiff.mpr ?_⟩
  decide

/-- **A rule without backends disappears**: the route is validated without errors,
but what the listener serves has the other rule only, which matches everything. -/
theorem ruleWithoutBackends_disappears :
    validate answers (.http (route [admin, web])) = .ok (validated [admin, web]) ∧
    (validated [admin, web]).routeState.resolutionErrors = ∅ ∧
    ∃ converted, (validated [admin, web]).resolve .listed "" gateway listener = .http converted ∧
      converted.rules = [{ matches_ := [], filters := [], services := [⟨⟨"", "web"⟩, 1, []⟩] }] ∧
      ¬ Corresponds answers (route [admin, web]) converted.rules := by
  refine ⟨rfl, rfl, _, rfl, rfl, ?_⟩
  rintro ⟨rules, hperm, hforall⟩
  have hlen := hforall.length_eq.trans hperm.length_eq
  cases hlen

end RouteValidator

end Reconciler
