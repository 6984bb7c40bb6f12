/-
What the header modifiers of a route do to a request.

A rule with several services modifies the headers of a request twice: once in the
router, as the rule says, and once in the splitter, as the service says.  For a
rule with a single service there is no splitter, and the two modifiers are merged
into one.  `apply` is what a modifier does to the headers of a request.

* `apply_merge_iff` — when the merged modifier does what the two do in sequence;
* `singleService_modifier_iff` — the same about the routes that are made of a rule;
* `mergedModifier_differs` — a header that both add is added once only, and one that
  the service removes is set.
-/
import ConsulApiGateway.DiscoveryChain

namespace Consul

open Core

/-- The headers of a request: the values of each name, in order.  Names are compared
as they are written here; Envoy takes those that differ in case for the same. -/
abbrev RequestHeaders := String → List String

namespace HTTPHeaderModifiers

/-- Removes headers, then sets headers, then adds values. -/
def apply (m : HTTPHeaderModifiers) (headers : RequestHeaders) : RequestHeaders := fun name =>
  let kept := if name ∈ m.remove then [] else headers name
  let values := (m.set.lookup name).elim kept fun value => [value]
  values ++ (m.add.lookup name).toList

/-- The two modifiers may be merged as far as a header is concerned: nothing that
the first one adds or sets is undone or repeated by the second. -/
def Mergeable (rule service : HTTPHeaderModifiers) (name : String) : Prop :=
  if name ∈ service.set then name ∈ rule.add → name ∈ service.add
  else if name ∈ service.remove then
    name ∉ rule.set ∧ (name ∈ rule.add → name ∈ service.add)
  else ¬ (name ∈ rule.add ∧ name ∈ service.add)

instance (rule service : HTTPHeaderModifiers) (name : String) :
    Decidable (rule.Mergeable service name) := by
  unfold Mergeable
  infer_instance

variable {rule service : HTTPHeaderModifiers} {headers : RequestHeaders} {name : String}

theorem mem_iff_isSome {m : GoMap String String} : name ∈ m ↔ (m.lookup name).isSome = true := by
  rw [Finmap.mem_iff, Option.isSome_iff_exists]

theorem lookup_mergeMaps (a b : GoMap String String) :
    (mergeMaps a b).lookup name = (b.lookup name).or (a.lookup name) := by
  rw [mergeMaps, GoMap.lookup_union_ite]
  split_ifs with h
  · obtain ⟨value, hvalue⟩ := Finmap.mem_iff.mp h
    rw [hvalue, Option.some_or]
  · rw [Finmap.lookup_eq_none.mpr h, Option.none_or]

theorem apply_merge : (rule.merge service).apply headers name =
    ((service.set.lookup name).or (rule.set.lookup name)).elim
      (if name ∈ rule.remove ∨ name ∈ service.remove then [] else headers name)
      (fun value => [value]) ++
    ((service.add.lookup name).or (rule.add.lookup name)).toList := by
  simp only [apply, merge, lookup_mergeMaps, List.mem_append]

/-- Whether the merged modifier does to a header what the two do in sequence does
not depend on the values that the header has. -/
theorem apply_merge_iff : (rule.merge service).apply headers name =
    service.apply (rule.apply headers) name ↔ rule.Mergeable service name := by
  rw [apply_merge]
  simp only [apply, Mergeable, mem_iff_isSome]
  cases hset : service.set.lookup name with
  | some value =>
    -- what the service sets replaces all that was there before
    cases service.add.lookup name <;> cases rule.add.lookup name <;> simp
  | none =>
    by_cases hremove : name ∈ service.remove
    · cases rule.set.lookup name <;> cases service.add.lookup name <;>
        cases rule.add.lookup name <;> simp [hremove]
    · -- both keep what is left by the rule, but only one value is added
      cases rule.set.lookup name <;> cases service.add.lookup name <;>
        cases rule.add.lookup name <;> simp [hremove]

end HTTPHeaderModifiers

section Routes

variable {route : HTTPRoute} {idx : ℕ} {rule : HTTPRouteRule} {r : ServiceRoute}

theorem requestHeaders_of_mem_ruleRoutes (h : r ∈ ruleRoutes route idx rule) :
    r.destination.requestHeaders = (ruleDestination route idx rule).2 := by
  unfold ruleRoutes at h
  dsimp only at h
  split at h
  · rw [List.mem_singleton.mp h]
  · obtain ⟨m, -, rfl⟩ := List.mem_map.mp h
    rfl

/-- **The merged modifier of a rule with one service.** It does to every request
what the modifier of the rule and then that of the service would do exactly if the
two are mergeable at every header; in sequence is how the modifiers of a rule with
several services are applied, one in the router and one in the splitter. -/
theorem singleService_modifier_iff (hrule : route.rules[idx]? = some rule) :
    (∀ service, rule.services = [service] → ∀ r ∈ ruleRoutes route idx rule,
      r ∈ (httpRouteDiscoveryChain route).1.routes ∧
      ((∀ headers, r.destination.requestHeaders.apply headers =
          (httpRouteFiltersToServiceRouteHeaderModifier service.filters).apply
            ((httpRouteFiltersToServiceRouteHeaderModifier rule.filters).apply headers)) ↔
        ∀ name, (httpRouteFiltersToServiceRouteHeaderModifier rule.filters).Mergeable
          (httpRouteFiltersToServiceRouteHeaderModifier service.filters) name)) ∧
    (2 ≤ rule.services.length → ∀ r ∈ ruleRoutes route idx rule,
      r.destination.requestHeaders = httpRouteFiltersToServiceRouteHeaderModifier rule.filters ∧
      ∀ split ∈ splits rule.services, ∃ service ∈ rule.services,
        split.requestHeaders = httpRouteFiltersToServiceRouteHeaderModifier service.filters) := by
  constructor
  · intro service hservice r hr
    refine ⟨ruleRoutes_subset hrule hr, ?_⟩
    have hmerged : r.destination.requestHeaders =
        (httpRouteFiltersToServiceRouteHeaderModifier rule.filters).merge
          (httpRouteFiltersToServiceRouteHeaderModifier service.filters) := by
      rw [requestHeaders_of_mem_ruleRoutes hr, ruleDestination, hservice]
    rw [hmerged]
    constructor
    · -- a request without headers is enough to tell the two apart
      intro h name
      exact HTTPHeaderModifiers.apply_merge_iff.mp (congrFun (h fun _ => []) name)
    · intro h headers
      funext name
      exact HTTPHeaderModifiers.apply_merge_iff.mpr (h name)
  · intro hlen r hr
    constructor
    · rw [requestHeaders_of_mem_ruleRoutes hr, ruleDestination]
      split
      · rename_i service hservice
        simp [hservice] at hlen
      · rfl
    · -- a service without weight has no split
      intro split hsplit
      obtain ⟨service, hservice, hsplit⟩ := List.mem_filterMap.mp hsplit
      refine ⟨service, hservice, ?_⟩
      split_ifs at hsplit
      cases hsplit
      rfl

end Routes

/-! ### Rules that modify the headers their service modifies -/

namespace SampleHeaders

/-- A filter that adds a value to a header. -/
def adds (name value : String) : HTTPFilter :=
  .header ⟨∅, (∅ : GoMap String String).insert name value, []⟩

def sets (name value : String) : HTTPFilter :=
  .header ⟨(∅ : GoMap String String).insert name value, ∅, []⟩

def removes (name : String) : HTTPFilter := .header ⟨∅, ∅, [name]⟩

/-- A route with one rule and one service, each with one filter. -/
def rule (onRule onService : HTTPFilter) : HTTPRouteRule where
  matches_ := []
  filters := [onRule]
  services := [⟨⟨"", "web"⟩, 1, [onService]⟩]

def route (onRule onService : HTTPFilter) : HTTPRoute where
  meta_ := ∅
  name := "route"
  namespace_ := ""
  hostnames := ["*"]
  rules := [rule onRule onService]

/-- The modifier of a filter. -/
def modifier (filter : HTTPFilter) : HTTPHeaderModifiers :=
  httpRouteFiltersToServiceRouteHeaderModifier [filter]

end SampleHeaders

open SampleHeaders

/-- Different headers may be modified by the rule and by its service. -/
theorem differentHeaders_merged :
    ∃ r ∈ (httpRouteDiscoveryChain (route (adds "X-Rule" "a") (adds "X-Service" "b"))).1.routes,
      ∀ headers, r.destination.requestHeaders.apply headers =
        (modifier (adds "X-Service" "b")).apply ((modifier (adds "X-Rule" "a")).apply headers) := by
  have hrule : (route (adds "X-Rule" "a") (adds "X-Service" "b")).rules[0]? =
    some (rule (adds "X-Rule" "a") (adds "X-Service" "b")) := rfl
  obtain ⟨hmem, hiff⟩ := (singleService_modifier_iff hrule).1 _ rfl _ (List.mem_singleton.mpr rfl)
  refine ⟨_, hmem, hiff.mpr fun name => ?_⟩
  have hadd : ∀ header value, modifier (adds header value) =
      { add := (∅ : GoMap String String).insert header value } := fun _ _ => rfl
  change (modifier (adds "X-Rule" "a")).Mergeable (modifier (adds "X-Service" "b")) name
  rw [hadd, hadd, HTTPHeaderModifiers.Mergeable, if_neg Finmap.notMem_empty,
    if_neg List.not_mem_nil, Finmap.mem_insert, Finmap.mem_insert]
  rintro ⟨rfl | hname, hname' | hname'⟩
  · exact absurd hname' (by decide)
  all_goals exact Finmap.notMem_empty (by assumption)

/-- **What the rule adds or sets is lost or kept by the merge**: of two values for
one header only that of the service is added, and a header that the rule sets and
the service removes stays set. -/
theorem mergedModifier_differs :
    (∃ r ∈ (httpRouteDiscoveryChain (route (adds "X" "a") (adds "X" "b"))).1.routes,
      r.destination.requestHeaders.apply (fun _ => []) "X" = ["b"] ∧
      (modifier (adds "X" "b")).apply ((modifier (adds "X" "a")).apply fun _ => []) "X" =
        ["a", "b"]) ∧
    ∃ r ∈ (httpRouteDiscoveryChain (route (sets "X" "a") (removes "X"))).1.routes,
      r.destination.requestHeaders.apply (fun _ => []) "X" = ["a"] ∧
      (modifier (removes "X")).apply ((modifier (sets "X" "a")).apply fun _ => []) "X" = [] :=
  ⟨⟨_, List.mem_singleton.mpr rfl, rfl, rfl⟩, _, List.mem_singleton.mpr rfl, rfl, rfl⟩

end Consul
