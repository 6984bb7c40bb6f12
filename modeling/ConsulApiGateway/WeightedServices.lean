/-
Weights of the services of a rule, followed through the entries of its route.

A router route leads to a service, or to a virtual service that a splitter
splits.  Services without weight get no split; but the only service of a rule is
the destination itself and its weight is not looked at.

* `splitterFor_virtual` — the splitter of a rule is found under its own name;
* `mem_receivers` — the backends that the routes of a rule lead to;
* `receivers_iff` — they are the services with weight exactly in rules of one
  service with weight, or of any other number of services, as long as no backend
  is called like a virtual service;
* `unweighted_receives` — the only service of a rule receives without weight.
-/
import ConsulApiGateway.ChainClosure

namespace Consul

open Core

/-! ### Following the entries -/

/-- The splitter of a service. -/
def splitterFor (splitters : List ServiceSplitterConfigEntry) (service : ResolvedService) :
    Option ServiceSplitterConfigEntry :=
  splitters.find? fun splitter => (⟨splitter.namespace_, splitter.name⟩ : ResolvedService) = service

/-- The service a split leads to. -/
def ServiceSplit.target (split : ServiceSplit) : ResolvedService :=
  ⟨split.namespace_, split.service⟩

/-- The services that requests to a service end up at. -/
def leadsTo (splitters : List ServiceSplitterConfigEntry) (service : ResolvedService) :
    List ResolvedService :=
  match splitterFor splitters service with
  | some splitter => splitter.splits.map ServiceSplit.target
  | none => [service]

/-- The services of the rules of a route. -/
def backends (route : HTTPRoute) : List ResolvedService :=
  route.rules.flatMap fun rule => rule.services.map HTTPService.service

/-- The backends that the router routes of a rule lead to. -/
def receivers (route : HTTPRoute) (idx : ℕ) (rule : HTTPRouteRule) : List ResolvedService :=
  let lead := (ruleRoutes route idx rule).flatMap fun r =>
    leadsTo (httpRouteDiscoveryChain route).2 ⟨r.destination.namespace_, r.destination.service⟩
  lead.filter (· ∈ backends route)

/-- The services of a rule that have weight. -/
def weighted (rule : HTTPRouteRule) : List ResolvedService :=
  (rule.services.filter (·.weight ≠ 0)).map HTTPService.service

/-! ### The routes of a rule -/

/-- The routes of a rule lead to its destination. -/
theorem ruleRoutes_eq (route : HTTPRoute) (idx : ℕ) (rule : HTTPRouteRule) :
    ruleRoutes route idx rule ≠ [] ∧ ∀ r ∈ ruleRoutes route idx rule,
      (⟨r.destination.namespace_, r.destination.service⟩ : ResolvedService) =
        (ruleDestination route idx rule).1 := by
  unfold ruleRoutes
  cases rule.matches_ with
  | nil => simp
  | cons m ms => simp

theorem mem_receivers {route : HTTPRoute} {idx : ℕ} {rule : HTTPRouteRule} {s : ResolvedService} :
    s ∈ receivers route idx rule ↔
      s ∈ leadsTo (httpRouteDiscoveryChain route).2 (ruleDestination route idx rule).1 ∧
        s ∈ backends route := by
  obtain ⟨hne, hdest⟩ := ruleRoutes_eq route idx rule
  rw [receivers, List.mem_filter, decide_eq_true_eq, List.mem_flatMap]
  refine and_congr_left fun _ => ⟨?_, fun h => ?_⟩
  · rintro ⟨r, hr, h⟩
    rwa [hdest r hr] at h
  · obtain ⟨r, hr⟩ := List.exists_mem_of_ne_nil _ hne
    exact ⟨r, hr, by rwa [hdest r hr]⟩

/-! ### The splitter of a rule -/

/-- The virtual services of a route have different names, so what is found under
the name of a rule is its own splitter. -/
theorem splitterFor_virtual {route : HTTPRoute} {idx : ℕ} {rule : HTTPRouteRule}
    (h : route.rules[idx]? = some rule) :
    splitterFor (httpRouteDiscoveryChain route).2
      ⟨route.namespace_, virtualService route.name idx⟩ = ruleSplitter route idx rule := by
  cases hf : splitterFor (httpRouteDiscoveryChain route).2
      ⟨route.namespace_, virtualService route.name idx⟩ with
  | none =>
    cases hs : ruleSplitter route idx rule with
    | none => rfl
    | some splitter =>
      have hnot := List.find?_eq_none.mp hf splitter (mem_httpSplitters.mpr ⟨idx, rule, h, hs⟩)
      simp [ruleSplitter_namespace hs, (ruleSplitter_eq_some hs).1] at hnot
  | some splitter =>
    obtain ⟨i, rule', hi, hs⟩ := mem_httpSplitters.mp (List.mem_of_find?_eq_some hf)
    have hfound := List.find?_some hf
    rw [decide_eq_true_eq, (ruleSplitter_eq_some hs).1] at hfound
    cases virtualService_index (congrArg ResolvedService.service hfound)
    cases h.symm.trans hi
    exact hs.symm

/-- The splits of a rule lead to its services that have weight. -/
theorem map_target_splits (rule : HTTPRouteRule) :
    (splits rule.services).map ServiceSplit.target = weighted rule := by
  rw [splits, List.map_filterMap, weighted, ← List.filterMap_eq_filter, List.map_filterMap]
  refine List.filterMap_congr fun service _ => ?_
  by_cases hw : service.weight = 0
  · simp [hw, Option.guard]
  · simp [hw, Option.guard, ServiceSplit.target]

theorem weighted_subset_backends {route : HTTPRoute} {idx : ℕ} {rule : HTTPRouteRule}
    (h : route.rules[idx]? = some rule) {s : ResolvedService} (hs : s ∈ weighted rule) :
    s ∈ backends route := by
  obtain ⟨service, hmem, rfl⟩ := List.mem_map.mp hs
  exact List.mem_flatMap.mpr ⟨rule, List.mem_of_getElem? h,
    List.mem_map_of_mem (List.mem_filter.mp hmem).1⟩

/-- The splits of a splitter of the route lead to backends, and there are some. -/
theorem splitter_targets {route : HTTPRoute} {splitter : ServiceSplitterConfigEntry}
    (h : splitter ∈ (httpRouteDiscoveryChain route).2) :
    splitter.splits ≠ [] ∧ ∀ split ∈ splitter.splits, split.target ∈ backends route := by
  obtain ⟨i, rule, hi, hs⟩ := mem_httpSplitters.mp h
  have hsplits := (ruleSplitter_eq_some hs).2
  constructor
  · unfold ruleSplitter at hs
    split_ifs at hs with hone hpos
    rw [hsplits]
    exact List.length_pos_iff.mp hpos
  · intro split hmem
    refine weighted_subset_backends hi ?_
    rw [← map_target_splits, ← hsplits]
    exact List.mem_map_of_mem hmem

/-- Requests to a backend end up at backends, and at one at least. -/
theorem leadsTo_backends {route : HTTPRoute} {service : ResolvedService}
    (h : service ∈ backends route) :
    leadsTo (httpRouteDiscoveryChain route).2 service ≠ [] ∧
      ∀ s ∈ leadsTo (httpRouteDiscoveryChain route).2 service, s ∈ backends route := by
  unfold leadsTo
  cases hf : splitterFor (httpRouteDiscoveryChain route).2 service with
  | none => simpa using h
  | some splitter =>
    obtain ⟨hne, htargets⟩ := splitter_targets (List.mem_of_find?_eq_some hf)
    exact ⟨by simpa using hne, List.forall_mem_map.mpr htargets⟩

/-- The rules whose virtual service is called like the service split to it only. -/
def SplitToItself (route : HTTPRoute) (service : ResolvedService) : Prop :=
  ∀ (i : ℕ) (rule : HTTPRouteRule), route.rules[i]? = some rule → rule.services.length ≠ 1 →
    service = ⟨route.namespace_, virtualService route.name i⟩ → ∀ s ∈ weighted rule, s = service

/-- Requests to a service stay there if no rule sends them elsewhere. -/
theorem leadsTo_self_iff {route : HTTPRoute} {service : ResolvedService} :
    (∀ s ∈ leadsTo (httpRouteDiscoveryChain route).2 service, s = service) ↔
      SplitToItself route service := by
  constructor
  · rintro hlead i rule hrule hmany rfl s hs
    -- a rule with a service that has weight is split under the name of the service
    have hpos : 0 < (splits rule.services).length := by
      rw [← List.length_map (f := ServiceSplit.target), map_target_splits]
      exact List.length_pos_of_mem hs
    refine hlead s ?_
    rw [leadsTo, splitterFor_virtual hrule, ruleSplitter, if_neg hmany, if_pos hpos]
    dsimp only
    rwa [map_target_splits]
  · intro hself s hs
    unfold leadsTo at hs
    cases hf : splitterFor (httpRouteDiscoveryChain route).2 service with
    | none => simpa [hf] using hs
    | some splitter =>
      obtain ⟨i, rule, hrule, hsplitter⟩ := mem_httpSplitters.mp (List.mem_of_find?_eq_some hf)
      obtain ⟨hname, hsplits⟩ := ruleSplitter_eq_some hsplitter
      have hfound := List.find?_some hf
      rw [decide_eq_true_eq, hname, ruleSplitter_namespace hsplitter] at hfound
      have hmany : rule.services.length ≠ 1 := by
        intro hone
        rw [ruleSplitter, if_pos hone] at hsplitter
        cases hsplitter
      refine hself i rule hrule hmany hfound.symm s ?_
      simpa [hf, hsplits, map_target_splits] using hs

/-! ### Weights -/

/-- The weights of a rule decide which backends its routes lead to: its only
service has weight, and is not split like a virtual service; and a rule of another
number of services has one with weight, or its virtual service is not a backend. -/
def WeightsDecide (route : HTTPRoute) (idx : ℕ) (rule : HTTPRouteRule) : Prop :=
  match rule.services with
  | [service] => service.weight ≠ 0 ∧ SplitToItself route service.service
  | _ => weighted rule = [] →
      (⟨route.namespace_, virtualService route.name idx⟩ : ResolvedService) ∉ backends route

theorem receivers_iff_single {route : HTTPRoute} {idx : ℕ} {rule : HTTPRouteRule}
    (h : route.rules[idx]? = some rule) {service : HTTPService} (hone : rule.services = [service]) :
    (∀ s, s ∈ receivers route idx rule ↔ s ∈ weighted rule) ↔
      service.weight ≠ 0 ∧ SplitToItself route service.service := by
  have hdest : (ruleDestination route idx rule).1 = service.service := by
    simp [ruleDestination, hone]
  have hself : service.service ∈ backends route :=
    List.mem_flatMap.mpr ⟨rule, List.mem_of_getElem? h, by simp [hone]⟩
  have hweighted : ∀ s, s ∈ weighted rule ↔ service.weight ≠ 0 ∧ s = service.service := by
    intro s
    by_cases hw : service.weight = 0
    · simp [weighted, hone, hw]
    · simp [weighted, hone, hw]
  obtain ⟨hne, hbackends⟩ := leadsTo_backends hself
  obtain ⟨s₀, hs₀⟩ := List.exists_mem_of_ne_nil _ hne
  simp only [mem_receivers, hdest, hweighted, ← leadsTo_self_iff]
  constructor
  · intro hlaw
    have hlead : ∀ s ∈ leadsTo (httpRouteDiscoveryChain route).2 service.service,
        service.weight ≠ 0 ∧ s = service.service := fun s hs => (hlaw s).mp ⟨hs, hbackends s hs⟩
    exact ⟨(hlead s₀ hs₀).1, fun s hs => (hlead s hs).2⟩
  · rintro ⟨hw, hall⟩ s
    constructor
    · rintro ⟨hs, -⟩
      exact ⟨hw, hall s hs⟩
    · rintro ⟨-, rfl⟩
      have hstays := hall s₀ hs₀
      exact ⟨hstays ▸ hs₀, hself⟩

theorem receivers_iff_virtual {route : HTTPRoute} {idx : ℕ} {rule : HTTPRouteRule}
    (h : route.rules[idx]? = some rule) (hmany : rule.services.length ≠ 1) :
    (∀ s, s ∈ receivers route idx rule ↔ s ∈ weighted rule) ↔ (weighted rule = [] →
      (⟨route.namespace_, virtualService route.name idx⟩ : ResolvedService) ∉ backends route) := by
  simp only [mem_receivers, ruleDestination_virtual hmany, leadsTo, splitterFor_virtual h]
  rw [ruleSplitter, if_neg hmany]
  have hlength : (splits rule.services).length = (weighted rule).length := by
    rw [← map_target_splits, List.length_map]
  by_cases hempty : weighted rule = []
  · -- no splitter, so the routes end at the virtual service
    simp [hempty, hlength]
  · have hpos : 0 < (splits rule.services).length :=
      hlength ▸ List.length_pos_iff.mpr hempty
    rw [if_pos hpos]
    refine iff_of_true (fun s => ?_) fun hnil => absurd hnil hempty
    dsimp only
    rw [map_target_splits]
    exact and_iff_left_of_imp (weighted_subset_backends h)

/-- **The backends that the routes of a rule lead to are its services with weight
exactly if the weights decide.**  A rule whose only service has no weight leads
to that service; whatever else fails is a backend that is called like a virtual
service of the route. -/
theorem receivers_iff {route : HTTPRoute} {idx : ℕ} {rule : HTTPRouteRule}
    (h : route.rules[idx]? = some rule) :
    ruleRoutes route idx rule ⊆ (httpRouteDiscoveryChain route).1.routes ∧
      ((∀ s, s ∈ receivers route idx rule ↔ s ∈ weighted rule) ↔ WeightsDecide route idx rule) := by
  refine ⟨ruleRoutes_subset h, ?_⟩
  unfold WeightsDecide
  split
  · rename_i service hone
    exact receivers_iff_single h hone
  · rename_i hnot
    refine receivers_iff_virtual h fun hlen => ?_
    obtain ⟨service, hone⟩ := List.length_eq_one_iff.mp hlen
    exact hnot service hone

namespace SampleWeights

def api (weight : ℤ) : HTTPService := ⟨⟨"default", "api"⟩, weight, []⟩
def canary (weight : ℤ) : HTTPService := ⟨⟨"default", "canary"⟩, weight, []⟩

/-- A rule that matches everything. -/
def rule (services : List HTTPService) : HTTPRouteRule := ⟨[], [], services⟩

/-- A route of such rules. -/
def route (rules : List (List HTTPService)) : HTTPRoute :=
  ⟨∅, "web", "default", ["*"], rules.map rule⟩

/-- A rule of one service, and one of two services of which one has no weight. -/
def canaries : HTTPRoute := route [[api 1], [api 1, canary 0]]

end SampleWeights

open SampleWeights

/-- **The only service of a rule receives all its traffic without weight.** -/
theorem unweighted_receives :
    (route [[api 0]]).rules[0]? = some (rule [api 0]) ∧
      receivers (route [[api 0]]) 0 (rule [api 0]) = [⟨"default", "api"⟩] ∧
      weighted (rule [api 0]) = [] := by
  refine ⟨rfl, ?_, rfl⟩
  decide

/-- The only service of a rule receives with weight; of two services, the one without
weight receives nothing. -/
theorem receivers_iff_canary :
    (∀ s, s ∈ receivers canaries 0 (rule [api 1]) ↔ s ∈ weighted (rule [api 1])) ∧
      (∀ s, s ∈ receivers canaries 1 (rule [api 1, canary 0]) ↔
        s ∈ weighted (rule [api 1, canary 0])) ∧
      weighted (rule [api 1, canary 0]) = [⟨"default", "api"⟩] := by
  have h₀ : canaries.rules[0]? = some (rule [api 1]) := rfl
  have h₁ : canaries.rules[1]? = some (rule [api 1, canary 0]) := rfl
  refine ⟨(receivers_iff h₀).2.mpr ⟨by decide, ?_⟩, (receivers_iff h₁).2.mpr ?_, rfl⟩
  · -- `api` is none of the virtual services `web-0` and `web-1`
    rintro i rule hrule hmany hname
    have hlist := congrArg (fun s => s.service.toList.head?) hname
    simp [api, virtualService, canaries, route] at hlist
  · intro hnil
    cases hnil

end Consul
