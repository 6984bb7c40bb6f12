/-
The rule a request meets.

The rules of all routes for a hostname are flattened to one rule per match, sorted
by preference and translated to the routes of one router, which Consul tries in
order.  What a request meets in the end is the preferred one of the rules whose
match accepts it, and among equally preferred ones the first.

* `compares_compareHTTPRules` — the comparison goes by a key;
* `lookup_consolidator` — the rules collected for a hostname;
* `router_routes` — the routes of a router, rule by rule;
* `firstMatch_consolidated` — the route a request meets.
-/
import ConsulApiGateway.DiscoveryChain
import ConsulApiGateway.StableSort
import Mathlib.Data.Prod.Lex
import Mathlib.Order.OrderDual

namespace Consul

open Core

/-! ### Preference -/

/-- What rules are compared by; the greater the length of the path and the numbers
of headers and query parameters, the earlier a rule comes. -/
def preference (m : HTTPMatch) : (ℕ ×ₗ ℕ ×ₗ ℕ)ᵒᵈ :=
  OrderDual.toDual (toLex (m.path.value.utf8ByteSize, toLex (m.headers.length, m.query.length)))

theorem compareHTTPRules_iff (a b : HTTPMatch) :
    compareHTTPRules a b = true ↔ preference a < preference b := by
  unfold compareHTTPRules preference
  rw [OrderDual.toDual_lt_toDual, Prod.Lex.toLex_lt_toLex, Prod.Lex.toLex_lt_toLex]
  split_ifs with hpath hheaders
  · simp [Ne.symm hpath]
  · simp only [ne_eq, not_not] at hpath
    simp [hpath, Ne.symm hheaders]
  · simp only [ne_eq, not_not] at hpath hheaders
    simp [hpath, hheaders]

/-- Rules of a hostname in the order of their preference. -/
abbrev byPreference (a b : HostnameMatch) : Bool := compareHTTPRules a.match_ b.match_

theorem compares_compareHTTPRules :
    GoStd.Compares byPreference fun m => preference m.match_ :=
  fun a b => compareHTTPRules_iff a.match_ b.match_

/-! ### The rules that are collected -/

/-- All pairs of a rule and a match of the HTTP routes that list a hostname, in the
order of the routes. -/
def candidates (routes : List ResolvedRoute) (h : String) : List HostnameMatch :=
  routes.flatMap fun
    | .http route => if h ∈ route.hostnames then route.rules.flatMap ruleMatches else []
    | .tcp _ => []

/-- What a route adds to the rules of a hostname.  A hostname that it lists more than
once gets its rules each time. -/
def addedRules (h : String) : ResolvedRoute → List HostnameMatch
  | .http route =>
    (List.replicate (route.hostnames.count h) (route.rules.flatMap ruleMatches)).flatten
  | .tcp _ => []

theorem lookup_add (f : RouteConsolidator) (route : HTTPRoute) (h : String) :
    ((f.add route).lookup h).getD [] = (f.lookup h).getD [] ++ addedRules h (.http route) := by
  rw [RouteConsolidator.add, addedRules]
  induction route.hostnames generalizing f with
  | nil => simp
  | cons host hosts ih =>
    rw [List.foldl_cons, ih, GoMap.lookup_insert_ite]
    by_cases heq : h = host
    · subst heq
      simp [List.count_cons_self, List.replicate_succ]
    · rw [if_neg heq, List.count_cons_of_ne (Ne.symm heq)]

theorem lookup_consolidator (routes : List ResolvedRoute) (h : String) :
    ((consolidator routes).lookup h).getD [] = routes.flatMap (addedRules h) := by
  suffices hsuff : ∀ f : RouteConsolidator, ((routes.foldl (fun f route => match route with
      | .http route => f.add route
      | .tcp _ => f) f).lookup h).getD [] =
        (f.lookup h).getD [] ++ routes.flatMap (addedRules h) by
    exact (hsuff ∅).trans (List.nil_append _)
  induction routes with
  | nil => simp
  | cons route routes ih =>
    intro f
    rw [List.foldl_cons, ih]
    cases route with
    | http route => rw [lookup_add, List.flatMap_cons, List.append_assoc]
    | tcp route => simp [addedRules]

/-- A search among the rules that are collected finds what it finds among the
candidates. -/
theorem firstLeast_collected (routes : List ResolvedRoute) (h : String)
    (p : HostnameMatch → Bool) :
    GoStd.firstLeast byPreference p (((consolidator routes).lookup h).getD []) =
      GoStd.firstLeast byPreference p (candidates routes h) := by
  have hless := compares_compareHTTPRules
  rw [lookup_consolidator, candidates]
  induction routes with
  | nil => rfl
  | cons route routes ih =>
    rw [List.flatMap_cons, List.flatMap_cons, GoStd.firstLeast_append hless,
      GoStd.firstLeast_append hless, ih]
    cases route with
    | tcp route => rfl
    | http route =>
      by_cases hmem : h ∈ route.hostnames
      · have hcount : route.hostnames.count h ≠ 0 := Nat.ne_of_gt (List.count_pos_iff.2 hmem)
        simp only [addedRules, hmem, if_true]
        rw [GoStd.firstLeast_replicate hless hcount]
      · simp only [addedRules, hmem, if_false, List.count_eq_zero.2 hmem, List.replicate_zero,
          List.flatten_nil]

/-! ### The routes of a router -/

/-- The rule that is made from a match, with the filters and services of its own
rule. -/
def hostnameRule (m : HostnameMatch) : HTTPRouteRule :=
  { matches_ := [m.match_], filters := m.filters, services := m.services }

/-- The only route such a rule leads to. -/
def hostnameRoute (route : HTTPRoute) (idx : ℕ) (m : HostnameMatch) : ServiceRoute where
  match_ := some (httpRouteMatchToServiceRouteHTTPMatch m.match_)
  destination :=
    { namespace_ := (ruleDestination route idx (hostnameRule m)).1.consulNamespace
      prefixRewrite := httpRouteFiltersToDestinationPrefixRewrite m.filters
      requestHeaders := (ruleDestination route idx (hostnameRule m)).2
      service := (ruleDestination route idx (hostnameRule m)).1.service }

theorem ruleRoutes_hostnameRule (route : HTTPRoute) (idx : ℕ) (m : HostnameMatch) :
    ruleRoutes route idx (hostnameRule m) = [hostnameRoute route idx m] := rfl

/-- The rules of a hostname in the order in which they are tried. -/
abbrev sortedRules (rules : List HostnameMatch) : List HostnameMatch :=
  GoStd.sliceStable byPreference rules

theorem consolidatedRoute_rules (gateway : ResolvedGateway) (h : String)
    (rules : List HostnameMatch) :
    (consolidatedRoute gateway h rules).rules = (sortedRules rules).map hostnameRule := rfl

theorem flatMap_ruleRoutes (route : HTTPRoute) (ms : List HostnameMatch) (n : ℕ) :
    (((ms.map hostnameRule).zipIdx n).flatMap fun p => ruleRoutes route p.2 p.1) =
      (ms.zipIdx n).map fun p => hostnameRoute route p.2 p.1 := by
  induction ms generalizing n with
  | nil => rfl
  | cons m ms ih =>
    rw [List.map_cons, List.zipIdx_cons, List.zipIdx_cons, List.flatMap_cons, ih,
      ruleRoutes_hostnameRule]
    rfl

/-- The router of a hostname has one route for each of its rules, in their order. -/
theorem router_routes (gateway : ResolvedGateway) (h : String) (rules : List HostnameMatch)
    (i : ℕ) :
    (httpRouteDiscoveryChain (consolidatedRoute gateway h rules)).1.routes[i]? =
      (sortedRules rules)[i]?.map (hostnameRoute (consolidatedRoute gateway h rules) i) := by
  rw [httpRouteDiscoveryChain, consolidatedRoute_rules, flatMap_ruleRoutes, List.getElem?_map,
    List.getElem?_zipIdx]
  cases (sortedRules rules)[i]? <;> simp

/-! ### The splitters of a router -/

/-- The virtual service of the rule with index `i` of a router. -/
def virtualService (router : String) (i : ℕ) : String := router ++ "-" ++ toString i

theorem virtualService_index {router : String} {i j : ℕ}
    (h : virtualService router i = virtualService router j) : i = j := by
  have hlist := congrArg String.toList h
  simp only [virtualService, String.toList_append, List.append_cancel_left_eq] at hlist
  exact GoStd.decimal_inj hlist

theorem ruleDestination_virtual {route : HTTPRoute} {idx : ℕ} {rule : HTTPRouteRule}
    (h : rule.services.length ≠ 1) :
    (ruleDestination route idx rule).1 = ⟨route.namespace_, virtualService route.name idx⟩ := by
  unfold ruleDestination
  split
  · simp_all
  · rfl

theorem ruleSplitter_eq_some {route : HTTPRoute} {idx : ℕ} {rule : HTTPRouteRule}
    {split : ServiceSplitterConfigEntry} (h : ruleSplitter route idx rule = some split) :
    split.name = virtualService route.name idx ∧ split.splits = splits rule.services := by
  unfold ruleSplitter at h
  split_ifs at h with hone
  cases h
  exact ⟨by rw [ruleDestination_virtual hone], rfl⟩

theorem ruleSplitter_namespace {route : HTTPRoute} {idx : ℕ} {rule : HTTPRouteRule}
    {split : ServiceSplitterConfigEntry} (h : ruleSplitter route idx rule = some split) :
    split.namespace_ = route.namespace_ := by
  unfold ruleSplitter at h
  split_ifs at h with hone
  cases h
  exact congrArg ResolvedService.consulNamespace (ruleDestination_virtual hone)

/-- A rule with a service that has weight is split, unless it has only one. -/
theorem exists_ruleSplitter {route : HTTPRoute} {idx : ℕ} {rule : HTTPRouteRule}
    (hmany : rule.services.length ≠ 1) {service : HTTPService} (hmem : service ∈ rule.services)
    (hweight : service.weight ≠ 0) : ∃ split, ruleSplitter route idx rule = some split := by
  have hpos : 0 < (splits rule.services).length := by
    rw [List.length_pos_iff, Ne, splits, List.filterMap_eq_nil_iff]
    intro hnone
    have hsplit := hnone service hmem
    rw [if_neg hweight] at hsplit
    cases hsplit
  exact ⟨_, by rw [ruleSplitter, if_neg hmany, if_pos hpos]⟩

theorem mem_httpSplitters {route : HTTPRoute} {split : ServiceSplitterConfigEntry} :
    split ∈ (httpRouteDiscoveryChain route).2 ↔
      ∃ (i : ℕ) (rule : _), route.rules[i]? = some rule ∧
        ruleSplitter route i rule = some split := by
  rw [httpRouteDiscoveryChain]
  exact List.mem_filterMap_zipIdx

/-- What is called like the virtual service of a rule is the splitter of that rule. -/
theorem ruleSplitter_of_name {route : HTTPRoute} {idx : ℕ} {rule : HTTPRouteRule}
    (hrule : route.rules[idx]? = some rule) {splitter : ServiceSplitterConfigEntry}
    (hmem : splitter ∈ (httpRouteDiscoveryChain route).2)
    (hname : splitter.name = virtualService route.name idx) :
    ruleSplitter route idx rule = some splitter := by
  obtain ⟨i, rule', hi, hs⟩ := mem_httpSplitters.mp hmem
  rw [(ruleSplitter_eq_some hs).1] at hname
  cases virtualService_index hname
  cases hrule.symm.trans hi
  exact hs

/-! ### What the entries of a route say -/

/-- The split of a service that has weight, its share in per cent of the total. -/
structure SplitOf (total : ℤ) (backend : HTTPService) (split : ServiceSplit) : Prop where
  service : split.service = backend.service.service
  namespace_ : split.namespace_ = backend.service.consulNamespace
  weight : split.weight = (backend.weight : ℚ) / (total : ℚ) * 100
  requestHeaders : split.requestHeaders =
    httpRouteFiltersToServiceRouteHeaderModifier backend.filters

theorem splits_splitOf (services : List HTTPService) :
    List.Forall₂ (SplitOf (totalWeight services)) (services.filter (·.weight ≠ 0))
      (splits services) := by
  unfold splits
  generalize totalWeight services = total
  induction services with
  | nil => exact .nil
  | cons service services ih =>
    by_cases hw : service.weight = 0
    · simp only [List.filterMap_cons, if_pos hw]
      rwa [List.filter_cons_of_neg (by simpa using hw)]
    · simp only [List.filterMap_cons, if_neg hw]
      rw [List.filter_cons_of_pos (by simpa using hw)]
      exact .cons ⟨rfl, rfl, rfl, rfl⟩ ih

/-- The route `r` of a router carries the rule with index `i` of the HTTP route: its
match, its filters and its services. -/
structure Carries (route : HTTPRoute) (i : ℕ) (rule : HTTPRouteRule) (r : ServiceRoute) :
    Prop where
  match_ : ∃ m, rule.matches_ = [m] ∧ r.match_ = some (httpRouteMatchToServiceRouteHTTPMatch m)
  prefixRewrite : r.destination.prefixRewrite =
    httpRouteFiltersToDestinationPrefixRewrite rule.filters
  /-- The only service of a rule is the destination, and modifies the headers too. -/
  single : ∀ {service}, rule.services = [service] →
    r.destination.service = service.service.service ∧
      r.destination.namespace_ = service.service.consulNamespace ∧
      r.destination.requestHeaders =
        (httpRouteFiltersToServiceRouteHeaderModifier rule.filters).merge
          (httpRouteFiltersToServiceRouteHeaderModifier service.filters)
  virtual : rule.services.length ≠ 1 →
    r.destination.service = route.name ++ "-" ++ toString i ∧
      r.destination.namespace_ = route.namespace_ ∧
      r.destination.requestHeaders = httpRouteFiltersToServiceRouteHeaderModifier rule.filters
  /-- The virtual service of a rule is split among its services that have weight. -/
  split : rule.services.length ≠ 1 → (∃ service ∈ rule.services, service.weight ≠ 0) →
    ∃ splitter ∈ (httpRouteDiscoveryChain route).2,
      splitter.name = r.destination.service ∧ splitter.namespace_ = r.destination.namespace_ ∧
      splitter.meta_ = route.meta_ ∧
      List.Forall₂ (SplitOf (totalWeight rule.services))
        (rule.services.filter (·.weight ≠ 0)) splitter.splits ∧
      ∀ splitter' ∈ (httpRouteDiscoveryChain route).2,
        splitter'.name = r.destination.service → splitter' = splitter
  unsplit : rule.services.length ≠ 1 → (∀ service ∈ rule.services, service.weight = 0) →
    ∀ splitter ∈ (httpRouteDiscoveryChain route).2, splitter.name ≠ r.destination.service

/-- The router of a route has one route for each rule, in their order, that carries
it; and there are no splitters but those of its rules. -/
structure Translated (route : HTTPRoute) : Prop where
  name : (httpRouteDiscoveryChain route).1.name = route.name
  namespace_ : (httpRouteDiscoveryChain route).1.namespace_ = route.namespace_
  length : (httpRouteDiscoveryChain route).1.routes.length = route.rules.length
  routes : ∀ {i : ℕ} {rule}, route.rules[i]? = some rule →
    ∃ r, (httpRouteDiscoveryChain route).1.routes[i]? = some r ∧ Carries route i rule r
  splitters : ∀ splitter ∈ (httpRouteDiscoveryChain route).2, ∃ (i : ℕ) (rule : _),
    route.rules[i]? = some rule ∧ rule.services.length ≠ 1 ∧
      splitter.name = route.name ++ "-" ++ toString i

theorem carries_hostnameRoute {route : HTTPRoute} {i : ℕ} {m : HostnameMatch}
    (hrule : route.rules[i]? = some (hostnameRule m)) :
    Carries route i (hostnameRule m) (hostnameRoute route i m) where
  match_ := ⟨m.match_, rfl, rfl⟩
  prefixRewrite := rfl
  single {service} hone := by
    have hservices : m.services = [service] := hone
    simp [hostnameRoute, ruleDestination, hostnameRule, hservices]
  virtual hmany := by
    have hdest : ruleDestination route i (hostnameRule m) =
        (⟨route.namespace_, route.name ++ "-" ++ toString i⟩,
          httpRouteFiltersToServiceRouteHeaderModifier m.filters) := by
      unfold ruleDestination
      split
      · next hone => exact absurd (congrArg List.length hone) hmany
      · rfl
    rw [hostnameRoute, hdest]
    exact ⟨rfl, rfl, rfl⟩
  split hmany hweight := by
    obtain ⟨service, hmem, hweight⟩ := hweight
    obtain ⟨splitter, hs⟩ : ∃ splitter, ruleSplitter route i (hostnameRule m) = some splitter :=
      exists_ruleSplitter hmany hmem hweight
    have hdest : (ruleDestination route i (hostnameRule m)).1 =
        ⟨route.namespace_, virtualService route.name i⟩ := ruleDestination_virtual hmany
    obtain ⟨hname, hsplits⟩ := ruleSplitter_eq_some hs
    refine ⟨splitter, mem_httpSplitters.mpr ⟨i, _, hrule, hs⟩, ?_, ?_, ?_, ?_, ?_⟩
    · rw [hname, hostnameRoute, hdest]
    · rw [ruleSplitter_namespace hs, hostnameRoute, hdest]
    · unfold ruleSplitter at hs
      split_ifs at hs
      cases hs
      rfl
    · rw [hsplits]
      exact splits_splitOf _
    · intro splitter' hmem' hname'
      rw [hostnameRoute, hdest] at hname'
      exact Option.some.inj ((ruleSplitter_of_name hrule hmem' hname').symm.trans hs)
  unsplit hmany hzero := by
    intro splitter hmem hname
    rw [hostnameRoute, ruleDestination_virtual hmany] at hname
    have hs := ruleSplitter_of_name hrule hmem hname
    -- without weights there is nothing to split
    have hnil : splits (hostnameRule m).services = [] := by
      rw [splits, List.filterMap_eq_nil_iff]
      exact fun service hservice => if_pos (hzero service hservice)
    rw [ruleSplitter, if_neg hmany, hnil] at hs
    cases hs

theorem translated_consolidatedRoute (gateway : ResolvedGateway) (h : String)
    (rules : List HostnameMatch) : Translated (consolidatedRoute gateway h rules) where
  name := rfl
  namespace_ := rfl
  length := by
    have hlength : ∀ {α β : Type} {f : ℕ → α → β} {l : List α} {l' : List β},
        (∀ i : ℕ, l'[i]? = l[i]?.map (f i)) → l'.length = l.length := by
      intro α β f l l' hget
      refine Nat.le_antisymm ?_ ?_
      · rw [← List.getElem?_eq_none_iff, hget, List.getElem?_eq_none le_rfl]
        rfl
      · rw [← List.getElem?_eq_none_iff]
        have hnone := hget l'.length
        rw [List.getElem?_eq_none le_rfl] at hnone
        simpa using hnone.symm
    rw [hlength (router_routes gateway h rules), consolidatedRoute_rules, List.length_map]
  routes {i rule} hrule := by
    have hm := hrule
    rw [consolidatedRoute_rules, List.getElem?_map, Option.map_eq_some_iff] at hm
    obtain ⟨m, hm, rfl⟩ := hm
    exact ⟨_, by rw [router_routes, hm]; rfl, carries_hostnameRoute hrule⟩
  splitters splitter hmem := by
    obtain ⟨i, rule, hrule, hs⟩ := mem_httpSplitters.mp hmem
    refine ⟨i, rule, hrule, fun hone => ?_, (ruleSplitter_eq_some hs).1⟩
    rw [ruleSplitter, if_pos hone] at hs
    cases hs

/-! ### The route a request meets -/

/-- The rule with index `i` is the first one with a match that accepts the
request. -/
def FirstAccepted (accepts : HTTPMatch → Bool) (rules : List HTTPRouteRule) (i : ℕ)
    (rule : HTTPRouteRule) : Prop :=
  rules[i]? = some rule ∧ rule.matches_.any accepts = true ∧
    ∀ j < i, ∀ rule', rules[j]? = some rule' → ¬ rule'.matches_.any accepts = true

theorem firstAccepted_hostnameRules {accepts : HTTPMatch → Bool} {ms : List HostnameMatch} {i : ℕ}
    {rule : HTTPRouteRule} (h : FirstAccepted accepts (ms.map hostnameRule) i rule) :
    ∃ m, rule = hostnameRule m ∧ ms.find? (fun m => accepts m.match_) = some m := by
  obtain ⟨hrule, haccepts, hbefore⟩ := h
  rw [List.getElem?_map, Option.map_eq_some_iff] at hrule
  obtain ⟨m, hm, rfl⟩ := hrule
  obtain ⟨hi, hget⟩ := List.getElem?_eq_some_iff.1 hm
  refine ⟨m, rfl, List.find?_eq_some_iff_getElem.2 ⟨by simpa [hostnameRule] using haccepts, i, hi,
    hget, fun j hj => ?_⟩⟩
  have hj' := hbefore j hj (hostnameRule ms[j]) (by
    rw [List.getElem?_map, List.getElem?_eq_getElem (hj.trans hi)]
    rfl)
  simpa [hostnameRule] using hj'

theorem exists_firstAccepted {accepts : HTTPMatch → Bool} {ms : List HostnameMatch} :
    (∃ i rule, FirstAccepted accepts (ms.map hostnameRule) i rule) ↔
      ∃ m ∈ ms, accepts m.match_ = true := by
  constructor
  · rintro ⟨i, rule, hfirst⟩
    obtain ⟨m, -, hfind⟩ := firstAccepted_hostnameRules hfirst
    exact ⟨m, List.mem_of_find?_eq_some hfind, by simpa using List.find?_some hfind⟩
  · intro hexists
    have hsome : (ms.find? fun m => accepts m.match_).isSome := by simpa using hexists
    obtain ⟨m, hfind⟩ := Option.isSome_iff_exists.1 hsome
    obtain ⟨haccepts, i, hi, hget, hbefore⟩ := List.find?_eq_some_iff_getElem.1 hfind
    refine ⟨i, hostnameRule m, ?_, by simpa [hostnameRule] using haccepts, fun j hj rule' hj' => ?_⟩
    · rw [List.getElem?_map, List.getElem?_eq_getElem hi, hget]
      rfl
    · rw [List.getElem?_map, List.getElem?_eq_getElem (hj.trans hi)] at hj'
      cases hj'
      simpa [hostnameRule] using hbefore j hj

/-- A request meets the candidate it should meet: the first of those that are
preferred among the ones that accept it, with its own filters and services. -/
structure MeetsPreferred (accepts : HTTPMatch → Bool) (cs : List HostnameMatch)
    (route : HTTPRoute) : Prop where
  first : ∀ {i rule}, FirstAccepted accepts route.rules i rule →
    ∃ before c after, cs = before ++ c :: after ∧
      rule = { matches_ := [c.match_], filters := c.filters, services := c.services } ∧
      accepts c.match_ = true ∧
      (∀ c' ∈ cs, accepts c'.match_ = true → ¬ compareHTTPRules c'.match_ c.match_ = true) ∧
      ∀ c' ∈ before, accepts c'.match_ = true → compareHTTPRules c.match_ c'.match_ = true
  found : (∃ c ∈ cs, accepts c.match_ = true) → ∃ i rule, FirstAccepted accepts route.rules i rule
  rejected : (∀ c ∈ cs, ¬ accepts c.match_ = true) →
    ∀ rule ∈ route.rules, ¬ rule.matches_.any accepts = true

theorem meetsPreferred_collected (gateway : ResolvedGateway) (routes : List ResolvedRoute)
    (h : String) (accepts : HTTPMatch → Bool) : MeetsPreferred accepts (candidates routes h)
      (consolidatedRoute gateway h (((consolidator routes).lookup h).getD [])) := by
  have hless := compares_compareHTTPRules
  have hfind := (GoStd.find?_sliceStable (p := fun m => accepts m.match_) hless
    (((consolidator routes).lookup h).getD [])).trans (firstLeast_collected routes h _)
  refine ⟨fun {i rule} hfirst => ?_, fun hexists => ?_, fun hnone => ?_⟩
  · rw [consolidatedRoute_rules] at hfirst
    obtain ⟨c, rfl, hc⟩ := firstAccepted_hostnameRules hfirst
    obtain ⟨hp, before, after, heq, hbefore, hafter⟩ :=
      GoStd.firstLeast_eq_some hless (hfind.symm.trans hc)
    refine ⟨before, c, after, heq, rfl, hp, fun c' hc' haccepts => ?_, hbefore⟩
    rw [heq] at hc'
    rcases List.mem_append.1 hc' with hc' | hc'
    · -- what comes before is strictly less preferred
      have hlt := (hless c c').1 (hbefore c' hc' haccepts)
      exact fun hcontra => lt_asymm hlt ((hless c' c).1 hcontra)
    · rcases List.mem_cons.1 hc' with rfl | hc'
      · exact fun hcontra => lt_irrefl _ ((hless c' c').1 hcontra)
      · exact hafter c' hc' haccepts
  · rw [consolidatedRoute_rules, exists_firstAccepted]
    have hsome : GoStd.firstLeast byPreference (fun m => accepts m.match_)
        (candidates routes h) ≠ none := by
      rw [Ne, GoStd.firstLeast_eq_none]
      push Not
      exact hexists
    obtain ⟨m, hm⟩ := Option.ne_none_iff_exists'.1 hsome
    have hm := hfind.trans hm
    exact ⟨m, List.mem_of_find?_eq_some hm, by simpa using List.find?_some hm⟩
  · rw [consolidatedRoute_rules]
    have hnone := hfind.trans (GoStd.firstLeast_eq_none.2 hnone)
    intro rule hrule
    obtain ⟨m, hm, rfl⟩ := List.mem_map.1 hrule
    simpa [hostnameRule] using List.find?_eq_none.1 hnone m hm

namespace SampleMatches

/-- A service with a weight. -/
def service (name : String) (weight : ℤ) : HTTPService := ⟨⟨"", name⟩, weight, []⟩

/-- The rule of the route for a path. -/
def pathRule (path : String) (services : List HTTPService) : HTTPRouteRule :=
  ⟨[{ path := ⟨.pathPrefix, path⟩ }], [], services⟩

/-- The rule for the longer path comes last. -/
def route : HTTPRoute where
  meta_ := ∅
  name := "route"
  namespace_ := ""
  hostnames := ["example.com"]
  rules := [pathRule "/" [service "web" 1],
    pathRule "/api" [service "api" 1, service "canary" 3, service "old" 0]]

def gateway : ResolvedGateway := ⟨⟨"", "gateway"⟩, ∅, [], none⟩

def order : List (String × List HostnameMatch) :=
  [("example.com", route.rules.flatMap ruleMatches)]

theorem order_ranges : GoMap.Ranges (consolidator [.http route]) order :=
  GoMap.ranges_singleton _ _

/-- The route of the hostname. -/
def consolidated : HTTPRoute :=
  consolidatedRoute gateway "example.com" (route.rules.flatMap ruleMatches)

end SampleMatches

open SampleMatches

end Consul
