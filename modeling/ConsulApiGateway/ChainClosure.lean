/-
What the entries of a discovery chain refer to.

The services of an ingress listener name routers and defaults, the routes of a
router name the backends of a rule or a virtual service that a splitter splits
among them.  Routers, splitters and defaults are collected in three indices for
all listeners, in which a later entry replaces an earlier one of its name; they
still fit together, since whatever replaces a router replaces its splitters as
well, and no other router has splitters of the same names.

* `virtualService_inj` — the names of the virtual services;
* `holds_of_router` — every router has its own splitters and defaults;
* `discoveryChain_closed` — every reference leads to an entry.
-/
import ConsulApiGateway.FirstMatch
import ConsulApiGateway.RouterRules

namespace Consul

open Core

/-! ### Virtual services -/

theorem append_separator_inj {α : Type} {sep : α} {as bs xs ys : List α} (ha : sep ∉ as)
    (hb : sep ∉ bs) (h : as ++ sep :: xs = bs ++ sep :: ys) : as = bs ∧ xs = ys := by
  induction as generalizing bs with
  | nil =>
    cases bs with
    | nil => exact ⟨rfl, (List.cons.inj h).2⟩
    | cons b bs =>
      have hsep : sep = b := (List.cons.inj h).1
      exact absurd (hsep ▸ List.mem_cons_self) hb
  | cons a as ih =>
    cases bs with
    | nil =>
      have hsep : a = sep := (List.cons.inj h).1
      exact absurd (hsep ▸ List.mem_cons_self) ha
    | cons b bs =>
      obtain ⟨rfl, htail⟩ := List.cons.inj h
      rw [List.mem_cons, not_or] at ha hb
      obtain ⟨rfl, hxs⟩ := ih ha.2 hb.2 htail
      exact ⟨rfl, hxs⟩

variable {gateway : ResolvedGateway} {orders : ℕ → List (String × List HostnameMatch)}
  {name : String} {entry : ConfigEntry} {route : HTTPRoute} {h : String}

/-- The names of the virtual services of a gateway tell the routers and the rules
apart: the checksum has no hyphen in it. -/
theorem virtualService_inj {h' : String} {i j : ℕ}
    (heq : virtualService (hostService gateway h).name i =
      virtualService (hostService gateway h').name j) :
    (hostService gateway h).name = (hostService gateway h').name ∧ i = j := by
  have hlist := congrArg String.toList heq
  have hhyphen : "-".toList = ['-'] := rfl
  simp only [virtualService, hostService, hostsKey, GoStd.formatUint, String.toList_append,
    String.toList_ofList, hhyphen, List.append_assoc, List.cons_append,
    List.nil_append, List.append_cancel_left_eq, List.cons.injEq, true_and] at hlist
  obtain ⟨hkey, hindex⟩ := append_separator_inj (GoStd.hyphen_notMem_toDigits 16 _)
    (GoStd.hyphen_notMem_toDigits 16 _) hlist
  refine ⟨hostService_name_eq_iff.2 (congrArg String.ofList hkey), ?_⟩
  exact GoStd.decimal_inj hindex

/-- The splits of a rule name its own services. -/
theorem mem_splits {services : List HTTPService} {split : ServiceSplit}
    (h : split ∈ splits services) :
    ∃ service ∈ services, service.service = ⟨split.namespace_, split.service⟩ := by
  obtain ⟨service, hmem, hsplit⟩ := List.mem_filterMap.1 h
  split_ifs at hsplit
  cases hsplit
  exact ⟨service, hmem, rfl⟩

/-! ### The entries of one route -/

/-- The route of a hostname of a listener, as it is consolidated. -/
abbrev ownRoute (gateway : ResolvedGateway) (l : ResolvedListener) (h : String) : HTTPRoute :=
  consolidatedRoute gateway h (collectedRules l h)

/-- The splitters of a route. -/
def routeSplitters (route : HTTPRoute) : ConfigEntryIndex .serviceSplitter :=
  (httpRouteDiscoveryChain route).2.foldl
    (fun splitters split => splitters.add (.serviceSplitter split)) .new

theorem foldl_addSplitter (splitters : List ServiceSplitterConfigEntry)
    (i : ConfigEntryIndex .serviceSplitter) :
    splitters.foldl (fun splitters split => splitters.add (.serviceSplitter split)) i =
      (splitters.map ConfigEntry.serviceSplitter).foldl ConfigEntryIndex.add i := by
  rw [List.foldl_map]

/-- The splitters of a hostname have different names, so that each is found under
its own. -/
theorem routeSplitters_get {rules : List HostnameMatch} {split : ServiceSplitterConfigEntry}
    (hsplit : split ∈ (httpRouteDiscoveryChain (consolidatedRoute gateway h rules)).2) :
    (routeSplitters (consolidatedRoute gateway h rules)).get split.name =
      some (.serviceSplitter split) := by
  rw [routeSplitters, foldl_addSplitter]
  obtain ⟨entry, hmem, hname, hget⟩ := ConfigEntryIndex.get_foldl_add
    ((httpRouteDiscoveryChain (consolidatedRoute gateway h rules)).2.map .serviceSplitter)
    (fun entry hmem => by obtain ⟨split, -, rfl⟩ := List.mem_map.1 hmem; rfl) .new
    (.serviceSplitter split) (List.mem_map_of_mem hsplit)
  obtain ⟨split', hsplit', rfl⟩ := List.mem_map.1 hmem
  obtain ⟨i, rule, hrule, hi⟩ := mem_httpSplitters.1 hsplit
  obtain ⟨j, rule', hrule', hj⟩ := mem_httpSplitters.1 hsplit'
  have hvirtual : virtualService (hostService gateway h).name j =
      virtualService (hostService gateway h).name i :=
    (ruleSplitter_eq_some hj).1.symm.trans (hname.trans (ruleSplitter_eq_some hi).1)
  cases (virtualService_inj hvirtual).2
  cases hrule.symm.trans hrule'
  cases hi.symm.trans hj
  exact hget

/-- What is found among the splitters of a route is one of them. -/
theorem mem_of_routeSplitters_get (h : (routeSplitters route).get name = some entry) :
    ∃ split ∈ (httpRouteDiscoveryChain route).2, split.name = name ∧
      entry = .serviceSplitter split := by
  have hname := ((routeSplitters route).keyed h).2
  have hhas := ConfigEntryIndex.has_of_get h
  rcases ConfigEntryIndex.has_foldl_add hhas with hnew | ⟨split, hmem, rfl⟩
  · exact absurd hnew (ConfigEntryIndex.not_has_new _)
  · exact ⟨split, hmem, hname, rfl⟩

/-- The splitters of a hostname have the names of its virtual services. -/
theorem routeSplitters_get_name {rules : List HostnameMatch}
    (hget : (routeSplitters (consolidatedRoute gateway h rules)).get name = some entry) :
    ∃ i, name = virtualService (hostService gateway h).name i := by
  obtain ⟨split, hsplit, rfl, -⟩ := mem_of_routeSplitters_get hget
  obtain ⟨i, rule, -, hi⟩ := mem_httpSplitters.1 hsplit
  exact ⟨i, (ruleSplitter_eq_some hi).1⟩

/-- The index has an HTTP default of the name. -/
def HasHTTPDefault (defaults : ConfigEntryIndex .serviceDefaults) (name : String) : Prop :=
  ∃ default, defaults.get name = some (.serviceDefaults default) ∧ default.protocol = "http"

theorem hasHTTPDefault_add {defaults : ConfigEntryIndex .serviceDefaults}
    {default : ServiceConfigEntry} (hhttp : default.protocol = "http")
    (h : HasHTTPDefault defaults name ∨ name = default.name) :
    HasHTTPDefault (defaults.add (.serviceDefaults default)) name := by
  have hget : (defaults.add (.serviceDefaults default)).get name =
      if name = default.name then some (.serviceDefaults default) else defaults.get name :=
    ConfigEntryIndex.get_add _ rfl _
  unfold HasHTTPDefault
  rw [hget]
  by_cases heq : name = default.name
  · rw [if_pos heq]
    exact ⟨default, rfl, hhttp⟩
  · rw [if_neg heq]
    exact h.resolve_right heq

/-- A route has defaults for its router and for each of its splitters. -/
theorem hasHTTPDefault_routeDefaults {router : ServiceRouterConfigEntry}
    {splitters : List ServiceSplitterConfigEntry} {meta_ : GoMap String String}
    (h : name = router.name ∨ ∃ split ∈ splitters, split.name = name) :
    HasHTTPDefault (routeDefaults router splitters meta_) name := by
  unfold routeDefaults
  -- over every index that has the default of the router
  suffices hsuff : ∀ i : ConfigEntryIndex .serviceDefaults, HasHTTPDefault i router.name →
      (HasHTTPDefault i name ∨ ∃ split ∈ splitters, split.name = name) →
      HasHTTPDefault (splitters.foldl (fun defaults split =>
        if split.name ≠ (httpServiceDefault (.serviceRouter router) meta_).name then
          defaults.add (.serviceDefaults (httpServiceDefault (.serviceSplitter split) meta_))
        else defaults) i) name by
    have hrouter : HasHTTPDefault (ConfigEntryIndex.new.add
        (.serviceDefaults (httpServiceDefault (.serviceRouter router) meta_))) router.name :=
      hasHTTPDefault_add rfl (.inr rfl)
    refine hsuff _ hrouter (h.imp_left ?_)
    rintro rfl
    exact hrouter
  clear h
  induction splitters with
  | nil =>
    rintro i - (h | ⟨split, hmem, -⟩)
    · exact h
    · cases hmem
  | cons head splitters ih =>
    intro i hrouter h
    rw [List.foldl_cons]
    apply ih
    · split_ifs
      · exact hasHTTPDefault_add rfl (.inl hrouter)
      · exact hrouter
    · rcases h with h | ⟨split, hmem, rfl⟩
      · left
        split_ifs
        · exact hasHTTPDefault_add rfl (.inl h)
        · exact h
      · rcases List.mem_cons.1 hmem with rfl | hmem
        · left
          split_ifs with hne
          · exact hasHTTPDefault_add rfl (.inr rfl)
          · rw [ne_eq, not_not] at hne
            rw [hne]
            exact hrouter
        · exact .inr ⟨split, hmem, rfl⟩

/-! ### The entries of all routes -/

namespace DiscoveryChain

/-- The chain holds the entries of the route: its router, all its splitters, and
the defaults that go with them. -/
structure Holds (chain : DiscoveryChain) (route : HTTPRoute) : Prop where
  router : chain.routers.get route.name =
    some (.serviceRouter (httpRouteDiscoveryChain route).1)
  splitters : ∀ split ∈ (httpRouteDiscoveryChain route).2,
    chain.splitters.get split.name = some (.serviceSplitter split)
  defaults : ∀ name, (name = route.name ∨ ∃ split ∈ (httpRouteDiscoveryChain route).2,
    split.name = name) → HasHTTPDefault chain.defaults name

end DiscoveryChain

theorem ConfigEntryIndex.get_merge {kind : Kind} (i other : ConfigEntryIndex kind)
    (name : String) :
    (i.merge other).get name = (other.get name).or (i.get name) := by
  rw [get, merge, GoMap.lookup_union_ite]
  cases hother : other.get name with
  | none =>
    rw [if_neg (Finmap.lookup_eq_none.1 hother)]
    rfl
  | some entry =>
    rw [if_pos (Finmap.mem_of_lookup_eq_some hother)]
    exact hother

theorem DiscoveryChain.addRoute_routers_get (chain : DiscoveryChain) (route : HTTPRoute)
    (name : String) : (chain.addRoute (.http route)).routers.get name =
      if name = route.name then some (.serviceRouter (httpRouteDiscoveryChain route).1)
      else chain.routers.get name := by
  have hkind : (ConfigEntry.serviceRouter (httpRouteDiscoveryChain route).1).getKind =
      .serviceRouter := rfl
  exact ConfigEntryIndex.get_add chain.routers hkind name

theorem DiscoveryChain.addRoute_splitters_get (chain : DiscoveryChain) (route : HTTPRoute)
    (name : String) : (chain.addRoute (.http route)).splitters.get name =
      ((routeSplitters route).get name).or (chain.splitters.get name) :=
  ConfigEntryIndex.get_merge chain.splitters (routeSplitters route) name

/-- Every default of a route is one for HTTP. -/
theorem hasHTTPDefault_of_routeDefaults {router : ServiceRouterConfigEntry}
    {splitters : List ServiceSplitterConfigEntry} {meta_ : GoMap String String}
    (h : (routeDefaults router splitters meta_).get name = some entry) :
    ∃ default, entry = .serviceDefaults default ∧ default.protocol = "http" := by
  rcases has_routeDefaults (ConfigEntryIndex.has_of_get h) with rfl | ⟨split, -, rfl⟩
  · exact ⟨_, rfl, rfl⟩
  · exact ⟨_, rfl, rfl⟩

theorem hasHTTPDefault_merge {defaults : ConfigEntryIndex .serviceDefaults}
    {router : ServiceRouterConfigEntry} {splitters : List ServiceSplitterConfigEntry}
    {meta_ : GoMap String String}
    (h : HasHTTPDefault defaults name ∨
      HasHTTPDefault (routeDefaults router splitters meta_) name) :
    HasHTTPDefault (defaults.merge (routeDefaults router splitters meta_)) name := by
  unfold HasHTTPDefault
  rw [ConfigEntryIndex.get_merge]
  cases hget : (routeDefaults router splitters meta_).get name with
  | some entry =>
    obtain ⟨default, rfl, hhttp⟩ := hasHTTPDefault_of_routeDefaults hget
    exact ⟨default, rfl, hhttp⟩
  | none =>
    rcases h with h | ⟨default, hdefault, -⟩
    · exact h
    · rw [hget] at hdefault
      cases hdefault

/-- The route itself is held once it was added. -/
theorem DiscoveryChain.holds_addRoute_self (chain : DiscoveryChain) (gateway : ResolvedGateway)
    (h : String) (rules : List HostnameMatch) :
    (chain.addRoute (.http (consolidatedRoute gateway h rules))).Holds
      (consolidatedRoute gateway h rules) := by
  refine ⟨?_, fun split hsplit => ?_, fun name hname => ?_⟩
  · rw [addRoute_routers_get, if_pos rfl]
  · rw [addRoute_splitters_get, routeSplitters_get hsplit]
    rfl
  · exact hasHTTPDefault_merge (.inr (hasHTTPDefault_routeDefaults hname))

/-- A route of another name leaves the entries of a route alone. -/
theorem DiscoveryChain.Holds.addRoute_of_ne {chain : DiscoveryChain} {h' : String}
    {rules rules' : List HostnameMatch} (hholds : chain.Holds (consolidatedRoute gateway h rules))
    (hne : (hostService gateway h).name ≠ (hostService gateway h').name) :
    (chain.addRoute (.http (consolidatedRoute gateway h' rules'))).Holds
      (consolidatedRoute gateway h rules) := by
  refine ⟨?_, fun split hsplit => ?_, fun name hname => ?_⟩
  · rw [addRoute_routers_get]
    exact (if_neg hne).trans hholds.router
  · rw [addRoute_splitters_get]
    cases hother : (routeSplitters (consolidatedRoute gateway h' rules')).get split.name with
    | none => exact hholds.splitters split hsplit
    | some entry =>
      -- the names of the two splitters would be those of the same router
      obtain ⟨i, hi⟩ := routeSplitters_get_name (routeSplitters_get hsplit)
      obtain ⟨j, hj⟩ := routeSplitters_get_name hother
      exact absurd (virtualService_inj (hi.symm.trans hj)).1 hne
  · exact hasHTTPDefault_merge (.inl (hholds.defaults name hname))

/-- The route that the router of a name is made from: the last one of the name. -/
def routerSource (routes : List ResolvedRoute) (name : String) : Option HTTPRoute :=
  routes.reverse.findSome? fun
    | .http route => if route.name = name then some route else none
    | .tcp _ => none

theorem routerSource_concat_http (routes : List ResolvedRoute) (route : HTTPRoute)
    (name : String) : routerSource (routes ++ [.http route]) name =
      if route.name = name then some route else routerSource routes name := by
  simp only [routerSource, List.reverse_concat, List.findSome?_cons]
  split_ifs
  · rfl
  · rfl

theorem routerSource_concat_tcp (routes : List ResolvedRoute) (route : TCPRoute)
    (name : String) : routerSource (routes ++ [.tcp route]) name = routerSource routes name := by
  rw [routerSource, List.reverse_concat, List.findSome?_cons]
  rfl

theorem routerSource_isSome {routes : List ResolvedRoute} (h : .http route ∈ routes) :
    (routerSource routes route.name).isSome := by
  rw [routerSource, List.findSome?_isSome_iff]
  exact ⟨.http route, List.mem_reverse.2 h, by simp⟩

/-- The HTTP routes are consolidated ones of the gateway. -/
def Consolidated (gateway : ResolvedGateway) (routes : List ResolvedRoute) : Prop :=
  ∀ route, ResolvedRoute.http route ∈ routes → ∃ h rules, route = consolidatedRoute gateway h rules

/-- The routers are those of the last routes, each next to its own splitters and
defaults. -/
theorem foldl_addRoute_routers {routes : List ResolvedRoute} (hroutes : Consolidated gateway routes)
    (ingress : IngressGatewayConfigEntry) (name : String) :
    (routes.foldl DiscoveryChain.addRoute { ingress := ingress }).routers.get name =
        (routerSource routes name).map (fun route =>
          .serviceRouter (httpRouteDiscoveryChain route).1) ∧
      ∀ route, routerSource routes name = some route → route.name = name ∧
        .http route ∈ routes ∧
        (routes.foldl DiscoveryChain.addRoute { ingress := ingress }).Holds route := by
  -- from the right: the route that is added last takes the key
  induction routes using List.reverseRecOn with
  | nil => exact ⟨ConfigEntryIndex.get_new name, fun route h => by cases h⟩
  | append_singleton routes route ih =>
    obtain ⟨hget, hsource⟩ := ih fun route hmem => hroutes route (List.mem_append_left _ hmem)
    rw [List.foldl_concat]
    cases route with
    | tcp route =>
      rw [routerSource_concat_tcp]
      refine ⟨hget, fun route' h => ?_⟩
      obtain ⟨hname, hmem, hholds⟩ := hsource route' h
      exact ⟨hname, List.mem_append_left _ hmem, hholds⟩
    | http route =>
      have hself : ResolvedRoute.http route ∈ routes ++ [.http route] :=
        List.mem_append_right _ (List.mem_singleton_self _)
      obtain ⟨h, rules, rfl⟩ := hroutes route hself
      rw [routerSource_concat_http, DiscoveryChain.addRoute_routers_get]
      by_cases hname : (consolidatedRoute gateway h rules).name = name
      · rw [if_pos hname, if_pos hname.symm]
        refine ⟨rfl, fun route' heq => ?_⟩
        cases heq
        exact ⟨hname, hself, DiscoveryChain.holds_addRoute_self _ gateway h rules⟩
      · rw [if_neg hname, if_neg (Ne.symm hname)]
        refine ⟨hget, fun route' heq => ?_⟩
        obtain ⟨hname', hmem, hholds⟩ := hsource route' heq
        obtain ⟨h', rules', rfl⟩ := hroutes route' (List.mem_append_left _ hmem)
        exact ⟨hname', List.mem_append_left _ hmem,
          hholds.addRoute_of_ne fun hkey => hname (hkey.symm.trans hname')⟩

theorem consolidated_mergedRoutes (gateway : ResolvedGateway)
    (orders : ℕ → List (String × List HostnameMatch)) :
    Consolidated gateway (mergedRoutes gateway orders) := by
  intro route hroute
  obtain ⟨i, l, -, hroute⟩ := mem_mergedRoutes.1 hroute
  obtain ⟨⟨h, rules⟩, -, rfl⟩ := (mem_mergeRoutes_http ..).1 hroute
  exact ⟨h, rules, rfl⟩

/-- The routers of a gateway are those of the last route of their name. -/
theorem routers_get_eq (gateway : ResolvedGateway)
    (orders : ℕ → List (String × List HostnameMatch)) (name : String) :
    (discoveryChain gateway orders).routers.get name =
      (routerSource (mergedRoutes gateway orders) name).map fun route =>
        .serviceRouter (httpRouteDiscoveryChain route).1 := by
  obtain ⟨ingress, heq⟩ := discoveryChain_eq_foldl gateway orders
  rw [heq]
  exact (foldl_addRoute_routers (consolidated_mergedRoutes gateway orders) ingress name).1

theorem holds_of_source (h : routerSource (mergedRoutes gateway orders) name = some route) :
    route.name = name ∧ .http route ∈ mergedRoutes gateway orders ∧
      (discoveryChain gateway orders).Holds route := by
  obtain ⟨ingress, heq⟩ := discoveryChain_eq_foldl gateway orders
  rw [heq]
  exact (foldl_addRoute_routers (consolidated_mergedRoutes gateway orders) ingress name).2 route h

/-- **Every router comes with its own splitters and defaults.** -/
theorem holds_of_router (hv : Visits gateway orders)
    (h : (discoveryChain gateway orders).routers.get name = some entry) :
    ∃ (i : ℕ) (l : ResolvedListener) (h : String), gateway.listeners[i]? = some l ∧
      Served l.routes h ∧ name = (hostService gateway h).name ∧
      entry = .serviceRouter (ownRouter gateway l h) ∧
      (discoveryChain gateway orders).Holds (ownRoute gateway l h) := by
  rw [routers_get_eq, Option.map_eq_some_iff] at h
  obtain ⟨route, hsource, rfl⟩ := h
  obtain ⟨rfl, hmem, hholds⟩ := holds_of_source hsource
  obtain ⟨i, l, hl, hmem⟩ := mem_mergedRoutes.1 hmem
  obtain ⟨⟨h, rules⟩, hp, rfl⟩ := (mem_mergeRoutes_http ..).1 hmem
  obtain ⟨hserved, rfl⟩ := (hv.mem_iff hl).1 hp
  exact ⟨i, l, h, hl, hserved, rfl, rfl, hholds⟩

/-! ### The result -/

/-- Where a route that was made from the rule with index `i` of a router leads: to
a service of the rule, or to a virtual service.  If the rule has a service with
weight, there is a splitter for the virtual service that splits it among the
services of the rule, and a default. -/
def Leads (chain : DiscoveryChain) (namespace_ router : String) (i : ℕ) (rule : HTTPRouteRule)
    (destination : ServiceRouteDestination) : Prop :=
  (∃ service ∈ rule.services, service.service = ⟨destination.namespace_, destination.service⟩) ∨
    (destination.service = virtualService router i ∧ destination.namespace_ = namespace_ ∧
      ((∃ service ∈ rule.services, service.weight ≠ 0) →
        (∃ splitter, chain.splitters.get destination.service = some (.serviceSplitter splitter) ∧
          splitter.namespace_ = namespace_ ∧ ∀ split ∈ splitter.splits,
            ∃ service ∈ rule.services, service.service = ⟨split.namespace_, split.service⟩) ∧
        HasHTTPDefault chain.defaults destination.service))

/-- The rules of a listener for a hostname, before they are consolidated. -/
def IsRule (l : ResolvedListener) (h : String) (rule : HTTPRouteRule) : Prop :=
  ∃ route, ResolvedRoute.http route ∈ l.routes ∧ h ∈ route.hostnames ∧ rule ∈ route.rules

/-- **Every reference leads to an entry.** -/
structure ReferentiallyClosed (gateway : ResolvedGateway) (chain : DiscoveryChain) : Prop where
  /-- A service of an HTTP route has a router and a default. -/
  services : ∀ out ∈ chain.ingress.listeners, ∀ service ∈ out.services, service.hosts ≠ [] →
    service.namespace_ = gateway.id.consulNamespace ∧
    (∃ router, chain.routers.get service.name = some (.serviceRouter router) ∧
      router.namespace_ = gateway.id.consulNamespace) ∧
    ∃ default, chain.defaults.get service.name = some (.serviceDefaults default) ∧
      default.namespace_ = gateway.id.consulNamespace ∧ default.protocol = "http"
  /-- A route of a router is made from a rule of the gateway and leads to its
  services. -/
  routes : ∀ {name router}, chain.routers.get name = some (.serviceRouter router) →
    router.name = name ∧ ∃ l ∈ gateway.listeners, ∃ h, Served l.routes h ∧
      router = ownRouter gateway l h ∧ ∀ (i : ℕ) route, router.routes[i]? = some route →
        ∃ rule m, IsRule l h rule ∧ m ∈ ruleMatches rule ∧
          (sortedRules (collectedRules l h))[i]? = some m ∧
          route = hostnameRoute (ownRoute gateway l h) i m ∧
          Leads chain gateway.id.consulNamespace name i rule route.destination

theorem mem_collectedRules {l : ResolvedListener} {m : HostnameMatch}
    (hm : m ∈ collectedRules l h) : ∃ rule, IsRule l h rule ∧ m ∈ ruleMatches rule := by
  rw [collectedRules, lookup_consolidator, List.mem_flatMap] at hm
  obtain ⟨route, hroute, hm⟩ := hm
  cases route with
  | tcp route => cases hm
  | http route =>
    obtain ⟨block, hblock, hm⟩ := List.mem_flatten.1 hm
    obtain ⟨hcount, rfl⟩ := List.mem_replicate.1 hblock
    obtain ⟨rule, hrule, hm⟩ := List.mem_flatMap.1 hm
    exact ⟨rule, ⟨route, hroute, List.count_pos_iff.1 (Nat.pos_of_ne_zero hcount), hrule⟩, hm⟩

theorem services_of_mem_ruleMatches {rule : HTTPRouteRule} {m : HostnameMatch}
    (hm : m ∈ ruleMatches rule) : m.services = rule.services := by
  obtain ⟨_, -, rfl⟩ := List.mem_map.1 hm
  rfl

theorem leads_of_holds {chain : DiscoveryChain} {l : ResolvedListener}
    (hholds : chain.Holds (ownRoute gateway l h)) {i : ℕ} {m : HostnameMatch}
    (hm : (sortedRules (collectedRules l h))[i]? = some m) {rule : HTTPRouteRule}
    (hrule : m.services = rule.services) :
    Leads chain gateway.id.consulNamespace (hostService gateway h).name i rule
      (hostnameRoute (ownRoute gateway l h) i m).destination := by
  by_cases hone : m.services.length = 1
  · -- a single service is the destination itself, without a splitter
    obtain ⟨service, hservice⟩ := List.length_eq_one_iff.1 hone
    refine .inl ⟨service, by rw [← hrule, hservice]; exact List.mem_singleton_self _, ?_⟩
    simp only [hostnameRoute, ruleDestination, hostnameRule, hservice]
  · have hdest : (ruleDestination (ownRoute gateway l h) i (hostnameRule m)).1 =
        ⟨gateway.id.consulNamespace, virtualService (hostService gateway h).name i⟩ :=
      ruleDestination_virtual hone
    refine .inr ⟨congrArg ResolvedService.service hdest,
      congrArg ResolvedService.consulNamespace hdest, ?_⟩
    rintro ⟨service, hservice, hweight⟩
    rw [← hrule] at hservice
    obtain ⟨split, hsplit⟩ : ∃ split, ruleSplitter (ownRoute gateway l h) i (hostnameRule m) =
      some split := exists_ruleSplitter hone hservice hweight
    obtain ⟨hname, hsplits⟩ := ruleSplitter_eq_some hsplit
    have hindex : (ownRoute gateway l h).rules[i]? = some (hostnameRule m) := by
      rw [consolidatedRoute_rules, List.getElem?_map, hm]
      rfl
    have hmem := mem_httpSplitters.2 ⟨i, _, hindex, hsplit⟩
    have hservice : (hostnameRoute (ownRoute gateway l h) i m).destination.service = split.name :=
      (congrArg ResolvedService.service hdest).trans hname.symm
    rw [hservice]
    refine ⟨⟨split, hholds.splitters split hmem, ?_, fun s hs => ?_⟩,
      hholds.defaults _ (.inr ⟨split, hmem, rfl⟩)⟩
    · exact ruleSplitter_namespace hsplit
    · rw [hsplits] at hs
      exact hrule ▸ mem_splits hs

/-- A service with hosts is that of a hostname the listener serves. -/
theorem exists_hostService (hv : Visits gateway orders) {out : IngressListener}
    (hout : out ∈ (discoveryChain gateway orders).ingress.listeners) {service : IngressService}
    (hservice : service ∈ out.services) (hhosts : service.hosts ≠ []) :
    ∃ (i : ℕ) (l : ResolvedListener) (h : String), gateway.listeners[i]? = some l ∧
      Served l.routes h ∧ service = hostService gateway h := by
  obtain ⟨i, l, hl, hout⟩ := mem_ingressListeners.1 hout
  unfold ingressListener at hout
  split_ifs at hout
  cases hout
  obtain ⟨route, hroute, rfl⟩ := List.mem_map.1 hservice
  cases route with
  | tcp route => exact absurd rfl hhosts
  | http route =>
    obtain ⟨⟨h, rules⟩, hrules, rfl⟩ := (mem_mergeRoutes_http ..).1 hroute
    exact ⟨i, l, h, hl, ((hv.mem_iff hl).1 hrules).1, rfl⟩

/-- **The discovery chain of a gateway is referentially closed**, also if its
listeners share hostnames and their entries replace each other. -/
theorem discoveryChain_closed (gateway : ResolvedGateway)
    (orders : ℕ → List (String × List HostnameMatch)) (hv : Visits gateway orders) :
    ReferentiallyClosed gateway (discoveryChain gateway orders) := by
  have hnamespace : ∀ {entry}, (discoveryChain gateway orders).HasService entry →
      entry.getNamespace = gateway.id.consulNamespace := by
    intro entry hentry
    exact discoveryChain_namespace (DiscoveryChain.has_iff.2 (.inr hentry))
  refine ⟨fun out hout service hservice hhosts => ?_, fun {name router} hget => ?_⟩
  · obtain ⟨i, l, h, hl, hserved, rfl⟩ := exists_hostService hv hout hservice hhosts
    obtain ⟨i', l', h', hl', hserved', hkey, hget⟩ := routers_get hv hl hserved
    obtain ⟨i'', l'', h'', hl'', hserved'', hname, hentry, hholds⟩ := holds_of_router hv hget
    obtain ⟨default, hdefault, hhttp⟩ := hholds.defaults _ (.inl hname)
    refine ⟨rfl, ⟨_, hget, rfl⟩, default, hdefault, ?_, hhttp⟩
    exact hnamespace (.inr (.inr (ConfigEntryIndex.has_of_get hdefault)))
  · obtain ⟨i, l, h, hl, hserved, rfl, hentry, hholds⟩ := holds_of_router hv hget
    cases hentry
    refine ⟨rfl, l, List.mem_of_getElem? hl, h, hserved, rfl, fun j route hroute => ?_⟩
    rw [ownRouter, router_routes, Option.map_eq_some_iff] at hroute
    obtain ⟨m, hm, rfl⟩ := hroute
    obtain ⟨rule, hrule, hmrule⟩ :=
      mem_collectedRules (GoStd.mem_sliceStable.1 (List.mem_of_getElem? hm))
    exact ⟨rule, m, hrule, hmrule, hm, rfl,
      leads_of_holds hholds hm (services_of_mem_ruleMatches hmrule)⟩

/-- The chain of the sample with two listeners of the same hostname is closed. -/
theorem twoListeners_closed : Visits SampleGateways.twoListeners SampleGateways.exampleOrders ∧
    ReferentiallyClosed SampleGateways.twoListeners
      (discoveryChain SampleGateways.twoListeners SampleGateways.exampleOrders) :=
  ⟨SampleGateways.twoListeners_visits,
    discoveryChain_closed _ _ SampleGateways.twoListeners_visits⟩

end Consul
