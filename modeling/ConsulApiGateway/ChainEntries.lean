/-
What the routers and splitters of a gateway are made of.

A rule becomes a route of a router and, unless it has exactly one service, a
splitter.  Both depend on the place of the rule among the rules of its hostname,
but not on the other rules.  The entries of all hostnames are then collected in two
indices.

* `httpRouteDiscoveryChain_congr` — the entries of a hostname depend on its rules
  only through what each of them becomes;
* `discoveryChain_congr` — neither do those of a gateway depend on more, nor on the
  order in which the hostnames are visited;
* `hostnameEntries_eq` — if no two hostnames share a router, the entries of the
  gateway show what the rules of each hostname become.
-/
import ConsulApiGateway.ChainClosure

namespace Consul

open Core

/-! ### The entries of a rule -/

/-- The route and the splitter that a rule becomes at a place of a router. -/
def ruleEntries (m : HostnameMatch) (route : HTTPRoute) (idx : ℕ) :
    ServiceRoute × Option ServiceSplitterConfigEntry :=
  (hostnameRoute route idx m, ruleSplitter route idx (hostnameRule m))

/-- What the rules of a hostname become, in the order in which they are tried. -/
def hostnameEntries (l : ResolvedListener) (h : String) :
    List (HTTPRoute → ℕ → ServiceRoute × Option ServiceSplitterConfigEntry) :=
  (sortedRules (collectedRules l h)).map ruleEntries

theorem ruleEntries_congr {route route' : HTTPRoute} (hname : route.name = route'.name)
    (hnamespace : route.namespace_ = route'.namespace_) (hmeta : route.meta_ = route'.meta_)
    (m : HostnameMatch) (idx : ℕ) : ruleEntries m route idx = ruleEntries m route' idx := by
  have hdestination : ∀ rule, ruleDestination route idx rule = ruleDestination route' idx rule := by
    intro rule
    unfold ruleDestination
    rw [hname, hnamespace]
  simp only [ruleEntries, hostnameRoute, ruleSplitter, hdestination, hmeta]

/-- The router and the splitters of a hostname, from the entries of its rules. -/
def assemble (route : HTTPRoute)
    (entries : List (HTTPRoute → ℕ → ServiceRoute × Option ServiceSplitterConfigEntry)) :
    ServiceRouterConfigEntry × List ServiceSplitterConfigEntry :=
  ({ name := route.name
     meta_ := route.meta_
     namespace_ := route.namespace_
     routes := entries.zipIdx.map fun p => (p.1 route p.2).1 },
   entries.zipIdx.filterMap fun p => (p.1 route p.2).2)

theorem httpRouteDiscoveryChain_eq_assemble (gateway : ResolvedGateway) (h : String)
    (rules : List HostnameMatch) :
    httpRouteDiscoveryChain (consolidatedRoute gateway h rules) =
      assemble (consolidatedRoute gateway h rules) ((sortedRules rules).map ruleEntries) := by
  unfold httpRouteDiscoveryChain assemble
  rw [consolidatedRoute_rules, flatMap_ruleRoutes, List.zipIdx_map, List.zipIdx_map,
    List.filterMap_map, List.map_map, List.filterMap_map]
  rfl

/-- **The entries of a hostname** depend on its rules through their entries only, and
on the hostname through its checksum. -/
theorem httpRouteDiscoveryChain_congr {gateway gateway' : ResolvedGateway} {h h' : String}
    {rules rules' : List HostnameMatch} (hid : gateway.id = gateway'.id)
    (hmeta : gateway.meta_ = gateway'.meta_) (hkey : hostsKey [h] = hostsKey [h'])
    (hentries : (sortedRules rules).map ruleEntries = (sortedRules rules').map ruleEntries) :
    httpRouteDiscoveryChain (consolidatedRoute gateway h rules) =
      httpRouteDiscoveryChain (consolidatedRoute gateway' h' rules') := by
  have hname : (consolidatedRoute gateway h rules).name =
      (consolidatedRoute gateway' h' rules').name := by
    simp only [consolidatedRoute, hid, hkey]
  have hnamespace : (consolidatedRoute gateway h rules).namespace_ =
      (consolidatedRoute gateway' h' rules').namespace_ := by
    simp only [consolidatedRoute, hid]
  have hroute : ∀ p ∈ ((sortedRules rules').map ruleEntries).zipIdx,
      p.1 (consolidatedRoute gateway h rules) p.2 =
        p.1 (consolidatedRoute gateway' h' rules') p.2 := by
    intro p hp
    obtain ⟨m, -, hm⟩ := List.mem_map.1 (List.fst_mem_of_mem_zipIdx hp)
    rw [← hm]
    exact ruleEntries_congr hname hnamespace hmeta m p.2
  rw [httpRouteDiscoveryChain_eq_assemble, httpRouteDiscoveryChain_eq_assemble, hentries]
  unfold assemble
  rw [hname, hnamespace, List.map_congr_left fun p hp => congrArg Prod.fst (hroute p hp),
    List.filterMap_congr fun p hp => congrArg Prod.snd (hroute p hp)]
  rw [show (consolidatedRoute gateway h rules).meta_ =
    (consolidatedRoute gateway' h' rules').meta_ from hmeta]

/-! ### The indices of routers and splitters -/

/-- The two indices, with the router and the splitters of one more route. -/
def addEntries (e : ConfigEntryIndex .serviceRouter × ConfigEntryIndex .serviceSplitter)
    (c : ServiceRouterConfigEntry × List ServiceSplitterConfigEntry) :
    ConfigEntryIndex .serviceRouter × ConfigEntryIndex .serviceSplitter :=
  (e.1.add (.serviceRouter c.1),
    e.2.merge (c.2.foldl (fun splitters split => splitters.add (.serviceSplitter split)) .new))

/-- The router and the splitters of a route; a TCP route has none. -/
def httpChain? : ResolvedRoute → Option (ServiceRouterConfigEntry × List ServiceSplitterConfigEntry)
  | .http route => some (httpRouteDiscoveryChain route)
  | .tcp _ => none

theorem foldl_addRoute_entries (routes : List ResolvedRoute) (chain : DiscoveryChain) :
    ((routes.foldl .addRoute chain).routers, (routes.foldl .addRoute chain).splitters) =
      (routes.filterMap httpChain?).foldl addEntries (chain.routers, chain.splitters) := by
  induction routes generalizing chain with
  | nil => rfl
  | cons route routes ih =>
    rw [List.foldl_cons, ih]
    cases route with
    | http route => rfl
    | tcp route => rfl

theorem httpChains_filterTCPRoutes (routes : List ResolvedRoute) (found : Bool) :
    (filterTCPRoutes routes found).filterMap httpChain? = routes.filterMap httpChain? := by
  induction routes generalizing found with
  | nil => rfl
  | cons route routes ih =>
    cases route with
    | http route => exact congrArg (httpRouteDiscoveryChain route :: ·) (ih found)
    | tcp route =>
      cases found with
      | true => exact ih true
      | false => exact ih true

/-- The entries of the hostnames of a listener, in the order of the visit. -/
def visitedChains (gateway : ResolvedGateway) (order : List (String × List HostnameMatch)) :
    List (ServiceRouterConfigEntry × List ServiceSplitterConfigEntry) :=
  order.map fun p => httpRouteDiscoveryChain (consolidatedRoute gateway p.1 p.2)

theorem httpChains_mergeRoutes (gateway : ResolvedGateway)
    (order : List (String × List HostnameMatch)) (routes : List ResolvedRoute) :
    (mergeRoutes gateway order routes).filterMap httpChain? = visitedChains gateway order := by
  rw [mergeRoutes, httpChains_filterTCPRoutes, flattenHTTPRoutes, List.filterMap_append,
    RouteConsolidator.consolidate, List.map_map, List.filterMap_map]
  refine (congrArg (· ++ _) (List.filterMap_eq_nil_iff.2 fun route hroute => ?_)).trans ?_
  · cases route with
    | http route => cases List.of_mem_filter hroute
    | tcp route => rfl
  · exact congrFun List.filterMap_eq_map' order

/-- The routers and splitters of a gateway, hostname by hostname. -/
theorem discoveryChain_entries (gateway : ResolvedGateway)
    (orders : ℕ → List (String × List HostnameMatch)) :
    ((discoveryChain gateway orders).routers, (discoveryChain gateway orders).splitters) =
      (gateway.listeners.zipIdx.flatMap fun p => visitedChains gateway (orders p.2)).foldl
        addEntries (.new, .new) := by
  obtain ⟨ingress, heq⟩ := discoveryChain_eq_foldl gateway orders
  rw [heq, foldl_addRoute_entries, mergedRoutes, List.filterMap_flatMap]
  simp only [httpChains_mergeRoutes]

theorem ConfigEntryIndex.ext_get {kind : Kind} {i i' : ConfigEntryIndex kind}
    (h : ∀ name, i.get name = i'.get name) : i = i' := by
  cases i
  cases i'
  congr 1
  exact Finmap.ext_lookup h

/-- The entries of hostnames with different checksums can be added in any order. -/
theorem addEntries_comm {gateway : ResolvedGateway} {h h' : String}
    {rules rules' : List HostnameMatch} (hkey : hostsKey [h] ≠ hostsKey [h'])
    (e : ConfigEntryIndex .serviceRouter × ConfigEntryIndex .serviceSplitter) :
    addEntries (addEntries e (httpRouteDiscoveryChain (consolidatedRoute gateway h rules)))
        (httpRouteDiscoveryChain (consolidatedRoute gateway h' rules')) =
      addEntries (addEntries e (httpRouteDiscoveryChain (consolidatedRoute gateway h' rules')))
        (httpRouteDiscoveryChain (consolidatedRoute gateway h rules)) := by
  have hne : (hostService gateway h).name ≠ (hostService gateway h').name :=
    fun heq => hkey (hostService_name_eq_iff.1 heq)
  have hadd : ∀ (i : ConfigEntryIndex .serviceRouter) h rules name,
      (i.add (.serviceRouter (httpRouteDiscoveryChain (consolidatedRoute gateway h rules)).1)).get
          name =
        if name = (hostService gateway h).name then
          some (.serviceRouter (httpRouteDiscoveryChain (consolidatedRoute gateway h rules)).1)
        else i.get name :=
    fun i h rules name => ConfigEntryIndex.get_add i rfl name
  refine Prod.ext (ConfigEntryIndex.ext_get fun name => ?_)
    (ConfigEntryIndex.ext_get fun name => ?_)
  · simp only [addEntries, hadd]
    by_cases hname : name = (hostService gateway h).name
    · subst hname
      rw [if_neg hne, if_pos rfl, if_pos rfl]
    · rw [if_neg hname, if_neg hname]
  · change ((e.2.merge (routeSplitters (consolidatedRoute gateway h rules))).merge
      (routeSplitters (consolidatedRoute gateway h' rules'))).get name =
        ((e.2.merge (routeSplitters (consolidatedRoute gateway h' rules'))).merge
          (routeSplitters (consolidatedRoute gateway h rules))).get name
    simp only [ConfigEntryIndex.get_merge]
    cases hfirst : (routeSplitters (consolidatedRoute gateway h rules)).get name with
    | none => rfl
    | some entry =>
      cases hsecond : (routeSplitters (consolidatedRoute gateway h' rules')).get name with
      | none => rfl
      | some entry' =>
        -- a splitter of both would have the names of two virtual services
        obtain ⟨i, hi⟩ := routeSplitters_get_name hfirst
        obtain ⟨j, hj⟩ := routeSplitters_get_name hsecond
        exact absurd (virtualService_inj (hi.symm.trans hj)).1 hne

/-! ### The indices of two gateways -/

/-- The listeners serve the same hostnames, with rules that become the same, also
where hostnames have the same checksum. -/
structure SameRules (l l' : ResolvedListener) : Prop where
  served : ∀ h, Served l'.routes h ↔ Served l.routes h
  entries : ∀ {h h'}, Served l.routes h → Served l.routes h' → hostsKey [h] = hostsKey [h'] →
    hostnameEntries l h = hostnameEntries l' h'

theorem mem_order {l : ResolvedListener} {order : List (String × List HostnameMatch)}
    (horder : GoMap.Ranges (consolidator l.routes) order) {p : String × List HostnameMatch}
    (hp : p ∈ order) : Served l.routes p.1 ∧ p.2 = collectedRules l p.1 := by
  have hlook := horder.mem_iff.1 hp
  refine ⟨(mem_consolidator ..).1 (Finmap.mem_of_lookup_eq_some hlook), ?_⟩
  rw [collectedRules, hlook]
  rfl

theorem served_iff_mem_order {l : ResolvedListener} {order : List (String × List HostnameMatch)}
    (horder : GoMap.Ranges (consolidator l.routes) order) {h : String} :
    h ∈ order.map Prod.fst ↔ Served l.routes h :=
  horder.mem_keys.trans (mem_consolidator ..)

/-- A listener adds the same, in whatever order its hostnames are visited. -/
theorem SameRules.foldl_addEntries {gateway gateway' : ResolvedGateway}
    (hid : gateway.id = gateway'.id) (hmeta : gateway.meta_ = gateway'.meta_)
    {l l' : ResolvedListener} (h : SameRules l l')
    {order order' : List (String × List HostnameMatch)}
    (horder : GoMap.Ranges (consolidator l.routes) order)
    (horder' : GoMap.Ranges (consolidator l'.routes) order')
    (e : ConfigEntryIndex .serviceRouter × ConfigEntryIndex .serviceSplitter) :
    (visitedChains gateway order).foldl addEntries e =
      (visitedChains gateway' order').foldl addEntries e := by
  have hvisited : visitedChains gateway order =
      (order.map Prod.fst).map fun h => httpRouteDiscoveryChain (ownRoute gateway l h) := by
    rw [visitedChains, List.map_map]
    refine List.map_congr_left fun p hp => ?_
    rw [(mem_order horder hp).2]
    rfl
  have hvisited' : visitedChains gateway' order' =
      (order'.map Prod.fst).map fun h => httpRouteDiscoveryChain (ownRoute gateway l h) := by
    rw [visitedChains, List.map_map]
    refine List.map_congr_left fun p hp => ?_
    obtain ⟨hserved, hrules⟩ := mem_order horder' hp
    rw [hrules]
    have hserved := (h.served p.1).1 hserved
    exact (httpRouteDiscoveryChain_congr hid hmeta rfl (h.entries hserved hserved rfl)).symm
  have hperm : (order.map Prod.fst).Perm (order'.map Prod.fst) := by
    refine (List.perm_ext_iff_of_nodup horder.1 horder'.1).2 fun host => ?_
    rw [served_iff_mem_order horder, served_iff_mem_order horder', h.served]
  rw [hvisited, hvisited']
  refine (hperm.map _).foldl_eq' (fun x hx y hy e => ?_) e
  obtain ⟨host, hhost, rfl⟩ := List.mem_map.1 hx
  obtain ⟨host', hhost', rfl⟩ := List.mem_map.1 hy
  rw [served_iff_mem_order horder] at hhost hhost'
  by_cases hkey : hostsKey [host] = hostsKey [host']
  · -- the two hostnames have the same entries
    have hentries : hostnameEntries l host = hostnameEntries l host' :=
      (h.entries hhost hhost' hkey).trans (h.entries hhost' hhost' rfl).symm
    rw [show httpRouteDiscoveryChain (ownRoute gateway l host) =
      httpRouteDiscoveryChain (ownRoute gateway l host') from
        httpRouteDiscoveryChain_congr rfl rfl hkey hentries]
  · exact addEntries_comm hkey e

/-- **The routers and splitters of a gateway** do not depend on the order in which
the hostnames are visited, nor on more of the rules than what they become. -/
theorem discoveryChain_congr {gateway gateway' : ResolvedGateway}
    {orders orders' : ℕ → List (String × List HostnameMatch)} (hid : gateway.id = gateway'.id)
    (hmeta : gateway.meta_ = gateway'.meta_)
    (h : List.Forall₂ SameRules gateway.listeners gateway'.listeners)
    (hv : Visits gateway orders) (hv' : Visits gateway' orders') :
    (discoveryChain gateway orders).routers = (discoveryChain gateway' orders').routers ∧
      (discoveryChain gateway orders).splitters = (discoveryChain gateway' orders').splitters := by
  -- over the listeners from one on, and whatever those before it have added
  suffices hsuff : ∀ {ls ls' : List ResolvedListener}, List.Forall₂ SameRules ls ls' → ∀ n,
      (∀ (i : ℕ) l, ls[i]? = some l → GoMap.Ranges (consolidator l.routes) (orders (n + i))) →
      (∀ (i : ℕ) l, ls'[i]? = some l → GoMap.Ranges (consolidator l.routes) (orders' (n + i))) →
      ∀ e, ((ls.zipIdx n).flatMap fun p => visitedChains gateway (orders p.2)).foldl addEntries e =
        ((ls'.zipIdx n).flatMap fun p => visitedChains gateway' (orders' p.2)).foldl
          addEntries e by
    have heq := hsuff h 0 (fun i l hl => (Nat.zero_add i).symm ▸ hv i l hl)
      (fun i l hl => (Nat.zero_add i).symm ▸ hv' i l hl) (.new, .new)
    rw [← discoveryChain_entries, ← discoveryChain_entries] at heq
    exact Prod.mk.inj heq
  intro ls ls' h
  induction h with
  | nil => exact fun n _ _ e => rfl
  | @cons l l' ls ls' hl _ ih =>
    intro n hv hv' e
    have hfirst := hl.foldl_addEntries hid hmeta (hv 0 l rfl) (hv' 0 l' rfl) e
    rw [Nat.add_zero] at hfirst
    rw [List.zipIdx_cons, List.zipIdx_cons, List.flatMap_cons, List.flatMap_cons,
      List.foldl_append, List.foldl_append, hfirst]
    refine ih (n + 1) (fun i l hi => ?_) (fun i l hi => ?_) _
    · rw [Nat.add_right_comm]
      exact hv (i + 1) l hi
    · rw [Nat.add_right_comm]
      exact hv' (i + 1) l hi

/-! ### What the indices show -/

/-- Every splitter is one of some hostname. -/
theorem exists_splitter {gateway : ResolvedGateway}
    {orders : ℕ → List (String × List HostnameMatch)} (hv : Visits gateway orders) {name : String}
    {entry : ConfigEntry} (h : (discoveryChain gateway orders).splitters.get name = some entry) :
    ∃ (i : ℕ) (l : ResolvedListener) (h : String), gateway.listeners[i]? = some l ∧
      Served l.routes h ∧ (routeSplitters (ownRoute gateway l h)).get name = some entry := by
  -- an entry of the merged index comes from one of the merged ones
  have hfold : ∀ (cs : List (ServiceRouterConfigEntry × List ServiceSplitterConfigEntry)) e,
      (cs.foldl addEntries e).2.get name = some entry → e.2.get name = some entry ∨
        ∃ c ∈ cs, (addEntries (.new, .new) c).2.get name = some entry := by
    intro cs
    induction cs with
    | nil => exact fun e h => .inl h
    | cons c cs ih =>
      intro e h
      rcases ih _ h with h | ⟨c', hmem, h⟩
      · simp only [addEntries, ConfigEntryIndex.get_merge, Option.or_eq_some_iff] at h
        rcases h with h | ⟨-, h⟩
        · refine .inr ⟨c, List.mem_cons_self, ?_⟩
          simp only [addEntries, ConfigEntryIndex.get_merge, h, Option.some_or]
        · exact .inl h
      · exact .inr ⟨c', List.mem_cons_of_mem _ hmem, h⟩
  have hentries := congrArg Prod.snd (discoveryChain_entries gateway orders)
  rw [show (discoveryChain gateway orders).splitters = _ from hentries] at h
  rcases hfold _ _ h with h | ⟨c, hc, h⟩
  · cases h
  · obtain ⟨i, l, hl, hc⟩ := List.mem_flatMap_zipIdx.1 hc
    obtain ⟨⟨host, rules⟩, hmem, rfl⟩ := List.mem_map.1 hc
    obtain ⟨hserved, rfl⟩ := (hv.mem_iff hl).1 hmem
    refine ⟨i, l, host, hl, hserved, ?_⟩
    simp only [addEntries, ConfigEntryIndex.get_merge, ConfigEntryIndex.get_new,
      Option.or_none] at h
    exact h

/-- No two hostnames share a router, on the same listener or on different ones. -/
def KeysDistinct (gateway : ResolvedGateway) : Prop :=
  ∀ (i i' : ℕ) l l' h h', gateway.listeners[i]? = some l → gateway.listeners[i']? = some l' →
    Served l.routes h → Served l'.routes h' → hostsKey [h] = hostsKey [h'] → l = l' ∧ h = h'

section Shown

variable {gateway : ResolvedGateway} {orders : ℕ → List (String × List HostnameMatch)}
  {i : ℕ} {l : ResolvedListener} {h : String}

/-- The chain holds the entries of every hostname. -/
theorem KeysDistinct.holds (hkeys : KeysDistinct gateway) (hv : Visits gateway orders)
    (hl : gateway.listeners[i]? = some l) (hserved : Served l.routes h) :
    (discoveryChain gateway orders).Holds (ownRoute gateway l h) := by
  obtain ⟨i', l', h', hl', hserved', hkey, hget⟩ := routers_get hv hl hserved
  obtain ⟨i'', l'', h'', hl'', hserved'', hname, -, hholds⟩ := holds_of_router hv hget
  obtain ⟨rfl, rfl⟩ := hkeys i i'' l l'' h h'' hl hl'' hserved hserved''
    (hostService_name_eq_iff.1 hname)
  exact hholds

/-- A splitter of the name of a virtual service is that of its own rule. -/
theorem KeysDistinct.splitters_get (hkeys : KeysDistinct gateway) (hv : Visits gateway orders)
    (hl : gateway.listeners[i]? = some l) (hserved : Served l.routes h) (idx : ℕ) :
    (discoveryChain gateway orders).splitters.get
        (virtualService (hostService gateway h).name idx) =
      ((sortedRules (collectedRules l h))[idx]?.bind fun m =>
        (ruleEntries m (ownRoute gateway l h) idx).2).map .serviceSplitter := by
  have hindex : (ownRoute gateway l h).rules[idx]? =
      (sortedRules (collectedRules l h))[idx]?.map hostnameRule := by
    rw [consolidatedRoute_rules, List.getElem?_map]
  -- the splitter of the rule is there
  have hown : ∀ split, ((sortedRules (collectedRules l h))[idx]?.bind fun m =>
      (ruleEntries m (ownRoute gateway l h) idx).2) = some split →
      (discoveryChain gateway orders).splitters.get
        (virtualService (hostService gateway h).name idx) = some (.serviceSplitter split) := by
    intro split hsplit
    obtain ⟨m, hm, hsplit⟩ := Option.bind_eq_some_iff.1 hsplit
    rw [hm] at hindex
    have hmem := mem_httpSplitters.2 ⟨idx, _, hindex, hsplit⟩
    have hget := (hkeys.holds hv hl hserved).splitters split hmem
    rwa [(ruleSplitter_eq_some hsplit).1] at hget
  cases hsplit : (sortedRules (collectedRules l h))[idx]?.bind fun m =>
      (ruleEntries m (ownRoute gateway l h) idx).2 with
  | some split => exact hown split hsplit
  | none =>
    -- any other would be that of another rule
    rw [Option.map_none, Option.eq_none_iff_forall_ne_some]
    intro entry hentry
    obtain ⟨i', l', h', hl', hserved', hget⟩ := exists_splitter hv hentry
    obtain ⟨split, hmem, hname, -⟩ := mem_of_routeSplitters_get hget
    obtain ⟨j, rule, hrule, hj⟩ := mem_httpSplitters.1 hmem
    obtain ⟨hsame, rfl⟩ := virtualService_inj ((ruleSplitter_eq_some hj).1.symm.trans hname)
    obtain ⟨rfl, rfl⟩ := hkeys i' i l' l h' h hl' hl hserved' hserved
      (hostService_name_eq_iff.1 hsame)
    rw [hindex, Option.map_eq_some_iff] at hrule
    obtain ⟨m, hm, rfl⟩ := hrule
    rw [hm, Option.bind_some] at hsplit
    cases hsplit.symm.trans hj

end Shown

/-- The rule names no backend like a virtual service. -/
def HostnameMatch.NamesBackends (m : HostnameMatch) (router : String) : Prop :=
  ∀ service ∈ m.services, ∀ idx, service.service.service ≠ virtualService router idx

theorem hostnameRoute_single {m : HostnameMatch} {service : HTTPService}
    (h : m.services = [service]) (route : HTTPRoute) (idx : ℕ) :
    hostnameRoute route idx m =
      { match_ := some (httpRouteMatchToServiceRouteHTTPMatch m.match_)
        destination :=
          { namespace_ := service.service.consulNamespace
            prefixRewrite := httpRouteFiltersToDestinationPrefixRewrite m.filters
            requestHeaders := (httpRouteFiltersToServiceRouteHeaderModifier m.filters).merge
              (httpRouteFiltersToServiceRouteHeaderModifier service.filters)
            service := service.service.service } } := by
  simp only [hostnameRoute, ruleDestination, hostnameRule, h]

theorem hostnameRoute_virtual {m : HostnameMatch} (h : m.services.length ≠ 1) (route : HTTPRoute)
    (idx : ℕ) :
    hostnameRoute route idx m =
      { match_ := some (httpRouteMatchToServiceRouteHTTPMatch m.match_)
        destination :=
          { namespace_ := route.namespace_
            prefixRewrite := httpRouteFiltersToDestinationPrefixRewrite m.filters
            requestHeaders := httpRouteFiltersToServiceRouteHeaderModifier m.filters
            service := virtualService route.name idx } } := by
  have hdestination : ruleDestination route idx (hostnameRule m) =
      (⟨route.namespace_, virtualService route.name idx⟩,
        httpRouteFiltersToServiceRouteHeaderModifier m.filters) := by
    unfold ruleDestination
    split
    · next hone => exact absurd (congrArg List.length hone) h
    · rfl
  simp only [hostnameRoute, hdestination]

theorem ruleSplitter_hostnameRule (m : HostnameMatch) (route : HTTPRoute) (idx : ℕ) :
    ruleSplitter route idx (hostnameRule m) =
      if m.services.length = 1 ∨ splits m.services = [] then none
      else some
        ⟨virtualService route.name idx, route.namespace_, route.meta_, splits m.services⟩ := by
  by_cases hone : m.services.length = 1
  · rw [if_pos (.inl hone)]
    exact if_pos hone
  · have hdestination : (ruleDestination route idx (hostnameRule m)).1 =
        ⟨route.namespace_, virtualService route.name idx⟩ := ruleDestination_virtual hone
    have hservices : (hostnameRule m).services = m.services := rfl
    unfold ruleSplitter
    rw [hservices, if_neg hone, hdestination]
    by_cases hsplits : splits m.services = []
    · have hlength : ¬ 0 < (splits m.services).length := by simp [hsplits]
      rw [if_neg hlength, if_pos (Or.inr hsplits)]
    · rw [if_neg (not_or.2 ⟨hone, hsplits⟩), if_pos (List.length_pos_iff.2 hsplits)]

/-- What a rule becomes at one place shows what it becomes at any. -/
theorem ruleEntries_inj {m m' : HostnameMatch} {route : HTTPRoute} {idx : ℕ}
    (hm : m.NamesBackends route.name) (hm' : m'.NamesBackends route.name)
    (h : ruleEntries m route idx = ruleEntries m' route idx) : ruleEntries m = ruleEntries m' := by
  obtain ⟨hroute, hsplitter⟩ := Prod.mk.inj h
  -- a backend is not taken for a virtual service
  have hmixed : ∀ {m m' : HostnameMatch} {service}, m.NamesBackends route.name →
      m.services = [service] → m'.services.length ≠ 1 →
      hostnameRoute route idx m ≠ hostnameRoute route idx m' := by
    intro m m' service hm hone hmany heq
    rw [hostnameRoute_single hone, hostnameRoute_virtual hmany] at heq
    have hservice : service.service.service = virtualService route.name idx :=
      congrArg (fun r : ServiceRoute => r.destination.service) heq
    exact hm service (by simp [hone]) idx hservice
  funext route' idx'
  by_cases hone : m.services.length = 1
  · obtain ⟨service, hservice⟩ := List.length_eq_one_iff.1 hone
    by_cases hone' : m'.services.length = 1
    · obtain ⟨service', hservice'⟩ := List.length_eq_one_iff.1 hone'
      rw [hostnameRoute_single hservice, hostnameRoute_single hservice'] at hroute
      refine Prod.ext ?_ ?_
      · exact (hostnameRoute_single hservice ..).trans
          (hroute.trans (hostnameRoute_single hservice' ..).symm)
      · simp only [ruleEntries, ruleSplitter_hostnameRule, hone, hone', true_or, if_true]
    · exact absurd hroute (hmixed hm hservice hone')
  · by_cases hone' : m'.services.length = 1
    · obtain ⟨service', hservice'⟩ := List.length_eq_one_iff.1 hone'
      exact absurd hroute.symm (hmixed hm' hservice' hone)
    · rw [hostnameRoute_virtual hone, hostnameRoute_virtual hone'] at hroute
      simp only [ServiceRoute.mk.injEq, ServiceRouteDestination.mk.injEq, true_and] at hroute
      have hsplits : splits m.services = splits m'.services := by
        rw [ruleSplitter_hostnameRule, ruleSplitter_hostnameRule] at hsplitter
        simp only [hone, hone', false_or] at hsplitter
        split_ifs at hsplitter with hnil hnil' hnil'
        · rw [hnil, hnil']
        · simpa using hsplitter
      refine Prod.ext ?_ ?_
      · simp only [ruleEntries, hostnameRoute_virtual hone, hostnameRoute_virtual hone', hroute]
      · simp only [ruleEntries, ruleSplitter_hostnameRule, hone, hone', hsplits]

/-- **The routers and splitters show the rules** of every hostname, up to what they
become. -/
theorem hostnameEntries_eq {gateway gateway' : ResolvedGateway}
    {orders orders' : ℕ → List (String × List HostnameMatch)} {i i' : ℕ} {l l' : ResolvedListener}
    {h : String} (hid : gateway.id = gateway'.id) (hmeta : gateway.meta_ = gateway'.meta_)
    (hv : Visits gateway orders) (hv' : Visits gateway' orders')
    (hkeys : KeysDistinct gateway) (hkeys' : KeysDistinct gateway')
    (hl : gateway.listeners[i]? = some l) (hl' : gateway'.listeners[i']? = some l')
    (hserved : Served l.routes h) (hserved' : Served l'.routes h)
    (hbackends : ∀ m ∈ collectedRules l h, m.NamesBackends (hostService gateway h).name)
    (hbackends' : ∀ m ∈ collectedRules l' h, m.NamesBackends (hostService gateway h).name)
    (hrouters : (discoveryChain gateway orders).routers = (discoveryChain gateway' orders').routers)
    (hsplitters : (discoveryChain gateway orders).splitters =
      (discoveryChain gateway' orders').splitters) :
    hostnameEntries l h = hostnameEntries l' h := by
  have hname : (hostService gateway h).name = (hostService gateway' h).name := by
    simp only [hostService, hid]
  have hentries : ∀ m idx, ruleEntries m (ownRoute gateway l h) idx =
      ruleEntries m (ownRoute gateway' l' h) idx := fun m idx =>
    ruleEntries_congr hname (congrArg GatewayID.consulNamespace hid) hmeta m idx
  -- the index of the routers has one entry for the hostname on either side
  have hroutes : (ownRouter gateway l h).routes = (ownRouter gateway' l' h).routes := by
    have hrouter := (hkeys.holds hv hl hserved).router
    have hrouter' := (hkeys'.holds hv' hl' hserved').router
    rw [hrouters, show (ownRoute gateway l h).name = (ownRoute gateway' l' h).name from hname,
      hrouter'] at hrouter
    injection hrouter with hrouter
    injection hrouter with hrouter
    exact congrArg ServiceRouterConfigEntry.routes hrouter.symm
  refine List.ext_getElem? fun idx => ?_
  have hroute : (sortedRules (collectedRules l h))[idx]?.map
        (fun m => (ruleEntries m (ownRoute gateway l h) idx).1) =
      (sortedRules (collectedRules l' h))[idx]?.map
        (fun m => (ruleEntries m (ownRoute gateway' l' h) idx).1) :=
    (router_routes gateway h _ idx).symm.trans
      ((congrArg (fun routes => routes[idx]?) hroutes).trans (router_routes gateway' h _ idx))
  have hsplitter := (hkeys.splitters_get hv hl hserved idx).symm
  rw [hsplitters, hname, hkeys'.splitters_get hv' hl' hserved'] at hsplitter
  rw [hostnameEntries, hostnameEntries, List.getElem?_map, List.getElem?_map]
  cases hm : (sortedRules (collectedRules l h))[idx]? with
  | none =>
    rw [hm, Option.map_none, eq_comm, Option.map_eq_none_iff] at hroute
    rw [hroute]
  | some m =>
    rw [hm, Option.map_some, eq_comm, Option.map_eq_some_iff] at hroute
    obtain ⟨m', hm', hroute⟩ := hroute
    rw [hm, hm', Option.bind_some, Option.bind_some] at hsplitter
    have hsplitter := Option.map_injective (fun _ _ heq => ConfigEntry.serviceSplitter.inj heq)
      hsplitter
    -- router and splitter together give back the entries of the rule at its place
    have hplace : ruleEntries m (ownRoute gateway l h) idx =
        ruleEntries m' (ownRoute gateway l h) idx := by
      rw [hentries m']
      exact Prod.ext hroute.symm hsplitter
    rw [hm', Option.map_some, Option.map_some]
    refine congrArg some (ruleEntries_inj ?_ ?_ hplace)
    · exact hbackends m (GoStd.mem_sliceStable.1 (List.mem_of_getElem? hm))
    · exact hbackends' m' (GoStd.mem_sliceStable.1 (List.mem_of_getElem? hm'))

end Consul
