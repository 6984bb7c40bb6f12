/-
The translation of a resolved gateway into config entries
(`internal/adapters/consul`: `http.go` and the first half of `sync.go`).

The routes of a listener are first consolidated: the rules of all its HTTP
routes are collected by hostname, and each hostname becomes one route.  Each route
becomes a service of the ingress listener, with a router, a splitter for every
rule that has not exactly one service, and defaults for all of them.  The routers,
splitters and defaults of all listeners share one index each.

* `mem_consolidator` — the hostnames the consolidator collects rules for;
* `discoveryChain_spec` — the ingress listeners and the routers, listener by
  listener.
-/
import ConsulApiGateway.ConfigEntries
import ConsulApiGateway.Core
import ConsulApiGateway.GoStd
import Mathlib.Data.String.Basic

namespace Consul

open Core

/-! ### HTTP routes (`http.go`) -/

def mergeMaps (a b : GoMap String String) : GoMap String String := b ∪ a

def httpRouteFiltersToDestinationPrefixRewrite (filters : List HTTPFilter) : String :=
  (filters.findSome? fun
    | .urlRewrite replacePrefixMatch => some replacePrefixMatch
    | _ => none).getD ""

/-- The maps and the list of the second modifier are added to those of the first. -/
def HTTPHeaderModifiers.merge (modifier other : HTTPHeaderModifiers) : HTTPHeaderModifiers where
  add := mergeMaps modifier.add other.add
  set := mergeMaps modifier.set other.set
  remove := modifier.remove ++ other.remove

def httpRouteFiltersToServiceRouteHeaderModifier (filters : List HTTPFilter) :
    HTTPHeaderModifiers :=
  filters.foldl (fun modifier filter => match filter with
    | .header header => modifier.merge ⟨header.add, header.set, header.remove⟩
    | _ => modifier) {}

def httpHeaderMatch (header : HTTPHeaderMatch) : Option ServiceRouteHTTPMatchHeader :=
  match header.type with
  | .exact => some { name := header.name, exact := header.value }
  | .headerPrefix => some { name := header.name, prefix_ := header.value }
  | .headerSuffix => some { name := header.name, suffix := header.value }
  | .present => some { name := header.name, present := true }
  | .regularExpression => some { name := header.name, regex := header.value }
  | .none => none

def httpQueryMatch (query : HTTPQueryMatch) : Option ServiceRouteHTTPMatchQueryParam :=
  match query.type with
  | .exact => some { name := query.name, exact := query.value }
  | .present => some { name := query.name, present := true }
  | .regularExpression => some { name := query.name, regex := query.value }
  | .none => none

def httpMethods : HTTPMethod → List String
  | .connect => ["CONNECT"]
  | .delete => ["DELETE"]
  | .get => ["GET"]
  | .head => ["HEAD"]
  | .options => ["OPTIONS"]
  | .patch => ["PATCH"]
  | .post => ["POST"]
  | .put => ["PUT"]
  | .trace => ["TRACE"]
  | .none => []

def httpRouteMatchToServiceRouteHTTPMatch (m : HTTPMatch) : ServiceRouteHTTPMatch where
  pathExact := if m.path.type = .exact then m.path.value else ""
  pathPrefix := if m.path.type = .pathPrefix then m.path.value else ""
  pathRegex := if m.path.type = .regularExpression then m.path.value else ""
  header := m.headers.filterMap httpHeaderMatch
  queryParam := m.query.filterMap httpQueryMatch
  methods := httpMethods m.method

/-- The sum of the weights, in 32-bit integers. -/
def totalWeight (services : List HTTPService) : ℤ :=
  services.foldl (fun total service => (total + service.weight).bmod (2 ^ 32)) 0

/-- The splits of a rule; a service without weight gets none. -/
def splits (services : List HTTPService) : List ServiceSplit :=
  services.filterMap fun service =>
    if service.weight = 0 then none
    else some
      { weight := (service.weight : ℚ) / (totalWeight services : ℚ) * 100
        service := service.service.service
        namespace_ := service.service.consulNamespace
        requestHeaders := httpRouteFiltersToServiceRouteHeaderModifier service.filters }

/-- The service a rule leads to and the modifier of its headers: those of its
only service, or a virtual service to split. -/
def ruleDestination (route : HTTPRoute) (idx : ℕ) (rule : HTTPRouteRule) :
    ResolvedService × HTTPHeaderModifiers :=
  let modifier := httpRouteFiltersToServiceRouteHeaderModifier rule.filters
  match rule.services with
  | [service] => (service.service,
      modifier.merge (httpRouteFiltersToServiceRouteHeaderModifier service.filters))
  -- also for a rule without services, which then gets no splitter
  | _ => (⟨route.namespace_, route.name ++ "-" ++ toString idx⟩, modifier)

def ruleSplitter (route : HTTPRoute) (idx : ℕ) (rule : HTTPRouteRule) :
    Option ServiceSplitterConfigEntry :=
  if rule.services.length = 1 then none
  else if 0 < (splits rule.services).length then some
    { name := (ruleDestination route idx rule).1.service
      namespace_ := (ruleDestination route idx rule).1.consulNamespace
      splits := splits rule.services
      meta_ := route.meta_ }
  else none

/-- The routes of a rule: one for each match, or one that matches everything. -/
def ruleRoutes (route : HTTPRoute) (idx : ℕ) (rule : HTTPRouteRule) : List ServiceRoute :=
  let destination : ServiceRouteDestination :=
    { namespace_ := (ruleDestination route idx rule).1.consulNamespace
      prefixRewrite := httpRouteFiltersToDestinationPrefixRewrite rule.filters
      requestHeaders := (ruleDestination route idx rule).2
      service := (ruleDestination route idx rule).1.service }
  match rule.matches_ with
  | [] => [{ destination := destination }]
  | _ => rule.matches_.map fun m =>
      { match_ := some (httpRouteMatchToServiceRouteHTTPMatch m), destination := destination }

def httpRouteDiscoveryChain (route : HTTPRoute) :
    ServiceRouterConfigEntry × List ServiceSplitterConfigEntry :=
  ({ name := route.name
     meta_ := route.meta_
     namespace_ := route.namespace_
     routes := route.rules.zipIdx.flatMap fun p => ruleRoutes route p.2 p.1 },
   route.rules.zipIdx.filterMap fun p => ruleSplitter route p.2 p.1)

variable {entry : ConfigEntry} {gateway : ResolvedGateway}
  {orders : ℕ → List (String × List HostnameMatch)} {route : HTTPRoute}

/-- The routes of a rule are among those of the router. -/
theorem ruleRoutes_subset {idx : ℕ} {rule : HTTPRouteRule} (h : route.rules[idx]? = some rule) :
    ruleRoutes route idx rule ⊆ (httpRouteDiscoveryChain route).1.routes := by
  intro r hr
  exact List.mem_flatMap_zipIdx.mpr ⟨idx, rule, h, hr⟩

def hostsKey (hosts : List String) : String :=
  let hostsHash := GoStd.crc32IEEE ((hosts.insertionSort (· ≤ ·)).flatMap GoStd.bytes)
  GoStd.formatUint hostsHash.toNat 16

/-- Prefers the longer path, then more headers, then more query parameters. -/
def compareHTTPRules (ruleA ruleB : HTTPMatch) : Bool :=
  if ruleA.path.value.utf8ByteSize ≠ ruleB.path.value.utf8ByteSize then
    ruleA.path.value.utf8ByteSize > ruleB.path.value.utf8ByteSize
  else if ruleA.headers.length ≠ ruleB.headers.length then
    ruleA.headers.length > ruleB.headers.length
  else ruleA.query.length > ruleB.query.length

def httpServiceDefault (entry : ConfigEntry) (meta_ : GoMap String String) :
    ServiceConfigEntry where
  name := entry.getName
  namespace_ := entry.getNamespace
  protocol := "http"
  meta_ := meta_

/-! ### The consolidator -/

structure HostnameMatch where
  match_ : HTTPMatch
  filters : List HTTPFilter
  services : List HTTPService
  deriving DecidableEq

/-- A `routeConsolidator`. -/
abbrev RouteConsolidator := GoMap String (List HostnameMatch)

/-- The match of a rule that defines none. -/
def defaultMatch : HTTPMatch := { path := ⟨.pathPrefix, "/"⟩ }

def ruleMatches (rule : HTTPRouteRule) : List HostnameMatch :=
  (if rule.matches_.length = 0 then [defaultMatch] else rule.matches_).map fun m =>
    ⟨m, rule.filters, rule.services⟩

def RouteConsolidator.add (f : RouteConsolidator) (route : HTTPRoute) : RouteConsolidator :=
  route.hostnames.foldl (fun f host =>
    f.insert host ((f.lookup host).getD [] ++ route.rules.flatMap ruleMatches)) f

/-- The route of a hostname and the rules collected for it. -/
def consolidatedRoute (gateway : ResolvedGateway) (hostname : String)
    (rules : List HostnameMatch) : HTTPRoute where
  name := gateway.id.service ++ "-" ++ hostsKey [hostname]
  namespace_ := gateway.id.consulNamespace
  meta_ := gateway.meta_
  hostnames := [hostname]
  rules := (GoStd.sliceStable (fun a b => compareHTTPRules a.match_ b.match_) rules).map fun rule =>
    { matches_ := [rule.match_], filters := rule.filters, services := rule.services }

/-- `order` is the order in which the hostnames are visited. -/
def RouteConsolidator.consolidate (gateway : ResolvedGateway)
    (order : List (String × List HostnameMatch)) : List HTTPRoute :=
  order.map fun p => consolidatedRoute gateway p.1 p.2

/-! ### Routes (`sync.go`) -/

/-- The config entries of a route, next to its service. -/
structure RouteChain where
  service : IngressService
  router : Option ServiceRouterConfigEntry := none
  splitters : Option (ConfigEntryIndex .serviceSplitter) := none
  defaults : Option (ConfigEntryIndex .serviceDefaults) := none

/-- The defaults of a route: those of its router and of its splitters. -/
def routeDefaults (router : ServiceRouterConfigEntry)
    (splitters : List ServiceSplitterConfigEntry) (meta_ : GoMap String String) :
    ConfigEntryIndex .serviceDefaults :=
  let serviceDefault := httpServiceDefault (.serviceRouter router) meta_
  splitters.foldl (fun defaults split =>
      -- the default of the router is kept over that of a splitter of its name
      if split.name ≠ serviceDefault.name then
        defaults.add (.serviceDefaults (httpServiceDefault (.serviceSplitter split) meta_))
      else defaults)
    (ConfigEntryIndex.new.add (.serviceDefaults serviceDefault))

def routeDiscoveryChain : ResolvedRoute → RouteChain
  | .http route =>
    let chain := httpRouteDiscoveryChain route
    { service := ⟨chain.1.name, route.hostnames, route.namespace_⟩
      router := some chain.1
      splitters := some (chain.2.foldl
        (fun splitters split => splitters.add (.serviceSplitter split)) .new)
      defaults := some (routeDefaults chain.1 chain.2 route.meta_) }
  | .tcp route =>
    { service := { name := route.service.service, namespace_ := route.service.consulNamespace } }

/-- The consolidator after the routes of a listener. -/
def consolidator (resolved : List ResolvedRoute) : RouteConsolidator :=
  resolved.foldl (fun f route => match route with
    | .http route => f.add route
    | .tcp _ => f) ∅

def flattenHTTPRoutes (gateway : ResolvedGateway) (order : List (String × List HostnameMatch))
    (resolved : List ResolvedRoute) : List ResolvedRoute :=
  (resolved.filter fun
    | .http _ => false
    | .tcp _ => true) ++ (RouteConsolidator.consolidate gateway order).map .http

/-- Keeps the first TCP route only; `found` is set once there was one. -/
def filterTCPRoutes : List ResolvedRoute → (found : Bool) → List ResolvedRoute
  | [], _ => []
  | .tcp route :: routes, found =>
    if found then filterTCPRoutes routes true else .tcp route :: filterTCPRoutes routes true
  | .http route :: routes, found => .http route :: filterTCPRoutes routes found

def mergeRoutes (gateway : ResolvedGateway) (order : List (String × List HostnameMatch))
    (routes : List ResolvedRoute) : List ResolvedRoute :=
  filterTCPRoutes (flattenHTTPRoutes gateway order routes) false

/-! ### Gateways -/

/-- The TLS configuration of a listener, with secure defaults. -/
def listenerTLS (tls : TLSParams) : GatewayTLSConfig where
  -- Envoy's own default is TLS 1.0
  tlsMinVersion := if tls.minVersion ≠ "" then tls.minVersion else "TLSv1_2"
  tlsMaxVersion := tls.maxVersion
  cipherSuites := if 0 < tls.cipherSuites.length then tls.cipherSuites else defaultTLSCipherSuites
  -- only the first certificate is handed out
  sds := tls.certificates.head?.map fun certificate => ⟨"sds-cluster", certificate⟩

/-- What `discoveryChain` returns. -/
structure DiscoveryChain where
  ingress : IngressGatewayConfigEntry
  routers : ConfigEntryIndex .serviceRouter := .new
  splitters : ConfigEntryIndex .serviceSplitter := .new
  defaults : ConfigEntryIndex .serviceDefaults := .new

/-- The loop over the routes of a listener, with the services so far. -/
def addRoutes : List ResolvedRoute → DiscoveryChain → List IngressService →
    DiscoveryChain × List IngressService
  | [], chain, services => (chain, services)
  | route :: routes, chain, services =>
    let entries := routeDiscoveryChain route
    addRoutes routes
      { chain with
        routers := (entries.router.map fun router => chain.routers.add (.serviceRouter router)).getD
          chain.routers
        splitters := (entries.splitters.map chain.splitters.merge).getD chain.splitters
        defaults := (entries.defaults.map chain.defaults.merge).getD chain.defaults }
      (services ++ [entries.service])

/-- One turn of the loop over the listeners: a listener without services is left
out of the ingress gateway. -/
def addListener (gateway : ResolvedGateway) (chain : DiscoveryChain)
    (listener : ResolvedListener) (order : List (String × List HostnameMatch)) : DiscoveryChain :=
  let (chain', services) := addRoutes (mergeRoutes gateway order listener.routes) chain []
  if 0 < services.length then
    { chain' with
      ingress := { chain'.ingress with
        listeners := chain'.ingress.listeners ++
          [⟨listener.port, listener.protocol, services, listenerTLS listener.tls⟩] } }
  else chain'

/-- `orders i` is the order in which the hostnames of listener `i` are visited. -/
def discoveryChain (gateway : ResolvedGateway)
    (orders : ℕ → List (String × List HostnameMatch)) : DiscoveryChain :=
  gateway.listeners.zipIdx.foldl (fun chain p => addListener gateway chain p.1 (orders p.2))
    { ingress :=
        { name := gateway.id.service
          namespace_ := gateway.id.consulNamespace
          meta_ := gateway.meta_
          defaults := gateway.maxConnections } }

/-- The hostnames of every listener are visited as a whole. -/
def Visits (gateway : ResolvedGateway) (orders : ℕ → List (String × List HostnameMatch)) : Prop :=
  ∀ i l, gateway.listeners[i]? = some l → GoMap.Ranges (consolidator l.routes) (orders i)

theorem exists_visits (gateway : ResolvedGateway) : ∃ orders, Visits gateway orders := by
  have hvisit : ∀ i : ℕ, ∃ order, ∀ l, gateway.listeners[i]? = some l →
      GoMap.Ranges (consolidator l.routes) order := by
    intro i
    cases hl : gateway.listeners[i]? with
    | none => exact ⟨[], fun l hl => by cases hl⟩
    | some l =>
      obtain ⟨order, horder⟩ := GoMap.exists_ranges (consolidator l.routes)
      refine ⟨order, fun l' hl' => ?_⟩
      cases hl'
      exact horder
  choose orders horders using hvisit
  exact ⟨orders, horders⟩

/-! ### The consolidator, hostname by hostname -/

theorem RouteConsolidator.mem_add (f : RouteConsolidator) (route : HTTPRoute) (h : String) :
    h ∈ f.add route ↔ h ∈ f ∨ h ∈ route.hostnames := by
  unfold RouteConsolidator.add
  induction route.hostnames generalizing f with
  | nil => simp
  | cons host hosts ih => rw [List.foldl_cons, ih, Finmap.mem_insert, List.mem_cons, or_assoc,
      or_left_comm]

/-- The HTTP routes of a listener serve a hostname. -/
def Served (routes : List ResolvedRoute) (h : String) : Prop :=
  ∃ route, ResolvedRoute.http route ∈ routes ∧ h ∈ route.hostnames

theorem mem_consolidator (routes : List ResolvedRoute) (h : String) :
    h ∈ consolidator routes ↔ Served routes h := by
  -- over every consolidator the loop may start from
  suffices hsuff : ∀ f : RouteConsolidator, h ∈ routes.foldl (fun f route => match route with
      | .http route => f.add route
      | .tcp _ => f) f ↔ h ∈ f ∨ Served routes h by
    rw [consolidator, hsuff]
    simp [Finmap.notMem_empty]
  induction routes with
  | nil => simp [Served]
  | cons route routes ih =>
    intro f
    rw [List.foldl_cons, ih]
    cases route with
    | http route => simp [Served, RouteConsolidator.mem_add, or_and_right, exists_or, or_assoc]
    | tcp route => simp [Served]

theorem mem_filterTCPRoutes_http (route : HTTPRoute) (routes : List ResolvedRoute) (found : Bool) :
    ResolvedRoute.http route ∈ filterTCPRoutes routes found ↔
      ResolvedRoute.http route ∈ routes := by
  induction routes generalizing found with
  | nil => simp [filterTCPRoutes]
  | cons head routes ih =>
    cases head with
    | http head => simp [filterTCPRoutes, ih]
    | tcp head => cases found <;> simp [filterTCPRoutes, ih]

/-- The HTTP routes that are left are the consolidated ones. -/
theorem mem_mergeRoutes_http (gateway : ResolvedGateway)
    (order : List (String × List HostnameMatch)) (routes : List ResolvedRoute) (route : HTTPRoute) :
    ResolvedRoute.http route ∈ mergeRoutes gateway order routes ↔
      ∃ p ∈ order, consolidatedRoute gateway p.1 p.2 = route := by
  rw [mergeRoutes, mem_filterTCPRoutes_http]
  simp [flattenHTTPRoutes, RouteConsolidator.consolidate]

/-! ### The loops -/

/-- The services of a listener. -/
def listenerServices (gateway : ResolvedGateway) (l : ResolvedListener)
    (order : List (String × List HostnameMatch)) : List IngressService :=
  (mergeRoutes gateway order l.routes).map fun route => (routeDiscoveryChain route).service

/-- The routers of a listener, in the order they are added. -/
def listenerRouters (gateway : ResolvedGateway) (l : ResolvedListener)
    (order : List (String × List HostnameMatch)) : List ConfigEntry :=
  (mergeRoutes gateway order l.routes).filterMap fun route =>
    (routeDiscoveryChain route).router.map .serviceRouter

/-- What is emitted for a listener. -/
def ingressListener (gateway : ResolvedGateway) (l : ResolvedListener)
    (order : List (String × List HostnameMatch)) : Option IngressListener :=
  if 0 < (listenerServices gateway l order).length then
    some ⟨l.port, l.protocol, listenerServices gateway l order, listenerTLS l.tls⟩
  else none

/-- The chain with the entries of one more route. -/
def DiscoveryChain.addRoute (chain : DiscoveryChain) (route : ResolvedRoute) : DiscoveryChain :=
  { chain with
    routers := ((routeDiscoveryChain route).router.map fun router =>
      chain.routers.add (.serviceRouter router)).getD chain.routers
    splitters := ((routeDiscoveryChain route).splitters.map chain.splitters.merge).getD
      chain.splitters
    defaults := ((routeDiscoveryChain route).defaults.map chain.defaults.merge).getD
      chain.defaults }

theorem addRoutes_cons (route : ResolvedRoute) (routes : List ResolvedRoute)
    (chain : DiscoveryChain) (services : List IngressService) :
    addRoutes (route :: routes) chain services =
      addRoutes routes (chain.addRoute route) (services ++ [(routeDiscoveryChain route).service]) :=
  rfl

theorem addRoutes_spec (routes : List ResolvedRoute) :
    ∀ (chain : DiscoveryChain) (services : List IngressService),
      (addRoutes routes chain services).2 =
          services ++ routes.map (fun route => (routeDiscoveryChain route).service) ∧
        (addRoutes routes chain services).1.ingress = chain.ingress ∧
        (addRoutes routes chain services).1.routers = (routes.filterMap fun route =>
          (routeDiscoveryChain route).router.map .serviceRouter).foldl .add chain.routers := by
  induction routes with
  | nil => exact fun chain services => ⟨by simp [addRoutes], rfl, rfl⟩
  | cons route routes ih =>
    intro chain services
    obtain ⟨hservices, hingress, hrouters⟩ :=
      ih (chain.addRoute route) (services ++ [(routeDiscoveryChain route).service])
    rw [addRoutes_cons]
    refine ⟨?_, hingress, ?_⟩
    · rw [hservices, List.append_assoc]
      rfl
    · rw [hrouters, DiscoveryChain.addRoute]
      cases hrouter : (routeDiscoveryChain route).router <;> simp [hrouter]

theorem addListener_spec (gateway : ResolvedGateway) (chain : DiscoveryChain)
    (l : ResolvedListener) (order : List (String × List HostnameMatch)) :
    (addListener gateway chain l order).ingress = { chain.ingress with
        listeners := chain.ingress.listeners ++ (ingressListener gateway l order).toList } ∧
      (addListener gateway chain l order).routers =
        (listenerRouters gateway l order).foldl .add chain.routers := by
  obtain ⟨hservices, hingress, hrouters⟩ :=
    addRoutes_spec (mergeRoutes gateway order l.routes) chain []
  have hservices : (addRoutes (mergeRoutes gateway order l.routes) chain []).2 =
      listenerServices gateway l order := hservices
  simp only [addListener, ingressListener, hservices]
  split_ifs
  · exact ⟨by rw [hingress]; rfl, hrouters⟩
  · exact ⟨by rw [hingress]; simp, hrouters⟩

theorem discoveryChain_spec (gateway : ResolvedGateway)
    (orders : ℕ → List (String × List HostnameMatch)) :
    (discoveryChain gateway orders).ingress =
        { name := gateway.id.service
          namespace_ := gateway.id.consulNamespace
          meta_ := gateway.meta_
          defaults := gateway.maxConnections
          listeners := gateway.listeners.zipIdx.filterMap fun p =>
            ingressListener gateway p.1 (orders p.2) } ∧
      (discoveryChain gateway orders).routers =
        (gateway.listeners.zipIdx.flatMap fun p => listenerRouters gateway p.1 (orders p.2)).foldl
          .add .new := by
  -- each listener adds its own to the chain of the listeners before it
  suffices hsuff : ∀ (ls : List (ResolvedListener × ℕ)) (chain : DiscoveryChain),
      (ls.foldl (fun chain p => addListener gateway chain p.1 (orders p.2)) chain).ingress =
          { chain.ingress with
            listeners := chain.ingress.listeners ++
              ls.filterMap (fun p => ingressListener gateway p.1 (orders p.2)) } ∧
        (ls.foldl (fun chain p => addListener gateway chain p.1 (orders p.2)) chain).routers =
          (ls.flatMap fun p => listenerRouters gateway p.1 (orders p.2)).foldl .add chain.routers by
    exact hsuff _ _
  intro ls
  induction ls with
  | nil => exact fun chain => ⟨by simp, rfl⟩
  | cons p ls ih =>
    intro chain
    obtain ⟨hingress, hrouters⟩ := addListener_spec gateway chain p.1 (orders p.2)
    obtain ⟨ihingress, ihrouters⟩ := ih (addListener gateway chain p.1 (orders p.2))
    refine ⟨?_, ?_⟩
    · rw [List.foldl_cons, ihingress, hingress]
      cases hl : ingressListener gateway p.1 (orders p.2) <;> simp [hl]
    · rw [List.foldl_cons, ihrouters, hrouters, List.flatMap_cons, List.foldl_append]

theorem mem_ingressListeners {out : IngressListener} :
    out ∈ (discoveryChain gateway orders).ingress.listeners ↔ ∃ (i : ℕ) (l : ResolvedListener),
      gateway.listeners[i]? = some l ∧ ingressListener gateway l (orders i) = some out := by
  rw [(discoveryChain_spec gateway orders).1]
  exact List.mem_filterMap_zipIdx

theorem addRoutes_fst (routes : List ResolvedRoute) (chain : DiscoveryChain)
    (services : List IngressService) :
    (addRoutes routes chain services).1 = routes.foldl .addRoute chain := by
  induction routes generalizing chain services with
  | nil => rfl
  | cons route routes ih => rw [addRoutes_cons, ih, List.foldl_cons]

/-- A route leaves the ingress entry alone. -/
theorem foldl_addRoute_ingress (routes : List ResolvedRoute) (chain : DiscoveryChain)
    (ingress : IngressGatewayConfigEntry) :
    routes.foldl .addRoute { chain with ingress := ingress } =
      { routes.foldl DiscoveryChain.addRoute chain with ingress := ingress } := by
  induction routes generalizing chain with
  | nil => rfl
  | cons route routes ih => exact ih (chain.addRoute route)

theorem addListener_eq_foldl (gateway : ResolvedGateway) (chain : DiscoveryChain)
    (l : ResolvedListener) (order : List (String × List HostnameMatch)) :
    ∃ ingress, addListener gateway chain l order =
      { (mergeRoutes gateway order l.routes).foldl DiscoveryChain.addRoute chain with
        ingress := ingress } := by
  simp only [addListener, addRoutes_fst]
  split_ifs
  · exact ⟨_, rfl⟩
  · exact ⟨_, rfl⟩

/-- The routes of all listeners, in the order in which they are added. -/
def mergedRoutes (gateway : ResolvedGateway)
    (orders : ℕ → List (String × List HostnameMatch)) : List ResolvedRoute :=
  gateway.listeners.zipIdx.flatMap fun p => mergeRoutes gateway (orders p.2) p.1.routes

/-- **The routers, splitters and defaults of a gateway** are those of its routes,
one after the other. -/
theorem discoveryChain_eq_foldl (gateway : ResolvedGateway)
    (orders : ℕ → List (String × List HostnameMatch)) :
    ∃ ingress, discoveryChain gateway orders =
      (mergedRoutes gateway orders).foldl .addRoute { ingress := ingress } := by
  suffices hsuff : ∀ (ls : List (ResolvedListener × ℕ)) (chain : DiscoveryChain), ∃ ingress,
      ls.foldl (fun chain p => addListener gateway chain p.1 (orders p.2)) chain =
        { (ls.flatMap fun p => mergeRoutes gateway (orders p.2) p.1.routes).foldl
            DiscoveryChain.addRoute chain with ingress := ingress } by
    obtain ⟨ingress, heq⟩ := hsuff gateway.listeners.zipIdx _
    exact ⟨ingress, heq.trans (foldl_addRoute_ingress _ _ ingress).symm⟩
  intro ls
  induction ls with
  | nil => exact fun chain => ⟨chain.ingress, rfl⟩
  | cons p ls ih =>
    intro chain
    obtain ⟨ingress, hlistener⟩ := addListener_eq_foldl gateway chain p.1 (orders p.2)
    obtain ⟨ingress', heq⟩ := ih (addListener gateway chain p.1 (orders p.2))
    refine ⟨ingress', ?_⟩
    rw [List.foldl_cons, heq, hlistener, foldl_addRoute_ingress, List.flatMap_cons,
      List.foldl_append]

theorem mem_mergedRoutes {route : ResolvedRoute} :
    route ∈ mergedRoutes gateway orders ↔ ∃ (i : ℕ) (l : ResolvedListener),
      gateway.listeners[i]? = some l ∧ route ∈ mergeRoutes gateway (orders i) l.routes := by
  rw [mergedRoutes]
  exact List.mem_flatMap_zipIdx

/-! ### The entries of a discovery chain -/

namespace DiscoveryChain

/-- The entry of a kind and a name. -/
def get (chain : DiscoveryChain) (kind : Kind) (name : String) : Option ConfigEntry :=
  match kind with
  | .ingressGateway =>
    if name = chain.ingress.name then some (.ingressGateway chain.ingress) else none
  | .serviceRouter => chain.routers.get name
  | .serviceSplitter => chain.splitters.get name
  | .serviceDefaults => chain.defaults.get name

theorem get_eq_some {chain : DiscoveryChain} {kind : Kind} {name : String}
    (h : chain.get kind name = some entry) : entry.getKind = kind ∧ entry.getName = name := by
  cases kind with
  | ingressGateway =>
    simp only [get] at h
    split_ifs at h with hname
    cases h
    exact ⟨rfl, hname.symm⟩
  | serviceRouter => exact chain.routers.keyed h
  | serviceSplitter => exact chain.splitters.keyed h
  | serviceDefaults => exact chain.defaults.keyed h

/-- The entry is one of the entries of the chain. -/
def Has (chain : DiscoveryChain) (entry : ConfigEntry) : Prop :=
  chain.get entry.getKind entry.getName = some entry

/-- The entries of a chain have different names, kind by kind. -/
theorem Has.eq_of_key_eq {chain : DiscoveryChain} {entry' : ConfigEntry} (h : chain.Has entry)
    (h' : chain.Has entry') (hkey : entry.key = entry'.key) : entry = entry' := by
  have hkind : entry.getKind = entry'.getKind := congrArg EntryKey.kind hkey
  have hname : entry.getName = entry'.getName := congrArg EntryKey.name hkey
  rw [Has, hkind, hname] at h
  exact Option.some.inj (h.symm.trans h')

theorem has_iff {chain : DiscoveryChain} :
    chain.Has entry ↔ entry = .ingressGateway chain.ingress ∨ chain.routers.Has entry ∨
      chain.splitters.Has entry ∨ chain.defaults.Has entry := by
  have hother : ∀ {kind : Kind} (i : ConfigEntryIndex kind), entry.getKind ≠ kind → ¬ i.Has entry :=
    fun i hne h => hne h.getKind
  cases entry with
  | ingressGateway entry =>
    rw [or_iff_left]
    · change (if entry.name = chain.ingress.name then some (.ingressGateway chain.ingress)
        else none) = some (ConfigEntry.ingressGateway entry) ↔ _
      constructor
      · intro h
        split_ifs at h
        exact (Option.some.inj h).symm
      · rintro ⟨⟩
        exact if_pos rfl
    · rintro (h | h | h)
      · exact hother _ (by simp [ConfigEntry.getKind]) h
      · exact hother _ (by simp [ConfigEntry.getKind]) h
      · exact hother _ (by simp [ConfigEntry.getKind]) h
  | serviceRouter entry =>
    simp [hother chain.splitters (by simp [ConfigEntry.getKind]),
      hother chain.defaults (by simp [ConfigEntry.getKind])]
    rfl
  | serviceSplitter entry =>
    simp [hother chain.routers (by simp [ConfigEntry.getKind]),
      hother chain.defaults (by simp [ConfigEntry.getKind])]
    rfl
  | serviceDefaults entry =>
    simp [hother chain.routers (by simp [ConfigEntry.getKind]),
      hother chain.splitters (by simp [ConfigEntry.getKind])]
    rfl

end DiscoveryChain

/-- The entry is one of the entries of a route. -/
def RouteChain.Has (chain : RouteChain) (entry : ConfigEntry) : Prop :=
  (∃ router, chain.router = some router ∧ entry = .serviceRouter router) ∨
    (∃ i, chain.splitters = some i ∧ i.Has entry) ∨ ∃ i, chain.defaults = some i ∧ i.Has entry

theorem has_routeDefaults {router : ServiceRouterConfigEntry}
    {splitters : List ServiceSplitterConfigEntry} {meta_ : GoMap String String}
    (h : (routeDefaults router splitters meta_).Has entry) :
    entry = .serviceDefaults (httpServiceDefault (.serviceRouter router) meta_) ∨
      ∃ split ∈ splitters,
        entry = .serviceDefaults (httpServiceDefault (.serviceSplitter split) meta_) := by
  unfold routeDefaults at h
  -- the fold is taken from any index, for the induction
  suffices hsuff : ∀ i : ConfigEntryIndex .serviceDefaults,
      (splitters.foldl (fun defaults split =>
        if split.name ≠ (httpServiceDefault (.serviceRouter router) meta_).name then
          defaults.add (.serviceDefaults (httpServiceDefault (.serviceSplitter split) meta_))
        else defaults) i).Has entry →
      i.Has entry ∨ ∃ split ∈ splitters,
        entry = .serviceDefaults (httpServiceDefault (.serviceSplitter split) meta_) by
    rcases hsuff _ h with h | h
    · rcases ConfigEntryIndex.has_add h with rfl | h
      · exact .inl rfl
      · exact absurd h (ConfigEntryIndex.not_has_new _)
    · exact .inr h
  clear h
  induction splitters with
  | nil => exact fun i h => .inl h
  | cons head splitters ih =>
    intro i h
    rcases ih _ h with h | ⟨split, hmem, rfl⟩
    · beta_reduce at h
      split_ifs at h
      · rcases ConfigEntryIndex.has_add h with rfl | h
        · exact .inr ⟨head, List.mem_cons_self .., rfl⟩
        · exact .inl h
      · exact .inl h
    · exact .inr ⟨split, List.mem_cons_of_mem _ hmem, rfl⟩

/-- The entries of an HTTP route lie in its namespace. -/
theorem routeDiscoveryChain_namespace (h : (routeDiscoveryChain (.http route)).Has entry) :
    entry.getNamespace = route.namespace_ := by
  have hsplit : ∀ split ∈ (httpRouteDiscoveryChain route).2,
      split.namespace_ = route.namespace_ := by
    intro split hmem
    obtain ⟨⟨rule, idx⟩, -, hrule⟩ := List.mem_filterMap.1 hmem
    simp only [ruleSplitter] at hrule
    split_ifs at hrule with hlen hpos
    cases hrule
    simp only [ruleDestination]
    split
    · simp_all
    · rfl
  rcases h with ⟨router, hrouter, rfl⟩ | ⟨i, hi, h⟩ | ⟨i, hi, h⟩
  · cases hrouter
    rfl
  · cases hi
    rcases ConfigEntryIndex.has_foldl_add h with h | ⟨split, hmem, rfl⟩
    · exact absurd h (ConfigEntryIndex.not_has_new _)
    · exact hsplit split hmem
  · cases hi
    rcases has_routeDefaults h with rfl | ⟨split, hmem, rfl⟩
    · rfl
    · exact hsplit split hmem

/-- The entry is one of the entries of the chain, but not the ingress entry. -/
def DiscoveryChain.HasService (chain : DiscoveryChain) (entry : ConfigEntry) : Prop :=
  chain.routers.Has entry ∨ chain.splitters.Has entry ∨ chain.defaults.Has entry

theorem DiscoveryChain.addRoute_hasService {chain : DiscoveryChain} {route : ResolvedRoute}
    (h : (chain.addRoute route).HasService entry) :
    chain.HasService entry ∨ (routeDiscoveryChain route).Has entry := by
  rcases h with h | h | h
  · cases hr : (routeDiscoveryChain route).router with
    | none => exact .inl (.inl (by simpa [addRoute, hr] using h))
    | some router =>
      simp only [addRoute, hr, Option.map_some, Option.getD_some] at h
      rcases ConfigEntryIndex.has_add h with rfl | h
      · exact .inr (.inl ⟨router, hr, rfl⟩)
      · exact .inl (.inl h)
  · rcases ConfigEntryIndex.has_mergeOption h with h | h
    · exact .inl (.inr (.inl h))
    · exact .inr (.inr (.inl h))
  · rcases ConfigEntryIndex.has_mergeOption h with h | h
    · exact .inl (.inr (.inr h))
    · exact .inr (.inr (.inr h))

theorem DiscoveryChain.foldl_addRoute_hasService {routes : List ResolvedRoute}
    {chain : DiscoveryChain} (h : (routes.foldl addRoute chain).HasService entry) :
    chain.HasService entry ∨ ∃ route ∈ routes, (routeDiscoveryChain route).Has entry := by
  induction routes generalizing chain with
  | nil => exact .inl h
  | cons route routes ih =>
    rcases ih h with h | ⟨route', hmem, h⟩
    · rcases chain.addRoute_hasService h with h | h
      · exact .inl h
      · exact .inr ⟨route, List.mem_cons_self, h⟩
    · exact .inr ⟨route', List.mem_cons_of_mem _ hmem, h⟩

/-- Every router, splitter and default comes from a route of a listener. -/
theorem discoveryChain_hasService (h : (discoveryChain gateway orders).HasService entry) :
    ∃ (i : ℕ) (l : ResolvedListener) (route : ResolvedRoute), gateway.listeners[i]? = some l ∧
      route ∈ mergeRoutes gateway (orders i) l.routes ∧ (routeDiscoveryChain route).Has entry := by
  obtain ⟨ingress, heq⟩ := discoveryChain_eq_foldl gateway orders
  rw [heq] at h
  rcases DiscoveryChain.foldl_addRoute_hasService h with (h | h | h) | ⟨route, hroute, h⟩
  · exact absurd h (ConfigEntryIndex.not_has_new _)
  · exact absurd h (ConfigEntryIndex.not_has_new _)
  · exact absurd h (ConfigEntryIndex.not_has_new _)
  · obtain ⟨i, l, hl, hroute⟩ := mem_mergedRoutes.1 hroute
    exact ⟨i, l, route, hl, hroute, h⟩

/-- The entries of a gateway lie in its namespace. -/
theorem discoveryChain_namespace (h : (discoveryChain gateway orders).Has entry) :
    entry.getNamespace = gateway.id.consulNamespace := by
  rcases DiscoveryChain.has_iff.1 h with rfl | h
  · rw [ConfigEntry.getNamespace, (discoveryChain_spec gateway orders).1]
  · obtain ⟨i, l, route, -, hroute, hentry⟩ := discoveryChain_hasService h
    cases route with
    | http route =>
      obtain ⟨p, -, rfl⟩ := (mem_mergeRoutes_http ..).1 hroute
      rw [routeDiscoveryChain_namespace hentry]
      rfl
    | tcp route =>
      rcases hentry with ⟨_, h, -⟩ | ⟨_, h, -⟩ | ⟨_, h, -⟩ <;> cases h

end Consul
