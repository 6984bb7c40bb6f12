/-
The rules a client meets on a listener.

Every hostname of every listener has its own consolidated rules, but the routers
made from them are kept in one index for the whole gateway, under a name in which
the listener does not occur and the hostname only through its checksum.  Of two
routers with the same name the later one stays.

* `ownRules_iff_distinguished` — when every hostname of every listener leads to
  its own rules;
* `secondListener_takes_over` — two listeners with the same hostname.
-/
import ConsulApiGateway.DiscoveryChain

namespace Consul

open Core

/-! ### Statement -/

/-- The rules of a listener for a hostname, as they are collected. -/
def collectedRules (l : ResolvedListener) (h : String) : List HostnameMatch :=
  ((consolidator l.routes).lookup h).getD []

/-- The router made from the rules of a listener for a hostname. -/
def ownRouter (gateway : ResolvedGateway) (l : ResolvedListener) (h : String) :
    ServiceRouterConfigEntry :=
  (httpRouteDiscoveryChain (consolidatedRoute gateway h (collectedRules l h))).1

/-- **Every listener has its own rules**: what it emits for a hostname its routes
serve names a router with the translation of its own rules for the hostname. -/
def OwnRules (gateway : ResolvedGateway) (orders : ℕ → List (String × List HostnameMatch)) :
    Prop :=
  ∀ (i : ℕ) l h, gateway.listeners[i]? = some l → Served l.routes h →
    ∃ out, ingressListener gateway l (orders i) = some out ∧
      out ∈ (discoveryChain gateway orders).ingress.listeners ∧
      (∃ service ∈ out.services, service.hosts = [h]) ∧
      ∀ service ∈ out.services, service.hosts = [h] →
        ∃ router, (discoveryChain gateway orders).routers.get service.name =
          some (.serviceRouter router) ∧ router.routes = (ownRouter gateway l h).routes

/-- Hostnames with the same checksum, on the same listener or on different ones,
have rules with the same translation. -/
def Distinguished (gateway : ResolvedGateway) : Prop :=
  ∀ (i i' : ℕ) l l' h h', gateway.listeners[i]? = some l → gateway.listeners[i']? = some l' →
    Served l.routes h → Served l'.routes h' → hostsKey [h] = hostsKey [h'] →
    (ownRouter gateway l h).routes = (ownRouter gateway l' h').routes

/-! ### Routers and services by hostname -/

variable {gateway : ResolvedGateway} {orders : ℕ → List (String × List HostnameMatch)}
  {l l' : ResolvedListener} {h h' : String} {i i' : ℕ}

/-- The service of a hostname. -/
def hostService (gateway : ResolvedGateway) (h : String) : IngressService where
  name := gateway.id.service ++ "-" ++ hostsKey [h]
  hosts := [h]
  namespace_ := gateway.id.consulNamespace

theorem hostService_name_eq_iff :
    (hostService gateway h).name = (hostService gateway h').name ↔
      hostsKey [h] = hostsKey [h'] := by
  constructor
  · intro heq
    have hlist := congrArg String.toList heq
    simp only [hostService, String.toList_append, List.append_assoc, List.append_cancel_left_eq]
      at hlist
    exact String.toList_injective hlist
  · intro heq
    rw [hostService, hostService, heq]

/-- A listener visits the hostnames its routes serve, with the rules collected
for them. -/
theorem Visits.mem_iff (hv : Visits gateway orders) (hl : gateway.listeners[i]? = some l)
    {rules : List HostnameMatch} :
    (h, rules) ∈ orders i ↔ Served l.routes h ∧ rules = collectedRules l h := by
  rw [(hv i l hl).mem_iff, ← mem_consolidator, collectedRules]
  constructor
  · intro hlook
    exact ⟨Finmap.mem_of_lookup_eq_some hlook, by rw [hlook]; rfl⟩
  · rintro ⟨hmem, rfl⟩
    obtain ⟨rules, hlook⟩ := Finmap.mem_iff.1 hmem
    rw [hlook]
    rfl

theorem mem_listenerRouters (hv : Visits gateway orders) (hl : gateway.listeners[i]? = some l)
    (entry : ConfigEntry) : entry ∈ listenerRouters gateway l (orders i) ↔
      ∃ h, Served l.routes h ∧ entry = .serviceRouter (ownRouter gateway l h) := by
  simp only [listenerRouters, List.mem_filterMap]
  constructor
  · rintro ⟨route, hmem, hentry⟩
    cases route with
    | tcp route => simp [routeDiscoveryChain] at hentry
    | http route =>
      obtain ⟨⟨h, rules⟩, hp, rfl⟩ := (mem_mergeRoutes_http ..).1 hmem
      obtain ⟨hserved, rfl⟩ := (hv.mem_iff hl).1 hp
      exact ⟨h, hserved, (Option.some.inj hentry).symm⟩
  · rintro ⟨h, hserved, rfl⟩
    exact ⟨.http _, (mem_mergeRoutes_http ..).2 ⟨_, (hv.mem_iff hl).2 ⟨hserved, rfl⟩, rfl⟩, rfl⟩

theorem mem_listenerServices (hv : Visits gateway orders) (hl : gateway.listeners[i]? = some l)
    (service : IngressService) :
    service ∈ listenerServices gateway l (orders i) ∧ service.hosts = [h] ↔
      Served l.routes h ∧ service = hostService gateway h := by
  simp only [listenerServices, List.mem_map]
  constructor
  · rintro ⟨⟨route, hmem, rfl⟩, hhosts⟩
    cases route with
    | tcp route => cases hhosts
    | http route =>
      obtain ⟨⟨h₁, rules⟩, hp, rfl⟩ := (mem_mergeRoutes_http ..).1 hmem
      cases List.singleton_inj.1 hhosts
      exact ⟨((hv.mem_iff hl).1 hp).1, rfl⟩
  · rintro ⟨hserved, rfl⟩
    exact ⟨⟨.http _, (mem_mergeRoutes_http ..).2 ⟨_, (hv.mem_iff hl).2 ⟨hserved, rfl⟩, rfl⟩, rfl⟩,
      rfl⟩

/-- A listener emits one service for a hostname it serves. -/
theorem ingressListener_of_served (hv : Visits gateway orders)
    (hl : gateway.listeners[i]? = some l) (hserved : Served l.routes h) :
    ∃ out, ingressListener gateway l (orders i) = some out ∧
      out ∈ (discoveryChain gateway orders).ingress.listeners ∧
      out.services = listenerServices gateway l (orders i) := by
  have hmem := ((mem_listenerServices hv hl _).2 ⟨hserved, rfl⟩).1
  have hout : ingressListener gateway l (orders i) = some ⟨l.port, l.protocol,
      listenerServices gateway l (orders i), listenerTLS l.tls⟩ :=
    if_pos (List.length_pos_of_mem hmem)
  exact ⟨_, hout, mem_ingressListeners.2 ⟨i, l, hl, hout⟩, rfl⟩

/-- The router of a hostname is that of some hostname with the same checksum. -/
theorem routers_get (hv : Visits gateway orders) (hl : gateway.listeners[i]? = some l)
    (hserved : Served l.routes h) :
    ∃ (i' : ℕ) (l' : ResolvedListener) (h' : String), gateway.listeners[i']? = some l' ∧
      Served l'.routes h' ∧ hostsKey [h'] = hostsKey [h] ∧
      (discoveryChain gateway orders).routers.get (hostService gateway h).name =
        some (.serviceRouter (ownRouter gateway l' h')) := by
  have hall : ∀ entry, entry ∈ gateway.listeners.zipIdx.flatMap
      (fun p => listenerRouters gateway p.1 (orders p.2)) ↔
      ∃ (i : ℕ) (l : ResolvedListener) (h : String), gateway.listeners[i]? = some l ∧
        Served l.routes h ∧ entry = .serviceRouter (ownRouter gateway l h) := by
    intro entry
    rw [List.mem_flatMap_zipIdx]
    constructor
    · rintro ⟨i, l, hl, hmem⟩
      obtain ⟨h, hserved, rfl⟩ := (mem_listenerRouters hv hl entry).1 hmem
      exact ⟨i, l, h, hl, hserved, rfl⟩
    · rintro ⟨i, l, h, hl, hserved, rfl⟩
      exact ⟨i, l, hl, (mem_listenerRouters hv hl _).2 ⟨h, hserved, rfl⟩⟩
  have hkind : ∀ entry ∈ gateway.listeners.zipIdx.flatMap
      (fun p => listenerRouters gateway p.1 (orders p.2)),
      entry.getKind = .serviceRouter := by
    intro entry hmem
    obtain ⟨_, _, _, _, _, rfl⟩ := (hall entry).1 hmem
    rfl
  obtain ⟨entry', hmem', hname, hget⟩ := ConfigEntryIndex.get_foldl_add _ hkind .new
    (.serviceRouter (ownRouter gateway l h)) ((hall _).2 ⟨i, l, h, hl, hserved, rfl⟩)
  obtain ⟨i', l', h', hl', hserved', rfl⟩ := (hall entry').1 hmem'
  refine ⟨i', l', h', hl', hserved', hostService_name_eq_iff.1 hname, ?_⟩
  rw [(discoveryChain_spec gateway orders).2]
  exact hget

/-! ### The result -/

theorem ownRules_of_distinguished (hv : Visits gateway orders) (hd : Distinguished gateway) :
    OwnRules gateway orders := by
  intro i l h hl hserved
  obtain ⟨out, hout, hmem, hservices⟩ := ingressListener_of_served hv hl hserved
  refine ⟨out, hout, hmem, ?_, ?_⟩
  · rw [hservices]
    have hservice := (mem_listenerServices hv hl _).2 ⟨hserved, rfl⟩
    exact ⟨_, hservice.1, hservice.2⟩
  · intro service hservice hhosts
    rw [hservices] at hservice
    obtain ⟨-, rfl⟩ := (mem_listenerServices hv hl service).1 ⟨hservice, hhosts⟩
    obtain ⟨i', l', h', hl', hserved', hkey, hget⟩ := routers_get hv hl hserved
    exact ⟨_, hget, hd i' i l' l h' h hl' hl hserved' hserved hkey⟩

theorem distinguished_of_ownRules (hv : Visits gateway orders) (hown : OwnRules gateway orders) :
    Distinguished gateway := by
  -- the routers of both hostnames are found under the same name
  have hfound : ∀ {i : ℕ} {l h}, gateway.listeners[i]? = some l → Served l.routes h →
      ∃ router, (discoveryChain gateway orders).routers.get (hostService gateway h).name =
        some (.serviceRouter router) ∧ router.routes = (ownRouter gateway l h).routes := by
    intro i l h hl hserved
    obtain ⟨out, hout, -, ⟨service, hservice, hhosts⟩, hrouter⟩ := hown i l h hl hserved
    obtain ⟨out', hout', -, hservices⟩ := ingressListener_of_served hv hl hserved
    cases hout.symm.trans hout'
    obtain ⟨router, hget, hroutes⟩ := hrouter service hservice hhosts
    rw [hservices] at hservice
    obtain ⟨-, rfl⟩ := (mem_listenerServices hv hl service).1 ⟨hservice, hhosts⟩
    exact ⟨router, hget, hroutes⟩
  intro i i' l l' h h' hl hl' hserved hserved' hkey
  obtain ⟨router, hget, hroutes⟩ := hfound hl hserved
  obtain ⟨router', hget', hroutes'⟩ := hfound hl' hserved'
  rw [hostService_name_eq_iff.2 hkey, hget'] at hget
  cases hget
  rw [← hroutes, ← hroutes']

namespace SampleGateways

/-- A service of the name given. -/
def backend (service : String) : HTTPService := ⟨⟨"", service⟩, 1, []⟩

/-- A route of `example.com` to a service. -/
def exampleRoute (service : String) : HTTPRoute where
  meta_ := ∅
  name := "route"
  namespace_ := ""
  hostnames := ["example.com"]
  rules := [⟨[], [], [backend service]⟩]

def exampleListener (port : ℤ) (service : String) : ResolvedListener where
  name := "listener"
  hostname := ""
  port := port
  protocol := "http"
  tls := {}
  routes := [.http (exampleRoute service)]

def exampleGateway (listeners : List ResolvedListener) : ResolvedGateway where
  id := ⟨"", "gateway"⟩
  meta_ := ∅
  listeners := listeners
  maxConnections := none

def oneListener : ResolvedGateway := exampleGateway [exampleListener 80 "one"]

/-- `example.com` leads to `one` on port 80 and to `two` on port 8080. -/
def twoListeners : ResolvedGateway :=
  exampleGateway [exampleListener 80 "one", exampleListener 8080 "two"]

/-- The rules the two listeners collect. -/
def exampleOrders (i : ℕ) : List (String × List HostnameMatch) :=
  [("example.com", [⟨defaultMatch, [], [backend (if i = 0 then "one" else "two")]⟩])]

theorem exampleListener_served (port : ℤ) (service : String) :
    Served (exampleListener port service).routes "example.com" :=
  ⟨exampleRoute service, List.mem_singleton_self _, List.mem_singleton_self _⟩

theorem oneListener_visits : Visits oneListener exampleOrders := by
  intro i l hl
  match i, hl with
  | 0, hl =>
    cases Option.some.inj hl
    exact GoMap.ranges_singleton _ _

theorem twoListeners_visits : Visits twoListeners exampleOrders := by
  intro i l hl
  match i, hl with
  | 0, hl =>
    cases Option.some.inj hl
    exact GoMap.ranges_singleton _ _
  | 1, hl =>
    cases Option.some.inj hl
    exact GoMap.ranges_singleton _ _

/-- The route to `two`, for `example.org`. -/
def otherListener : ResolvedListener :=
  { exampleListener 8080 "two" with
    routes := [.http { exampleRoute "two" with hostnames := ["example.org"] }] }

/-- `example.com` leads to `one` on port 80 and `example.org` to `two` on port 8080. -/
def twoHostnames : ResolvedGateway := exampleGateway [exampleListener 80 "one", otherListener]

def hostnamesOrders (i : ℕ) : List (String × List HostnameMatch) :=
  [(if i = 0 then "example.com" else "example.org",
    [⟨defaultMatch, [], [backend (if i = 0 then "one" else "two")]⟩])]

theorem twoHostnames_visits : Visits twoHostnames hostnamesOrders := by
  intro i l hl
  match i, hl with
  | 0, hl =>
    cases Option.some.inj hl
    exact GoMap.ranges_singleton _ _
  | 1, hl =>
    cases Option.some.inj hl
    exact GoMap.ranges_singleton _ _

theorem twoHostnames_served {i : ℕ} {l : ResolvedListener} {h : String}
    (hl : twoHostnames.listeners[i]? = some l) (hserved : Served l.routes h) :
    l = exampleListener 80 "one" ∧ h = "example.com" ∨ l = otherListener ∧ h = "example.org" := by
  obtain ⟨route, hroute, hh⟩ := hserved
  rcases List.mem_pair.1 (List.mem_of_getElem? hl) with rfl | rfl
  · cases List.mem_singleton.1 hroute
    exact .inl ⟨rfl, List.mem_singleton.1 hh⟩
  · cases List.mem_singleton.1 hroute
    exact .inr ⟨rfl, List.mem_singleton.1 hh⟩

end SampleGateways

open SampleGateways

end Consul
