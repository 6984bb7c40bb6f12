/-
The splitters behind a live ingress gateway.

A synchronisation sets all routers before the first splitter.  While the ingress
entry in Consul already names a router, the router that replaces it may therefore
lead to virtual services that no splitter splits yet, or that are still split
among the services of the rule they stood for before.

* `Snapshot` — Consul's entries, with the synchronisation that set each of them;
* `takeWrites_cases` — the stages of a synchronisation;
* `splitsPresent_run_iff` — the runs along which no live router lacks a splitter;
* `weightedRule_lacks_splitter` — an update that adds a weighted rule.
-/
import ConsulApiGateway.LiveServices

namespace Consul

open Core

/-! ### The synchronisation that set an entry -/

/-- A synchronisation: its gateway, and the orders its hostnames are visited in. -/
structure Origin where
  gateway : ResolvedGateway
  orders : ℕ → List (String × List HostnameMatch)

namespace Origin

/-- The entries that it computes. -/
abbrev chain (o : Origin) : DiscoveryChain := discoveryChain o.gateway o.orders

/-- The route that its router of the name is made from. -/
def source (o : Origin) (name : String) : Option HTTPRoute :=
  routerSource (mergedRoutes o.gateway o.orders) name

end Origin

/-- Consul's entries at one moment, with the synchronisation that set each of
them last. -/
@[ext] structure Snapshot where
  consul : Entries
  origins : GoMap EntryKey Origin

namespace Snapshot

/-- A write of the synchronisation. -/
def write (origin : Origin) (now : Snapshot) (w : Write) : Snapshot where
  consul := w.apply now.consul
  origins := match w with
    | .set entry => now.origins.insert entry.key origin
    | .delete entry => now.origins.erase entry.key

def writeAll (origin : Origin) (now : Snapshot) (writes : List Write) : Snapshot :=
  writes.foldl (write origin) now

theorem writeAll_consul (origin : Origin) (now : Snapshot) (writes : List Write) :
    (now.writeAll origin writes).consul = applyAll now.consul writes := by
  induction writes generalizing now with
  | nil => rfl
  | cons w writes ih => exact ih (now.write origin w)

/-- An entry was set by the writes, or none of them is about it. -/
theorem writeAll_origins {origin o : Origin} {now : Snapshot} {writes : List Write} {k : EntryKey}
    (h : (now.writeAll origin writes).origins.lookup k = some o) :
    (o = origin ∧ ∃ entry, .set entry ∈ writes ∧ entry.key = k) ∨
      ((∀ w ∈ writes, w.key ≠ k) ∧ now.origins.lookup k = some o) := by
  induction writes generalizing now with
  | nil => exact .inr ⟨by simp, h⟩
  | cons w writes ih =>
    rcases ih h with ⟨ho, entry, hset, hkey⟩ | ⟨hne, hlook⟩
    · exact .inl ⟨ho, entry, List.mem_cons_of_mem _ hset, hkey⟩
    · cases w with
      | set entry =>
        have hlook : (now.origins.insert entry.key origin).lookup k = some o := hlook
        rw [GoMap.lookup_insert_ite] at hlook
        split_ifs at hlook with hkey
        · cases hlook
          exact .inl ⟨rfl, entry, List.mem_cons_self, hkey.symm⟩
        · exact .inr ⟨List.forall_mem_cons.2 ⟨Ne.symm hkey, hne⟩, hlook⟩
      | delete entry =>
        have hlook : (now.origins.erase entry.key).lookup k = some o := hlook
        rw [GoMap.lookup_erase_ite] at hlook
        split_ifs at hlook with hkey
        exact .inr ⟨List.forall_mem_cons.2 ⟨Ne.symm hkey, hne⟩, hlook⟩

/-- What was set stays with the synchronisation that set it. -/
theorem writeAll_origins_of_set {origin : Origin} {now : Snapshot} {entries : List ConfigEntry}
    {entry : ConfigEntry} (h : entry ∈ entries) :
    (now.writeAll origin (entries.map .set)).origins.lookup entry.key = some origin := by
  -- also if it was the origin before the other entries are set
  suffices hsuff : ∀ (entries : List ConfigEntry) (now : Snapshot),
      entry ∈ entries ∨ now.origins.lookup entry.key = some origin →
      (now.writeAll origin (entries.map .set)).origins.lookup entry.key = some origin by
    exact hsuff entries now (.inl h)
  intro entries
  induction entries with
  | nil =>
    rintro now (h | h)
    · cases h
    · exact h
  | cons head entries ih =>
    intro now h
    refine ih (now.write origin (.set head)) ?_
    have hlook : (now.write origin (.set head)).origins.lookup entry.key =
        if entry.key = head.key then some origin else now.origins.lookup entry.key :=
      GoMap.lookup_insert_ite ..
    rw [hlook]
    rcases h with h | h
    · rcases List.mem_cons.1 h with rfl | h
      · exact .inr (if_pos rfl)
      · exact .inl h
    · right
      split_ifs
      · rfl
      · exact h

end Snapshot

/-! ### Statement -/

/-- The rule is split among services, one of them with weight. -/
def Split (rule : HTTPRouteRule) : Prop :=
  rule.services.length ≠ 1 ∧ ∃ service ∈ rule.services, service.weight ≠ 0

/-- The key of the splitter of a virtual service. -/
def splitterKey (namespace_ service : String) : EntryKey := ⟨.serviceSplitter, namespace_, service⟩

/-- Consul has a splitter of the key with the splits of the rule. -/
def SplitAt (consul : Entries) (k : EntryKey) (rule : HTTPRouteRule) : Prop :=
  ∃ splitter, consul.lookup k = some (.serviceSplitter splitter) ∧
    splitter.splits = splits rule.services

/-- The ingress entry in Consul names the router of the key. -/
def Live (id : GatewayID) (consul : Entries) (k : EntryKey) : Prop :=
  ∃ ingress, consul.lookup (ingressKey id) = some (.ingressGateway ingress) ∧
    ∃ out ∈ ingress.listeners, ∃ service ∈ out.services,
      k = ⟨.serviceRouter, service.namespace_, service.name⟩

/-- **Every live router has its splitters**: where one of its routes leads to a
virtual service, and the rule it was made from is split among services, there is a
splitter of the service with the splits of the rule. -/
def SplitsPresent (id : GatewayID) (now : Snapshot) : Prop :=
  ∀ k, Live id now.consul k → ∀ router, now.consul.lookup k = some (.serviceRouter router) →
    ∀ origin, now.origins.lookup k = some origin → ∀ route, origin.source k.name = some route →
      ∀ (i : ℕ) r rule, router.routes[i]? = some r → route.rules[i]? = some rule → Split rule →
        SplitAt now.consul (splitterKey r.destination.namespace_ r.destination.service) rule

/-- Consul has the splitters of a route. -/
def HasSplitters (consul : Entries) (route : HTTPRoute) : Prop :=
  ∀ (i : ℕ) rule, route.rules[i]? = some rule → Split rule →
    SplitAt consul (splitterKey route.namespace_ (virtualService route.name i)) rule

/-- Of the routers that the ingress entry in Consul names, those that the
synchronisation is about to replace have the splitters of the new router already. -/
def SplittersReady (id : GatewayID) (consul : Entries) (origin : Origin) : Prop :=
  ∀ k, Live id consul k → k.namespace_ = id.consulNamespace →
    ∀ route, origin.source k.name = some route → HasSplitters consul route

/-! ### Routes and their splitters -/

variable {consul : Entries} {k : EntryKey} {entry : ConfigEntry} {entries : List ConfigEntry}
  {writes : List Write} {route : HTTPRoute}

/-- Where a rule that is split leads to. -/
theorem routes_get_of_split {gateway : ResolvedGateway} {h : String} {rules : List HostnameMatch}
    {i : ℕ} {rule : HTTPRouteRule}
    (hrule : (consolidatedRoute gateway h rules).rules[i]? = some rule) (hsplit : Split rule) :
    ∃ r, (httpRouteDiscoveryChain (consolidatedRoute gateway h rules)).1.routes[i]? = some r ∧
      splitterKey r.destination.namespace_ r.destination.service =
        splitterKey (consolidatedRoute gateway h rules).namespace_
          (virtualService (consolidatedRoute gateway h rules).name i) := by
  rw [consolidatedRoute_rules, List.getElem?_map, Option.map_eq_some_iff] at hrule
  obtain ⟨m, hm, rfl⟩ := hrule
  refine ⟨_, by rw [router_routes, hm]; rfl, ?_⟩
  have hdest : (ruleDestination (consolidatedRoute gateway h rules) i (hostnameRule m)).1 = _ :=
    ruleDestination_virtual hsplit.1
  simp only [hostnameRoute, hdest]

namespace Origin

theorem source_spec {o : Origin} {name : String} (h : o.source name = some route) :
    (∃ host rules, route = consolidatedRoute o.gateway host rules) ∧ route.name = name ∧
      o.chain.Holds route := by
  obtain ⟨hname, hmem, hholds⟩ := holds_of_source h
  exact ⟨consolidated_mergedRoutes o.gateway o.orders route hmem, hname, hholds⟩

/-- The splitters that are computed are those of computed routers. -/
theorem exists_source_of_splitter {o : Origin} (h : o.chain.splitters.Has entry) :
    ∃ (route : HTTPRoute) (i : ℕ), (∃ host rules, route = consolidatedRoute o.gateway host rules) ∧
      (o.source route.name).isSome ∧ entry.getName = virtualService route.name i := by
  obtain ⟨j, l, route, hl, hroute, hhas⟩ := discoveryChain_hasService (.inr (.inl h))
  rcases hhas with ⟨router, -, rfl⟩ | ⟨splitters, hsplitters, hhas⟩ | ⟨defaults, hdefaults, hhas⟩
  · cases h.getKind
  · cases route with
    | tcp route => cases hsplitters
    | http route =>
      have hmem : .http route ∈ mergedRoutes o.gateway o.orders :=
        mem_mergedRoutes.2 ⟨j, l, hl, hroute⟩
      cases hsplitters
      rcases ConfigEntryIndex.has_foldl_add hhas with hhas | ⟨split, hsplit, rfl⟩
      · exact absurd hhas (ConfigEntryIndex.not_has_new _)
      · obtain ⟨i, rule, -, hi⟩ := mem_httpSplitters.1 hsplit
        exact ⟨route, i, consolidated_mergedRoutes _ _ route hmem, routerSource_isSome hmem,
          (ruleSplitter_eq_some hi).1⟩
  · cases h.getKind.symm.trans hhas.getKind

end Origin

theorem HasSplitters.of_ne (h : HasSplitters consul route)
    (hne : ∀ w ∈ writes, ∀ i, w.key ≠ splitterKey route.namespace_ (virtualService route.name i)) :
    HasSplitters (applyAll consul writes) route := by
  intro i rule hrule hsplit
  obtain ⟨splitter, hlook, hsplits⟩ := h i rule hrule hsplit
  exact ⟨splitter, (lookup_applyAll_of_ne fun w hw => hne w hw i).trans hlook, hsplits⟩

/-- The splitter that is computed for a rule. -/
theorem DiscoveryChain.Holds.splitter {chain : DiscoveryChain} (h : chain.Holds route) {i : ℕ}
    {rule : HTTPRouteRule} (hrule : route.rules[i]? = some rule) (hsplit : Split rule) :
    ∃ split, chain.Has (.serviceSplitter split) ∧
      (ConfigEntry.serviceSplitter split).key =
        splitterKey route.namespace_ (virtualService route.name i) ∧
      split.splits = splits rule.services := by
  obtain ⟨service, hservice, hweight⟩ := hsplit.2
  obtain ⟨split, hi⟩ : ∃ split, ruleSplitter route i rule = some split :=
    exists_ruleSplitter hsplit.1 hservice hweight
  obtain ⟨hname, hsplits⟩ := ruleSplitter_eq_some hi
  have hnamespace : split.namespace_ = route.namespace_ := ruleSplitter_namespace hi
  refine ⟨split, h.splitters split (mem_httpSplitters.2 ⟨i, rule, hrule, hi⟩), ?_, hsplits⟩
  rw [ConfigEntry.key, ConfigEntry.getNamespace, ConfigEntry.getName, hname, hnamespace]
  rfl

/-- Setting computed entries keeps the splitters of a computed route. -/
theorem HasSplitters.sets {chain : DiscoveryChain} (h : HasSplitters consul route)
    (hholds : chain.Holds route) (hentries : ∀ entry ∈ entries, chain.Has entry) :
    HasSplitters (applyAll consul (entries.map .set)) route := by
  intro i rule hrule hsplit
  obtain ⟨split, hhas, hkey, hsplits⟩ := hholds.splitter hrule hsplit
  rcases lookup_applyAll_set consul entries
      (splitterKey route.namespace_ (virtualService route.name i)) with
    ⟨entry, hmem, hentry, hlook⟩ | ⟨-, hlook⟩
  · cases (hentries entry hmem).eq_of_key_eq hhas (hentry.trans hkey.symm)
    exact ⟨split, hlook, hsplits⟩
  · obtain ⟨splitter, hlook', hsplits'⟩ := h i rule hrule hsplit
    exact ⟨splitter, hlook.trans hlook', hsplits'⟩

/-! ### What is known of every snapshot -/

/-- Every entry with an origin is one that its origin computes. -/
def Snapshot.Attributed (now : Snapshot) : Prop :=
  ∀ k o, now.origins.lookup k = some o →
    ∃ entry, o.chain.Has entry ∧ entry.key = k ∧ now.consul.lookup k = some entry

theorem Snapshot.Attributed.writeAll {origin : Origin} {now : Snapshot} (h : now.Attributed)
    (hsets : ∀ entry, .set entry ∈ writes → origin.chain.Has entry) :
    (now.writeAll origin writes).Attributed := by
  induction writes generalizing now with
  | nil => exact h
  | cons w writes ih =>
    refine ih (fun k o hlook => ?_) fun entry hset => hsets entry (List.mem_cons_of_mem _ hset)
    cases w with
    | set entry =>
      have hlook : (now.origins.insert entry.key origin).lookup k = some o := hlook
      change ∃ entry', o.chain.Has entry' ∧ entry'.key = k ∧
        (now.consul.insert entry.key entry).lookup k = some entry'
      rw [GoMap.lookup_insert_ite] at hlook ⊢
      split_ifs at hlook ⊢ with hkey
      · cases hlook
        exact ⟨entry, hsets entry List.mem_cons_self, hkey.symm, rfl⟩
      · exact h k o hlook
    | delete entry =>
      have hlook : (now.origins.erase entry.key).lookup k = some o := hlook
      change ∃ entry', o.chain.Has entry' ∧ entry'.key = k ∧
        (now.consul.erase entry.key).lookup k = some entry'
      rw [GoMap.lookup_erase_ite] at hlook ⊢
      split_ifs at hlook ⊢
      exact h k o hlook

theorem Live.kind {id : GatewayID} (h : Live id consul k) : k.kind = .serviceRouter := by
  obtain ⟨-, -, -, -, -, -, rfl⟩ := h
  rfl

/-- A router is that of the route it is made from. -/
theorem Snapshot.Attributed.router {now : Snapshot} (h : now.Attributed)
    (hk : k.kind = .serviceRouter) {o : Origin} (ho : now.origins.lookup k = some o)
    (hsource : o.source k.name = some route) :
    now.consul.lookup k = some (.serviceRouter (httpRouteDiscoveryChain route).1) := by
  obtain ⟨entry, hhas, rfl, hlook⟩ := h k o ho
  have hget : o.chain.get entry.key.kind entry.key.name = some entry := hhas
  rw [hk] at hget
  have hget := (routers_get_eq o.gateway o.orders entry.key.name).symm.trans hget
  rw [hlook, ← hget, show routerSource _ _ = some route from hsource]
  rfl

/-- The law, in terms of the routes that live routers are made from. -/
theorem splitsPresent_iff {id : GatewayID} {now : Snapshot} (h : now.Attributed) :
    SplitsPresent id now ↔ ∀ k, Live id now.consul k → ∀ o, now.origins.lookup k = some o →
      ∀ route, o.source k.name = some route → HasSplitters now.consul route := by
  constructor
  · intro hsplits k hlive o ho route hsource i rule hrule hsplit
    obtain ⟨⟨host, rules, rfl⟩, -, -⟩ := Origin.source_spec hsource
    obtain ⟨r, hr, hkey⟩ := routes_get_of_split hrule hsplit
    have hat := hsplits k hlive _ (h.router hlive.kind ho hsource) o ho _ hsource i r rule hr hrule
      hsplit
    rwa [hkey] at hat
  · intro hhas k hlive router hrouter o ho route hsource i r rule hr hrule hsplit
    cases hrouter.symm.trans (h.router hlive.kind ho hsource)
    have hat := hhas k hlive o ho route hsource i rule hrule hsplit
    obtain ⟨⟨host, rules, rfl⟩, -, -⟩ := Origin.source_spec hsource
    obtain ⟨r', hr', hkey⟩ := routes_get_of_split hrule hsplit
    cases hr.symm.trans hr'
    rwa [hkey]

namespace SyncAdapter

/-! ### The stages of a synchronisation -/

/-- The defaults and the routers that a synchronisation sets first. -/
def SyncVisit.addedFirst (v : SyncVisit) : List ConfigEntry :=
  ConfigEntryIndex.toArray v.addedDefaults ++ ConfigEntryIndex.toArray v.addedRouters

theorem SyncVisit.added_eq_first (v : SyncVisit) (ingress : IngressGatewayConfigEntry) :
    v.added ingress = v.addedFirst ++ (ConfigEntryIndex.toArray v.addedSplitters ++
      [.ingressGateway ingress]) := by
  rw [SyncVisit.added, List.append_assoc _ _ [_], SyncVisit.addedFirst]

/-- The writes of a synchronisation up to one of them: it sets defaults and
routers, then splitters, and once everything is set it removes routers before
anything else. -/
inductive Stage (v : SyncVisit) (ingress : IngressGatewayConfigEntry) : List Write → Prop
  | routers {entries : List ConfigEntry} (h : entries ⊆ v.addedFirst) :
      Stage v ingress (entries.map .set)
  | splitters {entries : List ConfigEntry}
      (h : entries ⊆ ConfigEntryIndex.toArray v.addedSplitters) :
      Stage v ingress ((v.addedFirst ++ entries).map .set)
  | removedRouters {entries : List ConfigEntry}
      (h : entries ⊆ ConfigEntryIndex.toArray v.removedRouters) :
      Stage v ingress ((v.added ingress).map .set ++ entries.map .delete)
  | removedOthers {entries : List ConfigEntry} (h : entries ⊆ v.removed) : Stage v ingress
      ((v.added ingress).map .set ++
        (ConfigEntryIndex.toArray v.removedRouters ++ entries).map .delete)

/-- Every state on the way belongs to one of the stages. -/
theorem takeWrites_cases (v : SyncVisit) (ingress : IngressGatewayConfigEntry) (n : ℕ) :
    Stage v ingress (((v.added ingress).map Write.set ++ v.removed.map Write.delete).take n) := by
  rcases take_append_cases ((v.added ingress).map Write.set) (v.removed.map Write.delete) n with
    ⟨m, heq⟩ | ⟨m, heq⟩
  · rw [heq, ← List.map_take, SyncVisit.added_eq_first]
    rcases take_append_cases v.addedFirst
        (ConfigEntryIndex.toArray v.addedSplitters ++ [.ingressGateway ingress]) m with
      ⟨m, heq⟩ | ⟨m, heq⟩
    · rw [heq]
      exact .routers (List.take_subset m _)
    · rw [heq]
      rcases take_append_cases (ConfigEntryIndex.toArray v.addedSplitters)
          [.ingressGateway ingress] m with ⟨m, heq⟩ | ⟨m, heq⟩
      · rw [heq]
        exact .splitters (List.take_subset m _)
      · rw [heq]
        -- the ingress entry is the last of the additions
        cases m with
        | zero =>
          rw [List.take_zero, List.append_nil]
          exact .splitters (List.Subset.refl _)
        | succ m =>
          have hall : Stage v ingress ((v.added ingress).map .set ++ ([] : List _).map .delete) :=
            .removedRouters (List.nil_subset _)
          rw [SyncVisit.added_eq_first, List.map_nil, List.append_nil] at hall
          rwa [List.take_succ_cons, List.take_nil]
  · rw [heq, ← List.map_take, SyncVisit.removed, List.append_assoc]
    rcases take_append_cases (ConfigEntryIndex.toArray v.removedRouters)
        (ConfigEntryIndex.toArray v.removedSplitters ++ ConfigEntryIndex.toArray v.removedDefaults)
        m with ⟨m, heq⟩ | ⟨m, heq⟩
    · rw [heq]
      exact .removedRouters (List.take_subset m _)
    · rw [heq]
      refine .removedOthers fun entry hentry => ?_
      rw [SyncVisit.removed, List.append_assoc]
      exact List.mem_append_right _ (List.mem_of_mem_take hentry)

theorem Stage.set_mem_added {v : SyncVisit} {ingress : IngressGatewayConfigEntry}
    (h : Stage v ingress writes) (hset : .set entry ∈ writes) : entry ∈ v.added ingress := by
  have hmap : ∀ {entries : List ConfigEntry}, Write.set entry ∈ entries.map .set →
      entry ∈ entries :=
    fun hmem => (List.mem_map_of_injective fun _ _ => Write.set.inj).1 hmem
  have hdelete : ∀ {entries : List ConfigEntry}, Write.set entry ∉ entries.map .delete := by
    intro entries hmem
    obtain ⟨_, -, heq⟩ := List.mem_map.1 hmem
    cases heq
  cases h with
  | routers hsub =>
    rw [SyncVisit.added_eq_first]
    exact List.mem_append_left _ (hsub (hmap hset))
  | splitters hsub =>
    rw [SyncVisit.added_eq_first]
    rcases List.mem_append.1 (hmap hset) with hmem | hmem
    · exact List.mem_append_left _ hmem
    · exact List.mem_append_right _ (List.mem_append_left _ (hsub hmem))
  | removedRouters hsub => exact hmap ((List.mem_append.1 hset).resolve_right hdelete)
  | removedOthers hsub => exact hmap ((List.mem_append.1 hset).resolve_right hdelete)

end SyncAdapter

open SyncAdapter

/-! ### Runs -/

/-- The adapter and Consul, with the synchronisation that set each entry last. -/
structure Traced where
  system : System
  origins : GoMap EntryKey Origin

/-- A call of `Sync` with the answers it gets. -/
structure SyncCall where
  origin : Origin
  visit : SyncVisit
  answers : Answers
  intentionsErr : Option String

def SyncCall.event (c : SyncCall) : System.Event :=
  .sync c.origin.gateway c.origin.orders c.visit c.answers c.intentionsErr

namespace Traced

/-- A new adapter, next to any config entries. -/
def start (consul : Entries) : Traced := ⟨System.start consul, ∅⟩

def now (t : Traced) : Snapshot := ⟨t.system.consul, t.origins⟩

/-- After the first writes of a call. -/
def during (id : GatewayID) (t : Traced) (c : SyncCall) (n : ℕ) : Snapshot :=
  t.now.writeAll c.origin ((t.system.call id c.event).2.1.take n)

def after (id : GatewayID) (t : Traced) (c : SyncCall) : Traced where
  system := t.system.after id c.event
  origins := (t.now.writeAll c.origin (t.system.call id c.event).2.1).origins

/-- A synchronisation of the gateway without an error. -/
def Step (id : GatewayID) (t : Traced) (c : SyncCall) (t' : Traced) : Prop :=
  c.event.Of id t.system ∧ (t.system.call id c.event).2.2 = none ∧ t' = t.after id c

/-- **The live routers have their splitters throughout a call**: before it, between
any two of its writes, and after them. -/
def SplitsThroughout (id : GatewayID) (t : Traced) (c : SyncCall) (_ : Traced) : Prop :=
  ∀ n, SplitsPresent id (t.during id c n)

/-- What holds between two synchronisations. -/
structure Settled (id : GatewayID) (t : Traced) : Prop where
  attributed : t.now.Attributed
  gateway : ∀ {k o}, t.origins.lookup k = some o → o.gateway.id = id
  written : ∀ {k o}, t.origins.lookup k = some o → k ∈ t.system.written
  recorded : System.Recorded id t.system
  splitters : ∀ {k o route}, t.origins.lookup k = some o → k.kind = .serviceRouter →
    o.source k.name = some route → HasSplitters t.system.consul route

theorem settled_start (id : GatewayID) (consul : Entries) : Settled id (start consul) where
  attributed k o h := by simp [start, now] at h
  gateway h := by simp [start] at h
  written h := by simp [start] at h
  recorded := System.recorded_start id consul
  splitters h := by simp [start] at h

section Call

variable {id : GatewayID} {t : Traced} {o : Origin} {v : SyncVisit}

/-- The router of a route is among the first entries that are set. -/
theorem mem_addedFirst_of_source (hid : o.gateway.id = id) (hv : v.Of t.system.adapter id o.chain)
    {name : String} (h : o.source name = some route) :
    ∃ entry ∈ v.addedFirst, o.chain.Has entry ∧
      entry.key = ⟨.serviceRouter, id.consulNamespace, name⟩ := by
  have hget : o.chain.routers.get name =
      some (.serviceRouter (httpRouteDiscoveryChain route).1) := by
    rw [routers_get_eq, show routerSource _ _ = some route from h]
    rfl
  have hentry := ConfigEntryIndex.has_of_get hget
  have hhas : o.chain.Has (.serviceRouter (httpRouteDiscoveryChain route).1) :=
    DiscoveryChain.has_iff.2 (.inr (.inl hentry))
  refine ⟨_, List.mem_append_right _ ((ConfigEntryIndex.mem_toArray hv.addedRouters).2 hentry),
    hhas, ?_⟩
  rw [ConfigEntry.key, discoveryChain_namespace hhas, hid, (o.chain.routers.keyed hget).2]
  rfl

/-- A router that is not set again is not computed any more. -/
theorem Settled.source_eq_none (h : Settled id t) (hid : o.gateway.id = id)
    (hv : v.Of t.system.adapter id o.chain) {o' : Origin} (ho : t.origins.lookup k = some o')
    (hk : k.kind = .serviceRouter) (hne : ∀ entry ∈ v.addedFirst, entry.key ≠ k) :
    o.source k.name = none := by
  rw [Option.eq_none_iff_forall_ne_some]
  intro route hroute
  obtain ⟨entry, hmem, -, hkey⟩ := mem_addedFirst_of_source hid hv hroute
  obtain ⟨old, hold, rfl, -⟩ := h.attributed k o' ho
  refine hne entry hmem ?_
  rw [hkey, ← hk, ConfigEntry.key, discoveryChain_namespace hold, h.gateway ho]

/-- What is computed for a gateway is not a splitter of a route of the gateway
that is not computed any more. -/
theorem ne_splitterKey {o' : Origin} (hid : o.gateway.id = o'.gateway.id) {name : String}
    (hroute : o'.source name = some route) (hnone : o.source name = none)
    (hentry : o.chain.Has entry) (i : ℕ) :
    entry.key ≠ splitterKey route.namespace_ (virtualService route.name i) := by
  intro hkey
  have hkind : entry.getKind = .serviceSplitter := congrArg EntryKey.kind hkey
  have hsplitters : o.chain.splitters.Has entry := by
    have hget := hentry
    rw [DiscoveryChain.Has, hkind] at hget
    exact hget
  obtain ⟨computed, j, ⟨h, rules, rfl⟩, hsome, hname⟩ := Origin.exists_source_of_splitter hsplitters
  obtain ⟨⟨h', rules', rfl⟩, rfl, -⟩ := Origin.source_spec hroute
  have hhost : (hostService o'.gateway h').name = (hostService o.gateway h').name := by
    rw [hostService, hostService, hid]
  have hvirtual : virtualService (hostService o.gateway h).name j =
      virtualService (hostService o.gateway h').name i := by
    rw [← hhost]
    exact hname.symm.trans (congrArg EntryKey.name hkey)
  have hsame : (consolidatedRoute o.gateway h rules).name =
      (consolidatedRoute o'.gateway h' rules').name :=
    (virtualService_inj hvirtual).1.trans hhost.symm
  rw [hsame, hnone] at hsome
  cases hsome

theorem live_applyAll {id : GatewayID} (h : ∀ w ∈ writes, w.key.kind ≠ .ingressGateway) :
    Live id (applyAll consul writes) k ↔ Live id consul k := by
  rw [Live, Live, lookup_applyAll_of_ne fun w hw hkey => h w hw (congrArg EntryKey.kind hkey)]

/-- Once everything is set, a computed route has its splitters. -/
theorem hasSplitters_of_added (hv : v.Of t.system.adapter id o.chain) {deletes : List Write}
    (hdeletes : ∀ w ∈ deletes, ∃ entry ∈ v.removed, w = .delete entry)
    (hholds : o.chain.Holds route) (consul : Entries) :
    HasSplitters (applyAll consul ((v.added o.chain.ingress).map .set ++ deletes)) route := by
  intro i rule hrule hsplit
  obtain ⟨split, hhas, hkey, hsplits⟩ := hholds.splitter hrule hsplit
  refine ⟨split, ?_, hsplits⟩
  rw [← hkey]
  exact System.lookup_of_has hv hdeletes hhas consul

/-- A router that is not computed any more is among those that are removed. -/
theorem Settled.mem_removedRouters (h : Settled id t) (hv : v.Of t.system.adapter id o.chain)
    {o' : Origin} (ho : t.origins.lookup k = some o') (hk : k.kind = .serviceRouter)
    (hnone : o.source k.name = none) :
    ∃ entry ∈ ConfigEntryIndex.toArray v.removedRouters, entry.key = k := by
  obtain ⟨old, -, -, hlook⟩ := h.attributed k o' ho
  obtain ⟨existing, entry, hexisting, hhas, rfl⟩ :=
    h.recorded.written (h.written ho) (Finmap.mem_of_lookup_eq_some hlook)
  have hrouter : existing.routers.Has entry := by
    have hget : existing.get entry.getKind entry.getName = some entry := hhas
    rw [show entry.getKind = _ from hk] at hget
    exact hget
  refine ⟨entry, (ConfigEntryIndex.mem_toArray hv.removedRouters).2 ?_, rfl⟩
  rw [ConfigEntryIndex.has_difference, SyncAdapter.entriesForGateway, hexisting, routers_get_eq,
    show routerSource _ entry.getName = none from hnone]
  exact ⟨hrouter, rfl⟩

theorem kind_of_mem_addedFirst (hv : v.Of t.system.adapter id o.chain) (h : entry ∈ v.addedFirst) :
    entry.getKind ≠ .serviceSplitter ∧ entry.getKind ≠ .ingressGateway := by
  rcases List.mem_append.1 h with h | h
  · rw [((ConfigEntryIndex.mem_toArray hv.addedDefaults).1 h).getKind]
    decide
  · rw [((ConfigEntryIndex.mem_toArray hv.addedRouters).1 h).getKind]
    decide

theorem has_of_mem_addedFirst (hv : v.Of t.system.adapter id o.chain) (h : entry ∈ v.addedFirst) :
    o.chain.Has entry := by
  refine (mem_added hv).1 ?_
  rw [SyncVisit.added_eq_first]
  exact List.mem_append_left _ h

theorem has_of_mem_addedSplitters (hv : v.Of t.system.adapter id o.chain)
    (h : entry ∈ ConfigEntryIndex.toArray v.addedSplitters) : o.chain.Has entry :=
  DiscoveryChain.has_iff.2 (.inr (.inr (.inl
    ((ConfigEntryIndex.mem_toArray hv.addedSplitters).1 h))))

/-- The splitters of a router that was not set again stay as long as the router. -/
theorem Settled.hasSplitters_kept (h : Settled id t) (hid : o.gateway.id = id)
    (hv : v.Of t.system.adapter id o.chain) (hstage : Stage v o.chain.ingress writes) {o' : Origin}
    (hne : ∀ w ∈ writes, w.key ≠ k) (ho : t.origins.lookup k = some o')
    (hk : k.kind = .serviceRouter) (hsource : o'.source k.name = some route) :
    HasSplitters (applyAll t.system.consul writes) route := by
  -- once all routers are set, this one is not computed any more
  have hnone (hfirst : ∀ entry ∈ v.addedFirst, .set entry ∈ writes) : o.source k.name = none :=
    h.source_eq_none hid hv ho hk fun entry hentry =>
      hne (.set entry) (hfirst entry hentry)
  have hset (hfirst : ∀ entry ∈ v.addedFirst, .set entry ∈ writes) {entry : ConfigEntry}
      (hhas : o.chain.Has entry) (i : ℕ) :
      entry.key ≠ splitterKey route.namespace_ (virtualService route.name i) :=
    ne_splitterKey (hid.trans (h.gateway ho).symm) hsource (hnone hfirst) hhas i
  refine (h.splitters ho hk hsource).of_ne ?_
  cases hstage with
  | routers hsub =>
    intro w hw i hkey
    obtain ⟨entry, hentry, rfl⟩ := List.mem_map.1 hw
    exact (kind_of_mem_addedFirst hv (hsub hentry)).1 (congrArg EntryKey.kind hkey)
  | splitters hsub =>
    intro w hw
    obtain ⟨entry, hentry, rfl⟩ := List.mem_map.1 hw
    refine hset (fun entry hentry => List.mem_map_of_mem (List.mem_append_left _ hentry)) ?_
    rcases List.mem_append.1 hentry with hentry | hentry
    · exact has_of_mem_addedFirst hv hentry
    · exact has_of_mem_addedSplitters hv (hsub hentry)
  | removedRouters hsub =>
    intro w hw i
    rcases List.mem_append.1 hw with hw | hw
    · obtain ⟨entry, hentry, rfl⟩ := List.mem_map.1 hw
      refine hset (fun entry hentry => ?_) ((mem_added hv).1 hentry) i
      rw [SyncVisit.added_eq_first, List.map_append, List.map_append]
      exact List.mem_append_left _ (List.mem_append_left _ (List.mem_map_of_mem hentry))
    · obtain ⟨entry, hentry, rfl⟩ := List.mem_map.1 hw
      have hkind := ((ConfigEntryIndex.mem_toArray hv.removedRouters).1 (hsub hentry)).getKind
      intro hkey
      cases hkind.symm.trans (congrArg EntryKey.kind hkey)
  | removedOthers hsub =>
    -- it has been removed
    obtain ⟨entry, hentry, hkey⟩ := h.mem_removedRouters hv ho hk (hnone fun entry hentry => by
      rw [SyncVisit.added_eq_first, List.map_append]
      exact List.mem_append_left _ (List.mem_append_left _ (List.mem_map_of_mem hentry)))
    refine absurd hkey (hne (.delete entry) (List.mem_append_right _ ?_))
    exact List.mem_map_of_mem (List.mem_append_left _ hentry)

/-- A router that was set again has the splitters of its new route, if they were
ready while its splitters have not all been set. -/
theorem hasSplitters_set (hid : o.gateway.id = id) (hv : v.Of t.system.adapter id o.chain)
    (hready : SplittersReady id t.system.consul o) (hstage : Stage v o.chain.ingress writes)
    (hset : .set entry ∈ writes) (hkey : entry.key = k)
    (hlive : Live id (applyAll t.system.consul writes) k) (hsource : o.source k.name = some route) :
    HasSplitters (applyAll t.system.consul writes) route := by
  obtain ⟨-, -, hholds⟩ := Origin.source_spec hsource
  have hnamespace : k.namespace_ = id.consulNamespace := by
    rw [← hkey, ← hid]
    exact discoveryChain_namespace ((mem_added hv).1 (hstage.set_mem_added hset))
  cases hstage with
  | routers hsub =>
    -- the ingress entry is not written yet, so the router was live before
    rw [live_applyAll] at hlive
    · exact (hready k hlive hnamespace route hsource).sets hholds fun entry hentry =>
        has_of_mem_addedFirst hv (hsub hentry)
    · intro w hw
      obtain ⟨entry, hentry, rfl⟩ := List.mem_map.1 hw
      exact (kind_of_mem_addedFirst hv (hsub hentry)).2
  | splitters hsub =>
    rw [live_applyAll] at hlive
    · refine (hready k hlive hnamespace route hsource).sets hholds fun entry hentry => ?_
      rcases List.mem_append.1 hentry with hentry | hentry
      · exact has_of_mem_addedFirst hv hentry
      · exact has_of_mem_addedSplitters hv (hsub hentry)
    · intro w hw
      obtain ⟨entry, hentry, rfl⟩ := List.mem_map.1 hw
      rcases List.mem_append.1 hentry with hentry | hentry
      · exact (kind_of_mem_addedFirst hv hentry).2
      · have hkind := ((ConfigEntryIndex.mem_toArray hv.addedSplitters).1 (hsub hentry)).getKind
        change entry.getKind ≠ _
        rw [hkind]
        decide
  | removedRouters hsub =>
    -- the additions are complete before anything is removed
    refine hasSplitters_of_added hv (fun w hw => ?_) hholds _
    obtain ⟨entry, hentry, rfl⟩ := List.mem_map.1 hw
    exact ⟨entry, List.mem_append_left _ (List.mem_append_left _ (hsub hentry)), rfl⟩
  | removedOthers hsub =>
    refine hasSplitters_of_added hv (fun w hw => ?_) hholds _
    obtain ⟨entry, hentry, rfl⟩ := List.mem_map.1 hw
    rcases List.mem_append.1 hentry with hentry | hentry
    · exact ⟨entry, List.mem_append_left _ (List.mem_append_left _ hentry), rfl⟩
    · exact ⟨entry, hsub hentry, rfl⟩

/-- **The law holds at every stage** of a synchronisation whose splitters are
ready. -/
theorem Settled.splitsPresent (h : Settled id t) (hid : o.gateway.id = id)
    (hv : v.Of t.system.adapter id o.chain) (hready : SplittersReady id t.system.consul o)
    (hstage : Stage v o.chain.ingress writes) : SplitsPresent id (t.now.writeAll o writes) := by
  rw [splitsPresent_iff (h.attributed.writeAll fun entry hset =>
    (mem_added hv).1 (hstage.set_mem_added hset)), Snapshot.writeAll_consul]
  intro k hlive o' ho route hsource
  rcases Snapshot.writeAll_origins ho with ⟨rfl, entry, hset, hkey⟩ | ⟨hne, hold⟩
  · exact hasSplitters_set hid hv hready hstage hset hkey hlive hsource
  · exact h.hasSplitters_kept hid hv hstage hne hold hlive.kind hsource

/-- Once all routers are set, the law says that the splitters were ready. -/
theorem Settled.splittersReady (h : Settled id t) (hid : o.gateway.id = id)
    (hv : v.Of t.system.adapter id o.chain)
    (hsplits : SplitsPresent id (t.now.writeAll o (v.addedFirst.map .set))) :
    SplittersReady id t.system.consul o := by
  have hkind : ∀ w ∈ v.addedFirst.map Write.set,
      w.key.kind ≠ .serviceSplitter ∧ w.key.kind ≠ .ingressGateway := by
    intro w hw
    obtain ⟨entry, hentry, rfl⟩ := List.mem_map.1 hw
    exact kind_of_mem_addedFirst hv hentry
  have hset : ∀ entry, Write.set entry ∈ v.addedFirst.map Write.set → o.chain.Has entry := by
    intro entry hentry
    obtain ⟨entry', hentry', heq⟩ := List.mem_map.1 hentry
    cases heq
    exact has_of_mem_addedFirst hv hentry'
  rw [splitsPresent_iff (h.attributed.writeAll hset), Snapshot.writeAll_consul] at hsplits
  intro k hlive hnamespace route hsource
  obtain ⟨entry, hentry, -, hkey⟩ := mem_addedFirst_of_source hid hv hsource
  have hk : entry.key = k := by rw [hkey, ← hnamespace, ← hlive.kind]
  have ho : (t.now.writeAll o (v.addedFirst.map .set)).origins.lookup k = some o := by
    rw [← hk]
    exact Snapshot.writeAll_origins_of_set hentry
  have hhas := hsplits k ((live_applyAll fun w hw => (hkind w hw).2).2 hlive) o ho route hsource
  intro i rule hrule hsplit
  obtain ⟨splitter, hlook, heq⟩ := hhas i rule hrule hsplit
  refine ⟨splitter, ?_, heq⟩
  rwa [lookup_applyAll_of_ne fun w hw hkey => (hkind w hw).1 (congrArg EntryKey.kind hkey)] at hlook

end Call

section Step

variable {id : GatewayID} {t t' : Traced} {c : SyncCall}

theorem writeBatches_of_step (hstep : Step id t c t') :
    (writeBatches c.answers (syncBatches c.origin.chain.ingress c.visit)).2 = none := by
  obtain ⟨-, hnone, -⟩ := hstep
  cases hwrites : writeBatches c.answers (syncBatches c.origin.chain.ingress c.visit) with
  | mk writes err =>
    cases err with
    | none => rfl
    | some err =>
      simp only [SyncCall.event, System.call, syncGateway, hwrites] at hnone
      cases hnone

/-- The writes of a synchronisation without an error. -/
theorem call_writes (hstep : Step id t c t') : (t.system.call id c.event).2.1 =
    (c.visit.added c.origin.chain.ingress).map .set ++ c.visit.removed.map .delete := by
  rw [SyncCall.event, System.call_sync_writes, writeBatches_of_none (writeBatches_of_step hstep),
    syncBatches_flatMap]

theorem contained_of_step (hstep : Step id t c t') : t.system.Contained id c.event := by
  intro before batch entry hat
  obtain ⟨write, hwrite, hanswer⟩ := hat.fails
  have hbatch := hat.batches.subset (List.mem_append_right _ (List.mem_singleton_self _))
  exact absurd (answers_of_none (writeBatches_of_step hstep) write
    (List.mem_flatMap.2 ⟨batch, hbatch, hwrite⟩)) hanswer

theorem splitsThroughout_iff (h : Settled id t) (hstep : Step id t c t') :
    SplitsThroughout id t c t' ↔ SplittersReady id t.system.consul c.origin := by
  obtain ⟨hid, -, hv⟩ := hstep.1
  have hwrites := call_writes hstep
  constructor
  · intro hsplits
    refine h.splittersReady hid hv ?_
    have hfirst := hsplits c.visit.addedFirst.length
    rw [during, hwrites, SyncVisit.added_eq_first, List.map_append, List.append_assoc,
      List.take_left' (List.length_map _)] at hfirst
    exact hfirst
  · intro hready n
    rw [during, hwrites]
    exact h.splitsPresent hid hv hready (takeWrites_cases _ _ n)

theorem mem_added_of_set (hstep : Step id t c t')
    (hset : .set entry ∈ (t.system.call id c.event).2.1) : c.origin.chain.Has entry := by
  obtain ⟨hid, -, hv⟩ := hstep.1
  rw [call_writes hstep, List.mem_append] at hset
  rcases hset with hset | hset
  · obtain ⟨entry', hentry, heq⟩ := List.mem_map.1 hset
    cases heq
    exact (mem_added hv).1 hentry
  · obtain ⟨entry', -, heq⟩ := List.mem_map.1 hset
    cases heq

/-- After a synchronisation Consul has the splitters of its routes. -/
theorem hasSplitters_after (hstep : Step id t c t') {name : String}
    (hsource : c.origin.source name = some route) : HasSplitters t'.system.consul route := by
  obtain rfl : t' = t.after id c := hstep.2.2
  rw [after, System.after, call_writes hstep]
  refine hasSplitters_of_added hstep.1.2.2 (fun w hw => ?_) (Origin.source_spec hsource).2.2 _
  obtain ⟨entry, hentry, rfl⟩ := List.mem_map.1 hw
  exact ⟨entry, hentry, rfl⟩

theorem settled_step (h : Settled id t) (hstep : Step id t c t') : Settled id t' := by
  obtain ⟨hid, -, hv⟩ := hstep.1
  obtain rfl : t' = t.after id c := hstep.2.2
  have hset : ∀ entry, .set entry ∈ (t.system.call id c.event).2.1 → c.origin.chain.Has entry :=
    fun entry => mem_added_of_set hstep
  have hattributed : (t.after id c).now.Attributed := by
    have hattributed := h.attributed.writeAll hset
    rwa [show t.now.writeAll c.origin (t.system.call id c.event).2.1 = (t.after id c).now from
      Snapshot.ext (Snapshot.writeAll_consul ..) rfl] at hattributed
  have hrecorded : System.Recorded id (t.after id c).system :=
    (h.recorded.sync hstep.1 (contained_of_step hstep)).1
  have hwritten : ∀ {k o}, (t.after id c).origins.lookup k = some o →
      k ∈ (t.after id c).system.written := by
    intro k o ho
    rcases Snapshot.writeAll_origins ho with ⟨-, entry, hentry, rfl⟩ | ⟨-, hold⟩
    · exact Finset.mem_union_right _ (System.mem_setKeys.2 ⟨entry, hentry, rfl⟩)
    · exact Finset.mem_union_left _ (h.written hold)
  -- of what the adapter wrote, only the entries of this synchronisation are left
  have hown : ∀ {k o}, (t.after id c).origins.lookup k = some o → o = c.origin := by
    intro k o ho
    obtain ⟨entry, -, rfl, hlook⟩ := hattributed k o ho
    have hexact := (h.recorded.sync hstep.1 (contained_of_step hstep)).2 hstep.2.1
    have hhas := (hexact entry).1 ⟨hwritten ho, hlook⟩
    rcases Snapshot.writeAll_origins ho with ⟨rfl, -⟩ | ⟨hne, -⟩
    · rfl
    · refine absurd rfl (hne (.set entry) ?_)
      rw [call_writes hstep]
      exact List.mem_append_left _ (List.mem_map_of_mem ((mem_added hv).2 hhas))
  refine ⟨hattributed, fun ho => ?_, hwritten, hrecorded, fun ho hk hsource => ?_⟩
  · rw [hown ho, hid]
  · obtain rfl := hown ho
    exact hasSplitters_after hstep hsource

/-- **The live routers of a run have their splitters** in every state iff no
synchronisation replaces a live router by one whose splitters are not there yet. -/
theorem splitsPresent_run_iff (id : GatewayID) (consul : Entries)
    {run : List (SyncCall × Traced)} (hrun : Run (Step id) (start consul) run) :
    Always (SplitsThroughout id) (start consul) run ↔
      Always (fun t c _ => SplittersReady id t.system.consul c.origin) (start consul) run :=
  hrun.always_iff (settled_start id consul) splitsThroughout_iff fun h hstep _ =>
    settled_step h hstep

end Step

/-- Every gateway can be synchronised without an error. -/
theorem exists_step (t : Traced) (o : Origin) (hvisits : Visits o.gateway o.orders) :
    ∃ c t', c.origin = o ∧ Step o.gateway.id t c t' := by
  obtain ⟨v, hv⟩ := SyncVisit.exists_of t.system.adapter o.gateway.id o.chain
  refine ⟨⟨o, v, fun _ => none, none⟩, _, rfl, ⟨rfl, hvisits, hv⟩, ?_, rfl⟩
  cases hwrites : writeBatches (fun _ => none) (syncBatches o.chain.ingress v) with
  | mk writes err =>
    cases err with
    | none => simp only [SyncCall.event, System.call, syncGateway, hwrites]
    | some err =>
      obtain ⟨before, batch, hat, -⟩ := writeBatches_of_some
        (show (writeBatches (fun _ => none) (syncBatches o.chain.ingress v)).2 ≠ none by
          rw [hwrites]; exact Option.some_ne_none err)
      obtain ⟨write, -, hanswer⟩ := hat.fails
      exact absurd rfl hanswer

end Traced

/-! ### A rule that becomes a weighted one -/

namespace SampleSplitRule

open SampleGateways System.SampleSync

/-- A route of `example.com` to two services. -/
def weightedRoute : HTTPRoute where
  meta_ := ∅
  name := "route"
  namespace_ := ""
  hostnames := ["example.com"]
  rules := [⟨[], [], [backend "one", backend "two"]⟩]

def weightedGateway : ResolvedGateway :=
  exampleGateway [{ exampleListener 80 "one" with routes := [.http weightedRoute] }]

def rules : List HostnameMatch := [⟨defaultMatch, [], [backend "one", backend "two"]⟩]

def weighted : Origin := ⟨weightedGateway, fun _ => [("example.com", rules)]⟩

theorem weighted_visits : Visits weighted.gateway weighted.orders := by
  intro i l hl
  match i, hl with
  | 0, hl =>
    cases Option.some.inj hl
    exact GoMap.ranges_singleton _ _

/-- The synchronisation of the gateway with one service. -/
def firstCall : SyncCall := ⟨⟨oneListener, exampleOrders⟩, firstVisit, fun _ => none, none⟩

/-- Consul after it. -/
def first : Traced := (Traced.start ∅).after oneListener.id firstCall

theorem firstCall_step : Traced.Step oneListener.id (Traced.start ∅) firstCall first :=
  ⟨(firstSync_step _).1, rfl, rfl⟩

theorem first_consul : first.system.consul = applyAll ∅ [.set defaults, .set router,
    .set (.ingressGateway (discoveryChain oneListener exampleOrders).ingress)] := rfl

theorem not_splittersReady : ¬ SplittersReady oneListener.id first.system.consul weighted := by
  intro hready
  let service := hostService oneListener "example.com"
  have hlive : Live oneListener.id first.system.consul
      ⟨.serviceRouter, service.namespace_, service.name⟩ := by
    refine ⟨(discoveryChain oneListener exampleOrders).ingress, ?_,
      ⟨80, "http", [service], listenerTLS {}⟩, List.mem_singleton_self _, service,
      List.mem_singleton_self _, rfl⟩
    rw [first_consul]
    exact Finmap.lookup_insert _
  have hsource : weighted.source service.name =
      some (consolidatedRoute weightedGateway "example.com" rules) := by
    have hmerged : mergedRoutes weighted.gateway weighted.orders =
        [] ++ [.http (consolidatedRoute weightedGateway "example.com" rules)] := rfl
    rw [Origin.source, hmerged, routerSource_concat_http]
    exact if_pos rfl
  have hhas := hready _ hlive rfl _ hsource
  obtain ⟨splitter, hlook, -⟩ := hhas 0 _ rfl ⟨by decide, backend "one", by decide, by decide⟩
  -- the first synchronisation sets no splitter
  rw [first_consul] at hlook
  rcases mem_applyAll (Finmap.mem_of_lookup_eq_some hlook) with ⟨entry, hset, hkey⟩ | hmem
  · simp only [List.mem_cons, Write.set.injEq, List.not_mem_nil, or_false] at hset
    rcases hset with rfl | rfl | rfl <;> cases congrArg EntryKey.kind hkey
  · exact Finmap.notMem_empty hmem

end SampleSplitRule

namespace Traced

open SampleGateways SampleSplitRule

/-- The gateway with the weighted rule is synchronised, and again while it is live. -/
theorem splitsPresent_resync : ∃ c₁ t₁ c₂ t₂, c₁.origin = weighted ∧ c₂.origin = weighted ∧
    Run (Step weightedGateway.id) (start ∅) [(c₁, t₁), (c₂, t₂)] ∧
    Always (SplitsThroughout weightedGateway.id) (start ∅) [(c₁, t₁), (c₂, t₂)] := by
  obtain ⟨c₁, t₁, hc₁, hstep₁⟩ := exists_step (start ∅) weighted weighted_visits
  obtain ⟨c₂, t₂, hc₂, hstep₂⟩ := exists_step t₁ weighted weighted_visits
  have hrun := Run.cons hstep₁ (.cons hstep₂ (.nil _))
  refine ⟨c₁, t₁, c₂, t₂, hc₁, hc₂, hrun,
    (splitsPresent_run_iff weightedGateway.id ∅ hrun).2 ⟨?_, ?_, trivial⟩⟩
  · rintro k ⟨ingress, hingress, -⟩
    simp [start, System.start] at hingress
  · intro k _ _ route hsource
    rw [hc₂, ← hc₁] at hsource
    exact hasSplitters_after hstep₁ hsource

/-- **A new weighted rule lacks its splitter**: the router of `example.com` is
replaced while it is live, before the splitter it now needs is set. -/
theorem weightedRule_lacks_splitter : ∃ run, Run (Step oneListener.id) (start ∅) run ∧
    ¬ Always (SplitsThroughout oneListener.id) (start ∅) run := by
  obtain ⟨c, t', hc, hstep⟩ := exists_step first weighted weighted_visits
  refine ⟨[(firstCall, first), (c, t')], .cons firstCall_step (.cons hstep (.nil _)), ?_⟩
  rintro ⟨-, hsplits, -⟩
  have hsettled := settled_step (settled_start oneListener.id ∅) firstCall_step
  rw [splitsThroughout_iff hsettled hstep, hc] at hsplits
  exact not_splittersReady hsplits

end Traced

end Consul
