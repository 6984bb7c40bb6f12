/-
The hostnames a listener serves.

Binding asks that some hostname of an HTTP route match the hostname of the
listener.  What the listener then holds is the route resolved with all its
hostnames, those that do not match included.

* `bind_holdsResolved` — what a listener holds of a route that was bound;
* `servedHostnames_match_iff` — when a listener with a hostname serves nothing
  outside it;
* `boundRoute_serves_other_hostname` — a route with one hostname that matches and
  one that does not.
-/
import ConsulApiGateway.Binder

namespace K8s

theorem equalFold_refl (a : List Char) : equalFold a a = true := by
  simp [equalFold]

/-- A hostname matches itself, also if it has a wildcard. -/
theorem hostnamesMatch_refl (a : String) : hostnamesMatch a a = true := by
  have hlabels : ∀ labels : List (List Char),
      ((labels.zip labels).tail.all fun p => equalFold p.1 p.2) = true := by
    intro labels
    rw [List.all_eq_true]
    intro p hp
    obtain ⟨i, hi⟩ := List.mem_iff_getElem?.mp (List.mem_of_mem_tail hp)
    obtain ⟨hleft, hright⟩ := List.getElem?_zip_eq_some.mp hi
    rw [Option.some.inj (hleft.symm.trans hright)]
    exact equalFold_refl p.2
  unfold hostnamesMatch
  split_ifs with hany hwild
  · rfl
  · simp only [ne_eq, not_true, if_false]
    exact hlabels _
  · exact decide_eq_true rfl

end K8s

namespace Reconciler

open K8s

/-! ### What a listener holds of a bound route -/

namespace K8sRoute

/-- The routes agree on what a listener serves of them. -/
structure SameContent (r r' : K8sRoute) : Prop where
  object : r'.object = r.object
  body : r'.body = r.body

variable {r r' r'' : K8sRoute}

theorem SameContent.refl (r : K8sRoute) : r.SameContent r := ⟨rfl, rfl⟩

theorem SameContent.trans (h : r.SameContent r') (h' : r'.SameContent r'') : r.SameContent r'' :=
  ⟨h'.object.trans h.object, h'.body.trans h.body⟩

theorem SameContent.id_eq (h : r.SameContent r') : r'.id = r.id := by
  simp only [K8sRoute.id, h.object, h.body]

theorem SameContent.resolve_eq (h : r.SameContent r') : r'.resolve = r.resolve := by
  funext order namespace_ gateway listener
  simp only [K8sRoute.resolve, K8sRoute.resolvedMeta, h.object, h.body]

end K8sRoute

namespace Binder

open K8sRoute

variable {c : Client} {orders : Orders} {order : RangeOrder} {g g' : K8sGateway}
  {r r' : K8sRoute} {l l' : GatewayListener} {ls ls' : List GatewayListener}
  {ref : ParentReference} {refs : List ParentReference} {i : ℕ} {modified : Bool}

theorem sameContent_record (order : RangeOrder) (ref : ParentReference) (r : K8sRoute)
    (v : Verdict) : r.SameContent (v.record order ref r) := by
  cases v with
  | bound => exact ⟨rfl, rfl⟩
  | failed err => exact ⟨rfl, rfl⟩
  | refused => exact .refl r

/-- If the listener holds the route, it is what the route resolves to for it. -/
def HoldsResolved (g : K8sGateway) (r : K8sRoute) (l : GatewayListener) : Prop :=
  ∀ route, l.state.routes.lookup r.id = some route →
    ∃ order, route = r.resolve order g.gatewayState.consulNamespace g.gateway l.spec

theorem HoldsResolved.congr (hr : r.SameContent r') (h : HoldsResolved g r' l) :
    HoldsResolved g r l := by
  intro route hroute
  rw [← hr.id_eq] at hroute
  rw [← hr.resolve_eq]
  exact h route hroute

theorem bindListener_holdsResolved
    (h : bindListener c order g ref l r = some (l', r', modified)) :
    r.SameContent r' ∧ HoldsResolved g r l' := by
  cases hv : verdict c g.gateway.namespace_ l ref r with
  | none => rw [bindListener_of_none hv] at h; cases h
  | some v =>
    have hsame := sameContent_record order ref r v
    rw [bindListener_of_verdict hv] at h
    cases hb : v.isBound with
    | true =>
      rw [hb] at h
      cases h
      refine ⟨hsame, fun route hroute => ⟨order, ?_⟩⟩
      have hinsert : some ((v.record order ref r).resolve order g.gatewayState.consulNamespace
          g.gateway l.spec) = some route := by
        simpa [GatewayListener.setRoutes] using hroute
      rw [hsame.resolve_eq] at hinsert
      exact (Option.some.inj hinsert).symm
    | false =>
      rw [hb] at h
      cases h
      refine ⟨hsame, fun route hroute => ?_⟩
      simp [GatewayListener.setRoutes] at hroute

theorem bindListeners_holdsResolved
    (h : bindListeners c orders g ref i ls r = some (ls', r', modified)) :
    r.SameContent r' ∧ ∀ l' ∈ ls', HoldsResolved g r l' := by
  induction ls generalizing i r ls' r' modified with
  | nil =>
    cases h
    exact ⟨.refl r, fun l' hl' => by cases hl'⟩
  | cons l ls ih =>
    obtain ⟨l₁, r₁, m₁, ls₂, m₂, hl, hls, rfl, rfl⟩ := bindListeners_cons h
    obtain ⟨hsame, hholds⟩ := bindListener_holdsResolved hl
    obtain ⟨hsame', hrest⟩ := ih hls
    refine ⟨hsame.trans hsame', List.forall_mem_cons.mpr ⟨hholds, fun l' hl' => ?_⟩⟩
    exact (hrest l' hl').congr hsame

/-- Every reference overwrites what the earlier ones left, so that one is
enough. -/
theorem bindRefs_holdsResolved (h : bindRefs c orders g refs ls r = some (ls', r', modified))
    (hstart : refs ≠ [] ∨ ∀ l ∈ ls, HoldsResolved g r l) : ∀ l' ∈ ls', HoldsResolved g r l' := by
  induction refs generalizing ls r ls' r' modified with
  | nil =>
    cases h
    exact hstart.resolve_left fun hne => hne rfl
  | cons ref refs ih =>
    obtain ⟨ls₁, r₁, m₁, m₂, hls, hrefs, rfl⟩ := bindRefs_cons h
    obtain ⟨hsame, hholds⟩ := bindListeners_holdsResolved hls
    have hmid : ∀ l ∈ ls₁, HoldsResolved g r₁ l := by
      intro l hl route hroute
      rw [hsame.id_eq] at hroute
      rw [hsame.resolve_eq]
      exact hholds l hl route hroute
    exact fun l' hl' => (ih hrefs (.inr hmid) l' hl').congr hsame

/-- After a route is bound, the listeners hold it as it is now, or not at all. -/
theorem bind_holdsResolved (h : bind c orders g r = some (g', r', modified)) :
    ∀ l ∈ g'.gatewayState.listeners, HoldsResolved g r l := by
  cases hr : routeReferencesGateway r g with
  | false =>
    -- a route that does not name the gateway is on none of its listeners
    have hub := unbind_rebinds g r
    rw [bind_of_not_references hr h] at hub
    obtain ⟨ls, rfl, hls⟩ := hub.gateway
    intro l hl route hroute
    obtain ⟨l₀, -, hatt⟩ := hls.exists_left hl
    exact (hatt.self.1 (Finmap.mem_of_lookup_eq_some hroute)).elim
  | true =>
    obtain ⟨ls, hrefs, rfl⟩ := bind_of_references hr h
    obtain ⟨ref, href, -⟩ := List.any_eq_true.mp hr
    exact bindRefs_holdsResolved hrefs (.inl (List.ne_nil_of_mem href))

end Binder

/-! ### The hostnames of the listener -/

/-- A route without hostnames takes that of the listener, and so only the
hostnames that a route lists can be outside it. -/
theorem Converter.convertHostnames_match_iff (hostnames : List String) (hostname : String) :
    (∀ h ∈ convertHostnames hostnames hostname, hostnamesMatch h hostname = true) ↔
      ∀ h ∈ hostnames, hostnamesMatch h hostname = true := by
  unfold convertHostnames
  split_ifs with hnone hempty
  · subst hnone hempty
    simp [hostnamesMatch]
  · subst hnone
    simpa using hostnamesMatch_refl hostname
  · rfl

/-- **A listener with a hostname serves nothing outside it** exactly if all the
hostnames of the route that was bound match it. -/
theorem servedHostnames_match_iff {c : Client} {orders : Binder.Orders} {g g' : K8sGateway}
    {r r' : K8sRoute} {modified : Bool} (h : Binder.bind c orders g r = some (g', r', modified))
    {i : ℕ} {l : GatewayListener} (hl : g'.gatewayState.listeners[i]? = some l)
    {hostname : String} (hhostname : l.spec.hostname = some hostname) {hostnames : List String}
    (hhttp : r.body.hostnames? = some hostnames) {route : Core.HTTPRoute}
    (hroute : l.state.routes.lookup r.id = some (.http route)) :
    (∀ h ∈ route.hostnames, hostnamesMatch h hostname = true) ↔
      ∀ h ∈ hostnames, hostnamesMatch h hostname = true := by
  obtain ⟨order, hresolve⟩ := Binder.bind_holdsResolved h l (List.mem_of_getElem? hl) _ hroute
  cases hbody : r.body with
  | tcp references => rw [hbody] at hhttp; cases hhttp
  | http listed references =>
    rw [hbody] at hhttp
    cases hhttp
    have hserved : route.hostnames = Converter.convertHostnames hostnames hostname := by
      rw [K8sRoute.resolve, hbody] at hresolve
      cases hresolve
      rw [K8sGateway.listenerHostname, hhostname]
      rfl
    rw [hserved]
    exact Converter.convertHostnames_match_iff hostnames hostname

/-! ### A listener with a hostname -/

namespace SampleHostnames

def listener : Listener where
  name := "http"
  hostname := some "host.example"
  port := 80
  protocol := .http

def gateway : K8sGateway where
  gateway := { namespace_ := "web", name := "gateway", groupKind := ⟨groupName, "Gateway"⟩ }
  gatewayState := { listeners := [⟨listener, { name := "http", protocol := .http }⟩] }

/-- A route to the gateway with the given hostnames. -/
def route (hostnames : List String) : K8sRoute where
  object := { namespace_ := "web", name := "route", groupKind := ⟨groupName, "HTTPRoute"⟩ }
  parentRefs := [{ name := "gateway" }]
  body := .http hostnames []

/-- The listener once it holds the route. -/
def serving (r : K8sRoute) : GatewayListener :=
  ⟨listener, { name := "http", protocol := .http
               routes := (∅ : GoMap _ _).insert r.id
                 (r.resolve .listed "" gateway.gateway listener) }⟩

end SampleHostnames

open SampleHostnames
open SampleCluster (client)

/-- A route that lists another hostname next to that of the listener is bound,
and the listener serves both.  Alone the other hostname is not bound at all. -/
theorem boundRoute_serves_other_hostname :
    (∃ g' r' l route', Binder.bind client (fun _ _ => .listed) gateway
        (route ["host.example", "other.example"]) = some (g', r', true) ∧
      g'.gatewayState.listeners[0]? = some l ∧ l.spec.hostname = some "host.example" ∧
      l.state.routes.lookup (route ["host.example", "other.example"]).id = some (.http route') ∧
      "other.example" ∈ route'.hostnames ∧
      hostnamesMatch "other.example" "host.example" = false) ∧
    ∃ g' r', Binder.bind client (fun _ _ => .listed) gateway (route ["other.example"]) =
      some (g', r', false) := by
  refine ⟨⟨_, _, serving (route ["host.example", "other.example"]), _, rfl, rfl, rfl, rfl, ?_, ?_⟩,
    _, _, rfl⟩
  · exact List.mem_cons_of_mem _ (List.mem_singleton.mpr rfl)
  · decide

/-- A route with a hostname under the listener's own is served as it is. -/
theorem servedHostnames_match_host : ∃ g' r' l route',
    Binder.bind client (fun _ _ => .listed) gateway (route ["host.example"]) =
      some (g', r', true) ∧
    g'.gatewayState.listeners[0]? = some l ∧
    l.state.routes.lookup (route ["host.example"]).id = some (.http route') ∧
    ∀ h ∈ route'.hostnames, hostnamesMatch h "host.example" = true := by
  have hbind : Binder.bind client (fun _ _ => .listed) gateway (route ["host.example"]) =
      some (gateway.setListeners [serving (route ["host.example"])],
        (route ["host.example"]).bound { name := "gateway" }, true) := rfl
  refine ⟨_, _, serving (route ["host.example"]), _, hbind, rfl, rfl, ?_⟩
  exact (servedHostnames_match_iff hbind (i := 0) rfl rfl rfl rfl).mpr (by decide)

end Reconciler
