/-
The ports of the ingress listeners.

Validation compares the listeners of a port by their protocols and by the
hostnames they set, and makes them invalid if either differ.  The translation
emits one ingress listener for every valid listener that has routes.  Listeners
that agree on the port, the protocol and the hostname are not found to be in
conflict, and each of them is emitted.

* `mem_mergeListenersByPort` — what the listeners of a port are compared by;
* `emitted_ports` — the ports of the ingress listeners;
* `portsDistinct_iff` — when they are all different;
* `sameHostname_emits_port_twice` — two listeners on one port with one hostname.
-/
import ConsulApiGateway.ServedHostnames
import ConsulApiGateway.TlsExposure

namespace Reconciler

open K8s

namespace Validator

/-! ### The conflicts of a port -/

/-- The listeners of the port have one protocol and at most one hostname: nothing
validation reports as a conflict. -/
def Compatible (gateway : Gateway) (port : ℤ) : Prop :=
  ∀ listener ∈ gateway.listeners, ∀ listener' ∈ gateway.listeners, listener.port = port →
    listener'.port = port → listener.protocol.toString = listener'.protocol.toString ∧
      ∀ hostname hostname', listener.hostname = some hostname →
        listener'.hostname = some hostname' → hostname = hostname'

theorem mem_addToSet {set : List String} {value x : String} :
    x ∈ addToSet set value ↔ x = value ∨ x ∈ set := by
  unfold addToSet
  split_ifs with hmem
  · constructor
    · exact .inr
    · rintro (rfl | h)
      · exact hmem
      · exact h
  · rw [List.mem_append, List.mem_singleton, or_comm]

/-- The listener is among those that were merged. -/
def Merges (merged : MergedListener) (listener : Listener) : Prop :=
  listener.protocol.toString ∈ merged.protocols ∧
    ∀ hostname, listener.hostname = some hostname → hostname ∈ merged.hostnames

/-- What the turn of a loop for a member establishes and every turn keeps. -/
theorem foldl_of_mem {α β : Type} {f : β → α → β} {P : β → Prop} {l : List α} {a : α}
    (ha : a ∈ l) (hset : ∀ b, P (f b a)) (hkeep : ∀ b x, P b → P (f b x)) (b : β) :
    P (l.foldl f b) := by
  obtain ⟨before, after, rfl⟩ := List.append_of_mem ha
  rw [List.foldl_append, List.foldl_cons]
  exact List.foldlRecOn after f (hset _) fun b hb x _ => hkeep b x hb

theorem mem_mergeListenersByPort {gateway : Gateway} {listener : Listener}
    (h : listener ∈ gateway.listeners) :
    ∃ merged, (mergeListenersByPort gateway).lookup listener.port = some merged ∧
      Merges merged listener := by
  obtain ⟨i, hi⟩ := List.mem_iff_getElem?.1 h
  have hmem : (listener, i) ∈ gateway.listeners.zipIdx := List.mem_zipIdx_iff_getElem?.2 hi
  refine foldl_of_mem (P := fun m : GoMap ℤ MergedListener => ∃ merged,
    m.lookup listener.port = some merged ∧ Merges merged listener) hmem ?_ ?_ ∅
  · intro m
    refine ⟨_, Finmap.lookup_insert _, mem_addToSet.2 (.inl rfl), fun hostname hh => ?_⟩
    simp only [hh]
    exact mem_addToSet.2 (.inl rfl)
  · rintro m p ⟨merged, hlook, hprotocol, hhostname⟩
    by_cases hport : listener.port = p.1.port
    · rw [hport] at hlook ⊢
      refine ⟨_, Finmap.lookup_insert _, ?_⟩
      rw [hlook]
      refine ⟨mem_addToSet.2 (.inr hprotocol), fun hostname hh => ?_⟩
      cases p.1.hostname with
      | none => exact hhostname hostname hh
      | some _ => exact mem_addToSet.2 (.inr (hhostname hostname hh))
    · exact ⟨merged, (Finmap.lookup_insert_of_ne _ hport).trans hlook, hprotocol, hhostname⟩

theorem one_lt_length_of_ne {α : Type} {l : List α} {x y : α} (hx : x ∈ l) (hy : y ∈ l)
    (hne : x ≠ y) : 1 < l.length := by
  match l with
  | [] => cases hx
  | [z] => exact absurd ((List.mem_singleton.1 hx).trans (List.mem_singleton.1 hy).symm) hne
  | _ :: _ :: _ => simp

theorem hasError_conflicts (texts : Texts) {merged : MergedListener}
    (s : ListenerConflictedStatus)
    (h : 1 < merged.protocols.length ∨ 1 < merged.hostnames.length) :
    (conflicts texts merged s).hasError = true := by
  unfold conflicts
  rcases h with h | h
  · simp only [h, if_true]
    split_ifs <;> simp [ListenerConflictedStatus.hasError]
  · simp only [h, if_true]
    split_ifs <;> simp [ListenerConflictedStatus.hasError]

/-- Listeners of a port that are not compatible are found to be in conflict. -/
theorem conflicts_of_not_compatible {gateway : Gateway} {port : ℤ}
    (h : ¬ Compatible gateway port) :
    ∃ merged, (mergeListenersByPort gateway).lookup port = some merged ∧
      (1 < merged.protocols.length ∨ 1 < merged.hostnames.length) := by
  unfold Compatible at h
  push Not at h
  obtain ⟨listener, hl, listener', hl', rfl, hport, hdiffer⟩ := h
  obtain ⟨merged, hlook, hprotocol, hhostname⟩ := mem_mergeListenersByPort hl
  obtain ⟨merged', hlook', hprotocol', hhostname'⟩ := mem_mergeListenersByPort hl'
  rw [hport, hlook] at hlook'
  cases hlook'
  refine ⟨merged, hlook, ?_⟩
  by_cases heq : listener.protocol.toString = listener'.protocol.toString
  · obtain ⟨hostname, hostname', hh, hh', hne⟩ := hdiffer heq
    exact .inr (one_lt_length_of_ne (hhostname hostname hh) (hhostname' hostname' hh') hne)
  · exact .inl (one_lt_length_of_ne hprotocol hprotocol' heq)

/-! ### The conflicts stay until the listener is bound -/

/-- What the loop over the listeners leaves of the conflicts of a listener: they
are still there, and like every other error they keep it from being ready. -/
structure Checked (gateway : Gateway) (l : GatewayListener) : Prop where
  protocol : l.state.protocol = l.spec.protocol
  unready : l.state.status.valid = false → l.state.status.ready.hasError = true
  conflicted : ¬ Compatible gateway l.spec.port → l.state.status.valid = false

theorem validateListener_checked {a : ClusterAnswers} {texts : Texts} {g gateway : Gateway}
    {i : ℕ} {l l' : GatewayListener} (h : validateListener a texts g i l = .ok l')
    (hprotocol : l.state.protocol = l.spec.protocol)
    (hconflicted : ¬ Compatible gateway l.spec.port →
      l.state.status.conflicted.hasError = true) : Checked gateway l' := by
  obtain ⟨state, htls, rfl⟩ := GoStd.map_eq_ok h
  -- none of the checks of a listener writes its conflicts
  obtain ⟨tls, detached, ready, resolvedRefs, rfl⟩ :=
    (sameState_validateUnsupported g l.state).trans
      ((sameState_validateProtocols texts l.spec _).trans (validateTLS_spec htls).1)
  have hinvalid : ¬ Compatible gateway l.spec.port → ListenerStatus.valid
      ⟨l.state.status.conflicted, detached, ready, resolvedRefs⟩ = false := by
    intro hnot
    simp [ListenerStatus.valid, hconflicted hnot]
  split_ifs with hready
  · exact ⟨hprotocol, fun _ => rfl, hinvalid⟩
  · refine ⟨hprotocol, fun hvalid => ?_, hinvalid⟩
    have hsome : ready.invalid ≠ none := by
      intro hnone
      exact hready ⟨hnone, by simp [hvalid]⟩
    simp [ListenerReadyStatus.hasError, Option.isSome_iff_ne_none.2 hsome]

theorem mem_validateListenersFrom {a : ClusterAnswers} {texts : Texts} {g : Gateway} {i : ℕ}
    {ls ls' : List GatewayListener} (h : validateListenersFrom a texts g i ls = .ok ls')
    {l' : GatewayListener} (hl' : l' ∈ ls') :
    ∃ j, ∃ l ∈ ls, validateListener a texts g j l = .ok l' := by
  induction ls generalizing i ls' with
  | nil =>
    cases h
    cases hl'
  | cons l ls ih =>
    obtain ⟨l₁, hl, h⟩ := GoStd.bind_eq_ok h
    obtain ⟨ls₁, hrest, h⟩ := GoStd.bind_eq_ok h
    cases h
    rcases List.mem_cons.1 hl' with rfl | hmem
    · exact ⟨i, l, List.mem_cons_self, hl⟩
    · obtain ⟨j, l₂, hl₂, heq⟩ := ih hrest hmem
      exact ⟨j, l₂, List.mem_cons_of_mem _ hl₂, heq⟩

theorem hasError_validateListenerConflicts {texts : Texts} {g : Gateway} {state : GatewayState}
    {l : GatewayListener} (hl : l ∈ (validateListenerConflicts texts g state).listeners)
    (h : ¬ Compatible g l.spec.port) : l.state.status.conflicted.hasError = true := by
  obtain ⟨l₀, -, rfl⟩ := List.mem_map.1 hl
  cases hmerged : (mergeListenersByPort g).lookup l₀.spec.port with
  | none =>
    simp only [hmerged] at h
    obtain ⟨merged, hlook, -⟩ := conflicts_of_not_compatible h
    cases hmerged.symm.trans hlook
  | some merged =>
    simp only [hmerged] at h ⊢
    obtain ⟨merged', hlook, hmany⟩ := conflicts_of_not_compatible h
    cases hmerged.symm.trans hlook
    exact hasError_conflicts texts _ hmany

theorem validate_checked {a : ClusterAnswers} {texts : Texts} {g : Gateway}
    {service : Option Service} {state : GatewayState} (h : validate a texts g service = .ok state)
    {l : GatewayListener} (hl : l ∈ state.listeners) : Checked g l := by
  obtain ⟨j, l₀, hl₀, hvalidate⟩ := mem_validateListenersFrom (validate_listeners h) hl
  exact validateListener_checked hvalidate ((conflicts_listeners texts g).2 l₀ hl₀).1
    (hasError_validateListenerConflicts hl₀)

end Validator

open Validator

/-! ### Binding -/

theorem K8sRoute.resolve_hostnames {r : K8sRoute} {order : RangeOrder} {namespace_ : String}
    {gateway : GatewayMeta} {listener : Listener} {route : Core.HTTPRoute}
    (h : r.resolve order namespace_ gateway listener = .http route) : route.hostnames ≠ [] := by
  unfold K8sRoute.resolve at h
  split at h
  · cases h
    dsimp only
    unfold Converter.convertHostnames
    split_ifs with hnone
    · exact List.cons_ne_nil _ _
    · exact List.cons_ne_nil _ _
    · exact hnone
  · cases h

/-- Every call of the binder is about one route, which a listener holds
afterwards as it resolves to, if at all. -/
theorem BindStep.attached {g g' : K8sGateway} {e : BindEvent} (h : BindStep g e g') :
    ∃ r ls, g' = g.setListeners ls ∧
      List.Forall₂ (fun l l' => (∃ b, Binder.Attached r.id b l l') ∧ Binder.HoldsResolved g r l')
        g.gatewayState.listeners ls := by
  cases e with
  | bind c orders r =>
    obtain ⟨r', modified, hbind⟩ := h
    obtain ⟨ls, rfl, hls⟩ := (Binder.bind_rebinds hbind).gateway
    have hholds := Binder.bind_holdsResolved hbind
    refine ⟨r, ls, rfl, ?_⟩
    have hflip : List.Forall₂ (fun l' l => (∃ b, Binder.Attached r.id b l l') ∧
        Binder.HoldsResolved g r l') ls g.gatewayState.listeners :=
      hls.flip.imp_mem fun l' hl' l hatt => ⟨⟨_, hatt⟩, hholds l' hl'⟩
    exact hflip.flip
  | unbind r =>
    subst h
    obtain ⟨ls, heq, hls⟩ := (Binder.unbind_rebinds g r).gateway
    refine ⟨r, ls, heq, hls.imp fun l l' hatt => ⟨⟨_, hatt⟩, fun route hroute => ?_⟩⟩
    exact (hatt.self.1 (Finmap.mem_of_lookup_eq_some hroute)).elim

/-- A checked listener all of whose HTTP routes have hostnames. -/
structure Settled (gateway : Gateway) (l : GatewayListener) : Prop extends
    Checked gateway l where
  hostnames : ∀ k route, l.state.routes.lookup k = some (.http route) → route.hostnames ≠ []

theorem settled_step {gateway : Gateway} {g g' : K8sGateway} {e : BindEvent}
    (hI : ∀ l ∈ g.gatewayState.listeners, Settled gateway l) (h : BindStep g e g') :
    ∀ l ∈ g'.gatewayState.listeners, Settled gateway l := by
  obtain ⟨r, ls, rfl, hls⟩ := h.attached
  intro l' hl'
  obtain ⟨l, hl, ⟨b, ⟨routes, rfl⟩, hother, -⟩, hholds⟩ := hls.exists_left hl'
  have hsettled := hI l hl
  refine ⟨⟨hsettled.protocol, hsettled.unready, hsettled.conflicted⟩, fun k route hroute => ?_⟩
  by_cases hk : k = r.id
  · obtain ⟨order, hresolve⟩ := hholds _ (hk ▸ hroute)
    exact K8sRoute.resolve_hostnames hresolve.symm
  · rw [hother k hk] at hroute
    exact hsettled.hostnames k route hroute

/-! ### The listeners that are emitted -/

/-- The listener is emitted: it is valid and has a route. -/
def GatewayListener.emits (l : GatewayListener) : Bool :=
  l.state.valid && 0 < l.state.routes.keys.card

theorem filterTCPRoutes_ne_nil {routes : List Core.ResolvedRoute} (h : routes ≠ []) :
    Consul.filterTCPRoutes routes false ≠ [] := by
  match routes with
  | [] => exact absurd rfl h
  | .http _ :: _ => exact List.cons_ne_nil _ _
  | .tcp _ :: _ => exact List.cons_ne_nil _ _

theorem listenerServices_ne_nil (gateway : Core.ResolvedGateway) {l : Core.ResolvedListener}
    {order : List (String × List Consul.HostnameMatch)}
    (horder : GoMap.Ranges (Consul.consolidator l.routes) order)
    (hhostnames : ∀ route, Core.ResolvedRoute.http route ∈ l.routes → route.hostnames ≠ [])
    (hne : l.routes ≠ []) : Consul.listenerServices gateway l order ≠ [] := by
  suffices hmerged : Consul.mergeRoutes gateway order l.routes ≠ [] by
    simpa [Consul.listenerServices] using hmerged
  obtain ⟨route, hroute⟩ := List.exists_mem_of_ne_nil _ hne
  cases route with
  | http route =>
    obtain ⟨h, hh⟩ := List.exists_mem_of_ne_nil _ (hhostnames route hroute)
    have hserved : h ∈ Consul.consolidator l.routes :=
      (Consul.mem_consolidator l.routes h).2 ⟨route, hroute, hh⟩
    obtain ⟨rules, hrules⟩ := Finmap.mem_iff.1 hserved
    exact List.ne_nil_of_mem ((Consul.mem_mergeRoutes_http gateway order l.routes _).2
      ⟨(h, rules), horder.mem_iff.2 hrules, rfl⟩)
  | tcp route =>
    have hkept : Core.ResolvedRoute.tcp route ∈ Consul.flattenHTTPRoutes gateway order l.routes :=
      List.mem_append_left _ (List.mem_filter.2 ⟨hroute, rfl⟩)
    exact filterTCPRoutes_ne_nil (List.ne_nil_of_mem hkept)

section Emission

variable {g : K8sGateway} {visit : ℕ → List (String × Core.ResolvedRoute)}
  {orders : ℕ → List (String × List Consul.HostnameMatch)}

/-- A resolved listener has routes if the listener has. -/
theorem resolveListener_routes_eq_nil {l : GatewayListener}
    {routes : List (String × Core.ResolvedRoute)} (h : GoMap.Ranges l.state.routes routes) :
    (K8sGateway.resolveListener l routes).routes = [] ↔ ¬ 0 < l.state.routes.keys.card := by
  rw [K8sGateway.resolveListener, List.map_eq_nil_iff, Nat.not_lt, Nat.le_zero,
    Finset.card_eq_zero, Finset.eq_empty_iff_forall_notMem, List.eq_nil_iff_forall_not_mem]
  constructor
  · intro hnil k hk
    obtain ⟨⟨k', route⟩, hp, -⟩ := List.mem_map.1 (h.mem_keys.2 (Finmap.mem_keys.1 hk))
    exact hnil _ hp
  · rintro hempty ⟨k, route⟩ hp
    exact hempty k (Finmap.mem_keys.2 (Finmap.mem_of_lookup_eq_some (h.mem_iff.1 hp)))

/-- The ports of the ingress listeners are those of the listeners that are valid
and have a route. -/
theorem emitted_ports (hvisit : g.Visits visit)
    (horders : Consul.Visits (g.resolve visit) orders)
    (hhostnames : ∀ l ∈ g.gatewayState.listeners, ∀ k route,
      l.state.routes.lookup k = some (.http route) → route.hostnames ≠ []) :
    (Consul.discoveryChain (g.resolve visit) orders).ingress.listeners.map
        Consul.IngressListener.port =
      (g.gatewayState.listeners.filter GatewayListener.emits).map fun l => l.spec.port := by
  -- a resolved listener is emitted if it has routes
  have hingress : ∀ p ∈ (g.resolve visit).listeners.zipIdx,
      (Consul.ingressListener (g.resolve visit) p.1 (orders p.2)).map Consul.IngressListener.port =
        if p.1.routes = [] then none else some p.1.port := by
    rintro ⟨rl, j⟩ hp
    have hrl := List.mem_zipIdx_iff_getElem?.1 hp
    split_ifs with hnil
    · rw [ingressListener_of_empty _ hnil (horders j rl hrl)]
      rfl
    · obtain ⟨i, l, hli, -, rfl⟩ :=
        K8sGateway.mem_resolve_listeners.1 (List.mem_of_getElem? hrl)
      have hservices := listenerServices_ne_nil (g.resolve visit) (horders j _ hrl)
        (fun route hroute => by
          obtain ⟨⟨k, route'⟩, hk, rfl⟩ := List.mem_map.1 hroute
          exact hhostnames l (List.mem_of_getElem? hli) k route ((hvisit i l hli).mem_iff.1 hk))
        hnil
      rw [Consul.ingressListener, if_pos (List.length_pos_iff.2 hservices)]
      rfl
  -- a listener is resolved if it is valid
  have hresolve : ∀ p ∈ g.gatewayState.listeners.zipIdx,
      ((if p.1.state.valid then some (K8sGateway.resolveListener p.1 (visit p.2)) else none).bind
          fun rl => if rl.routes = [] then none else some rl.port) =
        if p.1.emits then some p.1.spec.port else none := by
    rintro ⟨l, i⟩ hp
    have hnil := resolveListener_routes_eq_nil (hvisit i l (List.mem_zipIdx_iff_getElem?.1 hp))
    cases hv : l.state.valid with
    | false => simp [GatewayListener.emits, hv]
    | true =>
      by_cases hcard : 0 < l.state.routes.keys.card
      · have hport : (K8sGateway.resolveListener l (visit i)).port = l.spec.port := rfl
        simp [GatewayListener.emits, hv, hnil, hcard, hport]
      · simp [GatewayListener.emits, hv, hnil, hcard]
  rw [(Consul.discoveryChain_spec _ _).1, List.map_filterMap, List.filterMap_congr hingress,
    List.filterMap_zipIdx_fst (g.resolve visit).listeners
      (fun rl => if rl.routes = [] then none else some rl.port),
    K8sGateway.resolve, List.filterMap_filterMap, List.filterMap_congr hresolve,
    List.filterMap_zipIdx_fst g.gatewayState.listeners
      (fun l => if l.emits then some l.spec.port else none),
    ← List.filterMap_eq_map, List.filterMap_filter]
  rfl

end Emission

/-! ### The result -/

/-- The listener has routes, and not more than its protocol allows. -/
def GatewayListener.Serving (l : GatewayListener) : Prop :=
  0 < l.state.routes.keys.card ∧ (l.spec.protocol = .tcp → l.state.routes.keys.card ≤ 1)

/-- Two listeners have routes and share a port, on which validation reports no
conflict. -/
def SharesPort (gateway : Gateway) (g : K8sGateway) : Prop :=
  ∃ (i j : ℕ) (l l' : GatewayListener), i < j ∧ g.gatewayState.listeners[i]? = some l ∧
    g.gatewayState.listeners[j]? = some l' ∧ l.spec.port = l'.spec.port ∧
    Compatible gateway l.spec.port ∧ l.Serving ∧ l'.Serving

/-- A listener that has a route has passed validation. -/
theorem emits_iff_serving {a : ClusterAnswers} {gateway : Gateway} {i : ℕ} {l : GatewayListener}
    (hguarded : Guarded a gateway i l) (hsettled : Settled gateway l) :
    (l.emits = true ↔ l.Serving) ∧ (l.Serving → Compatible gateway l.spec.port) := by
  have hvalid : 0 < l.state.routes.keys.card → l.state.status.valid = true := by
    intro hcard
    by_contra hinvalid
    have herr := hsettled.unready (by simpa using hinvalid)
    rw [hguarded.unready herr] at hcard
    exact Nat.lt_irrefl _ hcard
  refine ⟨?_, fun hserving => ?_⟩
  · unfold GatewayListener.emits GatewayListener.Serving ListenerState.valid
    rw [hsettled.protocol]
    by_cases hcard : 0 < l.state.routes.keys.card
    · by_cases htcp : l.spec.protocol = .tcp
      · simp [hvalid hcard, hcard, htcp]
      · simp [hvalid hcard, hcard, htcp]
    · simp [hcard]
  · by_contra hnot
    have hinvalid := hsettled.conflicted hnot
    rw [hvalid hserving.1] at hinvalid
    cases hinvalid

/-- **The ingress listeners have different ports** exactly if no two listeners
that validation does not find in conflict have routes on one port.  The listeners
it does find in conflict are never emitted. -/
theorem portsDistinct_iff {a : ClusterAnswers} {texts : Texts} {gateway : Gateway}
    {service : Option Service} {state : GatewayState}
    (h : validate a texts gateway service = .ok state) (config : V1alpha1.GatewayClassConfig)
    (consulNamespace : String) {g : K8sGateway}
    (hg : Reachable BindStep
      (newK8sGateway config gateway { state with consulNamespace := consulNamespace }) g)
    {visit : ℕ → List (String × Core.ResolvedRoute)} (hvisit : g.Visits visit)
    {orders : ℕ → List (String × List Consul.HostnameMatch)}
    (horders : Consul.Visits (g.resolve visit) orders) :
    (((Consul.discoveryChain (g.resolve visit) orders).ingress.listeners.map
        Consul.IngressListener.port).Nodup ↔ ¬ SharesPort gateway g) ∧
      ∀ i listener out, gateway.listeners[i]? = some listener →
        ¬ Compatible gateway listener.port → ¬ EmittedFor g visit orders i out := by
  have hguarded := hg.invariant (allGuarded_validated h config consulNamespace)
    (fun hI hstep => hI.step hstep)
  have hstart : ∀ l ∈ state.listeners, Settled gateway l := by
    intro l hl
    obtain ⟨i, hi⟩ := List.mem_iff_getElem?.1 hl
    refine ⟨validate_checked h hl, fun k route hroute => ?_⟩
    rw [((validate_spec h).2 i l hi).routes] at hroute
    cases hroute
  have hsettled : ∀ l ∈ g.gatewayState.listeners, Settled gateway l :=
    hg.invariant (I := fun g => ∀ l ∈ g.gatewayState.listeners, Settled gateway l) hstart
      settled_step
  have hserving : ∀ (i : ℕ) l, g.gatewayState.listeners[i]? = some l →
      (l.emits = true ↔ l.Serving) ∧ (l.Serving → Compatible gateway l.spec.port) :=
    fun i l hl => emits_iff_serving (hguarded i l hl) (hsettled l (List.mem_of_getElem? hl))
  refine ⟨?_, ?_⟩
  · rw [emitted_ports hvisit horders fun l hl => (hsettled l hl).hostnames, List.Nodup,
      List.pairwise_map, List.pairwise_filter, List.pairwise_iff_getElem]
    constructor
    · rintro hpair ⟨i, j, l, l', hlt, hl, hl', hport, -, hs, hs'⟩
      obtain ⟨hi, rfl⟩ := List.getElem?_eq_some_iff.1 hl
      obtain ⟨hj, rfl⟩ := List.getElem?_eq_some_iff.1 hl'
      exact hpair i j hi hj hlt ((hserving i _ hl).1.2 hs) ((hserving j _ hl').1.2 hs') hport
    · intro hnot i j hi hj hlt hemits hemits' hport
      have hl := List.getElem?_eq_getElem hi
      have hl' := List.getElem?_eq_getElem hj
      have hs := (hserving i _ hl).1.1 hemits
      exact hnot ⟨i, j, _, _, hlt, hl, hl', hport, (hserving i _ hl).2 hs, hs,
        (hserving j _ hl').1.1 hemits'⟩
  · rintro i listener out hlistener hnot ⟨l, j, hl, hvalid, -, -⟩
    cases hlistener.symm.trans (hguarded i l hl).spec
    -- a listener in conflict is not valid, and so it is not even resolved
    have hinvalid := (hsettled l (List.mem_of_getElem? hl)).conflicted hnot
    rw [ListenerState.valid, hinvalid, ite_self] at hvalid
    cases hvalid

/-! ### Two listeners with one hostname -/

namespace SamplePorts

def listener (name : String) (port : ℤ) : Listener where
  name := name
  hostname := some "example.com"
  port := port
  protocol := .http

/-- A gateway with listeners on port 80 and on the port given. -/
def gateway (port : ℤ) : Gateway where
  namespace_ := "web"
  name := "gateway"
  groupKind := ⟨groupName, "Gateway"⟩
  listeners := [listener "one" 80, listener "two" port]

/-- The state validation derives. -/
def state (port : ℤ) : GatewayState where
  status :=
    { ready := { listenersNotReady := some "gateway listeners not ready" }
      scheduled := { notReconciled := some "pods not found" } }
  listeners := [⟨listener "one" 80, { protocol := .http, name := "one" }⟩,
    ⟨listener "two" port, { protocol := .http, name := "two" }⟩]

def routes (port : ℤ) : List (String × Core.ResolvedRoute) :=
  [(SampleTls.route.id,
    SampleTls.route.resolve .listed "" (gateway port).toGatewayMeta (listener "one" 80))]

/-- The gateway once the route is bound to both listeners. -/
def serving (port : ℤ) : K8sGateway :=
  (newK8sGateway {} (gateway port) (state port)).setListeners ((state port).listeners.map fun l =>
    l.setRoutes ((∅ : GoMap _ _).insert SampleTls.route.id
      (SampleTls.route.resolve .listed "" (gateway port).toGatewayMeta (listener "one" 80))))

theorem bind_route (port : ℤ) : BindStep (newK8sGateway {} (gateway port) (state port))
    (.bind SampleCluster.client (fun _ _ => .listed) SampleTls.route) (serving port) :=
  ⟨_, true, rfl⟩

theorem serving_visits (port : ℤ) : (serving port).Visits fun _ => routes port := by
  intro i l hl
  match i, hl with
  | 0, hl =>
    cases Option.some.inj hl
    exact GoMap.ranges_singleton _ _
  | 1, hl =>
    cases Option.some.inj hl
    exact GoMap.ranges_singleton _ _

theorem serving_orders (port : ℤ) :
    Consul.Visits ((serving port).resolve fun _ => routes port) fun _ => [("example.com", [])] := by
  intro i l hl
  match i, hl with
  | 0, hl =>
    cases Option.some.inj hl
    exact GoMap.ranges_singleton _ _
  | 1, hl =>
    cases Option.some.inj hl
    exact GoMap.ranges_singleton _ _

end SamplePorts

open SamplePorts

/-- **Two listeners on port 80 with the hostname `example.com`** pass validation,
and both are emitted once a route is bound to them. -/
theorem sameHostname_emits_port_twice :
    validate SampleTls.answers SampleTls.texts (gateway 80) none = .ok (state 80) ∧
      Reachable BindStep (newK8sGateway {} (gateway 80) (state 80)) (serving 80) ∧
      (serving 80).Visits (fun _ => routes 80) ∧
      Consul.Visits ((serving 80).resolve fun _ => routes 80) (fun _ => [("example.com", [])]) ∧
      (Consul.discoveryChain ((serving 80).resolve fun _ => routes 80)
        fun _ => [("example.com", [])]).ingress.listeners.map Consul.IngressListener.port =
          [80, 80] :=
  ⟨rfl, .single ⟨_, bind_route 80⟩, serving_visits 80, serving_orders 80, rfl⟩

/-- On the ports 80 and 8080 the two listeners are kept apart. -/
theorem portsDistinct_apart : ((Consul.discoveryChain ((serving 8080).resolve fun _ => routes 8080)
    fun _ => [("example.com", [])]).ingress.listeners.map Consul.IngressListener.port).Nodup := by
  have hvalidate : validate SampleTls.answers SampleTls.texts (gateway 8080) none =
      .ok (state 8080) := rfl
  refine (portsDistinct_iff hvalidate {} "" (.single ⟨_, bind_route 8080⟩) (serving_visits 8080)
    (serving_orders 8080)).1.2 ?_
  rintro ⟨i, j, l, l', hlt, hl, hl', hport, -⟩
  match i, j, hl, hl' with
  | 0, 1, hl, hl' =>
    cases Option.some.inj hl
    cases Option.some.inj hl'
    exact absurd hport (by decide)
  | 1, 0, _, _ => exact absurd hlt (by decide)
  | 0, 0, _, _ => exact absurd hlt (by decide)
  | 1, 1, _, _ => exact absurd hlt (by decide)

end Reconciler
