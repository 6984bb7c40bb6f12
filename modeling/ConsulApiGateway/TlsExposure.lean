/-
TLS from the Gateway object to Consul.

No single function keeps a listener that has to terminate TLS from being exposed
without a certificate.  Validation makes such a listener not ready, the binder
attaches no routes to a listener that is not ready, and the translation leaves out
a listener without services.

* `Guarded` — what holds of every listener after validation and any binding;
* `https_emitted_certified` — what is emitted for an HTTPS listener has a
  certificate the gateway may use.
-/
import ConsulApiGateway.Binder
import ConsulApiGateway.DiscoveryChain
import ConsulApiGateway.Run
import ConsulApiGateway.Validator

namespace Reconciler

open K8s Validator

/-! ### Binding after validation -/

/-- A call of the binder for any route. -/
inductive BindEvent
  | bind (c : Client) (orders : Binder.Orders) (r : K8sRoute)
  | unbind (r : K8sRoute)

def BindStep (g : K8sGateway) (e : BindEvent) (g' : K8sGateway) : Prop :=
  match e with
  | .bind c orders r => ∃ r' modified, Binder.bind c orders g r = some (g', r', modified)
  | .unbind r => g' = (Binder.unbind g r).1

/-- What holds of the listener with index `i`, whatever is bound to the gateway. -/
structure Guarded (a : ClusterAnswers) (gateway : Gateway) (i : ℕ) (l : GatewayListener) :
    Prop where
  spec : gateway.listeners[i]? = some l.spec
  certified : (protocolToConsul l.spec.protocol).2 = true →
    l.state.status.ready.hasError = true ∨ Certified a i gateway l.state.tls
  unready : l.state.status.ready.hasError = true → l.state.routes = ∅

/-- A listener that is not ready takes no route. -/
theorem not_attaches_of_hasError {c : Client} {g : K8sGateway} {r : K8sRoute} {l : GatewayListener}
    (h : l.state.status.ready.hasError = true) : ¬ Binder.Attaches c g r l := by
  rintro ⟨-, last, -, hbinds⟩
  rw [Binder.Binds, Binder.verdict, if_pos h] at hbinds
  cases hbinds

theorem Guarded.attached {a : ClusterAnswers} {gateway : Gateway} {i : ℕ} {l l' : GatewayListener}
    {id : String} {P : Prop} (h : Guarded a gateway i l) (hatt : Binder.Attached id P l l')
    (hP : l.state.status.ready.hasError = true → ¬ P) : Guarded a gateway i l' := by
  obtain ⟨⟨routes, rfl⟩, hother, hself⟩ := hatt
  refine ⟨h.spec, h.certified, fun herr => ?_⟩
  have hempty := h.unready herr
  refine Finmap.ext_lookup fun k => ?_
  by_cases hk : k = id
  · subst hk
    rw [Finmap.lookup_empty, Finmap.lookup_eq_none]
    exact fun hmem => hP herr (hself.1 hmem)
  · rw [hother k hk, hempty]

/-- All listeners of the gateway are guarded. -/
def AllGuarded (a : ClusterAnswers) (gateway : Gateway) (g : K8sGateway) : Prop :=
  ∀ (i : ℕ) l, g.gatewayState.listeners[i]? = some l → Guarded a gateway i l

theorem allGuarded_validated {a : ClusterAnswers} {texts : Texts} {gateway : Gateway}
    {service : Option Service} {state : GatewayState}
    (h : validate a texts gateway service = .ok state) (config : V1alpha1.GatewayClassConfig)
    (consulNamespace : String) :
    AllGuarded a gateway
      (newK8sGateway config gateway { state with consulNamespace := consulNamespace }) := by
  obtain ⟨hspecs, hall⟩ := validate_spec h
  intro i l hl
  have hl : state.listeners[i]? = some l := hl
  have hvalidated := hall i l hl
  refine ⟨?_, hvalidated.certified, fun _ => hvalidated.routes⟩
  rw [← hspecs, List.getElem?_map, hl]
  rfl

theorem AllGuarded.step {a : ClusterAnswers} {gateway : Gateway} {g g' : K8sGateway}
    {e : BindEvent} (h : AllGuarded a gateway g) (hstep : BindStep g e g') :
    AllGuarded a gateway g' := by
  -- both calls rebind the listeners, to routes that no unready listener takes
  have hrebinds : ∀ {P : GatewayListener → Prop} {r r' modified},
      Binder.Rebinds P g r g' r' modified →
      (∀ l, l.state.status.ready.hasError = true → ¬ P l) → AllGuarded a gateway g' := by
    intro P r r' modified hre hP i l' hl'
    obtain ⟨ls, rfl, hls⟩ := hre.gateway
    have hflip : List.Forall₂ (fun l' l => Binder.Attached r.id (P l) l l') ls
        g.gatewayState.listeners := hls.flip
    obtain ⟨l, hl, hatt⟩ := hflip.getElem?_right hl'
    exact (h i l hl).attached hatt (hP l)
  cases e with
  | bind c orders r =>
    obtain ⟨r', modified, hbind⟩ := hstep
    exact hrebinds (Binder.bind_rebinds hbind) fun l herr => not_attaches_of_hasError herr
  | unbind r =>
    subst hstep
    exact hrebinds (Binder.unbind_rebinds g r) fun _ _ hfalse => hfalse

/-! ### What is emitted -/

/-- The routes of every listener are visited as a whole. -/
def K8sGateway.Visits (g : K8sGateway) (visit : ℕ → List (String × Core.ResolvedRoute)) : Prop :=
  ∀ i l, g.gatewayState.listeners[i]? = some l → GoMap.Ranges l.state.routes (visit i)

/-- The ingress listener is emitted for the listener with index `i`. -/
def EmittedFor (g : K8sGateway) (visit : ℕ → List (String × Core.ResolvedRoute))
    (orders : ℕ → List (String × List Consul.HostnameMatch)) (i : ℕ)
    (out : Consul.IngressListener) : Prop :=
  ∃ l j, g.gatewayState.listeners[i]? = some l ∧ l.state.valid = true ∧
    (g.resolve visit).listeners[j]? = some (K8sGateway.resolveListener l (visit i)) ∧
    Consul.ingressListener (g.resolve visit) (K8sGateway.resolveListener l (visit i)) (orders j) =
      some out

section Emission

variable {g : K8sGateway} {visit : ℕ → List (String × Core.ResolvedRoute)}
  {orders : ℕ → List (String × List Consul.HostnameMatch)}

theorem exists_emittedFor {out : Consul.IngressListener}
    (h : out ∈ (Consul.discoveryChain (g.resolve visit) orders).ingress.listeners) :
    ∃ i, EmittedFor g visit orders i out := by
  obtain ⟨j, rl, hrl, hout⟩ := Consul.mem_ingressListeners.1 h
  obtain ⟨i, l, hl, hvalid, rfl⟩ := K8sGateway.mem_resolve_listeners.1 (List.mem_of_getElem? hrl)
  exact ⟨i, l, j, hl, hvalid, hrl, hout⟩

/-- A listener without routes is not emitted. -/
theorem ingressListener_of_empty (gateway : Core.ResolvedGateway) {l : Core.ResolvedListener}
    {order : List (String × List Consul.HostnameMatch)} (hl : l.routes = [])
    (horder : GoMap.Ranges (Consul.consolidator l.routes) order) :
    Consul.ingressListener gateway l order = none := by
  rw [hl] at horder
  cases GoMap.Ranges.eq_nil horder
  rw [Consul.ingressListener, Consul.listenerServices, hl]
  rfl

end Emission

/-- **HTTPS listeners are exposed with a permitted certificate only**: every
ingress listener is emitted for a listener of the gateway, and one that is emitted
for an HTTPS listener serves a secret the gateway may use. -/
theorem https_emitted_certified {a : ClusterAnswers} {texts : Texts} {gateway : Gateway}
    {service : Option Service} {state : GatewayState}
    (h : validate a texts gateway service = .ok state) (config : V1alpha1.GatewayClassConfig)
    (consulNamespace : String) {g : K8sGateway}
    (hg : Reachable BindStep
      (newK8sGateway config gateway { state with consulNamespace := consulNamespace }) g)
    {visit : ℕ → List (String × Core.ResolvedRoute)} (hvisit : g.Visits visit)
    {orders : ℕ → List (String × List Consul.HostnameMatch)}
    (horders : Consul.Visits (g.resolve visit) orders) :
    (∀ out ∈ (Consul.discoveryChain (g.resolve visit) orders).ingress.listeners,
      ∃ i, EmittedFor g visit orders i out) ∧
    ∀ i listener out, gateway.listeners[i]? = some listener → listener.protocol = .https →
      EmittedFor g visit orders i out →
      ∃ secret : K8sSecret, out.tls.sds = some ⟨"sds-cluster", secret.toString⟩ ∧
        Permitted a i gateway secret := by
  refine ⟨fun out hout => exists_emittedFor hout, ?_⟩
  rintro i listener out hlistener hprotocol ⟨l, j, hl, -, hresolved, hout⟩
  have hguarded := hg.invariant (allGuarded_validated h config consulNamespace)
    (fun hI hstep => hI.step hstep) i l hl
  cases hlistener.symm.trans hguarded.spec
  have hready : l.state.status.ready.hasError ≠ true := by
    intro herr
    -- without routes the listener would not have been emitted
    have hroutes := hvisit i l hl
    rw [hguarded.unready herr] at hroutes
    have hnone := ingressListener_of_empty (g.resolve visit)
      (l := K8sGateway.resolveListener l (visit i))
      (by rw [K8sGateway.resolveListener, GoMap.Ranges.eq_nil hroutes]; rfl)
      (horders j _ hresolved)
    rw [hnone] at hout
    cases hout
  have hrequired : (protocolToConsul l.spec.protocol).2 = true := by
    rw [hprotocol]
    rfl
  obtain ⟨secret, hcerts, hpermitted⟩ := (hguarded.certified hrequired).resolve_left hready
  refine ⟨secret, ?_, hpermitted⟩
  unfold Consul.ingressListener at hout
  split_ifs at hout
  cases hout
  change (l.state.tls.certificates.head?.map _) = _
  rw [hcerts]
  rfl

/-! ### An HTTPS listener with a certificate -/

namespace SampleTls

open SampleCluster (client)

/-- Gateways of the namespace `web` may use the secret `certificate`. -/
def grant : ReferenceGrant :=
  ⟨[⟨groupName, "Gateway", "web"⟩], [⟨"", "Secret", some "certificate"⟩]⟩

/-- A cluster in which the secret exists and nothing runs yet. -/
def answers : ClusterAnswers where
  podsWithLabels := .ok []
  addressPods := .ok []
  getService := .ok none
  getReferenceGrantsInNamespace _ ns := .ok (if ns = "certificates" then [grant] else [])
  getSecret _ _ := .ok true

def texts : Texts := ⟨.listed, .listed, fun _ => ""⟩

def listener : Listener where
  name := "https"
  port := 443
  protocol := .https
  tls := some { certificateRefs :=
    [{ name := "certificate", namespace_ := some ⟨"certificates", by decide⟩ }] }

def gateway : Gateway where
  namespace_ := "web"
  name := "gateway"
  groupKind := ⟨groupName, "Gateway"⟩
  listeners := [listener]

/-- The state validation derives. -/
def state : GatewayState where
  status :=
    { ready := { listenersNotReady := some "gateway listeners not ready" }
      scheduled := { notReconciled := some "pods not found" } }
  listeners := [⟨listener, { protocol := .https, name := "https"
                             tls := { certificates :=
                               [K8sSecret.toString ⟨"certificates", "certificate"⟩] } }⟩]

def route : K8sRoute where
  object := { namespace_ := "web", name := "route", groupKind := ⟨groupName, "HTTPRoute"⟩ }
  parentRefs := [{ name := "gateway" }]
  body := .http [] []

def routes : List (String × Core.ResolvedRoute) :=
  [(route.id, route.resolve .listed "" gateway.toGatewayMeta listener)]

/-- The gateway once the route is bound. -/
def serving : K8sGateway :=
  (newK8sGateway {} gateway state).setListeners (state.listeners.map fun l =>
    l.setRoutes ((∅ : GoMap _ _).insert route.id
      (route.resolve .listed "" gateway.toGatewayMeta listener)))

theorem validate_gateway : validate answers texts gateway none = .ok state := rfl

theorem bind_route : BindStep (newK8sGateway {} gateway state)
    (.bind client (fun _ _ => .listed) route) serving :=
  ⟨_, true, rfl⟩

theorem serving_visits : serving.Visits fun _ => routes := by
  intro i l hl
  match i, hl with
  | 0, hl =>
    cases Option.some.inj hl
    exact GoMap.ranges_singleton _ _

theorem serving_orders : Consul.Visits (serving.resolve fun _ => routes) fun _ => [("*", [])] := by
  intro i l hl
  match i, hl with
  | 0, hl =>
    cases Option.some.inj hl
    exact GoMap.ranges_singleton _ _

end SampleTls

open SampleTls

/-- The HTTPS listener of the sample is emitted, with the certificate of another namespace. -/
theorem sample_emitted_certified : ∃ out,
    EmittedFor serving (fun _ => routes) (fun _ => [("*", [])]) 0 out ∧
      ∃ secret : K8sSecret, out.tls.sds = some ⟨"sds-cluster", secret.toString⟩ ∧
        Permitted answers 0 gateway secret := by
  have hemitted : ∃ out, EmittedFor serving (fun _ => routes) (fun _ => [("*", [])]) 0 out :=
    ⟨_, _, 0, rfl, rfl, rfl, rfl⟩
  obtain ⟨out, hout⟩ := hemitted
  exact ⟨out, hout, (https_emitted_certified validate_gateway {} ""
    (.single ⟨_, bind_route⟩) serving_visits serving_orders).2 0 listener out rfl rfl hout⟩

end Reconciler
