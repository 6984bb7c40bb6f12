/-
The streams of the SDS server over whole runs.

Two laws, and the steps that keep them:

* `requestSound_run_iff` — a request is served only from a stored gateway that
  has the certificates, or it changes nothing, exactly as long as the gateway of
  the stream is stored at every request;
* `secretsKept_run_iff` — the secrets an open stream has asked for stay
  registered for its node, exactly as long as no request on, or close of,
  another stream of the same node takes them away.

The first breaks when a gateway is deleted under an open stream
(`deletedGateway_panics`), the second when two streams share a node
(`secondStream_drops_secret`).
-/
import ConsulApiGateway.Handler
import ConsulApiGateway.Bindings

open Reconciler

namespace Envoy

namespace Server

variable {c : Client} {M : Marshaler} {s s' : Server} {streamID : ℤ} {resources : List String}
  {node : String} {order : List String} {a : Answers}

/-! ### What a request can do -/

/-- The gateway of the stream is stored and has the certificates. -/
def Accepts (s : Server) (streamID : ℤ) (resources : List String) : Prop :=
  ∃ gateway, s.store.getGateway (s.handler.gatewayFromContext streamID) = some gateway ∧
    gateway.canFetchSecrets resources = true

theorem canFetchSecrets_iff {gateway : K8sGateway} :
    gateway.canFetchSecrets resources = true ↔
      ∀ name ∈ resources, ∃ l ∈ gateway.gatewayState.listeners,
        name ∈ l.state.tls.certificates := by
  simp [K8sGateway.canFetchSecrets, K8sGateway.certificates]

theorem handle_of_accepts (ha : a.Succeed) (h : s.Accepts streamID resources) :
    s.handle streamID resources node order a =
      ({ s.handler with nodeMap := s.handler.nodeMap.insert streamID node },
        (s.secrets.setResourcesForNode a resources node order).1, .accepted) := by
  obtain ⟨gateway, hg, hcan⟩ := h
  rcases hset : s.secrets.setResourcesForNode a resources node order with ⟨secrets, _ | err⟩
  · simp [handle, RequestHandler.onStreamRequest, getGateway, hg, hcan, hset]
  · have := SecretManager.setResourcesForNode_succeed (s := s.secrets) ha resources node order
    rw [hset] at this
    cases this

theorem handle_of_denied {gateway : K8sGateway}
    (hg : s.store.getGateway (s.handler.gatewayFromContext streamID) = some gateway)
    (hcan : gateway.canFetchSecrets resources = false) :
    s.handle streamID resources node order a =
      (s.handler, s.secrets, .failed permissionDenied) := by
  simp [handle, RequestHandler.onStreamRequest, getGateway, hg, hcan]

theorem handle_of_missing
    (hg : s.store.getGateway (s.handler.gatewayFromContext streamID) = none) :
    s.handle streamID resources node order a = (s.handler, s.secrets, .panicked) := by
  simp [handle, RequestHandler.onStreamRequest, getGateway, hg]

/-- A request is accepted, denied, or finds no gateway. -/
theorem handle_cases (s : Server) (streamID : ℤ) (resources : List String) (node : String)
    (order : List String) (ha : a.Succeed) :
    (s.Accepts streamID resources ∧ s.handle streamID resources node order a =
      ({ s.handler with nodeMap := s.handler.nodeMap.insert streamID node },
        (s.secrets.setResourcesForNode a resources node order).1, .accepted)) ∨
    (¬ s.Accepts streamID resources ∧
      ∃ outcome, s.handle streamID resources node order a = (s.handler, s.secrets, outcome) ∧
        (outcome = .failed permissionDenied ∧
            (s.store.getGateway (s.handler.gatewayFromContext streamID)).isSome ∨
          outcome = .panicked ∧
            s.store.getGateway (s.handler.gatewayFromContext streamID) = none)) := by
  by_cases h : s.Accepts streamID resources
  · exact .inl ⟨h, handle_of_accepts ha h⟩
  · refine .inr ⟨h, ?_⟩
    cases hg : s.store.getGateway (s.handler.gatewayFromContext streamID) with
    | none => exact ⟨_, handle_of_missing hg, .inr ⟨rfl, rfl⟩⟩
    | some gateway =>
      have hcan : gateway.canFetchSecrets resources = false := by
        rw [← Bool.not_eq_true]
        exact fun hcan => h ⟨gateway, hg, hcan⟩
      exact ⟨_, handle_of_denied hg hcan, .inl ⟨rfl, rfl⟩⟩

/-! ### Requests and the gateways they come from -/

/-- **A request is sound**: it is accepted for a stored gateway whose listeners
have all the requested certificates, or it fails and changes nothing; it never
dereferences a missing gateway. -/
def RequestSound (s : Server) (e : Event) (s' : Server) : Prop :=
  match e with
  | .request streamID resources node order a =>
    match (s.handle streamID resources node order a).2.2 with
    | .accepted => ∃ gateway,
        s.store.getGateway (s.handler.gatewayFromContext streamID) = some gateway ∧
          ∀ name ∈ resources, ∃ l ∈ gateway.gatewayState.listeners, name ∈ l.state.tls.certificates
    | .failed _ => s'.handler.nodeMap = s.handler.nodeMap ∧ s'.secrets = s.secrets
    | .panicked => False
  | _ => True

/-- The gateway of the stream is stored when a request comes in. -/
def GatewayStored (s : Server) (e : Event) : Prop :=
  match e with
  | .request streamID _ _ _ _ =>
    (s.store.getGateway (s.handler.gatewayFromContext streamID)).isSome
  | _ => True

theorem requestSound_step_iff {e : Event} (h : Step c M s e s') :
    RequestSound s e s' ↔ GatewayStored s e := by
  obtain ⟨-, h⟩ := h
  cases e with
  | store e => exact Iff.rfl
  | openStream streamID typeURL peer => exact Iff.rfl
  | closeStream streamID order a => exact Iff.rfl
  | manage force now order a => exact Iff.rfl
  | request streamID resources node order a =>
    obtain ⟨-, ha, -, rfl⟩ := h
    unfold RequestSound GatewayStored
    rcases handle_cases s streamID resources node order ha with
      ⟨hacc, hh⟩ | ⟨-, outcome, hh, ⟨rfl, hg⟩ | ⟨rfl, hg⟩⟩
    · obtain ⟨gateway, hg, hcan⟩ := hacc
      simp only [hh, hg, Option.isSome_some, iff_true]
      exact ⟨gateway, rfl, canFetchSecrets_iff.mp hcan⟩
    · simp only [hh, hg, iff_true]
      simp [request, hh]
    · simp [hh, hg]

/-- **Requests are sound exactly as long as the gateway of the stream is stored
at every request.** -/
theorem requestSound_run_iff {run : List (Event × Server)} (hr : Run (Step c M) new run) :
    Always RequestSound new run ↔ Always (fun s e _ => GatewayStored s e) new run :=
  hr.always_iff (I := fun _ => True) trivial (fun _ h => requestSound_step_iff h)
    fun _ _ _ => trivial

/-! ### Secrets and the streams that ask for them -/

/-- **The secrets of the open streams are kept**: what the last accepted request
of an open stream named is registered, with the node of the stream among the
references. -/
def SecretsKept (s : Server) : Prop :=
  ∀ t node names name, t ∈ s.handler.streamContexts → s.handler.nodeMap.lookup t = some node →
    s.asked.lookup t = some names → name ∈ names → s.secrets.References node name

/-- Every other open stream of the node asks for names in `kept` only. -/
def OthersAsk (s : Server) (t : ℤ) (node : String) (kept : Finset String) : Prop :=
  ∀ u names, u ≠ t → u ∈ s.handler.streamContexts → s.handler.nodeMap.lookup u = some node →
    s.asked.lookup u = some names → names ⊆ kept

/-- The steps that keep the secrets of the other streams of a node: a request
names all of them, and a stream closes only when they name none. -/
def NodeKept (s : Server) (e : Event) : Prop :=
  match e with
  | .request t resources node _ _ =>
    s.Accepts t resources → s.OthersAsk t node resources.toFinset
  | .closeStream t _ _ => ∀ node, s.handler.nodeMap.lookup t = some node → s.OthersAsk t node ∅
  | _ => True

/-- What holds along every run, also of one that loses secrets. -/
structure Consistent (s : Server) : Prop where
  exact : s.secrets.Exact
  opened : ∀ t, t ∈ s.asked → t ∈ s.handler.streamContexts

theorem consistent_new : Consistent new where
  exact node name := by
    simp [new, SecretManager.new, SecretManager.Watches, SecretManager.References]
  opened t ht := absurd ht Finmap.notMem_empty

/-- The server after an accepted request. -/
theorem request_of_accepts (ha : a.Succeed) (h : s.Accepts streamID resources) :
    s.request streamID resources node order a =
      { s with
        handler := { s.handler with nodeMap := s.handler.nodeMap.insert streamID node }
        secrets := (s.secrets.setResourcesForNode a resources node order).1
        asked := s.asked.insert streamID resources.toFinset } := by
  rw [request, handle_of_accepts ha h]

/-- Any other request leaves the streams and the secrets as they are. -/
theorem request_of_not_accepts (node : String) (order : List String) (ha : a.Succeed)
    (h : ¬ s.Accepts streamID resources) :
    ∃ crashed, s.request streamID resources node order a = { s with crashed := crashed } := by
  rcases handle_cases s streamID resources node order ha with
    ⟨hacc, -⟩ | ⟨-, outcome, hh, ⟨rfl, -⟩ | ⟨rfl, -⟩⟩
  · exact absurd hacc h
  · exact ⟨s.crashed, by rw [request, hh]⟩
  · exact ⟨true, by rw [request, hh]⟩

theorem consistent_request (hs : s.Consistent) (ha : a.Succeed)
    (hopen : streamID ∈ s.handler.streamContexts)
    (ho : s.secrets.Orders (.setResourcesForNode resources node order)) :
    (s.request streamID resources node order a).Consistent := by
  by_cases h : s.Accepts streamID resources
  · rw [request_of_accepts ha h]
    refine ⟨fun n x => ?_, fun t ht => ?_⟩
    · have hok := SecretManager.setResourcesForNode_succeed (s := s.secrets) ha resources node order
      obtain ⟨hw, hr⟩ := SecretManager.setResourcesForNode_exact hs.exact hok ho n x
      rw [hw, hr, hs.exact n x]
    · rcases Finmap.mem_insert.mp ht with rfl | ht
      · exact hopen
      · exact hs.opened t ht
  · obtain ⟨crashed, heq⟩ := request_of_not_accepts node order ha h
    rw [heq]
    exact ⟨hs.exact, hs.opened⟩

theorem consistent_closeStream (hs : s.Consistent)
    (ho : ∀ node, s.handler.nodeMap.lookup streamID = some node →
      s.secrets.Orders (.unwatchAll node order)) :
    (s.closeStream streamID order a).Consistent where
  exact n x := by
    simp only [closeStream, RequestHandler.onStreamClosed]
    cases hn : s.handler.nodeMap.lookup streamID with
    | none => exact hs.exact n x
    | some node =>
      obtain ⟨hw, hr⟩ := SecretManager.unwatchAll_exact (a := a) hs.exact (ho node hn) n x
      exact hw.trans ((and_congr_left' (hs.exact n x)).trans hr.symm)
  opened t ht := by
    have ht' := Finmap.mem_erase.mp ht
    exact Finmap.mem_erase.mpr ⟨ht'.1, hs.opened t ht'.2⟩

theorem consistent_step {e : Event} (hs : s.Consistent) (h : Step c M s e s') :
    s'.Consistent := by
  obtain ⟨-, h⟩ := h
  cases e with
  | store e =>
    obtain ⟨store, -, rfl⟩ := h
    exact ⟨hs.exact, hs.opened⟩
  | openStream streamID typeURL peer =>
    obtain ⟨-, gateway, -, rfl⟩ := h
    refine ⟨hs.exact, fun t ht => ?_⟩
    unfold openStream RequestHandler.onStreamOpen
    split
    · exact hs.opened t ht
    · exact Finmap.mem_insert.mpr (.inr (hs.opened t ht))
  | request streamID resources node order a =>
    obtain ⟨hopen, ha, ho, rfl⟩ := h
    exact consistent_request hs ha hopen ho
  | closeStream streamID order a =>
    obtain ⟨-, -, ho, rfl⟩ := h
    exact consistent_closeStream hs ho
  | manage force now order a =>
    obtain ⟨-, rfl⟩ := h
    refine ⟨fun n x => ?_, hs.opened⟩
    obtain ⟨hw, hr⟩ := SecretManager.manage_spec a force now n x order 0 s.secrets
    exact hw.trans ((hs.exact n x).trans hr.symm)

/-- An accepted request keeps the secrets of the other streams exactly if it
names those of its node. -/
theorem secretsKept_request_iff (hs : s.Consistent) (hkept : s.SecretsKept) (ha : a.Succeed)
    (ho : s.secrets.Orders (.setResourcesForNode resources node order)) :
    (s.request streamID resources node order a).SecretsKept ↔
      (s.Accepts streamID resources → s.OthersAsk streamID node resources.toFinset) := by
  by_cases h : s.Accepts streamID resources
  · rw [request_of_accepts ha h, imp_iff_right h]
    have hok := SecretManager.setResourcesForNode_succeed (s := s.secrets) ha resources node order
    have href := fun n x => (SecretManager.setResourcesForNode_exact hs.exact hok ho n x).2
    constructor
    · intro hnew u names hu hopen hnode hasked name hname
      have := hnew u node names name hopen
        ((Finmap.lookup_insert_of_ne _ hu).trans hnode)
        ((Finmap.lookup_insert_of_ne _ hu).trans hasked) hname
      rw [href, if_pos rfl] at this
      exact List.mem_toFinset.mpr this
    · intro hothers t n names name hopen hnode hasked hname
      rw [href]
      by_cases ht : t = streamID
      · -- the stream itself has what it has just asked for
        subst ht
        rw [Finmap.lookup_insert] at hnode hasked
        cases hnode
        cases hasked
        rw [if_pos rfl]
        exact List.mem_toFinset.mp hname
      · rw [Finmap.lookup_insert_of_ne _ ht] at hnode hasked
        split
        · next hn =>
          subst hn
          exact List.mem_toFinset.mp (hothers t names ht hopen hnode hasked hname)
        · exact hkept t n names name hopen hnode hasked hname
  · obtain ⟨crashed, heq⟩ := request_of_not_accepts node order ha h
    rw [heq]
    exact iff_of_true hkept fun hacc => absurd hacc h

/-- Closing a stream takes everything from its node. -/
theorem secretsKept_closeStream_iff (hs : s.Consistent) (hkept : s.SecretsKept)
    (ho : ∀ node, s.handler.nodeMap.lookup streamID = some node →
      s.secrets.Orders (.unwatchAll node order)) :
    (s.closeStream streamID order a).SecretsKept ↔
      ∀ node, s.handler.nodeMap.lookup streamID = some node → s.OthersAsk streamID node ∅ := by
  have href : ∀ n x, (s.closeStream streamID order a).secrets.References n x ↔
      s.secrets.References n x ∧ s.handler.nodeMap.lookup streamID ≠ some n := by
    intro n x
    simp only [closeStream, RequestHandler.onStreamClosed]
    cases hn : s.handler.nodeMap.lookup streamID with
    | none => simp
    | some node =>
      have := (SecretManager.unwatchAll_exact (a := a) hs.exact (ho node hn) n x).2
      rw [this]
      exact and_congr_right' (not_congr ⟨fun h => h ▸ rfl, fun h => (Option.some.inj h).symm⟩)
  constructor
  · intro hnew node hnode u names hu hopen hnode' hasked name hname
    have := hnew u node names name (Finmap.mem_erase.mpr ⟨hu, hopen⟩)
      ((Finmap.lookup_erase_ne hu).trans hnode') ((Finmap.lookup_erase_ne hu).trans hasked) hname
    exact absurd hnode ((href node name).mp this).2
  · intro hothers t n names name hopen hnode hasked hname
    obtain ⟨ht, hopen⟩ := Finmap.mem_erase.mp hopen
    rw [closeStream, Finmap.lookup_erase_ne ht] at hasked
    have hnode' : s.handler.nodeMap.lookup t = some n :=
      (Finmap.lookup_erase_ne ht).symm.trans hnode
    refine (href n name).mpr ⟨hkept t n names name hopen hnode' hasked hname, fun hn => ?_⟩
    exact absurd (hothers n hn t names ht hopen hnode' hasked hname) (Finset.notMem_empty name)

theorem secretsKept_step_iff {e : Event} (hs : s.Consistent ∧ s.SecretsKept)
    (h : Step c M s e s') : s'.SecretsKept ↔ NodeKept s e := by
  obtain ⟨-, h⟩ := h
  cases e with
  | store e =>
    obtain ⟨store, -, rfl⟩ := h
    exact iff_of_true hs.2 trivial
  | openStream streamID typeURL peer =>
    obtain ⟨hnew, gateway, -, rfl⟩ := h
    refine iff_of_true ?_ trivial
    intro t node names name _ hnode hasked hname
    -- a stream that has asked for something was open before
    have hopen := hs.1.opened t (Finmap.mem_of_lookup_eq_some hasked)
    refine hs.2 t node names name hopen ?_ hasked hname
    unfold openStream RequestHandler.onStreamOpen at hnode
    split at hnode <;> exact hnode
  | request streamID resources node order a =>
    obtain ⟨-, ha, ho, rfl⟩ := h
    exact secretsKept_request_iff hs.1 hs.2 ha ho
  | closeStream streamID order a =>
    obtain ⟨-, -, ho, rfl⟩ := h
    exact secretsKept_closeStream_iff hs.1 hs.2 ho
  | manage force now order a =>
    obtain ⟨-, rfl⟩ := h
    refine iff_of_true ?_ trivial
    intro t node names name hopen hnode hasked hname
    have := (SecretManager.manage_spec a force now node name order 0 s.secrets).2
    exact this.mpr (hs.2 t node names name hopen hnode hasked hname)

theorem secretsKept_new : SecretsKept new := by
  intro t node names name _ _ hasked
  simp [new] at hasked

/-- **The secrets of the open streams are kept exactly as long as every step
leaves the other streams of its node what they ask for.** -/
theorem secretsKept_run_iff {run : List (Event × Server)} (hr : Run (Step c M) new run) :
    Always (fun _ _ s' => SecretsKept s') new run ↔ Always (fun s e _ => NodeKept s e) new run :=
  hr.always_iff (I := fun s => s.Consistent ∧ s.SecretsKept) ⟨consistent_new, secretsKept_new⟩
    secretsKept_step_iff
    fun hs h hkept => ⟨consistent_step hs.1 h, (secretsKept_step_iff hs h).mpr hkept⟩

/-! ### A gateway with two certificates and its streams -/

namespace SampleStreams

open SampleCluster (client)
open Store.Sample (marshaler orders)

/-- A gateway with two HTTPS listeners. -/
def gateway : K8sGateway where
  gateway := { namespace_ := "web", name := "gateway", groupKind := ⟨K8s.groupName, "Gateway"⟩ }
  gatewayState :=
    { listeners := [
        ⟨{ name := "one", port := 443, protocol := .https },
          { name := "one", protocol := .https, tls := { certificates := ["one"] } }⟩,
        ⟨{ name := "two", port := 8443, protocol := .https },
          { name := "two", protocol := .https, tls := { certificates := ["two"] } }⟩] }

def gatewayArrives : Event := .store ⟨.upsertGateway gateway none, ⟨[], [], orders⟩⟩

def gatewayLeaves : Event :=
  .store ⟨.deleteGateway gateway.id none, ⟨[(gateway.id, gateway)], [], orders⟩⟩

/-- A client with the certificate of the gateway. -/
def peer : Option (List (List URI)) := some [[⟨"spiffe", "/ns/default/dc/dc1/svc/gateway"⟩]]

def streamOpens (streamID : ℤ) : Event := .openStream streamID secretType peer

def asks (streamID : ℤ) (resources order : List String) : Event :=
  .request streamID resources "node" order SecretManager.allSecrets

def withGateway : Server :=
  { new with store := ⟨(∅ : GoMap _ _).insert gateway.id gateway, ∅⟩ }

def oneStream : Server := withGateway.openStream 1 secretType gateway.id

/-- The gateway is deleted under the open stream. -/
def orphaned : Server := { oneStream with store := ⟨oneStream.store.gateways.erase gateway.id, ∅⟩ }

def afterPanic : Server := orphaned.request 1 ["one"] "node" [] SecretManager.allSecrets

def served : Server := oneStream.request 1 ["one"] "node" [] SecretManager.allSecrets

def twoStreams : Server := served.openStream 2 secretType gateway.id

/-- The second stream of the node asks for the other secret. -/
def servedTwice : Server := twoStreams.request 2 ["two"] "node" ["one"] SecretManager.allSecrets

theorem allSecrets_succeed : SecretManager.allSecrets.Succeed :=
  ⟨fun _ => ⟨_, rfl⟩, fun _ => rfl, fun _ => rfl⟩

theorem gatewayArrives_step : Step client marshaler new gatewayArrives withGateway :=
  ⟨rfl, _, ⟨⟨GoMap.ranges_empty, GoMap.ranges_empty⟩,
    by simp [Store.Op.Arrives, gateway], rfl⟩, rfl⟩

theorem streamOpens_step : Step client marshaler withGateway (streamOpens 1) oneStream :=
  ⟨rfl, Finmap.notMem_empty, _, rfl, rfl⟩

theorem gatewayLeaves_step : Step client marshaler oneStream gatewayLeaves orphaned :=
  ⟨rfl, _, ⟨⟨GoMap.ranges_singleton _ _, GoMap.ranges_empty⟩, trivial, rfl⟩, rfl⟩

theorem asks_orphaned_step : Step client marshaler orphaned (asks 1 ["one"] []) afterPanic :=
  ⟨rfl, Finmap.mem_insert.mpr (.inl rfl), allSecrets_succeed,
    (fun _ hw => by cases hw), rfl⟩

theorem asks_step : Step client marshaler oneStream (asks 1 ["one"] []) served :=
  ⟨rfl, Finmap.mem_insert.mpr (.inl rfl), allSecrets_succeed,
    (fun _ hw => by cases hw), rfl⟩

theorem streamOpens_again_step : Step client marshaler served (streamOpens 2) twoStreams :=
  ⟨rfl, by decide, _, rfl, rfl⟩

theorem asks_again_step :
    Step client marshaler twoStreams (asks 2 ["two"] ["one"]) servedTwice :=
  ⟨rfl, Finmap.mem_insert.mpr (.inl rfl), allSecrets_succeed, fun watcher hw => by
    obtain rfl : {"one"} = watcher := Option.some.inj hw
    exact ⟨List.nodup_singleton _, fun k => by simp⟩, rfl⟩

/-- The second stream comes from another node, asks for the other secret, and closes again. -/
def asksElsewhere : Event := .request 2 ["two"] "elsewhere" [] SecretManager.allSecrets

def servedElsewhere : Server :=
  twoStreams.request 2 ["two"] "elsewhere" [] SecretManager.allSecrets

def streamCloses : Event := .closeStream 2 ["two"] SecretManager.allSecrets

def oneLeft : Server := servedElsewhere.closeStream 2 ["two"] SecretManager.allSecrets

theorem asksElsewhere_step : Step client marshaler twoStreams asksElsewhere servedElsewhere :=
  ⟨rfl, Finmap.mem_insert.mpr (.inl rfl), allSecrets_succeed,
    (fun _ hw => by cases hw), rfl⟩

theorem streamCloses_step : Step client marshaler servedElsewhere streamCloses oneLeft := by
  refine ⟨rfl, Finmap.mem_insert.mpr (.inl rfl), allSecrets_succeed, ?_, rfl⟩
  intro node hnode watcher hw
  obtain rfl : "elsewhere" = node := Option.some.inj hnode
  obtain rfl : {"two"} = watcher := Option.some.inj hw
  exact ⟨List.nodup_singleton _, fun k => by simp⟩

/-- Nobody else is at the other node. -/
theorem othersAsk_elsewhere {s : Server} {kept : Finset String}
    (h : ∀ u ≠ 2, s.handler.nodeMap.lookup u ≠ some "elsewhere") :
    s.OthersAsk 2 "elsewhere" kept :=
  fun u _ hne _ hnode => absurd hnode (h u hne)

end SampleStreams

open SampleStreams
open SampleCluster (client)
open Store.Sample (marshaler)

/-- **A request on a stream whose gateway was deleted** dereferences the missing
gateway. -/
theorem deletedGateway_panics :
    Run (Step client marshaler) new
        [(SampleStreams.gatewayArrives, SampleStreams.withGateway), (streamOpens 1, oneStream),
          (gatewayLeaves, orphaned), (asks 1 ["one"] [], afterPanic)] ∧
    ¬ Always RequestSound new
        [(SampleStreams.gatewayArrives, SampleStreams.withGateway), (streamOpens 1, oneStream),
          (gatewayLeaves, orphaned), (asks 1 ["one"] [], afterPanic)] := by
  refine ⟨.cons SampleStreams.gatewayArrives_step (.cons streamOpens_step (.cons gatewayLeaves_step
    (.cons asks_orphaned_step (.nil _)))), ?_⟩
  rintro ⟨-, -, -, hsound, -⟩
  exact hsound

/-- The request on a stream whose gateway is stored is sound. -/
theorem requestSound_served :
    Always RequestSound new
      [(SampleStreams.gatewayArrives, SampleStreams.withGateway), (streamOpens 1, oneStream),
        (asks 1 ["one"] [], served)] :=
  (requestSound_run_iff (c := client) (M := marshaler) (.cons SampleStreams.gatewayArrives_step
    (.cons streamOpens_step (.cons asks_step (.nil _))))).mpr ⟨trivial, trivial, rfl, trivial⟩

/-- **A second stream of the same node takes the secret of the first**: the
first stream is still open and was last served `one`, which is not registered
any more. -/
theorem secondStream_drops_secret :
    Run (Step client marshaler) new
        [(SampleStreams.gatewayArrives, SampleStreams.withGateway), (streamOpens 1, oneStream),
          (asks 1 ["one"] [], served), (streamOpens 2, twoStreams),
          (asks 2 ["two"] ["one"], servedTwice)] ∧
    ¬ Always (fun _ _ s' => SecretsKept s') new
        [(SampleStreams.gatewayArrives, SampleStreams.withGateway), (streamOpens 1, oneStream),
          (asks 1 ["one"] [], served), (streamOpens 2, twoStreams),
          (asks 2 ["two"] ["one"], servedTwice)] := by
  refine ⟨.cons SampleStreams.gatewayArrives_step (.cons streamOpens_step (.cons asks_step
    (.cons streamOpens_again_step (.cons asks_again_step (.nil _))))), ?_⟩
  rintro ⟨-, -, -, -, hkept, -⟩
  obtain ⟨entry, he, -⟩ := hkept 1 "node" {"one"} "one" (by decide) rfl rfl
    (Finset.mem_singleton_self _)
  cases he

/-- A stream keeps its secret while one of another node comes and goes. -/
theorem secretsKept_elsewhere :
    Always (fun _ _ s' => SecretsKept s') new
      [(SampleStreams.gatewayArrives, SampleStreams.withGateway), (streamOpens 1, oneStream),
        (asks 1 ["one"] [], served), (streamOpens 2, twoStreams),
        (asksElsewhere, servedElsewhere), (streamCloses, oneLeft)] := by
  have hrun : Run (Step client marshaler) new
      [(SampleStreams.gatewayArrives, SampleStreams.withGateway), (streamOpens 1, oneStream),
        (asks 1 ["one"] [], served), (streamOpens 2, twoStreams),
        (asksElsewhere, servedElsewhere), (streamCloses, oneLeft)] :=
    .cons SampleStreams.gatewayArrives_step (.cons streamOpens_step (.cons asks_step
      (.cons streamOpens_again_step (.cons asksElsewhere_step (.cons streamCloses_step (.nil _))))))
  have hnode : ∀ u ≠ 2, ∀ m : GoMap ℤ String, m = served.handler.nodeMap ∨
      m = served.handler.nodeMap.insert 2 "elsewhere" → m.lookup u ≠ some "elsewhere" := by
    intro u hne m hm hlook
    have hlook : ((∅ : GoMap ℤ String).insert 1 "node").lookup u = some "elsewhere" := by
      rcases hm with rfl | rfl
      · exact hlook
      · rwa [Finmap.lookup_insert_of_ne _ hne] at hlook
    rw [GoMap.lookup_insert_ite] at hlook
    split at hlook
    · exact absurd (Option.some.inj hlook) (by decide)
    · cases hlook
  refine (secretsKept_run_iff hrun).mpr ⟨trivial, trivial, ?_, trivial, ?_, ?_, trivial⟩
  · rintro - u names - - hnode
    cases hnode
  · exact fun _ => othersAsk_elsewhere fun u hne => hnode u hne _ (.inl rfl)
  · intro node hlook
    obtain rfl : "elsewhere" = node := Option.some.inj hlook
    exact othersAsk_elsewhere fun u hne => hnode u hne _ (.inr rfl)

end Server

end Envoy
