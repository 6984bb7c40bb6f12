/-
The SDS server (`internal/envoy/handler.go` and `middleware.go`).

A stream is authenticated when it opens: the middleware takes the gateway from
the SPIFFE path of the client's certificate.  Every request on the stream is then
authorised against that gateway as the store holds it at that moment, and the
node of the request is given the requested secrets to watch.

`Server.Step` is the server as a whole: the streams, the secret manager and the
store, whose operations may come in between any two steps.  A callback is one step,
with the call of the secret manager that it makes, although the manager holds its
lock for reading only while a request is served.
-/
import ConsulApiGateway.Store
import ConsulApiGateway.WatchRegistry

open Reconciler

namespace Envoy

/-! ### Authentication -/

structure URI where
  scheme : String
  path : String

/-- `strings.SplitN` on characters: at most `n` parts, the last one unsplit. -/
def splitN (sep : Char) : ℕ → List Char → List (List Char)
  | 0, _ => []
  | 1, s => [s]
  | n + 2, s =>
    match s.span (· ≠ sep) with
    | (part, []) => [part]
    | (part, _ :: rest) => part :: splitN sep (n + 1) rest

/-- The default namespace is the empty one everywhere. -/
def spiffeGateway (namespace_ service : String) : Core.GatewayID where
  consulNamespace := if namespace_ = "default" then "" else namespace_
  service := service

def spiffePathErr : String := "invalid spiffe path"

/-- `parseURI` after the path has been split. -/
def parseTokens : List String → Except String Core.GatewayID
  | [ap, _, ns, namespace_, dc, _, svc, service] =>
    -- Consul Enterprise in a partition other than the default
    if ap ≠ "ap" ∨ ns ≠ "ns" ∨ dc ≠ "dc" ∨ svc ≠ "svc" then .error spiffePathErr
    else .ok (spiffeGateway namespace_ service)
  | [ns, namespace_, dc, _, svc, service] =>
    if ns ≠ "ns" ∨ dc ≠ "dc" ∨ svc ≠ "svc" then .error spiffePathErr
    else .ok (spiffeGateway namespace_ service)
  | _ => .error spiffePathErr

def parseURI (path : String) : Except String Core.GatewayID :=
  let trimmed := match path.toList with
    | '/' :: rest => rest
    | rest => rest
  parseTokens ((splitN '/' 8 trimmed).map String.ofList)

/-- How the store answers: `ok none` is a gateway it does not have. -/
abbrev GetGateway := Core.GatewayID → Except String (Option K8sGateway)

/-- The gateway that one URI of a certificate stands for, if the store has it. -/
def verifyURI (getGateway : GetGateway) (uri : URI) : Option Core.GatewayID :=
  if uri.scheme = "spiffe" then
    match parseURI uri.path with
    | .error _ => none
    | .ok info =>
      match getGateway info with
      | .ok (some _) => some info
      | .ok none => none
      | .error _ => none
  else none

/-- `peer` has the URIs of each certificate of the client, if it uses TLS. -/
def verifySPIFFE (getGateway : GetGateway) (peer : Option (List (List URI))) :
    Option Core.GatewayID :=
  (peer.getD []).flatten.findSome? (verifyURI getGateway)

/-! ### The handler -/

structure RequestHandler where
  /-- The node of each stream that has made a request. -/
  nodeMap : GoMap ℤ String
  /-- The context of each open stream, that is, the gateway it belongs to. -/
  streamContexts : GoMap ℤ Core.GatewayID
  activeStreams : ℤ

/-- How a request ends. -/
inductive Outcome
  | accepted
  | failed (err : String)
  -- a nil dereference
  | panicked

def secretType : String :=
  "type.googleapis.com/envoy.extensions.transport_sockets.tls.v3.Secret"

def permissionDenied : String := "rpc error: code = PermissionDenied desc = " ++
  "the current gateway does not have permission to fetch the requested secrets"

namespace RequestHandler

def new : RequestHandler := ⟨∅, ∅, 0⟩

/-- The gateway of a stream; a stream without context has none. -/
def gatewayFromContext (h : RequestHandler) (streamID : ℤ) : Core.GatewayID :=
  (h.streamContexts.lookup streamID).getD ⟨"", ""⟩

/-- `StreamOpenFunc`, which refuses anything but secrets. -/
def onStreamOpen (h : RequestHandler) (gateway : Core.GatewayID) (streamID : ℤ)
    (typeURL : String) : RequestHandler × Err :=
  if typeURL ≠ secretType then (h, some ("unsupported type: " ++ typeURL))
  else
    ({ h with
        streamContexts := h.streamContexts.insert streamID gateway
        activeStreams := h.activeStreams + 1 }, none)

/-- `order` is the order in which the secrets of the stream's node are visited;
an error of the secret manager is logged. -/
def onStreamClosed (h : RequestHandler) (s : SecretManager) (a : Answers) (streamID : ℤ)
    (order : List String) : RequestHandler × SecretManager :=
  let s' := match h.nodeMap.lookup streamID with
    | some node => (s.unwatchAll a node order).1
    | none => s
  ({ nodeMap := h.nodeMap.erase streamID
     streamContexts := h.streamContexts.erase streamID
     activeStreams := if streamID ∈ h.streamContexts then h.activeStreams - 1
       else h.activeStreams }, s')

def onStreamRequest (h : RequestHandler) (s : SecretManager) (getGateway : GetGateway)
    (a : Answers) (streamID : ℤ) (resources : List String) (node : String) (order : List String) :
    RequestHandler × SecretManager × Outcome :=
  match getGateway (h.gatewayFromContext streamID) with
  | .error err => (h, s, .failed err)
  -- the store has no such gateway, and no error either
  | .ok none => (h, s, .panicked)
  | .ok (some gateway) =>
    if !gateway.canFetchSecrets resources then (h, s, .failed permissionDenied)
    else
      let h' := { h with nodeMap := h.nodeMap.insert streamID node }
      match s.setResourcesForNode a resources node order with
      | (s', some err) => (h', s', .failed err)
      | (s', none) => (h', s', .accepted)

end RequestHandler

/-! ### The server -/

structure Server where
  store : Store
  handler : RequestHandler
  secrets : SecretManager
  /-- Whether a nil dereference has ended the process. -/
  crashed : Bool
  /-- What each stream named in its last accepted request.  The code does not
  keep this; it is what the streams rely on. -/
  asked : GoMap ℤ (Finset String)

namespace Server

def new : Server := ⟨.new, .new, .new, false, ∅⟩

def getGateway (s : Server) : GetGateway := fun id => .ok (s.store.getGateway id)

inductive Event
  | store (e : Store.Event)
  | openStream (streamID : ℤ) (typeURL : String) (peer : Option (List (List URI)))
  | request (streamID : ℤ) (resources : List String) (node : String) (order : List String)
      (answers : Answers)
  | closeStream (streamID : ℤ) (order : List String) (answers : Answers)
  | manage (force : Bool) (now : ℤ) (order : List String) (answers : Answers)

def openStream (s : Server) (streamID : ℤ) (typeURL : String) (gateway : Core.GatewayID) : Server :=
  { s with handler := (s.handler.onStreamOpen gateway streamID typeURL).1 }

/-- The handler, the secrets and the outcome of a request. -/
def handle (s : Server) (streamID : ℤ) (resources : List String) (node : String)
    (order : List String) (a : Answers) : RequestHandler × SecretManager × Outcome :=
  s.handler.onStreamRequest s.secrets s.getGateway a streamID resources node order

def request (s : Server) (streamID : ℤ) (resources : List String) (node : String)
    (order : List String) (a : Answers) : Server :=
  match s.handle streamID resources node order a with
  | (h, secrets, .accepted) =>
    { s with
      handler := h
      secrets := secrets
      asked := s.asked.insert streamID resources.toFinset }
  | (h, secrets, .failed _) => { s with handler := h, secrets := secrets }
  | (h, secrets, .panicked) => { s with handler := h, secrets := secrets, crashed := true }

def closeStream (s : Server) (streamID : ℤ) (order : List String) (a : Answers) : Server :=
  { s with
    handler := (s.handler.onStreamClosed s.secrets a streamID order).1
    secrets := (s.handler.onStreamClosed s.secrets a streamID order).2
    asked := s.asked.erase streamID }

/-- One event of a server that is running.  A stream opens under an ID of its own
once the middleware has let it pass, and has requests until it closes. -/
def Step (c : Client) (M : Marshaler) (s : Server) (e : Event) (s' : Server) : Prop :=
  s.crashed = false ∧ match e with
  | .store e => ∃ store, Store.Step c M s.store e store ∧ s' = { s with store := store }
  | .openStream streamID typeURL peer => streamID ∉ s.handler.streamContexts ∧
    ∃ gateway, verifySPIFFE s.getGateway peer = some gateway ∧
      s' = s.openStream streamID typeURL gateway
  | .request streamID resources node order a => streamID ∈ s.handler.streamContexts ∧
    a.Succeed ∧ s.secrets.Orders (.setResourcesForNode resources node order) ∧
    s' = s.request streamID resources node order a
  | .closeStream streamID order a => streamID ∈ s.handler.streamContexts ∧ a.Succeed ∧
    (∀ node, s.handler.nodeMap.lookup streamID = some node →
      s.secrets.Orders (.unwatchAll node order)) ∧ s' = s.closeStream streamID order a
  | .manage force now order a =>
    a.Succeed ∧ s' = { s with secrets := s.secrets.manage a force now 0 order }

end Server

end Envoy
