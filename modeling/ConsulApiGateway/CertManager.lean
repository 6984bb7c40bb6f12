/-
The manager of the gateway's own certificates (`internal/consul/certmanager.go`).

Consul delivers root certificates and leaf certificates to the two watches of a
`CertManager`.  What they bring is cached, and `persist` writes what is cached to three
files.  Once all three are there it closes a channel that `WaitForWrite` waits on.  The
handlers hold the lock of the manager, so each event is handled as a whole; the files and the
channel are seen from outside at any time, and so the effects of a handler are kept in the
order in which they happen.

* `persistFiles_effects` — what `persist` has written when it has not failed;
* `Cached.handle` — how an event may be handled: it is dropped, the process panics on an empty
  entry of the list of roots, or what the manager now caches is persisted;
* `Logged.deliver`, `run_logged` — what the cache, the channel and the effects so far have to
  do with the events so far;
* `run_turn` — the event at which the channel is closed;
* `Logged.deliver_leaf` — an event after which it is closed.
-/
import ConsulApiGateway.GoMap
import ConsulApiGateway.Run

open scoped List

namespace Consul.Certificates

/-! ### Effects -/

def rootCAFile : String := "root-ca.pem"
def clientCertFile : String := "client.crt"
def clientPrivateKeyFile : String := "client.pem"

/-- How `os.WriteFile` ends.  When it fails the file may be gone, be as it was, or hold a part
of the data. -/
inductive WriteResult
  | ok
  | failed (err : String) (left : Option String)
  deriving DecidableEq

/-- What can be seen of the manager from outside. -/
inductive Effect
  -- a file of the directory is written
  | write (file data : String) (result : WriteResult)
  -- `close(c.initializeSignal)`
  | close
  deriving DecidableEq

/-- The directory after an effect. -/
def Effect.apply (disk : GoMap String String) : Effect → GoMap String String
  | .write file data .ok => disk.insert file data
  | .write file _ (.failed _ (some left)) => disk.insert file left
  | .write file _ (.failed _ none) => disk.erase file
  | .close => disk

inductive Panic
  | nilDereference
  | closeOfClosedChannel
  deriving DecidableEq

/-- How a call ends that does not return a value. -/
inductive Failure
  | error (err : String)
  | panic (reason : Panic)
  deriving DecidableEq

/-- What a call did and how it ended. -/
structure Call (ε α : Type) where
  effects : List Effect
  result : Except ε α

instance {ε : Type} : Monad (Call ε) where
  pure a := ⟨[], .ok a⟩
  bind call next :=
    match call.result with
    | .ok a => ⟨call.effects ++ (next a).effects, (next a).result⟩
    | .error failure => ⟨call.effects, .error failure⟩

section Call

variable {ε α β : Type}

@[simp] theorem pure_effects (a : α) : (pure a : Call ε α).effects = [] := rfl

@[simp] theorem pure_result (a : α) : (pure a : Call ε α).result = .ok a := rfl

theorem bind_of_ok {call : Call ε α} {a : α} (h : call.result = .ok a) (next : α → Call ε β) :
    call >>= next = ⟨call.effects ++ (next a).effects, (next a).result⟩ := by
  simp only [bind, h]

theorem bind_of_error {call : Call ε α} {failure : ε} (h : call.result = .error failure)
    (next : α → Call ε β) : call >>= next = ⟨call.effects, .error failure⟩ := by
  simp only [bind, h]

theorem bind_result_ok {call : Call ε α} {next : α → Call ε β} {b : β}
    (h : (call >>= next).result = .ok b) :
    ∃ a, call.result = .ok a ∧ (next a).result = .ok b ∧
      (call >>= next).effects = call.effects ++ (next a).effects := by
  cases hresult : call.result with
  | ok a =>
    rw [bind_of_ok hresult] at h ⊢
    exact ⟨a, rfl, h, rfl⟩
  | error failure =>
    rw [bind_of_error hresult] at h
    cases h

/-- A call that does not close the channel and fails only with an error. -/
structure Quiet (call : Call Failure α) : Prop where
  close : .close ∉ call.effects
  error : ∀ failure, call.result = .error failure → ∃ err, failure = .error err

theorem Quiet.bind {call : Call Failure α} {next : α → Call Failure β} (h : Quiet call)
    (hnext : ∀ a, Quiet (next a)) : Quiet (call >>= next) := by
  cases hresult : call.result with
  | ok a =>
    rw [bind_of_ok hresult]
    refine ⟨?_, (hnext a).error⟩
    rw [List.mem_append, not_or]
    exact ⟨h.close, (hnext a).close⟩
  | error failure =>
    rw [bind_of_error hresult]
    refine ⟨h.close, ?_⟩
    intro failure' hfailure
    cases hfailure
    exact h.error failure hresult

end Call

/-! ### The manager -/

/-- The certificate libraries. -/
structure X509 (Pool KeyPair : Type) where
  newCertPool : Pool
  appendCertsFromPEM : Pool → String → Pool
  /-- `tls.X509KeyPair`, of the certificate and the key. -/
  keyPair : String → String → Except String KeyPair

/-- A `CertManager`, without what it takes to run the watches and to render the SDS
configuration. -/
structure CertManager (Pool KeyPair : Type) where
  directory : String
  signalled : Bool := false
  /-- Whether the channel is closed. -/
  initializeSignal : Bool := false
  ca : Option String := none
  certificate : Option String := none
  privateKey : Option String := none
  tlsCertificate : Option KeyPair := none
  rootCertificatePool : Option Pool := none

structure CARoot where
  rootCertPEM : String
  active : Bool
  deriving DecidableEq

/-- A `CARootList`; its entries are pointers. -/
structure CARootList where
  roots : List (Option CARoot)
  deriving DecidableEq

structure LeafCert where
  certPEM : String
  privateKeyPEM : String
  deriving DecidableEq

/-- What a watch hands to its handler: an interface that should hold a pointer. -/
inductive Payload (α : Type)
  | nilInterface
  | wrongType
  | nilPointer
  | value (v : α)

variable {Pool KeyPair : Type} (x509 : X509 Pool KeyPair)

namespace CertManager

variable (writes : String → WriteResult)

/-- A file of `persist`, which is skipped as long as there is nothing to write. -/
def persistFile (what file : String) : Option String → Call Failure Unit
  | none => pure ()
  | some data =>
    ⟨[.write file data (writes file)],
      match writes file with
      | .ok => .ok ()
      | .failed err _ => .error (.error ("error writing " ++ what ++ " fiile: " ++ err))⟩

/-- The files of `persist`, up to the first write that fails. -/
def persistFiles (c : CertManager Pool KeyPair) : Call Failure Unit := do
  persistFile writes "root CA" rootCAFile c.ca
  persistFile writes "client cert" clientCertFile c.certificate
  persistFile writes "client private key" clientPrivateKeyFile c.privateKey

def signal (c : CertManager Pool KeyPair) : Call Failure (CertManager Pool KeyPair) :=
  let isInitialized := c.ca.isSome ∧ c.certificate.isSome ∧ c.privateKey.isSome
  if ¬ c.signalled ∧ isInitialized then
    ⟨[.close],
      if c.initializeSignal then .error (.panic .closeOfClosedChannel)
      else .ok { c with initializeSignal := true, signalled := true }⟩
  else pure c

def persist (c : CertManager Pool KeyPair) : Call Failure (CertManager Pool KeyPair) := do
  if c.directory ≠ "" then persistFiles writes c
  c.signal

/-- A call of `writeCerts` by a handler, which logs an error and goes on. -/
def writeCerts (c : CertManager Pool KeyPair) : Call Panic (CertManager Pool KeyPair) :=
  ⟨(persist writes c).effects,
    match (persist writes c).result with
    | .ok c' => .ok c'
    | .error (.error _) => .ok c
    | .error (.panic reason) => .error reason⟩

/-- The loop of `handleRootWatch`: the pool, and the last active root if there is one. -/
def appendRoots : List (Option CARoot) → Pool → Option String → Call Panic (Pool × Option String)
  | [], pool, ca => pure (pool, ca)
  | none :: _, _, _ => ⟨[], .error .nilDereference⟩
  | some root :: roots, pool, ca =>
    appendRoots roots (x509.appendCertsFromPEM pool root.rootCertPEM)
      (if root.active then some root.rootCertPEM else ca)

def handleRootWatch (c : CertManager Pool KeyPair) :
    Payload CARootList → Call Panic (CertManager Pool KeyPair)
  | .nilInterface | .wrongType | .nilPointer => pure c
  | .value v => do
    let (roots, ca) ← appendRoots x509 v.roots x509.newCertPool c.ca
    writeCerts writes { c with ca := ca, rootCertificatePool := some roots }

def handleLeafWatch (c : CertManager Pool KeyPair) :
    Payload LeafCert → Call Panic (CertManager Pool KeyPair)
  | .nilInterface | .wrongType | .nilPointer => pure c
  | .value v =>
    match x509.keyPair v.certPEM v.privateKeyPEM with
    | .error _ => pure c
    | .ok cert =>
      writeCerts writes
        { c with
          certificate := some v.certPEM
          privateKey := some v.privateKeyPEM
          tlsCertificate := some cert }

/-- The results `WaitForWrite` may return: the `select` takes any case that is ready, and
waits if there is none. -/
def waitForWrite (initializeSignal ctxDone : Bool) : List (Except String Unit) :=
  (if initializeSignal then [.ok ()] else []) ++
    (if ctxDone then [.error "wait canceled"] else [])

end CertManager

/-! ### Runs -/

/-- An event of one of the watches, and how the writes it leads to end. -/
inductive Event
  | rootWatch (raw : Payload CARootList) (writes : String → WriteResult)
  | leafWatch (raw : Payload LeafCert) (writes : String → WriteResult)

def Event.writes : Event → String → WriteResult
  | .rootWatch _ writes => writes
  | .leafWatch _ writes => writes

def Event.handle (c : CertManager Pool KeyPair) : Event → Call Panic (CertManager Pool KeyPair)
  | .rootWatch raw writes => c.handleRootWatch x509 writes raw
  | .leafWatch raw writes => c.handleLeafWatch x509 writes raw

/-- The process of the manager, with the effects so far. -/
structure Process (Pool KeyPair : Type) where
  manager : CertManager Pool KeyPair
  effects : List Effect := []
  panicked : Option Panic := none

/-- An event is handled, unless a panic has ended the process. -/
def Process.deliver (p : Process Pool KeyPair) (e : Event) : Process Pool KeyPair :=
  if p.panicked.isSome then p
  else
    let call := e.handle x509 p.manager
    match call.result with
    | .ok c => { p with manager := c, effects := p.effects ++ call.effects }
    | .error reason => { p with effects := p.effects ++ call.effects, panicked := some reason }

/-- A new manager, after a sequence of events. -/
def run (directory : String) (events : List Event) : Process Pool KeyPair :=
  events.foldl (Process.deliver x509) { manager := { directory := directory } }

/-! ### What is persisted -/

section Persist

variable {x509} {writes : String → WriteResult} {c : CertManager Pool KeyPair}
  {what file : String} {data : Option String}

theorem persistFile_quiet : Quiet (CertManager.persistFile writes what file data) := by
  cases data with
  | none => exact ⟨List.not_mem_nil, fun failure h => by cases h⟩
  | some data =>
    refine ⟨by simp [CertManager.persistFile], fun failure h => ?_⟩
    cases hwrite : writes file with
    | ok => simp [CertManager.persistFile, hwrite] at h
    | failed err left =>
      simp only [CertManager.persistFile, hwrite, Except.error.injEq] at h
      exact ⟨_, h.symm⟩

/-- A file of `persist` is written, if there is something to write, unless the call fails. -/
theorem persistFile_effects (h : (CertManager.persistFile writes what file data).result = .ok ()) :
    (CertManager.persistFile writes what file data).effects
      = data.toList.map (.write file · .ok) := by
  cases data with
  | none => rfl
  | some data =>
    cases hwrite : writes file with
    | ok => simp [CertManager.persistFile, hwrite]
    | failed err left => simp [CertManager.persistFile, hwrite] at h

/-- Writing the files neither closes the channel nor panics. -/
theorem persistFiles_quiet : Quiet (CertManager.persistFiles writes c) :=
  persistFile_quiet.bind fun _ => persistFile_quiet.bind fun _ => persistFile_quiet

/-- What `persist` has written when none of its writes has failed. -/
theorem persistFiles_effects (h : (CertManager.persistFiles writes c).result = .ok ()) :
    (CertManager.persistFiles writes c).effects
      = c.ca.toList.map (.write rootCAFile · .ok) ++
        (c.certificate.toList.map (.write clientCertFile · .ok) ++
          c.privateKey.toList.map (.write clientPrivateKeyFile · .ok)) := by
  obtain ⟨_, hca, h, heffects⟩ := bind_result_ok h
  obtain ⟨_, hcertificate, hkey, heffects'⟩ := bind_result_ok h
  rw [CertManager.persistFiles, heffects, heffects', persistFile_effects hca,
    persistFile_effects hcertificate, persistFile_effects hkey]

theorem persistFiles_result (h : ∀ file, writes file = .ok) :
    (CertManager.persistFiles writes c).result = .ok () := by
  have hfile : ∀ what file data,
      (CertManager.persistFile writes what file data).result = .ok () := by
    intro what file data
    cases data with
    | none => rfl
    | some data => simp [CertManager.persistFile, h file]
  rw [CertManager.persistFiles, bind_of_ok (hfile _ _ _), bind_of_ok (hfile _ _ _), hfile]

end Persist

/-! ### What is cached -/

/-- `ca` is an active root of an event. -/
def ActiveRoot (events : List Event) (ca : String) : Prop :=
  ∃ v writes, .rootWatch (.value v) writes ∈ events ∧ some ⟨ca, true⟩ ∈ v.roots

/-- A leaf certificate of an event that is a key pair. -/
def AcceptedLeaf (events : List Event) (leaf : LeafCert) : Prop :=
  ∃ writes keyPair, .leafWatch (.value leaf) writes ∈ events ∧
    x509.keyPair leaf.certPEM leaf.privateKeyPEM = .ok keyPair

/-- The cache holds an active root, or none, and both halves of a leaf certificate, or none. -/
structure Cached (past : List Event) (c : CertManager Pool KeyPair) : Prop where
  directory : c.directory ≠ ""
  sync : c.initializeSignal = c.signalled
  ca : ∀ ca, c.ca = some ca → ActiveRoot past ca
  leaf : (c.certificate = none ∧ c.privateKey = none) ∨
    ∃ leaf, AcceptedLeaf x509 past leaf ∧
      c.certificate = some leaf.certPEM ∧ c.privateKey = some leaf.privateKeyPEM

/-- The effects of a call of `persist` that closes the channel. -/
def written (ca : String) (leaf : LeafCert) : List Effect :=
  [.write rootCAFile ca .ok, .write clientCertFile leaf.certPEM .ok,
    .write clientPrivateKeyFile leaf.privateKeyPEM .ok, .close]

/-- What a call of `writeCerts` may do, after some events. -/
inductive Persisted (past : List Event) (writes : String → WriteResult)
    (c : CertManager Pool KeyPair) : Call Panic (CertManager Pool KeyPair) → Prop
  | kept {effects : List Effect} (hclose : .close ∉ effects) :
      Persisted past writes c ⟨effects, .ok c⟩
  | signalled {ca : String} {leaf : LeafCert} (hca : ActiveRoot past ca)
      (hleaf : AcceptedLeaf x509 past leaf) (hsignalled : c.signalled = false)
      (hpersist : c.persist writes
        = ⟨written ca leaf, .ok { c with initializeSignal := true, signalled := true }⟩) :
      Persisted past writes c
        ⟨written ca leaf, .ok { c with initializeSignal := true, signalled := true }⟩

section Cached

variable {x509} {past : List Event} {writes : String → WriteResult} {c : CertManager Pool KeyPair}

theorem ActiveRoot.snoc {ca : String} (h : ActiveRoot past ca) (e : Event) :
    ActiveRoot (past ++ [e]) ca := by
  obtain ⟨v, writes, hmem, hroot⟩ := h
  exact ⟨v, writes, List.mem_append_left _ hmem, hroot⟩

theorem AcceptedLeaf.snoc {leaf : LeafCert} (h : AcceptedLeaf x509 past leaf) (e : Event) :
    AcceptedLeaf x509 (past ++ [e]) leaf := by
  obtain ⟨writes, keyPair, hmem, hpair⟩ := h
  exact ⟨writes, keyPair, List.mem_append_left _ hmem, hpair⟩

theorem Cached.snoc (h : Cached x509 past c) (e : Event) : Cached x509 (past ++ [e]) c where
  directory := h.directory
  sync := h.sync
  ca ca hca := (h.ca ca hca).snoc e
  leaf := by
    rcases h.leaf with hnone | ⟨leaf, hleaf, hhalves⟩
    · exact .inl hnone
    · exact .inr ⟨leaf, hleaf.snoc e, hhalves⟩

/-- When nothing is missing, the certificate and the key are those of one leaf. -/
theorem Cached.initialized (h : Cached x509 past c)
    (hinit : c.ca.isSome ∧ c.certificate.isSome ∧ c.privateKey.isSome) :
    ∃ ca leaf, ActiveRoot past ca ∧ AcceptedLeaf x509 past leaf ∧ c.ca = some ca ∧
      c.certificate = some leaf.certPEM ∧ c.privateKey = some leaf.privateKeyPEM := by
  obtain ⟨hca, hcertificate, -⟩ := hinit
  obtain ⟨ca, hca⟩ := Option.isSome_iff_exists.1 hca
  rcases h.leaf with ⟨hnone, -⟩ | ⟨leaf, hleaf, hhalves⟩
  · rw [hnone] at hcertificate
    cases hcertificate
  · exact ⟨ca, leaf, h.ca ca hca, hleaf, hca, hhalves⟩

/-- How `persist` ends, by how the writes end. -/
theorem Cached.persist_ok (h : Cached x509 past c)
    (hfiles : (CertManager.persistFiles writes c).result = .ok ()) :
    c.persist writes
      = ⟨(CertManager.persistFiles writes c).effects ++ c.signal.effects, c.signal.result⟩ := by
  simp only [CertManager.persist, h.directory, ne_eq, not_false_eq_true, if_true]
  exact bind_of_ok hfiles _

theorem Cached.persist_error (h : Cached x509 past c) {failure : Failure}
    (hfiles : (CertManager.persistFiles writes c).result = .error failure) :
    c.persist writes = ⟨(CertManager.persistFiles writes c).effects, .error failure⟩ := by
  simp only [CertManager.persist, h.directory, ne_eq, not_false_eq_true, if_true]
  exact bind_of_error hfiles _

/-- The first `signal` finds the channel open. -/
theorem Cached.signal_eq (h : Cached x509 past c) (hsignalled : c.signalled = false)
    (hinit : c.ca.isSome ∧ c.certificate.isSome ∧ c.privateKey.isSome) :
    c.signal = ⟨[.close], .ok { c with initializeSignal := true, signalled := true }⟩ := by
  have hopen : c.initializeSignal = false := h.sync.trans hsignalled
  simp [CertManager.signal, hsignalled, hinit, hopen]

theorem Cached.writeCerts (h : Cached x509 past c) :
    Persisted x509 past writes c (c.writeCerts writes) := by
  cases hfiles : (CertManager.persistFiles writes c).result with
  | error failure =>
    obtain ⟨err, rfl⟩ := persistFiles_quiet.error failure hfiles
    simp only [CertManager.writeCerts, h.persist_error hfiles]
    exact .kept persistFiles_quiet.close
  | ok _ =>
    have hpersist := h.persist_ok hfiles
    by_cases hsignal : ¬ c.signalled ∧ c.ca.isSome ∧ c.certificate.isSome ∧ c.privateKey.isSome
    · obtain ⟨ca, leaf, hroot, hleaf, hca, hcertificate, hkey⟩ := h.initialized hsignal.2
      have hsignalled : c.signalled = false := Bool.eq_false_iff.2 hsignal.1
      have hwritten :
          (CertManager.persistFiles writes c).effects ++ [.close] = written ca leaf := by
        rw [persistFiles_effects hfiles, hca, hcertificate, hkey]
        rfl
      rw [h.signal_eq hsignalled hsignal.2, hwritten] at hpersist
      simp only [CertManager.writeCerts, hpersist]
      exact .signalled hroot hleaf hsignalled hpersist
    · have hkept : c.signal = pure c := if_neg hsignal
      rw [hkept, pure_effects, pure_result, List.append_nil] at hpersist
      simp only [CertManager.writeCerts, hpersist]
      exact .kept persistFiles_quiet.close

/-- Once everything is cached and written, the channel is closed. -/
theorem Cached.writeCerts_closes (h : Cached x509 past c)
    (hinit : c.ca.isSome ∧ c.certificate.isSome ∧ c.privateKey.isSome)
    (hwrites : ∀ file, writes file = .ok) :
    ∃ c', (c.writeCerts writes).result = .ok c' ∧ c'.initializeSignal = true := by
  have hpersist := h.persist_ok (persistFiles_result hwrites)
  cases hsignalled : c.signalled with
  | false =>
    rw [h.signal_eq hsignalled hinit] at hpersist
    refine ⟨{ c with initializeSignal := true, signalled := true }, ?_, rfl⟩
    simp only [CertManager.writeCerts, hpersist]
  | true =>
    have hkept : c.signal = pure c := if_neg (by simp [hsignalled])
    rw [hkept, pure_result] at hpersist
    refine ⟨c, ?_, h.sync.trans hsignalled⟩
    simp only [CertManager.writeCerts, hpersist]

end Cached

/-! ### Events -/

/-- How an event may be handled, after some others. -/
inductive Handled (past : List Event) (e : Event) (c : CertManager Pool KeyPair) :
    Call Panic (CertManager Pool KeyPair) → Prop
  | dropped : Handled past e c ⟨[], .ok c⟩
  | panicked : Handled past e c ⟨[], .error .nilDereference⟩
  | persisted {c' : CertManager Pool KeyPair} {call : Call Panic (CertManager Pool KeyPair)}
      (hcached : Cached x509 (past ++ [e]) c') (hsignalled : c'.signalled = c.signalled)
      (hcall : Persisted x509 (past ++ [e]) e.writes c' call) : Handled past e c call

/-- The loop of `handleRootWatch` panics, or it leaves `ca` as it was or sets it to an active
root. -/
theorem appendRoots_cases (roots : List (Option CARoot)) (pool : Pool) (ca : Option String) :
    CertManager.appendRoots x509 roots pool ca = ⟨[], .error .nilDereference⟩ ∨
      ∃ pool' ca', CertManager.appendRoots x509 roots pool ca = pure (pool', ca') ∧
        ∀ pem, ca' = some pem → ca = some pem ∨ some ⟨pem, true⟩ ∈ roots := by
  induction roots generalizing pool ca with
  | nil => exact .inr ⟨pool, ca, rfl, fun pem hpem => .inl hpem⟩
  | cons root roots ih =>
    cases root with
    | none => exact .inl rfl
    | some root =>
      rcases ih (x509.appendCertsFromPEM pool root.rootCertPEM)
        (if root.active then some root.rootCertPEM else ca) with h | ⟨pool', ca', h, hca⟩
      · exact .inl h
      · refine .inr ⟨pool', ca', h, fun pem hpem => ?_⟩
        rcases hca pem hpem with hroot | hmem
        · split at hroot
          next hactive =>
            obtain ⟨rootCertPEM, active⟩ := root
            cases hroot
            cases hactive
            exact .inr List.mem_cons_self
          next => exact .inl hroot
        · exact .inr (List.mem_cons_of_mem _ hmem)

section Events

variable {x509} {past : List Event} {e : Event} {c : CertManager Pool KeyPair}
  {p : Process Pool KeyPair}

/-- The active root that an event brings is cached. -/
theorem Cached.newRoot (h : Cached x509 past c) {v : CARootList} {ca : Option String}
    (writes : String → WriteResult) (pool : Pool)
    (hca : ∀ pem, ca = some pem → c.ca = some pem ∨ some ⟨pem, true⟩ ∈ v.roots) :
    Cached x509 (past ++ [.rootWatch (.value v) writes])
      { c with ca := ca, rootCertificatePool := some pool } where
  directory := h.directory
  sync := h.sync
  ca pem hpem := by
    rcases hca pem hpem with hold | hroot
    · exact (h.ca pem hold).snoc _
    · exact ⟨v, writes, by simp, hroot⟩
  leaf := (h.snoc _).leaf

/-- So are the two halves of the leaf certificate that it brings. -/
theorem Cached.newLeaf (h : Cached x509 past c) {leaf : LeafCert} {keyPair : KeyPair}
    (writes : String → WriteResult)
    (hpair : x509.keyPair leaf.certPEM leaf.privateKeyPEM = .ok keyPair) :
    Cached x509 (past ++ [.leafWatch (.value leaf) writes])
      { c with
        certificate := some leaf.certPEM
        privateKey := some leaf.privateKeyPEM
        tlsCertificate := some keyPair } where
  directory := h.directory
  sync := h.sync
  ca := (h.snoc _).ca
  leaf := .inr ⟨leaf, ⟨writes, keyPair, by simp, hpair⟩, rfl, rfl⟩

theorem Cached.handle (h : Cached x509 past c) (e : Event) :
    Handled x509 past e c (e.handle x509 c) := by
  cases e with
  | rootWatch raw writes =>
    cases raw with
    | value v =>
      rcases appendRoots_cases x509 v.roots x509.newCertPool c.ca with
        hroots | ⟨pool, ca, hroots, hca⟩
      · simp only [Event.handle, CertManager.handleRootWatch, hroots]
        exact .panicked
      · simp only [Event.handle, CertManager.handleRootWatch, hroots]
        have hcached := h.newRoot writes pool hca
        exact .persisted hcached rfl hcached.writeCerts
    | _ => exact .dropped
  | leafWatch raw writes =>
    cases raw with
    | value v =>
      cases hpair : x509.keyPair v.certPEM v.privateKeyPEM with
      | error err =>
        simp only [Event.handle, CertManager.handleLeafWatch, hpair]
        exact .dropped
      | ok keyPair =>
        simp only [Event.handle, CertManager.handleLeafWatch, hpair]
        have hcached := h.newLeaf writes hpair
        exact .persisted hcached rfl hcached.writeCerts
    | _ => exact .dropped

end Events

/-! ### Whole runs -/

/-- What an event may do to the process, after some others. -/
inductive Delivered (past : List Event) (e : Event) (p : Process Pool KeyPair) :
    Process Pool KeyPair → Prop
  | quiet {c : CertManager Pool KeyPair} {effects : List Effect} {panicked : Option Panic}
      (hcached : Cached x509 (past ++ [e]) c) (hsignalled : c.signalled = p.manager.signalled)
      (hclose : .close ∉ effects) (hpanic : panicked ≠ some .closeOfClosedChannel) :
      Delivered past e p ⟨c, p.effects ++ effects, panicked⟩
  | signalled {c : CertManager Pool KeyPair} {ca : String} {leaf : LeafCert}
      (hcached : Cached x509 (past ++ [e]) c) (hsignalled : p.manager.signalled = false)
      (hca : ActiveRoot (past ++ [e]) ca) (hleaf : AcceptedLeaf x509 (past ++ [e]) leaf)
      (hpersist : c.persist e.writes
        = ⟨written ca leaf, .ok { c with initializeSignal := true, signalled := true }⟩) :
      Delivered past e p
        ⟨{ c with initializeSignal := true, signalled := true }, p.effects ++ written ca leaf, none⟩

/-- The events so far, the cache, the channel and the effects. -/
structure Logged (past : List Event) (p : Process Pool KeyPair) : Prop where
  cached : Cached x509 past p.manager
  closes : p.effects.count .close = p.manager.signalled.toNat
  panic : p.panicked ≠ some .closeOfClosedChannel

section Runs

variable {x509} {past : List Event} {p : Process Pool KeyPair} {directory : String}

theorem Logged.delivered (h : Logged x509 past p) (e : Event) :
    Delivered x509 past e p (p.deliver x509 e) := by
  by_cases hpanicked : p.panicked.isSome
  · -- the process has ended
    have hstep : Delivered x509 past e p ⟨p.manager, p.effects ++ [], p.panicked⟩ :=
      .quiet (h.cached.snoc e) rfl (by simp) h.panic
    rw [List.append_nil] at hstep
    rw [Process.deliver, if_pos hpanicked]
    exact hstep
  · have hnone : p.panicked = none := Option.not_isSome_iff_eq_none.1 hpanicked
    rw [Process.deliver, if_neg hpanicked, hnone]
    have hhandled := h.cached.handle e
    generalize e.handle x509 p.manager = call at hhandled ⊢
    cases hhandled with
    | dropped => exact .quiet (h.cached.snoc e) rfl (by simp) (by simp)
    | panicked => exact .quiet (h.cached.snoc e) rfl (by simp) (by simp)
    | persisted hcached hsignalled hcall =>
      cases hcall with
      | kept hclose => exact .quiet hcached hsignalled hclose (by simp)
      | signalled hca hleaf hopen hpersist =>
        exact .signalled hcached (hsignalled.symm.trans hopen) hca hleaf hpersist

theorem count_close_written (ca : String) (leaf : LeafCert) :
    (written ca leaf).count .close = 1 := by
  simp [written]

theorem Logged.deliver (h : Logged x509 past p) (e : Event) :
    Logged x509 (past ++ [e]) (p.deliver x509 e) := by
  have hstep := h.delivered e
  generalize p.deliver x509 e = p' at hstep
  cases hstep with
  | quiet hcached hsignalled hclose hpanic =>
    refine ⟨hcached, ?_, hpanic⟩
    rw [List.count_append, List.count_eq_zero.2 hclose, h.closes, hsignalled, Nat.add_zero]
  | signalled hcached hsignalled hca hleaf hpersist =>
    refine ⟨⟨hcached.directory, rfl, hcached.ca, hcached.leaf⟩, ?_, by simp⟩
    rw [List.count_append, count_close_written, h.closes, hsignalled]
    rfl

theorem logged_new (hdir : directory ≠ "") :
    Logged x509 [] ({ manager := { directory := directory } } : Process Pool KeyPair) where
  cached :=
    { directory := hdir
      sync := rfl
      ca := by
        intro ca hca
        cases hca
      leaf := .inl ⟨rfl, rfl⟩ }
  closes := rfl
  panic := by simp

theorem run_logged (hdir : directory ≠ "") (events : List Event) :
    Logged x509 events (run x509 directory events) := by
  refine foldl_history (logged_new hdir) ?_ events
  intro past p e h
  exact h.deliver e

/-- The channel is closed when it has been closed. -/
theorem Logged.initializeSignal_iff (h : Logged x509 past p) :
    p.manager.initializeSignal = true ↔ .close ∈ p.effects := by
  rw [h.cached.sync, ← List.count_pos_iff, h.closes]
  cases p.manager.signalled <;> simp

theorem run_snoc (events : List Event) (e : Event) :
    run x509 directory (events ++ [e]) = (run x509 directory events).deliver x509 e :=
  List.foldl_append ..

/-- Effects stay. -/
theorem run_effects_prefix (hdir : directory ≠ "") (before after : List Event) :
    (run x509 directory before).effects <+: (run x509 directory (before ++ after)).effects := by
  induction after using List.reverseRecOn with
  | nil => rw [List.append_nil]
  | append_singleton after e ih =>
    rw [← List.append_assoc, run_snoc]
    refine ih.trans ?_
    have hlogged : Logged x509 (before ++ after) (run x509 directory (before ++ after)) :=
      run_logged hdir _
    have hstep := hlogged.delivered e
    generalize (run x509 directory (before ++ after)).deliver x509 e = p' at hstep
    cases hstep <;> exact List.prefix_append _ _

/-- The event at which the channel is closed: all three files are written at that event. -/
theorem run_turn (hdir : directory ≠ "") {events : List Event}
    (hclosed : .close ∈ (run x509 directory events).effects) :
    ∃ before e after ca leaf, ∃ c : CertManager Pool KeyPair, events = before ++ e :: after ∧
      .close ∉ (run x509 directory before).effects ∧
      ActiveRoot (before ++ [e]) ca ∧ AcceptedLeaf x509 (before ++ [e]) leaf ∧
      c.persist e.writes = ⟨written ca leaf, .ok (run x509 directory (before ++ [e])).manager⟩ ∧
      (run x509 directory (before ++ [e])).effects
        = (run x509 directory before).effects ++ written ca leaf := by
  have hnone : Effect.close ∉ (run x509 directory []).effects := List.not_mem_nil
  obtain ⟨before, e, after, hevents, hopen, hturn⟩ :=
    foldl_turn (P := fun p : Process Pool KeyPair => .close ∈ p.effects) hnone hclosed
  have hlogged : Logged x509 before (run x509 directory before) := run_logged hdir before
  have hstep := hlogged.delivered e
  change Effect.close ∈ ((run x509 directory before).deliver x509 e).effects at hturn
  rw [← run_snoc] at hstep hturn
  generalize hp : run x509 directory (before ++ [e]) = p' at hstep hturn
  cases hstep with
  | quiet _ _ hclose _ =>
    -- neither the effects so far nor those of the event have a `close`
    rcases List.mem_append.1 hturn with h | h
    · exact absurd h hopen
    · exact absurd h hclose
  | @signalled c ca leaf _ _ hca hleaf hpersist =>
    refine ⟨before, e, after, ca, leaf, c, hevents, hopen, hca, hleaf, ?_, ?_⟩
    · rw [hp]
      exact hpersist
    · rw [hp]

/-- Once there is a root, a leaf certificate whose files are all written leaves the channel
closed. -/
theorem Logged.deliver_leaf (h : Logged x509 past p) (hrunning : p.panicked = none)
    (hroot : p.manager.ca.isSome) {leaf : LeafCert} {keyPair : KeyPair}
    (hpair : x509.keyPair leaf.certPEM leaf.privateKeyPEM = .ok keyPair)
    {writes : String → WriteResult} (hwrites : ∀ file, writes file = .ok) :
    (p.deliver x509 (.leafWatch (.value leaf) writes)).manager.initializeSignal = true := by
  have hcached := h.cached.newLeaf writes hpair
  obtain ⟨c', hresult, hclosed⟩ := hcached.writeCerts_closes ⟨hroot, rfl, rfl⟩ hwrites
  simp only [Process.deliver, hrunning, Option.isSome_none, Bool.false_eq_true, if_false,
    Event.handle, CertManager.handleLeafWatch, hpair, hresult]
  exact hclosed

/-- A part of the effects of a run that has a `close` goes as far as the first. -/
theorem prefix_of_close {effects before moment : List Effect} {ca : String} {leaf : LeafCert}
    (hopen : .close ∉ before) (hwritten : before ++ written ca leaf <+: effects)
    (hmoment : moment <+: effects) (hclosed : .close ∈ moment) :
    before ++ written ca leaf <+: moment := by
  rcases List.prefix_or_prefix_of_prefix hwritten hmoment with h | h
  · exact h
  · -- `close` is the last of the effects, so nothing shorter has it
    obtain ⟨files, hfiles, hclose⟩ :
        ∃ files, written ca leaf = files ++ [.close] ∧ Effect.close ∉ files :=
      ⟨[.write rootCAFile ca .ok, .write clientCertFile leaf.certPEM .ok,
        .write clientPrivateKeyFile leaf.privateKeyPEM .ok], rfl, by simp⟩
    rw [hfiles, ← List.append_assoc] at h ⊢
    rcases List.prefix_concat_iff.1 h with heq | hshort
    · rw [heq]
    · rcases List.mem_append.1 (hshort.subset hclosed) with h | h
      · exact absurd h hopen
      · exact absurd h hclose

/-- The directory holds a root and the two halves of a leaf certificate. -/
structure Holds (disk : GoMap String String) (ca : String) (leaf : LeafCert) : Prop where
  rootCA : disk.lookup rootCAFile = some ca
  clientCert : disk.lookup clientCertFile = some leaf.certPEM
  clientPrivateKey : disk.lookup clientPrivateKeyFile = some leaf.privateKeyPEM

theorem holds_written (disk : GoMap String String) (ca : String) (leaf : LeafCert) :
    Holds ((written ca leaf).foldl Effect.apply disk) ca leaf := by
  constructor <;>
    simp [written, Effect.apply, rootCAFile, clientCertFile, clientPrivateKeyFile]

/-- In every sequence of events the channel is closed at most once, and `WaitForWrite` returns
without an error only after one call of `persist` has written all three files, at which point
the directory holds an active root and the two halves of one leaf certificate. -/
theorem waitForWrite_written (x509 : X509 Pool KeyPair) (directory : String)
    (hdir : directory ≠ "") (events : List Event) (disk : GoMap String String) :
    (run x509 directory events).effects.count .close ≤ 1 ∧
    (run x509 directory events).panicked ≠ some .closeOfClosedChannel ∧
    ((run x509 directory events).manager.initializeSignal = true ↔
      .close ∈ (run x509 directory events).effects) ∧
    ∀ moment, moment <+: (run x509 directory events).effects → ∀ ctxDone : Bool,
      .ok () ∈ CertManager.waitForWrite (decide (.close ∈ moment)) ctxDone →
      ∃ before e after ca leaf, ∃ c c' : CertManager Pool KeyPair,
        events = before ++ e :: after ∧
        ActiveRoot (before ++ [e]) ca ∧ AcceptedLeaf x509 (before ++ [e]) leaf ∧
        c.persist e.writes = ⟨written ca leaf, .ok c'⟩ ∧
        (run x509 directory (before ++ [e])).effects
          = (run x509 directory before).effects ++ written ca leaf ∧
        (run x509 directory before).effects ++ written ca leaf <+: moment ∧
        Holds (((run x509 directory before).effects ++ written ca leaf).foldl Effect.apply disk)
          ca leaf := by
  have hlogged : Logged x509 events (run x509 directory events) := run_logged hdir events
  refine ⟨?_, hlogged.panic, hlogged.initializeSignal_iff, fun moment hmoment ctxDone hwait => ?_⟩
  · rw [hlogged.closes]
    exact Bool.toNat_le _
  · have hclosed : Effect.close ∈ moment := by
      by_contra hopen
      cases ctxDone <;> simp [CertManager.waitForWrite, hopen] at hwait
    -- the turn in which the channel was closed is the one that wrote the files
    obtain ⟨before, e, after, ca, leaf, c, rfl, hopen, hca, hleaf, hpersist, heffects⟩ :=
      run_turn hdir (hmoment.subset hclosed)
    have hwritten : (run x509 directory (before ++ [e])).effects
        <+: (run x509 directory (before ++ [e] ++ after)).effects := run_effects_prefix hdir _ _
    rw [heffects, List.append_assoc, List.singleton_append] at hwritten
    refine ⟨before, e, after, ca, leaf, c, _, rfl, hca, hleaf, hpersist, heffects,
      prefix_of_close hopen hwritten hmoment hclosed, ?_⟩
    rw [List.foldl_append]
    exact holds_written _ ca leaf

end Runs

namespace SampleWatches

/-- A library that takes everything for a certificate, and every two texts but empty ones for a
key pair. -/
def library : X509 (List String) (String × String) where
  newCertPool := []
  appendCertsFromPEM pool pem := pool ++ [pem]
  keyPair cert key :=
    if cert = "" ∨ key = "" then .error "failed to find any PEM data" else .ok (cert, key)

/-- The key file of the first leaf certificate cannot be written; the second one is, and a later
one is not a key pair. -/
def events : List Event :=
  [.leafWatch .wrongType fun _ => .ok,
    .rootWatch (.value ⟨[some ⟨"old root", false⟩, some ⟨"root", true⟩]⟩) fun _ => .ok,
    .leafWatch (.value ⟨"certificate", "key"⟩) fun file =>
      if file = clientPrivateKeyFile then .failed "no space left on device" (some "ke") else .ok,
    .leafWatch (.value ⟨"new certificate", "new key"⟩) fun _ => .ok,
    .leafWatch (.value ⟨"", ""⟩) fun _ => .ok,
    .rootWatch .nilInterface fun _ => .ok]

def process : Process (List String) (String × String) := run library "/certs" events

end SampleWatches

theorem waitForWrite_written_second_leaf :
    .ok () ∈ CertManager.waitForWrite (decide (.close ∈ SampleWatches.process.effects)) false ∧
    ∃ before e after ca leaf, ∃ c c' : CertManager (List String) (String × String),
      SampleWatches.events = before ++ e :: after ∧
      ActiveRoot (before ++ [e]) ca ∧ AcceptedLeaf SampleWatches.library (before ++ [e]) leaf ∧
      c.persist e.writes = ⟨written ca leaf, .ok c'⟩ ∧
      (run SampleWatches.library "/certs" (before ++ [e])).effects
        = (run SampleWatches.library "/certs" before).effects ++ written ca leaf ∧
      (run SampleWatches.library "/certs" before).effects ++ written ca leaf
        <+: SampleWatches.process.effects ∧
      Holds (((run SampleWatches.library "/certs" before).effects ++ written ca leaf).foldl
        Effect.apply ∅) ca leaf :=
  have hwait : .ok () ∈ CertManager.waitForWrite
      (decide (.close ∈ SampleWatches.process.effects)) false := by decide
  ⟨hwait, (waitForWrite_written SampleWatches.library "/certs" (by decide) SampleWatches.events
    ∅).2.2.2 _ (List.prefix_refl _) false hwait⟩

end Consul.Certificates
