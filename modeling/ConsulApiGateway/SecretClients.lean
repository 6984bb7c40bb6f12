/-
The secret clients the SDS server fetches certificates with
(`internal/k8s/certificates.go`, `internal/vault/certificates.go` and the client
that dispatches to them, `internal/envoy/secrets.go`).

A certificate is requested by a URL.  Its scheme selects the client: the
Kubernetes API, Vault's PKI engine or Vault's KV store.  The services behind the
clients and the certificate libraries are outside, so a fetch is given the
`Backends` it meets.

* `parseK8sSecret`, `parsePKISecret`, `parseKVSecret` — what the clients read
  from the URL;
* `fetchSecret` — the dispatch;
* `fetchSecret_name` — under which name a fetched certificate comes back: the
  KV client leaves it empty.
-/
import ConsulApiGateway.Url
import ConsulApiGateway.SecretManager

namespace SecretClients

open Envoy (TlsSecret)
open Url (Bytes)

/-! ### The references -/

/-- What is wrong with a reference to a secret. -/
inductive ParseError
  | url (err : Url.Error)
  | notK8sSecret
  | invalidK8sSecret
  | invalidSecret
  deriving DecidableEq

/-- The text of the error, where `url` is that of the errors of `url.Parse`. -/
def ParseError.text (url : Url.Error → String) : ParseError → String
  | .url err => url err
  | .notK8sSecret => "not a kubernetes secret"
  | .invalidK8sSecret => "invalid kubernetes secret"
  | .invalidSecret => "invalid vault secret"

def k8sSecretScheme : String := "k8s"
def pkiSecretScheme : String := "vault+pki"
def kvSecretScheme : String := "vault+kv"

structure K8sSecret where
  namespace_ : Bytes
  name : Bytes
  deriving DecidableEq

/-- `ParseK8sSecret`; the name may contain slashes. -/
def parseK8sSecret (encoded : Bytes) : Except ParseError K8sSecret := do
  let parsed ← (Url.parse encoded).mapError .url
  if parsed.scheme ≠ GoStd.bytes k8sSecretScheme then throw .notK8sSecret
  if parsed.path.head? ≠ some '/'.toUInt8 then throw .invalidK8sSecret
  let path := parsed.path.tail
  if '/'.toUInt8 ∉ path then throw .invalidK8sSecret
  return ⟨(Url.cut '/' path).1, (Url.cut '/' path).2⟩

structure KVSecret where
  path : Bytes
  certField : Bytes
  privateKeyField : Bytes
  deriving DecidableEq

/-- `ParseKVSecret`. -/
def parseKVSecret (ref : Bytes) : Except ParseError KVSecret := do
  let parsed ← (Url.parse ref).mapError .url
  if parsed.scheme ≠ GoStd.bytes kvSecretScheme then throw .invalidSecret
  if parsed.path.head? ≠ some '/'.toUInt8 then throw .invalidSecret
  let certField := Url.queryGet parsed.rawQuery "tlsCertField"
  let privateKeyField := Url.queryGet parsed.rawQuery "tlsPrivateKeyField"
  if certField = [] ∨ privateKeyField = [] then throw .invalidSecret
  return ⟨parsed.path, certField, privateKeyField⟩

structure PKISecret where
  commonName : Bytes
  altNames : Bytes
  ipSANs : Bytes
  otherSANs : Bytes
  ttl : Bytes
  deriving DecidableEq

/-- `ParsePKISecret`. -/
def parsePKISecret (ref : Bytes) : Except ParseError PKISecret := do
  let parsed ← (Url.parse ref).mapError .url
  if parsed.scheme ≠ GoStd.bytes pkiSecretScheme then throw .invalidSecret
  let get := Url.queryGet parsed.rawQuery
  return ⟨parsed.host, get "altNames", get "ipSans", get "otherSans", get "ttl"⟩

/-! ### The services behind the clients -/

/-- A Kubernetes `Secret`. -/
structure SecretObject where
  type : String
  data : GoMap String String

/-- What `certutil` makes of a certificate issued by Vault. -/
structure ParsedCertBundle where
  /-- `ToCertBundle`: the CA chain and the issuing CA. -/
  toCertBundle : Except String (List String × String)
  privateKey : String
  notAfter : ℤ

/-- What a fetch meets outside of the clients. -/
structure Backends where
  /-- How an error of `url.Parse` reads. -/
  urlError : String → Url.Error → String
  /-- The Kubernetes API. -/
  getSecret : K8sSecret → Except String SecretObject
  /-- Vault's KV store: the fields at a path, with `none` for a value that is not a
  string. -/
  kvGet : Bytes → Except String (GoMap Bytes (Option String))
  /-- Vault's PKI engine. -/
  issue : String → PKISecret → Except String ParsedCertBundle
  pkiPath : String
  pkiIssue : String
  pemDecode : String → Option String
  /-- `x509.ParseCertificate`: the end of the certificate's validity. -/
  parseCertificate : String → Except String ℤ
  decodeBase64 : String → Option String

/-! ### The clients -/

/-- `K8sSecretClient.FetchSecret`.  The payload is the certificate chain with the
private key behind it. -/
def k8sFetchSecret (env : Backends) (fullName : String) : Except String (TlsSecret × ℤ) := do
  let k8sSecret ← (parseK8sSecret (GoStd.bytes fullName)).mapError
    (ParseError.text (env.urlError fullName))
  let secret ← env.getSecret k8sSecret
  if secret.type ≠ "kubernetes.io/tls" then
    throw ("only TLS certificates are supported, got type: " ++ secret.type)
  let certificateChain := (secret.data.lookup "tls.crt").getD ""
  let block ← (env.pemDecode certificateChain).elim (.error "failed to parse certificate PEM") .ok
  let notAfter ← (env.parseCertificate block).mapError ("failed to parse certificate: " ++ ·)
  let certificatePrivateKey := (secret.data.lookup "tls.key").getD ""
  return (⟨fullName, certificateChain ++ certificatePrivateKey⟩, notAfter)

/-- `PKISecretClient.FetchSecret`. -/
def pkiFetchSecret (env : Backends) (name : String) : Except String (TlsSecret × ℤ) := do
  let secret ← (parsePKISecret (GoStd.bytes name)).mapError
    (ParseError.text (env.urlError name))
  let path := "/" ++ env.pkiPath ++ "/issuer/default/issue/" ++ env.pkiIssue
  let cert ← env.issue path secret
  let (caChain, issuingCA) ← cert.toCertBundle
  let caChain := if caChain = [] then [issuingCA] else caChain
  return (⟨name, "\n".intercalate caChain ++ cert.privateKey⟩, cert.notAfter)

/-- A field of a KV secret, decoded; `what` names it in the errors. -/
def kvField (env : Backends) (what : String) (value : Option String) : Except String String := do
  let encoded := value.getD ""
  if encoded = "" then throw (what ++ " value from Vault not string")
  (env.decodeBase64 encoded).elim (.error (what ++ " value from Vault not base64-decodable")) .ok

/-- `KVSecretClient.FetchSecret`: the secret it builds has no name. -/
def kvFetchSecret (env : Backends) (name : String) : Except String (TlsSecret × ℤ) := do
  let secret ← (parseKVSecret (GoStd.bytes name)).mapError
    (ParseError.text (env.urlError name))
  let data ← env.kvGet secret.path.tail
  match data.lookup secret.certField, data.lookup secret.privateKeyField with
  | some certValue, some privateKeyValue =>
    let certBytes ← kvField env "cert" certValue
    let block ← (env.pemDecode certBytes).elim
      (.error "failed to parse PEM cert value from Vault") .ok
    let notAfter ← (env.parseCertificate block).mapError ("failed to parse cert: " ++ ·)
    let privateKeyBytes ← kvField env "private key" privateKeyValue
    return (⟨"", certBytes ++ privateKeyBytes⟩, notAfter)
  | _, _ => throw "cert or private key not included in Vault secret"

/-! ### The dispatch -/

/-- The clients the server registers. -/
inductive Fetcher
  | k8s
  | pki
  | kv
  deriving DecidableEq

def Fetcher.fetchSecret (env : Backends) : Fetcher → String → Except String (TlsSecret × ℤ)
  | .k8s => k8sFetchSecret env
  | .pki => pkiFetchSecret env
  | .kv => kvFetchSecret env

/-- The `fetchers` of the `MultiSecretClient` of the server. -/
def fetchers : GoMap Bytes Fetcher :=
  (((∅ : GoMap Bytes Fetcher).insert (GoStd.bytes k8sSecretScheme) .k8s).insert
    (GoStd.bytes pkiSecretScheme) .pki).insert (GoStd.bytes kvSecretScheme) .kv

/-- `MultiSecretClient.FetchSecret`. -/
def fetchSecret (env : Backends) (name : String) : Except String (TlsSecret × ℤ) := do
  let parsed ← (Url.parse (GoStd.bytes name)).mapError (env.urlError name)
  match fetchers.lookup parsed.scheme with
  | none => throw "secret protocol is not registered"
  | some fetcher => fetcher.fetchSecret env name

theorem k8sFetchSecret_name {env : Backends} {name : String} {cert : TlsSecret} {expires : ℤ}
    (h : k8sFetchSecret env name = .ok (cert, expires)) : cert.name = name := by
  obtain ⟨k8sSecret, -, h⟩ := GoStd.bind_eq_ok h
  obtain ⟨secret, -, h⟩ := GoStd.bind_eq_ok h
  dsimp only at h
  split at h
  · cases h
  · obtain ⟨block, -, h⟩ := GoStd.bind_eq_ok h
    obtain ⟨notAfter, -, h⟩ := GoStd.bind_eq_ok h
    cases h
    rfl

theorem pkiFetchSecret_name {env : Backends} {name : String} {cert : TlsSecret} {expires : ℤ}
    (h : pkiFetchSecret env name = .ok (cert, expires)) : cert.name = name := by
  obtain ⟨secret, -, h⟩ := GoStd.bind_eq_ok h
  obtain ⟨issued, -, h⟩ := GoStd.bind_eq_ok h
  obtain ⟨bundle, -, h⟩ := GoStd.bind_eq_ok h
  cases h
  rfl

theorem kvFetchSecret_name {env : Backends} {name : String} {cert : TlsSecret} {expires : ℤ}
    (h : kvFetchSecret env name = .ok (cert, expires)) : cert.name = "" := by
  obtain ⟨secret, -, h⟩ := GoStd.bind_eq_ok h
  obtain ⟨data, -, h⟩ := GoStd.bind_eq_ok h
  split at h
  · obtain ⟨certBytes, -, h⟩ := GoStd.bind_eq_ok h
    obtain ⟨block, -, h⟩ := GoStd.bind_eq_ok h
    obtain ⟨notAfter, -, h⟩ := GoStd.bind_eq_ok h
    obtain ⟨privateKeyBytes, -, h⟩ := GoStd.bind_eq_ok h
    cases h
    rfl
  · cases h

/-- The name is dispatched to the KV client. -/
def UsesKV (name : String) : Prop :=
  ((Url.parse (GoStd.bytes name)).toOption.bind fun url => fetchers.lookup url.scheme) = some .kv

instance (name : String) : Decidable (UsesKV name) := inferInstanceAs (Decidable (_ = _))

/-- The empty name is nobody's. -/
theorem not_usesKV_empty : ¬ UsesKV "" := by decide

/-- **A fetched certificate carries the name it was requested by, unless it comes
from the KV store: then it carries none.** -/
theorem fetchSecret_name {env : Backends} {name : String} {cert : TlsSecret} {expires : ℤ}
    (h : fetchSecret env name = .ok (cert, expires)) :
    cert.name = if UsesKV name then "" else name := by
  obtain ⟨parsed, hp, h⟩ := GoStd.bind_eq_ok h
  have hkv : UsesKV name ↔ fetchers.lookup parsed.scheme = some .kv := by
    rw [UsesKV, GoStd.mapError_eq_ok hp]
    rfl
  simp only [hkv]
  cases hf : fetchers.lookup parsed.scheme with
  | none =>
    rw [hf] at h
    cases h
  | some fetcher =>
    rw [hf] at h
    cases fetcher with
    | k8s => simpa using k8sFetchSecret_name h
    | pki => simpa using pkiFetchSecret_name h
    | kv => simpa using kvFetchSecret_name h

end SecretClients
