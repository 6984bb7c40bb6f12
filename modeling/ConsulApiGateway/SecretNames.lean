/-
The names of secrets (`internal/k8s/utils/secrets.go`, `internal/vault/secrets.go`).

A reference to a secret is printed as a URL, and the text is the name under which the secret is
requested over SDS.  A gateway may fetch the secrets whose names are among the certificates of its
listeners, so what it may fetch depends on no two secrets having one name.

* `K8sSecret.string`, `KVSecret.string`, `PKISecret.string` — how references are printed;
* `parseK8sSecret_string`, `parseKVSecret_string`, `parsePKISecret_string` — the clients read back
  what was printed;
* `Secret.string_inj` — different references, of whatever kind, are printed differently;
* `canFetchSecrets_map_name` — a gateway may fetch the secrets it was given certificates of, and
  no others.
-/
import ConsulApiGateway.SecretClients
import ConsulApiGateway.UrlText
import ConsulApiGateway.Validator

namespace SecretClients

open Url (Bytes URL)

/-! ### Printing -/

def K8sSecret.url (k : K8sSecret) : URL where
  scheme := GoStd.bytes k8sSecretScheme
  host := []
  path := '/'.toUInt8 :: (k.namespace_ ++ '/'.toUInt8 :: k.name)
  rawQuery := []

/-- `K8sSecret.String`. -/
def K8sSecret.string (k : K8sSecret) : Bytes := k.url.string

/-- The parameters that are added to a query, which leave out what is empty. -/
def parameters (params : List (String × Bytes)) : List (Bytes × Bytes) :=
  params.filterMap fun p => if p.2 ≠ [] then some (GoStd.bytes p.1, p.2) else none

def KVSecret.parameters (s : KVSecret) : List (String × Bytes) :=
  [("tlsCertField", s.certField), ("tlsPrivateKeyField", s.privateKeyField)]

def KVSecret.url (s : KVSecret) : URL where
  scheme := GoStd.bytes kvSecretScheme
  host := []
  path := s.path
  rawQuery := Url.encodeValues (SecretClients.parameters s.parameters)

/-- `KVSecret.String`. -/
def KVSecret.string (s : KVSecret) : Bytes := s.url.string

def PKISecret.parameters (s : PKISecret) : List (String × Bytes) :=
  [("altNames", s.altNames), ("ipSans", s.ipSANs), ("otherSans", s.otherSANs), ("ttl", s.ttl)]

def PKISecret.url (s : PKISecret) : URL where
  scheme := GoStd.bytes pkiSecretScheme
  host := s.commonName
  path := []
  rawQuery := Url.encodeValues (SecretClients.parameters s.parameters)

/-- `PKISecret.String`. -/
def PKISecret.string (s : PKISecret) : Bytes := s.url.string

/-! ### Parameters -/

theorem mem_parameters {params : List (String × Bytes)} {pair : Bytes × Bytes} :
    pair ∈ parameters params ↔
      ∃ p ∈ params, p.2 ≠ [] ∧ (GoStd.bytes p.1, p.2) = pair := by
  simp only [parameters, List.mem_filterMap, Option.ite_none_right_eq_some, Option.some.injEq]

/-- A parameter is read back, and so is one that was left out. -/
theorem queryGet_parameters {params : List (String × Bytes)}
    (hkeys : (params.map fun p => GoStd.bytes p.1).Nodup) {key : String} {value : Bytes}
    (h : (key, value) ∈ params) :
    Url.queryGet (Url.encodeValues (parameters params)) key = value := by
  rw [Url.queryGet_encodeValues]
  have hmem : ∀ pair, pair ∈ (parameters params).insertionSort (fun p q => p.1 ≤ q.1) ↔
      pair ∈ parameters params := fun pair => (List.perm_insertionSort _ _).mem_iff
  cases hfind : ((parameters params).insertionSort fun p q => p.1 ≤ q.1).find?
      (·.1 = GoStd.bytes key) with
  | none =>
    by_contra hvalue
    have hpair : (GoStd.bytes key, value) ∈ parameters params :=
      mem_parameters.2 ⟨(key, value), h, fun hnil => hvalue hnil.symm, rfl⟩
    exact absurd (List.find?_eq_none.1 hfind _ ((hmem _).2 hpair)) (by simp)
  | some pair =>
    obtain ⟨p, hp, -, rfl⟩ := mem_parameters.1 ((hmem _).1 (List.mem_of_find?_eq_some hfind))
    have hkey : GoStd.bytes p.1 = GoStd.bytes key := by simpa using List.find?_some hfind
    have heq : p = (key, value) := List.inj_on_of_nodup_map hkeys hp h hkey
    rw [heq]
    rfl

/-! ### Reading back -/

theorem isScheme_k8s : Url.IsScheme (GoStd.bytes k8sSecretScheme) :=
  ⟨by decide, by decide, by decide⟩

theorem isScheme_kv : Url.IsScheme (GoStd.bytes kvSecretScheme) :=
  ⟨by decide, by decide, by decide⟩

theorem isScheme_pki : Url.IsScheme (GoStd.bytes pkiSecretScheme) :=
  ⟨by decide, by decide, by decide⟩

theorem K8sSecret.printable (k : K8sSecret) : Url.Printable k.url where
  scheme := isScheme_k8s
  host := fun _ hc => absurd hc List.not_mem_nil
  path := .inr rfl
  rawQuery := fun _ hc => absurd hc List.not_mem_nil

theorem KVSecret.printable {s : KVSecret} (h : s.path.head? = some '/'.toUInt8) :
    Url.Printable s.url where
  scheme := isScheme_kv
  host := fun _ hc => absurd hc List.not_mem_nil
  path := .inr h
  rawQuery := fun _ hc => Url.plainByte_of_mem_encodeValues hc

theorem PKISecret.printable {s : PKISecret} (h : ∀ c ∈ s.commonName, Url.HostByte c) :
    Url.Printable s.url where
  scheme := isScheme_pki
  host := h
  path := .inl rfl
  rawQuery := fun _ hc => Url.plainByte_of_mem_encodeValues hc

theorem parseK8sSecret_string {k : K8sSecret} (h : '/'.toUInt8 ∉ k.namespace_) :
    parseK8sSecret k.string = .ok k := by
  have hscheme : ¬ k.url.scheme ≠ GoStd.bytes k8sSecretScheme := not_not.2 rfl
  have hrooted : ¬ k.url.path.head? ≠ some '/'.toUInt8 := not_not.2 rfl
  have hslash : ¬ '/'.toUInt8 ∉ k.url.path.tail := by simp [K8sSecret.url]
  have hcut : Url.cut '/' k.url.path.tail = (k.namespace_, k.name) := Url.cut_append h k.name
  rw [parseK8sSecret, K8sSecret.string, Url.parse_string k.printable]
  simp only [Except.mapError, bind, Except.bind, if_neg hscheme, if_neg hrooted, if_neg hslash,
    hcut]
  rfl

theorem KVSecret.nodup_parameters (s : KVSecret) :
    (s.parameters.map fun p => GoStd.bytes p.1).Nodup := by
  change [GoStd.bytes "tlsCertField", GoStd.bytes "tlsPrivateKeyField"].Nodup
  decide

theorem PKISecret.nodup_parameters (s : PKISecret) :
    (s.parameters.map fun p => GoStd.bytes p.1).Nodup := by
  change [GoStd.bytes "altNames", GoStd.bytes "ipSans", GoStd.bytes "otherSans",
    GoStd.bytes "ttl"].Nodup
  decide

theorem parseKVSecret_string {s : KVSecret} (hpath : s.path.head? = some '/'.toUInt8)
    (hcert : s.certField ≠ []) (hkey : s.privateKeyField ≠ []) :
    parseKVSecret s.string = .ok s := by
  have hscheme : ¬ s.url.scheme ≠ GoStd.bytes kvSecretScheme := not_not.2 rfl
  have hrooted : ¬ s.url.path.head? ≠ some '/'.toUInt8 := not_not.2 hpath
  have hfields : ¬ (s.certField = [] ∨ s.privateKeyField = []) := not_or.2 ⟨hcert, hkey⟩
  have hcertField : Url.queryGet s.url.rawQuery "tlsCertField" = s.certField :=
    queryGet_parameters s.nodup_parameters (by simp [KVSecret.parameters])
  have hkeyField : Url.queryGet s.url.rawQuery "tlsPrivateKeyField" = s.privateKeyField :=
    queryGet_parameters s.nodup_parameters (by simp [KVSecret.parameters])
  rw [parseKVSecret, KVSecret.string, Url.parse_string (KVSecret.printable hpath)]
  simp only [Except.mapError, bind, Except.bind, if_neg hscheme, if_neg hrooted, hcertField,
    hkeyField, if_neg hfields]
  rfl

theorem parsePKISecret_string {s : PKISecret} (h : ∀ c ∈ s.commonName, Url.HostByte c) :
    parsePKISecret s.string = .ok s := by
  have hscheme : ¬ s.url.scheme ≠ GoStd.bytes pkiSecretScheme := not_not.2 rfl
  have hget : ∀ {key value}, (key, value) ∈ s.parameters →
      Url.queryGet s.url.rawQuery key = value := queryGet_parameters s.nodup_parameters
  have haltNames : Url.queryGet s.url.rawQuery "altNames" = s.altNames :=
    hget (by simp [PKISecret.parameters])
  have hipSANs : Url.queryGet s.url.rawQuery "ipSans" = s.ipSANs :=
    hget (by simp [PKISecret.parameters])
  have hotherSANs : Url.queryGet s.url.rawQuery "otherSans" = s.otherSANs :=
    hget (by simp [PKISecret.parameters])
  have httl : Url.queryGet s.url.rawQuery "ttl" = s.ttl :=
    hget (by simp [PKISecret.parameters])
  rw [parsePKISecret, PKISecret.string, Url.parse_string (PKISecret.printable h)]
  simp only [Except.mapError, bind, Except.bind, if_neg hscheme, haltNames, hipSANs, hotherSANs,
    httl]
  rfl

/-! ### References of any kind -/

/-- A reference to a secret. -/
inductive Secret
  | k8s (k : K8sSecret)
  | kv (s : KVSecret)
  | pki (s : PKISecret)
  deriving DecidableEq

namespace Secret

/-- The references that can be read back. -/
def WellFormed : Secret → Prop
  | .k8s k => '/'.toUInt8 ∉ k.namespace_
  | .kv s => s.path.head? = some '/'.toUInt8 ∧ s.certField ≠ [] ∧ s.privateKeyField ≠ []
  | .pki s => ∀ c ∈ s.commonName, Url.HostByte c

def url : Secret → URL
  | .k8s k => k.url
  | .kv s => s.url
  | .pki s => s.url

def string (s : Secret) : Bytes := s.url.string

/-- The name of the secret as an SDS resource. -/
def name (s : Secret) : String := Url.text s.string

theorem printable {s : Secret} (h : s.WellFormed) : Url.Printable s.url := by
  cases s with
  | k8s k => exact k.printable
  | kv s => exact KVSecret.printable h.1
  | pki s => exact PKISecret.printable h

/-- What is read back from one text is one value. -/
theorem eq_of_parse {α : Type} {parse : Bytes → Except ParseError α} {a b : Bytes} {x y : α}
    (hx : parse a = .ok x) (hy : parse b = .ok y) (h : a = b) : x = y := by
  rw [h, hy] at hx
  exact (Except.ok.inj hx).symm

theorem schemes_ne : GoStd.bytes k8sSecretScheme ≠ GoStd.bytes kvSecretScheme ∧
    GoStd.bytes k8sSecretScheme ≠ GoStd.bytes pkiSecretScheme ∧
    GoStd.bytes kvSecretScheme ≠ GoStd.bytes pkiSecretScheme := by decide

/-- Different references are printed differently: by their scheme if they are of different
kinds, and because they are read back otherwise. -/
theorem string_inj {s t : Secret} (hs : s.WellFormed) (ht : t.WellFormed)
    (h : s.string = t.string) : s = t := by
  have hscheme : s.url.scheme = t.url.scheme := by
    rw [Url.string_inj (printable hs) (printable ht) h]
  obtain ⟨hkv, hpki, hvault⟩ := schemes_ne
  cases s with
  | k8s k =>
    cases t with
    | k8s k' => rw [eq_of_parse (parseK8sSecret_string hs) (parseK8sSecret_string ht) h]
    | kv s' => exact absurd hscheme hkv
    | pki s' => exact absurd hscheme hpki
  | kv s =>
    cases t with
    | k8s k' => exact absurd hscheme.symm hkv
    | kv s' =>
      rw [eq_of_parse (parseKVSecret_string hs.1 hs.2.1 hs.2.2)
        (parseKVSecret_string ht.1 ht.2.1 ht.2.2) h]
    | pki s' => exact absurd hscheme hvault
  | pki s =>
    cases t with
    | k8s k' => exact absurd hscheme.symm hpki
    | kv s' => exact absurd hscheme.symm hvault
    | pki s' => rw [eq_of_parse (parsePKISecret_string hs) (parsePKISecret_string ht) h]

/-- The name is the printed reference. -/
theorem bytes_name {s : Secret} (h : s.WellFormed) : GoStd.bytes s.name = s.string :=
  Url.bytes_text fun _ hc => (printable h).plainByte hc

theorem name_inj {s t : Secret} (hs : s.WellFormed) (ht : t.WellFormed) (h : s.name = t.name) :
    s = t := by
  refine string_inj hs ht ?_
  rw [← bytes_name hs, h, bytes_name ht]

end Secret

/-! ### Which secrets a gateway may fetch -/

/-- The name the validator puts into the listeners is that of the reference. -/
theorem toString_eq_name (k : Reconciler.K8sSecret) :
    k.toString = (Secret.k8s ⟨GoStd.bytes k.namespace_, GoStd.bytes k.name⟩).name := by
  have hslash : GoStd.bytes "/" = ['/'.toUInt8] := by decide
  have hpath : GoStd.bytes ("/" ++ k.namespace_ ++ "/" ++ k.name)
      = '/'.toUInt8 :: (GoStd.bytes k.namespace_ ++ '/'.toUInt8 :: GoStd.bytes k.name) := by
    simp only [GoStd.bytes_append, hslash, List.append_assoc, List.cons_append, List.nil_append]
  rw [Reconciler.K8sSecret.toString, hpath]
  rfl

theorem canFetchSecrets_map_name {g : Reconciler.K8sGateway} {granted asked : List Secret}
    (hgranted : ∀ s ∈ granted, s.WellFormed) (hasked : ∀ s ∈ asked, s.WellFormed)
    (hcertificates : g.certificates = granted.map Secret.name) :
    g.canFetchSecrets (asked.map Secret.name) = true ↔ ∀ s ∈ asked, s ∈ granted := by
  rw [Reconciler.K8sGateway.canFetchSecrets, hcertificates, List.all_map, List.all_eq_true]
  refine forall₂_congr fun s hs => ?_
  rw [Function.comp_apply, List.contains_iff_mem, List.mem_map]
  constructor
  · rintro ⟨t, ht, hname⟩
    rw [← Secret.name_inj (hgranted t ht) (hasked s hs) hname]
    exact ht
  · intro hs
    exact ⟨s, hs, rfl⟩

/-- References are read back as they were, whatever bytes they consist of; so different secrets
have different names, and a gateway that holds the names of some secrets may fetch these and no
others. -/
theorem secret_names_read_back :
    (∀ ns name : Bytes, '/'.toUInt8 ∉ ns →
      parseK8sSecret (K8sSecret.string ⟨ns, name⟩) = .ok ⟨ns, name⟩) ∧
    (∀ s : KVSecret, s.path.head? = some '/'.toUInt8 → s.certField ≠ [] →
      s.privateKeyField ≠ [] → parseKVSecret s.string = .ok s) ∧
    (∀ s t : Secret, s.WellFormed → t.WellFormed → s.string = t.string → s = t) ∧
    (∀ s : Secret, s.WellFormed → GoStd.bytes s.name = s.string) ∧
    ∀ (g : Reconciler.K8sGateway) (granted asked : List Secret),
      (∀ s ∈ granted, s.WellFormed) → (∀ s ∈ asked, s.WellFormed) →
      g.certificates = granted.map Secret.name →
      (g.canFetchSecrets (asked.map Secret.name) = true ↔ ∀ s ∈ asked, s ∈ granted) := by
  refine ⟨?_, ?_, ?_, ?_, ?_⟩
  · intro ns name hns
    exact parseK8sSecret_string hns
  · intro s hpath hcert hkey
    exact parseKVSecret_string hpath hcert hkey
  · intro s t hs ht h
    exact Secret.string_inj hs ht h
  · intro s hs
    exact Secret.bytes_name hs
  · intro g granted asked hgranted hasked hcertificates
    exact canFetchSecrets_map_name hgranted hasked hcertificates

namespace SampleNames

def certificate : Reconciler.K8sSecret := ⟨"web", "certificate #1 (50%)"⟩

def granted : Secret := .k8s ⟨GoStd.bytes "web", GoStd.bytes "certificate #1 (50%)"⟩

def kvSecret : KVSecret :=
  ⟨GoStd.bytes "/apps/a b?c", GoStd.bytes "tls&crt=1", GoStd.bytes "key#%2F"⟩

def gateway : Reconciler.K8sGateway where
  gateway := { namespace_ := "web", name := "gateway", groupKind := ⟨"", "Gateway"⟩ }
  gatewayState :=
    { listeners := [⟨{ name := "https", port := 443, protocol := .https },
        { protocol := .https, name := "https"
          tls := { certificates := [certificate.toString] } }⟩] }

end SampleNames

theorem secret_names_read_back_reserved_characters :
    parseK8sSecret (K8sSecret.string ⟨GoStd.bytes "a%b", GoStd.bytes "c/d?e=f&g h#"⟩)
      = .ok ⟨GoStd.bytes "a%b", GoStd.bytes "c/d?e=f&g h#"⟩ ∧
    parseKVSecret SampleNames.kvSecret.string = .ok SampleNames.kvSecret ∧
    SampleNames.granted.string ≠ (Secret.kv SampleNames.kvSecret).string ∧
    GoStd.bytes SampleNames.granted.name = SampleNames.granted.string ∧
    SampleNames.gateway.canFetchSecrets [SampleNames.granted.name] = true := by
  have hgranted : SampleNames.granted.WellFormed := by
    change '/'.toUInt8 ∉ GoStd.bytes "web"
    decide
  have hkv : (Secret.kv SampleNames.kvSecret).WellFormed :=
    ⟨by decide, by decide, by decide⟩
  have hcertificates :
      SampleNames.gateway.certificates = [SampleNames.granted].map Secret.name := by
    change [SampleNames.certificate.toString] = _
    rw [toString_eq_name]
    rfl
  have hall : ∀ s ∈ [SampleNames.granted], s.WellFormed := by
    intro s hs
    rw [List.mem_singleton.1 hs]
    exact hgranted
  obtain ⟨hk8s, hkvRead, hinj, hname, hfetch⟩ := secret_names_read_back
  refine ⟨hk8s _ _ (by decide), hkvRead _ (by decide) (by decide) (by decide), ?_,
    hname _ hgranted, ?_⟩
  · intro h
    exact absurd (hinj _ _ hgranted hkv h) (by decide)
  · exact (hfetch _ _ _ hall hall hcertificates).2 fun _ hs => hs

end SecretClients
