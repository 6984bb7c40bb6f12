/-
The SPIFFE paths of gateways.

A stream belongs to the gateway that the middleware reads off the SPIFFE path of
the client's certificate.  `parseURI` splits the path into at most eight tokens and
looks at their number first, so that it has to be seen what it accepts:

* `splitN_eq_iff` — what `strings.SplitN` returns;
* `parseURI_eq_ok_iff` — the accepted paths are those of a `SpiffeID`;
* `parseURI_spec` — the path that Consul issues for a gateway stands for the ID
  under which the gateway is stored, and different gateways have different paths.
-/
import ConsulApiGateway.Handler
import ConsulApiGateway.Manager
import Mathlib.Data.List.TakeWhile

open Reconciler K8s

namespace Envoy

/-! ### strings.SplitN -/

section SplitN

variable {sep : Char} {n : ℕ} {s part rest : List Char} {parts : List (List Char)}

theorem splitN_of_notMem (h : sep ∉ s) : splitN sep (n + 2) s = [s] := by
  have hall : ∀ c ∈ s, decide (c ≠ sep) = true := fun c hc =>
    decide_eq_true fun heq => h (heq ▸ hc)
  rw [splitN, List.span_eq_takeWhile_dropWhile, List.takeWhile_eq_self_iff.mpr hall,
    List.dropWhile_eq_nil_iff.mpr hall]

theorem splitN_append_cons (h : sep ∉ part) :
    splitN sep (n + 2) (part ++ sep :: rest) = part :: splitN sep (n + 1) rest := by
  have hall : ∀ c ∈ part, decide (c ≠ sep) = true := fun c hc =>
    decide_eq_true fun heq => h (heq ▸ hc)
  rw [splitN, List.span_eq_takeWhile_dropWhile, List.takeWhile_append_of_pos hall,
    List.dropWhile_append_of_pos hall, List.takeWhile_cons_of_neg (by simp),
    List.dropWhile_cons_of_neg (by simp), List.append_nil]

/-- `SplitN` cuts at the first separators, and at all of them if it returns fewer
parts than it may. -/
theorem splitN_eq_iff : splitN sep (n + 1) s = parts ↔
    parts ≠ [] ∧ [sep].intercalate parts = s ∧ parts.length ≤ n + 1 ∧
      (∀ part ∈ parts.dropLast, sep ∉ part) ∧
      (parts.length ≤ n → ∀ part ∈ parts, sep ∉ part) := by
  induction n generalizing s parts with
  | zero =>
    match parts with
    | [] => simp [splitN]
    | [part] => simp [splitN, eq_comm]
    | part :: next :: parts => simp [splitN]
  | succ n ih =>
    by_cases hs : sep ∈ s
    · obtain ⟨first, rest, rfl, hfirst⟩ := List.eq_append_cons_of_mem hs
      rw [splitN_append_cons hfirst]
      match parts with
      | [] => simp
      | [part] =>
        -- one part would be all of the list
        have hne : splitN sep (n + 1) rest ≠ [] := (ih.mp rfl).1
        refine iff_of_false (fun h => hne (List.cons.inj h).2) ?_
        rintro ⟨-, hjoin, -, -, hall⟩
        rw [List.intercalate_singleton] at hjoin
        exact hall (by simp) part (by simp) (hjoin ▸ hs)
      | part :: next :: parts =>
        have hjoin : part = first ∧ [sep].intercalate (next :: parts) = rest ↔
            sep ∉ part ∧ [sep].intercalate (part :: next :: parts) = first ++ sep :: rest := by
          rw [List.intercalate_cons_cons, List.append_assoc, List.singleton_append]
          constructor
          · rintro ⟨rfl, rfl⟩
            exact ⟨hfirst, rfl⟩
          · rintro ⟨hpart, heq⟩
            have hsplit := congrArg (List.splitOn sep) heq
            rw [List.splitOn_append_cons_self_of_not_mem hpart,
              List.splitOn_append_cons_self_of_not_mem hfirst] at hsplit
            obtain ⟨rfl, -⟩ := List.cons.inj hsplit
            exact ⟨rfl, (List.cons.inj (List.append_cancel_left heq)).2⟩
        rw [List.cons.injEq, eq_comm (a := first), ih]
        simp only [List.dropLast_cons_cons, List.forall_mem_cons (a := part), List.length_cons,
          ne_eq, List.cons_ne_nil, not_false_eq_true, true_and, Nat.add_le_add_iff_right]
        constructor
        · rintro ⟨hpart, hrest, hlen, hlast, hall⟩
          obtain ⟨hfree, heq⟩ := hjoin.mp ⟨hpart, hrest⟩
          exact ⟨heq, hlen, ⟨hfree, hlast⟩, fun hle => ⟨hfree, hall hle⟩⟩
        · rintro ⟨heq, hlen, ⟨hfree, hlast⟩, hall⟩
          obtain ⟨hpart, hrest⟩ := hjoin.mpr ⟨hfree, heq⟩
          exact ⟨hpart, hrest, hlen, hlast, fun hle => (hall hle).2⟩
    · rw [splitN_of_notMem hs]
      match parts with
      | [] => simp
      | [part] =>
        rw [List.cons.injEq, List.intercalate_singleton]
        constructor
        · rintro ⟨rfl, -⟩
          simpa using hs
        · rintro ⟨-, rfl, -⟩
          exact ⟨rfl, rfl⟩
      | part :: next :: parts =>
        refine iff_of_false (by simp) ?_
        rintro ⟨-, rfl, -⟩
        exact hs (by simp)

end SplitN

/-! ### The paths -/

/-- What a SPIFFE path of a service says.  The service of a path with a partition
is all that follows, slashes included. -/
structure SpiffeID where
  partition : Option String
  namespace_ : String
  dc : String
  service : String
  slash_notMem_partition : ∀ p ∈ partition, '/' ∉ p.toList
  slash_notMem_namespace : '/' ∉ namespace_.toList
  slash_notMem_dc : '/' ∉ dc.toList
  slash_notMem_service : partition = none → '/' ∉ service.toList

namespace SpiffeID

/-- `ns/N/dc/D/svc/S`, with `ap/P/` in front if there is a partition. -/
def path (id : SpiffeID) : String :=
  (id.partition.elim "" fun partition => "ap/" ++ partition ++ "/") ++
    "ns/" ++ id.namespace_ ++ "/dc/" ++ id.dc ++ "/svc/" ++ id.service

/-- The parts of the path. -/
def tokens (id : SpiffeID) : List String :=
  (id.partition.elim [] fun partition => ["ap", partition]) ++
    ["ns", id.namespace_, "dc", id.dc, "svc", id.service]

theorem toList_path (id : SpiffeID) :
    id.path.toList = ['/'].intercalate (id.tokens.map String.toList) := by
  obtain ⟨partition, namespace_, dc, service, -, -, -, -⟩ := id
  cases partition with
  | none => simp [path, tokens, List.intercalate_cons_cons]
  | some partition => simp [path, tokens, List.intercalate_cons_cons]

/-- No path starts with a slash. -/
theorem head?_path (id : SpiffeID) : id.path.toList.head? ≠ some '/' := by
  obtain ⟨partition, namespace_, dc, service, -, -, -, -⟩ := id
  cases partition with
  | none => simp [path]
  | some partition => simp [path]

theorem splitN_path (id : SpiffeID) :
    (splitN '/' 8 id.path.toList).map String.ofList = id.tokens := by
  have hsplit : splitN '/' 8 id.path.toList = id.tokens.map String.toList := by
    rw [splitN_eq_iff, toList_path]
    obtain ⟨partition, namespace_, dc, service, hpartition, hnamespace, hdc, hservice⟩ := id
    cases partition with
    | none => simp [tokens, hnamespace, hdc, hservice rfl]
    | some partition => simp [tokens, hpartition partition rfl, hnamespace, hdc]
  rw [hsplit, List.map_map]
  simp

end SpiffeID

/-- At most one slash in front of the path is removed. -/
theorem parseURI_slash (p : String) :
    parseURI ("/" ++ p) = parseTokens ((splitN '/' 8 p.toList).map String.ofList) := by
  unfold parseURI
  rw [String.toList_append]
  rfl

theorem parseURI_of_head?_ne {p : String} (h : p.toList.head? ≠ some '/') :
    parseURI p = parseTokens ((splitN '/' 8 p.toList).map String.ofList) := by
  refine congrArg (fun q => parseTokens ((splitN '/' 8 q).map String.ofList)) ?_
  split
  · rename_i rest hrest
    rw [hrest] at h
    exact absurd rfl h
  · rfl

theorem parseTokens_tokens (id : SpiffeID) :
    parseTokens id.tokens = .ok (spiffeGateway id.namespace_ id.service) := by
  obtain ⟨partition, namespace_, dc, service, -, -, -, -⟩ := id
  cases partition with
  | none => simp [parseTokens, SpiffeID.tokens]
  | some partition => simp [parseTokens, SpiffeID.tokens]

/-- What is accepted after the split is a path.  The number of tokens tells which
of them the split has left without slashes. -/
theorem exists_path_of_parseTokens {p : List Char} {gateway : Core.GatewayID}
    (h : parseTokens ((splitN '/' 8 p).map String.ofList) = .ok gateway) :
    ∃ id : SpiffeID, p = id.path.toList ∧ gateway = spiffeGateway id.namespace_ id.service := by
  obtain ⟨-, hjoin, -, hlast, hall⟩ := splitN_eq_iff.mp (rfl : splitN '/' 8 p = splitN '/' 8 p)
  have htoList : splitN '/' 8 p = ((splitN '/' 8 p).map String.ofList).map String.toList := by
    rw [List.map_map]
    simp
  generalize (splitN '/' 8 p).map String.ofList = tokens at h htoList
  rw [htoList] at hjoin hlast hall
  unfold parseTokens at h
  split at h
  · -- eight tokens: the cut is at the last, which may hold further slashes
    rename_i ap partition ns namespace_ dc datacenter svc service
    split_ifs at h with hnames
    obtain ⟨rfl, rfl, rfl, rfl⟩ : ap = "ap" ∧ ns = "ns" ∧ dc = "dc" ∧ svc = "svc" := by
      simpa only [not_or, not_not, ne_eq] using hnames
    cases h
    let id : SpiffeID :=
      { partition := some partition
        namespace_ := namespace_
        dc := datacenter
        service := service
        slash_notMem_partition := fun q hq => by
          cases hq
          exact hlast partition.toList (by simp)
        slash_notMem_namespace := hlast namespace_.toList (by simp)
        slash_notMem_dc := hlast datacenter.toList (by simp)
        slash_notMem_service := fun hnone => by cases hnone }
    refine ⟨id, ?_, rfl⟩
    rw [SpiffeID.toList_path, ← hjoin]
    rfl
  · rename_i ns namespace_ dc datacenter svc service
    split_ifs at h with hnames
    obtain ⟨rfl, rfl, rfl⟩ : ns = "ns" ∧ dc = "dc" ∧ svc = "svc" := by
      simpa only [not_or, not_not, ne_eq] using hnames
    cases h
    -- fewer tokens than the limit, so none of them holds a slash
    have hfree := hall (by simp)
    let id : SpiffeID :=
      { partition := none
        namespace_ := namespace_
        dc := datacenter
        service := service
        slash_notMem_partition := fun q hq => by cases hq
        slash_notMem_namespace := hfree namespace_.toList (by simp)
        slash_notMem_dc := hfree datacenter.toList (by simp)
        slash_notMem_service := fun _ => hfree service.toList (by simp) }
    refine ⟨id, ?_, rfl⟩
    rw [SpiffeID.toList_path, ← hjoin]
    rfl
  · cases h

/-- The accepted paths are those of a `SpiffeID`, up to one slash in front. -/
theorem parseURI_eq_ok_iff {p : String} {gateway : Core.GatewayID} :
    parseURI p = .ok gateway ↔ ∃ id : SpiffeID, (p = id.path ∨ p = "/" ++ id.path) ∧
      gateway = spiffeGateway id.namespace_ id.service := by
  constructor
  · intro h
    by_cases hslash : p.toList.head? = some '/'
    · obtain ⟨rest, hrest⟩ : ∃ rest, p.toList = '/' :: rest := by
        rwa [List.head?_eq_some_iff] at hslash
      obtain rfl : p = "/" ++ String.ofList rest := String.toList_injective (by simp [hrest])
      rw [parseURI_slash, String.toList_ofList] at h
      obtain ⟨id, rfl, hgateway⟩ := exists_path_of_parseTokens h
      exact ⟨id, .inr (by rw [String.ofList_toList]), hgateway⟩
    · rw [parseURI_of_head?_ne hslash] at h
      obtain ⟨id, hid, hgateway⟩ := exists_path_of_parseTokens h
      exact ⟨id, .inl (String.toList_injective hid), hgateway⟩
  · rintro ⟨id, rfl | rfl, rfl⟩
    · rw [parseURI_of_head?_ne id.head?_path, id.splitN_path, parseTokens_tokens]
    · rw [parseURI_slash, id.splitN_path, parseTokens_tokens]

/-! ### The paths of gateways -/

/-- The SPIFFE path that Consul issues for the service of a gateway, where the
empty namespace is the default one. -/
def issuedPath (partition : Option String) (dc : String) (gateway : Core.GatewayID) : String :=
  "/" ++ (partition.elim "" fun partition => "ap/" ++ partition ++ "/") ++ "ns/" ++
    (if gateway.consulNamespace = "" then "default" else gateway.consulNamespace) ++
    "/dc/" ++ dc ++ "/svc/" ++ gateway.service

theorem spiffeGateway_default (namespace_ service : String) (h : namespace_ ≠ "default") :
    spiffeGateway (if namespace_ = "" then "default" else namespace_) service =
      { consulNamespace := namespace_, service := service } := by
  unfold spiffeGateway
  by_cases hempty : namespace_ = ""
  · rw [if_pos hempty, if_pos rfl, hempty]
  · rw [if_neg hempty, if_neg h]

/-- The configured namespaces never are the default one by its name. -/
theorem namespace_ne_default (config : ConsulNamespaceConfig) (kubernetes : String) :
    config.namespace_ kubernetes ≠ "default" := by
  unfold ConsulNamespaceConfig.namespace_
  extract_lets consulNamespace
  split_ifs with h
  · decide
  · exact h

/-- An accepted path names a namespace without slashes. -/
theorem slash_notMem_of_parseURI {p : String} {gateway : Core.GatewayID}
    (h : parseURI p = .ok gateway) : '/' ∉ gateway.consulNamespace.toList := by
  obtain ⟨id, -, rfl⟩ := parseURI_eq_ok_iff.mp h
  unfold spiffeGateway
  dsimp only
  split_ifs with hdefault
  · decide
  · exact id.slash_notMem_namespace

theorem parseURI_issuedPath {partition : Option String} {dc : String} {gateway : Core.GatewayID}
    (hpartition : ∀ p ∈ partition, '/' ∉ p.toList) (hdc : '/' ∉ dc.toList)
    (hservice : '/' ∉ gateway.service.toList) (hdefault : gateway.consulNamespace ≠ "default") :
    parseURI (issuedPath partition dc gateway) = .ok gateway ↔
      '/' ∉ gateway.consulNamespace.toList := by
  refine ⟨slash_notMem_of_parseURI, fun hnamespace => parseURI_eq_ok_iff.mpr ?_⟩
  let id : SpiffeID :=
    { partition := partition
      namespace_ := if gateway.consulNamespace = "" then "default" else gateway.consulNamespace
      dc := dc
      service := gateway.service
      slash_notMem_partition := hpartition
      slash_notMem_namespace := by
        split_ifs
        · decide
        · exact hnamespace
      slash_notMem_dc := hdc
      slash_notMem_service := fun _ => hservice }
  refine ⟨id, .inr ?_, (spiffeGateway_default _ _ hdefault).symm⟩
  simp only [issuedPath, SpiffeID.path, id, String.append_assoc]

/-- **The paths the middleware accepts.** They are those of a `SpiffeID`, up to one
slash in front, and stand for its namespace and service.  The path Consul issues
for a validated gateway stands for the ID of the gateway, provided that its Consul
namespace is one, that is, has no slash; and paths that stand for the same gateway
agree on the service and, up to the name of the default one, on the namespace. -/
theorem parseURI_spec :
    (∀ (p : String) (gateway : Core.GatewayID), parseURI p = .ok gateway ↔
      ∃ id : SpiffeID, (p = id.path ∨ p = "/" ++ id.path) ∧ gateway =
        { consulNamespace := if id.namespace_ = "default" then "" else id.namespace_
          service := id.service }) ∧
    (∀ (config : ConsulNamespaceConfig) (a : UpsertAnswers) (g : Gateway) (gateway : K8sGateway),
      GatewayReconcileManager.prepareGateway config.namespace_ a g = .validated gateway →
      '/' ∉ g.name.toList → ∀ (partition : Option String) (dc : String),
      (∀ p ∈ partition, '/' ∉ p.toList) → '/' ∉ dc.toList →
      (parseURI (issuedPath partition dc gateway.id) = .ok gateway.id ↔
        '/' ∉ (config.namespace_ g.namespace_).toList)) ∧
    ∀ (p p' : String) (id id' : SpiffeID), (p = id.path ∨ p = "/" ++ id.path) →
      (p' = id'.path ∨ p' = "/" ++ id'.path) → parseURI p = parseURI p' →
      id.service = id'.service ∧ (id.namespace_ = id'.namespace_ ∨
        id.namespace_ ∈ ["default", ""] ∧ id'.namespace_ ∈ ["default", ""]) := by
  refine ⟨fun p gateway => parseURI_eq_ok_iff, ?_, ?_⟩
  · intro config a g gateway hprepared hname partition dc hpartition hdc
    obtain ⟨-, hid, -, -⟩ := GatewayReconcileManager.prepareGateway_spec hprepared
    rw [hid]
    exact parseURI_issuedPath hpartition hdc hname (namespace_ne_default config g.namespace_)
  · intro p p' id id' hp hp' h
    have hid := parseURI_eq_ok_iff.mpr ⟨id, hp, rfl⟩
    have hid' := parseURI_eq_ok_iff.mpr ⟨id', hp', rfl⟩
    have hgateway := Except.ok.inj (hid.symm.trans (h.trans hid'))
    obtain ⟨hnamespace, hservice⟩ := Core.GatewayID.mk.inj hgateway
    refine ⟨hservice, ?_⟩
    -- `default` and the empty namespace are read as the same
    split_ifs at hnamespace with h₁ h₂ h₂
    · exact .inl (h₁.trans h₂.symm)
    · exact .inr ⟨by simp [h₁], by simp [← hnamespace]⟩
    · exact .inr ⟨by simp [hnamespace], by simp [h₂]⟩
    · exact .inl hnamespace

open GatewayReconcileManager.SampleGateway

/-- The Gateway of the default namespace, on Consul OSS and in a partition. -/
theorem parseURI_default_gateway :
    GatewayReconcileManager.prepareGateway mirroring.namespace_ answers gateway =
      .validated validated ∧
    parseURI "/ns/default/dc/dc1/svc/gateway" = .ok validated.id ∧
    parseURI "/ap/part/ns/default/dc/dc1/svc/gateway" = .ok validated.id := by
  have hprepared : GatewayReconcileManager.prepareGateway mirroring.namespace_ answers gateway =
    .validated validated := rfl
  have hissued := parseURI_spec.2.1 mirroring answers gateway validated hprepared (by decide)
  refine ⟨hprepared, ?_, ?_⟩
  · exact (hissued none "dc1" (by decide) (by decide)).mpr (by decide)
  · exact (hissued (some "part") "dc1" (by decide) (by decide)).mpr (by decide)

end Envoy
