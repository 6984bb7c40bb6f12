/-
Consul's config entries and the index the adapter keeps them in
(`internal/consul/config_entries.go`).

A `ConfigEntryIndex` holds entries of one kind under their names; both are part
of the type, so that whatever is looked up in it has that kind and that name.
-/
import ConsulApiGateway.GoMap
import Mathlib.Algebra.Field.Rat

namespace Consul

/-! ### Config entries -/

structure HTTPHeaderModifiers where
  add : GoMap String String := ∅
  set : GoMap String String := ∅
  remove : List String := []
  deriving DecidableEq

/-- How a header is matched; one of the fields after the name is set. -/
structure ServiceRouteHTTPMatchHeader where
  name : String
  present : Bool := false
  exact : String := ""
  prefix_ : String := ""
  suffix : String := ""
  regex : String := ""
  deriving DecidableEq

structure ServiceRouteHTTPMatchQueryParam where
  name : String
  present : Bool := false
  exact : String := ""
  regex : String := ""
  deriving DecidableEq

/-- What a request has to meet, all of it. -/
structure ServiceRouteHTTPMatch where
  pathExact : String := ""
  pathPrefix : String := ""
  pathRegex : String := ""
  header : List ServiceRouteHTTPMatchHeader := []
  queryParam : List ServiceRouteHTTPMatchQueryParam := []
  methods : List String := []
  deriving DecidableEq

/-- Where a request is sent, and what is changed in it. -/
structure ServiceRouteDestination where
  service : String
  namespace_ : String
  prefixRewrite : String
  requestHeaders : HTTPHeaderModifiers
  deriving DecidableEq

/-- A route of a router.  One without a match takes every request. -/
structure ServiceRoute where
  match_ : Option ServiceRouteHTTPMatch := none
  destination : ServiceRouteDestination
  deriving DecidableEq

/-- The routes of a service, which are tried in their order. -/
structure ServiceRouterConfigEntry where
  name : String
  namespace_ : String
  meta_ : GoMap String String
  routes : List ServiceRoute := []
  deriving DecidableEq

/-- The weight is a percentage; the source computes it in 32-bit floats. -/
structure ServiceSplit where
  weight : ℚ
  service : String
  namespace_ : String
  requestHeaders : HTTPHeaderModifiers
  deriving DecidableEq

structure ServiceSplitterConfigEntry where
  name : String
  namespace_ : String
  meta_ : GoMap String String
  splits : List ServiceSplit
  deriving DecidableEq

/-- The defaults of a service, of which the protocol is set. -/
structure ServiceConfigEntry where
  name : String
  namespace_ : String
  protocol : String
  meta_ : GoMap String String
  deriving DecidableEq

/-- A service behind a listener, and the hosts it is reached by. -/
structure IngressService where
  name : String
  hosts : List String := []
  namespace_ : String
  deriving DecidableEq

/-- The cluster a certificate is fetched from, and its name there. -/
structure GatewayTLSSDSConfig where
  clusterName : String
  certResource : String
  deriving DecidableEq

structure GatewayTLSConfig where
  tlsMinVersion : String
  tlsMaxVersion : String
  cipherSuites : List String
  sds : Option GatewayTLSSDSConfig
  deriving DecidableEq

structure IngressListener where
  port : ℤ
  protocol : String
  services : List IngressService
  tls : GatewayTLSConfig
  deriving DecidableEq

/-- The only default that is set is `MaxConnections`. -/
structure IngressGatewayConfigEntry where
  name : String
  namespace_ : String
  meta_ : GoMap String String
  defaults : Option ℕ
  listeners : List IngressListener := []
  deriving DecidableEq

inductive Kind
  | ingressGateway | serviceRouter | serviceSplitter | serviceDefaults
  deriving DecidableEq

/-- An `api.ConfigEntry`, of one of the kinds the adapter writes. -/
inductive ConfigEntry
  | ingressGateway (entry : IngressGatewayConfigEntry)
  | serviceRouter (entry : ServiceRouterConfigEntry)
  | serviceSplitter (entry : ServiceSplitterConfigEntry)
  | serviceDefaults (entry : ServiceConfigEntry)
  deriving DecidableEq

namespace ConfigEntry

def getKind : ConfigEntry → Kind
  | ingressGateway _ => .ingressGateway
  | serviceRouter _ => .serviceRouter
  | serviceSplitter _ => .serviceSplitter
  | serviceDefaults _ => .serviceDefaults

def getName : ConfigEntry → String
  | ingressGateway entry => entry.name
  | serviceRouter entry => entry.name
  | serviceSplitter entry => entry.name
  | serviceDefaults entry => entry.name

def getNamespace : ConfigEntry → String
  | ingressGateway entry => entry.namespace_
  | serviceRouter entry => entry.namespace_
  | serviceSplitter entry => entry.namespace_
  | serviceDefaults entry => entry.namespace_

end ConfigEntry

/-- What Consul tells config entries apart by. -/
structure EntryKey where
  kind : Kind
  namespace_ : String
  name : String
  deriving DecidableEq

def ConfigEntry.key (entry : ConfigEntry) : EntryKey :=
  ⟨entry.getKind, entry.getNamespace, entry.getName⟩

/-! ### The index -/

/-- A `ConfigEntryIndex` of a kind.  The kind is part of the type, so that no two
indices of different kinds are ever merged or compared. -/
structure ConfigEntryIndex (kind : Kind) where
  idx : GoMap String ConfigEntry
  keyed : ∀ {name entry}, idx.lookup name = some entry → entry.getKind = kind ∧ entry.getName = name

namespace ConfigEntryIndex

variable {kind : Kind}

/-- `NewConfigEntryIndex`. -/
def new : ConfigEntryIndex kind where
  idx := ∅
  keyed h := by simp at h

/-- An entry of another kind is ignored. -/
def add (i : ConfigEntryIndex kind) (entry : ConfigEntry) : ConfigEntryIndex kind :=
  if h : entry.getKind = kind then
    { idx := i.idx.insert entry.getName entry
      keyed := by
        intro name entry' hlook
        rw [GoMap.lookup_insert_ite] at hlook
        split_ifs at hlook with hname
        · cases hlook
          exact ⟨h, hname.symm⟩
        · exact i.keyed hlook }
  else i

/-- The entries of the other index replace those of the same name. -/
def merge (i other : ConfigEntryIndex kind) : ConfigEntryIndex kind where
  idx := other.idx ∪ i.idx
  keyed := by
    intro name entry hlook
    rw [GoMap.lookup_union_ite] at hlook
    split_ifs at hlook
    · exact other.keyed hlook
    · exact i.keyed hlook

def get (i : ConfigEntryIndex kind) (name : String) : Option ConfigEntry := i.idx.lookup name

/-- The entries of the other index that are not in this one. -/
def difference (i other : ConfigEntryIndex kind) : ConfigEntryIndex kind where
  idx := GoMap.diff other.idx i.idx
  keyed := by
    intro name entry hlook
    rw [GoMap.lookup_diff] at hlook
    split_ifs at hlook
    exact other.keyed hlook

/-- `order` is the order in which the entries are visited. -/
def toArray (order : List (String × ConfigEntry)) : List ConfigEntry := order.map Prod.snd

@[simp] theorem get_new (name : String) : (new : ConfigEntryIndex kind).get name = none := by
  simp [get, new]

theorem get_add (i : ConfigEntryIndex kind) {entry : ConfigEntry} (h : entry.getKind = kind)
    (name : String) :
    (i.add entry).get name = if name = entry.getName then some entry else i.get name := by
  rw [add, dif_pos h, get, GoMap.lookup_insert_ite]
  rfl

theorem get_difference (i other : ConfigEntryIndex kind) (name : String) :
    (i.difference other).get name = if name ∈ i.idx then none else other.get name :=
  GoMap.lookup_diff _ _ _

/-- Entries of the kind of the index, added one after the other: one of the name
that is looked up wins. -/
theorem get_foldl_add (entries : List ConfigEntry)
    (hkind : ∀ entry ∈ entries, entry.getKind = kind) :
    ∀ (i : ConfigEntryIndex kind), ∀ entry ∈ entries, ∃ entry' ∈ entries,
      entry'.getName = entry.getName ∧
        (entries.foldl add i).get entry.getName = some entry' := by
  -- either an entry of the name was added, or the index still says what it said
  suffices hsuff : ∀ (i : ConfigEntryIndex kind) (name : String),
      (∃ entry' ∈ entries, entry'.getName = name ∧
          (entries.foldl add i).get name = some entry') ∨
        ((∀ entry ∈ entries, entry.getName ≠ name) ∧
          (entries.foldl add i).get name = i.get name) by
    intro i entry hmem
    rcases hsuff i entry.getName with h | ⟨hne, -⟩
    · exact h
    · exact absurd rfl (hne entry hmem)
  induction entries with
  | nil => exact fun i name => .inr ⟨by simp, rfl⟩
  | cons head entries ih =>
    intro i name
    have hhead := hkind head (List.mem_cons_self ..)
    rw [List.foldl_cons]
    rcases ih (fun entry hmem => hkind entry (List.mem_cons_of_mem _ hmem)) (i.add head) name
      with ⟨entry, hmem, hname, hget⟩ | ⟨hne, hget⟩
    · exact .inl ⟨entry, List.mem_cons_of_mem _ hmem, hname, hget⟩
    · rw [get_add i hhead] at hget
      by_cases heq : name = head.getName
      · rw [if_pos heq] at hget
        exact .inl ⟨head, List.mem_cons_self .., heq.symm, hget⟩
      · rw [if_neg heq] at hget
        refine .inr ⟨?_, hget⟩
        simpa [Ne.symm heq] using hne

/-! ### The entries of an index -/

/-- The entry is in the index. -/
def Has (i : ConfigEntryIndex kind) (entry : ConfigEntry) : Prop :=
  i.get entry.getName = some entry

theorem has_of_get {i : ConfigEntryIndex kind} {name : String} {entry : ConfigEntry}
    (h : i.get name = some entry) : i.Has entry := by
  rw [Has, (i.keyed h).2, h]

theorem Has.getKind {i : ConfigEntryIndex kind} {entry : ConfigEntry} (h : i.Has entry) :
    entry.getKind = kind := (i.keyed h).1

theorem not_has_new (entry : ConfigEntry) : ¬ (new : ConfigEntryIndex kind).Has entry := by
  simp [Has]

theorem has_add {i : ConfigEntryIndex kind} {entry added : ConfigEntry}
    (h : (i.add added).Has entry) : entry = added ∨ i.Has entry := by
  by_cases hkind : added.getKind = kind
  · rw [Has, get_add i hkind] at h
    split_ifs at h
    · exact .inl (Option.some.inj h).symm
    · exact .inr h
  · rw [add, dif_neg hkind] at h
    exact .inr h

theorem has_foldl_add {α : Type} {f : α → ConfigEntry} {l : List α} {i : ConfigEntryIndex kind}
    {entry : ConfigEntry} (h : (l.foldl (fun i a => i.add (f a)) i).Has entry) :
    i.Has entry ∨ ∃ a ∈ l, entry = f a := by
  induction l generalizing i with
  | nil => exact .inl h
  | cons head l ih =>
    rcases ih h with h | ⟨a, hmem, rfl⟩
    · rcases has_add h with rfl | h
      · exact .inr ⟨head, List.mem_cons_self .., rfl⟩
      · exact .inl h
    · exact .inr ⟨a, List.mem_cons_of_mem _ hmem, rfl⟩

theorem has_merge {i other : ConfigEntryIndex kind} {entry : ConfigEntry}
    (h : (i.merge other).Has entry) : i.Has entry ∨ other.Has entry := by
  rw [Has, get, merge, GoMap.lookup_union_ite] at h
  split_ifs at h
  · exact .inr h
  · exact .inl h

/-- An index that may be missing has nothing to merge. -/
theorem has_mergeOption {i : ConfigEntryIndex kind} {other : Option (ConfigEntryIndex kind)}
    {entry : ConfigEntry} (h : ((other.map i.merge).getD i).Has entry) :
    i.Has entry ∨ ∃ i', other = some i' ∧ i'.Has entry := by
  cases other with
  | none => exact .inl h
  | some i' => exact (has_merge h).imp_right fun h => ⟨i', rfl, h⟩

theorem has_difference {i other : ConfigEntryIndex kind} {entry : ConfigEntry} :
    (i.difference other).Has entry ↔ other.Has entry ∧ i.get entry.getName = none := by
  have hnone : i.get entry.getName = none ↔ entry.getName ∉ i.idx := Finmap.lookup_eq_none
  rw [Has, get_difference, hnone]
  by_cases hmem : entry.getName ∈ i.idx
  · simp [hmem]
  · simp [hmem, Has]

theorem mem_toArray {i : ConfigEntryIndex kind} {order : List (String × ConfigEntry)}
    (h : GoMap.Ranges i.idx order) {entry : ConfigEntry} : entry ∈ toArray order ↔ i.Has entry := by
  rw [toArray, List.mem_map]
  constructor
  · rintro ⟨⟨name, entry⟩, hmem, rfl⟩
    exact has_of_get (h.mem_iff.1 hmem)
  · exact fun hhas => ⟨(entry.getName, entry), h.mem_iff.2 hhas, rfl⟩

end ConfigEntryIndex

end Consul
