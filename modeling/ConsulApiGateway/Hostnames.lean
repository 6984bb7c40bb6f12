/-
What the hostnames of listeners and routes mean.

A hostname of a listener or of a route is a pattern: it stands for a set of
concrete hosts, `Hostname.hosts`.  The controller compares patterns by their
labels, and this is the comparison of their meanings:

* `hostnamesMatch_iff_tail_eq` — with a wildcard in front, the labels after the
  first decide;
* `hosts_inter_iff_of_wildcard` — they also decide whether a host is shared;
* `hostnamesMatch_iff_hosts_inter` — two hostnames match when the sets they stand
  for share a host, and a route matches a listener when one of its hostnames
  does.
-/
import ConsulApiGateway.GatewayApi
import Mathlib.Data.Set.Basic

namespace K8s

/-- A hostname as the schema of the objects admits it: lowercase ASCII. -/
abbrev Hostname := { s : String // ∀ c ∈ s.toList, c.toNat < 128 ∧ ¬ c.isUpper }

namespace Hostname

/-- The concrete hosts a pattern stands for.  A wildcard in front stands for
exactly one label. -/
def hosts (pattern : String) : Set String :=
  if pattern = "" ∨ pattern = "*" then Set.univ
  else match pattern.toList with
    | '*' :: '.' :: s => { host | ∃ label, '.' ∉ label ∧ host.toList = label ++ '.' :: s }
    | _ => {pattern}

/-- The pattern is `*.s` for some `s`. -/
def IsWildcard (pattern : String) : Prop := ∃ s, pattern.toList = '*' :: '.' :: s

theorem isPrefixOf_iff_isWildcard {pattern : String} :
    ['*', '.'].isPrefixOf pattern.toList = true ↔ IsWildcard pattern := by
  rw [List.isPrefixOf_iff_prefix]
  constructor
  · rintro ⟨s, hs⟩
    exact ⟨s, hs.symm⟩
  · rintro ⟨s, hs⟩
    exact ⟨s, hs.symm⟩

/-! ### Labels -/

theorem splitOn_injective {a b : List Char} (h : a.splitOn '.' = b.splitOn '.') : a = b := by
  have hjoin := congrArg (['.'].intercalate ·) h
  simpa using hjoin

theorem mem_of_mem_splitOn {host label : List Char} {c : Char} (h : label ∈ host.splitOn '.')
    (hc : c ∈ label) : c ∈ host := by
  induction host generalizing label with
  | nil =>
    rw [List.splitOn_nil, List.mem_singleton] at h
    rwa [h] at hc
  | cons d host ih =>
    rw [List.splitOn_cons_eq_if_modifyHead] at h
    split_ifs at h with hd
    · rcases List.mem_cons.mp h with rfl | h
      · cases hc
      · exact List.mem_cons_of_mem d (ih h hc)
    · cases hlabels : host.splitOn '.' with
      | nil => exact absurd hlabels (List.splitOn_ne_nil '.' host)
      | cons first rest =>
        rw [hlabels, List.modifyHead_cons] at h
        rcases List.mem_cons.mp h with rfl | h
        · rcases List.mem_cons.mp hc with rfl | hc
          · exact List.mem_cons_self
          · exact List.mem_cons_of_mem d (ih (by rw [hlabels]; exact List.mem_cons_self) hc)
        · exact List.mem_cons_of_mem d
            (ih (by rw [hlabels]; exact List.mem_cons_of_mem first h) hc)

/-- The labels after the first are those of `s` exactly if one label and a dot
stand in front of `s`. -/
theorem tail_splitOn_eq_iff {host s : List Char} :
    (host.splitOn '.').tail = s.splitOn '.' ↔ ∃ label, '.' ∉ label ∧ host = label ++ '.' :: s := by
  constructor
  · intro h
    by_cases hdot : '.' ∈ host
    · -- the first label ends at the first dot
      obtain ⟨label, rest, rfl, hlabel⟩ := List.eq_append_cons_of_mem hdot
      rw [List.splitOn_append_cons_self_of_not_mem hlabel, List.tail_cons] at h
      exact ⟨label, hlabel, by rw [splitOn_injective h]⟩
    · rw [List.splitOn_eq_singleton hdot] at h
      exact absurd h.symm (List.splitOn_ne_nil '.' s)
  · rintro ⟨label, hlabel, rfl⟩
    rw [List.splitOn_append_cons_self_of_not_mem hlabel, List.tail_cons]

theorem tail_splitOn_wildcard (s : List Char) :
    (('*' :: '.' :: s).splitOn '.').tail = s.splitOn '.' :=
  tail_splitOn_eq_iff.mpr ⟨['*'], by decide, rfl⟩

/-! ### The comparison of the code -/

theorem equalFold_iff_eq {a b : List Char} (ha : ∀ c ∈ a, ¬ c.isUpper)
    (hb : ∀ c ∈ b, ¬ c.isUpper) : equalFold a b = true ↔ a = b := by
  have hlower : ∀ l : List Char, (∀ c ∈ l, ¬ c.isUpper) → l.map Char.toLower = l := by
    intro l hl
    have hc : ∀ c ∈ l, c.toLower = c := fun c hc =>
      dif_neg fun hupper => hl c hc (decide_eq_true hupper)
    rw [List.map_congr_left hc, List.map_id']
  unfold equalFold
  rw [hlower a ha, hlower b hb, decide_eq_true_iff]

theorem all_zip_equalFold_iff {as bs : List (List Char)} (hlen : as.length = bs.length)
    (ha : ∀ a ∈ as, ∀ c ∈ a, ¬ c.isUpper) (hb : ∀ b ∈ bs, ∀ c ∈ b, ¬ c.isUpper) :
    ((as.zip bs).all fun labels => equalFold labels.1 labels.2) = true ↔ as = bs := by
  induction as generalizing bs with
  | nil =>
    cases bs with
    | nil => simp
    | cons b bs => cases hlen
  | cons a as ih =>
    cases bs with
    | nil => cases hlen
    | cons b bs =>
      obtain ⟨ha, has⟩ := List.forall_mem_cons.mp ha
      obtain ⟨hb, hbs⟩ := List.forall_mem_cons.mp hb
      rw [List.zip_cons_cons, List.all_cons, Bool.and_eq_true, equalFold_iff_eq ha hb,
        ih (Nat.succ.inj hlen) has hbs, List.cons.injEq]

/-- With a wildcard in front of one of two hostnames, they match when the labels
after the first are the same. -/
theorem hostnamesMatch_iff_tail_eq (a b : Hostname) (ha : ¬ (a.val = "" ∨ a.val = "*"))
    (hb : ¬ (b.val = "" ∨ b.val = "*")) (hwild : IsWildcard a.val ∨ IsWildcard b.val) :
    hostnamesMatch a.val b.val = true ↔
      (a.val.toList.splitOn '.').tail = (b.val.toList.splitOn '.').tail := by
  have hany : ¬ (a.val = "" ∨ a.val = "*" ∨ b.val = "" ∨ b.val = "*") := by
    rw [← or_assoc]
    exact not_or.mpr ⟨ha, hb⟩
  have hlower : ∀ h : Hostname, ∀ label ∈ (h.val.toList.splitOn '.').tail, ∀ c ∈ label,
      ¬ c.isUpper := fun h label hlabel c hc =>
    (h.property c (mem_of_mem_splitOn (List.mem_of_mem_tail hlabel) hc)).2
  have hlength : ∀ l : List Char, (l.splitOn '.').length = (l.splitOn '.').tail.length + 1 := by
    intro l
    rw [List.length_tail, Nat.sub_add_cancel]
    exact List.length_pos_iff.mpr (List.splitOn_ne_nil '.' l)
  unfold hostnamesMatch
  rw [if_neg hany, if_pos (by rwa [isPrefixOf_iff_isWildcard, isPrefixOf_iff_isWildcard])]
  dsimp only
  split_ifs with hlen
  · refine iff_of_false id fun h => hlen ?_
    rw [hlength, hlength, h]
  · rw [ne_eq, not_not, hlength, hlength, Nat.succ.injEq] at hlen
    rw [List.tail_zip, all_zip_equalFold_iff hlen (hlower a) (hlower b)]

/-! ### The hosts that two patterns share -/

theorem hosts_of_any {pattern : String} (h : pattern = "" ∨ pattern = "*") :
    hosts pattern = Set.univ := by
  unfold hosts
  rw [if_pos h]

theorem mem_hosts_of_wildcard {pattern host : String} (h : IsWildcard pattern) :
    host ∈ hosts pattern ↔
      (host.toList.splitOn '.').tail = (pattern.toList.splitOn '.').tail := by
  obtain ⟨s, hs⟩ := h
  have hany : ¬ (pattern = "" ∨ pattern = "*") := by
    rintro (rfl | rfl)
    · simp at hs
    · simp at hs
  unfold hosts
  rw [if_neg hany, hs, tail_splitOn_wildcard, tail_splitOn_eq_iff]
  rfl

theorem hosts_of_not_wildcard {pattern : String} (hany : ¬ (pattern = "" ∨ pattern = "*"))
    (h : ¬ IsWildcard pattern) : hosts pattern = {pattern} := by
  unfold hosts
  rw [if_neg hany]
  split
  · rename_i s hs
    exact absurd ⟨s, hs⟩ h
  · rfl

/-- A pattern stands for some host. -/
theorem mem_hosts_self (pattern : String) : pattern ∈ hosts pattern := by
  by_cases hany : pattern = "" ∨ pattern = "*"
  · rw [hosts_of_any hany]
    exact Set.mem_univ pattern
  · by_cases hwild : IsWildcard pattern
    · rw [mem_hosts_of_wildcard hwild]
    · rw [hosts_of_not_wildcard hany hwild]
      exact Set.mem_singleton pattern

theorem hosts_inter_iff_of_wildcard {a b : String} (hb : ¬ (b = "" ∨ b = "*"))
    (hwild : IsWildcard a) : (hosts a ∩ hosts b).Nonempty ↔
      (a.toList.splitOn '.').tail = (b.toList.splitOn '.').tail := by
  constructor
  · rintro ⟨host, hhost, hhost'⟩
    rw [mem_hosts_of_wildcard hwild] at hhost
    by_cases hwild' : IsWildcard b
    · rw [mem_hosts_of_wildcard hwild'] at hhost'
      exact hhost.symm.trans hhost'
    · rw [hosts_of_not_wildcard hb hwild', Set.mem_singleton_iff] at hhost'
      rw [← hhost, hhost']
  · -- `b`, read as a host, is in both sets
    intro h
    exact ⟨b, (mem_hosts_of_wildcard hwild).mpr h.symm, mem_hosts_self b⟩

theorem hostnamesMatch_iff (a b : Hostname) :
    hostnamesMatch a.val b.val = true ↔ (hosts a.val ∩ hosts b.val).Nonempty := by
  by_cases ha : a.val = "" ∨ a.val = "*"
  · have hmatch : hostnamesMatch a.val b.val = true := by
      unfold hostnamesMatch
      rw [if_pos (by rw [← or_assoc]; exact .inl ha)]
    rw [hosts_of_any ha, Set.univ_inter]
    exact iff_of_true hmatch ⟨b.val, mem_hosts_self b.val⟩
  by_cases hb : b.val = "" ∨ b.val = "*"
  · have hmatch : hostnamesMatch a.val b.val = true := by
      unfold hostnamesMatch
      rw [if_pos (by rw [← or_assoc]; exact .inr hb)]
    rw [hosts_of_any hb, Set.inter_univ]
    exact iff_of_true hmatch ⟨a.val, mem_hosts_self a.val⟩
  by_cases hwilda : IsWildcard a.val
  · rw [hostnamesMatch_iff_tail_eq a b ha hb (.inl hwilda), hosts_inter_iff_of_wildcard hb hwilda]
  by_cases hwildb : IsWildcard b.val
  · rw [hostnamesMatch_iff_tail_eq a b ha hb (.inr hwildb), Set.inter_comm,
      hosts_inter_iff_of_wildcard ha hwildb, eq_comm]
  · unfold hostnamesMatch
    rw [if_neg (by rw [← or_assoc]; exact not_or.mpr ⟨ha, hb⟩),
      if_neg (by rw [isPrefixOf_iff_isWildcard, isPrefixOf_iff_isWildcard]
                 exact not_or.mpr ⟨hwilda, hwildb⟩),
      hosts_of_not_wildcard ha hwilda, hosts_of_not_wildcard hb hwildb,
      Set.singleton_inter_nonempty, Set.mem_singleton_iff, decide_eq_true_iff]

/-- **Matching hostnames share a host.** Two hostnames match exactly if the sets
of hosts they stand for intersect, whichever comes first.  A route matches the
hostname of a listener exactly if the listener has none, the route has none, or
one of the route's shares a host with the listener's. -/
theorem hostnamesMatch_iff_hosts_inter :
    (∀ a b : Hostname,
      hostnamesMatch a.val b.val = true ↔ (hosts a.val ∩ hosts b.val).Nonempty) ∧
    (∀ a b : Hostname, hostnamesMatch a.val b.val = hostnamesMatch b.val a.val) ∧
    ∀ (listener : Option Hostname) (hostnames : List Hostname),
      routeMatchesListenerHostname (listener.map (·.val)) (hostnames.map (·.val)) = true ↔
        listener = none ∨ hostnames = [] ∨
        ∃ l ∈ listener, ∃ h ∈ hostnames, (hosts h.val ∩ hosts l.val).Nonempty := by
  refine ⟨hostnamesMatch_iff, fun a b => ?_, fun listener hostnames => ?_⟩
  · rw [Bool.eq_iff_iff, hostnamesMatch_iff, hostnamesMatch_iff, Set.inter_comm]
  · cases listener with
    | none => simp [routeMatchesListenerHostname]
    | some l =>
      have hsome : (some l = none) = False := eq_false (Option.some_ne_none l)
      have hl : ∀ P : Hostname → Prop, (∃ l' ∈ some l, P l') ↔ P l := by simp
      rw [hsome, false_or, hl, Option.map_some, routeMatchesListenerHostname, decide_eq_true_iff,
        List.map_eq_nil_iff, List.any_map, List.any_eq_true]
      simp only [Function.comp_apply, hostnamesMatch_iff]

end Hostname

end K8s
