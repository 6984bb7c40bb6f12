/-
The statuses that are published on a route (`internal/k8s/reconciler/status/route.go` and
`equality.go`).

A route has a status for each of its parents, from several controllers.  The controller replaces
its own by the ones it has computed, visiting them in any order, and sorts all by their JSON
texts.  The texts have fresh times in them; whether the status has to be written is decided by a
comparison that ignores the times but goes by position.

* `asJSON_lt_iff` — parents with different references or controllers are compared before their
  conditions, and so before any time;
* `needsUpdate_again` — merging into a merged status, in any order and at any time, replaces each
  of the own parents by one with the same conditions;
* `needsUpdate_settles` — others are kept, the own ones are those of the map, and a second call
  has nothing to write.
-/
import ConsulApiGateway.Json
import ConsulApiGateway.Pointwise
import ConsulApiGateway.StableSort
import ConsulApiGateway.StatusConditions
import Mathlib.Data.String.Basic

open GoStd (Json)

/-! ### JSON texts -/

namespace K8s

structure RouteParentStatus where
  parentRef : ParentReference
  controllerName : String
  conditions : List Condition
  deriving DecidableEq

def RouteParentStatus.untimed (p : RouteParentStatus) : RouteParentStatus :=
  { p with conditions := p.conditions.map Condition.untimed }

/-- A field that is left out if it is not set. -/
def optionalField (name : String) (value : Option Json) : List (String × Json) :=
  (value.map fun j => (name, j)).toList

def ParentReference.toJson (p : ParentReference) : Json :=
  .obj (optionalField "group" (p.group.map .str) ++ optionalField "kind" (p.kind.map .str) ++
    optionalField "namespace" (p.namespace_.map .str) ++ [("name", .str p.name)] ++
    optionalField "sectionName" (p.sectionName.map .str) ++ optionalField "port" (p.port.map .num))

def ConditionStatus.toString : ConditionStatus → String
  | .true_ => "True"
  | .false_ => "False"
  | .unknown => "Unknown"

def Condition.toJson (c : Condition) : Json :=
  .obj ([("type", .str c.type), ("status", .str c.status.toString)] ++
    optionalField "observedGeneration"
      (if c.observedGeneration = 0 then none else some (.num c.observedGeneration)) ++
    [("lastTransitionTime", c.lastTransitionTime.elim .null .str), ("reason", .str c.reason),
      ("message", .str c.message)])

def RouteParentStatus.toJson (p : RouteParentStatus) : Json :=
  .obj ([("parentRef", p.parentRef.toJson), ("controllerName", .str p.controllerName)] ++
    optionalField "conditions"
      (if p.conditions = [] then none else some (.arr (p.conditions.map Condition.toJson))))

end K8s

namespace Reconciler

open K8s (ParentReference RouteParentStatus Condition Time)

/-- `common.AsJSON`. -/
def asJSON (j : Json) : String := String.ofList j.text

/-! ### Merging and comparing -/

def sortConditions (p : RouteParentStatus) : RouteParentStatus :=
  { p with conditions :=
      GoStd.sliceStable (fun a b => asJSON a.toJson < asJSON b.toJson) p.conditions }

def sortParents (parents : List RouteParentStatus) : List RouteParentStatus :=
  GoStd.sliceStable (fun a b => asJSON a.toJson < asJSON b.toJson) (parents.map sortConditions)

def filterParentStatuses (parents : List RouteParentStatus) (controllerName : String) :
    List RouteParentStatus :=
  parents.filter fun status => status.controllerName ≠ controllerName

def parentStatusEqual (a b : RouteParentStatus) : Bool :=
  if a.controllerName ≠ b.controllerName then false
  else if asJSON a.parentRef.toJson ≠ asJSON b.parentRef.toJson then false
  else conditionsEqual a.conditions b.conditions

def routeStatusEqual : List RouteParentStatus → List RouteParentStatus → Bool :=
  slicesEqual parentStatusEqual

namespace RouteStatuses

/-- `entries` is the order in which the statuses are visited.  The clock is read twice for each. -/
def statuses (entries : List (ParentReference × RouteStatus)) (controllerName : String)
    (generation : ℤ) (now : ℕ → Time) : List RouteParentStatus :=
  entries.zipIdx.map fun p =>
    ⟨p.1.1, controllerName, p.1.2.conditions generation fun i => now (2 * p.2 + i)⟩

def mergedStatus (entries : List (ParentReference × RouteStatus))
    (parents : List RouteParentStatus) (controllerName : String) (generation : ℤ)
    (now : ℕ → Time) : List RouteParentStatus :=
  sortParents (filterParentStatuses parents controllerName ++
    statuses entries controllerName generation now)

/-- The merged status and whether it has to be written.  The old status is sorted in place, so that
it is merged as it is compared. -/
def needsUpdate (entries : List (ParentReference × RouteStatus))
    (parents : List RouteParentStatus) (controllerName : String) (generation : ℤ)
    (now : ℕ → Time) : List RouteParentStatus × Bool :=
  let currentStatus := sortParents parents
  let updatedStatus := mergedStatus entries currentStatus controllerName generation now
  (updatedStatus, !routeStatusEqual currentStatus updatedStatus)

end RouteStatuses

end Reconciler

/-! ### What the texts tell -/

namespace K8s

theorem lookup_optionalField (name key : String) (value : Option Json) :
    (optionalField name value).lookup key = if key = name then value else none := by
  cases value with
  | none => simp [optionalField]
  | some j =>
    by_cases h : key = name
    · simp [optionalField, h]
    · have hkey : (key == name) = false := by simpa using h
      simp [optionalField, List.lookup_cons, h, hkey]

theorem ParentReference.toJson_injective : Function.Injective ParentReference.toJson := by
  intro p q h
  have hlookup := fun key => congrArg (List.lookup key) (Json.obj.inj h)
  simp only [List.lookup_append, lookup_optionalField] at hlookup
  have hstr : Function.Injective (Option.map Json.str) :=
    Option.map_injective fun _ _ => Json.str.inj
  have hnum : Function.Injective (Option.map Json.num) :=
    Option.map_injective fun _ _ => Json.num.inj
  have hgroup : p.group = q.group := hstr (by simpa [List.lookup_cons] using hlookup "group")
  have hkind : p.kind = q.kind := hstr (by simpa [List.lookup_cons] using hlookup "kind")
  have hnamespace : p.namespace_ = q.namespace_ :=
    hstr (by simpa [List.lookup_cons] using hlookup "namespace")
  have hname : p.name = q.name := by simpa [List.lookup_cons] using hlookup "name"
  have hsection : p.sectionName = q.sectionName :=
    hstr (by simpa [List.lookup_cons] using hlookup "sectionName")
  have hport : p.port = q.port := hnum (by simpa [List.lookup_cons] using hlookup "port")
  cases p
  cases q
  simp_all

end K8s

namespace Reconciler

open K8s (ParentReference RouteParentStatus Condition Time)

/-- What a parent is identified by. -/
def parentID (p : RouteParentStatus) : ParentReference × String := (p.parentRef, p.controllerName)

/-- How the text of a parent begins. -/
def idText (id : ParentReference × String) : List Char :=
  ('{' :: GoStd.stringText "parentRef" ++ [':'] ++ (id.1.toJson.text ++ [','])) ++
    (GoStd.stringText "controllerName" ++ [':'] ++ GoStd.stringText id.2)

/-- How it goes on. -/
def conditionsText (p : RouteParentStatus) : List Char :=
  Json.fieldsText (K8s.optionalField "conditions"
    (if p.conditions = [] then none else some (.arr (p.conditions.map Condition.toJson))))

theorem text_toJson (p : RouteParentStatus) :
    p.toJson.text = idText (parentID p) ++ conditionsText p := by
  simp only [RouteParentStatus.toJson, List.cons_append, List.nil_append, Json.text,
    Json.fieldText, Json.fieldsText, idText, parentID, conditionsText, List.append_assoc]

theorem idText_prefixCode : PrefixCode idText Anything := by
  have href : PrefixCode (fun ref : ParentReference => ref.toJson.text ++ [',']) Anything := by
    refine (Json.text_prefixCode.comp ParentReference.toJson_injective).append [','] ?_
    intro x c hc
    cases hc
    decide
  exact (href.prepend _).pair (GoStd.stringText_prefixCode.prepend _)

variable {p q p' q' : RouteParentStatus}

theorem parentID_eq_of_asJSON_eq (h : asJSON p.toJson = asJSON q.toJson) :
    parentID p = parentID q := by
  have htext : p.toJson.text = q.toJson.text := String.ofList_injective h
  rw [text_toJson, text_toJson] at htext
  exact (idText_prefixCode trivial trivial htext).1

/-- Parents with different references or controllers are compared without their conditions. -/
theorem asJSON_lt_iff (hne : parentID p ≠ parentID q) (hp : parentID p' = parentID p)
    (hq : parentID q' = parentID q) :
    asJSON p'.toJson < asJSON q'.toJson ↔ asJSON p.toJson < asJSON q.toJson := by
  simp only [asJSON, String.lt_iff_toList_lt, String.toList_ofList, text_toJson, hp, hq]
  exact idText_prefixCode.lt_iff hne _ _ _ _

/-- How the text of a condition begins. -/
def typeText (type : String) : List Char :=
  '{' :: GoStd.stringText "type" ++ [':'] ++ GoStd.stringText type

theorem typeText_prefixCode : PrefixCode typeText Anything :=
  GoStd.stringText_prefixCode.prepend _

theorem text_condition (c : Condition) : ∃ rest, c.toJson.text = typeText c.type ++ rest := by
  simp only [Condition.toJson, List.cons_append, List.nil_append, Json.text, Json.fieldText,
    typeText, List.append_assoc]
  exact ⟨_, rfl⟩

/-- The conditions of a route are sorted: their types are compared before their times. -/
theorem sorted_conditions (s : RouteStatus) (generation : ℤ) (now : ℕ → Time) :
    (s.conditions generation now).Pairwise fun a b => asJSON a.toJson ≤ asJSON b.toJson := by
  rw [RouteStatus.conditions, List.pairwise_pair]
  refine le_of_lt ?_
  obtain ⟨x, hx⟩ := text_condition (s.accepted.condition generation (now 0))
  obtain ⟨y, hy⟩ := text_condition (s.resolvedRefs.condition generation (now 1))
  rw [RouteAcceptedStatus.condition, type_conditionOf] at hx
  rw [RouteResolvedRefsStatus.condition, type_conditionOf] at hy
  rw [asJSON, asJSON, String.lt_iff_toList_lt, String.toList_ofList, String.toList_ofList]
  rw [RouteAcceptedStatus.condition, RouteResolvedRefsStatus.condition, hx, hy]
  exact (typeText_prefixCode.lt_iff (by decide) x y [] []).2 (by decide)

/-! ### Sorted statuses -/

/-- The order `sortParents` puts the parents in. -/
def parentLess (a b : RouteParentStatus) : Bool := asJSON a.toJson < asJSON b.toJson

theorem compares_parentLess :
    GoStd.Compares parentLess fun p : RouteParentStatus => asJSON p.toJson :=
  fun _ _ => decide_eq_true_iff

theorem compares_conditions :
    GoStd.Compares (fun a b : Condition => decide (asJSON a.toJson < asJSON b.toJson))
      fun c => asJSON c.toJson :=
  fun _ _ => decide_eq_true_iff

/-- The conditions of the parent are sorted. -/
def Sorted (p : RouteParentStatus) : Prop := sortConditions p = p

theorem sorted_of_pairwise
    (h : p.conditions.Pairwise fun a b => asJSON a.toJson ≤ asJSON b.toJson) : Sorted p := by
  unfold Sorted sortConditions
  rw [GoStd.sliceStable_of_pairwise compares_conditions h]

theorem sorted_sortConditions (p : RouteParentStatus) : Sorted (sortConditions p) :=
  sorted_of_pairwise (GoStd.pairwise_sliceStable compares_conditions p.conditions)

variable {parents : List RouteParentStatus}

theorem sorted_of_mem_sortParents (h : p ∈ sortParents parents) : Sorted p := by
  obtain ⟨q, _, rfl⟩ := List.mem_map.1 (GoStd.mem_sliceStable.1 h)
  exact sorted_sortConditions q

/-- Parents whose conditions are sorted are only sorted among each other. -/
theorem sortParents_of_sorted (h : ∀ p ∈ parents, Sorted p) :
    sortParents parents = GoStd.sliceStable parentLess parents := by
  have hmap : parents.map sortConditions = parents := by
    conv_rhs => rw [← List.map_id parents]
    exact List.map_congr_left h
  unfold sortParents
  rw [hmap]
  rfl

namespace RouteStatuses

variable {r : RouteStatuses} {entries entries' : List (ParentReference × RouteStatus)}
  {c : String} {generation : ℤ} {now now' : ℕ → Time}

/-- An own parent is that of an entry. -/
theorem exists_of_mem_statuses (h : p ∈ statuses entries c generation now) :
    ∃ e ∈ entries, ∃ clock, p = ⟨e.1, c, e.2.conditions generation clock⟩ := by
  obtain ⟨⟨e, i⟩, hmem, rfl⟩ := List.mem_map.1 h
  exact ⟨e, List.fst_mem_of_mem_zipIdx hmem, _, rfl⟩

theorem controllerName_of_mem_statuses (h : p ∈ statuses entries c generation now) :
    p.controllerName = c := by
  obtain ⟨e, _, clock, rfl⟩ := exists_of_mem_statuses h
  rfl

theorem sorted_of_mem_statuses (h : p ∈ statuses entries c generation now) : Sorted p := by
  obtain ⟨e, _, clock, rfl⟩ := exists_of_mem_statuses h
  exact sorted_of_pairwise (sorted_conditions e.2 generation clock)

/-- Without their times the own parents are the entries, one by one. -/
theorem map_untimed_statuses (entries : List (ParentReference × RouteStatus)) (c : String)
    (generation : ℤ) (now : ℕ → Time) :
    (statuses entries c generation now).map RouteParentStatus.untimed =
      entries.map fun e =>
        (⟨e.1, c, e.2.conditions generation fun _ => none⟩ : RouteParentStatus).untimed := by
  rw [statuses, List.map_map]
  refine List.map_zipIdx_fst _ fun e => ?_
  simp only [Function.comp_apply, RouteParentStatus.untimed,
    e.1.2.untimed_conditions generation _ fun _ => none]

theorem map_parentRef_statuses (entries : List (ParentReference × RouteStatus)) (c : String)
    (generation : ℤ) (now : ℕ → Time) :
    (statuses entries c generation now).map (·.parentRef) = entries.map Prod.fst := by
  have h := congrArg (List.map (·.parentRef)) (map_untimed_statuses entries c generation now)
  rw [List.map_map, List.map_map] at h
  exact h

/-! ### The merged status -/

/-- The parents of other controllers, as the merged status has them. -/
def others (parents : List RouteParentStatus) (c : String) : List RouteParentStatus :=
  filterParentStatuses (sortParents parents) c

theorem controllerName_of_mem_others (h : p ∈ others parents c) : p.controllerName ≠ c := by
  simpa using (List.mem_filter.1 h).2

theorem sorted_of_mem_others (h : p ∈ others parents c) : Sorted p :=
  sorted_of_mem_sortParents (List.mem_of_mem_filter h)

theorem needsUpdate_fst : (needsUpdate entries parents c generation now).1 =
    GoStd.sliceStable parentLess (others parents c ++ statuses entries c generation now) := by
  refine sortParents_of_sorted fun p hp => ?_
  rcases List.mem_append.1 hp with hp | hp
  · exact sorted_of_mem_others hp
  · exact sorted_of_mem_statuses hp

/-- The merged status is sorted already. -/
theorem sortParents_needsUpdate : sortParents (needsUpdate entries parents c generation now).1 =
    (needsUpdate entries parents c generation now).1 := by
  have hsorted : ∀ p ∈ (needsUpdate entries parents c generation now).1, Sorted p :=
    fun p hp => sorted_of_mem_sortParents hp
  rw [sortParents_of_sorted hsorted, needsUpdate_fst]
  exact GoStd.sliceStable_of_pairwise compares_parentLess
    (GoStd.pairwise_sliceStable compares_parentLess _)

theorem filterParentStatuses_append :
    filterParentStatuses (others parents c ++ statuses entries c generation now) c =
      others parents c := by
  unfold filterParentStatuses
  rw [List.filter_append, List.filter_eq_self.2, List.filter_eq_nil_iff.2, List.append_nil]
  · intro p hp
    simpa using controllerName_of_mem_statuses hp
  · intro p hp
    simpa using controllerName_of_mem_others hp

/-- The merged status has the others, in the order they are sorted in. -/
theorem filterParentStatuses_needsUpdate :
    filterParentStatuses (needsUpdate entries parents c generation now).1 c =
      GoStd.sliceStable parentLess (others parents c) := by
  rw [needsUpdate_fst, filterParentStatuses, GoStd.filter_sliceStable compares_parentLess]
  exact congrArg _ filterParentStatuses_append

/-! ### Merging again -/

/-- The own parent with the reference of a parent, in its place. -/
def renew (own : List RouteParentStatus) (c : String) (p : RouteParentStatus) :
    RouteParentStatus :=
  if p.controllerName = c then (own.find? fun q => q.parentRef = p.parentRef).getD p else p

/-- Own parents that are computed again: the same references, each once. -/
structure Renewal (c : String) (own own' : List RouteParentStatus) : Prop where
  controllerName : ∀ p ∈ own, p.controllerName = c
  controllerName' : ∀ p ∈ own', p.controllerName = c
  nodup : (own.map (·.parentRef)).Nodup
  perm : (own'.map (·.parentRef)).Perm (own.map (·.parentRef))
  untimed : ∀ p ∈ own, ∀ q ∈ own', p.parentRef = q.parentRef → p.untimed = q.untimed

theorem renew_other {own : List RouteParentStatus} (h : p.controllerName ≠ c) :
    renew own c p = p :=
  if_neg h

namespace Renewal

variable {own own' : List RouteParentStatus}

theorem renew_own (h : Renewal c own own') (hp : p ∈ own) :
    renew own' c p ∈ own' ∧ (renew own' c p).parentRef = p.parentRef := by
  obtain ⟨w, hw, hwp⟩ := List.mem_map.1 (h.perm.mem_iff.2 (List.mem_map_of_mem hp))
  rw [renew, if_pos (h.controllerName p hp)]
  cases hfind : own'.find? fun q => q.parentRef = p.parentRef with
  | none => exact absurd hwp (by simpa using List.find?_eq_none.1 hfind w hw)
  | some q => exact ⟨List.mem_of_find?_eq_some hfind, by simpa using List.find?_some hfind⟩

theorem perm_map_renew (h : Renewal c own own') : (own.map (renew own' c)).Perm own' := by
  have hnodup' : (own'.map (·.parentRef)).Nodup := h.perm.nodup_iff.2 h.nodup
  have hrefs : (own.map (renew own' c)).map (·.parentRef) = own.map (·.parentRef) := by
    rw [List.map_map]
    exact List.map_congr_left fun p hp => (h.renew_own hp).2
  have hnodup : (own.map (renew own' c)).Nodup := .of_map _ (hrefs ▸ h.nodup)
  refine (List.perm_ext_iff_of_nodup hnodup hnodup'.of_map).2 fun w => ?_
  constructor
  · intro hw
    obtain ⟨p, hp, rfl⟩ := List.mem_map.1 hw
    exact (h.renew_own hp).1
  · intro hw
    -- the parent with the reference of `w` is replaced by `w`, which is the only one with it
    obtain ⟨p, hp, hpw⟩ := List.mem_map.1 (h.perm.mem_iff.1 (List.mem_map_of_mem hw))
    obtain ⟨hmem, href⟩ := h.renew_own hp
    have heq : renew own' c p = w := List.inj_on_of_nodup_map hnodup' hmem hw (href.trans hpw)
    exact List.mem_map.2 ⟨p, hp, heq⟩

variable {rest : List RouteParentStatus}

theorem parentID_renew (h : Renewal c own own') (hrest : ∀ p ∈ rest, p.controllerName ≠ c)
    (hp : p ∈ rest ++ own) : parentID (renew own' c p) = parentID p := by
  rcases List.mem_append.1 hp with hp | hp
  · rw [renew_other (hrest p hp)]
  · obtain ⟨hmem, href⟩ := h.renew_own hp
    rw [parentID, parentID, href, h.controllerName' _ hmem, h.controllerName p hp]

theorem untimed_renew (h : Renewal c own own') (hrest : ∀ p ∈ rest, p.controllerName ≠ c)
    (hp : p ∈ rest ++ own) : (renew own' c p).untimed = p.untimed := by
  rcases List.mem_append.1 hp with hp | hp
  · rw [renew_other (hrest p hp)]
  · obtain ⟨hmem, href⟩ := h.renew_own hp
    exact (h.untimed p hp _ hmem href.symm).symm

/-- Two own parents of a renewal with the same reference are one. -/
theorem renew_eq_of_parentID_eq (h : Renewal c own own') (hrest : ∀ p ∈ rest, p.controllerName ≠ c)
    (hp : p ∈ rest ++ own) (hq : q ∈ rest ++ own) (hid : parentID p = parentID q) :
    p = q ∨ renew own' c p = p ∧ renew own' c q = q := by
  obtain ⟨href, hname⟩ := Prod.mk.inj hid
  by_cases hc : p.controllerName = c
  · refine .inl ?_
    have hown : ∀ x ∈ rest ++ own, x.controllerName = c → x ∈ own := fun x hx hxc =>
      (List.mem_append.1 hx).resolve_left fun hx => hrest x hx hxc
    exact List.inj_on_of_nodup_map h.nodup (hown p hp hc) (hown q hq (hname ▸ hc)) href
  · exact .inr ⟨renew_other hc, renew_other (hname ▸ hc)⟩

/-- Renewing the own parents does not change how the parents are sorted. -/
theorem map_sliceStable (h : Renewal c own own') (hrest : ∀ p ∈ rest, p.controllerName ≠ c) :
    (GoStd.sliceStable parentLess (rest ++ own)).map (renew own' c) =
      GoStd.sliceStable parentLess (rest ++ own.map (renew own' c)) := by
  have hmap : (rest ++ own).map (renew own' c) = rest ++ own.map (renew own' c) := by
    rw [List.map_append]
    congr 1
    conv_rhs => rw [← List.map_id rest]
    exact List.map_congr_left fun p hp => renew_other (hrest p hp)
  rw [← hmap]
  refine GoStd.map_sliceStable fun p hp q hq => ?_
  rw [compares_parentLess p q, compares_parentLess]
  by_cases hid : parentID p = parentID q
  · rcases h.renew_eq_of_parentID_eq hrest hp hq hid with rfl | ⟨hfp, hfq⟩
    · exact iff_of_false (lt_irrefl _) (lt_irrefl _)
    · rw [hfp, hfq]
  · exact (asJSON_lt_iff hid (h.parentID_renew hrest hp) (h.parentID_renew hrest hq)).symm

/-- The order in which the own parents are appended is of no account, nor is that of parents
that are sorted before. -/
theorem sliceStable_append (h : Renewal c own own') :
    GoStd.sliceStable parentLess (GoStd.sliceStable parentLess rest ++ own') =
      GoStd.sliceStable parentLess (rest ++ own.map (renew own' c)) := by
  refine (GoStd.sliceStable_eq_iff compares_parentLess).2 fun k => ?_
  rw [List.filter_append, List.filter_append, GoStd.filter_key_sliceStable compares_parentLess]
  congr 1
  refine GoStd.filter_key_eq_of_perm h.perm_map_renew.symm ?_ k
  intro p hp q hq hkey
  exact List.inj_on_of_nodup_map (h.perm.nodup_iff.2 h.nodup) hp hq
    (Prod.mk.inj (parentID_eq_of_asJSON_eq hkey)).1

end Renewal

/-- Statuses of one map in two orders and at two times. -/
theorem renewal_statuses (hl : GoMap.Ranges r entries) (hl' : GoMap.Ranges r entries') :
    Renewal c (statuses entries c generation now) (statuses entries' c generation now') where
  controllerName _ := controllerName_of_mem_statuses
  controllerName' _ := controllerName_of_mem_statuses
  nodup := by
    rw [map_parentRef_statuses]
    exact hl.1
  perm := by
    rw [map_parentRef_statuses, map_parentRef_statuses]
    exact (hl.ranges_iff_perm.1 hl').map Prod.fst
  untimed := by
    intro p hp q hq href
    obtain ⟨e, he, clock, rfl⟩ := exists_of_mem_statuses hp
    obtain ⟨e', he', clock', rfl⟩ := exists_of_mem_statuses hq
    have href' : e.1 = e'.1 := href
    have hstatus : r.lookup e.1 = some e.2 := hl.mem_iff.1 he
    have hstatus' : r.lookup e'.1 = some e'.2 := hl'.mem_iff.1 he'
    rw [href', hstatus', Option.some.injEq] at hstatus
    simp only [RouteParentStatus.untimed, RouteParentStatus.mk.injEq, true_and]
    exact ⟨href', hstatus ▸ e'.2.untimed_conditions generation clock clock'⟩

/-- Merging into a merged status, in any order and at any time, renews the own parents where
they are. -/
theorem needsUpdate_again (hl : GoMap.Ranges r entries) (hl' : GoMap.Ranges r entries') :
    (needsUpdate entries' (needsUpdate entries parents c generation now).1 c generation now').1 =
      (needsUpdate entries parents c generation now).1.map
        (renew (statuses entries' c generation now') c) := by
  have hrenewal : Renewal c (statuses entries c generation now)
      (statuses entries' c generation now') := renewal_statuses hl hl'
  rw [needsUpdate_fst, others, sortParents_needsUpdate, filterParentStatuses_needsUpdate,
    hrenewal.sliceStable_append,
    ← hrenewal.map_sliceStable fun p => controllerName_of_mem_others, ← needsUpdate_fst]

/-! ### The status that is written -/

theorem parentStatusEqual_iff (p q : RouteParentStatus) :
    parentStatusEqual p q = true ↔ p.untimed = q.untimed := by
  have href : asJSON p.parentRef.toJson = asJSON q.parentRef.toJson ↔ p.parentRef = q.parentRef :=
    (Json.ofList_text_injective.comp ParentReference.toJson_injective).eq_iff
  unfold parentStatusEqual RouteParentStatus.untimed
  rw [RouteParentStatus.mk.injEq, ← conditionsEqual_iff, ← href]
  split_ifs <;> simp_all

/-- A second call finds nothing to write. -/
theorem needsUpdate_again_snd (hl : GoMap.Ranges r entries) (hl' : GoMap.Ranges r entries') :
    (needsUpdate entries' (needsUpdate entries parents c generation now).1 c generation now').2 =
      false := by
  have hrenewal : Renewal c (statuses entries c generation now)
      (statuses entries' c generation now') := renewal_statuses hl hl'
  have hequal : routeStatusEqual
      (sortParents (needsUpdate entries parents c generation now).1)
      (needsUpdate entries' (needsUpdate entries parents c generation now).1 c generation
        now').1 = true := by
    rw [needsUpdate_again hl hl', sortParents_needsUpdate]
    refine (slicesEqual_iff parentStatusEqual_iff _ _).2 ?_
    rw [List.map_map]
    refine List.map_congr_left fun p hp => ?_
    rw [needsUpdate_fst, GoStd.mem_sliceStable] at hp
    exact (hrenewal.untimed_renew (fun q => controllerName_of_mem_others) hp).symm
  exact (Bool.not_eq_false' _).mpr hequal

/-- The same parent, with its conditions in some order. -/
def Reordered (p q : RouteParentStatus) : Prop :=
  q.parentRef = p.parentRef ∧ q.controllerName = p.controllerName ∧ q.conditions.Perm p.conditions

theorem reordered_sortConditions (p : RouteParentStatus) : Reordered p (sortConditions p) :=
  ⟨rfl, rfl, GoStd.perm_sliceStable _⟩

/-- The parents of other controllers are kept. -/
theorem others_reordered (entries : List (ParentReference × RouteStatus))
    (parents : List RouteParentStatus) (c : String) (generation : ℤ) (now : ℕ → Time) :
    ∃ kept, kept.Perm (filterParentStatuses parents c) ∧ List.Forall₂ Reordered kept
      (filterParentStatuses (needsUpdate entries parents c generation now).1 c) := by
  have hfilter : (others parents c).Perm
      ((filterParentStatuses parents c).map sortConditions) := by
    have hsort : (sortParents parents).Perm (parents.map sortConditions) :=
      GoStd.perm_sliceStable _
    have hperm := hsort.filter fun status => status.controllerName ≠ c
    rw [List.filter_map] at hperm
    exact hperm
  have hperm : (GoStd.sliceStable parentLess (others parents c)).Perm
      ((filterParentStatuses parents c).map sortConditions) :=
    (GoStd.perm_sliceStable _).trans hfilter
  have hreordered : List.Forall₂ (flip Reordered)
      ((filterParentStatuses parents c).map sortConditions) (filterParentStatuses parents c) := by
    rw [List.forall₂_map_left_iff, List.forall₂_same]
    exact fun p _ => reordered_sortConditions p
  obtain ⟨kept, hkept, hkeptPerm⟩ := List.perm_comp_forall₂ hperm hreordered
  rw [filterParentStatuses_needsUpdate]
  exact ⟨kept, hkeptPerm, hkept.flip⟩

/-- The conditions of the status of a reference, without their times. -/
def conditionsOf (r : RouteStatuses) (ref : ParentReference) (generation : ℤ) :
    Option (List Condition) :=
  (r.lookup ref).map fun s => (s.conditions generation fun _ => none).map Condition.untimed

theorem conditions_filter_statuses (hl : GoMap.Ranges r entries) (ref : ParentReference) :
    ((statuses entries c generation now).filter (·.parentRef = ref)).map (·.untimed.conditions) =
      (conditionsOf r ref generation).toList := by
  have huntimed := congrArg (List.filter (·.parentRef = ref))
    (map_untimed_statuses entries c generation now)
  rw [List.filter_map, List.filter_map] at huntimed
  have hconditions := congrArg (List.map (·.conditions)) huntimed
  rw [List.map_map, List.map_map] at hconditions
  refine hconditions.trans ?_
  have hentries : entries.filter (fun e => e.1 = ref) =
      ((r.lookup ref).map fun s => (ref, s)).toList := by
    cases hr : r.lookup ref with
    | some s => exact hl.filter_key hr
    | none =>
      refine List.filter_eq_nil_iff.2 fun e he href => ?_
      rw [decide_eq_true_eq] at href
      rw [← href, hl.mem_iff.1 he] at hr
      cases hr
  have hfilter : entries.filter ((fun p : RouteParentStatus => decide (p.parentRef = ref)) ∘
      fun e => (⟨e.1, c, e.2.conditions generation fun _ => none⟩ : RouteParentStatus).untimed) =
      ((r.lookup ref).map fun s => (ref, s)).toList := hentries
  rw [hfilter, conditionsOf]
  cases r.lookup ref <;> rfl

/-- The own parents of the merged status: each reference of the map once, with its conditions. -/
theorem own_conditions (hl : GoMap.Ranges r entries) (ref : ParentReference) :
    ((needsUpdate entries parents c generation now).1.filter
      fun p => p.controllerName = c ∧ p.parentRef = ref).map (·.untimed.conditions) =
      (conditionsOf r ref generation).toList := by
  have hfilter : (others parents c ++ statuses entries c generation now).filter
      (fun p => p.controllerName = c ∧ p.parentRef = ref) =
      (statuses entries c generation now).filter (·.parentRef = ref) := by
    rw [List.filter_append, List.filter_eq_nil_iff.2, List.nil_append]
    · refine List.filter_congr fun p hp => ?_
      simp [controllerName_of_mem_statuses hp]
    · intro p hp
      simp [controllerName_of_mem_others hp]
  have hperm : (((needsUpdate entries parents c generation now).1.filter
      fun p => p.controllerName = c ∧ p.parentRef = ref).map (·.untimed.conditions)).Perm
      (conditionsOf r ref generation).toList := by
    have hown : ((statuses entries c generation now).filter (·.parentRef = ref)).map
        (·.untimed.conditions) = (conditionsOf r ref generation).toList :=
      conditions_filter_statuses hl ref
    rw [needsUpdate_fst, GoStd.filter_sliceStable compares_parentLess, hfilter, ← hown]
    exact (GoStd.perm_sliceStable _).map _
  cases hconditions : conditionsOf r ref generation with
  | none =>
    rw [hconditions] at hperm
    exact hperm.eq_nil
  | some conditions =>
    rw [hconditions] at hperm
    exact List.perm_singleton.1 hperm

/-- **Publishing the statuses of a route settles.** The statuses of other controllers are kept up
to the order of their conditions, the own ones are those of the map, and a second call, in any
order and at any time, has nothing to write. -/
theorem needsUpdate_settles (r : RouteStatuses) (parents : List RouteParentStatus) (c : String)
    (generation : ℤ) (now now' : ℕ → Time)
    (entries entries' : List (ParentReference × RouteStatus)) (hl : GoMap.Ranges r entries)
    (hl' : GoMap.Ranges r entries') :
    (∃ kept, kept.Perm (parents.filter fun p => p.controllerName ≠ c) ∧
      List.Forall₂ Reordered kept ((needsUpdate entries parents c generation now).1.filter
        fun p => p.controllerName ≠ c)) ∧
    (∀ ref, ((needsUpdate entries parents c generation now).1.filter
        fun p => p.controllerName = c ∧ p.parentRef = ref).map (·.untimed.conditions) =
      (conditionsOf r ref generation).toList) ∧
    (needsUpdate entries' (needsUpdate entries parents c generation now).1 c generation now').2 =
      false :=
  ⟨others_reordered entries parents c generation now, own_conditions hl,
    needsUpdate_again_snd hl hl'⟩

namespace SamplePublished

def gatewayRef : ParentReference := { name := "gw" }

def boundRoute : RouteStatuses := (∅ : RouteStatuses).insert gatewayRef {}

/-- What another controller has published for the same parent. -/
def foreign : RouteParentStatus :=
  ⟨gatewayRef, "example.com/other", [⟨"Ready", .true_, 3, some "2022-10-01T12:00:00Z", "Ready", ""⟩,
    ⟨"Accepted", .true_, 3, some "2022-10-01T12:00:00Z", "Accepted", ""⟩]⟩

def controllerName : String := "hashicorp.com/consul-api-gateway-controller"

def morning : ℕ → Time := fun _ => some "2022-10-02T08:00:00Z"

def evening : ℕ → Time := fun _ => some "2022-10-02T20:00:00Z"

end SamplePublished

open SamplePublished

/-- A route with a parent that two controllers write to. -/
theorem sharedParent_settles :
    ((needsUpdate [(gatewayRef, {})] [foreign] controllerName 1 morning).1.filter fun p =>
        p.controllerName = controllerName ∧ p.parentRef = gatewayRef).length = 1 ∧
      (needsUpdate [(gatewayRef, {})]
        (needsUpdate [(gatewayRef, {})] [foreign] controllerName 1 morning).1 controllerName 1
        evening).2 = false := by
  have hl : GoMap.Ranges boundRoute [(gatewayRef, {})] := GoMap.ranges_singleton _ _
  obtain ⟨-, hown, hsettled⟩ := needsUpdate_settles boundRoute [foreign] controllerName 1
    morning evening _ _ hl hl
  have hlength := congrArg List.length (hown gatewayRef)
  rw [List.length_map] at hlength
  exact ⟨hlength, hsettled⟩

end RouteStatuses

end Reconciler
