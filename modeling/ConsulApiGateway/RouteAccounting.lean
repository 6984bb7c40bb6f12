/-
The outcomes of a route's validation.

Every backend of a route ends up as a resolved reference, filed under its rule, or
as one resolution error.  `IsOutcome` says which, by what the grants permit and what
the resolver answers.

* `isOutcome_of_resolveBackendRef` — the outcome of one backend;
* `validateRules_outcomes` — the outcomes of all backends of an HTTP route, and how
  they make up what the validation returns;
* `lookup_addAll` — the resolution errors of each type;
* `validate_accounts_for_every_backend` — the whole of it, for both types of routes.
-/
import ConsulApiGateway.RouteValidator

namespace Reconciler

open K8s

/-! ### Resolution errors -/

namespace ResolutionErrors

/-- The errors added one after the other. -/
def addAll (r : ResolutionErrors) (errors : List (ServiceResolutionErrorType × String)) :
    ResolutionErrors :=
  errors.foldl (fun r err => r.add err.1 err.2) r

/-- The errors of one type, in order. -/
def ofType (remote : ServiceResolutionErrorType)
    (errors : List (ServiceResolutionErrorType × String)) : List String :=
  (errors.filter (·.1 = remote)).map Prod.snd

theorem addAll_append (r : ResolutionErrors)
    (errors errors' : List (ServiceResolutionErrorType × String)) :
    r.addAll (errors ++ errors') = (r.addAll errors).addAll errors' :=
  List.foldl_append

/-- The errors of a type are those that there were and those that were added; a
type has an entry only if it has an error. -/
theorem lookup_addAll (r : ResolutionErrors)
    (errors : List (ServiceResolutionErrorType × String)) (remote : ServiceResolutionErrorType) :
    (r.addAll errors).lookup remote =
      if ofType remote errors = [] then r.lookup remote
      else some ((r.lookup remote).getD [] ++ ofType remote errors) := by
  induction errors generalizing r with
  | nil => simp [addAll, ofType]
  | cons err errors ih =>
    have hstep : r.addAll (err :: errors) = (r.add err.1 err.2).addAll errors := rfl
    rw [hstep, ih]
    by_cases htype : err.1 = remote
    · have hadd : (r.add err.1 err.2).lookup remote =
          some ((r.lookup remote).getD [] ++ [err.2]) := by
        rw [add, htype, Finmap.lookup_insert]
      have hof : ofType remote (err :: errors) = err.2 :: ofType remote errors := by
        simp [ofType, htype]
      rw [hadd, hof, if_neg (List.cons_ne_nil _ _)]
      by_cases hrest : ofType remote errors = []
      · rw [if_pos hrest, hrest]
      · rw [if_neg hrest, Option.getD_some, List.append_assoc, List.singleton_append]
    · have hadd : (r.add err.1 err.2).lookup remote = r.lookup remote := by
        rw [add, Finmap.lookup_insert_of_ne _ (Ne.symm htype)]
      have hof : ofType remote (err :: errors) = ofType remote errors := by
        simp [ofType, htype]
      rw [hadd, hof]

theorem addAll_eq_empty_iff {errors : List (ServiceResolutionErrorType × String)} :
    addAll ∅ errors = ∅ ↔ errors = [] := by
  constructor
  · intro h
    by_contra hne
    obtain ⟨err, hmem⟩ := List.exists_mem_of_ne_nil _ hne
    have hlook := lookup_addAll ∅ errors err.1
    have hof : ofType err.1 errors ≠ [] := by
      refine List.ne_nil_of_mem (List.mem_map_of_mem (List.mem_filter.mpr ⟨hmem, ?_⟩))
      exact decide_eq_true rfl
    rw [h, if_neg hof, Finmap.lookup_empty] at hlook
    cases hlook
  · rintro rfl
    rfl

end ResolutionErrors

namespace RouteValidator

open Validator (referenceAllowed getNamespacedName Permits permits_iff)

/-! ### One backend -/

/-- What becomes of a backend: a resolved reference or a resolution error. -/
abbrev Outcome (β : Type) := Except (ServiceResolutionErrorType × String) (ResolvedReference β)

def Outcome.error? {β : Type} : Outcome β → Option (ServiceResolutionErrorType × String)
  | .ok _ => none
  | .error err => some err

/-- The group and kind a backend names, by default a service. -/
def backendGroupKind (ref : BackendRef) : GroupKind := ⟨ref.group.getD "", ref.kind.getD "Service"⟩

/-- The route may name the backend: its namespace is unset or that of the route, or
a grant in that namespace permits it. -/
def Permitted (a : RouteAnswers) (i j : ℕ) (route : ObjectMeta) (ref : BackendRef) : Prop :=
  ref.namespace_ = none ∨ ∃ ns ∈ ref.namespace_, ns.val = route.namespace_ ∨
    ∃ grants grant, a.getReferenceGrantsInNamespace i j ns.val = .ok grants ∧ grant ∈ grants ∧
      Permits route.groupKind route.namespace_ (backendGroupKind ref) ref.name grant

def notPermittedMessage (route : ObjectMeta) (ref : BackendRef) : String :=
  "Cross-namespace routing not allowed without matching ReferencePolicy for Service \"" ++
    (getNamespacedName ref.name ref.namespace_ route.namespace_).toString ++ "\""

/-- The outcome of backend `j` of rule `i`; `value` is the backend as it is kept
with the reference. -/
inductive IsOutcome {β : Type} (a : RouteAnswers) (i j : ℕ) (route : ObjectMeta) (ref : BackendRef)
    (value : β) : Outcome β → Prop
  | resolved {reference : ResolvedReference Unit} (permitted : Permitted a i j route ref)
      (resolve : a.resolve i j route.namespace_ ref.toBackendObjectReference = .ok reference) :
      IsOutcome a i j route ref value (.ok (reference.set value))
  | unresolved {remote : ServiceResolutionErrorType} {inner : String}
      (permitted : Permitted a i j route ref)
      (resolve : a.resolve i j route.namespace_ ref.toBackendObjectReference =
        .error (.resolution remote inner)) :
      IsOutcome a i j route ref value (.error (remote, inner))
  | denied (permitted : ¬ Permitted a i j route ref) :
      IsOutcome a i j route ref value (.error (.refNotPermitted, notPermittedMessage route ref))

section Backend

variable {a : RouteAnswers} {i j : ℕ} {route : ObjectMeta} {ref : BackendRef} {β : Type} {value : β}

theorem routeAllowed_iff {allowed : Bool}
    (h : routeAllowedForBackendRef route ref (a.getReferenceGrantsInNamespace i j) = .ok allowed) :
    allowed = true ↔ Permitted a i j route ref := by
  unfold routeAllowedForBackendRef referenceAllowed at h
  unfold Permitted
  cases hns : ref.namespace_ with
  | none =>
    rw [hns] at h
    cases h
    exact iff_of_true rfl (.inl rfl)
  | some ns =>
    rw [hns, Option.map_some, Option.getD_some] at h
    have hname : ns.val ≠ "" := ns.property
    simp only [hname, false_or] at h
    simp only [reduceCtorEq, Option.mem_def, Option.some.injEq, exists_eq_left', false_or]
    split_ifs at h with hown
    · cases h
      exact iff_of_true rfl (.inl hown)
    · obtain ⟨grants, hgrants, rfl⟩ := GoStd.map_eq_ok h
      simp only [hown, false_or, hgrants, Except.ok.injEq, List.any_eq_true, permits_iff]
      constructor
      · rintro ⟨grant, hgrant, hpermits⟩
        exact ⟨grants, grant, rfl, hgrant, hpermits⟩
      · rintro ⟨_, grant, rfl, hgrant, hpermits⟩
        exact ⟨grant, hgrant, hpermits⟩

theorem isOutcome_of_resolveBackendRef {o : Outcome Unit}
    (h : resolveBackendRef a i j route ref = .ok o) :
    IsOutcome a i j route ref value (o.map (ResolvedReference.set value)) := by
  unfold resolveBackendRef at h
  split at h
  · cases h
  · rename_i hallowed
    cases h
    exact .denied fun hpermitted => Bool.false_ne_true ((routeAllowed_iff hallowed).mpr hpermitted)
  · rename_i hallowed
    have hpermitted := (routeAllowed_iff hallowed).mp rfl
    split at h
    · cases h
    · rename_i hresolve
      cases h
      exact .unresolved hpermitted hresolve
    · rename_i hresolve
      cases h
      exact .resolved hpermitted hresolve

/-- The backend is permitted and resolved exactly if the outcome is a reference. -/
theorem IsOutcome.error?_eq_none_iff {o : Outcome β} (h : IsOutcome a i j route ref value o) :
    o.error? = none ↔ Permitted a i j route ref ∧
      ∃ reference, a.resolve i j route.namespace_ ref.toBackendObjectReference = .ok reference := by
  cases h with
  | resolved hpermitted hresolve => exact iff_of_true rfl ⟨hpermitted, _, hresolve⟩
  | unresolved hpermitted hresolve =>
    refine iff_of_false (Option.some_ne_none _) ?_
    rintro ⟨-, reference, hok⟩
    cases hresolve.symm.trans hok
  | denied hdenied => exact iff_of_false (Option.some_ne_none _) fun hok => hdenied hok.1

end Backend

/-! ### What a validation returns -/

/-- The entry of a rule in the map of references: those of its backends that were
resolved, in order.  A rule without any has no entry. -/
def entryOf {ρ β : Type} (rule : ρ × List (Outcome β)) :
    Option (ρ × List (ResolvedReference β)) :=
  if (rule.2.filterMap Except.toOption).isEmpty then none
  else some (rule.1, rule.2.filterMap Except.toOption)

/-- The references and the errors are those of the outcomes of all backends. -/
structure Accounted {ρ β : Type} (state : Resolution ρ β)
    (rules : List (ρ × List (Outcome β))) : Prop where
  references : state.references = rules.filterMap entryOf
  resolutionErrors : ∀ remote, state.resolutionErrors.lookup remote =
    if ResolutionErrors.ofType remote ((rules.flatMap Prod.snd).filterMap Outcome.error?) = []
    then none
    else some
      (ResolutionErrors.ofType remote ((rules.flatMap Prod.snd).filterMap Outcome.error?))

/-- The outcomes of the backends of rule `i`. -/
def RuleOutcomes (a : RouteAnswers) (i : ℕ) (route : ObjectMeta) (rule : HTTPRouteRule)
    (outcomes : List (Outcome HTTPBackendRef)) : Prop :=
  List.Forall₂ (fun ref outcome => IsOutcome a i ref.2 route ref.1.toBackendRef ref.1 outcome)
    rule.backendRefs.zipIdx outcomes

section Loops

variable {a : RouteAnswers} {route : ObjectMeta} {errors errors' : ResolutionErrors}

theorem validateBackendRefs_outcomes {i j : ℕ} {refs : List HTTPBackendRef}
    {resolved : List (ResolvedReference HTTPBackendRef)}
    (h : validateBackendRefs a i route j refs errors = .ok (resolved, errors')) :
    ∃ outcomes : List (Outcome HTTPBackendRef),
      List.Forall₂ (fun ref outcome => IsOutcome a i ref.2 route ref.1.toBackendRef ref.1 outcome)
        (refs.zipIdx j) outcomes ∧
      resolved = outcomes.filterMap Except.toOption ∧
      errors' = errors.addAll (outcomes.filterMap Outcome.error?) := by
  induction refs generalizing j errors resolved with
  | nil =>
    cases h
    exact ⟨[], .nil, rfl, rfl⟩
  | cons ref refs ih =>
    rw [validateBackendRefs] at h
    obtain ⟨o, ho, h⟩ := GoStd.bind_eq_ok h
    have houtcome :
        IsOutcome a i j route ref.toBackendRef ref (o.map (ResolvedReference.set ref)) :=
      isOutcome_of_resolveBackendRef ho
    cases o with
    | error err =>
      obtain ⟨remote, inner⟩ := err
      obtain ⟨outcomes, houtcomes, hresolved, herrors⟩ := ih h
      exact ⟨.error (remote, inner) :: outcomes, .cons houtcome houtcomes, hresolved, herrors⟩
    | ok reference =>
      obtain ⟨⟨resolved', errors₁⟩, hrest, heq⟩ := GoStd.bind_eq_ok h
      cases heq
      obtain ⟨outcomes, houtcomes, rfl, herrors⟩ := ih hrest
      exact ⟨.ok (reference.set ref) :: outcomes, .cons houtcome houtcomes, rfl, herrors⟩

theorem validateRules_outcomes {i : ℕ} {rules : List HTTPRouteRule}
    {state : Resolution HTTPRouteRule HTTPBackendRef}
    (h : validateRules a route i rules errors = .ok state) :
    ∃ entries : List (HTTPRouteRule × List (Outcome HTTPBackendRef)),
      List.Forall₂ (fun rule entry => entry.1 = rule.1 ∧ RuleOutcomes a rule.2 route rule.1 entry.2)
        (rules.zipIdx i) entries ∧
      state.references = entries.filterMap entryOf ∧
      state.resolutionErrors =
        errors.addAll ((entries.flatMap Prod.snd).filterMap Outcome.error?) := by
  induction rules generalizing i errors state with
  | nil =>
    cases h
    exact ⟨[], .nil, rfl, rfl⟩
  | cons rule rules ih =>
    rw [validateRules] at h
    obtain ⟨⟨resolved, errors₁⟩, hrefs, h⟩ := GoStd.bind_eq_ok h
    obtain ⟨rest, hrest, h⟩ := GoStd.bind_eq_ok h
    cases h
    obtain ⟨outcomes, houtcomes, rfl, rfl⟩ := validateBackendRefs_outcomes hrefs
    obtain ⟨entries, hentries, hreferences, herrors⟩ := ih hrest
    refine ⟨(rule, outcomes) :: entries, .cons ⟨rfl, houtcomes⟩ hentries, ?_, ?_⟩
    · rw [List.filterMap_cons, entryOf]
      dsimp only
      split_ifs
      · exact hreferences
      · rw [hreferences]
    · -- a rule without a resolved backend is dropped, but its errors are not
      have hsame : (if (outcomes.filterMap Except.toOption).isEmpty then rest
          else { rest with references := (rule, outcomes.filterMap Except.toOption) ::
            rest.references }).resolutionErrors = rest.resolutionErrors := by
        split_ifs <;> rfl
      rw [hsame, herrors, List.flatMap_cons, List.filterMap_append, ResolutionErrors.addAll_append]

end Loops

theorem accounted_of_addAll {ρ β : Type} {state : Resolution ρ β}
    {rules : List (ρ × List (Outcome β))} (hreferences : state.references = rules.filterMap entryOf)
    (herrors : state.resolutionErrors =
      ResolutionErrors.addAll ∅ ((rules.flatMap Prod.snd).filterMap Outcome.error?)) :
    Accounted state rules where
  references := hreferences
  resolutionErrors remote := by
    rw [herrors, ResolutionErrors.lookup_addAll, Finmap.lookup_empty]
    rfl

/-- There is no resolution error exactly if no backend ended up as one. -/
theorem Accounted.resolutionErrors_eq_empty_iff {ρ β : Type} {state : Resolution ρ β}
    {rules : List (ρ × List (Outcome β))} (h : Accounted state rules) :
    state.resolutionErrors = ∅ ↔ ∀ rule ∈ rules, ∀ o ∈ rule.2, o.error? = none := by
  have herrors : state.resolutionErrors =
      ResolutionErrors.addAll ∅ ((rules.flatMap Prod.snd).filterMap Outcome.error?) := by
    refine Finmap.ext_lookup fun remote => ?_
    rw [h.resolutionErrors, ResolutionErrors.lookup_addAll, Finmap.lookup_empty]
    rfl
  rw [herrors, ResolutionErrors.addAll_eq_empty_iff, List.filterMap_eq_nil_iff,
    List.forall_mem_flatMap]

/-! ### The accounts -/

/-- The backend is permitted, and the resolver finds it. -/
def Resolves (a : RouteAnswers) (i j : ℕ) (route : ObjectMeta) (ref : BackendRef) : Prop :=
  Permitted a i j route ref ∧
    ∃ reference, a.resolve i j route.namespace_ ref.toBackendObjectReference = .ok reference

/-- The outcomes of the backends of every rule, rule by rule. -/
def RouteOutcomes (a : RouteAnswers) (route : HTTPRoute)
    (rules : List (HTTPRouteRule × List (Outcome HTTPBackendRef))) : Prop :=
  List.Forall₂ (fun rule entry => entry.1 = rule.1 ∧
    RuleOutcomes a rule.2 route.toObjectMeta rule.1 entry.2) route.rules.zipIdx rules

theorem RouteOutcomes.forall_error?_iff {a : RouteAnswers} {route : HTTPRoute}
    {rules : List (HTTPRouteRule × List (Outcome HTTPBackendRef))}
    (h : RouteOutcomes a route rules) :
    (∀ rule ∈ rules, ∀ o ∈ rule.2, o.error? = none) ↔
      ∀ (i : ℕ) rule, route.rules[i]? = some rule → ∀ (j : ℕ) ref, rule.backendRefs[j]? = some ref →
        Resolves a i j route.toObjectMeta ref.toBackendRef := by
  have hrule : ∀ (rule : HTTPRouteRule × ℕ) (entry : HTTPRouteRule × _), entry.1 = rule.1 ∧
      RuleOutcomes a rule.2 route.toObjectMeta rule.1 entry.2 →
      ((∀ (j : ℕ) ref, rule.1.backendRefs[j]? = some ref →
        Resolves a rule.2 j route.toObjectMeta ref.toBackendRef) ↔
        ∀ o ∈ entry.2, o.error? = none) := by
    rintro rule entry ⟨-, houtcomes⟩
    rw [← List.Forall₂.forall_mem_iff houtcomes fun ref o ho => ho.error?_eq_none_iff.symm,
      List.forall_zipIdx_iff]
    rfl
  rw [← List.Forall₂.forall_mem_iff h hrule, List.forall_zipIdx_iff]

theorem validateHTTPRoute_accounted {a : RouteAnswers} {route : HTTPRoute}
    {state : Resolution HTTPRouteRule HTTPBackendRef} (h : validateHTTPRoute a route = .ok state) :
    ∃ rules, RouteOutcomes a route rules ∧ Accounted state rules := by
  obtain ⟨rules, houtcomes, hreferences, herrors⟩ := validateRules_outcomes h
  exact ⟨rules, houtcomes, accounted_of_addAll hreferences herrors⟩

/-- The route has one rule with one backend, which is the one that is considered. -/
def SingleBackend (route : TCPRoute) (ref : BackendRef) : Prop := route.rules = [⟨[ref]⟩]

theorem validateTCPRoute_cases {a : RouteAnswers} {route : TCPRoute}
    {state : Resolution Unit BackendRef} (h : validateTCPRoute a route = .ok state) :
    (∃ ref o, SingleBackend route ref ∧ IsOutcome a 0 0 route.toObjectMeta ref ref o ∧
      Accounted state [((), [o])]) ∨
    ((∀ ref, ¬ SingleBackend route ref) ∧ state.references = [] ∧
      ∃ message, state.resolutionErrors = ResolutionErrors.add ∅ .generic message) := by
  unfold validateTCPRoute at h
  split at h
  · rename_i rule hrules
    split at h
    · rename_i ref hrefs
      have hsingle : SingleBackend route ref := by
        rw [SingleBackend, hrules, ← hrefs]
      obtain ⟨o, ho, rfl⟩ := GoStd.map_eq_ok h
      refine .inl ⟨ref, _, hsingle, isOutcome_of_resolveBackendRef ho, ?_⟩
      cases o with
      | error err => exact accounted_of_addAll rfl rfl
      | ok reference => exact accounted_of_addAll rfl rfl
    · rename_i hrefs
      cases h
      refine .inr ⟨fun ref hsingle => ?_, rfl, _, rfl⟩
      rw [SingleBackend, hrules] at hsingle
      cases hsingle
      exact hrefs ref rfl
  · rename_i hrules
    cases h
    exact .inr ⟨fun ref hsingle => hrules _ hsingle, rfl, _, rfl⟩

/-- **Every backend is accounted for.** If an HTTP route is validated, each backend
of each rule is filed as a reference or recorded as one error, and a backend that
is filed is permitted; there is no error exactly if every backend is permitted and
resolved.  A TCP route with one rule and one backend has one outcome in the same
way; any other one has a single error. -/
theorem validate_accounts_for_every_backend (a : RouteAnswers) :
    (∀ (route : HTTPRoute) (state : Resolution HTTPRouteRule HTTPBackendRef),
      validateHTTPRoute a route = .ok state →
      (∃ rules, RouteOutcomes a route rules ∧ Accounted state rules) ∧
      (state.resolutionErrors = ∅ ↔ ∀ (i : ℕ) rule, route.rules[i]? = some rule →
        ∀ (j : ℕ) ref, rule.backendRefs[j]? = some ref →
          Resolves a i j route.toObjectMeta ref.toBackendRef)) ∧
    ∀ (route : TCPRoute) (state : Resolution Unit BackendRef),
      validateTCPRoute a route = .ok state →
      ((∃ ref o, SingleBackend route ref ∧ IsOutcome a 0 0 route.toObjectMeta ref ref o ∧
          Accounted state [((), [o])]) ∨
        ((∀ ref, ¬ SingleBackend route ref) ∧ state.references = [] ∧
          ∃ message, state.resolutionErrors = ResolutionErrors.add ∅ .generic message)) ∧
      (state.resolutionErrors = ∅ ↔
        ∃ ref, SingleBackend route ref ∧ Resolves a 0 0 route.toObjectMeta ref) := by
  constructor
  · intro route state h
    obtain ⟨rules, houtcomes, haccounted⟩ := validateHTTPRoute_accounted h
    refine ⟨⟨rules, houtcomes, haccounted⟩, ?_⟩
    rw [haccounted.resolutionErrors_eq_empty_iff, houtcomes.forall_error?_iff]
  · intro route state h
    have hcases := validateTCPRoute_cases h
    refine ⟨hcases, ?_⟩
    rcases hcases with ⟨ref, o, hsingle, houtcome, haccounted⟩ | ⟨hnot, -, message, herrors⟩
    · have hempty : state.resolutionErrors = ∅ ↔ o.error? = none := by
        rw [haccounted.resolutionErrors_eq_empty_iff]
        simp
      rw [hempty, houtcome.error?_eq_none_iff]
      constructor
      · intro hresolves
        exact ⟨ref, hsingle, hresolves⟩
      · rintro ⟨ref', hsingle', hresolves⟩
        rw [SingleBackend, hsingle] at hsingle'
        cases hsingle'
        exact hresolves
    · -- without a single backend the generic error is recorded
      refine iff_of_false (fun hempty => ?_) fun hsome => ?_
      · have hadd : state.resolutionErrors = ResolutionErrors.addAll ∅ [(.generic, message)] :=
          herrors
        rw [hadd, ResolutionErrors.addAll_eq_empty_iff] at hempty
        cases hempty
      · obtain ⟨ref, hsingle, -⟩ := hsome
        exact hnot ref hsingle

namespace SampleBackends

/-- Routes of the namespace `default` may lead to the service `cache`. -/
def grant : ReferenceGrant :=
  ⟨[⟨groupName, "HTTPRoute", "default"⟩], [⟨"", "Service", some "cache"⟩]⟩

/-- The resolver finds every service under its name. -/
def answers : RouteAnswers where
  getReferenceGrantsInNamespace _ _ ns := .ok (if ns = "data" then [grant] else [])
  resolve _ _ _ ref := .ok (.consulService () ⟨"", ref.name⟩)

def web : HTTPBackendRef := { name := "web" }

/-- Two backends in another namespace; there is a grant for one of them. -/
def db : HTTPBackendRef := { name := "db", namespace_ := some ⟨"data", by decide⟩ }

def cache : HTTPBackendRef := { name := "cache", namespace_ := some ⟨"data", by decide⟩ }

def rule : HTTPRouteRule := { backendRefs := [web, db, cache] }

def route : HTTPRoute where
  namespace_ := "default"
  name := "route"
  groupKind := ⟨groupName, "HTTPRoute"⟩
  parentRefs := []
  rules := [rule]

/-- What the validation returns for it. -/
def state : Resolution HTTPRouteRule HTTPBackendRef where
  references :=
    [(rule, [.consulService web ⟨"", "web"⟩, .consulService cache ⟨"", "cache"⟩])]
  resolutionErrors := ResolutionErrors.add ∅ .refNotPermitted
    (notPermittedMessage route.toObjectMeta db.toBackendRef)

def tcpRoute : TCPRoute where
  namespace_ := "default"
  name := "route"
  groupKind := ⟨groupName, "TCPRoute"⟩
  parentRefs := []
  rules := [⟨[web.toBackendRef]⟩]

def tcpState : Resolution Unit BackendRef where
  references := [((), [.consulService web.toBackendRef ⟨"", "web"⟩])]

end SampleBackends

open SampleBackends

/-- Two backends of the sample's route are filed, and the one without a grant is an error. -/
theorem sampleRoute_accounted :
    validateHTTPRoute answers route = .ok state ∧
    (∃ rules, RouteOutcomes answers route rules ∧ Accounted state rules) ∧
    validateTCPRoute answers tcpRoute = .ok tcpState ∧
    ∃ ref, SingleBackend tcpRoute ref ∧ Resolves answers 0 0 tcpRoute.toObjectMeta ref :=
  ⟨rfl, ((validate_accounts_for_every_backend answers).1 route state rfl).1, rfl,
    ((validate_accounts_for_every_backend answers).2 tcpRoute tcpState rfl).2.mp rfl⟩

end RouteValidator

end Reconciler
