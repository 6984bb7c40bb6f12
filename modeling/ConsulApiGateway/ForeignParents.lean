/-
Routes with several parents.

`Bind` asks once whether some parent of the route names the gateway, and then
tries all parents, those that name other gateways among them.  On a listener the
last parent decides; in the statuses every parent is recorded.

* `bind_attaches_iff` — when a listener holds a route exactly if one of its
  parents names the gateway, concerns the listener and is admitted;
* `statuses_kept_iff` — when binding leaves the statuses of other parents alone.
-/
import ConsulApiGateway.Bindings
import ConsulApiGateway.BindStatuses

namespace Reconciler

open K8s

namespace Binder

open K8sRoute GatewayListener

variable {c : Client} {orders : Orders} {order : RangeOrder} {g g' : K8sGateway} {r r' : K8sRoute}
  {l : GatewayListener} {ls ls' : List GatewayListener} {ref p : ParentReference}
  {refs : List ParentReference} {i : ℕ} {modified : Bool}

/-! ### The listeners -/

/-- A parent of the route names the gateway and concerns the listener, which
admits the route. -/
def Earned (c : Client) (g : K8sGateway) (r : K8sRoute) (l : GatewayListener) : Prop :=
  ∃ ref ∈ r.parentRefs, references r g ref = true ∧ Concerns ref l ∧ Admits c g r l

/-- The last parent of a route that names the gateway concerns the listener. -/
def LastConcerns (g : K8sGateway) (r : K8sRoute) (l : GatewayListener) : Prop :=
  routeReferencesGateway r g = true ∧ ∃ last, r.parentRefs.getLast? = some last ∧ Concerns last l

theorem attaches_iff : Attaches c g r l ↔ LastConcerns g r l ∧ Admits c g r l := by
  unfold Attaches LastConcerns
  constructor
  · rintro ⟨href, last, hlast, hb⟩
    obtain ⟨hconcerns, hadmits⟩ := binds_iff.mp hb
    exact ⟨⟨href, last, hlast, hconcerns⟩, hadmits⟩
  · rintro ⟨⟨href, last, hlast, hconcerns⟩, hadmits⟩
    exact ⟨href, last, hlast, binds_iff.mpr ⟨hconcerns, hadmits⟩⟩

/-- What a listener holds after the route was bound. -/
theorem bind_listener (h : bind c orders g r = some (g', r', modified))
    (hl : g.gatewayState.listeners[i]? = some l) :
    ∃ l', g'.gatewayState.listeners[i]? = some l' ∧
      (r.id ∈ l'.state.routes ↔ LastConcerns g r l ∧ Admits c g r l) := by
  obtain ⟨ls, rfl, hall⟩ := (bind_rebinds h).gateway
  obtain ⟨l', hl', hatt⟩ := hall.getElem?_right hl
  exact ⟨l', hl', hatt.self.trans attaches_iff⟩

/-- **A listener holds what was earned exactly if the last parent speaks for all**:
it concerns the listener if and only if some parent that names the gateway does.
A listener that does not admit the route never holds it. -/
theorem bind_attaches_iff (h : bind c orders g r = some (g', r', modified))
    (hl : g.gatewayState.listeners[i]? = some l) :
    ∃ l', g'.gatewayState.listeners[i]? = some l' ∧
      ((r.id ∈ l'.state.routes ↔ Earned c g r l) ↔
        (Admits c g r l → (LastConcerns g r l ↔
          ∃ ref ∈ r.parentRefs, references r g ref = true ∧ Concerns ref l))) := by
  obtain ⟨l', hl', hself⟩ := bind_listener h hl
  refine ⟨l', hl', ?_⟩
  rw [hself]
  by_cases hadmits : Admits c g r l
  · simp only [Earned, hadmits, and_true, true_implies]
  · simp only [Earned, hadmits, and_false, exists_false, false_implies]

namespace SampleParents

open SampleCluster (client)

def listed : Orders := fun _ _ => .listed

def listener (name : String) : GatewayListener :=
  ⟨{ name := name, port := 80, protocol := .http }, { name := name, protocol := .http }⟩

def gateway : K8sGateway where
  gateway := { namespace_ := "web", name := "gateway", groupKind := ⟨groupName, "Gateway"⟩ }
  gatewayState := { listeners := [listener "one", listener "two"] }

def section_ (gatewayName name : String) : ParentReference :=
  { name := gatewayName, sectionName := some name }

/-- A route of the namespace of the gateway. -/
def routeTo (parentRefs : List ParentReference) : K8sRoute where
  object := { namespace_ := "web", name := "route", groupKind := ⟨groupName, "HTTPRoute"⟩ }
  parentRefs := parentRefs
  body := .http [] []

/-- The route is to be on the first listener. -/
def single : K8sRoute := routeTo [section_ "gateway" "one"]

/-- The route is to be on both listeners. -/
def both : K8sRoute := routeTo [section_ "gateway" "one", section_ "gateway" "two"]

/-- The route is to be on the second listener, and on one of another gateway that
has the name of the first. -/
def shared : K8sRoute := routeTo [section_ "gateway" "two", section_ "other" "one"]

theorem admits (parentRefs : List ParentReference) :
    Admits client gateway (routeTo parentRefs) (listener "one") := ⟨rfl, rfl, rfl, rfl, rfl⟩

end SampleParents

open SampleParents
open SampleCluster (client)

/-- **The last parent decides.** A route for both listeners is taken off the first
one when the second is tried; a route for the second listener is put on the first
one, which only the parent at another gateway names. -/
theorem lastParent_decides :
    (∃ g' r' modified l', bind client listed gateway both = some (g', r', modified) ∧
      g'.gatewayState.listeners[0]? = some l' ∧ both.id ∉ l'.state.routes ∧
      Earned client gateway both (listener "one")) ∧
    (∃ g' r' modified l', bind client listed gateway shared = some (g', r', modified) ∧
      g'.gatewayState.listeners[0]? = some l' ∧ shared.id ∈ l'.state.routes ∧
      ¬ Earned client gateway shared (listener "one")) := by
  have hone : gateway.gatewayState.listeners[0]? = some (listener "one") := rfl
  constructor
  · obtain ⟨⟨g', r', modified⟩, h⟩ : ∃ p, bind client listed gateway both = some p := ⟨_, rfl⟩
    obtain ⟨l', hl', hself⟩ := bind_listener h hone
    refine ⟨g', r', modified, l', h, hl', fun hmem => ?_, ?_⟩
    · obtain ⟨⟨-, last, hlast, hconcerns⟩, -⟩ := hself.mp hmem
      cases hlast
      simp [Concerns, section_, listener] at hconcerns
    · exact ⟨section_ "gateway" "one", List.mem_cons_self, rfl, .inr rfl, admits _⟩
  · obtain ⟨⟨g', r', modified⟩, h⟩ : ∃ p, bind client listed gateway shared = some p := ⟨_, rfl⟩
    obtain ⟨l', hl', hself⟩ := bind_listener h hone
    refine ⟨g', r', modified, l', h, hl', ?_, ?_⟩
    · exact hself.mpr ⟨⟨rfl, section_ "other" "one", rfl, .inr rfl⟩, admits _⟩
    · rintro ⟨ref, href, hnames, hconcerns, -⟩
      rcases List.mem_pair.mp href with rfl | rfl
      · simp [Concerns, section_, listener] at hconcerns
      · cases hnames

/-- A route with a single parent is on the listener that it names. -/
theorem bind_attaches_single :
    ∃ g' r' modified l', bind client listed gateway single = some (g', r', modified) ∧
      g'.gatewayState.listeners[0]? = some l' ∧
      (single.id ∈ l'.state.routes ↔ Earned client gateway single (listener "one")) := by
  obtain ⟨⟨g', r', modified⟩, h⟩ : ∃ p, bind client listed gateway single = some p := ⟨_, rfl⟩
  have hone : gateway.gatewayState.listeners[0]? = some (listener "one") := rfl
  obtain ⟨l', hl', hiff⟩ := bind_attaches_iff h hone
  refine ⟨g', r', modified, l', h, hl', hiff.mpr fun _ => iff_of_true ?_ ?_⟩
  · exact ⟨rfl, section_ "gateway" "one", rfl, .inr rfl⟩
  · exact ⟨section_ "gateway" "one", List.mem_cons_self, rfl, .inr rfl⟩

/-! ### The statuses -/

/-- The statuses of the routes differ at most at the parents of `P`. -/
def KeepsStatuses (P : ParentReference → Prop) (r r' : K8sRoute) : Prop :=
  ∀ p, ¬ P p → r'.routeState.parentStatuses.lookup p = r.routeState.parentStatuses.lookup p

theorem KeepsStatuses.refl (P : ParentReference → Prop) (r : K8sRoute) : KeepsStatuses P r r :=
  fun _ _ => rfl

theorem KeepsStatuses.trans {P : ParentReference → Prop} {r'' : K8sRoute}
    (h : KeepsStatuses P r r') (h' : KeepsStatuses P r' r'') : KeepsStatuses P r r'' :=
  fun p hp => (h' p hp).trans (h p hp)

theorem KeepsStatuses.mono {P Q : ParentReference → Prop} (h : KeepsStatuses P r r')
    (hPQ : ∀ p, P p → Q p) : KeepsStatuses Q r r' := fun p hp => h p fun hP => hp (hPQ p hP)

/-- A verdict is recorded at its own parent, unless it is a mere refusal. -/
theorem keepsStatuses_record (order : RangeOrder) (ref : ParentReference) (r : K8sRoute)
    (v : Verdict) :
    KeepsStatuses (fun p => p = ref ∧ v.recorded ≠ none) r (v.record order ref r) := by
  intro p hp
  cases v with
  | bound => exact Finmap.lookup_insert_of_ne _ fun h => hp ⟨h, by simp [Verdict.recorded]⟩
  | failed err => exact Finmap.lookup_insert_of_ne _ fun h => hp ⟨h, by simp [Verdict.recorded]⟩
  | refused => rfl

theorem bindListeners_keepsStatuses
    (h : bindListeners c orders g ref i ls r = some (ls', r', modified)) :
    KeepsStatuses (fun p => p = ref ∧ recorded c g.gateway.namespace_ r p ls ≠ none) r r' := by
  induction ls generalizing i r ls' r' modified with
  | nil =>
    cases h
    exact .refl _ r
  | cons l ls ih =>
    obtain ⟨l₁, r₁, m₁, ls₂, m₂, hl, hls, -, -⟩ := bindListeners_cons h
    obtain ⟨v, hv, rfl, -, -⟩ := bindListener_spec hl
    have hsame := (sameButStatuses_record (orders ref i) ref r v).sameBinding
    refine ((keepsStatuses_record (orders ref i) ref r v).mono ?_).trans ((ih hls).mono ?_)
    · rintro p ⟨rfl, hrec⟩
      refine ⟨rfl, fun hnone => hrec ?_⟩
      rw [recorded, hv, Option.or_eq_none_iff] at hnone
      exact hnone.2
    · -- the rest of the loop records what it would have recorded on the route as it was
      rintro p ⟨rfl, hrec⟩
      rw [recorded_congr _ hsame (sameListeners ls)] at hrec
      refine ⟨rfl, fun hnone => hrec ?_⟩
      rw [recorded, Option.or_eq_none_iff] at hnone
      exact hnone.1

theorem bindRefs_keepsStatuses (h : bindRefs c orders g refs ls r = some (ls', r', modified)) :
    KeepsStatuses (fun p => p ∈ refs ∧ recorded c g.gateway.namespace_ r p ls ≠ none) r r' := by
  induction refs generalizing ls r ls' r' modified with
  | nil =>
    cases h
    exact .refl _ r
  | cons ref refs ih =>
    obtain ⟨ls₁, r₁, m₁, m₂, hls, hrefs, -⟩ := bindRefs_cons h
    obtain ⟨hstatuses, hall, -⟩ := bindListeners_spec hls
    have hsame := hstatuses.sameBinding
    refine ((bindListeners_keepsStatuses hls).mono ?_).trans ((ih hrefs).mono ?_)
    · rintro p ⟨rfl, hrec⟩
      exact ⟨List.mem_cons_self, hrec⟩
    · rintro p ⟨hp, hrec⟩
      rw [recorded_congr _ hsame (hall.imp fun _ _ hatt => hatt.same)] at hrec
      exact ⟨List.mem_cons_of_mem _ hp, hrec⟩

/-- The parents of the route that name the gateway. -/
def NamedParent (g : K8sGateway) (r : K8sRoute) (p : ParentReference) : Prop :=
  p ∈ r.parentRefs ∧ references r g p = true

theorem unbind_keepsStatuses (g : K8sGateway) (r : K8sRoute) :
    KeepsStatuses (NamedParent g r) r (unbind g r).2.1 := by
  intro p hp
  refine (unbindListeners_lookup g g.gatewayState.listeners r p).2.2 ?_
  rintro ⟨-, hfind⟩
  exact hp ⟨List.mem_of_find?_eq_some hfind, List.find?_some hfind⟩

theorem bind_keepsStatuses (h : bind c orders g r = some (g', r', modified)) :
    KeepsStatuses (fun p => NamedParent g r p ∨ p ∈ r.parentRefs ∧ recordedBy c r p g ≠ none)
      r r' := by
  cases hr : routeReferencesGateway r g with
  | false =>
    have hr' : r' = (unbind g r).2.1 := by rw [bind_of_not_references hr h]
    rw [hr']
    exact (unbind_keepsStatuses g r).mono fun p hp => .inl hp
  | true =>
    obtain ⟨ls, hrefs, -⟩ := bind_of_references hr h
    refine (bindRefs_keepsStatuses hrefs).mono fun p hp => .inr ?_
    rwa [recordedBy, if_pos hr]

/-- What is recorded about a parent shows in the statuses, if the right entry was
there before. -/
theorem exists_status_changed {b : Bool} (hb : Bindable c g r) (hp : p ∈ r.parentRefs)
    (hrec : recordedBy c r p g = some b) (orders : Orders) :
    ∃ statuses g' r' modified, bind c orders g (r.setParentStatuses statuses) =
        some (g', r', modified) ∧
      r'.routeState.parentStatuses.lookup p ≠ statuses.lookup p := by
  -- a parent that is accepted now was not listed; one that failed was accepted
  let statuses : RouteStatuses := if b then ∅ else (∅ : RouteStatuses).insert p {}
  have hsame : r.SameBinding (r.setParentStatuses statuses) :=
    SameButStatuses.sameBinding ⟨statuses, rfl⟩
  have hbind : Bindable c g (r.setParentStatuses statuses) :=
    (bindable_congr hsame (sameListeners _)).mpr hb
  have hsome : (bind c orders g (r.setParentStatuses statuses)).isSome := bind_isSome_iff.mpr hbind
  obtain ⟨⟨g', r', modified⟩, h⟩ := Option.isSome_iff_exists.mp hsome
  refine ⟨statuses, g', r', modified, h, fun hlook => ?_⟩
  have hacc : r'.Accepted p ↔ b = true := by
    rw [bind_accepted h hp, recordedBy_congr hsame, hrec]
    rfl
  have hbefore : r'.Accepted p ↔ b = false := by
    rw [Accepted, hlook]
    cases b <;> simp [statuses, RouteAcceptedStatus.isTrue]
  cases b <;> simp_all

/-- **Binding keeps the statuses of the other parents exactly if no listener judges
them**, whatever the statuses are before.  Unbinding always keeps them. -/
theorem statuses_kept_iff (hb : Bindable c g r) (orders : Orders) :
    KeepsStatuses (NamedParent g r) r (unbind g r).2.1 ∧
    ((∀ statuses g' r' modified, bind c orders g (r.setParentStatuses statuses) =
        some (g', r', modified) →
          KeepsStatuses (NamedParent g r) (r.setParentStatuses statuses) r') ↔
      (routeReferencesGateway r g = true → ∀ p ∈ r.parentRefs, references r g p = false →
        ∀ l ∈ g.gatewayState.listeners, ¬ Judges c g r p l)) := by
  refine ⟨unbind_keepsStatuses g r, fun hkeeps hr p hp hforeign => ?_, fun hjudges => ?_⟩
  · refine (recordedBy_eq_none_iff hb hp).mp ?_ hr
    by_contra hrec
    obtain ⟨b, hrec⟩ := Option.ne_none_iff_exists'.mp hrec
    obtain ⟨statuses, g', r', modified, h, hne⟩ := exists_status_changed hb hp hrec orders
    refine hne (hkeeps statuses g' r' modified h p ?_)
    rintro ⟨-, hnamed⟩
    exact Bool.false_ne_true (hforeign.symm.trans hnamed)
  · intro statuses g' r' modified h
    have hsame : r.SameBinding (r.setParentStatuses statuses) :=
      SameButStatuses.sameBinding ⟨statuses, rfl⟩
    refine (bind_keepsStatuses h).mono ?_
    rintro p (hnamed | ⟨hp, hrec⟩)
    · exact hnamed
    · refine ⟨hp, ?_⟩
      rw [recordedBy_congr hsame] at hrec
      by_contra hforeign
      refine hrec ((recordedBy_eq_none_iff hb hp).mpr fun hr => ?_)
      exact hjudges hr p hp (Bool.eq_false_of_not_eq_true hforeign)

namespace SampleParents

open SampleCluster (client)

/-- The gateway with a first listener that takes no HTTP routes. -/
def tcpGateway : K8sGateway :=
  gateway.setListeners [⟨{ name := "one", port := 80, protocol := .tcp },
    { name := "one", protocol := .tcp }⟩, listener "two"]

/-- The route is to be on the first listener, and on one of another gateway that has
no namesake here. -/
def apart : K8sRoute := routeTo [section_ "gateway" "one", section_ "other" "three"]

/-- The route once the other gateway has accepted it. -/
def acceptedElsewhere : K8sRoute := shared.bound (section_ "other" "one")

end SampleParents

/-- **The parent at another gateway is recorded**: as accepted by the gateway it
does not name, and as refused although the one that it names has accepted it. -/
theorem otherGateway_recorded :
    references shared gateway (section_ "other" "one") = false ∧
    (∃ g' r' modified, bind client listed gateway shared = some (g', r', modified) ∧
      shared.routeState.parentStatuses.lookup (section_ "other" "one") = none ∧
      r'.routeState.parentStatuses.lookup (section_ "other" "one") = some {}) ∧
    (∃ g' r' modified, bind client listed tcpGateway acceptedElsewhere = some (g', r', modified) ∧
      acceptedElsewhere.routeState.parentStatuses.lookup (section_ "other" "one") = some {} ∧
      r'.routeState.parentStatuses.lookup (section_ "other" "one") =
        some { accepted.invalidRouteKind := some "route kind not allowed for listener" }) :=
  ⟨rfl, ⟨_, _, _, rfl, rfl, rfl⟩, ⟨_, _, _, rfl, rfl, rfl⟩⟩

/-- The parent at another gateway names a listener that this gateway does not have:
its status stays what it is, while the other parent of the route is bound. -/
theorem statuses_kept_apart :
    Bindable client gateway apart ∧
    references apart gateway (section_ "other" "three") = false ∧
    Judges client gateway apart (section_ "gateway" "one") (listener "one") ∧
    ∀ statuses g' r' modified,
      bind client listed gateway (apart.setParentStatuses statuses) = some (g', r', modified) →
        KeepsStatuses (NamedParent gateway apart) (apart.setParentStatuses statuses) r' := by
  have hsome : (bind client listed gateway apart).isSome := rfl
  have hb : Bindable client gateway apart := bind_isSome_iff.mp hsome
  refine ⟨hb, rfl, (admits _).judges (.inr rfl), ?_⟩
  refine (statuses_kept_iff hb listed).2.mpr fun _ p hp hforeign l hl hj => ?_
  rcases List.mem_pair.mp hp with rfl | rfl
  · cases hforeign
  · have hconcerns := hj.concerns
    rcases List.mem_pair.mp hl with rfl | rfl <;>
      simp [Concerns, section_, listener] at hconcerns

end Binder

end Reconciler
