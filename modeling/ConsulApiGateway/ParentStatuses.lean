/-
The statuses of the parents of a route.

Binding a route records in its status, for each of its parents, whether the
parent took it.  The store keeps these statuses next to the bindings, in another
object, and a gateway update only writes the routes it reports as modified.

* `Recordable` — the events along which the statuses stay right, in terms of the
  objects that are stored and of the one that arrives;
* `statusesRight_run` — along such events the statuses say what the bindings say;
* `gatewayUpdate_leaves_accepted` — a gateway update that detaches a route leaves
  it recorded as accepted.
-/
import ConsulApiGateway.GatewayDeletion

open Reconciler

namespace Store

open Binder K8s

variable {c : Client} {M : Marshaler} {s s' : Store} {v : Visit} {r : K8sRoute} {g : K8sGateway}
  {p : ParentReference}

/-! ### Many gateways against one route -/

/-- What the gateways record about a parent, the last of them deciding. -/
def recordedByAll (c : Client) (r : K8sRoute) (p : ParentReference) :
    List K8sGateway → Option Bool
  | [] => none
  | g :: gs => (recordedByAll c r p gs).or (recordedBy c r p g)

theorem recordedByAll_congr {r' : K8sRoute} (hr : r.SameBinding r') (gs : List K8sGateway) :
    recordedByAll c r' p gs = recordedByAll c r p gs := by
  induction gs with
  | nil => rfl
  | cons g gs ih => simp only [recordedByAll, ih, recordedBy_congr hr]

theorem bindGateways_accepted {gs : List K8sGateway} {gs' : List (K8sGateway × Bool)}
    {r' : K8sRoute} {m m' : Bool} {orders : Core.GatewayID → String → Orders}
    (h : bindOrUnbindAll (fun g r => Binder.bind c (orders g.id r.id) g r) gs [(r, m)] =
      some (gs', [(r', m')])) (hp : p ∈ r.parentRefs) :
    r'.Accepted p ↔ after (recordedByAll c r p gs) (r.Accepted p) := by
  induction gs generalizing r m gs' with
  | nil => cases h; rfl
  | cons g gs ih =>
    obtain ⟨g₁, m₁, rs₁, gs₂, hg, hrest, rfl⟩ := bindOrUnbindAll_cons h
    obtain ⟨g₂, r₂, m₂, m₃, rs₂, hr, hnil, rfl, rfl⟩ := bindGateway_cons hg
    cases hnil
    have hsame := (bind_rebinds hr).route
    rw [ih hrest (hsame.parentRefs ▸ hp), recordedByAll_congr hsame, bind_accepted hr hp,
      recordedByAll, after_or]

theorem recordedByAll_eq_some {gs : List K8sGateway} {b : Bool}
    (h : recordedByAll c r p gs = some b) : ∃ g ∈ gs, recordedBy c r p g = some b := by
  induction gs with
  | nil => cases h
  | cons g gs ih =>
    rcases Option.or_eq_some_iff.mp h with h | ⟨-, h⟩
    · obtain ⟨g', hg', hb⟩ := ih h
      exact ⟨g', List.mem_cons_of_mem _ hg', hb⟩
    · exact ⟨g, List.mem_cons_self, h⟩

theorem exists_recordedByAll {gs : List K8sGateway} {b : Bool} (hg : g ∈ gs)
    (h : recordedBy c r p g = some b) : ∃ b', recordedByAll c r p gs = some b' := by
  induction gs with
  | nil => cases hg
  | cons g' gs ih =>
    rw [recordedByAll]
    cases hrest : recordedByAll c r p gs with
    | some b' => exact ⟨b', rfl⟩
    | none =>
      rcases List.mem_cons.mp hg with rfl | hg
      · exact ⟨b, h⟩
      · obtain ⟨b', hb'⟩ := ih hg
        rw [hrest] at hb'
        cases hb'

/-! ### The law and the steps that keep it -/

/-- **The statuses are right**: a parent that names a stored gateway is recorded
as accepted exactly if it binds the route to one of its listeners. -/
def StatusesRight (c : Client) (s : Store) : Prop :=
  ∀ k r gid g p, s.routes.lookup k = some r → s.gateways.lookup gid = some g →
    p ∈ r.parentRefs → references r g p = true → (r.Accepted p ↔ BindsSome c g r p)

/-- The parent names the gateway, and a listener that it concerns admits the route. -/
def TakenBy (c : Client) (g : K8sGateway) (r : K8sRoute) (p : ParentReference) : Prop :=
  references r g p = true ∧ ∃ l ∈ g.gatewayState.listeners, Concerns p l ∧ Admits c g r l

/-- One of the gateways takes the parent. -/
def Taken (c : Client) (gateways : GoMap Core.GatewayID K8sGateway) (r : K8sRoute)
    (p : ParentReference) : Prop :=
  ∃ gid g, gateways.lookup gid = some g ∧ TakenBy c g r p

/-- The listeners of `h` speak with one voice: those that judge a parent of the route
admit the route if and only if the gateway that the parent names takes it. -/
def Unanimous (c : Client) (gateways : GoMap Core.GatewayID K8sGateway) (h : K8sGateway)
    (r : K8sRoute) : Prop :=
  routeReferencesGateway r h = true → ∀ p ∈ r.parentRefs, ∀ l ∈ h.gatewayState.listeners,
    Judges c h r p l → (Admits c h r l ↔ Taken c gateways r p)

/-- The gateway is one of the route's, and has a listener for it: the route is written
back when the gateway arrives.  The parent that brings it there need not name the
gateway. -/
def WritesBack (c : Client) (g : K8sGateway) (r : K8sRoute) : Prop :=
  routeReferencesGateway r g = true ∧
    ∃ ref ∈ r.parentRefs, ∃ l ∈ g.gatewayState.listeners, Concerns ref l ∧ Admits c g r l

/-- The steps along which the statuses stay right.  They are conditions on the objects
that are there and on the one that arrives; an event that is not acted upon meets
them. -/
def Recordable (c : Client) (M : Marshaler) (s : Store) (e : Event) : Prop :=
  match e.op with
  -- a route is new, and no listener speaks against the gateway that a parent names
  | .upsertRoute r cond => cond.any (fun f => !f (s.getRoute M r.id)) = false →
    r.routeState.parentStatuses = ∅ ∧
      ∀ gid h, s.gateways.lookup gid = some h → Unanimous c s.gateways h r
  | .upsertGateway g cond => cond.any (fun f => !f (s.getGateway g.id)) = false →
    (∀ gid g', s.gateways.lookup gid = some g' → g'.namespacedName = g.namespacedName →
      gid = g.id) ∧
    ∀ k r, s.routes.lookup k = some r →
      (WritesBack c g r → Unanimous c (s.gateways.insert g.id g) g r) ∧
      -- no parent is dropped, unless the route is written back and the parent judged
      ∀ p ∈ r.parentRefs, Taken c s.gateways r p → Taken c (s.gateways.insert g.id g) r p ∨
        WritesBack c g r ∧ ∃ l ∈ g.gatewayState.listeners, Judges c g r p l
  -- a parent that the gateway has taken is the first that names it, and the last parent
  -- has brought the route to the gateway as well
  | .deleteGateway id clearErr => clearErr = none →
    ∀ g k r p, s.gateways.lookup id = some g → s.routes.lookup k = some r → p ∈ r.parentRefs →
      TakenBy c g r p → r.parentRefs.find? (references r g) = some p ∧
        ∃ last, r.parentRefs.getLast? = some last ∧
          ∃ l ∈ g.gatewayState.listeners, Concerns last l ∧ Admits c g r l
  | .deleteRoute _ => True

/-- **The invariant**: the names of the gateways are distinct, and the parents recorded
as accepted are those that are taken, also among the parents of gateways that are not
there. -/
structure Recorded (c : Client) (s : Store) : Prop where
  names : ∀ {gid g gid' g'}, s.gateways.lookup gid = some g → s.gateways.lookup gid' = some g' →
    g'.namespacedName = g.namespacedName → gid' = gid
  accepted : ∀ {k r p}, s.routes.lookup k = some r → p ∈ r.parentRefs →
    (r.Accepted p ↔ Taken c s.gateways r p)

/-- A parent that names two gateways names gateways of one name. -/
theorem namespacedName_eq_of_references {g' : K8sGateway} (h : references r g p = true)
    (h' : references r g' p = true) : g'.namespacedName = g.namespacedName := by
  have h₁ := of_decide_eq_true h
  have h₂ := of_decide_eq_true h'
  exact Option.some.inj (h₂.symm.trans h₁)

theorem bindsSome_iff :
    BindsSome c g r p ↔ ∃ l ∈ g.gatewayState.listeners, Concerns p l ∧ Admits c g r l := by
  simp only [BindsSome, binds_iff]

theorem takenBy_iff : TakenBy c g r p ↔ references r g p = true ∧ BindsSome c g r p := by
  rw [TakenBy, bindsSome_iff]

theorem TakenBy.references_route (h : TakenBy c g r p) (hp : p ∈ r.parentRefs) :
    routeReferencesGateway r g = true := List.any_eq_true.mpr ⟨p, hp, h.1⟩

theorem writesBack_iff : WritesBack c g r ↔
    routeReferencesGateway r g = true ∧ ∃ ref ∈ r.parentRefs, BindsSome c g r ref := by
  simp only [WritesBack, bindsSome_iff]

theorem TakenBy.writesBack (h : TakenBy c g r p) (hp : p ∈ r.parentRefs) : WritesBack c g r :=
  ⟨h.references_route hp, p, hp, h.2⟩

/-- Where the names are distinct, the gateway that a parent names is the one that may
have taken it. -/
theorem Recorded.taken_iff {gid : Core.GatewayID} (hs : Recorded c s)
    (hg : s.gateways.lookup gid = some g) (href : references r g p = true) :
    Taken c s.gateways r p ↔ TakenBy c g r p := by
  refine ⟨?_, fun h => ⟨gid, g, hg, h⟩⟩
  rintro ⟨gid', g', hg', htaken⟩
  obtain rfl := hs.names hg hg' (namespacedName_eq_of_references href htaken.1)
  cases hg.symm.trans hg'
  exact htaken

theorem Recorded.statusesRight (hs : Recorded c s) : StatusesRight c s := by
  intro k r gid g p hr hg hp href
  rw [hs.accepted hr hp, hs.taken_iff hg href, takenBy_iff, and_iff_right href]

/-! ### Gateways that differ in their routes -/

/-- The gateways are the same but for the routes on their listeners. -/
def SameGateways (gateways gateways' : GoMap Core.GatewayID K8sGateway) : Prop :=
  ∀ gid, Option.Rel K8sGateway.SameGateway (gateways.lookup gid) (gateways'.lookup gid)

variable {gateways gateways' : GoMap Core.GatewayID K8sGateway}

theorem SameGateways.exists_left (h : SameGateways gateways gateways') {gid : Core.GatewayID}
    {g' : K8sGateway} (hg' : gateways'.lookup gid = some g') :
    ∃ g ls, gateways.lookup gid = some g ∧ g' = K8sGateway.setListeners g ls ∧
      List.Forall₂ GatewayListener.SameListener g.gatewayState.listeners ls := by
  have hgid := h gid
  rw [hg'] at hgid
  generalize gateways.lookup gid = o at hgid
  cases hgid with
  | some hsame =>
    obtain ⟨ls, heq, hls⟩ := hsame
    exact ⟨_, ls, rfl, heq, hls⟩

theorem SameGateways.exists_right (h : SameGateways gateways gateways') {gid : Core.GatewayID}
    (hg : gateways.lookup gid = some g) :
    ∃ ls, gateways'.lookup gid = some (g.setListeners ls) ∧
      List.Forall₂ GatewayListener.SameListener g.gatewayState.listeners ls := by
  have hgid := h gid
  rw [hg] at hgid
  generalize gateways'.lookup gid = o at hgid
  cases hgid with
  | some hsame =>
    obtain ⟨ls, rfl, hls⟩ := hsame
    exact ⟨ls, rfl, hls⟩

theorem takenBy_congr {r' : K8sRoute} {ls : List GatewayListener} (hr : r.SameBinding r')
    (hls : List.Forall₂ GatewayListener.SameListener g.gatewayState.listeners ls) :
    TakenBy c (g.setListeners ls) r' p ↔ TakenBy c g r p := by
  rw [takenBy_iff, takenBy_iff, bindsSome_congr hr hls]
  have href : references r' (g.setListeners ls) p = references r g p :=
    references_congr (g := g) hr
  rw [href]

theorem taken_congr {r' : K8sRoute} (hr : r.SameBinding r')
    (h : SameGateways gateways gateways') : Taken c gateways' r' p ↔ Taken c gateways r p := by
  constructor
  · rintro ⟨gid, g', hg', htaken⟩
    obtain ⟨g, ls, hg, rfl, hls⟩ := h.exists_left hg'
    exact ⟨gid, g, hg, (takenBy_congr hr hls).mp htaken⟩
  · rintro ⟨gid, g, hg, htaken⟩
    obtain ⟨ls, hg', hls⟩ := h.exists_right hg
    exact ⟨gid, _, hg', (takenBy_congr hr hls).mpr htaken⟩

theorem sameGateways_refl (gateways : GoMap Core.GatewayID K8sGateway) :
    SameGateways gateways gateways := fun gid => by
  cases gateways.lookup gid with
  | none => exact .none
  | some g => exact .some ⟨_, rfl, GatewayListener.sameListeners _⟩

/-- Gateways that differ in their routes only have the same names. -/
theorem Recorded.names_of_sameGateways (hs : Recorded c s)
    (h : SameGateways s.gateways s'.gateways) {gid gid' : Core.GatewayID} {g g' : K8sGateway}
    (hg : s'.gateways.lookup gid = some g) (hg' : s'.gateways.lookup gid' = some g')
    (hname : g'.namespacedName = g.namespacedName) : gid' = gid := by
  obtain ⟨g₀, ls, hg₀, rfl, -⟩ := h.exists_left hg
  obtain ⟨g₀', ls', hg₀', rfl, -⟩ := h.exists_left hg'
  exact hs.names hg₀ hg₀' hname

/-! ### The operations -/

/-- A parent that its gateway takes is recorded there. -/
theorem recordedBy_of_takenBy (hp : p ∈ r.parentRefs) (h : TakenBy c g r p) :
    recordedBy c r p g ≠ none := by
  obtain ⟨l, hl, hconcerns, hadmits⟩ := h.2
  rw [recordedBy, if_pos (h.references_route hp)]
  obtain ⟨b, hb⟩ := recorded_of_binds hl (binds_iff.mpr ⟨hconcerns, hadmits⟩)
  simp [hb]

/-- What listeners of one voice record is whether the parent is taken. -/
theorem Unanimous.recordedBy_iff {b : Bool} (h : Unanimous c gateways g r)
    (hp : p ∈ r.parentRefs) (hrec : recordedBy c r p g = some b) :
    b = true ↔ Taken c gateways r p := by
  obtain ⟨href, l, hl, hj, hb⟩ := recordedBy_eq_some hrec
  rw [hb]
  exact h href p hp l hl hj

theorem recorded_upsertRoute {cond : Option (Option K8sRoute → Bool)} (hb : Bound c s)
    (hs : Recorded c s) (hv : v.Of s) (h : upsertRoute c M v s r cond = some s')
    (hrec : Recordable c M s ⟨.upsertRoute r cond, v⟩) : Recorded c s' := by
  rcases upsertRoute_cases h with ⟨-, rfl⟩ | ⟨hcond, gs', r', m, hbind, hstatuses, hgs, hrs⟩
  · exact hs
  obtain ⟨hempty, hvoices⟩ := hrec hcond
  have hsame := hstatuses.sameBinding
  have hgateways : SameGateways s.gateways s'.gateways :=
    hgs ▸ bindGateways_same (isBinder_bind c v.orders) hb.toKeyed hv hbind
  refine ⟨hs.names_of_sameGateways hgateways, fun {k r₁ p} hr₁ hp => ?_⟩
  rw [hrs, GoMap.lookup_insert_ite] at hr₁
  split at hr₁
  · cases hr₁
    have hp' : p ∈ r.parentRefs := hsame.parentRefs ▸ hp
    have hnot : ¬ r.Accepted p := by
      rintro ⟨status, hlook, -⟩
      rw [hempty] at hlook
      simp at hlook
    rw [taken_congr hsame hgateways, bindGateways_accepted hbind hp']
    -- what was recorded last came from a gateway of one voice
    cases hlast : recordedByAll c r p (listGateways v) with
    | some b =>
      obtain ⟨h', hh', hb'⟩ := recordedByAll_eq_some hlast
      obtain ⟨⟨gid', h''⟩, hmem, rfl⟩ := List.mem_map.mp hh'
      exact (hvoices gid' _ (hv.gateways.mem_iff.mp hmem)).recordedBy_iff hp' hb'
    | none =>
      refine iff_of_false hnot ?_
      rintro ⟨gid, g, hg, htaken⟩
      obtain ⟨b, hb'⟩ := Option.ne_none_iff_exists'.mp (recordedBy_of_takenBy hp' htaken)
      have hmem : g ∈ listGateways v := List.mem_map.mpr ⟨_, hv.gateways.mem_iff.mpr hg, rfl⟩
      obtain ⟨b', hb''⟩ := exists_recordedByAll hmem hb'
      cases hlast.symm.trans hb''
  · rw [taken_congr (.refl r₁) hgateways]
    exact hs.accepted hr₁ hp

/-- What a route that comes back from one gateway has recorded. -/
theorem accepted_bindRoutes {k : String} {ls : List GatewayListener} {m : Bool}
    {rs' : List (K8sRoute × Bool)} (hs : s.Keyed) (hv : v.Of s)
    (hg : ∀ l ∈ g.gatewayState.listeners, l.state.routes = ∅)
    (h : bindAll c v [g] (listRoutes M v) = some ([(g.setListeners ls, m)], rs'))
    (hr : s.routes.lookup k = some r) :
    ∃ r', (GoMap.writeBack K8sRoute.id s.routes rs').lookup k = some r' ∧ r.SameBinding r' ∧
      ((∀ p ∈ r.parentRefs, r'.Accepted p ↔ r.Accepted p) ∧
          (routeReferencesGateway r g = true → ∀ p ∈ r.parentRefs, ¬ BindsSome c g r p) ∨
        (∃ ref ∈ r.parentRefs, BindsSome c g r ref) ∧
          ∀ p ∈ r.parentRefs, r'.Accepted p ↔ after (recordedBy c r p g) (r.Accepted p)) := by
  have hf := isBinder_bind c v.orders
  obtain ⟨ids, g₁, g₂, r₁, m₁, hid, ⟨ls₁, rfl, hls₁⟩, hbind, hlook⟩ :=
    (bindRoutes_routes hf hs hv h k).1 r hr
  have hsame := M.sameBinding r
  have hls₁' := hls₁.imp fun _ _ hl => hl.1
  have hrec : ∀ p, recordedBy c (M.reloadRoute r) p (g.setListeners ls₁) = recordedBy c r p g :=
    fun p => (recordedBy_setListeners hls₁').trans (recordedBy_congr hsame)
  have hacc : ∀ p ∈ r.parentRefs,
      (r₁.Accepted p ↔ after (recordedBy c r p g) (r.Accepted p)) := by
    intro p hp
    rw [bind_accepted hbind (hsame.parentRefs.symm ▸ hp), hrec, K8sRoute.accepted_reload]
  have hbs : ∀ p, BindsSome c (g.setListeners ls₁) (M.reloadRoute r) p ↔ BindsSome c g r p :=
    fun p => bindsSome_congr hsame hls₁'
  have hrr : routeReferencesGateway (M.reloadRoute r) (g.setListeners ls₁) =
      routeReferencesGateway r g := routeReferencesGateway_congr (g := g) hsame
  refine ⟨_, hlook, ?_, ?_⟩
  · cases m₁ with
    | true => exact hsame.trans (hf.rebinds hbind).route
    | false => exact .refl r
  cases hrg : routeReferencesGateway r g with
  | false =>
    -- the gateway is none of the route's: nothing is recorded
    refine .inl ⟨fun p hp => ?_, fun h => by cases h⟩
    cases m₁ with
    | true =>
      rw [if_pos rfl, hacc p hp, recordedBy, hrg]
      rfl
    | false => rfl
  | true =>
    rw [hrg] at hrr
    cases m₁ with
    | false =>
      refine .inl ⟨fun p _ => Iff.rfl, fun _ p hp hb => ?_⟩
      obtain ⟨l, hl, hb⟩ := (hbs p).mpr hb
      exact bind_unbound hbind hrr p (hsame.parentRefs.symm ▸ hp) l hl hb
    | true =>
      refine .inr ⟨?_, hacc⟩
      by_contra hno
      refine absurd (bind_of_unbound hbind hrr ?_ ?_) (by simp)
      · intro ref href l hl hb
        exact hno ⟨ref, hsame.parentRefs ▸ href, (hbs ref).mp ⟨l, hl, hb⟩⟩
      · intro l' hl'
        obtain ⟨l, hl, -, hk⟩ := hls₁.exists_left hl'
        rw [hsame.id_eq, hs.routes hr, ← Finmap.lookup_isSome, hk k hid, hg l hl]
        simp

theorem sameGateways_insert {ls : List GatewayListener}
    (hls : List.Forall₂ GatewayListener.SameListener g.gatewayState.listeners ls) :
    SameGateways (gateways.insert g.id g) (gateways.insert g.id (g.setListeners ls)) := by
  intro gid
  rw [GoMap.lookup_insert_ite, GoMap.lookup_insert_ite]
  split
  · exact .some ⟨ls, rfl, hls⟩
  · exact sameGateways_refl gateways gid

/-- What an arriving gateway does not take was taken by another one. -/
theorem Taken.of_insert (h : Taken c (gateways.insert g.id g) r p) (hnot : ¬ TakenBy c g r p) :
    Taken c gateways r p := by
  obtain ⟨gid, g', hg', htaken⟩ := h
  rw [GoMap.lookup_insert_ite] at hg'
  split at hg'
  · cases hg'
    exact absurd htaken hnot
  · exact ⟨gid, g', hg', htaken⟩

theorem recorded_upsertGateway {cond : Option (Option K8sGateway → Bool)} (hb : Bound c s)
    (hs : Recorded c s) (hv : v.Of s) (hg : ∀ l ∈ g.gatewayState.listeners, l.state.routes = ∅)
    (h : upsertGateway c M v s g cond = some s')
    (hrec : Recordable c M s ⟨.upsertGateway g cond, v⟩) : Recorded c s' := by
  have hb' : Bound c s' := bound_upsertGateway hb hv hg h
  rcases upsertGateway_cases hb.toKeyed hv h with
    ⟨-, rfl⟩ | ⟨hcond, ls, m, rs', hbind, hgs, hrs, hall⟩
  · exact hs
  obtain ⟨hname, hroutes⟩ := hrec hcond
  have hls : List.Forall₂ GatewayListener.SameListener g.gatewayState.listeners ls :=
    hall.imp fun _ _ hl => hl.1
  have hgateways : SameGateways (s.gateways.insert g.id g) s'.gateways := by
    rw [hgs]
    exact sameGateways_insert hls
  refine ⟨fun {gid g₁ gid' g₁'} hg₁ hg₁' heq => ?_, fun {k r' p} hr' hp => ?_⟩
  · obtain ⟨g₂, ls₂, hg₂, rfl, -⟩ := hgateways.exists_left hg₁
    obtain ⟨g₂', ls₂', hg₂', rfl, -⟩ := hgateways.exists_left hg₁'
    rw [GoMap.lookup_insert_ite] at hg₂ hg₂'
    split at hg₂ <;> split at hg₂'
    · next h₁ h₂ => rw [h₁, h₂]
    · next h₁ h₂ => cases hg₂; exact absurd (hname _ _ hg₂' heq) h₂
    · next h₁ h₂ => cases hg₂'; exact absurd (hname _ _ hg₂ heq.symm) h₁
    · exact hs.names hg₂ hg₂' heq
  obtain ⟨r, hr, hsame⟩ :=
    (sameRoutes_bindRoutes (isBinder_bind c v.orders) hb.toKeyed hv hbind hrs).of_some hr'
  obtain ⟨r'', hlook, -, hcases⟩ := accepted_bindRoutes hb.toKeyed hv hg hbind hr
  cases (hrs ▸ hlook).symm.trans hr'
  obtain ⟨hvoice, hkept⟩ := hroutes k r hr
  have hp₀ : p ∈ r.parentRefs := hsame.parentRefs ▸ hp
  rw [taken_congr hsame hgateways]
  have hsome : Bindable c g r := by
    have hlook' : s'.gateways.lookup g.id = some (g.setListeners ls) := by
      rw [hgs, Finmap.lookup_insert]
    exact (bindable_congr hsame hls).mp ((hb'.boundTo hlook').bindable hr')
  -- a status that is left alone was right before, and the parent is taken as before
  have hleft : (WritesBack c g r → recordedBy c r p g = none) →
      (r.Accepted p ↔ Taken c (s.gateways.insert g.id g) r p) := by
    intro hnone
    rw [hs.accepted hr hp₀]
    constructor
    · intro htaken
      rcases hkept p hp₀ htaken with h | ⟨hwrites, l, hl, hj⟩
      · exact h
      · exact absurd hj ((recordedBy_eq_none_iff hsome hp₀).mp (hnone hwrites) hwrites.1 l hl)
    · intro htaken
      refine htaken.of_insert fun hby => ?_
      exact recordedBy_of_takenBy hp₀ hby (hnone (hby.writesBack hp₀))
  rcases hcases with ⟨hsameAcc, hunbound⟩ | ⟨hbound, hacc⟩
  · rw [hsameAcc p hp₀]
    refine hleft fun hwrites => ?_
    obtain ⟨href, ref, hmem, hbinds⟩ := writesBack_iff.mp hwrites
    exact absurd hbinds (hunbound href ref hmem)
  · rw [hacc p hp₀]
    cases hrecorded : recordedBy c r p g with
    | some b =>
      have hwrites : WritesBack c g r :=
        writesBack_iff.mpr ⟨(recordedBy_eq_some hrecorded).1, hbound⟩
      exact (hvoice hwrites).recordedBy_iff hp₀ hrecorded
    | none => exact hleft fun _ => hrecorded

/-- The parent that the deleted gateway has taken loses its status. -/
theorem removed_of_takenBy {gid : Core.GatewayID} {k : String} (hb : Bound c s)
    (hg : s.gateways.lookup gid = some g) (hr : s.routes.lookup k = some r)
    (hp : p ∈ r.parentRefs) (htaken : TakenBy c g r p)
    (hfirst : r.parentRefs.find? (references r g) = some p)
    (hlast : ∃ last, r.parentRefs.getLast? = some last ∧
      ∃ l ∈ g.gatewayState.listeners, Concerns last l ∧ Admits c g r l) : Removed r g p := by
  obtain ⟨last, hlast, l, hl, hconcerns, hadmits⟩ := hlast
  refine ⟨⟨l, hl, ?_⟩, hfirst⟩
  rw [hb.routes hr, (hb.boundTo hg).routes_iff hl]
  exact ⟨r, hr, htaken.references_route hp, last, hlast, binds_iff.mpr ⟨hconcerns, hadmits⟩⟩

theorem recorded_deleteGateway {id : Core.GatewayID} {clearErr : Err} (hb : Bound c s)
    (hs : Recorded c s) (hv : v.Of s) (h : deleteGateway M v s id clearErr = some s')
    (hrec : Recordable c M s ⟨.deleteGateway id clearErr, v⟩) : Recorded c s' := by
  rcases deleteGateway_cases h with ⟨-, rfl⟩ | ⟨rfl, g, gs', rs', hg, hbind, hgs, -⟩
  · exact hs
  have hstored : ∀ {gid g₁}, s'.gateways.lookup gid = some g₁ ↔
      gid ≠ id ∧ s.gateways.lookup gid = some g₁ := by
    intro gid g₁
    rw [hgs, GoMap.lookup_erase_ite]
    split <;> simp_all
  refine ⟨fun hg₁ hg₁' heq => hs.names (hstored.mp hg₁).2 (hstored.mp hg₁').2 heq,
    fun {k r' p} hr' hp => ?_⟩
  obtain ⟨r, hr, -⟩ := (sameRoutes_deleteGateway hb.toKeyed hv h).of_some hr'
  obtain ⟨r'', hlook, hsame, hstatus⟩ := deleteGateway_statuses hb.toKeyed hv hg h hr
  cases hlook.symm.trans hr'
  have hp₀ : p ∈ r.parentRefs := hsame.parentRefs ▸ hp
  obtain ⟨hremoved, hkept⟩ := hstatus p
  rw [taken_congr hsame (sameGateways_refl _)]
  by_cases hnames : references r g p = true
  · -- no other gateway has the name, so that nothing takes the parent any more
    have hgone : ¬ Taken c s'.gateways r p := by
      rintro ⟨gid, g₁, hg₁, hby⟩
      obtain ⟨hne, hg₁⟩ := hstored.mp hg₁
      exact hne (hs.names hg hg₁ (namespacedName_eq_of_references hnames hby.1))
    refine iff_of_false ?_ hgone
    by_cases hby : TakenBy c g r p
    · obtain ⟨hfirst, hlast⟩ := hrec rfl g k r p hg hr hp₀ hby
      rintro ⟨status, hlook, -⟩
      rw [hremoved (removed_of_takenBy hb hg hr hp₀ hby hfirst hlast)] at hlook
      cases hlook
    · have hnot : ¬ r.Accepted p := by
        rw [hs.accepted hr hp₀, hs.taken_iff hg hnames]
        exact hby
      rintro ⟨status, hlook, htrue⟩
      by_cases hrem : Removed r g p
      · rw [hremoved hrem] at hlook
        cases hlook
      · exact hnot ⟨status, (hkept hrem).symm.trans hlook, htrue⟩
  · have hrem : ¬ Removed r g p := fun h => hnames (List.find?_some h.2)
    rw [K8sRoute.Accepted, hkept hrem]
    refine (hs.accepted hr hp₀).trans ⟨?_, ?_⟩
    · rintro ⟨gid, g₁, hg₁, hby⟩
      refine ⟨gid, g₁, hstored.mpr ⟨?_, hg₁⟩, hby⟩
      rintro rfl
      cases hg.symm.trans hg₁
      exact hnames hby.1
    · rintro ⟨gid, g₁, hg₁, hby⟩
      exact ⟨gid, g₁, (hstored.mp hg₁).2, hby⟩

theorem recorded_deleteRoute {id : String} (hb : Bound c s) (hs : Recorded c s) (hv : v.Of s)
    (h : deleteRoute M v s id = some s') : Recorded c s' := by
  rcases deleteRoute_cases h with rfl | ⟨r, gs', rs', -, hbind, hgs, hrs⟩
  · exact hs
  have hgateways : SameGateways s.gateways s'.gateways :=
    hgs ▸ bindGateways_same isBinder_unbind hb.toKeyed hv hbind
  refine ⟨hs.names_of_sameGateways hgateways, fun {k r₁ p} hr₁ hp => ?_⟩
  rw [hrs, GoMap.lookup_erase_ite] at hr₁
  split at hr₁
  · cases hr₁
  · rw [taken_congr (.refl r₁) hgateways]
    exact hs.accepted hr₁ hp

theorem recorded_step {e : Event} (hb : Bound c s) (hs : Recorded c s)
    (hrec : Recordable c M s e) (h : Step c M s e s') : Recorded c s' := by
  obtain ⟨hv, harr, hexec⟩ := h
  obtain ⟨op, v⟩ := e
  cases op with
  | upsertGateway g cond => exact recorded_upsertGateway hb hs hv harr hexec hrec
  | deleteGateway id clearErr => exact recorded_deleteGateway hb hs hv hexec hrec
  | upsertRoute r cond => exact recorded_upsertRoute hb hs hv hexec hrec
  | deleteRoute id => exact recorded_deleteRoute hb hs hv hexec

theorem recorded_new : Recorded c Store.new where
  names h := by simp [Store.new] at h
  accepted h := by simp [Store.new] at h

namespace Sample

open SampleCluster (client)

/-- The gateway of the sample after its listener has become a TCP listener. -/
def tcpGateway : K8sGateway where
  gateway := gateway.gateway
  gatewayState :=
    { listeners := [⟨{ name := "http", port := 80, protocol := .tcp },
        { name := "http", protocol := .tcp }⟩] }

def gatewayChanges : Event :=
  ⟨.upsertGateway tcpGateway none,
    ⟨[(gateway.id, servingGateway)], [(route.id, route.bound parentRef)], orders⟩⟩

/-- The route is stored as it was. -/
def withChange : Store := ⟨withRoute.gateways.insert gateway.id tcpGateway, withRoute.routes⟩

theorem gatewayChanges_step : Step client marshaler withRoute gatewayChanges withChange :=
  ⟨⟨GoMap.ranges_singleton _ _, GoMap.ranges_singleton _ _⟩,
    by simp [Op.Arrives, gatewayChanges, tcpGateway], rfl⟩

theorem not_bindsSome_tcpGateway :
    ¬ BindsSome client tcpGateway (route.bound parentRef) parentRef := by
  rintro ⟨l, hl, hb⟩
  rw [List.mem_singleton.mp hl] at hb
  cases hb

end Sample

/-- A gateway is of one voice if the parents concern listeners of their own gateways
only, one listener each. -/
theorem unanimous_of_apart {gid : Core.GatewayID} (hg : gateways.lookup gid = some g)
    (hnames : ∀ gid' g', gateways.lookup gid' = some g' → g'.namespacedName = g.namespacedName →
      gid' = gid)
    (hapart : ∀ p ∈ r.parentRefs, ∀ l ∈ g.gatewayState.listeners, Concerns p l →
      references r g p = true ∧ ∀ l' ∈ g.gatewayState.listeners, Concerns p l' → l' = l) :
    Unanimous c gateways g r := by
  intro _ p hp l hl hj
  obtain ⟨href, hone⟩ := hapart p hp l hl hj.concerns
  constructor
  · exact fun hadmits => ⟨gid, g, hg, href, l, hl, hj.concerns, hadmits⟩
  · rintro ⟨gid', g', hg', href', l', hl', hconcerns, hadmits⟩
    obtain rfl := hnames gid' g' hg' (namespacedName_eq_of_references href href')
    cases hg.symm.trans hg'
    exact hone l' hl' hconcerns ▸ hadmits

namespace SampleStatuses

open SampleCluster (client)
open Sample (marshaler orders)

/-- A gateway of the namespace `web` with one listener. -/
def gatewayOf (name listener : String) (protocol : ProtocolType) : K8sGateway where
  gateway := { namespace_ := "web", name := name, groupKind := ⟨groupName, "Gateway"⟩ }
  gatewayState :=
    { listeners := [⟨{ name := listener, port := 80, protocol := protocol },
        { name := listener, protocol := protocol }⟩] }

def one : K8sGateway := gatewayOf "one" "a" .http

/-- The second gateway takes no HTTP routes at first. -/
def two : K8sGateway := gatewayOf "two" "b" .tcp

def twoHTTP : K8sGateway := gatewayOf "two" "b" .http

def parentOne : ParentReference := { name := "one", sectionName := some "a" }

def parentTwo : ParentReference := { name := "two", sectionName := some "b" }

def route : K8sRoute where
  object := { namespace_ := "web", name := "route", groupKind := ⟨groupName, "HTTPRoute"⟩ }
  parentRefs := [parentOne, parentTwo]
  body := .http [] []

/-- The route as the first gateway has accepted it and the second one has not. -/
def halfAccepted : K8sRoute :=
  (route.bindFailed .listed (.bindError .routeKind "route kind not allowed for listener")
    parentTwo).bound parentOne

def accepted : K8sRoute := halfAccepted.bound parentTwo

/-- The second gateway once it serves the route. -/
def servingTwo : K8sGateway :=
  twoHTTP.setListeners (twoHTTP.gatewayState.listeners.map fun l =>
    l.setRoutes ((∅ : GoMap _ _).insert route.id (route.resolve .listed "" twoHTTP.gateway l.spec)))

def withOne : Store := ⟨(∅ : GoMap _ _).insert one.id one, ∅⟩

def withTwo : Store := ⟨withOne.gateways.insert two.id two, ∅⟩

-- the first gateway is written back last
def withRoute : Store :=
  ⟨((∅ : GoMap _ _).insert two.id two).insert one.id one,
    (∅ : GoMap _ _).insert route.id halfAccepted⟩

def withHTTP : Store :=
  ⟨withRoute.gateways.insert two.id servingTwo, (∅ : GoMap _ _).insert route.id accepted⟩

def withoutTwo : Store :=
  ⟨withHTTP.gateways.erase two.id, (∅ : GoMap _ _).insert route.id (accepted.remove parentTwo)⟩

def oneArrives : Event := ⟨.upsertGateway one none, ⟨[], [], orders⟩⟩

def twoArrives : Event := ⟨.upsertGateway two none, ⟨[(one.id, one)], [], orders⟩⟩

def routeArrives : Event :=
  ⟨.upsertRoute route none, ⟨[(two.id, two), (one.id, one)], [], orders⟩⟩

def visit : Visit := ⟨[(one.id, one), (two.id, two)], [(route.id, halfAccepted)], orders⟩

/-- A gateway without listeners for HTTP, of a version that is not the newest. -/
def staleArrives : Event := ⟨.upsertGateway (gatewayOf "one" "a" .tcp) (some fun _ => false), visit⟩

def twoChanges : Event := ⟨.upsertGateway twoHTTP none, visit⟩

def twoLeaves : Event :=
  ⟨.deleteGateway two.id none,
    ⟨[(two.id, servingTwo), (one.id, one)], [(route.id, accepted)], orders⟩⟩

def run : List (Event × Store) :=
  [(oneArrives, withOne), (twoArrives, withTwo), (routeArrives, withRoute),
    (staleArrives, withRoute), (twoChanges, withHTTP), (twoLeaves, withoutTwo)]

theorem ranges_withTwo : GoMap.Ranges withTwo.gateways [(two.id, two), (one.id, one)] :=
  (GoMap.ranges_singleton _ _).insert _ rfl

theorem ranges_withRoute : GoMap.Ranges withRoute.gateways [(one.id, one), (two.id, two)] :=
  (GoMap.ranges_singleton _ _).insert _ rfl

theorem ranges_withHTTP :
    GoMap.Ranges withHTTP.gateways [(two.id, servingTwo), (one.id, one)] := by
  have h : GoMap.Ranges (((∅ : GoMap _ _).insert one.id one).insert two.id servingTwo)
      [(two.id, servingTwo), (one.id, one)] := (GoMap.ranges_singleton _ _).insert _ rfl
  exact h

theorem runs : Run (Step client marshaler) Store.new run := by
  have hvisit : visit.Of withRoute := ⟨ranges_withRoute, GoMap.ranges_singleton _ _⟩
  have hone : GoMap.Ranges withOne.gateways [(one.id, one)] := GoMap.ranges_singleton _ _
  have hroute : ∀ r : K8sRoute, GoMap.Ranges ((∅ : GoMap _ _).insert route.id r) [(route.id, r)] :=
    fun r => GoMap.ranges_singleton _ r
  refine .cons ⟨⟨GoMap.ranges_empty, GoMap.ranges_empty⟩, ?_, rfl⟩
    (.cons ⟨⟨hone, GoMap.ranges_empty⟩, ?_, rfl⟩
    (.cons ⟨⟨ranges_withTwo, GoMap.ranges_empty⟩, trivial, rfl⟩
    (.cons ⟨hvisit, ?_, rfl⟩ (.cons ⟨hvisit, ?_, rfl⟩
    (.cons ⟨⟨ranges_withHTTP, hroute _⟩, trivial, rfl⟩ (.nil _))))))
  all_goals
    intro l hl
    cases List.mem_singleton.mp hl
    rfl

/-- Each parent concerns the one listener of the gateway that it names. -/
theorem apart {name listener : String} {protocol : ProtocolType} {r : K8sRoute}
    (hr : route.SameBinding r) (hpair : (name, listener) ∈ [("one", "a"), ("two", "b")]) :
    ∀ p ∈ r.parentRefs, ∀ l ∈ (gatewayOf name listener protocol).gatewayState.listeners,
      Concerns p l → references r (gatewayOf name listener protocol) p = true ∧
        ∀ l' ∈ (gatewayOf name listener protocol).gatewayState.listeners,
          Concerns p l' → l' = l := by
  intro p hp l hl hconcerns
  rw [references_congr hr]
  rw [hr.parentRefs] at hp
  refine ⟨?_, fun l' hl' _ => (List.mem_singleton.mp hl').trans (List.mem_singleton.mp hl).symm⟩
  cases List.mem_singleton.mp hl
  rcases List.mem_pair.mp hpair with hpair | hpair <;> cases hpair <;>
    rcases List.mem_pair.mp hp with rfl | rfl
  · rfl
  · simp [Concerns, parentTwo] at hconcerns
  · simp [Concerns, parentOne] at hconcerns
  · rfl

theorem admits_one {r : K8sRoute} (hr : route.SameBinding r) :
    ∃ l ∈ one.gatewayState.listeners, Concerns parentOne l ∧ Admits client one r l :=
  ⟨_, List.mem_cons_self, .inr rfl, (admits_congr (g := one) hr (.refl _)).mpr
    ⟨rfl, rfl, rfl, rfl, rfl⟩⟩

/-- At first the second gateway takes nothing. -/
theorem not_taken_two {r : K8sRoute} (hr : route.SameBinding r) :
    ¬ Taken client withRoute.gateways r parentTwo := by
  rintro ⟨gid, g, hg, href, l, hl, -, hadmits⟩
  rcases List.mem_pair.mp (ranges_withRoute.mem_iff.mpr hg) with heq | heq <;> cases heq
  · rw [references_congr hr] at href
    cases href
  · cases List.mem_singleton.mp hl
    have hkind := ((admits_congr (g := two) hr (.refl _)).mp hadmits).kind
    cases hkind

theorem recordable_routeArrives : Recordable client marshaler withTwo routeArrives := by
  refine fun _ => ⟨rfl, fun gid h hh => ?_⟩
  have hmem := ranges_withTwo.mem_iff.mpr hh
  refine unanimous_of_apart hh (fun gid' g' hg' hname => ?_) ?_
  · rcases List.mem_pair.mp hmem with heq | heq <;> cases heq <;>
      rcases List.mem_pair.mp (ranges_withTwo.mem_iff.mpr hg') with heq | heq <;> cases heq
    · rfl
    · exact absurd hname (by decide)
    · exact absurd hname (by decide)
    · rfl
  · rcases List.mem_pair.mp hmem with heq | heq <;> cases heq
    · exact apart (.refl route) (by simp)
    · exact apart (.refl route) (by simp)

theorem recordable_twoChanges : Recordable client marshaler withRoute twoChanges := by
  have hstored : ∀ gid g', withRoute.gateways.lookup gid = some g' →
      g'.namespacedName = twoHTTP.namespacedName → gid = twoHTTP.id := by
    intro gid g' hg' hname
    rcases List.mem_pair.mp (ranges_withRoute.mem_iff.mpr hg') with heq | heq <;> cases heq
    · exact absurd hname (by decide)
    · rfl
  refine fun _ => ⟨hstored, fun k r hr => ?_⟩
  obtain ⟨-, rfl⟩ := Prod.mk.inj (List.mem_singleton.mp
    ((GoMap.ranges_singleton route.id halfAccepted).mem_iff.mpr hr))
  have hsame : route.SameBinding halfAccepted := ⟨rfl, rfl, rfl, rfl⟩
  refine ⟨fun _ => unanimous_of_apart (Finmap.lookup_insert _) ?_ (apart hsame (by simp)), ?_⟩
  · intro gid g' hg' hname
    rw [GoMap.lookup_insert_ite] at hg'
    split at hg'
    · next heq => exact heq
    · exact hstored gid g' hg' hname
  · -- the first gateway has its parent still, and the second one had none
    intro p hp htaken
    rcases List.mem_pair.mp hp with rfl | rfl
    · refine .inl ⟨one.id, one, ?_, rfl, admits_one hsame⟩
      rw [GoMap.lookup_insert_ite, if_neg (by decide)]
      rfl
    · exact absurd htaken (not_taken_two hsame)

theorem recordable_twoLeaves : Recordable client marshaler withHTTP twoLeaves := by
  intro _ g k r p hg hr hp htaken
  obtain ⟨-, rfl⟩ := Prod.mk.inj (List.mem_singleton.mp
    ((GoMap.ranges_singleton route.id accepted).mem_iff.mpr hr))
  obtain rfl : servingTwo = g := Option.some.inj hg
  rcases List.mem_pair.mp hp with rfl | rfl
  · cases htaken.1
  · exact ⟨rfl, parentTwo, rfl, htaken.2⟩

theorem recordable_run :
    Always (fun s e _ => Recordable client marshaler s e) Store.new run := by
  have hnone : ∀ {g : K8sGateway} {s : Store} {v : Visit}, s.routes = ∅ →
      (∀ gid g', s.gateways.lookup gid = some g' → g'.namespacedName = g.namespacedName →
        gid = g.id) → Recordable client marshaler s ⟨.upsertGateway g none, v⟩ := by
    intro g s v hempty hnames
    refine fun _ => ⟨hnames, fun k r hr => ?_⟩
    rw [hempty, Finmap.lookup_empty] at hr
    cases hr
  refine ⟨hnone rfl fun gid g' hg' => ?_, hnone rfl fun gid g' hg' hname => ?_,
    recordable_routeArrives, fun hcond => absurd hcond (by decide), recordable_twoChanges,
    recordable_twoLeaves, trivial⟩
  · simp [Store.new] at hg'
  · have hmem := (GoMap.ranges_singleton one.id one).mem_iff.mpr hg'
    cases List.mem_singleton.mp hmem
    exact absurd hname (by decide)

end SampleStatuses

end Store
