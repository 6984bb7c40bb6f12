/-
The store of gateways and routes (`internal/store/store.go` over
`memory_backend.go`).

An operation works on fresh copies of the stored objects, lets the binder
change them, and writes back the ones the binder reports as modified.
Synchronising the result with Consul and with the statuses in Kubernetes comes
after the writes and does not change the store.

Main results, for the two loops of `bindOrUnbindAll`:
* `bindGateway_routes`, `bindGateway_listeners` — one gateway against many routes;
* `bindOrUnbindAll_single` — many gateways against one route.
-/
import ConsulApiGateway.Binder
import ConsulApiGateway.Run

open Reconciler

/-- What writing a route as JSON and reading it back does to it.  What binding
reads and the statuses of the parents survive; the references and the texts of
the resolution errors may not.  A gateway survives as a whole. -/
structure Marshaler where
  reloadRoute : K8sRoute → K8sRoute
  sameBinding : ∀ r : K8sRoute, r.SameBinding (reloadRoute r)
  parentStatuses : ∀ r : K8sRoute,
    (reloadRoute r).routeState.parentStatuses = r.routeState.parentStatuses

/-- Reading a route back keeps its Kubernetes object, its rules included. -/
def Marshaler.KeepsObjects (M : Marshaler) : Prop :=
  ∀ r : K8sRoute, (M.reloadRoute r).body.spec = r.body.spec

/-- A `lockingStore`: the objects its backend holds, as they were written. -/
structure Store where
  gateways : GoMap Core.GatewayID K8sGateway
  routes : GoMap String K8sRoute

namespace Store

def new : Store := ⟨∅, ∅⟩

/-- The orders in which an operation visits the maps of the backend and those of
the routes it binds. -/
structure Visit where
  gateways : List (Core.GatewayID × K8sGateway)
  routes : List (String × K8sRoute)
  orders : Core.GatewayID → String → Binder.Orders

def getGateway (s : Store) (id : Core.GatewayID) : Option K8sGateway := s.gateways.lookup id

def getRoute (M : Marshaler) (s : Store) (id : String) : Option K8sRoute :=
  (s.routes.lookup id).map M.reloadRoute

def listGateways (v : Visit) : List K8sGateway := v.gateways.map Prod.snd

def listRoutes (M : Marshaler) (v : Visit) : List K8sRoute :=
  v.routes.map fun p => M.reloadRoute p.2

def upsertGateways (s : Store) (gateways : List K8sGateway) : Store :=
  { s with gateways := GoMap.insertAll s.gateways (gateways.map fun g => (g.id, g)) }

def upsertRoutes (s : Store) (routes : List K8sRoute) : Store :=
  { s with routes := GoMap.insertAll s.routes (routes.map fun r => (r.id, r)) }

/-! ### Binding -/

/-- `Bind` or `Unbind`: the gateway, the route, and whether they were modified;
`none` is a nil dereference. -/
abbrev BindUnbindFunc := K8sGateway → K8sRoute → Option (K8sGateway × K8sRoute × Bool)

/-- The loop over the routes, each with the mark that it was modified. -/
def bindGateway (f : BindUnbindFunc) :
    K8sGateway → List (K8sRoute × Bool) → Option (K8sGateway × Bool × List (K8sRoute × Bool))
  | g, [] => some (g, false, [])
  | g, (r, m) :: rs => do
    let (g₁, r₁, modified₁) ← f g r
    let (g₂, modified₂, rs₂) ← bindGateway f g₁ rs
    return (g₂, modified₁ || modified₂, (r₁, m || modified₁) :: rs₂)

/-- The loop over the gateways. -/
def bindOrUnbindAll (f : BindUnbindFunc) :
    List K8sGateway → List (K8sRoute × Bool) →
      Option (List (K8sGateway × Bool) × List (K8sRoute × Bool))
  | [], rs => some ([], rs)
  | g :: gs, rs => do
    let (g₁, modified, rs₁) ← bindGateway f g rs
    let (gs₂, rs₂) ← bindOrUnbindAll f gs rs₁
    return ((g₁, modified) :: gs₂, rs₂)

/-- No object carries the mark yet. -/
def unmarked {α : Type} (l : List α) : List (α × Bool) := l.map fun a => (a, false)

def bindAll (c : Client) (v : Visit) (gateways : List K8sGateway) (routes : List K8sRoute) :
    Option (List (K8sGateway × Bool) × List (K8sRoute × Bool)) :=
  bindOrUnbindAll (fun g r => Binder.bind c (v.orders g.id r.id) g r) gateways (unmarked routes)

def unbindAll (gateways : List K8sGateway) (routes : List K8sRoute) :
    Option (List (K8sGateway × Bool) × List (K8sRoute × Bool)) :=
  bindOrUnbindAll (fun g r => some (Binder.unbind g r)) gateways (unmarked routes)

/-! ### Operations -/

def upsertGateway (c : Client) (M : Marshaler) (v : Visit) (s : Store) (gateway : K8sGateway)
    (updateConditionFn : Option (Option K8sGateway → Bool)) : Option Store :=
  if updateConditionFn.any fun f => !f (s.getGateway gateway.id) then some s
  else do
    let (gateways, routes) ← bindAll c v [gateway] (listRoutes M v)
    -- the gateway is written in any case, a route only if it was modified
    return (s.upsertGateways (gateways.map Prod.fst)).upsertRoutes (GoMap.marked routes)

/-- `clearErr` is the error of clearing the gateway in Consul, if any. -/
def deleteGateway (M : Marshaler) (v : Visit) (s : Store) (id : Core.GatewayID) (clearErr : Err) :
    Option Store :=
  match s.getGateway id with
  | none => some s
  | some gateway =>
    if clearErr.isSome then some s
    else do
      let (_, routes) ← unbindAll [gateway] (listRoutes M v)
      return { s with gateways := s.gateways.erase id }.upsertRoutes (GoMap.marked routes)

def upsertRoute (c : Client) (M : Marshaler) (v : Visit) (s : Store) (route : K8sRoute)
    (updateConditionFn : Option (Option K8sRoute → Bool)) : Option Store :=
  if updateConditionFn.any fun f => !f (s.getRoute M route.id) then some s
  else do
    let (gateways, routes) ← bindAll c v (listGateways v) [route]
    -- here it is the route that is written in any case
    return (s.upsertGateways (GoMap.marked gateways)).upsertRoutes (routes.map Prod.fst)

def deleteRoute (M : Marshaler) (v : Visit) (s : Store) (id : String) : Option Store :=
  match s.getRoute M id with
  | none => some s
  | some route => do
    let (gateways, _) ← unbindAll (listGateways v) [route]
    return { s with routes := s.routes.erase id }.upsertGateways (GoMap.marked gateways)

inductive Op
  | upsertGateway (gateway : K8sGateway) (updateConditionFn : Option (Option K8sGateway → Bool))
  | deleteGateway (id : Core.GatewayID) (clearErr : Err)
  | upsertRoute (route : K8sRoute) (updateConditionFn : Option (Option K8sRoute → Bool))
  | deleteRoute (id : String)

structure Event where
  op : Op
  visit : Visit

def exec (c : Client) (M : Marshaler) (s : Store) (e : Event) : Option Store :=
  match e.op with
  | .upsertGateway gateway cond => upsertGateway c M e.visit s gateway cond
  | .deleteGateway id clearErr => deleteGateway M e.visit s id clearErr
  | .upsertRoute route cond => upsertRoute c M e.visit s route cond
  | .deleteRoute id => deleteRoute M e.visit s id

/-- The maps of the backend are visited as a whole. -/
structure Visit.Of (s : Store) (v : Visit) : Prop where
  gateways : GoMap.Ranges s.gateways v.gateways
  routes : GoMap.Ranges s.routes v.routes

/-- A gateway comes from the validator, which binds no routes. -/
def Op.Arrives : Op → Prop
  | .upsertGateway gateway _ => ∀ l ∈ gateway.gatewayState.listeners, l.state.routes = ∅
  | _ => True

/-- One operation that goes through. -/
def Step (c : Client) (M : Marshaler) (s : Store) (e : Event) (s' : Store) : Prop :=
  e.visit.Of s ∧ e.op.Arrives ∧ exec c M s e = some s'

/-! ### One gateway against many routes -/

/-- `f` puts a route on the listeners of a gateway that `P` selects. -/
structure IsBinder (P : K8sGateway → K8sRoute → GatewayListener → Prop) (f : BindUnbindFunc) :
    Prop where
  rebinds : ∀ {g r g' r' m}, f g r = some (g', r', m) → Binder.Rebinds (P g r) g r g' r' m
  congr : ∀ {g r l r' l'} (ls : List GatewayListener), r.SameBinding r' → l.SameListener l' →
    (P (g.setListeners ls) r' l' ↔ P g r l)

theorem isBinder_bind (c : Client) (orders : Core.GatewayID → String → Binder.Orders) :
    IsBinder (Binder.Attaches c) (fun g r => Binder.bind c (orders g.id r.id) g r) where
  rebinds h := Binder.bind_rebinds h
  congr _ hr hl := Binder.attaches_congr hr hl

theorem isBinder_unbind :
    IsBinder (fun _ _ _ => False) (fun g r => some (Binder.unbind g r)) where
  rebinds {g r g' r' m} h := by
    have heq : Binder.unbind g r = (g', r', m) := Option.some.inj h
    have := Binder.unbind_rebinds g r
    rwa [heq] at this
  congr _ _ _ := Iff.rfl

/-- The gateways differ at most in the entries of the routes in `ids`. -/
def Rebound (ids : List String) (g g' : K8sGateway) : Prop :=
  ∃ ls, g' = g.setListeners ls ∧ List.Forall₂ (fun l l' => l.SameListener l' ∧
    ∀ k ∉ ids, l'.state.routes.lookup k = l.state.routes.lookup k) g.gatewayState.listeners ls

section Loops

variable {P : K8sGateway → K8sRoute → GatewayListener → Prop} {f : BindUnbindFunc}
  {g g' : K8sGateway} {r r' : K8sRoute} {rs rs' : List (K8sRoute × Bool)} {m m' : Bool}
  {gs : List K8sGateway} {gs' : List (K8sGateway × Bool)}

theorem bindGateway_cons (h : bindGateway f g ((r, m) :: rs) = some (g', m', rs')) :
    ∃ g₁ r₁ m₁ m₂ rs₂, f g r = some (g₁, r₁, m₁) ∧ bindGateway f g₁ rs = some (g', m₂, rs₂) ∧
      m' = (m₁ || m₂) ∧ rs' = (r₁, m || m₁) :: rs₂ := by
  simp only [bindGateway, Option.bind_eq_bind, Option.bind_eq_some_iff, Prod.exists] at h
  obtain ⟨g₁, r₁, m₁, hf, g₂, m₂, rs₂, hrest, heq⟩ := h
  cases heq
  exact ⟨g₁, r₁, m₁, m₂, rs₂, hf, hrest, rfl, rfl⟩

theorem bindOrUnbindAll_cons {gs' : List (K8sGateway × Bool)}
    (h : bindOrUnbindAll f (g :: gs) rs = some (gs', rs')) :
    ∃ g₁ m₁ rs₁ gs₂, bindGateway f g rs = some (g₁, m₁, rs₁) ∧
      bindOrUnbindAll f gs rs₁ = some (gs₂, rs') ∧ gs' = (g₁, m₁) :: gs₂ := by
  simp only [bindOrUnbindAll, Option.bind_eq_bind, Option.bind_eq_some_iff, Prod.exists] at h
  obtain ⟨g₁, m₁, rs₁, hg, gs₂, rs₂, hrest, heq⟩ := h
  cases heq
  exact ⟨g₁, m₁, rs₁, gs₂, hg, hrest, rfl⟩

theorem Rebound.refl (g : K8sGateway) : Rebound [] g g :=
  ⟨_, rfl, List.forall₂_same.mpr fun l _ => ⟨.refl l, fun _ _ => rfl⟩⟩

theorem Rebound.trans {ids ids' : List String} {g₁ g₂ : K8sGateway} (h : Rebound ids g g₁)
    (h' : Rebound ids' g₁ g₂) : Rebound (ids ++ ids') g g₂ := by
  obtain ⟨ls, rfl, hls⟩ := h
  obtain ⟨ls', rfl, hls'⟩ := h'
  refine ⟨ls', rfl, hls.comp ?_ hls'⟩
  rintro l l₁ l₂ ⟨hs, hk⟩ ⟨hs', hk'⟩
  refine ⟨hs.trans hs', fun k hmem => ?_⟩
  rw [List.mem_append, not_or] at hmem
  rw [hk' k hmem.2, hk k hmem.1]

theorem rebound_of_rebinds {P : GatewayListener → Prop}
    (h : Binder.Rebinds P g r g' r' m) : Rebound [r.id] g g' := by
  obtain ⟨ls, rfl, hls⟩ := h.gateway
  refine ⟨ls, rfl, hls.imp fun l l' hatt => ⟨hatt.same, fun k hk => hatt.other k ?_⟩⟩
  simpa using hk

/-- Each route is bound once, to a gateway on which its own entries are still as
they were. -/
theorem bindGateway_routes (hf : IsBinder P f) (hids : (rs.map fun p => p.1.id).Nodup)
    (h : bindGateway f g rs = some (g', m, rs')) :
    List.Forall₂ (fun p p' => ∃ ids g₁ g₂ m₁, p.1.id ∉ ids ∧ Rebound ids g g₁ ∧
      f g₁ p.1 = some (g₂, p'.1, m₁) ∧ p'.2 = (p.2 || m₁)) rs rs' := by
  -- the gateway that a route meets is the one the routes before it have left
  induction rs generalizing g m rs' with
  | nil => cases h; exact .nil
  | cons p rs ih =>
    obtain ⟨r, m₀⟩ := p
    obtain ⟨g₁, r₁, m₁, m₂, rs₂, hr, hrest, -, rfl⟩ := bindGateway_cons h
    rw [List.map_cons, List.nodup_cons] at hids
    refine .cons ⟨[], g, g₁, m₁, by simp, .refl g, hr, rfl⟩ ?_
    have hstep := rebound_of_rebinds (hf.rebinds hr)
    refine (ih hids.2 hrest).imp_mem ?_
    rintro p hmem p' ⟨ids, g₂, g₃, m₃, hid, hre, hp, hm⟩
    refine ⟨r.id :: ids, g₂, g₃, m₃, ?_, hstep.trans hre, hp, hm⟩
    rw [List.mem_cons, not_or]
    refine ⟨fun heq => hids.1 ?_, hid⟩
    rw [← heq]
    exact List.mem_map_of_mem hmem

/-- The routes of each listener after the loop: of the routes in the list, those
that `P` selects; of the others, those that were there before. -/
theorem bindGateway_listeners (hf : IsBinder P f) (hids : (rs.map fun p => p.1.id).Nodup)
    (h : bindGateway f g rs = some (g', m, rs')) :
    ∃ ls, g' = g.setListeners ls ∧ List.Forall₂ (fun l l' => l.SameListener l' ∧
      ∀ k, k ∈ l'.state.routes ↔ (∃ p ∈ rs, p.1.id = k ∧ P g p.1 l) ∨
        (k ∉ rs.map (fun p => p.1.id) ∧ k ∈ l.state.routes)) g.gatewayState.listeners ls := by
  induction rs generalizing g m rs' with
  | nil =>
    cases h
    exact ⟨_, rfl, List.forall₂_same.mpr fun l _ => ⟨.refl l, fun k => by simp⟩⟩
  | cons p rs ih =>
    obtain ⟨r, m₀⟩ := p
    obtain ⟨g₁, r₁, m₁, m₂, rs₂, hr, hrest, -, -⟩ := bindGateway_cons h
    rw [List.map_cons, List.nodup_cons] at hids
    obtain ⟨ls₁, rfl, hls₁⟩ := (hf.rebinds hr).gateway
    obtain ⟨ls₂, rfl, hls₂⟩ := ih hids.2 hrest
    refine ⟨ls₂, rfl, hls₁.comp ?_ hls₂⟩
    rintro l l₁ l₂ hatt ⟨hsame, hk⟩
    refine ⟨hatt.same.trans hsame, fun k => ?_⟩
    have hP : ∀ r', P (g.setListeners ls₁) r' l₁ ↔ P g r' l := fun r' =>
      hf.congr ls₁ (.refl r') hatt.same
    simp only [hk, hP, List.map_cons, List.mem_cons, not_or]
    by_cases hkr : k = r.id
    · -- the head is the only route of the list with this ID
      subst hkr
      have hrest : ¬ ∃ p ∈ rs, p.1.id = r.id ∧ P g p.1 l := by
        rintro ⟨p, hp, heq, -⟩
        exact hids.1 (heq ▸ List.mem_map_of_mem hp)
      simp [hrest, hids.1, hatt.self]
    · have hmem : k ∈ l₁.state.routes ↔ k ∈ l.state.routes := by
        rw [← Finmap.lookup_isSome, ← Finmap.lookup_isSome, hatt.other k hkr]
      simp [hmem, hkr, Ne.symm hkr]

/-! ### Many gateways against one route -/

/-- The route goes from gateway to gateway and keeps what binding reads. -/
theorem bindOrUnbindAll_single (hf : IsBinder P f)
    (h : bindOrUnbindAll f gs [(r, m)] = some (gs', rs')) :
    (∃ r' m', rs' = [(r', m')] ∧ r.SameButStatuses r') ∧
      List.Forall₂ (fun g p => ∃ r₀ r₁, r.SameBinding r₀ ∧ f g r₀ = some (p.1, r₁, p.2))
        gs gs' := by
  induction gs generalizing r m gs' with
  | nil => cases h; exact ⟨⟨r, m, rfl, .refl r⟩, .nil⟩
  | cons g gs ih =>
    obtain ⟨g₁, m₁, rs₁, gs₂, hg, hrest, rfl⟩ := bindOrUnbindAll_cons h
    obtain ⟨g₂, r₂, m₂, m₃, rs₂, hr, hnil, rfl, rfl⟩ := bindGateway_cons hg
    cases hnil
    have hre := hf.rebinds hr
    obtain ⟨⟨r', m', rfl, hstatuses⟩, hall⟩ := ih hrest
    refine ⟨⟨r', m', rfl, hre.statuses.trans hstatuses⟩, .cons ⟨r, r₂, .refl r, ?_⟩ ?_⟩
    · rw [hr, Bool.or_false]
    · refine hall.imp ?_
      rintro g p ⟨r₀, r₁, h₀, h₁⟩
      exact ⟨r₀, r₁, hre.route.trans h₀, h₁⟩

/-- What one attempt with the route, or with one that binds alike, does to a
gateway. -/
theorem IsBinder.attached (hf : IsBinder P f) {r₀ r₁ : K8sRoute} (hsame : r.SameBinding r₀)
    (h : f g r₀ = some (g', r₁, m)) :
    (∃ ls, g' = g.setListeners ls ∧ List.Forall₂ (fun l l' => Binder.Attached r.id (P g r l) l l')
      g.gatewayState.listeners ls) ∧ (m = false → g' = g) := by
  have hre := hf.rebinds h
  have hP : P g r₀ = P g r := funext fun l => propext <|
    hf.congr (g := g) g.gatewayState.listeners hsame (.refl l)
  rw [← hsame.id_eq, ← hP]
  exact ⟨hre.gateway, hre.unmodified⟩

end Loops

/-! ### The loops over what is stored -/

/-- Every object is stored under its own ID. -/
structure Keyed (s : Store) : Prop where
  gateways : ∀ {id g}, s.gateways.lookup id = some g → g.id = id
  routes : ∀ {id r}, s.routes.lookup id = some r → r.id = id

section Stored

variable {P : K8sGateway → K8sRoute → GatewayListener → Prop} {f : BindUnbindFunc} {M : Marshaler}
  {s : Store} {v : Visit} {g : K8sGateway} {r : K8sRoute} {m : Bool}
  {gs' : List (K8sGateway × Bool)} {rs' : List (K8sRoute × Bool)}

private theorem reload_id (hs : s.Keyed) (hv : v.Of s) {p : String × K8sRoute}
    (hp : p ∈ v.routes) : (M.reloadRoute p.2).id = p.1 := by
  rw [(M.sameBinding p.2).id_eq]
  exact hs.routes (hv.routes.mem_iff.mp hp)

private theorem unmarked_ids (hs : s.Keyed) (hv : v.Of s) :
    ((unmarked (listRoutes M v)).map fun p => p.1.id) = v.routes.map Prod.fst := by
  simp only [unmarked, listRoutes, List.map_map]
  exact List.map_congr_left fun p hp => reload_id hs hv hp

private theorem exists_unmarked_iff (hs : s.Keyed) (hv : v.Of s) {k : String}
    (Q : K8sRoute → Prop) :
    (∃ p ∈ unmarked (listRoutes M v), p.1.id = k ∧ Q p.1) ↔
      ∃ r, s.routes.lookup k = some r ∧ Q (M.reloadRoute r) := by
  constructor
  · rintro ⟨p, hp, heq, hQ⟩
    simp only [unmarked, listRoutes, List.map_map, List.mem_map] at hp
    obtain ⟨q, hq, rfl⟩ := hp
    have hid : q.1 = k := (reload_id hs hv hq).symm.trans heq
    exact ⟨q.2, hid ▸ hv.routes.mem_iff.mp hq, hQ⟩
  · rintro ⟨r, hr, hQ⟩
    have hp := hv.routes.mem_iff.mpr hr
    refine ⟨(M.reloadRoute r, false), ?_, reload_id (p := (k, r)) hs hv hp, hQ⟩
    exact List.mem_map_of_mem (List.mem_map_of_mem (f := fun p => M.reloadRoute p.2) hp)

/-- One gateway against all stored routes: the listeners of the gateway. -/
theorem bindRoutes_listeners (hf : IsBinder P f) (hs : s.Keyed) (hv : v.Of s)
    (h : bindOrUnbindAll f [g] (unmarked (listRoutes M v)) = some (gs', rs')) :
    ∃ ls m, gs' = [(g.setListeners ls, m)] ∧ List.Forall₂ (fun l l' => l.SameListener l' ∧
      ∀ k, k ∈ l'.state.routes ↔ (∃ r, s.routes.lookup k = some r ∧ P g r l) ∨
        (s.routes.lookup k = none ∧ k ∈ l.state.routes)) g.gatewayState.listeners ls := by
  obtain ⟨g₁, m₁, rs₁, gs₂, hg, hnil, rfl⟩ := bindOrUnbindAll_cons h
  cases hnil
  have hids : ((unmarked (listRoutes M v)).map fun p => p.1.id).Nodup := by
    rw [unmarked_ids hs hv]
    exact hv.routes.1
  obtain ⟨ls, rfl, hls⟩ := bindGateway_listeners hf hids hg
  refine ⟨ls, m₁, rfl, hls.imp fun l l' ⟨hsame, hk⟩ => ⟨hsame, fun k => ?_⟩⟩
  have hP : ∀ r, P g (M.reloadRoute r) l ↔ P g r l := fun r =>
    hf.congr (g := g) g.gatewayState.listeners (M.sameBinding r) (.refl l)
  rw [hk, exists_unmarked_iff hs hv (fun r => P g r l), unmarked_ids hs hv, hv.routes.mem_keys,
    ← Finmap.lookup_eq_none]
  simp only [hP]

/-- One gateway against all stored routes: the routes after they are written
back. -/
theorem bindRoutes_routes (hf : IsBinder P f) (hs : s.Keyed) (hv : v.Of s)
    (h : bindOrUnbindAll f [g] (unmarked (listRoutes M v)) = some (gs', rs')) (k : String) :
    (∀ r, s.routes.lookup k = some r → ∃ ids g₁ g₂ r₁ m, k ∉ ids ∧ Rebound ids g g₁ ∧
      f g₁ (M.reloadRoute r) = some (g₂, r₁, m) ∧
      (GoMap.writeBack K8sRoute.id s.routes rs').lookup k = some (if m then r₁ else r)) ∧
    (s.routes.lookup k = none → (GoMap.writeBack K8sRoute.id s.routes rs').lookup k = none) := by
  obtain ⟨g₁, m₁, rs₁, gs₂, hg, hnil, rfl⟩ := bindOrUnbindAll_cons h
  cases hnil
  have hids : ((unmarked (listRoutes M v)).map fun p => p.1.id).Nodup := by
    rw [unmarked_ids hs hv]
    exact hv.routes.1
  have hall := bindGateway_routes hf hids hg
  simp only [unmarked, listRoutes, List.map_map, List.forall₂_map_left_iff] at hall
  -- the result of each route stands under the key of the route
  have hkeyed := hall.imp_mem (P := fun p p' => (M.reloadRoute p.2).id = p.1 ∧
      ∃ ids g₁ g₂ m₁, p.1 ∉ ids ∧ Rebound ids g g₁ ∧
        f g₁ (M.reloadRoute p.2) = some (g₂, p'.1, m₁) ∧ p'.2 = m₁) (by
    rintro p hp p' ⟨ids, g₁, g₂, m₁, hid, hre, hbind, hm⟩
    have hpid := reload_id (M := M) hs hv hp
    exact ⟨hpid, ids, g₁, g₂, m₁, hpid ▸ hid, hre, hbind, by simpa using hm⟩)
  have hkey : ∀ (p : String × K8sRoute) (p' : K8sRoute × Bool),
      ((M.reloadRoute p.2).id = p.1 ∧ ∃ ids g₁ g₂ m₁, p.1 ∉ ids ∧ Rebound ids g g₁ ∧
        f g₁ (M.reloadRoute p.2) = some (g₂, p'.1, m₁) ∧ p'.2 = m₁) → p'.1.id = p.1 := by
    rintro p p' ⟨hpid, ids, g₁, g₂, m₁, -, -, hbind, -⟩
    rw [(hf.rebinds hbind).route.id_eq, hpid]
  refine ⟨fun r hr => ?_, fun hr => GoMap.lookup_writeBack_of_notMem hv.routes hkey hkeyed hr⟩
  obtain ⟨r₁, m, ⟨-, ids, g₁, g₂, m₁, hid, hre, hbind, rfl⟩, hlook⟩ :=
    GoMap.lookup_writeBack_of_mem hv.routes hkey hkeyed hr
  exact ⟨ids, g₁, g₂, r₁, m, hid, hre, hbind, hlook⟩

/-- Every stored route is left alone, or replaced by what was read back of it with other
statuses. -/
theorem bindRoutes_rel {Same : K8sRoute → K8sRoute → Prop} (hrefl : ∀ r, Same r r)
    (hstatuses : ∀ {r r'}, (M.reloadRoute r).SameButStatuses r' → Same r r') (hf : IsBinder P f)
    (hs : s.Keyed) (hv : v.Of s)
    (h : bindOrUnbindAll f [g] (unmarked (listRoutes M v)) = some (gs', rs')) (k : String) :
    Option.Rel Same (s.routes.lookup k) ((GoMap.writeBack K8sRoute.id s.routes rs').lookup k) := by
  obtain ⟨hsome, hnone⟩ := bindRoutes_routes hf hs hv h k
  cases hr : s.routes.lookup k with
  | none => rw [hnone hr]; exact .none
  | some r =>
    obtain ⟨ids, g₁, g₂, r₁, m, -, -, hbind, hlook⟩ := hsome r hr
    rw [hlook]
    cases m with
    | true => exact .some (hstatuses (hf.rebinds hbind).statuses)
    | false => exact .some (hrefl r)

/-- All stored gateways against one route: the gateways after they are written
back. -/
theorem bindGateways_gateways (hf : IsBinder P f) (hs : s.Keyed) (hv : v.Of s)
    (h : bindOrUnbindAll f (listGateways v) [(r, m)] = some (gs', rs')) (k : Core.GatewayID) :
    (∀ g, s.gateways.lookup k = some g → ∃ g' r₀ r₁ b, r.SameBinding r₀ ∧
      f g r₀ = some (g', r₁, b) ∧
      (GoMap.writeBack K8sGateway.id s.gateways gs').lookup k = some g') ∧
    (s.gateways.lookup k = none →
      (GoMap.writeBack K8sGateway.id s.gateways gs').lookup k = none) := by
  have hall := (bindOrUnbindAll_single hf h).2
  rw [listGateways, List.forall₂_map_left_iff] at hall
  have hkeyed := hall.imp_mem (P := fun p p' => p.2.id = p.1 ∧
      ∃ r₀ r₁, r.SameBinding r₀ ∧ f p.2 r₀ = some (p'.1, r₁, p'.2)) (by
    rintro p hp p' hp'
    exact ⟨hs.gateways (hv.gateways.mem_iff.mp hp), hp'⟩)
  have hkey : ∀ (p : Core.GatewayID × K8sGateway) (p' : K8sGateway × Bool),
      (p.2.id = p.1 ∧ ∃ r₀ r₁, r.SameBinding r₀ ∧ f p.2 r₀ = some (p'.1, r₁, p'.2)) →
        p'.1.id = p.1 := by
    rintro p p' ⟨hpid, r₀, r₁, hsame, hbind⟩
    obtain ⟨⟨ls, heq, -⟩, -⟩ := hf.attached hsame hbind
    rw [heq]
    exact hpid
  refine ⟨fun g hg => ?_, fun hg => GoMap.lookup_writeBack_of_notMem hv.gateways hkey hkeyed hg⟩
  obtain ⟨g', b, ⟨-, r₀, r₁, hsame, hbind⟩, hlook⟩ :=
    GoMap.lookup_writeBack_of_mem hv.gateways hkey hkeyed hg
  refine ⟨g', r₀, r₁, b, hsame, hbind, hlook.trans ?_⟩
  cases b with
  | true => rfl
  | false =>
    -- a gateway that is not written back has not changed
    have heq : g' = g := (hf.attached hsame hbind).2 rfl
    rw [heq]
    rfl

/-- Binding one route to all gateways changes no more of them than their routes. -/
theorem bindGateways_same (hf : IsBinder P f) (hs : s.Keyed) (hv : v.Of s)
    (h : bindOrUnbindAll f (listGateways v) [(r, m)] = some (gs', rs')) (k : Core.GatewayID) :
    Option.Rel K8sGateway.SameGateway (s.gateways.lookup k)
      ((GoMap.writeBack K8sGateway.id s.gateways gs').lookup k) := by
  obtain ⟨hsome, hnone⟩ := bindGateways_gateways hf hs hv h k
  cases hg : s.gateways.lookup k with
  | none => rw [hnone hg]; exact .none
  | some g =>
    obtain ⟨g', r₀, r₁, b, hsame, hbind, hlook⟩ := hsome g hg
    obtain ⟨⟨ls, rfl, hls⟩, -⟩ := hf.attached hsame hbind
    rw [hlook]
    exact .some ⟨ls, rfl, hls.imp fun _ _ hatt => hatt.same⟩

end Stored

/-! ### What an operation can do -/

section Ops

variable {c : Client} {M : Marshaler} {v : Visit} {s s' : Store}

theorem upsertGateway_cases {g : K8sGateway} {cond : Option (Option K8sGateway → Bool)}
    (hs : s.Keyed) (hv : v.Of s) (h : upsertGateway c M v s g cond = some s') :
    (cond.any (fun f => !f (s.getGateway g.id)) = true ∧ s' = s) ∨
      (cond.any (fun f => !f (s.getGateway g.id)) = false ∧
        ∃ ls m rs', bindAll c v [g] (listRoutes M v) = some ([(g.setListeners ls, m)], rs') ∧
          s'.gateways = s.gateways.insert g.id (g.setListeners ls) ∧
          s'.routes = GoMap.writeBack K8sRoute.id s.routes rs' ∧
          List.Forall₂ (fun l l' => l.SameListener l' ∧ ∀ k, k ∈ l'.state.routes ↔
            (∃ r, s.routes.lookup k = some r ∧ Binder.Attaches c g r l) ∨
              (s.routes.lookup k = none ∧ k ∈ l.state.routes)) g.gatewayState.listeners ls) := by
  unfold upsertGateway at h
  split at h
  · next hcond => exact .inl ⟨hcond, (Option.some.inj h).symm⟩
  · next hcond =>
    simp only [Option.bind_eq_bind, Option.bind_eq_some_iff, Prod.exists] at h
    obtain ⟨gs', rs', hbind, heq⟩ := h
    obtain ⟨ls, m, rfl, hls⟩ := bindRoutes_listeners (isBinder_bind c v.orders) hs hv hbind
    cases heq
    exact .inr ⟨Bool.not_eq_true _ ▸ hcond, ls, m, rs', hbind, rfl, rfl, hls⟩

theorem deleteGateway_cases {id : Core.GatewayID} {clearErr : Err}
    (h : deleteGateway M v s id clearErr = some s') :
    ((s.gateways.lookup id = none ∨ clearErr.isSome) ∧ s' = s) ∨
      (clearErr = none ∧ ∃ g gs' rs', s.gateways.lookup id = some g ∧
        unbindAll [g] (listRoutes M v) = some (gs', rs') ∧ s'.gateways = s.gateways.erase id ∧
        s'.routes = GoMap.writeBack K8sRoute.id s.routes rs') := by
  unfold deleteGateway at h
  split at h
  · next hg => exact .inl ⟨.inl hg, (Option.some.inj h).symm⟩
  · next g hg =>
    split at h
    · next herr => exact .inl ⟨.inr herr, (Option.some.inj h).symm⟩
    · next herr =>
      simp only [Option.bind_eq_bind, Option.bind_eq_some_iff, Prod.exists] at h
      obtain ⟨gs', rs', hbind, heq⟩ := h
      cases heq
      exact .inr ⟨Option.not_isSome_iff_eq_none.1 herr, g, gs', rs', hg, hbind, rfl, rfl⟩

theorem upsertRoute_cases {r : K8sRoute} {cond : Option (Option K8sRoute → Bool)}
    (h : upsertRoute c M v s r cond = some s') :
    (cond.any (fun f => !f (s.getRoute M r.id)) = true ∧ s' = s) ∨
      (cond.any (fun f => !f (s.getRoute M r.id)) = false ∧
        ∃ gs' r' m, bindAll c v (listGateways v) [r] = some (gs', [(r', m)]) ∧
          r.SameButStatuses r' ∧ s'.gateways = GoMap.writeBack K8sGateway.id s.gateways gs' ∧
          s'.routes = s.routes.insert r.id r') := by
  unfold upsertRoute at h
  split at h
  · next hcond => exact .inl ⟨hcond, (Option.some.inj h).symm⟩
  · next hcond =>
    simp only [Option.bind_eq_bind, Option.bind_eq_some_iff, Prod.exists] at h
    obtain ⟨gs', rs', hbind, heq⟩ := h
    obtain ⟨⟨r', m, rfl, hsame⟩, -⟩ := bindOrUnbindAll_single (isBinder_bind c v.orders) hbind
    cases heq
    refine .inr ⟨Bool.not_eq_true _ ▸ hcond, gs', r', m, hbind, hsame, rfl, ?_⟩
    rw [← hsame.sameBinding.id_eq]
    rfl

theorem deleteRoute_cases {id : String} (h : deleteRoute M v s id = some s') :
    s' = s ∨ ∃ r gs' rs', s.routes.lookup id = some r ∧
      unbindAll (listGateways v) [M.reloadRoute r] = some (gs', rs') ∧
      s'.gateways = GoMap.writeBack K8sGateway.id s.gateways gs' ∧
      s'.routes = s.routes.erase id := by
  unfold deleteRoute at h
  split at h
  · exact .inl (Option.some.inj h).symm
  · next r₀ hr₀ =>
    obtain ⟨r, hr, rfl⟩ := Option.map_eq_some_iff.mp hr₀
    simp only [Option.bind_eq_bind, Option.bind_eq_some_iff, Prod.exists] at h
    obtain ⟨gs', rs', hbind, heq⟩ := h
    cases heq
    exact .inr ⟨r, gs', rs', hr, hbind, rfl, rfl⟩

end Ops

end Store
