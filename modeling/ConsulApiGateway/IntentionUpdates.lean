/-
The updates of intentions in Consul (`internal/consul/intentions.go`).

A synchronisation adds the gateway to the sources of every target's intention and
removes it from that of every tombstone.  An update reads the intention, changes
its sources and writes it back, and is tried again when a call to Consul fails.
Consul is any implementation of the interface the reconciler calls, with a state
of its own; it may fail as it likes.

* `syncIntentionsOf_eq` — a synchronisation keeps the tombstones whose update has
  failed, and nothing else changes.
-/
import ConsulApiGateway.Intentions
import ConsulApiGateway.SyncAdapter

namespace Consul

/-! ### Intentions -/

/-- A source with permissions has no action. -/
inductive IntentionAction
  | allow | deny | none
  deriving DecidableEq

structure SourceIntention where
  name : String
  namespace_ : String
  action : IntentionAction
  description : String
  deriving DecidableEq

structure ServiceIntentionsConfigEntry where
  name : String
  namespace_ : String
  sources : List SourceIntention := []
  deriving DecidableEq

/-- `api.IntentionDefaultNamespace`. -/
def intentionDefaultNamespace : String := "default"

def canonicalizeDefault (s : String) : String :=
  if s = "" then intentionDefaultNamespace else s

def sourceIntentionMatches (a b : SourceIntention) : Bool :=
  a.name = b.name ∧ canonicalizeDefault a.namespace_ = canonicalizeDefault b.namespace_

/-- `now` is the time it is built at. -/
def sourceIntention (gatewayName : CompoundServiceName) (now : String) : SourceIntention where
  name := gatewayName.name
  namespace_ := gatewayName.namespace_
  action := .allow
  description := "Allow traffic from Consul API Gateway. Reconciled by controller at " ++ now ++ "."

/-- The sources after an update, and whether it has changed them. -/
abbrev UpdateFn := List SourceIntention → List SourceIntention × Bool

def addSourceCB (source : SourceIntention) : UpdateFn := fun sources =>
  if sources.any fun src => sourceIntentionMatches src source then (sources, false)
  else (sources ++ [source], true)

/-- Removes the first source that matches. -/
def delSourceCB (source : SourceIntention) : UpdateFn
  | [] => ([], false)
  | src :: sources =>
    if sourceIntentionMatches src source then (sources, true)
    else ((src :: (delSourceCB source sources).1), (delSourceCB source sources).2)

/-! ### Calls to Consul -/

/-- The interface `consulConfigEntries`, with the state behind it. -/
structure ConfigEntriesClient (σ : Type) where
  /-- The intention and its index, or an error. -/
  get : CompoundServiceName → σ → Except String (ServiceIntentionsConfigEntry × ℕ) × σ
  delete : CompoundServiceName → σ → Option String × σ
  cas : ServiceIntentionsConfigEntry → ℕ → σ → Except String Bool × σ

section Client

variable {σ : Type} (client : ConfigEntriesClient σ)

/-- `strings.Contains`. -/
def contains (s sub : String) : Bool := sub.toList <:+: s.toList

def getOrInitIntention (name : CompoundServiceName) (s : σ) :
    Except String (ServiceIntentionsConfigEntry × ℕ) × σ :=
  match client.get name s with
  | (.ok intention, s) => (.ok intention, s)
  | (.error err, s) =>
    if contains err "Unexpected response code: 404" then
      (.ok ({ name := name.name, namespace_ := name.namespace_ }, 0), s)
    else (.error err, s)

/-- One attempt of an update: its error and the state after it. -/
def updateIntention (name : CompoundServiceName) (updateFn : UpdateFn) (s : σ) :
    Option String × σ :=
  match getOrInitIntention client name s with
  | (.error err, s) => (some err, s)
  | (.ok (intention, idx), s) =>
    match updateFn intention.sources with
    | (_, false) => (none, s)
    | (sources, true) =>
      -- an intention without sources is deleted
      if sources.length = 0 then client.delete ⟨intention.name, intention.namespace_⟩ s
      else
        match client.cas { intention with sources := sources } idx s with
        | (.error err, s) => (some err, s)
        | (.ok false, s) => (some "CAS operation failed", s)
        | (.ok true, s) => (none, s)

/-- `backoff.Retry` with a number of retries. -/
def retry (operation : σ → Option String × σ) : ℕ → σ → Option String × σ
  | 0, s => operation s
  | n + 1, s =>
    match operation s with
    | (none, s) => (none, s)
    | (some _, s) => retry operation n s

def updateIntentionsMaxRetries : ℕ := 3

/-- The name of the intention of a target. -/
def intentionName (name : CompoundServiceName) : CompoundServiceName :=
  if name.namespace_ = intentionDefaultNamespace then { name with namespace_ := "" } else name

def updateIntentionSources (name : CompoundServiceName) (updateFn : UpdateFn) (s : σ) :
    Option String × σ :=
  retry (updateIntention client (intentionName name) updateFn) updateIntentionsMaxRetries s

/-! ### The synchronisation -/

/-- The loop over the targets, with the errors. -/
def addSources (source : SourceIntention) : List CompoundServiceName → σ → List String × σ
  | [], s => ([], s)
  | target :: targets, s =>
    match updateIntentionSources client target (addSourceCB source) s with
    | (none, s) => addSources source targets s
    | (some err, s) =>
      let (errs, s) := addSources source targets s
      (("failed to update intention with added gateway source (" ++ target.namespace_ ++ "/" ++
        target.name ++ "): " ++ err) :: errs, s)

/-- The loop over the tombstones, with those that are left and the errors. -/
def delSources (source : SourceIntention) :
    List CompoundServiceName → ServiceNameIndex → σ → ServiceNameIndex × List String × σ
  | [], tombstones, s => (tombstones, [], s)
  | target :: targets, tombstones, s =>
    match updateIntentionSources client target (delSourceCB source) s with
    | (some err, s) =>
      let (tombstones, errs, s) := delSources source targets tombstones s
      (tombstones, ("failed to update intention with removed gateway source (" ++
        target.namespace_ ++ "/" ++ target.name ++ "): " ++ err) :: errs, s)
    | (none, s) => delSources source targets (tombstones.erase target) s

/-- The orders in which a synchronisation visits the targets and the tombstones. -/
structure IntentionOrders where
  targets : List CompoundServiceName
  tombstones : List CompoundServiceName

/-- The targets and the tombstones are visited as a whole. -/
structure IntentionOrders.Of (orders : IntentionOrders) (r : IntentionsReconciler) : Prop where
  targets : GoSet.Ranges r.targetIndex.keys orders.targets
  tombstones : GoSet.Ranges r.targetTombstones orders.tombstones

/-- `syncIntentions` of the reconciler of a gateway. -/
def syncIntentionsOf (gatewayName : CompoundServiceName) (now : String)
    (orders : IntentionOrders) (r : IntentionsReconciler) (s : σ) :
    IntentionsReconciler × Option String × σ :=
  let source := sourceIntention gatewayName now
  let (addErrs, s) := addSources client source orders.targets s
  let (tombstones, delErrs, s) := delSources client source orders.tombstones r.targetTombstones s
  ({ r with targetTombstones := tombstones }, multierror (addErrs ++ delErrs), s)

/-! ### What a synchronisation does to the tombstones -/

/-- The targets whose intention the loop over the tombstones has updated. -/
def delSucceeded (source : SourceIntention) : List CompoundServiceName → σ → ServiceNameIndex
  | [], _ => ∅
  | target :: targets, s =>
    match updateIntentionSources client target (delSourceCB source) s with
    | (some _, s) => delSucceeded source targets s
    | (none, s) => insert target (delSucceeded source targets s)

theorem delSources_tombstones (source : SourceIntention) (targets : List CompoundServiceName)
    (tombstones : ServiceNameIndex) (s : σ) :
    (delSources client source targets tombstones s).1 =
      tombstones \ delSucceeded client source targets s := by
  induction targets generalizing tombstones s with
  | nil => exact (Finset.sdiff_empty).symm
  | cons target targets ih =>
    rw [delSources, delSucceeded]
    split
    · exact ih tombstones _
    · rw [ih, Finset.sdiff_insert, Finset.erase_sdiff_comm]

/-- **A synchronisation keeps the tombstones whose update has failed.** -/
theorem syncIntentionsOf_eq (gatewayName : CompoundServiceName) (now : String)
    (orders : IntentionOrders) (r : IntentionsReconciler) (s : σ) :
    (syncIntentionsOf client gatewayName now orders r s).1 =
      r.syncIntentions (r.targetTombstones \ delSucceeded client (sourceIntention gatewayName now)
        orders.tombstones (addSources client (sourceIntention gatewayName now) orders.targets s).2)
      := by
  unfold syncIntentionsOf IntentionsReconciler.syncIntentions
  simp only [delSources_tombstones]
  rw [Finset.inter_eq_right.2 Finset.sdiff_subset]

end Client

end Consul
