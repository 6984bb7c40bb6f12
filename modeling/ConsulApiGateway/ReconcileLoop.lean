/-
The reconcile loop of the intentions and the calls that wait for it.

`Reconcile` hands an error channel of its own to `reconcileLoop`, waits on it and closes it on
return.  The channels are unbuffered: a send and its receive are one step.  A `select` first
evaluates the values its cases send, then takes any case that is ready and blocks if none is.
`Stop` cancels the context that every `select` listens to.

The loop and each call are at one of a few points (`Loop`, `Call`), and `Step` has one constructor
for each way they may go on.  A run of `Step` is an interleaving.

* `Served.step` — a call the loop works for has left only if the context is cancelled;
* `Logged.step` — what a call returns is the error of the context, or the result of a
  synchronization that was started for it after it was accepted;
* `panics_iff` — the loop may still send on a closed channel iff the context is cancelled before
  it has entered the `select` that sends.
-/
import ConsulApiGateway.GoMap
import ConsulApiGateway.Newest

open scoped List

namespace Consul.ReconcileLoop

/-! ### The loop and the calls -/

/-- Where a call of `Reconcile` is. -/
inductive Call
  -- it offers its channel to the loop
  | offering
  -- the loop has its channel; it waits for an error on it
  | waiting
  -- it leaves with a result; its channel is still open
  | returning (result : Option String)
  -- it has closed its channel and returned
  | returned (result : Option String)
deriving DecidableEq

def Call.result? : Call → Option (Option String)
  | .offering | .waiting => none
  | .returning result | .returned result => some result

/-- Where `reconcileLoop` is. -/
inductive Loop
  -- at the outer `select`
  | selecting
  -- it has received the channel of a call
  | accepted (id : ℕ)
  -- in the `syncIntentions` whose result is sent on the channel of a call
  | syncing (id : ℕ)
  -- `syncIntentions` has returned; the inner `select` is not entered yet
  | replying (id : ℕ) (result : Option String)
  -- blocked in the inner `select`
  | blocked (id : ℕ) (result : Option String)
  -- handling a discovery chain or a tick of the ticker, which ends in a `syncIntentions`
  | background
  | stopped
  | panicked
deriving DecidableEq

/-- The call the loop works for. -/
def Loop.call? : Loop → Option ℕ
  | .accepted id | .syncing id | .replying id _ | .blocked id _ => some id
  | .selecting | .background | .stopped | .panicked => none

structure LoopState where
  cancelled : Bool := false
  loop : Loop := .selecting
  calls : GoMap ℕ Call := ∅

def contextCanceled : String := "context canceled"

inductive Event
  | call (id : ℕ)
  | accept (id : ℕ)
  | syncStart (id : ℕ)
  | syncEnd (id : ℕ) (result : Option String)
  | block (id : ℕ)
  | reply (id : ℕ)
  | sendOnClosed (id : ℕ)
  | giveUp (id : ℕ)
  | close (id : ℕ)
  | backgroundStart
  | backgroundEnd (result : Option String)
  | exit
  | stop
deriving DecidableEq

/-- A step that only goes on with what is begun: no new call, no acceptance, no `Stop`. -/
def Event.finishing : Event → Bool
  | .call _ | .accept _ | .stop => false
  | _ => true

namespace LoopState

/-- One step of the loop, of a call or of `Stop`.  A panic ends the process. -/
inductive Step : LoopState → Event → LoopState → Prop
  -- `Reconcile` is called
  | call {s : LoopState} {id : ℕ} (halive : s.loop ≠ .panicked) (hnew : s.calls.lookup id = none) :
      Step s (.call id) { s with calls := s.calls.insert id .offering }
  -- the call's first `select` and the loop's outer one meet, also after `Stop`
  | accept {s : LoopState} {id : ℕ} (hloop : s.loop = .selecting)
      (hcall : s.calls.lookup id = some .offering) :
      Step s (.accept id) { s with loop := .accepted id, calls := s.calls.insert id .waiting }
  | syncStart {s : LoopState} {id : ℕ} (hloop : s.loop = .accepted id) :
      Step s (.syncStart id) { s with loop := .syncing id }
  | syncEnd {s : LoopState} {id : ℕ} (result : Option String) (hloop : s.loop = .syncing id) :
      Step s (.syncEnd id result) { s with loop := .replying id result }
  -- the call has not come to its second `select` and the context is not cancelled
  | block {s : LoopState} {id : ℕ} {result : Option String} (hloop : s.loop = .replying id result)
      (hcall : s.calls.lookup id = some .waiting) (hctx : s.cancelled = false) :
      Step s (.block id) { s with loop := .blocked id result }
  -- the inner `select` sends; a blocked one does so only before the context is cancelled
  | reply {s : LoopState} {id : ℕ} {result : Option String}
      (hloop : s.loop = .replying id result ∨ s.loop = .blocked id result ∧ s.cancelled = false)
      (hcall : s.calls.lookup id = some .waiting) :
      Step s (.reply id)
        { s with loop := .selecting, calls := s.calls.insert id (.returning result) }
  -- the send on a closed channel is ready, and panics
  | sendOnClosed {s : LoopState} {id : ℕ} {result result' : Option String}
      (hloop : s.loop = .replying id result)
      (hcall : s.calls.lookup id = some (.returned result')) :
      Step s (.sendOnClosed id) { s with loop := .panicked }
  -- either `select` of the call finds the context cancelled
  | giveUp {s : LoopState} {id : ℕ} (halive : s.loop ≠ .panicked) (hctx : s.cancelled = true)
      (hcall : s.calls.lookup id = some .offering ∨ s.calls.lookup id = some .waiting) :
      Step s (.giveUp id)
        { s with calls := s.calls.insert id (.returning (some contextCanceled)) }
  -- the deferred `close`, with which the call returns
  | close {s : LoopState} {id : ℕ} {result : Option String} (halive : s.loop ≠ .panicked)
      (hcall : s.calls.lookup id = some (.returning result)) :
      Step s (.close id) { s with calls := s.calls.insert id (.returned result) }
  | backgroundStart {s : LoopState} (hloop : s.loop = .selecting) :
      Step s .backgroundStart { s with loop := .background }
  | backgroundEnd {s : LoopState} (result : Option String) (hloop : s.loop = .background) :
      Step s (.backgroundEnd result) { s with loop := .selecting }
  -- the outer or the inner `select` finds the context cancelled
  | exit {s : LoopState} (hctx : s.cancelled = true)
      (hloop : s.loop = .selecting ∨
        ∃ id result, s.loop = .replying id result ∨ s.loop = .blocked id result) :
      Step s .exit { s with loop := .stopped }
  | stop {s : LoopState} (halive : s.loop ≠ .panicked) :
      Step s .stop { s with cancelled := true }

def new : LoopState := {}

/-! ### A call that has left -/

/-- The call the loop works for waits for it, unless the context is cancelled. -/
def Served (s : LoopState) : Prop :=
  ∀ id ∈ s.loop.call?, s.calls.lookup id = some .waiting ∨ s.cancelled = true ∧
    ∃ result, s.calls.lookup id = some (.returning result) ∨
      s.calls.lookup id = some (.returned result)

theorem served_new : new.Served := by
  intro id hid
  cases hid

variable {s s' : LoopState} {e : Event} {id : ℕ} {result : Option String}

theorem Served.step (h : s.Served) (hstep : Step s e s') : s'.Served := by
  intro i hi
  cases hstep with
  | @call id _ hnew =>
    have hne : i ≠ id := by
      rintro rfl
      rcases h i hi with h | ⟨_, r, h | h⟩ <;> rw [hnew] at h <;> cases h
    simpa only [GoMap.lookup_insert_ite, if_neg hne] using h i hi
  | accept hloop hcall =>
    cases hi
    exact .inl (by rw [GoMap.lookup_insert_ite, if_pos rfl])
  | syncStart hloop => exact h i (by rw [hloop]; exact hi)
  | syncEnd _ hloop => exact h i (by rw [hloop]; exact hi)
  | block hloop _ _ => exact h i (by rw [hloop]; exact hi)
  | reply | sendOnClosed | backgroundStart | backgroundEnd | exit => cases hi
  | @giveUp id _ hctx hcall =>
    rcases eq_or_ne i id with rfl | hne
    · exact .inr ⟨hctx, _, .inl (by rw [GoMap.lookup_insert_ite, if_pos rfl])⟩
    · simpa only [GoMap.lookup_insert_ite, if_neg hne] using h i hi
  | @close id result _ hcall =>
    rcases eq_or_ne i id with rfl | hne
    · -- the call did not wait any more, so it left because of the context
      rcases h i hi with hwait | ⟨hctx, _⟩
      · rw [hcall] at hwait
        cases hwait
      · exact .inr ⟨hctx, result, .inr (by rw [GoMap.lookup_insert_ite, if_pos rfl])⟩
    · simpa only [GoMap.lookup_insert_ite, if_neg hne] using h i hi
  | stop =>
    rcases h i hi with hwait | ⟨_, hleft⟩
    · exact .inl hwait
    · exact .inr ⟨rfl, hleft⟩

/-! ### What a call returns -/

/-- What has happened for the call the loop works for. -/
def history : Loop → List Event
  | .accepted id => [.accept id]
  | .syncing id => [.accept id, .syncStart id]
  | .replying id result | .blocked id result =>
    [.accept id, .syncStart id, .syncEnd id result]
  | .selecting | .background | .stopped | .panicked => []

/-- The result is that of a synchronization which was started after the call was accepted. -/
def Synchronized (events : List Event) (id : ℕ) (result : Option String) : Prop :=
  [.accept id, .syncStart id, .syncEnd id result] <+ events

/-- The events so far account for the loop and for every result. -/
structure Logged (events : List Event) (s : LoopState) : Prop where
  loop : history s.loop <+ events
  result : ∀ id call, s.calls.lookup id = some call → ∀ result ∈ call.result?,
    result = some contextCanceled ∨ Synchronized events id result

theorem logged_new : Logged [] new := by
  refine ⟨List.nil_sublist _, fun id call h => ?_⟩
  cases h

variable {events : List Event}

theorem history_snoc {l : List Event} (h : l <+ events) : l ++ [e] <+ events ++ [e] :=
  h.append (List.Sublist.refl _)

theorem Logged.result_snoc (h : Logged events s) {call : Call}
    (hcall : s.calls.lookup id = some call) (hresult : result ∈ call.result?) :
    result = some contextCanceled ∨ Synchronized (events ++ [e]) id result :=
  (h.result id call hcall result hresult).imp_right fun hsync =>
    hsync.trans (List.sublist_append_left _ _)

/-- A call is put at a point with a result that the events account for. -/
theorem Logged.insert (h : Logged events s) {call : Call} {loop : Loop}
    (hloop : history loop <+ events ++ [e])
    (hresult : ∀ result ∈ call.result?,
      result = some contextCanceled ∨ Synchronized (events ++ [e]) id result) :
    Logged (events ++ [e]) { s with loop := loop, calls := s.calls.insert id call } := by
  refine ⟨hloop, fun i c hi => ?_⟩
  rw [GoMap.lookup_insert_ite] at hi
  split_ifs at hi with heq
  · cases hi
    exact heq ▸ hresult
  · exact fun _ => h.result_snoc hi

theorem Logged.advance (h : Logged events s) {loop : Loop} {cancelled : Bool}
    (hloop : history loop <+ events ++ [e]) :
    Logged (events ++ [e]) { s with loop := loop, cancelled := cancelled } :=
  ⟨hloop, fun _ _ hcall _ => h.result_snoc hcall⟩

theorem Logged.step (h : Logged events s) (hstep : Step s e s') :
    Logged (events ++ [e]) s' := by
  have hlog := h.loop
  have hkeep : history s.loop <+ events ++ [e] := hlog.trans (List.sublist_append_left _ _)
  cases hstep with
  | call =>
    refine h.insert hkeep ?_
    intro result hresult
    cases hresult
  | accept =>
    -- whatever happened before, the history of the new call starts with this event
    refine h.insert (List.sublist_append_right _ _) ?_
    intro result hresult
    cases hresult
  | syncStart hloop =>
    rw [hloop] at hlog
    exact h.advance (history_snoc hlog)
  | syncEnd _ hloop =>
    rw [hloop] at hlog
    exact h.advance (history_snoc hlog)
  | block hloop =>
    rw [hloop] at hkeep
    exact h.advance hkeep
  | reply hloop =>
    refine h.insert (List.nil_sublist _) ?_
    intro result hresult
    cases hresult
    rcases hloop with hloop | ⟨hloop, _⟩
    · rw [hloop] at hkeep
      exact .inr hkeep
    · rw [hloop] at hkeep
      exact .inr hkeep
  | giveUp =>
    -- the loop may still be at work for the call, so its history stays
    refine h.insert hkeep ?_
    intro result hresult
    cases hresult
    exact .inl rfl
  | close _ hcall =>
    refine h.insert hkeep ?_
    intro result hresult
    cases hresult
    exact h.result_snoc hcall rfl
  | stop => exact h.advance hkeep
  | sendOnClosed | backgroundStart | backgroundEnd | exit => exact h.advance (List.nil_sublist _)

theorem Logged.run {run : List (Event × LoopState)} (h : Logged events s) (hrun : Run Step s run) :
    Logged (events ++ run.map Prod.fst) (lastState s run) := by
  induction hrun generalizing events with
  | nil s => simpa [lastState] using h
  | cons hstep _ ih => simpa [lastState] using ih (h.step hstep)

/-! ### Sending on a closed channel -/

/-- The context is cancelled while the loop has yet to enter the `select` that replies. -/
def Exposed (s : LoopState) : Prop :=
  s.cancelled = true ∧ ∃ id, s.loop = .accepted id ∨ s.loop = .syncing id ∨
    ∃ result, s.loop = .replying id result

/-- What is begun may still go on to a send on a closed channel. -/
def Panics (s : LoopState) : Prop :=
  ∃ run, Run Step s run ∧ (∀ p ∈ run, p.1.finishing = true) ∧
    (lastState s run).loop = .panicked

theorem Panics.step (hstep : Step s e s') (he : e.finishing = true) (h : s'.Panics) :
    s.Panics := by
  obtain ⟨run, hrun, hfin, hlast⟩ := h
  exact ⟨(e, s') :: run, .cons hstep hrun, List.forall_mem_cons.2 ⟨he, hfin⟩, hlast⟩

theorem panics_of_returned {result' : Option String} (hloop : s.loop = .replying id result)
    (hcall : s.calls.lookup id = some (.returned result')) : s.Panics :=
  .step (.sendOnClosed hloop hcall) rfl ⟨[], .nil _, by simp, rfl⟩

theorem alive_of_replying (hloop : s.loop = .replying id result) : s.loop ≠ .panicked := by
  rw [hloop]
  intro h
  cases h

theorem panics_of_returning {result' : Option String} (hloop : s.loop = .replying id result)
    (hcall : s.calls.lookup id = some (.returning result')) : s.Panics :=
  .step (.close (alive_of_replying hloop) hcall) rfl
    (panics_of_returned hloop (by rw [GoMap.lookup_insert_ite, if_pos rfl]))

theorem panics_of_waiting (hctx : s.cancelled = true) (hloop : s.loop = .replying id result)
    (hcall : s.calls.lookup id = some .waiting) : s.Panics :=
  .step (.giveUp (alive_of_replying hloop) hctx (.inr hcall)) rfl
    (panics_of_returning hloop (by rw [GoMap.lookup_insert_ite, if_pos rfl]))

theorem panics_of_replying (h : s.Served) (hctx : s.cancelled = true)
    (hloop : s.loop = .replying id result) : s.Panics := by
  rcases h id (by rw [hloop]; rfl) with hwait | ⟨_, r, hleft | hleft⟩
  · exact panics_of_waiting hctx hloop hwait
  · exact panics_of_returning hloop hleft
  · exact panics_of_returned hloop hleft

theorem panics_of_syncing (h : s.Served) (hctx : s.cancelled = true)
    (hloop : s.loop = .syncing id) : s.Panics :=
  have hstep := Step.syncEnd none hloop
  .step hstep rfl (panics_of_replying (h.step hstep) hctx rfl)

theorem Exposed.panics (h : s.Served) (hexp : s.Exposed) : s.Panics := by
  obtain ⟨hctx, id, hloop | hloop | ⟨result, hloop⟩⟩ := hexp
  · -- the synchronization may begin after the context was cancelled
    have hstep := Step.syncStart hloop
    exact .step hstep rfl (panics_of_syncing (h.step hstep) hctx rfl)
  · exact panics_of_syncing h hctx hloop
  · exact panics_of_replying h hctx hloop

/-- The channel of the call is closed only if the context was cancelled in the meantime. -/
theorem Served.exposed_of_sendOnClosed (h : s.Served) (hstep : Step s (.sendOnClosed id) s') :
    s.Exposed := by
  cases hstep with
  | @sendOnClosed id result result' hloop hcall =>
    rcases h id (by rw [hloop]; rfl) with hwait | ⟨hctx, _⟩
    · rw [hcall] at hwait
      cases hwait
    · exact ⟨hctx, id, .inr (.inr ⟨result, hloop⟩)⟩

/-- The loop is neither exposed nor has it panicked. -/
def Safe (s : LoopState) : Prop :=
  ¬ s.Exposed ∧ s.loop ≠ .panicked

/-- Without a `Stop` and an acceptance a loop that is safe stays so. -/
theorem Safe.step (h : s.Served) (hsafe : s.Safe) (hstep : Step s e s')
    (he : e.finishing = true) : s'.Safe := by
  obtain ⟨hexp, halive⟩ := hsafe
  cases hstep with
  | call | accept | stop => cases he
  | giveUp | close => exact ⟨hexp, halive⟩
  | @syncStart id hloop =>
    refine ⟨fun hexp' => hexp ⟨hexp'.1, id, .inl hloop⟩, ?_⟩
    simp
  | @syncEnd id _ hloop =>
    refine ⟨fun hexp' => hexp ⟨hexp'.1, id, .inr (.inl hloop)⟩, ?_⟩
    simp
  | sendOnClosed hloop hcall =>
    exact absurd (h.exposed_of_sendOnClosed (.sendOnClosed hloop hcall)) hexp
  | block | reply | backgroundStart | backgroundEnd | exit => simp [Safe, Exposed]

theorem Safe.not_panics (h : s.Served) (hsafe : s.Safe) : ¬ s.Panics := by
  rintro ⟨run, hrun, hfin, hlast⟩
  induction hrun with
  | nil s => exact hsafe.2 hlast
  | cons hstep _ ih =>
    obtain ⟨he, hfin⟩ := List.forall_mem_cons.1 hfin
    exact ih (h.step hstep) (hsafe.step h hstep he) hfin hlast

/-- The loop may still panic iff it is exposed or has panicked already. -/
theorem panics_iff (h : s.Served) : s.Panics ↔ s.Exposed ∨ s.loop = .panicked := by
  refine ⟨fun hp => ?_, fun hs => ?_⟩
  · by_contra hs
    rw [not_or] at hs
    exact Safe.not_panics h hs hp
  · rcases hs with hexp | hpanicked
    · exact hexp.panics h
    · exact ⟨[], .nil _, by simp, hpanicked⟩

theorem Served.run {run : List (Event × LoopState)} (h : s.Served) (hrun : Run Step s run) :
    (lastState s run).Served := by
  induction hrun with
  | nil s => exact h
  | cons hstep _ ih => exact ih (h.step hstep)

/-- A call is accepted, served and returns before anybody stops the reconciler. -/
theorem exists_undisturbedRun : ∃ run, Run Step new run ∧
    run.map Prod.fst = [.call 0, .accept 0, .syncStart 0, .syncEnd 0 none, .reply 0, .close 0] ∧
    Always (fun s _ _ => ¬ s.Exposed) new run ∧
    (lastState new run).calls.lookup 0 = some (.returned none) ∧
    (lastState new run).Safe := by
  refine ⟨_, .cons (.call ?_ rfl) <| .cons (.accept rfl rfl) <| .cons (.syncStart rfl) <|
    .cons (.syncEnd none rfl) <| .cons (.reply (.inl rfl) rfl) <| .cons (.close ?_ rfl) (.nil _),
    rfl, ?_, rfl, ?_⟩
  all_goals simp [new, Exposed, Safe, Always, lastState]

/-- In every interleaving a call that returns nil got the result of a synchronization that was
started after the call was accepted.  As long as the context is not cancelled while the loop has a
result to send, nothing is sent on a closed channel; as soon as it is, what is begun may go on to
a panic. -/
theorem reconcileLoop_sends_iff_exposed (run : List (Event × LoopState)) (hrun : Run Step new run) :
    (∀ id, (lastState new run).calls.lookup id = some (.returned none) →
      Synchronized (run.map Prod.fst) id none) ∧
    (Always (fun s _ _ => ¬ s.Exposed) new run →
      Always (fun _ e _ => ∀ id, e ≠ .sendOnClosed id) new run) ∧
    ((lastState new run).Panics ↔
      (lastState new run).Exposed ∨ (lastState new run).loop = .panicked) := by
  refine ⟨fun id hid => ?_, fun hsafe => ?_, panics_iff (served_new.run hrun)⟩
  · have hlogged := logged_new.run hrun
    rcases hlogged.result id _ hid none rfl with hctx | hsync
    · cases hctx
    · exact hsync
  · refine hrun.always_of_invariant served_new (fun h hstep hexp => ⟨?_, h.step hstep⟩) hsafe
    rintro id rfl
    exact hexp (h.exposed_of_sendOnClosed hstep)

/-- The call of this run returns nil after a synchronization of its own, nothing is sent on a
closed channel and nothing is left to panic. -/
theorem undisturbedCall_returns_nil : ∃ run, Run Step new run ∧
    (lastState new run).calls.lookup 0 = some (.returned none) ∧
    Synchronized (run.map Prod.fst) 0 none ∧
    Always (fun _ e _ => ∀ id, e ≠ .sendOnClosed id) new run ∧ ¬ (lastState new run).Panics := by
  obtain ⟨run, hrun, _, hexp, hreturned, hlast⟩ := exists_undisturbedRun
  obtain ⟨hsync, hsend, hpanics⟩ := reconcileLoop_sends_iff_exposed run hrun
  refine ⟨run, hrun, hreturned, hsync 0 hreturned, hsend hexp, ?_⟩
  rw [hpanics, not_or]
  exact hlast

/-- `Stop` during the synchronization: the call leaves and closes its channel, and when the
synchronization is done the inner `select` has both cases ready. -/
theorem stopDuringReconcile_panics : ∃ run, Run Step new run ∧
    run.map Prod.fst = [.call 0, .accept 0, .syncStart 0, .stop, .giveUp 0, .close 0,
      .syncEnd 0 none, .sendOnClosed 0] ∧
    ¬ Always (fun _ e _ => ∀ id, e ≠ .sendOnClosed id) new run := by
  refine ⟨_, .cons (.call ?_ rfl) <| .cons (.accept rfl rfl) <| .cons (.syncStart rfl) <|
    .cons (.stop ?_) <| .cons (.giveUp ?_ rfl (.inr rfl)) <| .cons (.close ?_ rfl) <|
    .cons (.syncEnd none rfl) <| .cons (.sendOnClosed rfl rfl) (.nil _), rfl, ?_⟩
  all_goals simp [new]

end LoopState

end Consul.ReconcileLoop
