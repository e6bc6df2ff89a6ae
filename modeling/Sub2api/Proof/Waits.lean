import Sub2api.Proof.Refinement
import Sub2api.Proof.Runs

/-! The wait counts of `Responses`. A wait is counted when `IncrementWaitCount` or
`IncrementAccountWaitCount` answers `(true, nil)`; it is then decremented exactly once, for the
same user or account, and no wait that was not counted is decremented. A counted wait lasts until
its slot acquisition ends: that acquisition is the next call, and a granted one is followed at
once by the decrement. A refused one leaves the wait counted while the error is recorded and
written; the deferred decrement settles it as `Responses` returns. Billing, selection and
`Forward` run with no wait counted. -/

namespace Sub2api.Proof

open Sub2api.Handler

/-- Where one wait stands: none counted, counted with its slot acquisition still to come, or
counted with its slot granted or refused. -/
inductive WaitPhase where
  | idle
  | queued (id : Int)
  | granted (id : Int)
  | refused (id : Int)
  deriving DecidableEq, Repr

/-- The phase an increment for `id` leaves: a wait is counted exactly when the increment answered
`(true, nil)`. -/
def WaitPhase.ofIncrement (id : Int) : Except String Bool → WaitPhase
  | .ok true => .queued id
  | _ => .idle

/-- The phase after a slot acquisition for `id`; only the wait of `id` can be waiting for it. -/
def WaitPhase.acquire (phase : WaitPhase) (id : Int) (granted : Bool) : Option WaitPhase :=
  match phase with
  | .idle => some .idle
  | .queued id' => if id' = id then some (if granted then .granted id else .refused id) else none
  | _ => none

/-- The phase after a decrement for `id`: it settles a wait of `id` whose acquisition ended. -/
def WaitPhase.decrement (phase : WaitPhase) (id : Int) : Option WaitPhase :=
  match phase with
  | .granted id' | .refused id' => if id' = id then some .idle else none
  | _ => none

/-- A phase in which the handler may record and write an error: no wait, or one whose slot was
refused. -/
def WaitPhase.settling : WaitPhase → Bool
  | .idle | .refused _ => true
  | _ => false

/-- The waits a request has counted: its user's, and an account's. -/
structure WaitState where
  user : WaitPhase
  account : WaitPhase
  deriving DecidableEq, Repr

/-- No wait counted. -/
def WaitState.settled : WaitState := ⟨.idle, .idle⟩

/-- The wait discipline, one call at a time. An increment is made with no wait counted; a counted
wait admits only its slot acquisition, a granted one only its decrement, and a refused one the
error's record and reply before its decrement; every other call needs no wait counted. -/
def waitStep (s : WaitState) : Event → Option WaitState
  | .incrementWaitCount userID _ result =>
    if s = .settled then some { s with user := .ofIncrement userID result } else none
  | .acquireUserSlotWithWait userID _ _ attempt =>
    if s.account = .idle then
      (s.user.acquire userID attempt.result.toBool).map fun user => { s with user := user }
    else none
  | .decrementWaitCount userID => (s.user.decrement userID).map fun user => { s with user := user }
  | .incrementAccountWaitCount accountID _ result =>
    if s = .settled then some { s with account := .ofIncrement accountID result } else none
  | .acquireAccountSlotWithWaitTimeout accountID _ _ attempt =>
    if s.user = .idle then
      (s.account.acquire accountID attempt.result.toBool).map fun account =>
        { s with account := account }
    else none
  | .decrementAccountWaitCount accountID =>
    (s.account.decrement accountID).map fun account => { s with account := account }
  | .recordErrorUsage _ | .errorResponse _ _ _ | .handleStreamingAwareError _ _ _ _ =>
    if s.user.settling ∧ s.account.settling then some s else none
  | _ => if s = .settled then some s else none

/-- The wait monitor: a run ends with every counted wait decremented. -/
def waitMonitor : Monitor WaitState where
  init := .settled
  step := waitStep
  accepting s := s = .settled

@[simp] theorem waitMonitor_init : waitMonitor.init = .settled := rfl

@[simp] theorem waitMonitor_step : waitMonitor.step = waitStep := rfl

@[simp] theorem waitMonitor_accepting (s : WaitState) : waitMonitor.accepting s ↔ s = .settled :=
  Iff.rfl

variable {h : OpenAIGatewayHandler} {env : Collaborators} {p : Prepared}

/-- An error is recorded in any state that lets the handler record it. -/
@[simp] private theorem wait_recorded {s : WaitState}
    (settling : s.user.settling = true ∧ s.account.settling = true)
    (e : OpenaiErrorRecordingContext) (errorType : String) (statusCode : Nat) (message : String)
    (upstream : Option Int) (rest : List Event) :
    waitMonitor.run s (recorded e errorType statusCode message upstream ++ rest) =
      waitMonitor.run s rest := by
  unfold recorded
  cases e.recordError errorType statusCode message upstream "" <;> simp [waitStep, settling]

section

attribute [local simp] Monitor.AcceptsFrom admissionCalls selectCall exhaustedCall waitCalls
    waitStep userDecrement accountDecrement countedWait Except.toBool WaitPhase.ofIncrement
    WaitPhase.acquire WaitPhase.decrement WaitPhase.settling WaitState.settled

end

end Sub2api.Proof
