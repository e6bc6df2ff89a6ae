import Sub2api.Proof.Refinement
import Sub2api.Proof.Runs

/-! The stream flag of `Responses`: only the two slot helpers can set it and nothing clears it;
every error the handler writes after its first slot call goes through
`handleStreamingAwareError` with the flag's current value, which writes a JSON body exactly while
the flag is clear, and the one direct `errorResponse` after preflight comes before any slot
call. -/

namespace Sub2api.Proof

open Sub2api.Handler

/-- Whether a reply is a JSON error body, as `c.JSON` writes it. -/
def Reply.isJson : Reply → Bool
  | .json _ _ _ => true
  | .sse _ _ => false

@[simp] theorem isJson_handleStreamingAwareError (status : Nat) (errType message : String)
    (streamStarted : Bool) :
    Reply.isJson (handleStreamingAwareError status errType message streamStarted) =
      !streamStarted := by
  cases streamStarted <;> rfl

/-- A slot helper never clears the flag. -/
@[simp] theorem streamStartedAfter_never_clears (a : SlotAttempt) (isStream started : Bool) :
    (started && !a.streamStartedAfter isStream started) = false := by
  cases started <;> rfl

/-- The stream flag as the slot helper calls so far have left it, and whether a slot helper
has been called. -/
structure StreamState where
  started : Bool
  slotCalled : Bool
  deriving DecidableEq, Repr

/-- The stream flag discipline, one call at a time. The flag changes only at a slot helper call,
as `streamStartedAfter` says, and never from set to clear; `handleStreamingAwareError` is called
with the current flag and writes JSON exactly while it is clear; `errorResponse` is called only
before any slot helper, with the flag clear. -/
def streamStep (s : StreamState) : Event → Option StreamState
  | .acquireUserSlotWithWait _ _ isStream attempt
  | .acquireAccountSlotWithWaitTimeout _ _ isStream attempt =>
    if s.started && !attempt.streamStartedAfter isStream s.started then none
    else some ⟨attempt.streamStartedAfter isStream s.started, true⟩
  | .handleStreamingAwareError status errType message streamStarted =>
    if streamStarted = s.started ∧
        Reply.isJson (handleStreamingAwareError status errType message streamStarted) = !s.started
    then some s else none
  | .errorResponse _ _ _ => if s.started = false ∧ s.slotCalled = false then some s else none
  | _ => some s

/-- The stream flag monitor; it refuses a call and accepts every run it lets through. -/
def streamMonitor : Monitor StreamState where
  init := ⟨false, false⟩
  step := streamStep
  accepting _ := True

@[simp] theorem streamMonitor_init : streamMonitor.init = ⟨false, false⟩ := rfl

@[simp] theorem streamMonitor_step : streamMonitor.step = streamStep := rfl

@[simp] theorem streamMonitor_accepting (s : StreamState) : streamMonitor.accepting s := trivial

variable {h : OpenAIGatewayHandler} {env : Collaborators} {p : Prepared}

@[simp] private theorem stream_recorded (s : StreamState) (e : OpenaiErrorRecordingContext)
    (errorType : String) (statusCode : Nat) (message : String) (upstream : Option Int)
    (rest : List Event) :
    streamMonitor.run s (recorded e errorType statusCode message upstream ++ rest) =
      streamMonitor.run s rest :=
  streamMonitor.run_recorded (fun _ _ => rfl) s e errorType statusCode message upstream rest

section

attribute [local simp] Monitor.AcceptsFrom admissionCalls selectCall exhaustedCall waitCalls
    streamStep userFlag

/-- Every exit writes its errors with the current flag. The loop and the account block carry the
flag as `LoopCalls` threads it. -/
theorem stream_spec : RunSpec streamMonitor h env p (fun _ flag => ⟨flag, true⟩)
    (fun _ _ flag => ⟨flag, true⟩) where
  queueFull _ := by simp
  userSlotFailed _ _ := by simp
  billingFailed _ _ _ := by simp
  entered _ _ _ := by simp
  noAccount _ _ _ := by simp
  exhaustedAtSelect _ _ _ := by simp
  waitFailed _ failed _ := by cases failed <;> simp
  accountSlot _ slot _ := by cases slot <;> simp
  exhausted _ _ _ := by simp
  retry _ _ := by simp
  forwardFailed _ _ := by simp
  succeeded _ := by simp

end

/-- Every run of `Responses` keeps the stream flag discipline. -/
theorem responses_stream_flag (h : OpenAIGatewayHandler) (svc : Service) (req : Request)
    (env : Collaborators) : streamMonitor.Accepts (responses h svc req env).trace := by
  rcases responses_calls h svc req env with ⟨r, -, trace⟩ | ⟨p, calls, -, dispatched, trace⟩
  · exact ⟨⟨false, false⟩, by rw [trace]; rfl, trivial⟩
  · exact trace ▸ stream_spec.accepts dispatched

end Sub2api.Proof
