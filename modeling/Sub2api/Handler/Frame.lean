import Sub2api.Handler.Recording
import Sub2api.Handler.Errors

/-! One call of `Responses` as explicit state: the calls made so far, Go's defer stack and the
local variables that deferred closures read when the function returns. -/

namespace Sub2api.Handler

/-- The deferred calls of `Responses`. A closure reads the variables it captured when the
function returns: `waitCounted`, or the `accountWaitCounted` of its own loop iteration, which
is cell `cell` of `Frame.accountWaitCounted`. -/
inductive Deferred where
  | decrementWaitCount (userID : Int)
  | releaseUserSlot
  | decrementAccountWaitCount (cell : Nat) (accountID : Int)
  deriving DecidableEq, Repr

/-- The state of one call of `Responses`. `accountWaitCounted` holds one cell per loop
iteration that declared the variable, in declaration order. -/
structure Frame where
  trace : List Event := []
  defers : List Deferred := []
  waitCounted : Bool := false
  accountWaitCounted : List Bool := []
  streamStarted : Bool := false

namespace Frame

/-- Make one call. -/
def emit (e : Event) (f : Frame) : Frame := { f with trace := f.trace ++ [e] }

/-- `defer`. -/
def defer (d : Deferred) (f : Frame) : Frame := { f with defers := d :: f.defers }

/-- Run one deferred call when the function returns. -/
def runDeferred (f : Frame) : Deferred → Frame
  | .decrementWaitCount userID =>
    if f.waitCounted then f.emit (.decrementWaitCount userID) else f
  | .releaseUserSlot => f.emit .releaseUserSlot
  | .decrementAccountWaitCount cell accountID =>
    if f.accountWaitCounted.getD cell false then f.emit (.decrementAccountWaitCount accountID)
    else f

/-- `return`: the deferred calls run, most recent first. -/
def exit (f : Frame) : Frame := f.defers.foldl runDeferred { f with defers := [] }

/-- The call a deferred closure makes when it runs in frame `f`, if any. -/
def deferredCall (f : Frame) : Deferred → Option Event
  | .decrementWaitCount userID =>
    if f.waitCounted then some (.decrementWaitCount userID) else none
  | .releaseUserSlot => some .releaseUserSlot
  | .decrementAccountWaitCount cell accountID =>
    if f.accountWaitCounted.getD cell false then some (.decrementAccountWaitCount accountID)
    else none

/-- `errCtx.recordError(..)`: a call of `RecordErrorUsage` when the key has a user. -/
def recordError (e : OpenaiErrorRecordingContext) (errorType : String) (statusCode : Nat)
    (message : String) (upstreamStatusCode : Option Int) (f : Frame) : Frame :=
  match e.recordError errorType statusCode message upstreamStatusCode "" with
  | some input => f.emit (.recordErrorUsage input)
  | none => f

/-- `h.handleStreamingAwareError(c, .., streamStarted)` with the current flag. -/
def streamingAwareError (status : Nat) (errType message : String) (f : Frame) : Frame :=
  f.emit (.handleStreamingAwareError status errType message f.streamStarted)

@[simp] theorem emit_trace (e : Event) (f : Frame) : (f.emit e).trace = f.trace ++ [e] := rfl
@[simp] theorem emit_defers (e : Event) (f : Frame) : (f.emit e).defers = f.defers := rfl
@[simp] theorem emit_waitCounted (e : Event) (f : Frame) :
    (f.emit e).waitCounted = f.waitCounted := rfl
@[simp] theorem emit_accountWaitCounted (e : Event) (f : Frame) :
    (f.emit e).accountWaitCounted = f.accountWaitCounted := rfl
@[simp] theorem emit_streamStarted (e : Event) (f : Frame) :
    (f.emit e).streamStarted = f.streamStarted := rfl
@[simp] theorem defer_trace (d : Deferred) (f : Frame) : (f.defer d).trace = f.trace := rfl
@[simp] theorem defer_defers (d : Deferred) (f : Frame) :
    (f.defer d).defers = d :: f.defers := rfl
@[simp] theorem defer_waitCounted (d : Deferred) (f : Frame) :
    (f.defer d).waitCounted = f.waitCounted := rfl
@[simp] theorem defer_accountWaitCounted (d : Deferred) (f : Frame) :
    (f.defer d).accountWaitCounted = f.accountWaitCounted := rfl
@[simp] theorem defer_streamStarted (d : Deferred) (f : Frame) :
    (f.defer d).streamStarted = f.streamStarted := rfl

@[simp] theorem recordError_defers (e : OpenaiErrorRecordingContext) (errorType : String)
    (statusCode : Nat) (message : String) (upstreamStatusCode : Option Int) (f : Frame) :
    (f.recordError e errorType statusCode message upstreamStatusCode).defers = f.defers := by
  unfold recordError; split <;> rfl

@[simp] theorem recordError_waitCounted (e : OpenaiErrorRecordingContext) (errorType : String)
    (statusCode : Nat) (message : String) (upstreamStatusCode : Option Int) (f : Frame) :
    (f.recordError e errorType statusCode message upstreamStatusCode).waitCounted =
      f.waitCounted := by
  unfold recordError; split <;> rfl

@[simp] theorem recordError_accountWaitCounted (e : OpenaiErrorRecordingContext)
    (errorType : String) (statusCode : Nat) (message : String) (upstreamStatusCode : Option Int)
    (f : Frame) :
    (f.recordError e errorType statusCode message upstreamStatusCode).accountWaitCounted =
      f.accountWaitCounted := by
  unfold recordError; split <;> rfl

@[simp] theorem recordError_streamStarted (e : OpenaiErrorRecordingContext) (errorType : String)
    (statusCode : Nat) (message : String) (upstreamStatusCode : Option Int) (f : Frame) :
    (f.recordError e errorType statusCode message upstreamStatusCode).streamStarted =
      f.streamStarted := by
  unfold recordError; split <;> rfl

/-- The calls a record adds: one `RecordErrorUsage`, or none for a key without a user. -/
theorem recordError_trace (e : OpenaiErrorRecordingContext) (errorType : String)
    (statusCode : Nat) (message : String) (upstreamStatusCode : Option Int) (f : Frame) :
    (f.recordError e errorType statusCode message upstreamStatusCode).trace =
      f.trace ++ ((e.recordError errorType statusCode message upstreamStatusCode "").map
        Event.recordErrorUsage).toList := by
  unfold recordError; split <;> simp [*]

@[simp] theorem streamingAwareError_trace (status : Nat) (errType message : String) (f : Frame) :
    (f.streamingAwareError status errType message).trace =
      f.trace ++ [.handleStreamingAwareError status errType message f.streamStarted] := rfl
@[simp] theorem streamingAwareError_defers (status : Nat) (errType message : String)
    (f : Frame) : (f.streamingAwareError status errType message).defers = f.defers := rfl
@[simp] theorem streamingAwareError_waitCounted (status : Nat) (errType message : String)
    (f : Frame) : (f.streamingAwareError status errType message).waitCounted = f.waitCounted :=
  rfl
@[simp] theorem streamingAwareError_accountWaitCounted (status : Nat) (errType message : String)
    (f : Frame) : (f.streamingAwareError status errType message).accountWaitCounted =
      f.accountWaitCounted := rfl

private theorem runDeferred_eq (f g : Frame) (wait : g.waitCounted = f.waitCounted)
    (cells : g.accountWaitCounted = f.accountWaitCounted) (d : Deferred) :
    runDeferred g d = match f.deferredCall d with
      | some e => g.emit e
      | none => g := by
  cases d <;> simp [runDeferred, deferredCall, wait, cells] <;> split <;> rfl

private theorem foldl_runDeferred (f : Frame) (ds : List Deferred) (g : Frame)
    (wait : g.waitCounted = f.waitCounted) (cells : g.accountWaitCounted = f.accountWaitCounted) :
    (ds.foldl runDeferred g).trace = g.trace ++ ds.filterMap f.deferredCall := by
  induction ds generalizing g with
  | nil => simp
  | cons d ds ih =>
    rw [List.foldl_cons, runDeferred_eq f g wait cells, List.filterMap_cons]
    cases f.deferredCall d with
    | none => exact ih g wait cells
    | some e => simpa using ih (g.emit e) wait cells

/-- `return` adds the calls of the deferred closures, most recent first, each reading the
variables as the function left them. -/
theorem exit_trace (f : Frame) : f.exit.trace = f.trace ++ f.defers.filterMap f.deferredCall :=
  foldl_runDeferred f f.defers _ rfl rfl

end Frame

end Sub2api.Handler
