import Sub2api.Handler.Frame

/-! `Responses` after preflight (lines 145–335 of `openai_gateway_handler.go`): the user wait
count and slot, the billing re-check, and the failover loop over accounts. -/

namespace Sub2api.Handler

/-- The answers of the collaborators of one run, and the package functions `Responses` calls
that are not in the source (`service.CalculateMaxWait`, `billingErrorDetails`). Calls made once
per request are values; calls made in the failover loop are indexed by `switchCount`, the number
of account switches made before the call, and the selector also sees the failed set. -/
structure Collaborators where
  calculateMaxWait : Int → Int
  incrementWaitCount : Except String Bool
  acquireUserSlotWithWait : SlotAttempt
  checkBillingEligibility : Option String
  billingErrorDetails : String → Nat × String × String
  generateSessionHash : String
  selectAccountWithLoadAwareness : Nat → List Int → Except String AccountSelectionResult
  incrementAccountWaitCount : Nat → Except String Bool
  acquireAccountSlotWithWaitTimeout : Nat → SlotAttempt
  forward : Nat → Except ForwardError OpenAIForwardResult

/-- What preflight hands on: the request context, the authenticated key and subject, and the
parsed model, stream flag and body to forward. -/
structure Prepared where
  c : GinContext
  apiKey : APIKey
  subject : AuthSubject
  subscription : Option UserSubscription
  reqModel : String
  reqStream : Bool
  body : List UInt8

/-- `err == nil && canWait` after a wait-count call. -/
def countedWait : Except String Bool → Bool
  | .ok canWait => canWait
  | .error _ => false

/-- `err == nil && !canWait`: the wait queue is full. -/
def fullQueue : Except String Bool → Bool
  | .ok canWait => !canWait
  | .error _ => false

/-- Modelled from the spec: `wrapReleaseOnDone` is not in the source. §9 wraps a release with a
once-guard and a watcher that calls it when the request context is done; a nil release stays
nil. The watcher's own call is not a call of the handler. -/
def wrapReleaseOnDone (releaseFunc : Option ReleaseFunc) : Option ReleaseFunc := releaseFunc

/-- Modelled from the spec: the slot helpers of `ConcurrencyHelper` are not in the source.
§4.A: they set `*streamStarted` on their first heartbeat, only for a streaming request, and
never clear it. -/
def SlotAttempt.streamStartedAfter (a : SlotAttempt) (isStream streamStarted : Bool) : Bool :=
  streamStarted || (isStream && a.heartbeat)

/-- How a block of `Responses` ends: at a `return`, or falling through with a value. -/
inductive Exit (α : Type) where
  | returned (f : Frame)
  | next (a : α) (f : Frame)

namespace Frame

/-- `handleConcurrencyError`. -/
def handleConcurrencyError (slotType : String) (f : Frame) : Frame :=
  f.streamingAwareError 429 "rate_limit_error" (concurrencyErrorMessage slotType)

/-- `handleFailoverExhausted`. -/
def handleFailoverExhausted (statusCode : Int) (f : Frame) : Frame :=
  f.streamingAwareError (mapUpstreamError statusCode).1 (mapUpstreamError statusCode).2.1
    (mapUpstreamError statusCode).2.2

/-- A call of a slot helper, with its effect on `streamStarted`. -/
def acquire (e : Event) (a : SlotAttempt) (isStream : Bool) (f : Frame) : Frame :=
  { f.emit e with streamStarted := a.streamStartedAfter isStream f.streamStarted }

@[simp] theorem acquire_trace (e : Event) (a : SlotAttempt) (isStream : Bool) (f : Frame) :
    (f.acquire e a isStream).trace = f.trace ++ [e] := rfl
@[simp] theorem acquire_defers (e : Event) (a : SlotAttempt) (isStream : Bool) (f : Frame) :
    (f.acquire e a isStream).defers = f.defers := rfl
@[simp] theorem acquire_waitCounted (e : Event) (a : SlotAttempt) (isStream : Bool) (f : Frame) :
    (f.acquire e a isStream).waitCounted = f.waitCounted := rfl
@[simp] theorem acquire_accountWaitCounted (e : Event) (a : SlotAttempt) (isStream : Bool)
    (f : Frame) : (f.acquire e a isStream).accountWaitCounted = f.accountWaitCounted := rfl
@[simp] theorem acquire_streamStarted (e : Event) (a : SlotAttempt) (isStream : Bool)
    (f : Frame) :
    (f.acquire e a isStream).streamStarted = a.streamStartedAfter isStream f.streamStarted := rfl

@[simp] theorem handleConcurrencyError_eq (slotType : String) (f : Frame) :
    f.handleConcurrencyError slotType =
      f.streamingAwareError 429 "rate_limit_error" (concurrencyErrorMessage slotType) := rfl

@[simp] theorem handleFailoverExhausted_eq (statusCode : Int) (f : Frame) :
    f.handleFailoverExhausted statusCode =
      f.streamingAwareError (mapUpstreamError statusCode).1 (mapUpstreamError statusCode).2.1
        (mapUpstreamError statusCode).2.2 := rfl

end Frame

variable (h : OpenAIGatewayHandler) (env : Collaborators) (p : Prepared) (sessionHash : String)

/-- Lines 236–282, the `if !selection.Acquired` block: the account wait count and the waited
account slot. -/
def waitForAccount (switchCount : Nat) (errCtx : OpenaiErrorRecordingContext)
    (selection : AccountSelectionResult) (f : Frame) : Exit (Option ReleaseFunc) :=
  let account := selection.account
  if selection.acquired then .next selection.releaseFunc f else
  match selection.waitPlan with
  | none =>
    .returned ((f.recordError errCtx "no_account" 503 "No available accounts" none
      ).streamingAwareError 503 "api_error" "No available accounts")
  | some plan =>
    let cell := f.accountWaitCounted.length
    let f := { f with accountWaitCounted := f.accountWaitCounted ++ [false] }
    let canWait := env.incrementAccountWaitCount switchCount
    let f := f.emit (.incrementAccountWaitCount account.id plan.maxWaiting canWait)
    if fullQueue canWait then
      .returned ((f.recordError errCtx "concurrency_limit" 429
        "Too many pending requests, please retry later" none).streamingAwareError 429
        "rate_limit_error" "Too many pending requests, please retry later")
    else
    let f := { f with accountWaitCounted :=
      (if countedWait canWait then f.accountWaitCounted.set cell true else f.accountWaitCounted) }
    let f := f.defer (.decrementAccountWaitCount cell account.id)
    let attempt := env.acquireAccountSlotWithWaitTimeout switchCount
    let f := f.acquire (.acquireAccountSlotWithWaitTimeout account.id plan p.reqStream attempt)
      attempt p.reqStream
    match attempt.result with
    | .error _ =>
      .returned ((f.recordError errCtx "concurrency_limit" 429
        "Concurrency limit exceeded for account, please retry later" none
        ).handleConcurrencyError "account")
    | .ok releaseFunc =>
      let f := if f.accountWaitCounted.getD cell false then
        { f.emit (.decrementAccountWaitCount account.id) with
          accountWaitCounted := f.accountWaitCounted.set cell false } else f
      .next (some releaseFunc)
        (f.emit (.bindStickySession p.apiKey.groupID sessionHash account.id))

/-- The variables of the failover loop. -/
structure LoopVars where
  switchCount : Nat
  failedAccountIDs : List Int
  lastFailoverStatus : Int
  errCtx : OpenaiErrorRecordingContext

/-- The body of the `for` loop of `Responses` (lines 214–333); `continue` is `.next` with the
variables of the next iteration. -/
def iteration (v : LoopVars) (f : Frame) : Exit LoopVars :=
  let selection := env.selectAccountWithLoadAwareness v.switchCount v.failedAccountIDs
  let f := f.emit (.selectAccountWithLoadAwareness p.apiKey.groupID sessionHash p.reqModel
    v.failedAccountIDs selection)
  match selection with
  | .error err =>
    if v.failedAccountIDs.isEmpty then
      .returned ((f.recordError v.errCtx "no_account" 503 ("No available accounts: " ++ err) none
        ).streamingAwareError 503 "api_error" ("No available accounts: " ++ err))
    else
      .returned ((f.recordError v.errCtx "upstream_error" (mapUpstreamError v.lastFailoverStatus).1
        (mapUpstreamError v.lastFailoverStatus).2.2 (some v.lastFailoverStatus)
        ).handleFailoverExhausted v.lastFailoverStatus)
  | .ok selection =>
    let account := selection.account
    let errCtx := v.errCtx.setAccount account
    match waitForAccount env p sessionHash v.switchCount errCtx selection f with
    | .returned f => .returned f
    | .next accountReleaseFunc f =>
      let accountReleaseFunc := wrapReleaseOnDone accountReleaseFunc
      let result := env.forward v.switchCount
      let f := f.emit (.forward account p.body result)
      let f := if accountReleaseFunc.isSome then f.emit (.releaseAccountSlot account.id) else f
      match result with
      | .error (.upstreamFailover statusCode) =>
        let failedAccountIDs := v.failedAccountIDs.insert account.id
        if v.switchCount ≥ h.maxAccountSwitches then
          .returned ((f.recordError errCtx "upstream_error" (mapUpstreamError statusCode).1
            (mapUpstreamError statusCode).2.2 (some statusCode)).handleFailoverExhausted statusCode)
        else
          .next { switchCount := v.switchCount + 1, failedAccountIDs := failedAccountIDs
                  lastFailoverStatus := statusCode, errCtx := errCtx } f
      | .error (.other message) => .returned (f.recordError errCtx "forward_error" 502 message none)
      | .ok result =>
        .returned (f.emit (.recordUsage
          { result := result
            apiKey := p.apiKey
            user := p.apiKey.user
            account := account
            subscription := p.subscription
            userAgent := p.c.getHeader "User-Agent"
            ipAddress := p.c.clientIP }))

/-- The loop continues only past a failover that found the switch budget not spent. -/
theorem iteration_next {v v' : LoopVars} {f f' : Frame}
    (continues : iteration h env p sessionHash v f = .next v' f') :
    v.switchCount < h.maxAccountSwitches ∧ v'.switchCount = v.switchCount + 1 := by
  unfold iteration at continues
  dsimp only at continues
  split at continues
  · split at continues <;> cases continues
  · split at continues
    · cases continues
    · split at continues
      · split at continues
        · cases continues
        · cases continues
          exact ⟨by omega, rfl⟩
      · cases continues
      · cases continues

/-- The `for` loop of `Responses` (lines 213–334). -/
def loop (v : LoopVars) (f : Frame) : Frame :=
  match continues : iteration h env p sessionHash v f with
  | .returned f => f
  | .next v' f' => loop v' f'
termination_by h.maxAccountSwitches - v.switchCount
decreasing_by
  have step := iteration_next h env p sessionHash continues
  omega

theorem loop_returned {v : LoopVars} {f f' : Frame}
    (found : iteration h env p sessionHash v f = .returned f') :
    loop h env p sessionHash v f = f' := by
  rw [loop]
  split <;> simp_all

theorem loop_next {v v' : LoopVars} {f f' : Frame}
    (found : iteration h env p sessionHash v f = .next v' f') :
    loop h env p sessionHash v f = loop h env p sessionHash v' f' := by
  rw [loop]
  split <;> simp_all

/-- The error recording context as `Responses` sets it up before the wait queue. -/
def Prepared.errCtx : OpenaiErrorRecordingContext :=
  { c := p.c, apiKey := p.apiKey, subscription := p.subscription, model := p.reqModel
    stream := p.reqStream, account := none }

/-- Lines 196–213: the billing re-check, then the loop from its initial variables. -/
def checkBilling (f : Frame) : Frame :=
  let billing := env.checkBillingEligibility
  let f := f.emit (.checkBillingEligibility billing)
  match billing with
  | some err =>
    let details := env.billingErrorDetails err
    (f.recordError p.errCtx "billing_error" details.1 details.2.2 none).streamingAwareError
      details.1 details.2.1 details.2.2
  | none => loop h env p env.generateSessionHash
    { switchCount := 0, failedAccountIDs := [], lastFailoverStatus := 0, errCtx := p.errCtx } f

/-- Lines 145–203: the user wait count and the user slot, then billing and the loop. The
frame is the one `Responses` returns with; its deferred calls have not run. -/
def dispatch : Frame :=
  let f : Frame := {}
  let canWait := env.incrementWaitCount
  let f := f.emit (.incrementWaitCount p.subject.userID
    (env.calculateMaxWait p.subject.concurrency) canWait)
  if fullQueue canWait then
    (f.recordError p.errCtx "concurrency_limit" 429
      "Too many pending requests, please retry later" none).emit
      (.errorResponse 429 "rate_limit_error" "Too many pending requests, please retry later")
  else
  let f := { f with waitCounted := countedWait canWait }
  let f := f.defer (.decrementWaitCount p.subject.userID)
  let attempt := env.acquireUserSlotWithWait
  let f := f.acquire (.acquireUserSlotWithWait p.subject.userID p.subject.concurrency
    p.reqStream attempt) attempt p.reqStream
  match attempt.result with
  | .error _ =>
    (f.recordError p.errCtx "concurrency_limit" 429
      "Concurrency limit exceeded for user, please retry later" none
      ).handleConcurrencyError "user"
  | .ok userReleaseFunc =>
    let f := if f.waitCounted then
      { f.emit (.decrementWaitCount p.subject.userID) with waitCounted := false } else f
    let userReleaseFunc := wrapReleaseOnDone (some userReleaseFunc)
    let f := if userReleaseFunc.isSome then f.defer .releaseUserSlot else f
    checkBilling h env p f

end Sub2api.Handler
