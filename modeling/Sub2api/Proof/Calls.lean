import Sub2api.Handler.Dispatch
import Sub2api.Proof.Monitor

/-! The calls of a run of `Responses` after preflight, described without the frame: which
calls each path of the code makes, in order, deferred calls included. Every claim about runs is
proved over these descriptions; `Refinement` shows the faithful model only produces them. -/

namespace Sub2api.Proof

open Sub2api.Handler

variable (h : OpenAIGatewayHandler) (env : Collaborators) (p : Prepared) (sessionHash : String)

/-- The calls `recordError` adds: one `RecordErrorUsage`, none for a key without a user. -/
def recorded (e : OpenaiErrorRecordingContext) (errorType : String) (statusCode : Nat)
    (message : String) (upstreamStatusCode : Option Int) : List Event :=
  ((e.recordError errorType statusCode message upstreamStatusCode "").map
    Event.recordErrorUsage).toList

/-- A monitor that ignores `RecordErrorUsage` calls lets a record through unchanged. -/
theorem Monitor.run_recorded {State : Type} (m : Monitor State)
    (silent : ∀ s input, m.step s (.recordErrorUsage input) = some s) (s : State)
    (e : OpenaiErrorRecordingContext) (errorType : String) (statusCode : Nat) (message : String)
    (upstreamStatusCode : Option Int) (rest : List Event) :
    m.run s (recorded e errorType statusCode message upstreamStatusCode ++ rest) = m.run s rest := by
  unfold recorded
  cases e.recordError errorType statusCode message upstreamStatusCode "" <;> simp [silent]

/-- A full queue is not a counted wait. -/
theorem countedWait_of_fullQueue {r : Except String Bool} (full : fullQueue r = true) :
    countedWait r = false := by
  cases r with
  | error => rfl
  | ok canWait => cases canWait <;> simp_all [fullQueue, countedWait]

/-- The selection call of an iteration with the loop variables `v`. -/
def selectCall (v : LoopVars) (result : Except String AccountSelectionResult) : Event :=
  .selectAccountWithLoadAwareness p.apiKey.groupID sessionHash p.reqModel v.failedAccountIDs
    result

/-- `handleFailoverExhausted` for an upstream status, with the stream flag. -/
def exhaustedCall (statusCode : Int) (streamStarted : Bool) : Event :=
  .handleStreamingAwareError (mapUpstreamError statusCode).1 (mapUpstreamError statusCode).2.1
    (mapUpstreamError statusCode).2.2 streamStarted

/-- The calls of the account wait (count, then waited slot) in iteration `n`. -/
def waitCalls (n : Nat) (account : Account) (plan : AccountWaitPlan) : List Event :=
  [.incrementAccountWaitCount account.id plan.maxWaiting (env.incrementAccountWaitCount n),
    .acquireAccountSlotWithWaitTimeout account.id plan p.reqStream
      (env.acquireAccountSlotWithWaitTimeout n)]

/-- The decrement of a counted account wait, when the count was taken. -/
def accountDecrement (n : Nat) (account : Account) : List Event :=
  if countedWait (env.incrementAccountWaitCount n) then [.decrementAccountWaitCount account.id]
  else []

/-- How an iteration holds its account slot: from the selection, or by waiting for it. The
calls made, and the stream flag after them. -/
inductive AccountSlot (n : Nat) (sel : AccountSelectionResult) (flag : Bool) :
    List Event → Bool → Prop
  | selected (acquired : sel.acquired = true) : AccountSlot n sel flag [] flag
  | waited {plan : AccountWaitPlan} {release : ReleaseFunc} (notAcquired : sel.acquired = false)
      (planned : sel.waitPlan = some plan)
      (admitted : fullQueue (env.incrementAccountWaitCount n) = false)
      (granted : (env.acquireAccountSlotWithWaitTimeout n).result = .ok release) :
      AccountSlot n sel flag
        (waitCalls env p n sel.account plan ++ accountDecrement env n sel.account ++
          [.bindStickySession p.apiKey.groupID sessionHash sel.account.id])
        ((env.acquireAccountSlotWithWaitTimeout n).streamStartedAfter p.reqStream flag)

/-- How the `if !selection.Acquired` block returns: no wait plan, a full account queue, or a
failed waited acquisition (whose deferred decrement then runs). -/
inductive WaitFailed (n : Nat) (errCtx : OpenaiErrorRecordingContext)
    (sel : AccountSelectionResult) (flag : Bool) : List Event → Prop
  | noWaitPlan (notAcquired : sel.acquired = false) (noPlan : sel.waitPlan = none) :
      WaitFailed n errCtx sel flag
        (recorded errCtx "no_account" 503 "No available accounts" none ++
          [.handleStreamingAwareError 503 "api_error" "No available accounts" flag])
  | queueFull {plan : AccountWaitPlan} (notAcquired : sel.acquired = false)
      (planned : sel.waitPlan = some plan)
      (full : fullQueue (env.incrementAccountWaitCount n) = true) :
      WaitFailed n errCtx sel flag
        ([.incrementAccountWaitCount sel.account.id plan.maxWaiting
            (env.incrementAccountWaitCount n)] ++
          recorded errCtx "concurrency_limit" 429 "Too many pending requests, please retry later"
            none ++
          [.handleStreamingAwareError 429 "rate_limit_error"
            "Too many pending requests, please retry later" flag])
  | slotFailed {plan : AccountWaitPlan} {err : String} (notAcquired : sel.acquired = false)
      (planned : sel.waitPlan = some plan)
      (admitted : fullQueue (env.incrementAccountWaitCount n) = false)
      (refused : (env.acquireAccountSlotWithWaitTimeout n).result = .error err) :
      WaitFailed n errCtx sel flag
        (waitCalls env p n sel.account plan ++
          recorded errCtx "concurrency_limit" 429
            "Concurrency limit exceeded for account, please retry later" none ++
          [.handleStreamingAwareError 429 "rate_limit_error" (concurrencyErrorMessage "account")
            ((env.acquireAccountSlotWithWaitTimeout n).streamStartedAfter p.reqStream flag)] ++
          accountDecrement env n sel.account)

/-- The calls of the failover loop from an iteration with variables `v` and stream flag `flag`
until `Responses` has returned, its deferred calls included. -/
inductive LoopCalls : LoopVars → Bool → List Event → Prop
  | noAccount {v : LoopVars} {flag : Bool} {err : String}
      (refused : env.selectAccountWithLoadAwareness v.switchCount v.failedAccountIDs = .error err)
      (noneFailed : v.failedAccountIDs.isEmpty = true) :
      LoopCalls v flag
        ([selectCall p sessionHash v (.error err)] ++
          recorded v.errCtx "no_account" 503 ("No available accounts: " ++ err) none ++
          [.handleStreamingAwareError 503 "api_error" ("No available accounts: " ++ err) flag,
            .releaseUserSlot])
  | exhaustedAtSelect {v : LoopVars} {flag : Bool} {err : String}
      (refused : env.selectAccountWithLoadAwareness v.switchCount v.failedAccountIDs = .error err)
      (someFailed : v.failedAccountIDs.isEmpty = false) :
      LoopCalls v flag
        ([selectCall p sessionHash v (.error err)] ++
          recorded v.errCtx "upstream_error" (mapUpstreamError v.lastFailoverStatus).1
            (mapUpstreamError v.lastFailoverStatus).2.2 (some v.lastFailoverStatus) ++
          [exhaustedCall v.lastFailoverStatus flag, .releaseUserSlot])
  | waitFailed {v : LoopVars} {flag : Bool} {sel : AccountSelectionResult} {calls : List Event}
      (chosen : env.selectAccountWithLoadAwareness v.switchCount v.failedAccountIDs = .ok sel)
      (failed : WaitFailed env p v.switchCount (v.errCtx.setAccount sel.account) sel flag calls) :
      LoopCalls v flag ([selectCall p sessionHash v (.ok sel)] ++ calls ++ [.releaseUserSlot])
  | exhausted {v : LoopVars} {flag flag' : Bool} {sel : AccountSelectionResult}
      {calls : List Event} {statusCode : Int}
      (chosen : env.selectAccountWithLoadAwareness v.switchCount v.failedAccountIDs = .ok sel)
      (slot : AccountSlot env p sessionHash v.switchCount sel flag calls flag')
      (failover : env.forward v.switchCount = .error (.upstreamFailover statusCode))
      (spent : v.switchCount ≥ h.maxAccountSwitches) :
      LoopCalls v flag
        ([selectCall p sessionHash v (.ok sel)] ++ calls ++
          [.forward sel.account p.body (.error (.upstreamFailover statusCode)),
            .releaseAccountSlot sel.account.id] ++
          recorded (v.errCtx.setAccount sel.account) "upstream_error"
            (mapUpstreamError statusCode).1 (mapUpstreamError statusCode).2.2 (some statusCode) ++
          [exhaustedCall statusCode flag', .releaseUserSlot])
  | retry {v : LoopVars} {flag flag' : Bool} {sel : AccountSelectionResult}
      {calls rest : List Event} {statusCode : Int}
      (chosen : env.selectAccountWithLoadAwareness v.switchCount v.failedAccountIDs = .ok sel)
      (slot : AccountSlot env p sessionHash v.switchCount sel flag calls flag')
      (failover : env.forward v.switchCount = .error (.upstreamFailover statusCode))
      (budget : v.switchCount < h.maxAccountSwitches)
      (next : LoopCalls
        { switchCount := v.switchCount + 1
          failedAccountIDs := v.failedAccountIDs.insert sel.account.id
          lastFailoverStatus := statusCode
          errCtx := v.errCtx.setAccount sel.account } flag' rest) :
      LoopCalls v flag
        ([selectCall p sessionHash v (.ok sel)] ++ calls ++
          [.forward sel.account p.body (.error (.upstreamFailover statusCode)),
            .releaseAccountSlot sel.account.id] ++ rest)
  | forwardFailed {v : LoopVars} {flag flag' : Bool} {sel : AccountSelectionResult}
      {calls : List Event} {message : String}
      (chosen : env.selectAccountWithLoadAwareness v.switchCount v.failedAccountIDs = .ok sel)
      (slot : AccountSlot env p sessionHash v.switchCount sel flag calls flag')
      (failed : env.forward v.switchCount = .error (.other message)) :
      LoopCalls v flag
        ([selectCall p sessionHash v (.ok sel)] ++ calls ++
          [.forward sel.account p.body (.error (.other message)),
            .releaseAccountSlot sel.account.id] ++
          recorded (v.errCtx.setAccount sel.account) "forward_error" 502 message none ++
          [.releaseUserSlot])
  | succeeded {v : LoopVars} {flag flag' : Bool} {sel : AccountSelectionResult}
      {calls : List Event} {result : OpenAIForwardResult}
      (chosen : env.selectAccountWithLoadAwareness v.switchCount v.failedAccountIDs = .ok sel)
      (slot : AccountSlot env p sessionHash v.switchCount sel flag calls flag')
      (succeeded : env.forward v.switchCount = .ok result) :
      LoopCalls v flag
        ([selectCall p sessionHash v (.ok sel)] ++ calls ++
          [.forward sel.account p.body (.ok result), .releaseAccountSlot sel.account.id,
            .recordUsage
              { result := result
                apiKey := p.apiKey
                user := p.apiKey.user
                account := sel.account
                subscription := p.subscription
                userAgent := p.c.getHeader "User-Agent"
                ipAddress := p.c.clientIP },
            .releaseUserSlot])

/-- The user-level calls before the loop: the wait count, the user slot and its decrement. -/
def admissionCalls : List Event :=
  [.incrementWaitCount p.subject.userID (env.calculateMaxWait p.subject.concurrency)
      env.incrementWaitCount,
    .acquireUserSlotWithWait p.subject.userID p.subject.concurrency p.reqStream
      env.acquireUserSlotWithWait]

/-- The decrement of the user wait count, when it was counted. -/
def userDecrement : List Event :=
  if countedWait env.incrementWaitCount then [.decrementWaitCount p.subject.userID] else []

/-- The stream flag after the user slot helper. -/
def userFlag : Bool := env.acquireUserSlotWithWait.streamStartedAfter p.reqStream false

/-- The calls of `Responses` after preflight until it has returned. -/
inductive DispatchCalls : List Event → Prop
  | queueFull (full : fullQueue env.incrementWaitCount = true) :
      DispatchCalls
        ([.incrementWaitCount p.subject.userID (env.calculateMaxWait p.subject.concurrency)
            env.incrementWaitCount] ++
          recorded p.errCtx "concurrency_limit" 429
            "Too many pending requests, please retry later" none ++
          [.errorResponse 429 "rate_limit_error" "Too many pending requests, please retry later"])
  | userSlotFailed {err : String} (admitted : fullQueue env.incrementWaitCount = false)
      (refused : env.acquireUserSlotWithWait.result = .error err) :
      DispatchCalls
        (admissionCalls env p ++
          recorded p.errCtx "concurrency_limit" 429
            "Concurrency limit exceeded for user, please retry later" none ++
          [.handleStreamingAwareError 429 "rate_limit_error" (concurrencyErrorMessage "user")
            (userFlag env p)] ++
          userDecrement env p)
  | billingFailed {release : ReleaseFunc} {err : String}
      (admitted : fullQueue env.incrementWaitCount = false)
      (granted : env.acquireUserSlotWithWait.result = .ok release)
      (ineligible : env.checkBillingEligibility = some err) :
      DispatchCalls
        (admissionCalls env p ++ userDecrement env p ++ [.checkBillingEligibility (some err)] ++
          recorded p.errCtx "billing_error" (env.billingErrorDetails err).1
            (env.billingErrorDetails err).2.2 none ++
          [.handleStreamingAwareError (env.billingErrorDetails err).1
            (env.billingErrorDetails err).2.1 (env.billingErrorDetails err).2.2 (userFlag env p),
            .releaseUserSlot])
  | looped {release : ReleaseFunc} {calls : List Event}
      (admitted : fullQueue env.incrementWaitCount = false)
      (granted : env.acquireUserSlotWithWait.result = .ok release)
      (eligible : env.checkBillingEligibility = none)
      (loop : LoopCalls h env p env.generateSessionHash
        { switchCount := 0, failedAccountIDs := [], lastFailoverStatus := 0, errCtx := p.errCtx }
        (userFlag env p) calls) :
      DispatchCalls
        (admissionCalls env p ++ userDecrement env p ++ [.checkBillingEligibility none] ++ calls)

end Sub2api.Proof
