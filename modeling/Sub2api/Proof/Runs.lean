import Sub2api.Proof.Calls

/-! Every monitor over `Responses` is checked the same way, exit by exit. `RunSpec` lists what a
monitor must show of each exit of the code after preflight and of each iteration of the failover
loop; `RunSpec.accepts` does the induction over the loop once, for every monitor. -/

namespace Sub2api.Proof

open Sub2api.Handler

variable {State : Type}

/-- A monitor that lets a decrement of the user wait count through unchanged. -/
@[simp] theorem Monitor.run_userDecrement (m : Monitor State)
    (silent : ∀ s userID, m.step s (.decrementWaitCount userID) = some s) (env : Collaborators)
    (p : Prepared) (s : State) (rest : List Event) :
    m.run s (userDecrement env p ++ rest) = m.run s rest := by
  unfold userDecrement
  split <;> simp [silent]

@[simp] theorem Monitor.run_userDecrement_end (m : Monitor State)
    (silent : ∀ s userID, m.step s (.decrementWaitCount userID) = some s) (env : Collaborators)
    (p : Prepared) (s : State) : m.run s (userDecrement env p) = some s := by
  simpa using m.run_userDecrement silent env p s []

/-- A monitor that lets a decrement of an account wait count through unchanged. -/
@[simp] theorem Monitor.run_accountDecrement (m : Monitor State)
    (silent : ∀ s accountID, m.step s (.decrementAccountWaitCount accountID) = some s)
    (env : Collaborators) (n : Nat) (account : Account) (s : State) (rest : List Event) :
    m.run s (accountDecrement env n account ++ rest) = m.run s rest := by
  unfold accountDecrement
  split <;> simp [silent]

/-- The fields of an error recording context that `recordError` copies from the request. -/
def RecordsRequest (p : Prepared) (e : OpenaiErrorRecordingContext) : Prop :=
  e.apiKey = p.apiKey ∧ e.model = p.reqModel ∧ e.stream = p.reqStream

theorem Prepared.recordsRequest_errCtx (p : Prepared) : RecordsRequest p p.errCtx := ⟨rfl, rfl, rfl⟩

@[simp] theorem recordsRequest_setAccount {p : Prepared} {e : OpenaiErrorRecordingContext}
    (account : Account) : RecordsRequest p (e.setAccount account) ↔ RecordsRequest p e := Iff.rfl

@[simp] theorem setAccount_account (e : OpenaiErrorRecordingContext) (account : Account) :
    (e.setAccount account).account = some account := rfl

@[simp] theorem setAccount_apiKey (e : OpenaiErrorRecordingContext) (account : Account) :
    (e.setAccount account).apiKey = e.apiKey := rfl

@[simp] theorem Prepared.errCtx_account (p : Prepared) : p.errCtx.account = none := rfl

@[simp] theorem Prepared.errCtx_apiKey (p : Prepared) : p.errCtx.apiKey = p.apiKey := rfl

/-- What a monitor `m` must show of each exit of `Responses` after preflight, as `DispatchCalls`
and `LoopCalls` list them, to accept every run. `top v flag` is its state at the top of an
iteration with loop variables `v` and stream flag `flag`, and `held v sel flag` its state once
the selected account's slot is held, just before `Forward`. An iteration may assume that its
error recording context still names the request. -/
structure RunSpec (m : Monitor State) (h : OpenAIGatewayHandler) (env : Collaborators)
    (p : Prepared) (top : LoopVars → Bool → State)
    (held : LoopVars → AccountSelectionResult → Bool → State) : Prop where
  queueFull (full : fullQueue env.incrementWaitCount = true) :
    m.AcceptsFrom m.init
      ([.incrementWaitCount p.subject.userID (env.calculateMaxWait p.subject.concurrency)
          env.incrementWaitCount] ++
        recorded p.errCtx "concurrency_limit" 429
          "Too many pending requests, please retry later" none ++
        [.errorResponse 429 "rate_limit_error" "Too many pending requests, please retry later"])
  userSlotFailed {err : String} (admitted : fullQueue env.incrementWaitCount = false)
      (refused : env.acquireUserSlotWithWait.result = .error err) :
    m.AcceptsFrom m.init
      (admissionCalls env p ++
        recorded p.errCtx "concurrency_limit" 429
          "Concurrency limit exceeded for user, please retry later" none ++
        [.handleStreamingAwareError 429 "rate_limit_error" (concurrencyErrorMessage "user")
          (userFlag env p)] ++
        userDecrement env p)
  billingFailed {release : ReleaseFunc} {err : String}
      (admitted : fullQueue env.incrementWaitCount = false)
      (granted : env.acquireUserSlotWithWait.result = .ok release)
      (ineligible : env.checkBillingEligibility = some err) :
    m.AcceptsFrom m.init
      (admissionCalls env p ++ userDecrement env p ++ [.checkBillingEligibility (some err)] ++
        recorded p.errCtx "billing_error" (env.billingErrorDetails err).1
          (env.billingErrorDetails err).2.2 none ++
        [.handleStreamingAwareError (env.billingErrorDetails err).1
          (env.billingErrorDetails err).2.1 (env.billingErrorDetails err).2.2 (userFlag env p),
          .releaseUserSlot])
  entered {release : ReleaseFunc} (admitted : fullQueue env.incrementWaitCount = false)
      (granted : env.acquireUserSlotWithWait.result = .ok release)
      (eligible : env.checkBillingEligibility = none) :
    m.run m.init (admissionCalls env p ++ userDecrement env p ++ [.checkBillingEligibility none]) =
      some (top
        { switchCount := 0, failedAccountIDs := [], lastFailoverStatus := 0, errCtx := p.errCtx }
        (userFlag env p))
  noAccount {v : LoopVars} {flag : Bool} {err : String}
      (refused : env.selectAccountWithLoadAwareness v.switchCount v.failedAccountIDs = .error err)
      (noneFailed : v.failedAccountIDs.isEmpty = true) (fields : RecordsRequest p v.errCtx) :
    m.AcceptsFrom (top v flag)
      ([selectCall p env.generateSessionHash v (.error err)] ++
        recorded v.errCtx "no_account" 503 ("No available accounts: " ++ err) none ++
        [.handleStreamingAwareError 503 "api_error" ("No available accounts: " ++ err) flag,
          .releaseUserSlot])
  exhaustedAtSelect {v : LoopVars} {flag : Bool} {err : String}
      (refused : env.selectAccountWithLoadAwareness v.switchCount v.failedAccountIDs = .error err)
      (someFailed : v.failedAccountIDs.isEmpty = false) (fields : RecordsRequest p v.errCtx) :
    m.AcceptsFrom (top v flag)
      ([selectCall p env.generateSessionHash v (.error err)] ++
        recorded v.errCtx "upstream_error" (mapUpstreamError v.lastFailoverStatus).1
          (mapUpstreamError v.lastFailoverStatus).2.2 (some v.lastFailoverStatus) ++
        [exhaustedCall v.lastFailoverStatus flag, .releaseUserSlot])
  waitFailed {v : LoopVars} {flag : Bool} {sel : AccountSelectionResult} {calls : List Event}
      (chosen : env.selectAccountWithLoadAwareness v.switchCount v.failedAccountIDs = .ok sel)
      (failed : WaitFailed env p v.switchCount (v.errCtx.setAccount sel.account) sel flag calls)
      (fields : RecordsRequest p v.errCtx) :
    m.AcceptsFrom (top v flag)
      ([selectCall p env.generateSessionHash v (.ok sel)] ++ calls ++ [.releaseUserSlot])
  accountSlot {v : LoopVars} {flag flag' : Bool} {sel : AccountSelectionResult}
      {calls : List Event}
      (chosen : env.selectAccountWithLoadAwareness v.switchCount v.failedAccountIDs = .ok sel)
      (slot : AccountSlot env p env.generateSessionHash v.switchCount sel flag calls flag')
      (rest : List Event) :
    m.run (top v flag) (selectCall p env.generateSessionHash v (.ok sel) :: (calls ++ rest)) =
      m.run (held v sel flag') rest
  exhausted {v : LoopVars} {flag : Bool} {sel : AccountSelectionResult} {statusCode : Int}
      (failover : env.forward v.switchCount = .error (.upstreamFailover statusCode))
      (spent : v.switchCount ≥ h.maxAccountSwitches) (fields : RecordsRequest p v.errCtx) :
    m.AcceptsFrom (held v sel flag)
      (.forward sel.account p.body (.error (.upstreamFailover statusCode)) ::
        .releaseAccountSlot sel.account.id ::
        (recorded (v.errCtx.setAccount sel.account) "upstream_error"
            (mapUpstreamError statusCode).1 (mapUpstreamError statusCode).2.2 (some statusCode) ++
          [exhaustedCall statusCode flag, .releaseUserSlot]))
  retry {v : LoopVars} {flag : Bool} {sel : AccountSelectionResult} {statusCode : Int}
      (failover : env.forward v.switchCount = .error (.upstreamFailover statusCode))
      (budget : v.switchCount < h.maxAccountSwitches) :
    m.run (held v sel flag)
        [.forward sel.account p.body (.error (.upstreamFailover statusCode)),
          .releaseAccountSlot sel.account.id] =
      some (top
        { switchCount := v.switchCount + 1
          failedAccountIDs := v.failedAccountIDs.insert sel.account.id
          lastFailoverStatus := statusCode
          errCtx := v.errCtx.setAccount sel.account } flag)
  forwardFailed {v : LoopVars} {flag : Bool} {sel : AccountSelectionResult} {message : String}
      (failed : env.forward v.switchCount = .error (.other message))
      (fields : RecordsRequest p v.errCtx) :
    m.AcceptsFrom (held v sel flag)
      (.forward sel.account p.body (.error (.other message)) ::
        .releaseAccountSlot sel.account.id ::
        (recorded (v.errCtx.setAccount sel.account) "forward_error" 502 message none ++
          [.releaseUserSlot]))
  succeeded {v : LoopVars} {flag : Bool} {sel : AccountSelectionResult}
      {result : OpenAIForwardResult} (succeeded : env.forward v.switchCount = .ok result) :
    m.AcceptsFrom (held v sel flag)
      [.forward sel.account p.body (.ok result), .releaseAccountSlot sel.account.id,
        .recordUsage
          { result := result
            apiKey := p.apiKey
            user := p.apiKey.user
            account := sel.account
            subscription := p.subscription
            userAgent := p.c.getHeader "User-Agent"
            ipAddress := p.c.clientIP },
        .releaseUserSlot]

namespace RunSpec

variable {m : Monitor State} {h : OpenAIGatewayHandler} {env : Collaborators} {p : Prepared}
  {top : LoopVars → Bool → State} {held : LoopVars → AccountSelectionResult → Bool → State}

/-- An iteration that holds its account's slot goes on from `held`. -/
private theorem acceptsFrom_slot (spec : RunSpec m h env p top held) {v : LoopVars}
    {flag flag' : Bool} {sel : AccountSelectionResult} {calls rest : List Event}
    (chosen : env.selectAccountWithLoadAwareness v.switchCount v.failedAccountIDs = .ok sel)
    (slot : AccountSlot env p env.generateSessionHash v.switchCount sel flag calls flag')
    (after : m.AcceptsFrom (held v sel flag') rest) :
    m.AcceptsFrom (top v flag)
      ([selectCall p env.generateSessionHash v (.ok sel)] ++ (calls ++ rest)) := by
  rw [List.singleton_append, Monitor.AcceptsFrom, spec.accountSlot chosen slot]
  exact after

/-- Every path of the loop, from the top of an iteration whose context names the request. -/
theorem loop (spec : RunSpec m h env p top held) {v : LoopVars} {flag : Bool}
    {calls : List Event} (loop : LoopCalls h env p env.generateSessionHash v flag calls)
    (fields : RecordsRequest p v.errCtx) : m.AcceptsFrom (top v flag) calls := by
  induction loop with
  | noAccount refused noneFailed => exact spec.noAccount refused noneFailed fields
  | exhaustedAtSelect refused someFailed => exact spec.exhaustedAtSelect refused someFailed fields
  | waitFailed chosen failed => exact spec.waitFailed chosen failed fields
  | exhausted chosen slot failover spent =>
    simp only [List.append_assoc]
    exact spec.acceptsFrom_slot chosen slot (spec.exhausted failover spent fields)
  | forwardFailed chosen slot failed =>
    simp only [List.append_assoc]
    exact spec.acceptsFrom_slot chosen slot (spec.forwardFailed failed fields)
  | succeeded chosen slot succeeded =>
    simp only [List.append_assoc]
    exact spec.acceptsFrom_slot chosen slot (spec.succeeded succeeded)
  | retry chosen slot failover budget next ih =>
    simp only [List.append_assoc]
    exact spec.acceptsFrom_slot chosen slot
      (m.acceptsFrom_append (spec.retry failover budget) (ih fields))

/-- A monitor that shows each exit accepts every run of `Responses` after preflight. -/
theorem accepts (spec : RunSpec m h env p top held) {calls : List Event}
    (dispatched : DispatchCalls h env p calls) : m.Accepts calls := by
  cases dispatched with
  | queueFull full => exact spec.queueFull full
  | userSlotFailed admitted refused => exact spec.userSlotFailed admitted refused
  | billingFailed admitted granted ineligible => exact spec.billingFailed admitted granted ineligible
  | looped admitted granted eligible loop =>
    exact m.acceptsFrom_append (spec.entered admitted granted eligible)
      (spec.loop loop ⟨rfl, rfl, rfl⟩)

end RunSpec

end Sub2api.Proof
