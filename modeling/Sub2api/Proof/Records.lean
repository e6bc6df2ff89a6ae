import Sub2api.Proof.Refinement
import Sub2api.Proof.Runs

/-! What a run of `Responses` leaves in the usage log: for a key with a user, exactly one record,
a usage record exactly when a `Forward` succeeded, none for an iteration that fails over and
retries; and the status and message of an error record are those the client is sent. -/

namespace Sub2api.Proof

open Sub2api.Handler

/-- The records a run has made, whether a `Forward` has returned without error, and the status
and message a recorded error still expects the client writer to be called with. -/
structure RecordState where
  records : Nat
  forwarded : Bool
  pending : Option (Nat × String)
  deriving DecidableEq, Repr

/-- The initial state: nothing recorded, nothing forwarded. -/
def RecordState.fresh : RecordState := ⟨0, false, none⟩

@[simp] theorem RecordState.fresh_records : RecordState.fresh.records = 0 := rfl
@[simp] theorem RecordState.fresh_forwarded : RecordState.fresh.forwarded = false := rfl
@[simp] theorem RecordState.fresh_pending : RecordState.fresh.pending = none := rfl

/-- The recording discipline, one call at a time. Selections and `Forward` calls come before any
record; a usage record needs a successful `Forward` and an error record its absence, and a run
records once; an error record other than `forward_error` fixes the status and message of the
next client writer. -/
def recordStep (s : RecordState) : Event → Option RecordState
  | .selectAccountWithLoadAwareness _ _ _ _ _ => if s.records = 0 then some s else none
  | .forward _ _ result =>
    if s.records = 0 then some { s with forwarded := s.forwarded || result.toBool } else none
  | .recordUsage _ => if s.records = 0 ∧ s.forwarded = true then some { s with records := 1 } else none
  | .recordErrorUsage input =>
    if s.records = 0 ∧ s.forwarded = false then
      some { s with
        records := 1
        pending := if input.errorType = "forward_error" then none
          else some (input.errorStatusCode, input.errorMessage) }
    else none
  | .errorResponse status _ message | .handleStreamingAwareError status _ message _ =>
    match s.pending with
    | some expected => if expected = (status, message) then some { s with pending := none } else none
    | none => some s
  | _ => some s

/-- The record monitor: a run ends with one record, its writer called. -/
def recordMonitor : Monitor RecordState where
  init := .fresh
  step := recordStep
  accepting s := s.records = 1 ∧ s.pending = none

@[simp] theorem recordMonitor_init : recordMonitor.init = .fresh := rfl

@[simp] theorem recordMonitor_step : recordMonitor.step = recordStep := rfl

@[simp] theorem recordMonitor_accepting (s : RecordState) :
    recordMonitor.accepting s ↔ s.records = 1 ∧ s.pending = none := Iff.rfl

variable {h : OpenAIGatewayHandler} {env : Collaborators} {p : Prepared} {user : User}

section

attribute [local simp] Monitor.AcceptsFrom admissionCalls selectCall exhaustedCall waitCalls
    recordStep recorded OpenaiErrorRecordingContext.recordError Except.toBool

/-- For a key with a user, every exit records once, after its last selection and `Forward`, and
calls the writer with the recorded status and message; an iteration that retries records
nothing. -/
theorem record_spec (owner : p.apiKey.user = some user) :
    RunSpec recordMonitor h env p (fun _ _ => .fresh) (fun _ _ _ => .fresh) where
  queueFull _ := by simp [owner]
  userSlotFailed _ _ := by simp [owner, concurrencyErrorMessage]
  billingFailed _ _ _ := by simp [owner]
  entered _ _ _ := by simp
  noAccount _ _ fields := by simp [fields.1, owner]
  exhaustedAtSelect _ _ fields := by simp [fields.1, owner]
  waitFailed _ failed fields := by cases failed <;> simp [fields.1, owner, concurrencyErrorMessage]
  accountSlot _ slot _ := by cases slot <;> simp
  exhausted _ _ fields := by simp [fields.1, owner]
  retry _ _ := by simp [RecordState.fresh]
  forwardFailed _ fields := by simp [fields.1, owner]
  succeeded _ := by simp

end

/-- A run of `Responses` past preflight, for a key with a user, records exactly once: usage when
a `Forward` returned without error and an error otherwise, never in an iteration that retries;
an error record other than `forward_error` carries the status and message the client writer is
called with. -/
theorem responses_records (h : OpenAIGatewayHandler) (svc : Service) (req : Request)
    (env : Collaborators) (p : Prepared) (passed : preflight svc req = .ok p)
    (owner : p.apiKey.user.isSome) : recordMonitor.Accepts (responses h svc req env).trace := by
  obtain ⟨user, owner⟩ := Option.isSome_iff_exists.mp owner
  rcases responses_calls h svc req env with ⟨r, rejected, -⟩ | ⟨p', calls, passed', dispatched, trace⟩
  · rw [passed] at rejected
    cases rejected
  · rw [passed] at passed'
    cases passed'
    exact trace ▸ (record_spec owner).accepts dispatched

theorem failingOver_records_once :
    preflight sampleService sampleRequest = .ok samplePrepared ∧
      samplePrepared.apiKey.user.isSome ∧
      recordMonitor.Accepts (responses (newOpenAIGatewayHandler none) sampleService sampleRequest
        failingOverCollaborators).trace :=
  ⟨rfl, rfl, responses_records _ _ _ _ samplePrepared rfl rfl⟩

/-! ### The failover status in error records -/

/-- The status of the last `Forward` that failed over (`none` while none has), whether a
selection failed, and the status the client writer must be called with after an
`upstream_error` record. -/
structure FailoverState where
  lastFailover : Option Int
  selectFailed : Bool
  expected : Option Nat
  deriving DecidableEq, Repr

/-- What an error record must say: after a failed selection, `no_account` with 503 when no
account failed over and `upstream_error` otherwise; an `upstream_error` carries the last failover
status and the status `mapUpstreamError` gives it. -/
def failoverRecordOk (last : Option Int) (selectFailed : Bool)
    (input : OpenAIRecordErrorUsageInput) : Prop :=
  (selectFailed = true →
    match last with
    | none => input.errorType = "no_account" ∧ input.errorStatusCode = 503
    | some _ => input.errorType = "upstream_error") ∧
  (input.errorType = "upstream_error" →
    match last with
    | some statusCode =>
      input.upstreamStatusCode = some statusCode ∧
        input.errorStatusCode = (mapUpstreamError statusCode).1
    | none => False)

instance (last : Option Int) (selectFailed : Bool) (input : OpenAIRecordErrorUsageInput) :
    Decidable (failoverRecordOk last selectFailed input) := by
  unfold failoverRecordOk
  cases last <;> infer_instance

/-- The failover status discipline, one call at a time. The writer called after an
`upstream_error` record is `handleStreamingAwareError` with the recorded status, which the client
receives unless the stream has started; then it receives an SSE event, which has no status.
`errorResponse` is never that writer. -/
def failoverStep (s : FailoverState) : Event → Option FailoverState
  | .forward _ _ (.error (.upstreamFailover statusCode)) =>
    some { s with lastFailover := some statusCode }
  | .selectAccountWithLoadAwareness _ _ _ _ (.error _) => some { s with selectFailed := true }
  | .recordErrorUsage input =>
    if failoverRecordOk s.lastFailover s.selectFailed input then
      some { s with
        expected := if input.errorType = "upstream_error" then some input.errorStatusCode else none }
    else none
  | .handleStreamingAwareError status errType message started =>
    match s.expected with
    | some expected =>
      if status = expected ∧ (handleStreamingAwareError status errType message started).status? =
          (if started then none else some expected) then some { s with expected := none }
      else none
    | none => some s
  | .errorResponse _ _ _ => if s.expected = none then some s else none
  | _ => some s

/-- The failover status monitor: a run ends with the writer of an `upstream_error` called. -/
def failoverMonitor : Monitor FailoverState where
  init := ⟨none, false, none⟩
  step := failoverStep
  accepting s := s.expected = none

@[simp] theorem failoverMonitor_init : failoverMonitor.init = ⟨none, false, none⟩ := rfl

@[simp] theorem failoverMonitor_step : failoverMonitor.step = failoverStep := rfl

@[simp] theorem failoverMonitor_accepting (s : FailoverState) :
    failoverMonitor.accepting s ↔ s.expected = none := Iff.rfl

@[simp] theorem handleStreamingAwareError_status (status : Nat) (errType message : String)
    (started : Bool) : (handleStreamingAwareError status errType message started).status? =
      if started then none else some status := by
  cases started <;> rfl

private theorem isEmpty_insert (a : Int) (l : List Int) : (l.insert a).isEmpty = false := by
  cases grown : l.insert a with
  | nil => exact absurd (grown ▸ List.mem_insert_self a l) (List.not_mem_nil a)
  | cons => rfl

/-- The state at the top of an iteration: the last failover status once an account failed. -/
def failoverStateAt (v : LoopVars) : FailoverState :=
  ⟨if v.failedAccountIDs.isEmpty then none else some v.lastFailoverStatus, false, none⟩

/-- A record of another type than `upstream_error`, made before any selection failed, passes
and expects nothing of the writer. -/
private theorem failover_recorded_other (last : Option Int) (e : OpenaiErrorRecordingContext)
    (errorType : String) (other : errorType ≠ "upstream_error") (statusCode : Nat)
    (message : String) (upstream : Option Int) (rest : List Event) :
    failoverMonitor.run ⟨last, false, none⟩ (recorded e errorType statusCode message upstream ++ rest) =
      failoverMonitor.run ⟨last, false, none⟩ rest := by
  unfold recorded OpenaiErrorRecordingContext.recordError
  cases e.apiKey.user <;> simp [failoverStep, failoverRecordOk, other]

section

attribute [local simp] Monitor.AcceptsFrom admissionCalls selectCall exhaustedCall waitCalls
    failoverStep failoverStateAt failoverRecordOk

/-- Every exit records the failover status it ends with, and the writer called after an
`upstream_error` record passes the recorded status. At the top of an iteration the monitor holds
the last failover status once an account failed over. -/
theorem failover_spec : RunSpec failoverMonitor h env p (fun v _ => failoverStateAt v)
    (fun v _ _ => failoverStateAt v) where
  queueFull _ := by simp [failover_recorded_other]
  userSlotFailed _ _ := by simp [failover_recorded_other]
  billingFailed _ _ _ := by simp [failover_recorded_other]
  entered _ _ _ := by simp
  noAccount := @fun v _ _ _ noneFailed _ => by
    unfold recorded OpenaiErrorRecordingContext.recordError
    cases v.errCtx.apiKey.user <;> simp [noneFailed]
  exhaustedAtSelect := @fun v _ _ _ someFailed _ => by
    unfold recorded OpenaiErrorRecordingContext.recordError
    cases v.errCtx.apiKey.user <;> simp [someFailed]
  waitFailed _ failed _ := by cases failed <;> simp [failover_recorded_other]
  accountSlot _ slot _ := by cases slot <;> simp
  exhausted := @fun v _ sel _ _ _ _ => by
    unfold recorded OpenaiErrorRecordingContext.recordError
    cases (v.errCtx.setAccount sel.account).apiKey.user <;> simp
  retry _ _ := by simp [isEmpty_insert]
  forwardFailed _ _ := by simp [failover_recorded_other]
  succeeded _ := by simp

end

/-- In every run of `Responses`, a failed selection is recorded as `no_account` with 503 when no
account failed over and as `upstream_error` otherwise; an `upstream_error` record carries the
status of the last failover and the status `mapUpstreamError` gives it, and the writer called
after it passes that status, which the client receives unless the stream has started. -/
theorem responses_failover_status (h : OpenAIGatewayHandler) (svc : Service) (req : Request)
    (env : Collaborators) : failoverMonitor.Accepts (responses h svc req env).trace := by
  rcases responses_calls h svc req env with ⟨r, -, trace⟩ | ⟨p, calls, -, dispatched, trace⟩
  · exact ⟨⟨none, false, none⟩, by rw [trace]; rfl, rfl⟩
  · exact trace ▸ failover_spec.accepts dispatched

/-- Collaborators of a streaming run whose user slot wait sent a heartbeat, whose first account
fails over with an upstream 502 and whose second selection finds no account. -/
def heartbeatFailoverCollaborators : Collaborators where
  calculateMaxWait concurrency := concurrency
  incrementWaitCount := .ok true
  acquireUserSlotWithWait := ⟨true, .ok ⟨⟩⟩
  checkBillingEligibility := none
  billingErrorDetails _ := (403, "billing_error", "Insufficient balance")
  generateSessionHash := ""
  selectAccountWithLoadAwareness switchCount _ :=
    if switchCount = 0 then
      .ok { account := ⟨1⟩, acquired := true, releaseFunc := some ⟨⟩, waitPlan := none
            releaseFunc_of_acquired := fun _ => rfl }
    else .error "no available accounts"
  incrementAccountWaitCount _ := .ok true
  acquireAccountSlotWithWaitTimeout _ := ⟨false, .ok ⟨⟩⟩
  forward _ := .error (.upstreamFailover 502)

/-- After a heartbeat, an exhausted failover is recorded as `upstream_error` with status 502, but
the client receives no such status: its only error is an SSE event. -/
theorem heartbeat_failover_status_not_delivered :
    (∃ input, .recordErrorUsage input ∈ (responses (newOpenAIGatewayHandler none) sampleService
        sampleRequest heartbeatFailoverCollaborators).trace ∧
      input.errorType = "upstream_error" ∧ input.upstreamStatusCode = some 502 ∧
      input.errorStatusCode = (mapUpstreamError 502).1) ∧
    ∀ e ∈ (responses (newOpenAIGatewayHandler none) sampleService sampleRequest
        heartbeatFailoverCollaborators).trace,
      ∀ reply, e.reply? = some reply → reply.status? = none := by
  rcases responses_calls (newOpenAIGatewayHandler none) sampleService sampleRequest
    heartbeatFailoverCollaborators with ⟨r, rejected, -⟩ | ⟨p, calls, passed, dispatched, trace⟩
  · cases rejected
  · have sample : preflight sampleService sampleRequest = .ok samplePrepared := rfl
    rw [sample] at passed
    cases passed
    rw [trace]
    cases dispatched with
    | queueFull full => cases full
    | userSlotFailed _ refused => cases refused
    | billingFailed _ _ ineligible => cases ineligible
    | looped _ _ _ loop =>
      cases loop with
      | noAccount refused | exhaustedAtSelect refused => cases refused
      | waitFailed chosen failed =>
        cases chosen
        cases failed <;> contradiction
      | exhausted _ _ _ spent => cases spent
      | forwardFailed _ _ failed | succeeded _ _ failed => cases failed
      | retry chosen slot failover _ next =>
        cases chosen
        cases failover
        cases slot with
        | waited notAcquired => cases notAcquired
        | selected =>
          cases next with
          | exhaustedAtSelect =>
            have stream : samplePrepared.reqStream = true := rfl
            have owner : samplePrepared.apiKey.user = some ⟨1⟩ := rfl
            simp only [admissionCalls, userDecrement, countedWait, selectCall, recorded,
              OpenaiErrorRecordingContext.recordError, exhaustedCall, userFlag,
              SlotAttempt.streamStartedAfter, stream, Prepared.errCtx_apiKey, setAccount_apiKey, owner]
            have heartbeat : heartbeatFailoverCollaborators.acquireUserSlotWithWait.heartbeat = true := rfl
            have counted : heartbeatFailoverCollaborators.incrementWaitCount = .ok true := rfl
            simp only [heartbeat, counted, Bool.or_true, Bool.true_and, Bool.false_or, ↓reduceIte,
              Option.map_some', Option.toList_some, List.append_assoc, List.cons_append,
              List.singleton_append, List.nil_append, List.mem_cons, List.mem_singleton]
            refine ⟨⟨_, .inr (.inr (.inr (.inr (.inr (.inr (.inr (.inr (.inl rfl)))))))),
              rfl, rfl, rfl⟩, ?_⟩
            rintro e (rfl | rfl | rfl | rfl | rfl | rfl | rfl | rfl | rfl | rfl | rfl | nowhere) reply
              replied
            all_goals first | cases replied; rfl | cases replied | cases nowhere
          | noAccount _ noneFailed => cases noneFailed
          | _ refused => cases refused

end Sub2api.Proof
