import Sub2api.Proof.Refinement
import Sub2api.Proof.Runs
import Sub2api.Proof.Instructions

/-! What a run of `Responses` delivers, and to whom. Upstream: every `Forward` call comes after a
billing re-check that passed while the user slot was held, and is handed the body preflight
prepared. The client: exactly one answer per request, from one of the handler's writers or from
a `Forward` that did not fail over, after which the run only releases, decrements and records.
The usage log: each record names the request's user, model and stream flag, and the account
last selected. -/

namespace Sub2api.Proof

open Sub2api.Json Sub2api.Handler

variable {h : OpenAIGatewayHandler} {env : Collaborators} {p : Prepared}

/-! ### Before `Forward` -/

/-- Whether the run holds its user slot, and whether the billing re-check has passed. -/
structure GateState where
  slotHeld : Bool
  billed : Bool
  deriving DecidableEq, Repr

/-- What must come before each upstream call. The billing re-check is made while the user slot is
held; a selection and a `Forward` only once it has passed; `Forward` is handed `body`. -/
def gateStep (body : List UInt8) (s : GateState) : Event → Option GateState
  | .acquireUserSlotWithWait _ _ _ attempt => some { s with slotHeld := attempt.result.toBool }
  | .releaseUserSlot => some { s with slotHeld := false }
  | .checkBillingEligibility result =>
    if s.slotHeld then some { s with billed := result.isNone } else none
  | .selectAccountWithLoadAwareness _ _ _ _ _ => if s.billed then some s else none
  | .forward _ forwarded _ => if s.billed ∧ forwarded = body then some s else none
  | _ => some s

/-- The gate monitor for a run forwarding `body`. -/
def gateMonitor (body : List UInt8) : Monitor GateState where
  init := ⟨false, false⟩
  step := gateStep body
  accepting _ := True

@[simp] theorem gateMonitor_init (body : List UInt8) : (gateMonitor body).init = ⟨false, false⟩ :=
  rfl

@[simp] theorem gateMonitor_step (body : List UInt8) : (gateMonitor body).step = gateStep body :=
  rfl

@[simp] theorem gateMonitor_accepting (body : List UInt8) (s : GateState) :
    (gateMonitor body).accepting s := trivial

@[simp] private theorem gate_recorded (s : GateState) (e : OpenaiErrorRecordingContext)
    (errorType : String) (statusCode : Nat) (message : String) (upstream : Option Int)
    (rest : List Event) :
    (gateMonitor p.body).run s (recorded e errorType statusCode message upstream ++ rest) =
      (gateMonitor p.body).run s rest :=
  (gateMonitor p.body).run_recorded (fun _ _ => rfl) s e errorType statusCode message upstream rest

section

attribute [local simp] Monitor.AcceptsFrom admissionCalls selectCall exhaustedCall waitCalls
    gateStep Except.toBool

/-- Every exit keeps the gate: the user slot is held when billing is re-checked, and the loop
runs billed, the account block letting everything through. -/
theorem gate_spec : RunSpec (gateMonitor p.body) h env p (fun _ _ => ⟨true, true⟩)
    (fun _ _ _ => ⟨true, true⟩) where
  queueFull _ := by simp
  userSlotFailed _ refused := by simp [refused]
  billingFailed _ granted _ := by simp [granted]
  entered _ granted _ := by simp [granted]
  noAccount _ _ _ := by simp
  exhaustedAtSelect _ _ _ := by simp
  waitFailed _ failed _ := by cases failed <;> simp
  accountSlot _ slot _ := by cases slot <;> simp
  exhausted _ _ _ := by simp
  retry _ _ := by simp
  forwardFailed _ _ := by simp
  succeeded _ := by simp

end

/-- Every run of `Responses` that passes preflight selects accounts and calls `Forward` only after
a billing re-check that passed while the user slot was held, and hands `Forward` the body
preflight prepared. -/
theorem responses_billing_gate (h : OpenAIGatewayHandler) (svc : Service) (req : Request)
    (env : Collaborators) {p : Prepared} (passed : preflight svc req = .ok p) :
    (gateMonitor p.body).Accepts (responses h svc req env).trace := by
  rcases responses_calls h svc req env with ⟨r, rejected, -⟩ | ⟨p', calls, passed', dispatched, trace⟩
  · rw [passed] at rejected; cases rejected
  · rw [passed] at passed'
    cases passed'
    exact trace ▸ gate_spec.accepts dispatched

theorem failingOver_billing_gate :
    preflight sampleService sampleRequest = .ok samplePrepared ∧
      (gateMonitor samplePrepared.body).Accepts
        (responses (newOpenAIGatewayHandler none) sampleService sampleRequest
          failingOverCollaborators).trace :=
  ⟨rfl, responses_billing_gate _ _ _ _ rfl⟩

/-! ### What `Forward` is handed -/

/-- Along a run the gate lets through, every `Forward` is handed the gate's body. -/
theorem gate_forward_body {body : List UInt8} :
    ∀ {s s' : GateState} {trace : List Event}, (gateMonitor body).run s trace = some s' →
      ∀ {account forwarded result}, .forward account forwarded result ∈ trace → forwarded = body
  | _, _, [], _, _, _, _, called => absurd called (List.not_mem_nil _)
  | _, _, _ :: _, reached, _, _, _, called => by
    obtain ⟨t, stepped, later⟩ := Option.bind_eq_some.mp reached
    rcases List.mem_cons.mp called with rfl | called
    · simp only [gateMonitor_step, gateStep] at stepped
      split_ifs at stepped with sent
      exact sent.2
    · exact gate_forward_body later called

/-- Every `Forward` of a run is handed the bytes read when the client is the Codex CLI, the body's
`instructions` member is a non-blank string or the trimmed default is blank; otherwise bytes that
`json.Unmarshal` reads as the map it decoded from the body read, every number as the nearest
`float64`, with `instructions` set to the trimmed default. -/
theorem responses_forwarded_body (h : OpenAIGatewayHandler) (svc : Service) (req : Request)
    (env : Collaborators) {body : List UInt8} {members : List (String × GoValue)}
    (read : req.body = .ok body) (decoded : unmarshal body = .ok (some members)) :
    (svc.isCodexCLIRequest (req.c.getHeader "User-Agent") = true ∨
        trimSpace (stringMember "instructions" members) ≠ "" ∨
        trimSpace svc.getOpenCodeInstructions = "" →
      ∀ account forwarded result,
        .forward account forwarded result ∈ (responses h svc req env).trace → forwarded = body) ∧
    (svc.isCodexCLIRequest (req.c.getHeader "User-Agent") = false →
        trimSpace (stringMember "instructions" members) = "" →
        trimSpace svc.getOpenCodeInstructions ≠ "" →
      ∀ account forwarded result,
        .forward account forwarded result ∈ (responses h svc req env).trace →
          unmarshal forwarded = .ok (some (insertMember "instructions"
            (.string (trimSpace svc.getOpenCodeInstructions)) members))) := by
  rcases responses_calls h svc req env with
    ⟨r, -, trace⟩ | ⟨p, calls, passed, dispatched, trace⟩
  · simp [trace]
  obtain ⟨_, reached, -⟩ := gate_spec.accepts dispatched
  obtain ⟨apiKey, subject, body', members', reqBody, forwarded, -, -, read', decoded', -, injected,
    -, rfl⟩ := preflight_ok passed
  obtain rfl : body' = body := Except.ok.inj ((readBody_ok read').symm.trans read)
  obtain rfl : members' = members := Option.some.inj (Except.ok.inj (decoded'.symm.trans decoded))
  obtain ⟨inject, keep⟩ := injectInstructions_spec injected
  rw [trace]
  refine ⟨fun kept _ _ _ called => ?_, fun cli blank default _ _ _ called => ?_⟩
  · rw [gate_forward_body reached called]
    exact (keep kept).2
  · obtain ⟨map, encoded⟩ := inject cli blank default
    rw [gate_forward_body reached called]
    exact unmarshal_marshal (wellFormed_insertString _ _ (unmarshal_wellFormed decoded))
      (map ▸ encoded)

theorem sample_forwarded_body :
    sampleRequest.body = .ok samplePrepared.body ∧
      unmarshal samplePrepared.body = .ok (some [("model", .string "m"), ("stream", .bool true)]) ∧
      (injectingService.isCodexCLIRequest (sampleRequest.c.getHeader "User-Agent") = true ∨
          trimSpace (stringMember "instructions" [("model", .string "m"), ("stream", .bool true)]) ≠
            "" ∨
          trimSpace injectingService.getOpenCodeInstructions = "" →
        ∀ account forwarded result, .forward account forwarded result ∈
          (responses (newOpenAIGatewayHandler none) injectingService sampleRequest
            failingOverCollaborators).trace → forwarded = samplePrepared.body) ∧
      (injectingService.isCodexCLIRequest (sampleRequest.c.getHeader "User-Agent") = false →
          trimSpace (stringMember "instructions" [("model", .string "m"), ("stream", .bool true)]) =
            "" →
          trimSpace injectingService.getOpenCodeInstructions ≠ "" →
        ∀ account forwarded result, .forward account forwarded result ∈
          (responses (newOpenAIGatewayHandler none) injectingService sampleRequest
            failingOverCollaborators).trace →
          unmarshal forwarded = .ok (some (insertMember "instructions"
            (.string (trimSpace injectingService.getOpenCodeInstructions))
            [("model", .string "m"), ("stream", .bool true)]))) :=
  have read : sampleRequest.body = .ok samplePrepared.body := rfl
  have decoded : unmarshal samplePrepared.body =
      .ok (some [("model", .string "m"), ("stream", .bool true)]) := rfl
  ⟨read, decoded, responses_forwarded_body _ _ _ _ read decoded⟩

/-- A request whose body holds an integer that `float64` cannot hold exactly. -/
def bigNumberRequest : Request :=
  { sampleRequest with
    body := .ok (Json.encodeString "\x7b\"model\":\"m\",\"n\":12345678901234567890\x7d") }

set_option maxRecDepth 4000 in
/-- `json.Unmarshal` reads `12345678901234567890` as the nearest `float64` and `json.Marshal`
writes that back as `12345678901234567000`, so once `instructions` is injected every `Forward` of
the request is handed a body whose number has changed. -/
theorem bigNumber_forwarded_rounded :
    (preflight injectingService bigNumberRequest).map Prepared.body =
        .ok (Json.encodeString
          "\x7b\"instructions\":\"Be brief.\",\"model\":\"m\",\"n\":12345678901234567000\x7d") ∧
      ∀ h env account forwarded result, .forward account forwarded result ∈
        (responses h injectingService bigNumberRequest env).trace →
        forwarded = Json.encodeString
          "\x7b\"instructions\":\"Be brief.\",\"model\":\"m\",\"n\":12345678901234567000\x7d" := by
  have rounded : (preflight injectingService bigNumberRequest).map Prepared.body =
      .ok (Json.encodeString
        "\x7b\"instructions\":\"Be brief.\",\"model\":\"m\",\"n\":12345678901234567000\x7d") := rfl
  refine ⟨rounded, fun h env _ _ _ called => ?_⟩
  rcases responses_calls h injectingService bigNumberRequest env with
    ⟨r, rejected, -⟩ | ⟨p, calls, passed, dispatched, trace⟩
  · rw [rejected] at rounded
    cases rounded
  · obtain ⟨_, reached, -⟩ := gate_spec.accepts dispatched
    simp only [passed, Except.map, Except.ok.injEq] at rounded
    exact (gate_forward_body reached (trace ▸ called)).trans rounded

/-! ### The client's answer -/

/-- Whether a call answers the client: one of the handler's writers, or a `Forward` that returned
without failing over, which has written the response itself ("Error response already handled in
Forward"). -/
def Event.answers : Event → Bool
  | .errorResponse _ _ _ | .handleStreamingAwareError _ _ _ _ => true
  | .forward _ _ (.ok _) | .forward _ _ (.error (.other _)) => true
  | _ => false

/-- Calls that close a run once the client has its answer: releases, wait-count decrements and
usage records. -/
def Event.closes : Event → Bool
  | .releaseUserSlot | .releaseAccountSlot _ | .decrementWaitCount _
  | .decrementAccountWaitCount _ | .recordErrorUsage _ | .recordUsage _ => true
  | _ => false

/-- Whether the client has been answered. A second answer is refused, and so is any call after
the answer that does not close the run. -/
def answerStep (answered : Bool) (e : Event) : Option Bool :=
  if Event.answers e then (if answered then none else some true)
  else if answered && !Event.closes e then none else some answered

/-- The answer monitor: the run must end answered. -/
def answerMonitor : Monitor Bool where
  init := false
  step := answerStep
  accepting answered := answered = true

@[simp] theorem answerMonitor_init : answerMonitor.init = false := rfl

@[simp] theorem answerMonitor_step : answerMonitor.step = answerStep := rfl

@[simp] theorem answerMonitor_accepting (answered : Bool) :
    answerMonitor.accepting answered ↔ answered = true := Iff.rfl

/-- One step adds its answer to the monitor's state. -/
theorem answerStep_toNat {s t : Bool} {e : Event} (stepped : answerStep s e = some t) :
    (if Event.answers e then 1 else 0) + s.toNat = t.toNat := by
  revert stepped
  unfold answerStep
  cases Event.answers e <;> cases s <;> cases Event.closes e <;> simp <;> rintro rfl <;> rfl

/-- The monitor's state counts answers: a run from `s` ends in `s'` having answered
`s'.toNat - s.toNat` times. -/
theorem answers_of_run : ∀ {s s' : Bool} {trace : List Event},
    answerMonitor.run s trace = some s' → trace.countP Event.answers + s.toNat = s'.toNat
  | _, _, [], reached => by cases reached; simp
  | _, _, e :: es, reached => by
    obtain ⟨t, stepped, rest⟩ := Option.bind_eq_some.mp reached
    rw [List.countP_cons, ← answers_of_run rest, ← answerStep_toNat stepped]
    omega

@[simp] private theorem answer_recorded (s : Bool) (e : OpenaiErrorRecordingContext)
    (errorType : String) (statusCode : Nat) (message : String) (upstream : Option Int)
    (rest : List Event) :
    answerMonitor.run s (recorded e errorType statusCode message upstream ++ rest) =
      answerMonitor.run s rest :=
  answerMonitor.run_recorded (fun s _ => by cases s <;> rfl) s e errorType statusCode message
    upstream rest

section

attribute [local simp] Monitor.AcceptsFrom admissionCalls selectCall exhaustedCall waitCalls
    answerStep Event.answers Event.closes

/-- Every exit answers once, then only closes the run; the loop is entered unanswered, and an
iteration that fails over and retries answers nothing. -/
theorem answer_spec : RunSpec answerMonitor h env p (fun _ _ => false) (fun _ _ _ => false) where
  queueFull _ := by simp
  userSlotFailed _ _ := by simp
  billingFailed _ _ _ := by simp
  entered _ _ _ := by simp
  noAccount _ _ _ := by simp
  exhaustedAtSelect _ _ _ := by simp
  waitFailed _ failed _ := by cases failed <;> simp
  accountSlot _ slot _ := by cases slot <;> simp
  exhausted _ _ _ := by simp
  retry _ _ := by simp
  forwardFailed _ _ := by simp
  succeeded _ := by simp

end

/-- Every request gets exactly one answer: the handler writes one error, or a `Forward` that did
not fail over has written the response, never both and never two. After it the run only
releases its slots, decrements its wait counts and records usage: it never selects, waits,
acquires or forwards once the client has its answer. -/
theorem responses_answers_once (h : OpenAIGatewayHandler) (svc : Service) (req : Request)
    (env : Collaborators) :
    (responses h svc req env).trace.countP Event.answers = 1 ∧
      answerMonitor.Accepts (responses h svc req env).trace := by
  obtain ⟨answered, reached, final⟩ : answerMonitor.Accepts (responses h svc req env).trace := by
    rcases responses_calls h svc req env with ⟨r, -, trace⟩ | ⟨p, calls, -, dispatched, trace⟩
    · exact ⟨true, by rw [trace]; rfl, rfl⟩
    · exact trace ▸ answer_spec.accepts dispatched
  refine ⟨?_, answered, reached, final⟩
  simpa [show answered = true from final] using answers_of_run reached

/-! ### What the records name -/

/-- What the records of a run name, one call at a time; the state is the account last selected.
`Forward` is called with that account; an error record names it (none before the first
selection), a usage record too; both name the request's user, and an error record its model and
stream flag, as preflight read them. -/
def attributionStep (p : Prepared) (selected : Option Account) : Event → Option (Option Account)
  | .selectAccountWithLoadAwareness _ _ _ _ (.ok sel) => some (some sel.account)
  | .forward account _ _ => if selected = some account then some selected else none
  | .recordErrorUsage input =>
    if input.account = selected ∧ p.apiKey.user = some input.user ∧ input.model = p.reqModel ∧
        input.stream = p.reqStream then some selected else none
  | .recordUsage input =>
    if some input.account = selected ∧ input.user = p.apiKey.user then some selected else none
  | _ => some selected

/-- The attribution monitor for a run with preflight's output `p`. -/
def attributionMonitor (p : Prepared) : Monitor (Option Account) where
  init := none
  step := attributionStep p
  accepting _ := True

@[simp] theorem attributionMonitor_init (p : Prepared) : (attributionMonitor p).init = none := rfl

@[simp] theorem attributionMonitor_step (p : Prepared) :
    (attributionMonitor p).step = attributionStep p := rfl

@[simp] theorem attributionMonitor_accepting (p : Prepared) (s : Option Account) :
    (attributionMonitor p).accepting s := trivial

/-- A record made from such a context names the account the monitor holds. -/
private theorem attribution_recorded {e : OpenaiErrorRecordingContext} (fields : RecordsRequest p e)
    {selected : Option Account} (same : e.account = selected) (errorType : String)
    (statusCode : Nat) (message : String) (upstream : Option Int) (rest : List Event) :
    (attributionMonitor p).run selected (recorded e errorType statusCode message upstream ++ rest) =
      (attributionMonitor p).run selected rest := by
  obtain ⟨key, model, stream⟩ := fields
  unfold recorded OpenaiErrorRecordingContext.recordError
  split
  · rfl
  · rename_i user owner
    simp [attributionStep, ← key, owner, model, stream, same]

section

attribute [local simp] Monitor.AcceptsFrom admissionCalls selectCall exhaustedCall waitCalls
    attributionStep attribution_recorded Prepared.recordsRequest_errCtx

/-- Every exit names in its records the account last selected: the request's context at the top
of an iteration, the selected account once its slot is held. -/
theorem attribution_spec : RunSpec (attributionMonitor p) h env p (fun v _ => v.errCtx.account)
    (fun _ sel _ => some sel.account) where
  queueFull _ := by simp
  userSlotFailed _ _ := by simp
  billingFailed _ _ _ := by simp
  entered _ _ _ := by simp
  noAccount _ _ fields := by simp [fields]
  exhaustedAtSelect _ _ fields := by simp [fields]
  waitFailed _ failed fields := by cases failed <;> simp [fields]
  accountSlot _ slot _ := by cases slot <;> simp
  exhausted _ _ fields := by simp [fields]
  retry _ _ := by simp
  forwardFailed _ fields := by simp [fields]
  succeeded _ := by simp

end

/-- Every run that passes preflight records what it did under the right names: each record names
the request's user, an error record its model and stream flag, and the account of the latest
successful selection (none before the first, the account that failed over until another is
selected), and `Forward` and a usage record name that same account. -/
theorem responses_record_attribution (h : OpenAIGatewayHandler) (svc : Service) (req : Request)
    (env : Collaborators) {p : Prepared} (passed : preflight svc req = .ok p) :
    (attributionMonitor p).Accepts (responses h svc req env).trace := by
  rcases responses_calls h svc req env with ⟨r, rejected, -⟩ | ⟨p', calls, passed', dispatched, trace⟩
  · rw [passed] at rejected; cases rejected
  · rw [passed] at passed'
    cases passed'
    exact trace ▸ attribution_spec.accepts dispatched

theorem failingOver_record_attribution :
    preflight sampleService sampleRequest = .ok samplePrepared ∧
      (attributionMonitor samplePrepared).Accepts
        (responses (newOpenAIGatewayHandler none) sampleService sampleRequest
          failingOverCollaborators).trace :=
  ⟨rfl, responses_record_attribution _ _ _ _ rfl⟩

end Sub2api.Proof
