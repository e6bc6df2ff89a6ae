import Sub2api.Proof.Refinement
import Sub2api.Proof.Runs

/-! The failover loop of `Responses`: at most `maxAccountSwitches + 1` calls of `Forward`, all of
them when every account fails over; the failed set the selector sees is exactly the accounts that
failed over before, and it only grows, so a selector that avoids it never meets an account
twice. -/

namespace Sub2api.Proof

open Sub2api.Handler

/-- The account a call hands to `Forward`, if it is a `Forward` call. -/
def forwardedAccount? : Event → Option Account
  | .forward account _ _ => some account
  | _ => none

/-- The accounts passed to `Forward` along a run, in order. -/
def forwardedAccounts (trace : List Event) : List Account :=
  trace.filterMap forwardedAccount?

@[simp] theorem forwardedAccounts_nil : forwardedAccounts [] = [] := rfl

@[simp] theorem forwardedAccounts_cons (e : Event) (trace : List Event) :
    forwardedAccounts (e :: trace) = (forwardedAccount? e).toList ++ forwardedAccounts trace := by
  cases e <;> rfl

@[simp] theorem forwardedAccounts_append (xs ys : List Event) :
    forwardedAccounts (xs ++ ys) = forwardedAccounts xs ++ forwardedAccounts ys :=
  List.filterMap_append _ _ _

@[simp] theorem forwardedAccounts_recorded (e : OpenaiErrorRecordingContext) (errorType : String)
    (statusCode : Nat) (message : String) (upstream : Option Int) :
    forwardedAccounts (recorded e errorType statusCode message upstream) = [] := by
  unfold recorded
  cases e.recordError errorType statusCode message upstream "" <;> rfl

@[simp] theorem forwardedAccounts_accountDecrement (env : Collaborators) (n : Nat)
    (account : Account) : forwardedAccounts (accountDecrement env n account) = [] := by
  unfold accountDecrement
  split <;> rfl

@[simp] theorem forwardedAccounts_userDecrement (env : Collaborators) (p : Prepared) :
    forwardedAccounts (userDecrement env p) = [] := by
  unfold userDecrement
  split <;> rfl

variable {h : OpenAIGatewayHandler} {env : Collaborators} {p : Prepared} {sessionHash : String}
  {n : Nat} {sel : AccountSelectionResult} {flag flag' : Bool} {calls : List Event}

theorem AccountSlot.forwardedAccounts_eq (slot : AccountSlot env p sessionHash n sel flag calls flag') :
    forwardedAccounts calls = [] := by
  cases slot with
  | selected => rfl
  | waited => simp [waitCalls, forwardedAccount?]

theorem WaitFailed.forwardedAccounts_eq {errCtx : OpenaiErrorRecordingContext}
    (failed : WaitFailed env p n errCtx sel flag calls) : forwardedAccounts calls = [] := by
  cases failed with
  | noWaitPlan => simp [forwardedAccount?]
  | queueFull => simp [forwardedAccount?]
  | slotFailed => simp [waitCalls, forwardedAccount?]

/-! ### The number of `Forward` calls -/

/-- From an iteration with the switch budget not overspent, the rest of the loop forwards at most
once per switch left, and once more. -/
theorem loop_forwards_le {v : LoopVars} (loop : LoopCalls h env p sessionHash v flag calls) :
    v.switchCount ≤ h.maxAccountSwitches →
      (forwardedAccounts calls).length + v.switchCount ≤ h.maxAccountSwitches + 1 := by
  induction loop with
  | noAccount | exhaustedAtSelect =>
    intro
    simp [selectCall, exhaustedCall, forwardedAccount?]
    omega
  | waitFailed _ failed =>
    intro
    simp [failed.forwardedAccounts_eq, selectCall, forwardedAccount?]
    omega
  | exhausted _ slot | forwardFailed _ slot | succeeded _ slot =>
    intro bound
    simp [slot.forwardedAccounts_eq, selectCall, exhaustedCall, forwardedAccount?]
    omega
  | retry _ slot _ budget _ ih =>
    intro _
    have rest := ih budget
    simp [slot.forwardedAccounts_eq, selectCall, forwardedAccount?] at rest ⊢
    omega

/-- The collaborators let a request into the failover loop: the user wait queue has room, the
user slot is granted and billing passes. -/
structure EntersLoop (env : Collaborators) : Prop where
  admitted : fullQueue env.incrementWaitCount = false
  granted : ∃ release, env.acquireUserSlotWithWait.result = .ok release
  eligible : env.checkBillingEligibility = none

/-- Every selection succeeds and the request obtains the selected account's slot: taken by the
selector, or waited for with room in the account's queue. -/
def SlotsGranted (env : Collaborators) : Prop :=
  ∀ n ids, ∃ sel, env.selectAccountWithLoadAwareness n ids = .ok sel ∧
    (sel.acquired = true ∨ sel.waitPlan.isSome ∧ fullQueue (env.incrementAccountWaitCount n) = false ∧
      ∃ release, (env.acquireAccountSlotWithWaitTimeout n).result = .ok release)

/-- Every `Forward` returns an `UpstreamFailoverError`. -/
def AlwaysFailsOver (env : Collaborators) : Prop :=
  ∀ n, ∃ statusCode, env.forward n = .error (.upstreamFailover statusCode)

/-- With every slot granted, the account block never returns. -/
theorem SlotsGranted.not_waitFailed (granted : SlotsGranted env) {ids : List Int}
    {errCtx : OpenaiErrorRecordingContext}
    (chosen : env.selectAccountWithLoadAwareness n ids = .ok sel)
    (failed : WaitFailed env p n errCtx sel flag calls) : False := by
  obtain ⟨sel', chosen', slot⟩ := granted n ids
  rw [chosen] at chosen'
  cases chosen'
  cases failed with
  | noWaitPlan notAcquired noPlan => simp_all
  | queueFull notAcquired _ full => simp_all
  | slotFailed notAcquired _ _ refused =>
    obtain ⟨release, granted⟩ := (slot.resolve_left (by simp [notAcquired])).2.2
    rw [refused] at granted
    cases granted

/-- When every slot is granted and every account fails over, the loop forwards once per switch
left, and once more. -/
theorem loop_forwards_eq (granted : SlotsGranted env) (failsOver : AlwaysFailsOver env)
    {v : LoopVars} (loop : LoopCalls h env p sessionHash v flag calls) :
    v.switchCount ≤ h.maxAccountSwitches →
      (forwardedAccounts calls).length + v.switchCount = h.maxAccountSwitches + 1 := by
  induction loop with
  | noAccount refused | exhaustedAtSelect refused =>
    obtain ⟨sel, chosen, -⟩ := granted _ _
    rw [refused] at chosen
    cases chosen
  | waitFailed chosen failed => exact (granted.not_waitFailed chosen failed).elim
  | exhausted _ slot _ spent =>
    intro bound
    simp [slot.forwardedAccounts_eq, selectCall, exhaustedCall, forwardedAccount?]
    omega
  | retry _ slot _ budget _ ih =>
    intro _
    have rest := ih budget
    simp [slot.forwardedAccounts_eq, selectCall, forwardedAccount?] at rest ⊢
    omega
  | forwardFailed _ _ failed | succeeded _ _ failed =>
    obtain ⟨statusCode, failover⟩ := failsOver _
    rw [failed] at failover
    cases failover

theorem dispatch_forwards_le (dispatched : DispatchCalls h env p calls) :
    (forwardedAccounts calls).length ≤ h.maxAccountSwitches + 1 := by
  cases dispatched with
  | looped _ _ _ loop =>
    simpa [admissionCalls, forwardedAccount?] using loop_forwards_le loop (Nat.zero_le _)
  | _ => simp [admissionCalls, forwardedAccount?]

/-- `Responses` calls `Forward` at most `maxAccountSwitches + 1` times, and exactly that often
when it enters the failover loop, every slot is granted and every account fails over. -/
theorem responses_forward_count (h : OpenAIGatewayHandler) (svc : Service) (req : Request)
    (env : Collaborators) :
    (forwardedAccounts (responses h svc req env).trace).length ≤ h.maxAccountSwitches + 1 ∧
      ((preflight svc req).toOption.isSome ∧ EntersLoop env ∧ SlotsGranted env ∧
        AlwaysFailsOver env →
        (forwardedAccounts (responses h svc req env).trace).length = h.maxAccountSwitches + 1) := by
  rcases responses_calls h svc req env with
    ⟨r, rejected, trace⟩ | ⟨p, calls, passed, dispatched, trace⟩
  · refine ⟨by simp [trace, forwardedAccount?], fun ⟨passes, _⟩ => ?_⟩
    simp [rejected, Except.toOption] at passes
  · rw [trace]
    refine ⟨dispatch_forwards_le dispatched, fun ⟨_, enters, granted, failsOver⟩ => ?_⟩
    cases dispatched with
    | queueFull full => simp [enters.admitted] at full
    | userSlotFailed _ refused =>
      obtain ⟨release, granted⟩ := enters.granted
      rw [refused] at granted
      cases granted
    | billingFailed _ _ ineligible => simp [enters.eligible] at ineligible
    | looped _ _ _ loop =>
      simpa [admissionCalls, forwardedAccount?] using
        loop_forwards_eq granted failsOver loop (Nat.zero_le _)

theorem failingOver_forwards_every_switch :
    ((preflight sampleService sampleRequest).toOption.isSome ∧
      EntersLoop failingOverCollaborators ∧ SlotsGranted failingOverCollaborators ∧
      AlwaysFailsOver failingOverCollaborators) ∧
    (forwardedAccounts (responses (newOpenAIGatewayHandler none) sampleService sampleRequest
      failingOverCollaborators).trace).length = (newOpenAIGatewayHandler none).maxAccountSwitches + 1 :=
  have facts : (preflight sampleService sampleRequest).toOption.isSome ∧
      EntersLoop failingOverCollaborators ∧ SlotsGranted failingOverCollaborators ∧
      AlwaysFailsOver failingOverCollaborators :=
    ⟨by decide, ⟨rfl, ⟨⟨⟩, rfl⟩, rfl⟩, fun _ _ => ⟨_, rfl, .inl rfl⟩, fun _ => ⟨502, rfl⟩⟩
  ⟨facts, (responses_forward_count _ _ _ _).2 facts⟩

/-! ### The failed set -/

/-- The failed set, one call at a time. The state is the set of accounts whose `Forward` failed
over so far, grown as `failedAccountIDs[account.ID] = struct{}{}` grows it; a selection must be
handed exactly that set. -/
def failedStep (failed : List Int) : Event → Option (List Int)
  | .selectAccountWithLoadAwareness _ _ _ ids _ =>
    if ids ⊆ failed ∧ failed ⊆ ids then some failed else none
  | .forward account _ result =>
    match result with
    | .error (.upstreamFailover _) => some (failed.insert account.id)
    | _ => some failed
  | _ => some failed

/-- The failed-set monitor; it refuses a selection and accepts every run it lets through. -/
def failedMonitor : Monitor (List Int) where
  init := []
  step := failedStep
  accepting _ := True

@[simp] theorem failedMonitor_init : failedMonitor.init = [] := rfl

@[simp] theorem failedMonitor_step : failedMonitor.step = failedStep := rfl

@[simp] theorem failedMonitor_accepting (failed : List Int) : failedMonitor.accepting failed :=
  trivial

/-- The failed set a call hands to the selector, if it is a selection. -/
def failedSet? : Event → Option (List Int)
  | .selectAccountWithLoadAwareness _ _ _ ids _ => some ids
  | _ => none

/-- The failed sets handed to the selector along a run, in order. -/
def failedSets (trace : List Event) : List (List Int) := trace.filterMap failedSet?

/-- What one step of the monitor allows: the set only grows, and a selection is handed the
set itself. -/
theorem failedStep_some {failed failed' : List Int} {e : Event}
    (step : failedStep failed e = some failed') :
    failed ⊆ failed' ∧ ∀ ids, failedSet? e = some ids → ids ⊆ failed ∧ failed ⊆ ids ∧ failed' = failed := by
  cases e with
  | selectAccountWithLoadAwareness =>
    simp only [failedStep] at step
    split at step
    · cases step
      simp_all [failedSet?]
    · cases step
  | forward account =>
    simp only [failedStep] at step
    split at step <;> cases step
    · exact ⟨fun _ member => List.mem_insert_iff.mpr (.inr member), by simp [failedSet?]⟩
    · simp [failedSet?]
  | _ => cases step; simp [failedSet?]

/-- Along a run the monitor lets through, each selection's failed set contains the one before. -/
theorem failedSets_chain {failed failed' prev : List Int} :
    ∀ {trace : List Event}, failedMonitor.run failed trace = some failed' → prev ⊆ failed →
      List.Chain (· ⊆ ·) prev (failedSets trace)
  | [], _, _ => List.Chain.nil
  | e :: trace, reached, below => by
    obtain ⟨next, step, rest⟩ := Option.bind_eq_some.mp reached
    obtain ⟨grows, handed⟩ := failedStep_some step
    cases selected : failedSet? e with
    | none =>
      simpa [failedSets, selected] using failedSets_chain rest (List.Subset.trans below grows)
    | some ids =>
      obtain ⟨within, covers, same⟩ := handed ids selected
      subst same
      simpa [failedSets, selected, List.Subset.trans below covers] using
        failedSets_chain rest within

@[simp] private theorem failed_recorded (failed : List Int) (e : OpenaiErrorRecordingContext)
    (errorType : String) (statusCode : Nat) (message : String) (upstream : Option Int)
    (rest : List Event) :
    failedMonitor.run failed (recorded e errorType statusCode message upstream ++ rest) =
      failedMonitor.run failed rest :=
  failedMonitor.run_recorded (fun _ _ => rfl) failed e errorType statusCode message upstream rest

section

attribute [local simp] Monitor.AcceptsFrom admissionCalls selectCall exhaustedCall waitCalls
    failedStep

/-- Every exit hands each selection the accounts that failed over before it: the loop variables'
failed set at the top of an iteration, grown by the account of each `Forward` that fails over. -/
theorem failed_spec : RunSpec failedMonitor h env p (fun v _ => v.failedAccountIDs)
    (fun v _ _ => v.failedAccountIDs) where
  queueFull _ := by simp
  userSlotFailed _ _ := by simp
  billingFailed _ _ _ := by simp
  entered _ _ _ := by simp
  noAccount _ _ _ := by simp
  exhaustedAtSelect _ _ _ := by simp
  waitFailed _ failed _ := by cases failed <;> simp
  accountSlot _ slot _ := by cases slot <;> simp
  exhausted _ _ _ := by simp
  retry _ _ := by simp
  forwardFailed _ _ := by simp
  succeeded _ := by simp

end

/-- The selector never hands back an account of the failed set it is given. -/
def AvoidsFailed (env : Collaborators) : Prop :=
  ∀ n ids sel, env.selectAccountWithLoadAwareness n ids = .ok sel → sel.account.id ∉ ids

/-- With a selector that avoids the failed set, the rest of the loop forwards to accounts outside
the failed set, each at most once. -/
theorem loop_forwards_nodup (avoids : AvoidsFailed env) {v : LoopVars}
    (loop : LoopCalls h env p sessionHash v flag calls) :
    (∀ a ∈ forwardedAccounts calls, a.id ∉ v.failedAccountIDs) ∧
      ((forwardedAccounts calls).map Account.id).Nodup := by
  induction loop with
  | noAccount | exhaustedAtSelect => simp [selectCall, exhaustedCall, forwardedAccount?]
  | waitFailed _ failed => simp [failed.forwardedAccounts_eq, selectCall, forwardedAccount?]
  | exhausted chosen slot | forwardFailed chosen slot | succeeded chosen slot =>
    simp [slot.forwardedAccounts_eq, selectCall, exhaustedCall, forwardedAccount?,
      avoids _ _ _ chosen]
  | retry chosen slot _ _ _ ih =>
    obtain ⟨outside, distinct⟩ := ih
    simp only [List.mem_insert_iff, not_or] at outside
    simp only [forwardedAccounts_append, slot.forwardedAccounts_eq, forwardedAccounts_cons,
      selectCall, forwardedAccount?, List.append_assoc, forwardedAccounts_nil, Option.toList,
      List.nil_append, List.singleton_append, List.cons_append, List.mem_cons, List.map_cons,
      List.nodup_cons, List.mem_map]
    refine ⟨?_, ?_, distinct⟩
    · rintro a (rfl | later)
      · exact avoids _ _ _ chosen
      · exact (outside a later).2
    · rintro ⟨a, later, same⟩
      exact (outside a later).1 same

/-- At every selection of a run of `Responses` the failed set is exactly the accounts that failed
over before, the sets handed to the selector only grow, and with a selector that avoids the
failed set no account is forwarded to twice. -/
theorem responses_failed_accounts (h : OpenAIGatewayHandler) (svc : Service) (req : Request)
    (env : Collaborators) :
    failedMonitor.Accepts (responses h svc req env).trace ∧
      (failedSets (responses h svc req env).trace).Chain' (· ⊆ ·) ∧
      (AvoidsFailed env → ((forwardedAccounts (responses h svc req env).trace).map Account.id).Nodup) := by
  have accepted : failedMonitor.Accepts (responses h svc req env).trace := by
    rcases responses_calls h svc req env with ⟨r, -, trace⟩ | ⟨p, calls, -, dispatched, trace⟩
    · exact ⟨[], by rw [trace]; rfl, trivial⟩
    · exact trace ▸ failed_spec.accepts dispatched
  refine ⟨accepted, ?_, fun avoids => ?_⟩
  · obtain ⟨failed, reached, -⟩ := accepted
    exact List.Chain'.tail (l := [] :: _) (failedSets_chain reached (List.Subset.refl _))
  rcases responses_calls h svc req env with ⟨r, -, trace⟩ | ⟨p, calls, -, dispatched, trace⟩
  · simp [trace, forwardedAccount?]
  · rw [trace]
    cases dispatched with
    | looped _ _ _ loop => simpa [admissionCalls, forwardedAccount?] using (loop_forwards_nodup avoids loop).2
    | _ => simp [admissionCalls, forwardedAccount?]

theorem failingOver_accounts_distinct :
    AvoidsFailed failingOverCollaborators ∧
      ((forwardedAccounts (responses (newOpenAIGatewayHandler none) sampleService sampleRequest
        failingOverCollaborators).trace).map Account.id).Nodup :=
  have avoids : AvoidsFailed failingOverCollaborators := fun _ ids _ chosen => by
    cases chosen
    exact freshAccountID_not_mem ids
  ⟨avoids, (responses_failed_accounts _ _ _ _).2.2 avoids⟩

end Sub2api.Proof
