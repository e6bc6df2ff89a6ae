import Sub2api.Proof.Refinement
import Sub2api.Proof.Runs

/-! The slot discipline of `Responses`: `Forward` runs only while the request holds its user
slot and exactly the account slot of the account it forwards to; each account slot is released
once, right after `Forward`, before the next selection; the user slot is released once on every
path after it was acquired. -/

namespace Sub2api.Proof

open Sub2api.Handler

/-- Where the request's user slot is. -/
inductive UserSlot where
  | idle
  | held
  | released
  deriving DecidableEq, Repr

/-- The slots a request holds: its user slot, the account slot it holds (by account ID), and
whether `Forward` already ran on that account slot. -/
structure SlotState where
  user : UserSlot
  account : Option Int
  forwarded : Bool
  deriving DecidableEq, Repr

/-- The slot discipline, one call at a time. A selection or a waited acquisition may take an
account slot only while none is held; `Forward` needs the user slot and exactly the slot of its
account, not yet forwarded on; an account slot is released only after its `Forward`. -/
def slotStep (s : SlotState) : Event → Option SlotState
  | .acquireUserSlotWithWait _ _ _ attempt =>
    if s.user = .idle then
      some (match attempt.result with
        | .ok _ => { s with user := .held }
        | .error _ => s)
    else none
  | .releaseUserSlot => if s.user = .held then some { s with user := .released } else none
  | .selectAccountWithLoadAwareness _ _ _ _ result =>
    if s.account = none then
      some (match result with
        | .ok sel => if sel.acquired then { s with account := some sel.account.id } else s
        | .error _ => s)
    else none
  | .acquireAccountSlotWithWaitTimeout accountID _ _ attempt =>
    if s.account = none then
      some (match attempt.result with
        | .ok _ => { s with account := some accountID }
        | .error _ => s)
    else none
  | .forward account _ _ =>
    if s.user = .held ∧ s.account = some account.id ∧ s.forwarded = false then
      some { s with forwarded := true }
    else none
  | .releaseAccountSlot accountID =>
    if s.account = some accountID ∧ s.forwarded = true then
      some { s with account := none, forwarded := false }
    else none
  | _ => some s

/-- The slot monitor: a run ends holding no account slot and not holding the user slot. -/
def slotMonitor : Monitor SlotState where
  init := ⟨.idle, none, false⟩
  step := slotStep
  accepting s := s.account = none ∧ s.user ≠ .held

@[simp] theorem slotMonitor_init : slotMonitor.init = ⟨.idle, none, false⟩ := rfl

@[simp] theorem slotMonitor_step : slotMonitor.step = slotStep := rfl

@[simp] theorem slotMonitor_accepting (s : SlotState) :
    slotMonitor.accepting s ↔ s.account = none ∧ s.user ≠ .held := Iff.rfl

variable {h : OpenAIGatewayHandler} {env : Collaborators} {p : Prepared}

@[simp] private theorem slot_recorded (s : SlotState) (e : OpenaiErrorRecordingContext)
    (errorType : String) (statusCode : Nat) (message : String) (upstream : Option Int)
    (rest : List Event) :
    slotMonitor.run s (recorded e errorType statusCode message upstream ++ rest) =
      slotMonitor.run s rest :=
  slotMonitor.run_recorded (fun _ _ => rfl) s e errorType statusCode message upstream rest

section

attribute [local simp] Monitor.AcceptsFrom admissionCalls selectCall exhaustedCall waitCalls
    slotStep

/-- Every exit keeps the slot discipline. The loop is entered holding the user slot and no
account slot, and the account block leaves the request holding the selected account's slot. -/
theorem slot_spec : RunSpec slotMonitor h env p (fun _ _ => ⟨.held, none, false⟩)
    (fun _ sel _ => ⟨.held, some sel.account.id, false⟩) where
  queueFull _ := by simp
  userSlotFailed _ refused := by simp [refused]
  billingFailed _ granted _ := by simp [granted]
  entered _ granted _ := by simp [granted]
  noAccount _ _ _ := by simp
  exhaustedAtSelect _ _ _ := by simp
  waitFailed _ failed _ := by
    cases failed with
    | noWaitPlan notAcquired | queueFull notAcquired => simp [notAcquired]
    | slotFailed notAcquired _ _ refused => simp [notAcquired, refused]
  accountSlot _ slot _ := by
    cases slot with
    | selected acquired => simp [acquired]
    | waited notAcquired _ _ granted => simp [notAcquired, granted]
  exhausted _ _ _ := by simp
  retry _ _ := by simp
  forwardFailed _ _ := by simp
  succeeded _ := by simp

end

/-- Every run of `Responses` keeps the slot discipline, and a run that returns in preflight makes
no call but its error response, so it takes no slot. -/
theorem responses_slots (h : OpenAIGatewayHandler) (svc : Service) (req : Request)
    (env : Collaborators) :
    slotMonitor.Accepts (responses h svc req env).trace ∧
      ∀ r : Rejection, preflight svc req = .error r →
        (responses h svc req env).trace = [.errorResponse r.1 r.2.1 r.2.2] := by
  rcases responses_calls h svc req env with
    ⟨r, rejected, trace⟩ | ⟨p, calls, passed, dispatched, trace⟩
  · refine ⟨⟨_, by rw [trace]; rfl, by simp⟩, fun r' rejected' => ?_⟩
    rw [rejected] at rejected'
    cases rejected'
    exact trace
  · exact ⟨trace ▸ slot_spec.accepts dispatched,
      fun r rejected => by rw [passed] at rejected; cases rejected⟩

end Sub2api.Proof
