import Sub2api.Proof.Calls
import Sub2api.Handler.Responses
import Mathlib.Data.List.GetD

/-! The faithful model of `Responses` after preflight makes exactly the calls `DispatchCalls`
describes. The frame invariant `LoopFrame` says what the defer stack and the captured
variables look like at the top of every iteration; with it, the deferred calls at each
`return` are known, and the loop is matched against `LoopCalls` one iteration at a time. -/

namespace Sub2api.Proof

open Sub2api.Handler

/-- The frame at the top of every iteration of the failover loop: the user wait count is
settled, every account wait cell reads `false`, and the defer stack holds account wait closures
over existing cells above the user slot's release and the user wait closure. -/
structure LoopFrame (uid : Int) (f : Frame) : Prop where
  settled : f.waitCounted = false
  cellsFalse : ∀ b ∈ f.accountWaitCounted, b = false
  defers : ∃ cs : List (Nat × Int), (∀ c ∈ cs, c.1 < f.accountWaitCounted.length) ∧
    f.defers = cs.map (fun c => Deferred.decrementAccountWaitCount c.1 c.2) ++
      [.releaseUserSlot, .decrementWaitCount uid]

private theorem getD_of_all_false {l : List Bool} (allFalse : ∀ b ∈ l, b = false) (i : Nat) :
    l.getD i false = false := by
  rw [List.getD_eq_getElem?_getD]
  cases found : l[i]? with
  | none => rfl
  | some b => exact allFalse b (List.getElem?_mem found)

/-- At a `return` from the loop the old closures are silent: of the frame's deferred calls only
the user slot's release is made, whatever was appended to the cells since. -/
theorem LoopFrame.deferredCalls {uid : Int} {f g : Frame} (frame : LoopFrame uid f)
    (settled : g.waitCounted = false) (extra : List Bool)
    (cells : g.accountWaitCounted = f.accountWaitCounted ++ extra) :
    f.defers.filterMap g.deferredCall = [.releaseUserSlot] := by
  obtain ⟨cs, bounded, stack⟩ := frame.defers
  rw [stack, List.filterMap_append, List.filterMap_map, List.filterMap_eq_nil_iff.mpr]
  · simp [Frame.deferredCall, settled]
  · intro c member
    have quiet : g.accountWaitCounted.getD c.1 false = false := by
      rw [cells, List.getD_append _ _ _ _ (bounded c member)]
      exact getD_of_all_false frame.cellsFalse c.1
    simp only [Function.comp_apply, Frame.deferredCall, quiet, Bool.false_eq_true, ↓reduceIte]

/-- A `return` from the loop without a new closure makes only the user slot's release. -/
theorem LoopFrame.exit_trace {uid : Int} {f g : Frame} (frame : LoopFrame uid f)
    (defers : g.defers = f.defers) (settled : g.waitCounted = false) (extra : List Bool)
    (cells : g.accountWaitCounted = f.accountWaitCounted ++ extra) :
    g.exit.trace = g.trace ++ [.releaseUserSlot] := by
  rw [Frame.exit_trace, defers, frame.deferredCalls settled extra cells]

/-- A `return` after the iteration's account wait closure was deferred: the closure decrements
when its cell was set, then the user slot is released. -/
theorem LoopFrame.exit_trace_closure {uid : Int} {f g : Frame} (frame : LoopFrame uid f)
    (accountID : Int) (counted : Bool)
    (defers : g.defers =
      .decrementAccountWaitCount f.accountWaitCounted.length accountID :: f.defers)
    (settled : g.waitCounted = false)
    (cells : g.accountWaitCounted = f.accountWaitCounted ++ [counted]) :
    g.exit.trace = g.trace ++
      ((if counted then [.decrementAccountWaitCount accountID] else []) ++ [.releaseUserSlot]) := by
  rw [Frame.exit_trace, defers, List.filterMap_cons, frame.deferredCalls settled [counted] cells]
  cases counted <;> simp [Frame.deferredCall, cells]

theorem LoopFrame.emit {uid : Int} {f : Frame} (frame : LoopFrame uid f) (e : Event) :
    LoopFrame uid (f.emit e) := ⟨frame.settled, frame.cellsFalse, frame.defers⟩

/-- Deferring the iteration's account wait closure over a fresh cell reading `false` keeps the
loop's frame invariant. -/
theorem LoopFrame.push {uid : Int} {f g : Frame} (frame : LoopFrame uid f) (accountID : Int)
    (settled : g.waitCounted = false)
    (cells : g.accountWaitCounted = f.accountWaitCounted ++ [false])
    (defers : g.defers =
      .decrementAccountWaitCount f.accountWaitCounted.length accountID :: f.defers) :
    LoopFrame uid g := by
  obtain ⟨cs, bounded, stack⟩ := frame.defers
  refine ⟨settled, ?_, (f.accountWaitCounted.length, accountID) :: cs, ?_, ?_⟩
  · intro b member
    rw [cells, List.mem_append] at member
    rcases member with old | fresh
    · exact frame.cellsFalse b old
    · simpa using fresh
  · intro c member
    rw [cells, List.length_append]
    rcases List.mem_cons.mp member with rfl | old
    · simp
    · have := bounded c old
      simp only [List.length_singleton]
      omega
  · rw [defers, stack]
    rfl

theorem recordError_trace_eq (e : OpenaiErrorRecordingContext) (errorType : String)
    (statusCode : Nat) (message : String) (upstreamStatusCode : Option Int) (f : Frame) :
    (f.recordError e errorType statusCode message upstreamStatusCode).trace =
      f.trace ++ recorded e errorType statusCode message upstreamStatusCode :=
  Frame.recordError_trace e errorType statusCode message upstreamStatusCode f

variable {h : OpenAIGatewayHandler} {env : Collaborators} {p : Prepared} {sessionHash : String}
  {n : Nat} {errCtx : OpenaiErrorRecordingContext} {sel : AccountSelectionResult} {uid : Int}
  {g g' : Frame} {r : Option ReleaseFunc}

/-- A `return` from inside the account block: the block's calls are a `WaitFailed` path, and
the deferred calls add the user slot's release after the account wait closure. -/
theorem waitForAccount_returned (frame : LoopFrame uid g)
    (found : waitForAccount env p sessionHash n errCtx sel g = .returned g') :
    ∃ calls, WaitFailed env p n errCtx sel g.streamStarted calls ∧
      g'.exit.trace = g.trace ++ calls ++ [.releaseUserSlot] := by
  unfold waitForAccount at found
  dsimp only at found
  split at found
  · cases found
  · rename_i notAcquired
    split at found
    · rename_i noPlan
      cases found
      refine ⟨_, .noWaitPlan (by simpa using notAcquired) noPlan, ?_⟩
      rw [frame.exit_trace (by simp) (by simpa using frame.settled) [] (by simp)]
      simp [recordError_trace_eq]
    · rename_i plan planned
      split at found
      · rename_i full
        cases found
        refine ⟨_, .queueFull (by simpa using notAcquired) planned full, ?_⟩
        rw [frame.exit_trace (by simp) (by simpa using frame.settled) [false] (by simp)]
        simp [recordError_trace_eq]
      · rename_i admitted
        split at found
        · rename_i err refused
          cases found
          refine ⟨_, .slotFailed (by simpa using notAcquired) planned (by simpa using admitted)
            refused, ?_⟩
          rw [frame.exit_trace_closure sel.account.id (countedWait (env.incrementAccountWaitCount n))
            (by simp) (by simpa using frame.settled) (by split <;> simp [*])]
          simp [recordError_trace_eq, waitCalls, accountDecrement]
        · cases found

/-- The account block falls through holding a slot: an `AccountSlot` path, with a release
function, and the frame invariant kept (a waited slot leaves its closure's cell `false`). -/
theorem waitForAccount_next (frame : LoopFrame uid g)
    (found : waitForAccount env p sessionHash n errCtx sel g = .next r g') :
    ∃ calls flag, AccountSlot env p sessionHash n sel g.streamStarted calls flag ∧
      g'.trace = g.trace ++ calls ∧ g'.streamStarted = flag ∧ r.isSome = true ∧
      LoopFrame uid g' := by
  unfold waitForAccount at found
  dsimp only at found
  split at found
  · rename_i acquired
    cases found
    exact ⟨[], _, .selected acquired, by simp, rfl, sel.releaseFunc_of_acquired acquired, frame⟩
  · rename_i notAcquired
    split at found
    · cases found
    · rename_i plan planned
      split at found
      · cases found
      · rename_i admitted
        split at found
        · cases found
        · rename_i release granted
          cases found
          refine ⟨_, _, .waited (by simpa using notAcquired) planned (by simpa using admitted)
            granted, ?_⟩
          cases counted : countedWait (env.incrementAccountWaitCount n) <;>
            exact ⟨by simp [counted, waitCalls, accountDecrement], by simp [counted], rfl,
              frame.push sel.account.id (by simp [counted, frame.settled]) (by simp [counted])
                (by simp [counted])⟩

variable {f f' : Frame} {v v' : LoopVars}

/-- An iteration that returns makes the calls of one terminal `LoopCalls` path. -/
theorem iteration_returned (frame : LoopFrame uid f)
    (found : iteration h env p sessionHash v f = .returned f') :
    ∃ calls, LoopCalls h env p sessionHash v f.streamStarted calls ∧
      f'.exit.trace = f.trace ++ calls := by
  unfold iteration at found
  dsimp only at found
  split at found
  · rename_i err refused
    split at found
    · rename_i noneFailed
      cases found
      refine ⟨_, .noAccount refused noneFailed, ?_⟩
      rw [frame.exit_trace (by simp) (by simp [frame.settled]) [] (by simp)]
      simp [recordError_trace_eq, selectCall, refused]
    · rename_i someFailed
      cases found
      refine ⟨_, .exhaustedAtSelect refused (by simpa using someFailed), ?_⟩
      rw [frame.exit_trace (by simp) (by simp [frame.settled]) [] (by simp)]
      simp [recordError_trace_eq, selectCall, refused, exhaustedCall]
  · rename_i sel chosen
    split at found
    · rename_i g waitReturned
      cases found
      obtain ⟨calls, failed, exitTrace⟩ := waitForAccount_returned (frame.emit _) waitReturned
      exact ⟨_, .waitFailed chosen failed, by simp [exitTrace, selectCall, chosen]⟩
    · rename_i r g waitNext
      obtain ⟨calls, flag, slot, trace, started, released, frame'⟩ :=
        waitForAccount_next (frame.emit _) waitNext
      simp only [wrapReleaseOnDone, released, ↓reduceIte] at found
      split at found
      · rename_i statusCode failover
        split at found
        · rename_i spent
          cases found
          refine ⟨_, .exhausted chosen slot failover spent, ?_⟩
          rw [frame'.exit_trace (by simp) (by simp [frame'.settled]) [] (by simp)]
          simp [recordError_trace_eq, selectCall, chosen, trace, started, failover, exhaustedCall]
        · cases found
      · rename_i message failed
        cases found
        refine ⟨_, .forwardFailed chosen slot failed, ?_⟩
        rw [frame'.exit_trace (by simp) (by simp [frame'.settled]) [] (by simp)]
        simp [recordError_trace_eq, selectCall, chosen, trace, failed]
      · rename_i result succeeded
        cases found
        refine ⟨_, .succeeded chosen slot succeeded, ?_⟩
        rw [frame'.exit_trace (by simp) (by simp [frame'.settled]) [] (by simp)]
        simp [selectCall, chosen, trace, succeeded]

/-- An iteration that continues keeps the frame invariant and makes the calls of the prefix of
a `retry` path. -/
theorem iteration_continues (frame : LoopFrame uid f)
    (found : iteration h env p sessionHash v f = .next v' f') :
    LoopFrame uid f' ∧ ∃ pre, f'.trace = f.trace ++ pre ∧
      ∀ rest, LoopCalls h env p sessionHash v' f'.streamStarted rest →
        LoopCalls h env p sessionHash v f.streamStarted (pre ++ rest) := by
  unfold iteration at found
  dsimp only at found
  split at found
  · split at found <;> cases found
  · rename_i sel chosen
    split at found
    · cases found
    · rename_i r g waitNext
      obtain ⟨calls, flag, slot, trace, started, released, frame'⟩ :=
        waitForAccount_next (frame.emit _) waitNext
      simp only [wrapReleaseOnDone, released, ↓reduceIte] at found
      split at found
      · rename_i statusCode failover
        split at found
        · cases found
        · rename_i budget
          cases found
          refine ⟨(frame'.emit _).emit _, [selectCall p sessionHash v (.ok sel)] ++ calls ++
            [.forward sel.account p.body (.error (.upstreamFailover statusCode)),
              .releaseAccountSlot sel.account.id],
            by simp [trace, selectCall, chosen, failover], fun rest next => ?_⟩
          exact LoopCalls.retry chosen slot failover (by omega) (by simpa [started] using next)
      · cases found
      · cases found

/-- The loop from a frame satisfying the invariant makes the calls of a `LoopCalls` path, its
deferred calls included. -/
theorem loop_calls (frame : LoopFrame uid f) :
    ∃ calls, LoopCalls h env p sessionHash v f.streamStarted calls ∧
      (loop h env p sessionHash v f).exit.trace = f.trace ++ calls := by
  induction v, f using loop.induct h env p sessionHash with
  | case1 v f f' found =>
    rw [loop_returned h env p sessionHash found]
    exact iteration_returned frame found
  | case2 v f v' f' found ih =>
    obtain ⟨frame', pre, trace, extend⟩ := iteration_continues frame found
    obtain ⟨rest, calls, exitTrace⟩ := ih frame'
    refine ⟨pre ++ rest, extend rest calls, ?_⟩
    rw [loop_next h env p sessionHash found, exitTrace, trace, List.append_assoc]

/-- The loop entered after billing, from a frame holding the user slot and nothing else. -/
private theorem dispatch_looped {release : ReleaseFunc}
    (admitted : fullQueue env.incrementWaitCount = false)
    (granted : env.acquireUserSlotWithWait.result = .ok release)
    (eligible : env.checkBillingEligibility = none) (frame : LoopFrame p.subject.userID f)
    (started : f.streamStarted = userFlag env p)
    (trace : f.trace = admissionCalls env p ++ userDecrement env p ++
      [.checkBillingEligibility none]) :
    ∃ calls, DispatchCalls h env p calls ∧
      (loop h env p env.generateSessionHash
        { switchCount := 0, failedAccountIDs := [], lastFailoverStatus := 0, errCtx := p.errCtx }
        f).exit.trace = calls := by
  obtain ⟨calls, looped, exitTrace⟩ := @loop_calls h env p env.generateSessionHash _ _
    { switchCount := 0, failedAccountIDs := [], lastFailoverStatus := 0, errCtx := p.errCtx } frame
  rw [started] at looped
  exact ⟨_, .looped admitted granted eligible looped, by rw [exitTrace, trace]⟩

/-- `Responses` after preflight makes the calls of a `DispatchCalls` path, deferred calls
included. -/
theorem dispatch_calls : ∃ calls, DispatchCalls h env p calls ∧ (dispatch h env p).exit.trace = calls := by
  unfold dispatch
  dsimp only
  split
  · rename_i full
    refine ⟨_, .queueFull full, ?_⟩
    rw [Frame.exit_trace]
    simp [recordError_trace_eq]
  · rename_i admitted
    split
    · rename_i err refused
      refine ⟨_, .userSlotFailed (by simpa using admitted) refused, ?_⟩
      rw [Frame.exit_trace]
      cases counted : countedWait env.incrementWaitCount <;>
        simp [recordError_trace_eq, counted, admissionCalls, userDecrement, userFlag,
          Frame.deferredCall]
    · rename_i release granted
      simp only [wrapReleaseOnDone, Option.isSome_some, ↓reduceIte]
      unfold checkBilling
      dsimp only
      split
      · rename_i err ineligible
        refine ⟨_, .billingFailed (by simpa using admitted) granted ineligible, ?_⟩
        rw [Frame.exit_trace]
        cases counted : countedWait env.incrementWaitCount <;>
          simp [recordError_trace_eq, counted, admissionCalls, userDecrement, userFlag,
            Frame.deferredCall, ineligible]
      · rename_i eligible
        cases counted : countedWait env.incrementWaitCount <;>
          apply dispatch_looped (by simpa using admitted) granted eligible
            ⟨by simp [counted], by simp, [], by simp, by simp⟩ <;>
          simp [counted, admissionCalls, userDecrement, userFlag, eligible]

/-- Every run of `Responses`: a preflight rejection is its only call, and otherwise its calls
are a `DispatchCalls` path. -/
theorem responses_calls (h : OpenAIGatewayHandler) (svc : Service) (req : Request)
    (env : Collaborators) :
    (∃ r : Rejection, preflight svc req = .error r ∧
      (responses h svc req env).trace = [.errorResponse r.1 r.2.1 r.2.2]) ∨
    (∃ p calls, preflight svc req = .ok p ∧ DispatchCalls h env p calls ∧
      (responses h svc req env).trace = calls) := by
  unfold responses
  split
  · rename_i status errType message rejected
    exact .inl ⟨_, rejected, rfl⟩
  · rename_i p passed
    obtain ⟨calls, dispatched, trace⟩ := @dispatch_calls h env p
    exact .inr ⟨p, calls, passed, dispatched, trace⟩

end Sub2api.Proof
