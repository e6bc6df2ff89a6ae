import Mathlib.Data.List.Basic

/-! The data the OpenAI Responses handler (`openai_gateway_handler.go`) reads from its
collaborators and the calls it makes, as one event type. A run of the handler is the list of
its calls in order; every property of the handler is a statement about that list. -/

namespace Sub2api.Handler

/-- `service.User`, reduced to what the handler passes on. -/
structure User where
  id : Int
  deriving DecidableEq, Repr

/-- `service.APIKey`: the owner (nil-able pointer) and the group the key selects accounts in. -/
structure APIKey where
  user : Option User
  groupID : Option Int
  deriving DecidableEq, Repr

/-- `middleware.AuthSubject`. -/
structure AuthSubject where
  userID : Int
  concurrency : Int
  deriving DecidableEq, Repr

/-- `service.UserSubscription`, passed through to billing and recording only. -/
structure UserSubscription where
  id : Int
  deriving DecidableEq, Repr

/-- `service.Account`: the handler compares accounts by `ID` and passes them on. -/
structure Account where
  id : Int
  deriving DecidableEq, Repr

/-- `service.AccountWaitPlan`: the fields `Responses` reads. -/
structure AccountWaitPlan where
  maxConcurrency : Int
  timeout : Nat
  maxWaiting : Int
  deriving DecidableEq, Repr

/-- A non-nil `func()` handed back with a slot; calling it releases that slot. Which slot it
releases is fixed by where the handler obtained it, so the value itself carries nothing. -/
structure ReleaseFunc where
  deriving DecidableEq, Repr

/-- `service.AccountSelectionResult`. The selector's contract, that a selection reporting
`Acquired` carries the release function of the slot it took, is a field. -/
structure AccountSelectionResult where
  account : Account
  acquired : Bool
  releaseFunc : Option ReleaseFunc
  waitPlan : Option AccountWaitPlan
  releaseFunc_of_acquired : acquired = true → releaseFunc.isSome = true

/-- One call of a slot helper (`AcquireUserSlotWithWait`, `AcquireAccountSlotWithWaitTimeout`):
whether it wrote a heartbeat while waiting, and the release function or the error. -/
structure SlotAttempt where
  heartbeat : Bool
  result : Except String ReleaseFunc

/-- What `Forward` returns in its `error`: an `*UpstreamFailoverError` found by `errors.As`,
or any other error by its text. -/
inductive ForwardError where
  | upstreamFailover (statusCode : Int)
  | other (message : String)
  deriving DecidableEq, Repr

/-- `*service.OpenAIForwardResult`, handed to `RecordUsage` unread. -/
structure OpenAIForwardResult where
  requestID : String
  deriving DecidableEq, Repr

/-- `service.OpenAIRecordErrorUsageInput` as `recordError` fills it. `RequestID` (a fresh
UUID) and `DurationMs` (wall-clock time) are left out. -/
structure OpenAIRecordErrorUsageInput where
  apiKey : APIKey
  user : User
  account : Option Account
  subscription : Option UserSubscription
  model : String
  stream : Bool
  userAgent : List UInt8
  ipAddress : String
  requestHeaders : List (String × List UInt8)
  errorType : String
  errorStatusCode : Nat
  errorMessage : String
  errorBody : List UInt8
  upstreamStatusCode : Option Int
  upstreamErrorMessage : String
  deriving DecidableEq, Repr

/-- `service.OpenAIRecordUsageInput` as the success path fills it. -/
structure OpenAIRecordUsageInput where
  result : OpenAIForwardResult
  apiKey : APIKey
  user : Option User
  account : Account
  subscription : Option UserSubscription
  userAgent : List UInt8
  ipAddress : String
  deriving DecidableEq, Repr

/-- The calls of one run of `Responses`, each with its arguments and, for a collaborator, the
answer it gave. `errorResponse` and `handleStreamingAwareError` are the handler's own writers
to the client; `releaseUserSlot` and `releaseAccountSlot` are calls of the wrapped release
functions. -/
inductive Event where
  | errorResponse (status : Nat) (errType message : String)
  | handleStreamingAwareError (status : Nat) (errType message : String) (streamStarted : Bool)
  | incrementWaitCount (userID maxWait : Int) (result : Except String Bool)
  | decrementWaitCount (userID : Int)
  | acquireUserSlotWithWait (userID concurrency : Int) (isStream : Bool) (attempt : SlotAttempt)
  | releaseUserSlot
  | checkBillingEligibility (result : Option String)
  | selectAccountWithLoadAwareness (groupID : Option Int) (sessionHash model : String)
      (failedAccountIDs : List Int) (result : Except String AccountSelectionResult)
  | incrementAccountWaitCount (accountID maxWaiting : Int) (result : Except String Bool)
  | decrementAccountWaitCount (accountID : Int)
  | acquireAccountSlotWithWaitTimeout (accountID : Int) (plan : AccountWaitPlan)
      (isStream : Bool) (attempt : SlotAttempt)
  | bindStickySession (groupID : Option Int) (sessionHash : String) (accountID : Int)
  | forward (account : Account) (body : List UInt8)
      (result : Except ForwardError OpenAIForwardResult)
  | releaseAccountSlot (accountID : Int)
  | recordErrorUsage (input : OpenAIRecordErrorUsageInput)
  | recordUsage (input : OpenAIRecordUsageInput)

end Sub2api.Handler
