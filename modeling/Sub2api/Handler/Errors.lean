import Sub2api.Handler.Types
import Sub2api.Json.Encode

/-! The handler's error shaping: `mapUpstreamError`, the two client writers and the
configuration read by `NewOpenAIGatewayHandler`. -/

namespace Sub2api.Handler

/-- The fields of `config.Config` that `NewOpenAIGatewayHandler` reads. -/
structure Config where
  gatewayMaxAccountSwitches : Int
  deriving DecidableEq, Repr

/-- `OpenAIGatewayHandler`, reduced to the failover bound; the services it holds are the
collaborators of a run. -/
structure OpenAIGatewayHandler where
  maxAccountSwitches : Nat
  deriving DecidableEq, Repr

/-- `NewOpenAIGatewayHandler`: 3 switches unless a positive bound is configured. -/
def newOpenAIGatewayHandler (cfg : Option Config) : OpenAIGatewayHandler :=
  { maxAccountSwitches := match cfg with
      | some cfg =>
        if cfg.gatewayMaxAccountSwitches > 0 then cfg.gatewayMaxAccountSwitches.toNat else 3
      | none => 3 }

/-- `mapUpstreamError`: client status, error type and message for an upstream status. -/
def mapUpstreamError (statusCode : Int) : Nat × String × String :=
  match statusCode with
  | 401 => (502, "upstream_error", "Upstream authentication failed, please contact administrator")
  | 403 => (502, "upstream_error", "Upstream access forbidden, please contact administrator")
  | 429 => (429, "rate_limit_error", "Upstream rate limit exceeded, please retry later")
  | 529 => (503, "upstream_error", "Upstream service overloaded, please retry later")
  | 500 | 502 | 503 | 504 => (502, "upstream_error", "Upstream service temporarily unavailable")
  | _ => (502, "upstream_error", "Upstream request failed")

/-- The message `handleConcurrencyError` formats for a slot type. -/
def concurrencyErrorMessage (slotType : String) : String :=
  "Concurrency limit exceeded for " ++ slotType ++ ", please retry later"

/-- What the client receives from one of the handler's writers: a JSON error body with a
status, or (once a stream has started) an SSE `error` event, which carries no status. -/
inductive Reply where
  | json (status : Nat) (errType message : String)
  | sse (errType message : String)
  deriving DecidableEq, Repr

/-- `errorResponse`: `c.JSON(status, {"error": {"type": .., "message": ..}})`. -/
def errorResponse (status : Nat) (errType message : String) : Reply :=
  .json status errType message

/-- `handleStreamingAwareError`. Gin's writer is always an `http.Flusher`, so the SSE branch
always writes its event. -/
def handleStreamingAwareError (status : Nat) (errType message : String)
    (streamStarted : Bool) : Reply :=
  if streamStarted then .sse errType message else errorResponse status errType message

open Sub2api.Json in
/-- `{"error": {"type": errType, "message": message}}` as a Go map, its keys in order. -/
def errorObject (errType message : String) : List (String × GoValue) :=
  [("error", .object [("message", .string message), ("type", .string errType)])]

open Sub2api.Json in
/-- The bytes a reply writes: the body `c.JSON` marshals (nothing when marshalling fails), or
the event `handleStreamingAwareError` formats with `%s` for the type and the message. -/
def Reply.body : Reply → List UInt8
  | .json _ errType message =>
    match marshal (errorObject errType message) with
    | .ok bytes => bytes
    | .error _ => []
  | .sse errType message =>
    encodeString ("event: error\ndata: \x7b\"error\": \x7b\"type\": \"" ++ errType ++
      "\", \"message\": \"" ++ message ++ "\"\x7d\x7d\n\n")

/-- The status line a reply delivers, if any. -/
def Reply.status? : Reply → Option Nat
  | .json status _ _ => some status
  | .sse _ _ => none

/-- The reply an event writes to the client, if it is one of the writers. -/
def Event.reply? : Event → Option Reply
  | .errorResponse status errType message =>
    some (Handler.errorResponse status errType message)
  | .handleStreamingAwareError status errType message streamStarted =>
    some (Handler.handleStreamingAwareError status errType message streamStarted)
  | _ => none

@[simp] theorem handleStreamingAwareError_started (status : Nat) (errType message : String) :
    handleStreamingAwareError status errType message true = .sse errType message := rfl

@[simp] theorem handleStreamingAwareError_not_started (status : Nat) (errType message : String) :
    handleStreamingAwareError status errType message false = .json status errType message := rfl

end Sub2api.Handler
