import Sub2api.Handler.Errors

/-! `openaiErrorRecordingContext` and `recordError`: what a failed request leaves in the
usage log, with its whitelisted snapshot of the request headers. -/

namespace Sub2api.Handler

/-- The request as the handler reads it through `gin.Context`: `c.GetHeader` (the first value
of a header, `""` when absent, as bytes) and `ip.GetClientIP(c)`. -/
structure GinContext where
  getHeader : String → List UInt8
  clientIP : String

/-- `openaiErrorRecordingContext`. `requestID` and `startTime` feed only the fields left out
of `OpenAIRecordErrorUsageInput`. -/
structure OpenaiErrorRecordingContext where
  c : GinContext
  apiKey : APIKey
  subscription : Option UserSubscription
  model : String
  stream : Bool
  account : Option Account

/-- `setAccount`. -/
def OpenaiErrorRecordingContext.setAccount (e : OpenaiErrorRecordingContext)
    (account : Account) : OpenaiErrorRecordingContext :=
  { e with account := some account }

/-- The headers `recordError` copies, in its order. -/
def headerWhitelist : List String :=
  ["Content-Type", "Accept", "X-Request-ID", "X-Forwarded-For", "X-Real-IP", "Authorization",
    "OpenAI-Beta"]

/-- The bytes of `"..."`. -/
def ellipsis : List UInt8 := [0x2E, 0x2E, 0x2E]

/-- The value stored for one whitelisted header: `Authorization` is cut to its first 10 bytes
followed by `"..."` when it is longer than 10 bytes. -/
def redactHeader (header : String) (value : List UInt8) : List UInt8 :=
  if header = "Authorization" ∧ value.length > 10 then value.take 10 ++ ellipsis else value

/-- The `requestHeaders` map built by the loop over `headerWhitelist`; empty values are
skipped. The whitelist has no repeated name, so the map is this list in insertion order. -/
def collectRequestHeaders (getHeader : String → List UInt8) : List (String × List UInt8) :=
  headerWhitelist.filterMap fun header =>
    let value := getHeader header
    if value = [] then none else some (header, redactHeader header value)

/-- `recordError`: nothing when the key has no user, otherwise the input handed to
`RecordErrorUsage`. -/
def OpenaiErrorRecordingContext.recordError (e : OpenaiErrorRecordingContext)
    (errorType : String) (statusCode : Nat) (message : String)
    (upstreamStatusCode : Option Int) (upstreamErrorMessage : String) :
    Option OpenAIRecordErrorUsageInput :=
  match e.apiKey.user with
  | none => none
  | some user => some
    { apiKey := e.apiKey
      user := user
      account := e.account
      subscription := e.subscription
      model := e.model
      stream := e.stream
      userAgent := e.c.getHeader "User-Agent"
      ipAddress := e.c.clientIP
      requestHeaders := collectRequestHeaders e.c.getHeader
      errorType := errorType
      errorStatusCode := statusCode
      errorMessage := message
      errorBody := match Json.marshal (errorObject errorType message) with
        | .ok bytes => bytes
        | .error _ => []
      upstreamStatusCode := upstreamStatusCode
      upstreamErrorMessage := upstreamErrorMessage }

end Sub2api.Handler
