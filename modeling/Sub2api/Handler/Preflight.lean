import Sub2api.Handler.Dispatch
import Mathlib.Data.List.DropRight

/-! Lines 58–143 of `Responses`, before the wait queue: the key and subject from the middleware,
reading and parsing the body, the required model, the default instructions for clients other
than the Codex CLI, and the `function_call_output` check. A failure is the `errorResponse` it
sends; success hands on what `Responses` needs after it. -/

namespace Sub2api.Handler

open Sub2api.Json

/-- How `io.ReadAll(c.Request.Body)` fails: past the body size limit, the `*http.MaxBytesError`
`extractMaxBytesError` finds, or otherwise. -/
inductive ReadError where
  | maxBytes (limit : Int)
  | other
  deriving DecidableEq, Repr

/-- What `Responses` reads from the gin context: `GetAPIKeyFromContext`,
`GetAuthSubjectFromContext`, `GetSubscriptionFromContext` and the body. -/
structure Request where
  c : GinContext
  apiKey : Option APIKey
  subject : Option AuthSubject
  subscription : Option UserSubscription
  body : Except ReadError (List UInt8)

/-- The functions preflight calls that are not in the source: `openai.IsCodexCLIRequest`,
`service.GetOpenCodeInstructions`, the `function_call_output` predicates of the service package,
and `buildBodyTooLargeMessage`. -/
structure Service where
  isCodexCLIRequest : List UInt8 → Bool
  getOpenCodeInstructions : String
  hasFunctionCallOutput : List (String × GoValue) → Bool
  hasToolCallContext : List (String × GoValue) → Bool
  hasFunctionCallOutputMissingCallID : List (String × GoValue) → Bool
  functionCallOutputCallIDs : List (String × GoValue) → List String
  hasItemReferenceForCallIDs : List (String × GoValue) → List String → Bool
  buildBodyTooLargeMessage : Int → String

/-- `unicode.IsSpace`. -/
def isUnicodeSpace (c : Char) : Bool :=
  match c.toNat with
  | 0x09 | 0x0A | 0x0B | 0x0C | 0x0D | 0x20 | 0x85 | 0xA0 | 0x1680 | 0x2028 | 0x2029 | 0x202F
  | 0x205F | 0x3000 => true
  | n => 0x2000 ≤ n && n ≤ 0x200A

/-- `strings.TrimSpace`. -/
def trimSpace (s : String) : String :=
  ⟨((s.data.dropWhile isUnicodeSpace).reverse.dropWhile isUnicodeSpace).reverse⟩

private theorem dropWhile_rdropWhile {p : Char → Bool} {l : List Char} (front : l.dropWhile p = l) :
    (l.rdropWhile p).dropWhile p = l.rdropWhile p := by
  cases l with
  | nil => rfl
  | cons a t =>
    have keep : ¬ p a := List.dropWhile_eq_self_iff.mp front (by simp)
    obtain ⟨suffix, whole⟩ := List.rdropWhile_prefix p (a :: t)
    cases kept : (a :: t).rdropWhile p with
    | nil =>
      rw [List.rdropWhile_eq_nil_iff] at kept
      exact absurd (kept a (List.mem_cons_self a t)) keep
    | cons b r =>
      rw [kept, List.cons_append, List.cons.injEq] at whole
      rw [whole.1, List.dropWhile_cons_of_neg keep]

/-- Trimming a trimmed string changes nothing: it starts and ends with no space. -/
theorem trimSpace_trimSpace (s : String) : trimSpace (trimSpace s) = trimSpace s := by
  have front : (s.data.dropWhile isUnicodeSpace).dropWhile isUnicodeSpace =
      s.data.dropWhile isUnicodeSpace := List.dropWhile_idempotent _ _
  show String.mk (List.rdropWhile _ (List.dropWhile _ (List.rdropWhile _ _))) =
    String.mk (List.rdropWhile _ _)
  rw [dropWhile_rdropWhile front, List.rdropWhile_idempotent]

/-- `m[key].(string)` with the comma-ok form: the string stored under `key`, or `""`. -/
def stringMember (key : String) (m : List (String × GoValue)) : String :=
  match lookupMember key m with
  | some (.string s) => s
  | _ => ""

/-- `m[key].(bool)` with the comma-ok form: the boolean stored under `key`, or `false`. -/
def boolMember (key : String) (m : List (String × GoValue)) : Bool :=
  match lookupMember key m with
  | some (.bool b) => b
  | _ => false

/-- An `errorResponse` preflight sends: status, error type, message. -/
abbrev Rejection := Nat × String × String

/-- Lines 73–86: the body, or why it cannot be read. -/
def readBody (svc : Service) (body : Except ReadError (List UInt8)) : Except Rejection (List UInt8) :=
  match body with
  | .error (.maxBytes limit) =>
    .error (413, "invalid_request_error", svc.buildBodyTooLargeMessage limit)
  | .error .other => .error (400, "invalid_request_error", "Failed to read request body")
  | .ok [] => .error (400, "invalid_request_error", "Request body is empty")
  | .ok body => .ok body

/-- Lines 107–121: for a client other than the Codex CLI whose `instructions` are blank, the
trimmed default instructions go into the map and the body is marshalled again; otherwise the map
and the body are kept. -/
def injectInstructions (svc : Service) (userAgent : List UInt8) (reqBody : List (String × GoValue))
    (body : List UInt8) : Except Rejection (List (String × GoValue) × List UInt8) :=
  if !svc.isCodexCLIRequest userAgent && trimSpace (stringMember "instructions" reqBody) = "" &&
      trimSpace svc.getOpenCodeInstructions != "" then
    let reqBody := insertMember "instructions" (.string (trimSpace svc.getOpenCodeInstructions)) reqBody
    match marshal reqBody with
    | .ok body => .ok (reqBody, body)
    | .error _ => .error (500, "api_error", "Failed to process request")
  else .ok (reqBody, body)

/-- Lines 128–143: a `function_call_output` needs `previous_response_id`, tool-call context, or
a `call_id` on each output with a matching `item_reference`. -/
def checkFunctionCallOutput (svc : Service) (reqBody : List (String × GoValue)) :
    Option Rejection :=
  if svc.hasFunctionCallOutput reqBody && trimSpace (stringMember "previous_response_id" reqBody) = "" &&
      !svc.hasToolCallContext reqBody then
    if svc.hasFunctionCallOutputMissingCallID reqBody then
      some (400, "invalid_request_error", "function_call_output requires call_id or previous_response_id; if relying on history, ensure store=true and reuse previous_response_id")
    else if !svc.hasItemReferenceForCallIDs reqBody (svc.functionCallOutputCallIDs reqBody) then
      some (400, "invalid_request_error", "function_call_output requires item_reference ids matching each call_id, or previous_response_id/tool_call context; if relying on history, ensure store=true and reuse previous_response_id")
    else none
  else none

/-- Lines 58–143. A nil map from a JSON `null` reads as empty, so it fails the model check. -/
def preflight (svc : Service) (req : Request) : Except Rejection Prepared :=
  match req.apiKey, req.subject with
  | none, _ => .error (401, "authentication_error", "Invalid API key")
  | _, none => .error (500, "api_error", "User context not found")
  | some apiKey, some subject =>
    match readBody svc req.body with
    | .error rejection => .error rejection
    | .ok body =>
      match unmarshal body with
      | .error _ => .error (400, "invalid_request_error", "Failed to parse request body")
      | .ok parsed =>
        let reqBody := parsed.getD []
        let reqModel := stringMember "model" reqBody
        let reqStream := boolMember "stream" reqBody
        if reqModel = "" then .error (400, "invalid_request_error", "model is required") else
        match injectInstructions svc (req.c.getHeader "User-Agent") reqBody body with
        | .error rejection => .error rejection
        | .ok (reqBody, body) =>
          match checkFunctionCallOutput svc reqBody with
          | some rejection => .error rejection
          | none => .ok
            { c := req.c, apiKey := apiKey, subject := subject, subscription := req.subscription
              reqModel := reqModel, reqStream := reqStream, body := body }

end Sub2api.Handler
