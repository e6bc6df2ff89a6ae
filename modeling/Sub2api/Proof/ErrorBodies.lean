import Sub2api.Handler.Recording
import Sub2api.Json.RoundTrip

/-! The texts of the handler's errors, read back by `json.Unmarshal`. The body `errorResponse`
sends and the `ErrorBody` `recordError` stores are `json.Marshal` output, and read back as the
error object for every type and message. The SSE event of `handleStreamingAwareError` formats
the type and the message with `%s`, unescaped: its data line reads back as the same object when
neither holds a quote, a backslash or a control character. -/

namespace Sub2api.Proof

open Sub2api.Json Sub2api.Handler

/-- The error object is a map `json.Unmarshal` can return: its keys sorted, two levels deep. -/
theorem errorObject_wellFormed (errType message : String) :
    (Value.object (errorObject errType message)).WellFormed 0 := by
  have messageFirst : keyLess "message" "type" = true := by decide
  exact ⟨by decide, List.sorted_singleton _, ⟨by decide, List.sorted_cons.mpr ⟨fun b member => by
    rw [List.mem_singleton.mp member]; exact messageFirst, List.sorted_singleton _⟩,
    trivial, trivial, trivial⟩, trivial⟩

/-- `json.Marshal` writes the error object, and the text reads back as it. -/
private theorem marshal_errorObject (errType message : String) :
    ∃ bytes, marshal (errorObject errType message) = .ok bytes ∧
      unmarshal bytes = .ok (some (errorObject errType message)) :=
  have ⟨bytes, encoded⟩ := encodeValue_ok _ (errorObject_wellFormed errType message)
  ⟨bytes, encoded, unmarshal_marshal (errorObject_wellFormed errType message) encoded⟩

/-- Both JSON texts of an error read back as the object they were built from, whatever the type
and the message hold: the body `errorResponse` sends, and the `ErrorBody` `recordError` stores
beside the type and the message it records. -/
theorem errorBodies_read_back :
    (∀ status errType message, unmarshal (errorResponse status errType message).body =
        .ok (some (errorObject errType message))) ∧
    (∀ (e : OpenaiErrorRecordingContext) errorType statusCode message upstream upstreamMessage
        (input : OpenAIRecordErrorUsageInput),
        e.recordError errorType statusCode message upstream upstreamMessage = some input →
        unmarshal input.errorBody = .ok (some (errorObject input.errorType input.errorMessage))) := by
  refine ⟨fun status errType message => ?_, fun e errorType _ message _ _ input recorded => ?_⟩
  · obtain ⟨bytes, encoded, decoded⟩ := marshal_errorObject errType message
    simpa only [errorResponse, Reply.body, encoded] using decoded
  · unfold OpenaiErrorRecordingContext.recordError at recorded
    split at recorded
    · cases recorded
    · cases recorded
      obtain ⟨bytes, encoded, decoded⟩ := marshal_errorObject errorType message
      simpa only [encoded] using decoded

/-! ### The SSE event -/

section
variable {Num : Type} (r : Decimal → Except DecodeError Num) {fuel depth : Nat}

theorem skipSpace_space (rest : List UInt8) : skipSpace (0x20 :: rest) = skipSpace rest := rfl

theorem skipSpace_appendString (key : String) (rest : List UInt8) :
    skipSpace (appendString key ++ rest) = appendString key ++ rest := by
  simp only [appendString, List.cons_append]
  exact skipSpace_cons (by decide) _

theorem parseValue_space (input : List UInt8) :
    parseValue r (fuel + 1) depth (0x20 :: input) = parseValue r (fuel + 1) depth input := by
  rw [parseValue.eq_2, parseValue.eq_2, skipSpace_space]

/-- A string written between quotes with `%s` reads back when its characters are literal. -/
theorem parseValue_literalString (s : String) (literal : ∀ c ∈ s.data, literalChar c = true)
    (rest : List UInt8) :
    parseValue r (fuel + 1) depth (0x22 :: (encodeString s ++ 0x22 :: rest)) =
      .ok (.string s, rest) := by
  have long := length_le_encodeString s
  unfold parseValue
  rw [skipSpace_cons (by decide)]
  dsimp only
  rw [if_neg (by decide), if_neg (by decide), if_pos rfl,
    scanString_literal s literal (by simp only [List.length_append, List.length_cons]; omega) rest]
  rfl

private theorem parseValue_openObject (key : String) (rest : List UInt8)
    (deep : depth < maxNestingDepth) :
    parseValue r (fuel + 1) depth (0x7B :: (appendString key ++ rest)) =
      parseMembers r fuel (depth + 1) [] (appendString key ++ rest) := by
  rw [show appendString key ++ rest = 0x22 :: (key.data.flatMap escapeChar ++ 0x22 :: rest) by
    simp [appendString]]
  exact parseValue_object r deep _

end

/-- The data line of the error event: `{"error": {"type": "%s", "message": "%s"}}`. -/
def errorEventData (errType message : String) : List UInt8 :=
  encodeString ("\x7b\"error\": \x7b\"type\": \"" ++ errType ++ "\", \"message\": \"" ++ message ++
    "\"\x7d\x7d")

/-- The event is `event: error`, the data line, and a blank line. -/
theorem sse_body_eq (errType message : String) :
    (Reply.sse errType message).body =
      encodeString "event: error\ndata: " ++ errorEventData errType message ++ encodeString "\n\n" := by
  simp only [Reply.body, errorEventData, ← encodeString_append, String.append_assoc]
  rfl

/-- The data line cut where the decoder meets its parts. -/
private theorem errorEventData_parts (errType message : String) :
    errorEventData errType message =
      0x7B :: (appendString "error" ++ 0x3A :: 0x20 :: 0x7B :: (appendString "type" ++ 0x3A :: 0x20 ::
        0x22 :: (encodeString errType ++ 0x22 :: 0x2C :: 0x20 :: (appendString "message" ++ 0x3A ::
          0x20 :: 0x22 :: (encodeString message ++ [0x22, 0x7D, 0x7D]))))) := by
  have first : encodeString "\x7b\"error\": \x7b\"type\": \"" =
      0x7B :: (appendString "error" ++ 0x3A :: 0x20 :: 0x7B :: (appendString "type" ++ [0x3A, 0x20, 0x22])) := by
    decide
  have middle : encodeString "\", \"message\": \"" =
      0x22 :: 0x2C :: 0x20 :: (appendString "message" ++ [0x3A, 0x20, 0x22]) := by decide
  have last : encodeString "\"\x7d\x7d" = [0x22, 0x7D, 0x7D] := by decide
  simp only [errorEventData, encodeString_append, first, middle, last, List.cons_append,
    List.append_assoc, List.nil_append]

/-- The data line of literal strings parses as the error object: the outer object with one
member, whose value holds `type`, then `message`, each after a space. -/
private theorem parseText_errorEventData {errType message : String}
    (typeLiteral : ∀ c ∈ errType.data, literalChar c = true)
    (messageLiteral : ∀ c ∈ message.data, literalChar c = true) :
    parseText goNumber (errorEventData errType message) =
      .ok (.object (errorObject errType message)) := by
  obtain ⟨n, enough⟩ : ∃ n, 2 * (errorEventData errType message).length + 2 = n + 6 :=
    ⟨2 * (errorEventData errType message).length - 4, by rw [errorEventData_parts]; simp; omega⟩
  have messageValue : parseValue goNumber (n + 1) 2
      (0x20 :: 0x22 :: (encodeString message ++ [0x22, 0x7D, 0x7D])) =
        .ok (.string message, [0x7D, 0x7D]) := by
    rw [parseValue_space, parseValue_literalString goNumber message messageLiteral]
  have typeValue : ∀ after : List UInt8, parseValue goNumber (n + 2) 2
      (0x20 :: 0x22 :: (encodeString errType ++ 0x22 :: 0x2C :: after)) =
        .ok (.string errType, 0x2C :: after) := fun after => by
    rw [parseValue_space, parseValue_literalString goNumber errType typeLiteral]
  have inner : parseValue goNumber (n + 4) 1
      (0x20 :: 0x7B :: (appendString "type" ++ 0x3A :: 0x20 :: 0x22 :: (encodeString errType ++
        0x22 :: 0x2C :: 0x20 :: (appendString "message" ++ 0x3A :: 0x20 :: 0x22 ::
          (encodeString message ++ [0x22, 0x7D, 0x7D]))))) =
        .ok (.object [("message", .string message), ("type", .string errType)], [0x7D]) := by
    rw [parseValue_space, parseValue_openObject goNumber "type" _ (by decide),
      parseMembers_comma goNumber "type" [] (typeValue _), skipSpace_space, skipSpace_appendString,
      parseMembers_close goNumber "message" _ messageValue]
    rfl
  rw [parseText, enough, errorEventData_parts, parseValue_openObject goNumber "error" _ (by decide),
    parseMembers_close goNumber "error" [] inner]
  rfl

/-- Once a stream has started, `handleStreamingAwareError` writes an `error` event whose data
line reads back as the object the JSON body of the same error reads back as, provided neither
the type nor the message holds a quote, a backslash or a control character. -/
theorem sse_error_data_reads_back {errType message : String}
    (typeLiteral : ∀ c ∈ errType.data, literalChar c = true)
    (messageLiteral : ∀ c ∈ message.data, literalChar c = true) (status : Nat) :
    ∃ data, (handleStreamingAwareError status errType message true).body =
        encodeString "event: error\ndata: " ++ data ++ encodeString "\n\n" ∧
      unmarshal data = .ok (some (errorObject errType message)) ∧
      unmarshal (handleStreamingAwareError status errType message false).body =
        .ok (some (errorObject errType message)) := by
  refine ⟨errorEventData errType message, sse_body_eq errType message, ?_, ?_⟩
  · rw [unmarshal, parseText_errorEventData typeLiteral messageLiteral]
  · obtain ⟨bytes, encoded, decoded⟩ := marshal_errorObject errType message
    simpa only [handleStreamingAwareError_not_started, Reply.body, encoded] using decoded

theorem rateLimit_event_reads_back :
    (∀ c ∈ "rate_limit_error".data, literalChar c = true) ∧
      (∀ c ∈ "Too many pending requests, please retry later".data, literalChar c = true) ∧
      ∃ data, (handleStreamingAwareError 429 "rate_limit_error"
          "Too many pending requests, please retry later" true).body =
          encodeString "event: error\ndata: " ++ data ++ encodeString "\n\n" ∧
        unmarshal data = .ok (some (errorObject "rate_limit_error"
          "Too many pending requests, please retry later")) ∧
        unmarshal (handleStreamingAwareError 429 "rate_limit_error"
            "Too many pending requests, please retry later" false).body =
          .ok (some (errorObject "rate_limit_error" "Too many pending requests, please retry later")) :=
  ⟨by decide, by decide, sse_error_data_reads_back (by decide) (by decide) 429⟩

/-- The no-account message for a selector error whose text holds a quote, as
`"No available accounts: " + err.Error()` builds it. -/
def quotedNoAccountsMessage : String := "No available accounts: " ++ "model \"gpt-x\" not found"

/-- `%s` writes the message unescaped, so once a stream has started a message holding a quote
leaves a data line that json.Unmarshal rejects, while the body `errorResponse` sends for the same
message reads back as the error object. -/
theorem sse_error_data_not_json :
    (handleStreamingAwareError 503 "api_error" quotedNoAccountsMessage true).body =
        encodeString "event: error\ndata: " ++ errorEventData "api_error" quotedNoAccountsMessage ++
          encodeString "\n\n" ∧
      (unmarshal (errorEventData "api_error" quotedNoAccountsMessage)).toBool = false ∧
      unmarshal (handleStreamingAwareError 503 "api_error" quotedNoAccountsMessage false).body =
        .ok (some (errorObject "api_error" quotedNoAccountsMessage)) :=
  ⟨sse_body_eq _ _, by decide, rfl⟩

end Sub2api.Proof
