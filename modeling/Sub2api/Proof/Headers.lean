import Sub2api.Handler.Recording

/-! The header snapshot of `recordError`: it holds exactly the non-empty whitelisted headers, and
of `Authorization` only the first 10 bytes, so two requests whose `Authorization` values agree
on those bytes leave the same record. -/

namespace Sub2api.Proof

open Sub2api.Handler

/-- The map `recordError` builds, read back one header at a time: a non-empty whitelisted
header, redacted. -/
theorem lookup_collectRequestHeaders (getHeader : String → List UInt8) (header : String) :
    (collectRequestHeaders getHeader).lookup header =
      if header ∈ headerWhitelist ∧ getHeader header ≠ [] then
        some (redactHeader header (getHeader header))
      else none := by
  unfold collectRequestHeaders
  induction headerWhitelist with
  | nil => simp
  | cons name names ih =>
    by_cases empty : getHeader name = []
    · by_cases same : header = name
      · subst same
        simp [empty, ih]
      · simp [empty, ih, same]
    · by_cases same : header = name
      · subst same
        simp [empty]
      · simp [empty, ih, List.lookup_cons, beq_false_of_ne same, same]

/-- Only whitelisted headers are kept. -/
theorem mem_collectRequestHeaders {getHeader : String → List UInt8} {entry : String × List UInt8}
    (member : entry ∈ collectRequestHeaders getHeader) : entry.1 ∈ headerWhitelist := by
  obtain ⟨header, whitelisted, kept⟩ := List.mem_filterMap.mp member
  simp only at kept
  split at kept
  · cases kept
  · cases kept
    exact whitelisted

/-- A long `Authorization` value is stored as its first 10 bytes and `"..."`. -/
theorem redactHeader_authorization {value : List UInt8} (long : 10 < value.length) :
    redactHeader "Authorization" value = value.take 10 ++ ellipsis := by
  simp [redactHeader, long]

/-- Two requests that agree on every whitelisted header but `Authorization`, whose
`Authorization` values are long and agree on their first 10 bytes, get the same map. -/
theorem collectRequestHeaders_eq {g₁ g₂ : String → List UInt8}
    (same : ∀ header ∈ headerWhitelist, header ≠ "Authorization" → g₁ header = g₂ header)
    (long₁ : 10 < (g₁ "Authorization").length) (long₂ : 10 < (g₂ "Authorization").length)
    (prefix₁₂ : (g₁ "Authorization").take 10 = (g₂ "Authorization").take 10) :
    collectRequestHeaders g₁ = collectRequestHeaders g₂ := by
  unfold collectRequestHeaders
  refine List.filterMap_congr fun header whitelisted => ?_
  by_cases authorization : header = "Authorization"
  · subst authorization
    have nonempty₁ : g₁ "Authorization" ≠ [] := List.ne_nil_of_length_pos (by omega)
    have nonempty₂ : g₂ "Authorization" ≠ [] := List.ne_nil_of_length_pos (by omega)
    simp [nonempty₁, nonempty₂, redactHeader_authorization long₁, redactHeader_authorization long₂,
      prefix₁₂]
  · simp [same header whitelisted authorization]

/-- The header snapshot of `recordError`: only whitelisted headers; for two requests that agree on
every whitelisted header but a long `Authorization` sharing its first 10 bytes, equal maps
storing those bytes and `"..."`; and no byte of `Authorization` past the tenth changes the
record. -/
theorem recordError_requestHeaders :
    (∀ (e : OpenaiErrorRecordingContext) errorType statusCode message upstream upstreamMessage
        (input : OpenAIRecordErrorUsageInput),
        e.recordError errorType statusCode message upstream upstreamMessage = some input →
        ∀ entry ∈ input.requestHeaders, entry.1 ∈ headerWhitelist) ∧
    (∀ (e₁ e₂ : OpenaiErrorRecordingContext) errorType statusCode message upstream upstreamMessage
        (input₁ input₂ : OpenAIRecordErrorUsageInput),
        e₁.recordError errorType statusCode message upstream upstreamMessage = some input₁ →
        e₂.recordError errorType statusCode message upstream upstreamMessage = some input₂ →
        (∀ header ∈ headerWhitelist, header ≠ "Authorization" →
          e₁.c.getHeader header = e₂.c.getHeader header) →
        10 < (e₁.c.getHeader "Authorization").length →
        10 < (e₂.c.getHeader "Authorization").length →
        (e₁.c.getHeader "Authorization").take 10 = (e₂.c.getHeader "Authorization").take 10 →
        input₁.requestHeaders = input₂.requestHeaders ∧
          input₁.requestHeaders.lookup "Authorization" =
            some ((e₁.c.getHeader "Authorization").take 10 ++ ellipsis)) ∧
    (∀ (e : OpenaiErrorRecordingContext) (getHeader : String → List UInt8) errorType statusCode
        message upstream upstreamMessage,
        (∀ header, header ≠ "Authorization" → getHeader header = e.c.getHeader header) →
        10 < (e.c.getHeader "Authorization").length → 10 < (getHeader "Authorization").length →
        (getHeader "Authorization").take 10 = (e.c.getHeader "Authorization").take 10 →
        { e with c := { e.c with getHeader := getHeader } }.recordError errorType statusCode
            message upstream upstreamMessage =
          e.recordError errorType statusCode message upstream upstreamMessage) := by
  refine ⟨fun e _ _ _ _ _ input recorded entry member => ?_,
    fun e₁ e₂ _ _ _ _ _ input₁ input₂ recorded₁ recorded₂ same long₁ long₂ prefix₁₂ => ?_,
    fun e getHeader _ _ _ _ _ same long long' prefix' => ?_⟩
  · unfold OpenaiErrorRecordingContext.recordError at recorded
    split at recorded
    · cases recorded
    · cases recorded
      exact mem_collectRequestHeaders member
  · unfold OpenaiErrorRecordingContext.recordError at recorded₁ recorded₂
    split at recorded₁ <;> split at recorded₂ <;> cases recorded₁ <;> cases recorded₂
    have nonempty : e₁.c.getHeader "Authorization" ≠ [] := List.ne_nil_of_length_pos (by omega)
    refine ⟨collectRequestHeaders_eq same long₁ long₂ prefix₁₂, ?_⟩
    rw [lookup_collectRequestHeaders, if_pos ⟨by decide, nonempty⟩, redactHeader_authorization long₁]
  · have headers := collectRequestHeaders_eq (fun header _ other => same header other) long' long
      prefix'
    unfold OpenaiErrorRecordingContext.recordError
    split <;> simp_all

/-- A recording context for a request whose only header is `Authorization`. -/
def bearerContext (authorization : String) : OpenaiErrorRecordingContext where
  c :=
    { getHeader := fun name => if name = "Authorization" then Json.encodeString authorization else []
      clientIP := "203.0.113.7" }
  apiKey := { user := some ⟨1⟩, groupID := none }
  subscription := none
  model := "m"
  stream := true
  account := none

theorem longerKey_same_requestHeaders :
    ∃ input₁ input₂,
      (bearerContext "Bearer sk-0123456789").recordError "no_account" 503 "No available accounts"
          none "" = some input₁ ∧
      (bearerContext "Bearer sk-0123456789xyz").recordError "no_account" 503
          "No available accounts" none "" = some input₂ ∧
      input₁.requestHeaders = input₂.requestHeaders ∧
      input₁.requestHeaders.lookup "Authorization" =
        some ((Json.encodeString "Bearer sk-0123456789").take 10 ++ ellipsis) :=
  ⟨_, _, rfl, rfl, recordError_requestHeaders.2.1 (bearerContext "Bearer sk-0123456789")
    (bearerContext "Bearer sk-0123456789xyz") "no_account" 503 "No available accounts" none "" _ _
    rfl rfl (by decide) (by decide) (by decide) (by decide)⟩

end Sub2api.Proof
