import Sub2api.Handler.Responses
import Sub2api.Json.RoundTrip

/-! Preflight as a whole, and the body `Responses` forwards. The body is the one read, unless a
client other than the Codex CLI left `instructions` blank while the trimmed default is not
blank; then it is the body's map, as `json.Unmarshal` decodes it into `map[string]any`, with
`instructions` set to the default and marshalled again, and `json.Unmarshal` reads that text
back as exactly this map. Numbers pass through `float64` on the way, so a number float64 cannot
hold does not keep its value. Marshalling a decoded map never fails, and preflight passes its
own output again unchanged. -/

namespace Sub2api.Proof

open Sub2api.Json Sub2api.Handler

theorem readBody_ok {svc : Service} {read : Except ReadError (List UInt8)} {body : List UInt8}
    (ok : readBody svc read = .ok body) : read = .ok body := by
  unfold readBody at ok
  split at ok <;> cases ok
  rfl

/-- The rejections `readBody` sends: too large, unreadable or empty. -/
theorem readBody_status {svc : Service} {read : Except ReadError (List UInt8)} {r : Rejection}
    (rejected : readBody svc read = .error r) : r.1 = 413 ∨ r.1 = 400 := by
  unfold readBody at rejected
  split at rejected <;> cases rejected <;> simp

theorem readBody_of_ne_nil (svc : Service) {body : List UInt8} (nonempty : body ≠ []) :
    readBody svc (.ok body) = .ok body := by
  cases body with
  | nil => exact absurd rfl nonempty
  | cons => rfl

theorem checkFunctionCallOutput_status {svc : Service} {reqBody : List (String × GoValue)}
    {r : Rejection} (rejected : checkFunctionCallOutput svc reqBody = some r) : r.1 = 400 := by
  unfold checkFunctionCallOutput at rejected
  split_ifs at rejected <;> cases rejected <;> rfl

/-- What `injectInstructions` does with the map and the body. -/
theorem injectInstructions_spec {svc : Service} {userAgent body body' : List UInt8}
    {reqBody reqBody' : List (String × GoValue)}
    (injected : injectInstructions svc userAgent reqBody body = .ok (reqBody', body')) :
    (svc.isCodexCLIRequest userAgent = false → trimSpace (stringMember "instructions" reqBody) = "" →
        trimSpace svc.getOpenCodeInstructions ≠ "" →
      reqBody' = insertMember "instructions" (.string (trimSpace svc.getOpenCodeInstructions)) reqBody ∧
        marshal reqBody' = .ok body') ∧
    (svc.isCodexCLIRequest userAgent = true ∨ trimSpace (stringMember "instructions" reqBody) ≠ "" ∨
        trimSpace svc.getOpenCodeInstructions = "" →
      reqBody' = reqBody ∧ body' = body) := by
  unfold injectInstructions at injected
  by_cases inject : (!svc.isCodexCLIRequest userAgent && trimSpace (stringMember "instructions" reqBody) = "" &&
      trimSpace svc.getOpenCodeInstructions != "") = true
  · rw [if_pos inject] at injected
    simp only [Bool.and_eq_true, Bool.not_eq_true', decide_eq_true_eq, bne_iff_ne, ne_eq] at inject
    refine ⟨fun _ _ _ => ?_, fun keep => by rcases keep with keep | keep | keep <;> simp_all⟩
    dsimp only at injected
    split at injected
    · cases injected; exact ⟨rfl, ‹_›⟩
    · cases injected
  · rw [if_neg inject] at injected
    cases injected
    refine ⟨fun cli blank default => absurd ?_ inject, fun _ => ⟨rfl, rfl⟩⟩
    simp [cli, blank, default]

/-- A well-formed map stays well formed with one more string member. -/
theorem wellFormed_insertString {members : List (String × GoValue)} (key text : String)
    (wf : (Value.object members).WellFormed 0) :
    (Value.object (insertMember key (.string text) members)).WellFormed 0 :=
  ⟨wf.1, sortedKeys_insertMember wf.2.1, wellFormedMembers_insertMember (v := .string text) trivial wf.2.2⟩

/-- Re-marshalling a decoded map never fails, so `injectInstructions` never rejects it. -/
theorem injectInstructions_ok (svc : Service) (userAgent : List UInt8) {body : List UInt8}
    {members : List (String × GoValue)} (decoded : unmarshal body = .ok (some members)) :
    ∃ result, injectInstructions svc userAgent members body = .ok result := by
  unfold injectInstructions
  split
  · obtain ⟨bytes, encoded⟩ := encodeValue_ok _ (wellFormed_insertString "instructions"
      (trimSpace svc.getOpenCodeInstructions) (unmarshal_wellFormed decoded))
    dsimp only
    rw [show marshal _ = .ok bytes from encoded]
    exact ⟨_, rfl⟩
  · exact ⟨_, rfl⟩

/-- What a passed preflight has checked and computed. -/
theorem preflight_ok {svc : Service} {req : Request} {p : Prepared}
    (passed : preflight svc req = .ok p) :
    ∃ apiKey subject body members reqBody forwarded, req.apiKey = some apiKey ∧
      req.subject = some subject ∧ readBody svc req.body = .ok body ∧
      unmarshal body = .ok (some members) ∧ stringMember "model" members ≠ "" ∧
      injectInstructions svc (req.c.getHeader "User-Agent") members body = .ok (reqBody, forwarded) ∧
      checkFunctionCallOutput svc reqBody = none ∧
      p = { c := req.c, apiKey := apiKey, subject := subject, subscription := req.subscription,
            reqModel := stringMember "model" members, reqStream := boolMember "stream" members,
            body := forwarded } := by
  unfold preflight at passed
  split at passed
  · cases passed
  · cases passed
  rename_i apiKey subject key user
  cases read : readBody svc req.body with
  | error => rw [read] at passed; cases passed
  | ok body =>
  rw [read] at passed
  dsimp only at passed
  cases decoded : unmarshal body with
  | error => rw [decoded] at passed; cases passed
  | ok parsed =>
  rw [decoded] at passed
  dsimp only at passed
  by_cases noModel : stringMember "model" (parsed.getD []) = ""
  · rw [if_pos noModel] at passed; cases passed
  rw [if_neg noModel] at passed
  cases parsed with
  | none => exact absurd rfl noModel
  | some members =>
  cases injected : injectInstructions svc (req.c.getHeader "User-Agent") members body with
  | error => simp only [Option.getD_some, injected] at passed; cases passed
  | ok result =>
  obtain ⟨reqBody, forwarded⟩ := result
  simp only [Option.getD_some, injected] at passed
  cases checked : checkFunctionCallOutput svc reqBody with
  | some => rw [checked] at passed; cases passed
  | none =>
  rw [checked] at passed
  cases passed
  exact ⟨apiKey, subject, body, members, reqBody, forwarded, key, user, rfl, decoded, noModel,
    injected, checked, rfl⟩

/-- Preflight passes a request that meets each of its checks. -/
theorem preflight_eq {svc : Service} {req : Request} {apiKey : APIKey} {subject : AuthSubject}
    {body forwarded : List UInt8} {members reqBody : List (String × GoValue)}
    (key : req.apiKey = some apiKey) (user : req.subject = some subject)
    (read : readBody svc req.body = .ok body) (decoded : unmarshal body = .ok (some members))
    (model : stringMember "model" members ≠ "")
    (injected : injectInstructions svc (req.c.getHeader "User-Agent") members body =
      .ok (reqBody, forwarded))
    (checked : checkFunctionCallOutput svc reqBody = none) :
    preflight svc req = .ok
      { c := req.c, apiKey := apiKey, subject := subject, subscription := req.subscription,
        reqModel := stringMember "model" members, reqStream := boolMember "stream" members,
        body := forwarded } := by
  unfold preflight
  rw [key, user]
  simp only [read, decoded, Option.getD_some, if_neg model, injected, checked]

/-- A service that gives every client the default instructions ` Be brief. `, trimmed when injected. -/
def injectingService : Service :=
  { sampleService with isCodexCLIRequest := fun _ => false, getOpenCodeInstructions := " Be brief. " }

/-- What preflight hands on for the sample request under `injectingService`. -/
def injectedPrepared : Prepared :=
  { samplePrepared with
    body := Json.encodeString "\x7b\"instructions\":\"Be brief.\",\"model\":\"m\",\"stream\":true\x7d" }

/-- The body preflight hands on to `Forward`: the bytes read when the client is the Codex CLI,
its `instructions` member is a non-blank string or the trimmed default is blank; otherwise bytes
that `json.Unmarshal` reads as the map it decoded from the body read, with `instructions` set to
the trimmed default and every other member as it was decoded. -/
theorem preflight_forwarded_body (svc : Service) (req : Request) {p : Prepared}
    (passed : preflight svc req = .ok p) :
    ∃ body members, req.body = .ok body ∧ unmarshal body = .ok (some members) ∧
      (svc.isCodexCLIRequest (req.c.getHeader "User-Agent") = true ∨
          trimSpace (stringMember "instructions" members) ≠ "" ∨
          trimSpace svc.getOpenCodeInstructions = "" → p.body = body) ∧
      (svc.isCodexCLIRequest (req.c.getHeader "User-Agent") = false →
          trimSpace (stringMember "instructions" members) = "" →
          trimSpace svc.getOpenCodeInstructions ≠ "" →
        unmarshal p.body =
          .ok (some (insertMember "instructions" (.string (trimSpace svc.getOpenCodeInstructions)) members))) := by
  obtain ⟨apiKey, subject, body, members, reqBody, forwarded, -, -, read, decoded, -, injected, -,
    rfl⟩ := preflight_ok passed
  obtain ⟨inject, keep⟩ := injectInstructions_spec injected
  refine ⟨body, members, readBody_ok read, decoded, fun kept => (keep kept).2, fun cli blank default => ?_⟩
  obtain ⟨map, encoded⟩ := inject cli blank default
  rw [map] at encoded
  exact unmarshal_marshal (wellFormed_insertString _ _ (unmarshal_wellFormed decoded)) encoded

theorem injected_forwarded_body :
    preflight injectingService sampleRequest = .ok injectedPrepared ∧
      ∃ body members, sampleRequest.body = .ok body ∧ unmarshal body = .ok (some members) ∧
        (injectingService.isCodexCLIRequest (sampleRequest.c.getHeader "User-Agent") = true ∨
            trimSpace (stringMember "instructions" members) ≠ "" ∨
            trimSpace injectingService.getOpenCodeInstructions = "" → injectedPrepared.body = body) ∧
        (injectingService.isCodexCLIRequest (sampleRequest.c.getHeader "User-Agent") = false →
            trimSpace (stringMember "instructions" members) = "" →
            trimSpace injectingService.getOpenCodeInstructions ≠ "" →
          unmarshal injectedPrepared.body = .ok (some (insertMember "instructions"
            (.string (trimSpace injectingService.getOpenCodeInstructions)) members))) :=
  ⟨rfl, preflight_forwarded_body injectingService sampleRequest rfl⟩

/-- The only internal error preflight sends is the missing auth subject: re-marshalling the map
with `instructions` set never fails, so `500 "Failed to process request"` is never sent. -/
theorem preflight_internal_error (svc : Service) (req : Request) {r : Rejection}
    (rejected : preflight svc req = .error r) (internal : r.1 = 500) :
    r = (500, "api_error", "User context not found") := by
  unfold preflight at rejected
  split at rejected
  · cases rejected; cases internal
  · cases rejected; rfl
  cases read : readBody svc req.body with
  | error rejection =>
    rw [read] at rejected
    cases rejected
    rcases readBody_status read with status | status <;> omega
  | ok body =>
  rw [read] at rejected
  dsimp only at rejected
  cases decoded : unmarshal body with
  | error => rw [decoded] at rejected; cases rejected; cases internal
  | ok parsed =>
  rw [decoded] at rejected
  dsimp only at rejected
  by_cases noModel : stringMember "model" (parsed.getD []) = ""
  · rw [if_pos noModel] at rejected; cases rejected; cases internal
  rw [if_neg noModel] at rejected
  cases parsed with
  | none => exact absurd rfl noModel
  | some members =>
  obtain ⟨⟨reqBody, forwarded⟩, injected⟩ :=
    injectInstructions_ok svc (req.c.getHeader "User-Agent") decoded
  simp only [Option.getD_some, injected] at rejected
  cases checked : checkFunctionCallOutput svc reqBody with
  | some rejection =>
    rw [checked] at rejected
    cases rejected
    rw [checkFunctionCallOutput_status checked] at internal
    cases internal
  | none => rw [checked] at rejected; cases rejected

theorem missingSubject_internal_error :
    preflight sampleService { sampleRequest with subject := none } =
        .error (500, "api_error", "User context not found") ∧
      ((500, "api_error", "User context not found") : Rejection).1 = 500 ∧
      ((500, "api_error", "User context not found") : Rejection) =
        (500, "api_error", "User context not found") :=
  ⟨rfl, rfl, preflight_internal_error sampleService { sampleRequest with subject := none } rfl rfl⟩

/-- The same request carrying the forwarded body, read in full, passes preflight again with the
same model, stream flag and body. An injected `instructions` is the trimmed default, which trims
to itself, so nothing is injected a second time. -/
private theorem preflight_reread (svc : Service) (req : Request) {p : Prepared}
    (passed : preflight svc req = .ok p) : preflight svc { req with body := .ok p.body } = .ok p := by
  obtain ⟨apiKey, subject, body, members, reqBody, forwarded, key, user, read, decoded, model,
    injected, checked, rfl⟩ := preflight_ok passed
  obtain ⟨inject, keep⟩ := injectInstructions_spec injected
  by_cases kept : svc.isCodexCLIRequest (req.c.getHeader "User-Agent") = true ∨
      trimSpace (stringMember "instructions" members) ≠ "" ∨ trimSpace svc.getOpenCodeInstructions = ""
  · -- the body read is forwarded, so the request is the one that passed
    obtain ⟨-, rfl⟩ := keep kept
    have same : { req with body := .ok forwarded } = req := by rw [← readBody_ok read]
    rwa [same]
  · simp only [not_or, Bool.not_eq_true, not_not] at kept
    obtain ⟨cli, blank, default⟩ := kept
    obtain ⟨rfl, encoded⟩ := inject cli blank default
    have decoded' := unmarshal_marshal (wellFormed_insertString "instructions" _
      (unmarshal_wellFormed decoded)) encoded
    have nonempty : forwarded ≠ [] := by rintro rfl; cases decoded'
    have other : ∀ key, key ≠ "instructions" →
        lookupMember key (insertMember "instructions"
          (.string (trimSpace svc.getOpenCodeInstructions)) members) = lookupMember key members :=
      fun key different => by rw [lookupMember_insertMember, if_neg different]
    have sameModel := other "model" (by decide)
    have sameStream := other "stream" (by decide)
    have again : injectInstructions svc (req.c.getHeader "User-Agent")
        (insertMember "instructions" (.string (trimSpace svc.getOpenCodeInstructions)) members)
          forwarded =
        .ok (insertMember "instructions" (.string (trimSpace svc.getOpenCodeInstructions)) members,
          forwarded) := by
      unfold injectInstructions
      rw [if_neg]
      simp [stringMember, lookupMember_insertMember, trimSpace_trimSpace, default]
    rw [@preflight_eq _ { req with body := .ok forwarded } _ _ _ _ _ _ key user
      (readBody_of_ne_nil svc nonempty) decoded' (by simpa [stringMember, sameModel] using model)
      again checked]
    simp only [stringMember, boolMember, sameModel, sameStream]

/-- Preflight is a fixed point on what it forwards, up to reading the body. The same request
carrying the forwarded body passes preflight again with the same result when the body is read in
full; the read is the only thing that can fail, and then preflight answers with that read's own
rejection (413 past the size limit). The forwarded body can be longer than the body read, since
marshalling writes `<` as `\u003c`, so a bounded read of it can fail where the first one did
not. -/
theorem preflight_forwarded_fixpoint (svc : Service) (req : Request) {p : Prepared}
    (passed : preflight svc req = .ok p) (read : Except ReadError (List UInt8))
    (reads : ∀ bytes, read = .ok bytes → bytes = p.body) :
    preflight svc { req with body := read } = (readBody svc read).map fun _ => p := by
  obtain ⟨apiKey, subject, -, -, -, -, key, user, -⟩ := preflight_ok passed
  cases read with
  | error failure => cases failure <;> simp [preflight, readBody, key, user, Except.map]
  | ok bytes =>
    obtain rfl := reads bytes rfl
    have again := preflight_reread svc req passed
    have nonempty : p.body ≠ [] := fun empty => by
      rw [empty] at again
      simp [preflight, readBody, key, user] at again
    rw [readBody_of_ne_nil svc nonempty]
    exact again

/-- The injected sample body, read back in full, passes preflight to the same result. -/
theorem injected_fixpoint :
    preflight injectingService sampleRequest = .ok injectedPrepared ∧
      (∀ bytes, (.ok injectedPrepared.body : Except ReadError (List UInt8)) = .ok bytes →
        bytes = injectedPrepared.body) ∧
      preflight injectingService { sampleRequest with body := .ok injectedPrepared.body } =
        .ok injectedPrepared :=
  have reads : ∀ bytes, (.ok injectedPrepared.body : Except ReadError (List UInt8)) = .ok bytes →
      bytes = injectedPrepared.body := fun _ read => by cases read; rfl
  ⟨rfl, reads, preflight_forwarded_fixpoint injectingService sampleRequest rfl _ reads⟩

end Sub2api.Proof
