import Sub2api.Handler.Preflight
import Mathlib.Order.MinMax

/-! `OpenAIGatewayHandler.Responses` whole: preflight, then the wait queue, the slots and the
failover loop. A run is the frame it returns with, its deferred calls made. -/

namespace Sub2api.Handler

/-- `Responses` for one request, with the collaborators' answers `env`. -/
def responses (h : OpenAIGatewayHandler) (svc : Service) (req : Request) (env : Collaborators) :
    Frame :=
  match preflight svc req with
  | .error (status, errType, message) => ({} : Frame).emit (.errorResponse status errType message)
  | .ok p => (dispatch h env p).exit

/-! ### A sample request -/

/-- A streaming request for model `m` from the Codex CLI, by user 1 with a bearer key. -/
def sampleRequest : Request where
  c :=
    { getHeader := fun name =>
        if name = "Authorization" then Json.encodeString "Bearer sk-0123456789" else []
      clientIP := "203.0.113.7" }
  apiKey := some { user := some ⟨1⟩, groupID := none }
  subject := some { userID := 1, concurrency := 1 }
  subscription := none
  body := .ok (Json.encodeString "\x7b\"model\":\"m\",\"stream\":true\x7d")

/-- Services under which the sample request is forwarded as it is: a Codex CLI client and no
`function_call_output`. -/
def sampleService : Service where
  isCodexCLIRequest _ := true
  getOpenCodeInstructions := ""
  hasFunctionCallOutput _ := false
  hasToolCallContext _ := false
  hasFunctionCallOutputMissingCallID _ := false
  functionCallOutputCallIDs _ := []
  hasItemReferenceForCallIDs _ _ := true
  buildBodyTooLargeMessage _ := "Request body too large"

/-- What preflight hands on for the sample request. -/
def samplePrepared : Prepared where
  c := sampleRequest.c
  apiKey := { user := some ⟨1⟩, groupID := none }
  subject := { userID := 1, concurrency := 1 }
  subscription := none
  reqModel := "m"
  reqStream := true
  body := Json.encodeString "\x7b\"model\":\"m\",\"stream\":true\x7d"

/-- An account ID above every ID of a failed set. -/
def freshAccountID (ids : List Int) : Int := ids.foldr max 0 + 1

private theorem le_foldr_max {x : Int} : ∀ {ids : List Int}, x ∈ ids → x ≤ ids.foldr max 0
  | _ :: _, .head _ => le_max_left _ _
  | _ :: _, .tail _ member => le_trans (le_foldr_max member) (le_max_right _ _)

theorem freshAccountID_not_mem (ids : List Int) : freshAccountID ids ∉ ids := fun member => by
  have := le_foldr_max member
  unfold freshAccountID at this
  omega

/-- Collaborators under which every account fails over: the wait queue has room, the slots are
granted, the selector takes a slot on an account outside the failed set, and every `Forward`
reports an upstream 502. -/
def failingOverCollaborators : Collaborators where
  calculateMaxWait concurrency := concurrency
  incrementWaitCount := .ok true
  acquireUserSlotWithWait := ⟨false, .ok ⟨⟩⟩
  checkBillingEligibility := none
  billingErrorDetails _ := (403, "billing_error", "Insufficient balance")
  generateSessionHash := ""
  selectAccountWithLoadAwareness _ ids :=
    .ok { account := ⟨freshAccountID ids⟩, acquired := true, releaseFunc := some ⟨⟩, waitPlan := none
          releaseFunc_of_acquired := fun _ => rfl }
  incrementAccountWaitCount _ := .ok true
  acquireAccountSlotWithWaitTimeout _ := ⟨false, .ok ⟨⟩⟩
  forward _ := .error (.upstreamFailover 502)

end Sub2api.Handler
