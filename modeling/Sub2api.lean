import Sub2api.Json.Utf8
import Sub2api.Json.Float64
import Sub2api.Json.Value
import Sub2api.Json.Decode
import Sub2api.Json.Encode
import Sub2api.Json.NumberText
import Sub2api.Json.StringText
import Sub2api.Json.RoundTrip
import Sub2api.Handler.Types
import Sub2api.Handler.Errors
import Sub2api.Handler.Recording
import Sub2api.Handler.Frame
import Sub2api.Handler.Dispatch
import Sub2api.Handler.Preflight
import Sub2api.Handler.Responses
import Sub2api.Proof.Monitor
import Sub2api.Proof.Calls
import Sub2api.Proof.Runs
import Sub2api.Proof.Refinement
import Sub2api.Proof.Slots
import Sub2api.Proof.Waits
import Sub2api.Proof.Failover
import Sub2api.Proof.Records
import Sub2api.Proof.Stream
import Sub2api.Proof.Headers
import Sub2api.Proof.Instructions
import Sub2api.Proof.ErrorBodies
import Sub2api.Proof.Delivery
