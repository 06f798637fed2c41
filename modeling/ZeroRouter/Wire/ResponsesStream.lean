import ZeroRouter.Wire.ChatStream
import ZeroRouter.Lib.Serde

/-!
# The Responses answer, streamed

`src/router/src/wire/responses.rs`: `OpenAiResponsesWire::stream_chat` as a machine that reads one
payload at a time, and `parse_envelope`, which reads a whole answer.
-/

namespace ZeroRouter.Wire

structure ResponsesInputDetails where
  cachedTokens : Option Nat
  deriving DecidableEq, Repr

structure ResponsesUsage where
  inputTokens : Option Nat
  outputTokens : Option Nat
  inputTokensDetails : Option ResponsesInputDetails
  deriving DecidableEq, Repr

/-- `ResponsesInputDetails` as it is deserialized. -/
def ResponsesInputDetails.ofValue (value : Value) : Option ResponsesInputDetails := do
  let _ ← value.asObject
  return { cachedTokens := ← Serde.optional value "cached_tokens" (Serde.readNat 64) }

/-- `serde_json::from_value::<ResponsesUsage>`. -/
def ResponsesUsage.ofValue (value : Value) : Option ResponsesUsage := do
  let _ ← value.asObject
  return {
    inputTokens := ← Serde.optional value "input_tokens" (Serde.readNat 64)
    outputTokens := ← Serde.optional value "output_tokens" (Serde.readNat 64)
    inputTokensDetails :=
      ← Serde.optional value "input_tokens_details" ResponsesInputDetails.ofValue }

/-- `into_token_usage`. -/
def ResponsesUsage.intoTokenUsage (usage : ResponsesUsage) : Option TokenUsage :=
  believable
    { inputTokens := usage.inputTokens
      outputTokens := usage.outputTokens
      cachedInputTokens := usage.inputTokensDetails.bind (·.cachedTokens)
      cacheWriteInputTokens := none }

/-- `responses_stop_reason`. -/
def responsesStopReason (status : Option String) (incompleteDetails : Option Value)
    (hasToolCalls : Bool) : Option StopReason :=
  match status with
  | some "completed" => some (if hasToolCalls then .toolCalls else .stop)
  | some "incomplete" =>
      match incompleteDetails.bind (·.str "reason") with
      | some "max_output_tokens" => some .length
      | some "content_filter" => some .contentFilter
      | _ => none
  | _ => none

/-- A call as an item shows it. -/
def itemToolCall (item : Value) : ToolCall where
  id := (item.str "call_id").getD ""
  name := (item.str "name").getD ""
  arguments := (item.str "arguments").getD "{}"

/-! ## The buffered answer -/

structure ResponsesEnvelope where
  status : Option String
  output : List Value
  usage : Option ResponsesUsage
  incompleteDetails : Option Value

/-- `ResponsesEnvelope` as it is deserialized. -/
def ResponsesEnvelope.ofValue (value : Value) : Option ResponsesEnvelope := do
  let _ ← value.asObject
  return {
    status := ← Serde.optional value "status" Value.asStr
    output := ← Serde.defaulted value "output" [] Value.asArray
    usage := ← Serde.optional value "usage" ResponsesUsage.ofValue
    incompleteDetails := ← Serde.optional value "incomplete_details" some }

/-- The texts of a message's parts. -/
def itemTexts (item : Value) : List String :=
  (((item.get "content").bind Value.asArray).getD []).filterMap fun part =>
    if part.str "type" = some "output_text" then part.str "text" else none

/-- `parse_envelope`. -/
def parseResponsesEnvelope (envelope : ResponsesEnvelope) : ChatReply :=
  let texts := (envelope.output.filter (·.str "type" = some "message")).flatMap itemTexts
  let toolCalls :=
    (envelope.output.filter (·.str "type" = some "function_call")).map itemToolCall
  { text := if texts.isEmpty then none else some (String.join texts)
    toolCalls
    usage := envelope.usage.bind (·.intoTokenUsage)
    reasoningContent := none
    stopReason := responsesStopReason envelope.status envelope.incompleteDetails
      (!toolCalls.isEmpty) }

/-! ## The machine -/

/-- What the loop of `stream_chat` carries. -/
structure ResponsesState where
  finished : Bool
  sawToolCall : Bool
  deriving DecidableEq, Repr

def ResponsesState.initial : ResponsesState := { finished := false, sawToolCall := false }

section Machine

variable (json : SerdeJson) (alias_ : String) (countTokens : Bool)

/-- What the terminal carries. -/
def responsesTerminal (state : ResponsesState) (value : Value) : List StreamEvent :=
  let response := value.get "response"
  let usage := ((response.bind (·.get "usage")).bind ResponsesUsage.ofValue).bind
    (·.intoTokenUsage)
  (usage.map .usage).toList ++
    [.final
      { stopReason := responsesStopReason (response.bind (·.str "status"))
          (response.bind (·.get "incomplete_details")) state.sawToolCall
        usageGap := none }]

/-- What an in-band failure comes to; its status is read back off its text. -/
def responsesFailure (data : String) (value : Value) : StreamError :=
  let error := ((value.get "response").bind (·.get "error")).or (value.get "error")
  let detail := error.elim data json.toString
  let code := (error.bind (·.str "code")).getD ""
  let status :=
    if contains code "rate_limit" || contains detail "rate limit" then
      "429 Too Many Requests: "
    else if contains code "insufficient_quota" then
      "429 Too Many Requests: insufficient_quota — "
    else ""
  .modelProvider (alias_ ++ " responses stream failed: " ++ status ++ detail)

/-- One payload of `stream_chat`. -/
def responsesPayload (state : ResponsesState) (data : String) :
    ResponsesState × Except StreamError (List StreamEvent) :=
  match json.fromStr data with
  | none => (state, .error .json)
  | some value =>
      match value.str "type" with
      | some "response.output_text.delta" =>
          match value.str "delta" with
          | none => (state, .ok [])
          | some delta =>
              let tokenCount := if countTokens then delta.utf8ByteSize / 4 else 0
              (state, .ok [.textDelta { StreamChunk.ofDelta delta with tokenCount }])
      | some "response.output_item.done" =>
          match value.get "item" with
          | none => (state, .ok [])
          | some item =>
              if item.str "type" = some "function_call" then
                ({ state with sawToolCall := true }, .ok [.toolCall (itemToolCall item)])
              else (state, .ok [])
      | some "response.completed" | some "response.incomplete" =>
          if state.finished then (state, .ok [])
          else ({ state with finished := true }, .ok (responsesTerminal state value))
      | some "response.failed" | some "error" =>
          (state, .error (responsesFailure json alias_ data value))
      | _ => (state, .ok [])

/-- The machine of `stream_chat`. -/
def responsesMachine : StreamMachine ResponsesState where
  handlePayload := responsesPayload json alias_ countTokens
  partialUsage _ := none
  finished := (·.finished)
  close state :=
    if state.finished then ([], none)
    else ([], some (.invalidSse (alias_ ++ " responses stream ended without completion")))

end Machine

end ZeroRouter.Wire
