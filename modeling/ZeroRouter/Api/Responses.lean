import ZeroRouter.Wire.Stream
import ZeroRouter.Json

/-!
# The Responses dialect, written

`src/router/src/responses.rs`: the envelope of a response and the frames of its stream, the items of
the envelope gathered delta by delta.

The clock is read for each envelope.  A number of the request that is restated, and the `zerorouter`
block, are the JSON they serialize to.
-/

namespace ZeroRouter.Responses

/-- The parts of the request an envelope restates. -/
structure ResponsesEcho where
  instructions : Option String
  temperature : Option Value
  tools : List Value

/-- `OutputItem`. -/
inductive OutputItem where
  | message (text : String)
  | reasoning (summary : String)
  | functionCall (call : ToolCall)
  deriving DecidableEq, Repr

/-- `response_id`. -/
def responseId (requestId : String) : String := "resp_" ++ requestId

/-- `item_id`. -/
def itemId (kind requestId : String) (index : Nat) : String :=
  kind ++ "_" ++ requestId ++ "_" ++ toString index

namespace OutputItem

/-- `OutputItem::prefix`. -/
def kind : OutputItem → String
  | .message _ => "msg"
  | .reasoning _ => "rs"
  | .functionCall _ => "fc"

/-- `to_wire`. -/
def toWire (item : OutputItem) (requestId : String) (index : Nat) : Value :=
  let id := itemId item.kind requestId index
  match item with
  | .message text =>
      .object [("content", .array [.object [("annotations", .array []), ("text", .string text),
          ("type", .string "output_text")]]),
        ("id", .string id), ("role", .string "assistant"), ("status", .string "completed"),
        ("type", .string "message")]
  | .reasoning summary =>
      .object [("id", .string id),
        ("summary", .array [.object [("text", .string summary), ("type", .string "summary_text")]]),
        ("type", .string "reasoning")]
  | .functionCall call =>
      .object [("arguments", .string call.arguments), ("call_id", .string call.id),
        ("id", .string id), ("name", .string call.name), ("status", .string "completed"),
        ("type", .string "function_call")]

end OutputItem

/-- `items_from_completion`. -/
def itemsFromCompletion (text reasoning : Option String) (toolCalls : List ToolCall) :
    List OutputItem :=
  ((reasoning.filter (· ≠ "")).map .reasoning).toList ++
    ((text.filter (· ≠ "")).map .message).toList ++ toolCalls.map .functionCall

/-- `usage_to_wire`: the cache writes only where there are any. -/
def usageToWire (usage : OpenAiUsage) : Value :=
  .object ([("input_tokens", .integer usage.promptTokens),
      ("input_tokens_details",
        .object [("cached_tokens", .integer usage.cachedInputTokens)]),
      ("output_tokens", .integer usage.completionTokens),
      ("total_tokens", .integer usage.totalTokens)] ++
    if 0 < usage.cacheWriteTokens then
      [("zerorouter", .object [("cache_write_tokens", .integer usage.cacheWriteTokens)])]
    else [])

/-- The status of a response, and why it is incomplete. -/
def statusOf (finishReason : Option String) : String × Value :=
  match finishReason with
  | none => ("in_progress", .null)
  | some reason =>
      if reason = "length" then
        ("incomplete", .object [("reason", .string "max_output_tokens")])
      else ("completed", .null)

/-- `Envelope`. -/
structure Envelope where
  requestId : String
  model : String
  items : List OutputItem
  usage : Option OpenAiUsage
  finishReason : Option String
  echo : ResponsesEcho
  zerorouter : Option Value

/-- The items, each under its place. -/
def outputOf (requestId : String) (items : List OutputItem) : List Value :=
  items.mapIdx fun index item => item.toWire requestId index

/-- `envelope`. -/
def envelope (now : Int) (parts : Envelope) : Value :=
  let status := statusOf parts.finishReason
  .object ([("created_at", .integer now), ("error", .null),
      ("id", .string (responseId parts.requestId)), ("incomplete_details", status.2),
      ("instructions", Value.ofOption parts.echo.instructions),
      ("metadata", .object []), ("model", .string parts.model), ("object", .string "response"),
      ("output", .array (outputOf parts.requestId parts.items)),
      ("parallel_tool_calls", .bool true), ("status", .string status.1),
      ("temperature", parts.echo.temperature.getD .null), ("tool_choice", .string "auto"),
      ("tools", .array parts.echo.tools), ("top_p", .null)] ++
    (parts.usage.map fun usage => ("usage", usageToWire usage)).toList ++
    (parts.zerorouter.map fun block => ("zerorouter", block)).toList)

/-! ## The stream -/

/-- A field of an object set, its keys kept sorted. -/
def setField (key : String) (value : Value) : List (String × Value) → List (String × Value)
  | [] => [(key, value)]
  | field :: rest =>
      if key = field.1 then (key, value) :: rest
      else if key < field.1 then (key, value) :: field :: rest
      else field :: setField key value rest

/-- `SseFrame`, its data as the value it is printed from. -/
structure SseFrame where
  event : String
  data : Value

/-- `ResponsesStream`. -/
structure ResponsesStream where
  echo : ResponsesEcho
  items : List OutputItem
  sequence : Nat

namespace ResponsesStream

/-- `ResponsesStream::new`. -/
def new (echo : ResponsesEcho) : ResponsesStream := { echo, items := [], sequence := 0 }

/-- `frame`, of the fields of its data.  The counter of `next_sequence` saturates. -/
def frame (stream : ResponsesStream) (event : String) (fields : List (String × Value)) :
    SseFrame × ResponsesStream :=
  ({ event
     data := .object
      (setField "sequence_number" (.integer stream.sequence)
        (setField "type" (.string event) fields)) },
    { stream with sequence := min (stream.sequence + 1) u64Max })

/-- `ResponsesStream::envelope`. -/
def envelope (stream : ResponsesStream) (now : Int) (requestId model : String)
    (usage : Option OpenAiUsage) (finishReason : Option String) (zerorouter : Option Value) :
    Value :=
  Responses.envelope now
    { requestId, model, items := stream.items, usage, finishReason, echo := stream.echo
      zerorouter }

/-- `created`. -/
def created (stream : ResponsesStream) (now : Int) (requestId model : String) :
    SseFrame × ResponsesStream :=
  stream.frame "response.created"
    [("response", stream.envelope now requestId model none none none)]

/-- The items of `open_item`: the last one is of the kind, or a fresh one is. -/
def openItem (items : List OutputItem) (reasoning : Bool) : List OutputItem :=
  let matchesLast :=
    match items.getLast? with
    | some (.message _) => !reasoning
    | some (.reasoning _) => reasoning
    | _ => false
  if matchesLast then items
  else items ++ [if reasoning then .reasoning "" else .message ""]

/-- `push_str` to a message. -/
def pushText (delta : String) : OutputItem → OutputItem
  | .message text => .message (text ++ delta)
  | item => item

/-- `push_str` to a reasoning item. -/
def pushSummary (delta : String) : OutputItem → OutputItem
  | .reasoning summary => .reasoning (summary ++ delta)
  | item => item

/-- `text_delta`. -/
def textDelta (stream : ResponsesStream) (requestId delta : String) :
    List SseFrame × ResponsesStream :=
  let opened := openItem stream.items false
  let index := opened.length - 1
  let stream := { stream with items := opened.modify index (pushText delta) }
  let sent := stream.frame "response.output_text.delta"
    [("content_index", .integer 0), ("delta", .string delta),
      ("item_id", .string (itemId "msg" requestId index)), ("output_index", .integer index)]
  ([sent.1], sent.2)

/-- `reasoning_delta`. -/
def reasoningDelta (stream : ResponsesStream) (requestId delta : String) :
    List SseFrame × ResponsesStream :=
  let opened := openItem stream.items true
  let index := opened.length - 1
  let stream := { stream with items := opened.modify index (pushSummary delta) }
  let sent := stream.frame "response.reasoning_summary_text.delta"
    [("delta", .string delta), ("item_id", .string (itemId "rs" requestId index)),
      ("output_index", .integer index), ("summary_index", .integer 0)]
  ([sent.1], sent.2)

/-- A call as the first of its frames shows it, its arguments still to come. -/
def opening (call : ToolCall) (id : String) : Value :=
  .object [("arguments", .string ""), ("call_id", .string call.id), ("id", .string id),
    ("name", .string call.name), ("status", .string "in_progress"),
    ("type", .string "function_call")]

/-- `tool_call`. -/
def toolCall (stream : ResponsesStream) (requestId : String) (call : ToolCall) :
    List SseFrame × ResponsesStream :=
  let index := stream.items.length
  let id := itemId "fc" requestId index
  let stream := { stream with items := stream.items ++ [OutputItem.functionCall call] }
  let added := stream.frame "response.output_item.added"
    [("item", opening call id), ("output_index", .integer index)]
  let arguments := added.2.frame "response.function_call_arguments.delta"
    [("delta", .string call.arguments), ("item_id", .string id), ("output_index", .integer index)]
  let whole := arguments.2.frame "response.function_call_arguments.done"
    [("arguments", .string call.arguments), ("item_id", .string id),
      ("output_index", .integer index)]
  let done := whole.2.frame "response.output_item.done"
    [("item", (OutputItem.functionCall call).toWire requestId index),
      ("output_index", .integer index)]
  ([added.1, arguments.1, whole.1, done.1], done.2)

/-- `completed`. -/
def completed (stream : ResponsesStream) (now : Int) (requestId model : String)
    (usage : OpenAiUsage) (finishReason : String) (zerorouter : Option Value) :
    SseFrame × ResponsesStream :=
  let response := stream.envelope now requestId model (some usage) (some finishReason) zerorouter
  let event :=
    if response.str "status" = some "incomplete" then "response.incomplete"
    else "response.completed"
  stream.frame event [("response", response)]

/-- What the walk hands the stream between its opening and its finish. -/
inductive Delta where
  | text (delta : String)
  | reasoning (delta : String)
  | toolCall (call : ToolCall)
  deriving DecidableEq, Repr

/-- The call a delta is. -/
def Delta.call : Delta → Option ToolCall
  | .toolCall call => some call
  | _ => none

/-- The frames of one delta. -/
def send (stream : ResponsesStream) (requestId : String) :
    Delta → List SseFrame × ResponsesStream
  | .text delta => stream.textDelta requestId delta
  | .reasoning delta => stream.reasoningDelta requestId delta
  | .toolCall call => stream.toolCall requestId call

/-- The frames of one delta after another. -/
def sendAll (stream : ResponsesStream) (requestId : String) :
    List Delta → List SseFrame × ResponsesStream
  | [] => ([], stream)
  | delta :: rest =>
      let first := stream.send requestId delta
      let later := first.2.sendAll requestId rest
      (first.1 ++ later.1, later.2)

end ResponsesStream

/-- `finish_reason`. -/
def finishReason (hasToolCalls : Bool) (usage : OpenAiUsage) (maxTokens : Option Nat) : String :=
  if hasToolCalls then "tool_calls"
  else if maxTokens.any (· ≤ usage.completionTokens) then "length"
  else "stop"

/-- A whole stream, and the items it closes on. -/
structure Transcript where
  opened : SseFrame
  sent : List SseFrame
  closed : SseFrame
  items : List OutputItem

/-- The frames in their order. -/
def Transcript.frames (whole : Transcript) : List SseFrame :=
  whole.opened :: (whole.sent ++ [whole.closed])

/-- A stream from its opening over its deltas to a finish with a synthesized reason. -/
def transcript (echo : ResponsesEcho) (opens closes : Int) (requestId model : String)
    (deltas : List ResponsesStream.Delta) (usage : OpenAiUsage) (maxTokens : Option Nat)
    (zerorouter : Option Value) : Transcript :=
  let first := (ResponsesStream.new echo).created opens requestId model
  let body := first.2.sendAll requestId deltas
  let reason := finishReason (deltas.any (·.call.isSome)) usage maxTokens
  let last := body.2.completed closes requestId model usage reason zerorouter
  { opened := first.1, sent := body.1, closed := last.1, items := body.2.items }

end ZeroRouter.Responses
