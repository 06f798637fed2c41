import ZeroRouter.Wire.Upstream
import ZeroRouter.Api.Retry

/-!
# The chat-completions answer, buffered and streamed

`src/router/src/wire/chat_completions.rs`: `parse_chat_completions_envelope`, which reads a whole
answer, and `ChatCompletionsStreamMachine`, which reads the same answer a payload at a time.
-/

namespace ZeroRouter.Wire

/-! ## The buffered answer -/

structure ChatCompletionsPromptDetails where
  cachedTokens : Option Nat
  deriving DecidableEq, Repr

/-- Already the convention the router meters in. -/
structure ChatCompletionsUsage where
  promptTokens : Option Nat
  completionTokens : Option Nat
  promptTokensDetails : Option ChatCompletionsPromptDetails
  deriving DecidableEq, Repr

/-- `into_token_usage`. -/
def ChatCompletionsUsage.intoTokenUsage (usage : ChatCompletionsUsage) : Option TokenUsage :=
  believable
    { inputTokens := usage.promptTokens
      outputTokens := usage.completionTokens
      cachedInputTokens := usage.promptTokensDetails.bind (·.cachedTokens)
      cacheWriteInputTokens := none }

structure ChatCompletionsEnvelope where
  choices : List Value
  usage : Option ChatCompletionsUsage

/-- A `ChatResponse` with its stop reason. -/
structure ChatReply extends ChatResponse where
  stopReason : Option StopReason
  deriving DecidableEq, Repr

section Arguments

variable (json : SerdeJson)

/-- `tool_arguments_text`: a structured value is written back, `null` is absent. -/
def toolArgumentsText (function : Option Value) : Option String :=
  match function.bind (·.get "arguments") with
  | none => none
  | some (.string text) => some text
  | some .null => none
  | some structured => some (json.toString structured)

/-- `parse_chat_tool_call`. -/
def parseChatToolCall (call : Value) : ToolCall where
  id := (call.str "id").getD ""
  name := ((call.get "function").bind (·.str "name")).getD ""
  arguments := (toolArgumentsText json (call.get "function")).getD "{}"

/-- `parse_chat_completions_envelope`: the first choice only. -/
def parseChatCompletionsEnvelope (envelope : ChatCompletionsEnvelope) : ChatReply :=
  let choice := envelope.choices.head?
  let message := choice.bind (·.get "message")
  { text := (message.bind (·.str "content")).filter (· ≠ "")
    toolCalls :=
      (((message.bind (·.get "tool_calls")).bind Value.asArray).map fun calls =>
        calls.map (parseChatToolCall json)).getD []
    usage := envelope.usage.bind (·.intoTokenUsage)
    reasoningContent := (message.bind (·.str "reasoning_content")).filter (· ≠ "")
    stopReason := (choice.bind (·.str "finish_reason")).bind StopReason.fromOpenai }

end Arguments

/-! ## Usage reports -/

/-- One report as a chunk stated it. -/
structure ChatUsageReport where
  promptTokens : Option Nat
  completionTokens : Option Nat
  cachedTokens : Option Nat
  deriving DecidableEq, Repr

namespace ChatUsageReport

def empty : ChatUsageReport := ⟨none, none, none⟩

/-- `from_value`. -/
def ofValue (usage : Value) : ChatUsageReport where
  promptTokens := (usage.get "prompt_tokens").bind asU64
  completionTokens := (usage.get "completion_tokens").bind asU64
  cachedTokens :=
    ((usage.get "prompt_tokens_details").bind (·.get "cached_tokens")).bind asU64

def isEmpty (report : ChatUsageReport) : Bool :=
  report.promptTokens.isNone && report.completionTokens.isNone && report.cachedTokens.isNone

def fields (report : ChatUsageReport) : List (Option Nat) :=
  [report.promptTokens, report.completionTokens, report.cachedTokens]

/-- It states less on a dimension both state. -/
def shrinksAgainst (incoming accepted : ChatUsageReport) : Bool :=
  (incoming.fields.zip accepted.fields).any fun
    | (some incoming, some accepted) => incoming < accepted
    | _ => false

/-- `incoming`, and the dimensions it declines to state. -/
def replacedBy (accepted incoming : ChatUsageReport) : ChatUsageReport where
  promptTokens := incoming.promptTokens.or accepted.promptTokens
  completionTokens := incoming.completionTokens.or accepted.completionTokens
  cachedTokens := incoming.cachedTokens.or accepted.cachedTokens

/-- `into_token_usage`. -/
def intoTokenUsage (report : ChatUsageReport) : Option TokenUsage :=
  believable
    { inputTokens := report.promptTokens
      outputTokens := report.completionTokens
      cachedInputTokens := report.cachedTokens
      cacheWriteInputTokens := none }

end ChatUsageReport

/-! ## The machine -/

/-- A fragment of a tool call, its absent parts empty. -/
structure ToolFragment where
  index : Option Nat
  id : String
  name : String
  arguments : String
  deriving DecidableEq, Repr

def ToolFragment.ofValue (json : SerdeJson) (fragment : Value) : ToolFragment where
  index := (fragment.get "index").bind asU64
  id := (fragment.str "id").getD ""
  name := ((fragment.get "function").bind (·.str "name")).getD ""
  arguments := (toolArgumentsText json (fragment.get "function")).getD ""

/-- What a fragment adds: a part it leaves empty overwrites nothing. -/
def PendingTool.extend (pending : PendingTool) (fragment : ToolFragment) : PendingTool where
  id := if fragment.id = "" then pending.id else fragment.id
  name := if fragment.name = "" then pending.name else fragment.name
  arguments := pending.arguments ++ fragment.arguments

structure ChatCompletionsStreamMachine where
  usage : ChatUsageReport
  usageReported : Bool
  openTools : Ordered.SortedMap Nat PendingTool
  toolArgumentBytes : Nat
  countTokens : Bool
  finishReason : Option String
  sawDone : Bool
  finished : Bool

namespace ChatCompletionsStreamMachine

def new (countTokens : Bool) : ChatCompletionsStreamMachine where
  usage := .empty
  usageReported := false
  openTools := .empty
  toolArgumentBytes := 0
  countTokens := countTokens
  finishReason := none
  sawDone := false
  finished := false

/-- `partial_usage`, which also takes the report: see `terminate`. -/
def partialUsage (machine : ChatCompletionsStreamMachine) : Option TokenUsage :=
  machine.usage.intoTokenUsage.filter fun usage =>
    usage.inputTokens.isSome || usage.outputTokens.isSome

/-- `usage_gap`. -/
def usageGap (machine : ChatCompletionsStreamMachine) : Option UsageGap :=
  if machine.usageReported then none
  else if machine.sawDone then some .includeUsageIgnored
  else some .doneMissing

/-- `absorb_usage`: a report that shrinks is a contradiction, any other replaces. -/
def absorbUsage (machine : ChatCompletionsStreamMachine) (value : Option Value) :
    ChatCompletionsStreamMachine :=
  match value.map ChatUsageReport.ofValue with
  | none => machine
  | some incoming =>
      if incoming.isEmpty then machine
      else if incoming.shrinksAgainst machine.usage then machine
      else { machine with usage := machine.usage.replacedBy incoming, usageReported := true }

/-- The terminal: calls in index order, the usage, the final. -/
def terminate (machine : ChatCompletionsStreamMachine) :
    ChatCompletionsStreamMachine × List StreamEvent :=
  if machine.finished then (machine, [])
  else
    ({ machine with openTools := .empty, usage := .empty, finished := true },
      machine.openTools.values.map (fun pending => .toolCall pending.toolCall) ++
        (machine.partialUsage.map .usage).toList ++
          [.final
            { stopReason := machine.finishReason.bind StopReason.fromOpenai
              usageGap := machine.usageGap }])

section Handle

variable (json : SerdeJson) (provider : String)

/-- The slot of a fragment.  One without an index takes its position, or, where another call holds
    that, the slot above all in use. -/
def toolSlot (openTools : Ordered.SortedMap Nat PendingTool) (fragment : ToolFragment)
    (position : Nat) : Nat :=
  match fragment.index with
  | some index => index
  | none =>
      let collides :=
        fragment.id ≠ "" ∧ (openTools.get? position).any fun pending =>
          decide (pending.id ≠ "") && decide (pending.id ≠ fragment.id)
      if collides then
        openTools.keys.getLast?.elim 0 fun highest => u64SaturatingAdd highest 1
      else position

/-- One fragment of `absorb_tool_fragments`. -/
def absorbToolFragment (machine : ChatCompletionsStreamMachine) (fragment : ToolFragment)
    (position : Nat) : ChatCompletionsStreamMachine × Except StreamError Unit :=
  let index := toolSlot machine.openTools fragment position
  if machine.openTools.get? index = none ∧ maxOpenToolBlocks ≤ machine.openTools.entries.length then
    (machine,
      .error (.invalidSse
        s!"{provider} opened more than {maxOpenToolBlocks} concurrent tool blocks"))
  else
    let pending := (machine.openTools.get? index).getD { id := "", name := "", arguments := "" }
    let bytes :=
      if fragment.arguments = "" then machine.toolArgumentBytes
      else u64SaturatingAdd machine.toolArgumentBytes fragment.arguments.utf8ByteSize
    if fragment.arguments ≠ "" ∧ maxToolArgumentBytes < bytes then
      ({ machine with
          openTools := machine.openTools.insert index pending
          toolArgumentBytes := bytes },
        .error (.invalidSse s!"{provider} tool arguments exceeded {maxToolArgumentBytes} bytes"))
    else
      ({ machine with
          openTools := machine.openTools.insert index (pending.extend fragment)
          toolArgumentBytes := bytes },
        .ok ())

/-- `absorb_tool_fragments`, from a position on. -/
def absorbToolFragments (machine : ChatCompletionsStreamMachine) (position : Nat) :
    List ToolFragment → ChatCompletionsStreamMachine × Except StreamError Unit
  | [] => (machine, .ok ())
  | fragment :: rest =>
      match machine.absorbToolFragment provider fragment position with
      | (machine, .ok ()) => machine.absorbToolFragments (position + 1) rest
      | (machine, .error error) => (machine, .error error)

def isNull : Value → Bool
  | .null => true
  | _ => false

/-- An in-band error; an explicit `null` is none. -/
def inBandError (value : Value) : Option Value :=
  ((value.get "error").filter fun error => !isNull error).or
    (if value.str "object" = some "error" then some value else none)

/-- The in-band error, its status digits restored. -/
def streamFailure (error : Value) : StreamError :=
  let code := ((error.str "code").or (error.str "type")).getD ""
  let detail := json.toString error
  let status :=
    if contains code "rate_limit" || contains detail "rate limit" then "429 Too Many Requests: "
    else if contains code "insufficient_quota" then
      "429 Too Many Requests: insufficient_quota — "
    else ""
  .modelProvider s!"{provider} chat completions stream failed: {status}{detail}"

/-- The output of a delta. -/
def deltaEvents (machine : ChatCompletionsStreamMachine) (delta : Value) : List StreamEvent :=
  let content := (delta.str "content").getD ""
  let reasoning := (delta.str "reasoning_content").getD ""
  (if content = "" then []
    else
      let chunk := StreamChunk.ofDelta content
      [.textDelta
        (if machine.countTokens then { chunk with tokenCount := content.utf8ByteSize / 4 }
          else chunk)]) ++
    if reasoning = "" then [] else [.textDelta (StreamChunk.ofReasoning reasoning)]

/-- The fragments of a delta. -/
def deltaFragments (delta : Value) : List ToolFragment :=
  (((delta.get "tool_calls").bind Value.asArray).getD []).map (.ofValue json)

/-- What the first choice adds. -/
def absorbChoice (machine : ChatCompletionsStreamMachine) (choice : Value) :
    ChatCompletionsStreamMachine × Except StreamError (List StreamEvent) :=
  let events := ((choice.get "delta").map machine.deltaEvents).getD []
  let fragments := ((choice.get "delta").map (deltaFragments json)).getD []
  match machine.absorbToolFragments provider 0 fragments with
  | (machine, .error error) => (machine, .error error)
  | (machine, .ok ()) =>
      ({ machine with finishReason := (choice.str "finish_reason").or machine.finishReason },
        .ok events)

def handle (machine : ChatCompletionsStreamMachine) (value : Value) :
    ChatCompletionsStreamMachine × Except StreamError (List StreamEvent) :=
  if machine.finished then (machine, .ok [])
  else
    match inBandError value with
    | some error => (machine, .error (streamFailure json provider error))
    | none =>
        let machine := machine.absorbUsage (value.get "usage")
        match ((value.get "choices").bind Value.asArray).bind (·.head?) with
        | none => (machine, .ok [])
        | some choice => machine.absorbChoice json provider choice

/-- `handle_payload`, the sentinel included. -/
def handlePayload (machine : ChatCompletionsStreamMachine) (data : String) :
    ChatCompletionsStreamMachine × Except StreamError (List StreamEvent) :=
  if trim data = "[DONE]" then
    let ended := { machine with sawDone := true }.terminate
    (ended.1, .ok ended.2)
  else
    match json.fromStr data with
    | none => (machine, .error .json)
    | some value => machine.handle json provider value

/-- The machine as `stream_chat` runs it.  A stream that closes behind a finish reason has
    completed, whether or not it was framed. -/
def stream : StreamMachine ChatCompletionsStreamMachine where
  handlePayload machine payload := machine.handlePayload json provider payload
  partialUsage := partialUsage
  finished := finished
  close machine :=
    if machine.finishReason.isSome then (machine.terminate.2, none)
    else
      ((machine.partialUsage.map .usage).toList,
        some (.invalidSse s!"{provider} chat completions stream ended without completion"))

end Handle

end ChatCompletionsStreamMachine

end ZeroRouter.Wire
