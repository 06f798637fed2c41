import ZeroRouter.Wire.Upstream

/-!
# The Messages stream

`src/router/src/wire/anthropic.rs`: the usage block with its disjoint prompt buckets, and
`AnthropicStreamMachine`, which reads one event of a stream at a time.  Its counters are
cumulative, so each only rises.
-/

namespace ZeroRouter.Wire

/-! ## Usage -/

/-- `input_tokens` excludes both cache buckets. -/
structure AnthropicUsage where
  inputTokens : Option Nat
  outputTokens : Option Nat
  cacheReadInputTokens : Option Nat
  cacheCreationInputTokens : Option Nat
  deriving DecidableEq, Repr

namespace AnthropicUsage

def empty : AnthropicUsage := ⟨none, none, none, none⟩

/-- `into_token_usage`: one total and its two subsets. -/
def intoTokenUsage (usage : AnthropicUsage) : Option TokenUsage :=
  let cacheRead := usage.cacheReadInputTokens.getD 0
  let cacheCreation := usage.cacheCreationInputTokens.getD 0
  believable
    { inputTokens := usage.inputTokens.map fun input =>
        u64SaturatingAdd (u64SaturatingAdd input cacheRead) cacheCreation
      outputTokens := usage.outputTokens
      cachedInputTokens := if 0 < cacheRead then some cacheRead else none
      cacheWriteInputTokens := if 0 < cacheCreation then some cacheCreation else none }

/-- A usage there is something to bill in. -/
def reportable (usage : AnthropicUsage) : Option TokenUsage :=
  usage.intoTokenUsage.filter fun usage => usage.inputTokens.isSome || usage.outputTokens.isSome

/-- The counters a value states. -/
def ofValue (value : Value) : AnthropicUsage where
  inputTokens := (value.get "input_tokens").bind asU64
  outputTokens := (value.get "output_tokens").bind asU64
  cacheReadInputTokens := (value.get "cache_read_input_tokens").bind asU64
  cacheCreationInputTokens := (value.get "cache_creation_input_tokens").bind asU64

/-- A counter as one more statement of it leaves it. -/
def raise (slot stated : Option Nat) : Option Nat :=
  match stated with
  | none => slot
  | some tokens => some (slot.elim tokens (max · tokens))

def raiseAll (usage stated : AnthropicUsage) : AnthropicUsage where
  inputTokens := raise usage.inputTokens stated.inputTokens
  outputTokens := raise usage.outputTokens stated.outputTokens
  cacheReadInputTokens := raise usage.cacheReadInputTokens stated.cacheReadInputTokens
  cacheCreationInputTokens := raise usage.cacheCreationInputTokens stated.cacheCreationInputTokens

end AnthropicUsage

/-! ## The machine -/

/-- `anthropic_stop_reason`. -/
def anthropicStopReason (reason : Option String) : Option StopReason :=
  reason.bind fun reason =>
    if reason = "end_turn" ∨ reason = "stop_sequence" then some .stop
    else if reason = "max_tokens" then some .length
    else if reason = "tool_use" then some .toolCalls
    else if reason = "refusal" then some .contentFilter
    else none

structure AnthropicStreamMachine where
  usage : AnthropicUsage
  openTools : Ordered.SortedMap Nat PendingTool
  toolArgumentBytes : Nat
  countTokens : Bool
  stopReason : Option StopReason
  finished : Bool

namespace AnthropicStreamMachine

def new (countTokens : Bool) : AnthropicStreamMachine where
  usage := .empty
  openTools := .empty
  toolArgumentBytes := 0
  countTokens := countTokens
  stopReason := none
  finished := false

/-- `partial_usage`.  The usage it takes is never read again: the stream ends with it. -/
def partialUsage (machine : AnthropicStreamMachine) : Option TokenUsage := machine.usage.reportable

/-- `absorb_usage`. -/
def absorbUsage (machine : AnthropicStreamMachine) (value : Option Value) :
    AnthropicStreamMachine :=
  match value with
  | none => machine
  | some usage => { machine with usage := machine.usage.raiseAll (.ofValue usage) }

section Handle

variable (json : SerdeJson) (provider : String)

/-- `content_block_start`. -/
def openBlock (machine : AnthropicStreamMachine) (value : Value) :
    AnthropicStreamMachine × Except StreamError (List StreamEvent) :=
  match value.get "content_block", (value.get "index").bind asU64 with
  | some block, some index =>
      if block.str "type" = some "tool_use" then
        if maxOpenToolBlocks ≤ machine.openTools.entries.length then
          (machine,
            .error (.invalidSse
              s!"{provider} opened more than {maxOpenToolBlocks} concurrent tool blocks"))
        else
          ({ machine with
              openTools := machine.openTools.insert index
                { id := (block.str "id").getD ""
                  name := (block.str "name").getD ""
                  arguments := "" } },
            .ok [])
      else (machine, .ok [])
  | _, _ => (machine, .ok [])

/-- `content_block_delta`. -/
def blockDelta (machine : AnthropicStreamMachine) (value : Value) :
    AnthropicStreamMachine × Except StreamError (List StreamEvent) :=
  let delta := value.get "delta"
  match delta.bind (·.str "type") with
  | some "text_delta" =>
      match delta.bind (·.str "text") with
      | some text =>
          let chunk := StreamChunk.ofDelta text
          (machine,
            .ok [.textDelta
              (if machine.countTokens then { chunk with tokenCount := text.utf8ByteSize / 4 }
                else chunk)])
      | none => (machine, .ok [])
  | some "input_json_delta" =>
      match delta.bind (·.str "partial_json"), (value.get "index").bind asU64 with
      | some text, some index =>
          let machine :=
            { machine with toolArgumentBytes := machine.toolArgumentBytes + text.utf8ByteSize }
          if maxToolArgumentBytes < machine.toolArgumentBytes then
            (machine,
              .error (.invalidSse s!"{provider} tool arguments exceeded {maxToolArgumentBytes} bytes"))
          else
            match machine.openTools.get? index with
            | some pending =>
                ({ machine with
                    openTools := machine.openTools.insert index
                      { pending with arguments := pending.arguments ++ text } },
                  .ok [])
            | none => (machine, .ok [])
      | _, _ => (machine, .ok [])
  | _ => (machine, .ok [])

/-- `content_block_stop`. -/
def closeBlock (machine : AnthropicStreamMachine) (value : Value) :
    AnthropicStreamMachine × Except StreamError (List StreamEvent) :=
  match (value.get "index").bind asU64 with
  | some index =>
      match machine.openTools.get? index with
      | some pending =>
          ({ machine with openTools := machine.openTools.erase index },
            .ok [.toolCall pending.toolCall])
      | none => (machine, .ok [])
  | none => (machine, .ok [])

/-- `message_delta`. -/
def messageDelta (machine : AnthropicStreamMachine) (value : Value) : AnthropicStreamMachine :=
  let machine := machine.absorbUsage (value.get "usage")
  match anthropicStopReason ((value.get "delta").bind (·.str "stop_reason")) with
  | some reason => { machine with stopReason := some reason }
  | none => machine

/-- `message_stop`: the usage once, and the terminal once. -/
def messageStop (machine : AnthropicStreamMachine) :
    AnthropicStreamMachine × List StreamEvent :=
  if machine.finished then (machine, [])
  else
    ({ machine with usage := .empty, finished := true },
      (machine.usage.reportable.map .usage).toList ++
        [.final { stopReason := machine.stopReason, usageGap := none }])

/-- The in-band error, its status digits restored. -/
def streamFailure (value : Value) : StreamError :=
  let detail := ((value.get "error").map json.toString).getD (json.toString value)
  let status :=
    if (value.get "error").bind (·.str "type") = some "rate_limit_error" then
      "429 Too Many Requests: "
    else ""
  .modelProvider s!"{provider} messages stream failed: {status}{detail}"

def handle (machine : AnthropicStreamMachine) (value : Value) :
    AnthropicStreamMachine × Except StreamError (List StreamEvent) :=
  match value.str "type" with
  | some "message_start" =>
      (machine.absorbUsage ((value.get "message").bind (·.get "usage")), .ok [])
  | some "content_block_start" => machine.openBlock provider value
  | some "content_block_delta" => machine.blockDelta provider value
  | some "content_block_stop" => machine.closeBlock value
  | some "message_delta" => (machine.messageDelta value, .ok [])
  | some "message_stop" =>
      let stopped := machine.messageStop
      (stopped.1, .ok stopped.2)
  | some "error" => (machine, .error (streamFailure json provider value))
  | _ => (machine, .ok [])

/-- The machine as `stream_chat` runs it. -/
def stream : StreamMachine AnthropicStreamMachine where
  handlePayload machine payload :=
    match json.fromStr payload with
    | none => (machine, .error .json)
    | some value => machine.handle json provider value
  partialUsage := partialUsage
  finished := finished
  close machine :=
    ((machine.partialUsage.map .usage).toList,
      some (.invalidSse s!"{provider} messages stream ended without completion"))

/-- `stream_chat`, once the upstream answered with a success. -/
def streamChat (countTokens : Bool) (chunks : List (Except StreamError (List UInt8))) :
    List StreamItem :=
  (stream json provider).run (.new countTokens) (drainReads .empty chunks)

end Handle

end AnthropicStreamMachine

end ZeroRouter.Wire
