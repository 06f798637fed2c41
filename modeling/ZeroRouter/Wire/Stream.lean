import ZeroRouter.Api.Metering

/-!
# What an upstream says, buffered and streamed

`src/router/src/provider.rs`: the stop reasons, the events of a stream and the errors
that end one.
-/

namespace ZeroRouter

inductive StopReason where
  | stop
  | length
  | toolCalls
  | contentFilter
  deriving DecidableEq, Repr

/-- The OpenAI spelling. -/
def StopReason.asStr : StopReason → String
  | .stop => "stop"
  | .length => "length"
  | .toolCalls => "tool_calls"
  | .contentFilter => "content_filter"

def StopReason.fromOpenai (reason : String) : Option StopReason :=
  if reason = "stop" then some .stop
  else if reason = "length" then some .length
  else if reason = "tool_calls" ∨ reason = "function_call" then some .toolCalls
  else if reason = "content_filter" then some .contentFilter
  else none

/-- Why a stream has no usage to settle. -/
inductive UsageGap where
  | includeUsageIgnored
  | doneMissing
  deriving DecidableEq, Repr

structure StreamChunk where
  delta : String
  reasoning : Option String
  isFinal : Bool
  tokenCount : Nat
  deriving DecidableEq, Repr

namespace StreamChunk

/-- `StreamChunk::delta`. -/
def ofDelta (text : String) : StreamChunk where
  delta := text
  reasoning := none
  isFinal := false
  tokenCount := 0

/-- `StreamChunk::reasoning`. -/
def ofReasoning (text : String) : StreamChunk where
  delta := ""
  reasoning := some text
  isFinal := false
  tokenCount := 0

end StreamChunk

/-- What the upstream said as the stream ended. -/
structure StreamFinal where
  stopReason : Option StopReason
  usageGap : Option UsageGap
  deriving DecidableEq, Repr

inductive StreamEvent where
  | textDelta (chunk : StreamChunk)
  | toolCall (call : ToolCall)
  | usage (usage : TokenUsage)
  | final (final : StreamFinal)
  deriving DecidableEq, Repr

inductive StreamError where
  | http (detail : String)
  | json
  | invalidSse (detail : String)
  | modelProvider (detail : String)
  deriving DecidableEq, Repr

end ZeroRouter
