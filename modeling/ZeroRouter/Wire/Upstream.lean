import ZeroRouter.Wire.Sse
import ZeroRouter.Lib.SortedMap
import ZeroRouter.Json

/-!
# What the stream machines share

`src/router/src/wire/mod.rs`: the limits on what an upstream may accrete and the figures it is
believed about; and the loop every SSE wire runs its machine in.  The loop forwards what the
machine makes of each payload, reports the usage seen so far before any error, and stops at the end
of the read in which the machine finished.
-/

namespace ZeroRouter.Wire

def maxOpenToolBlocks : Nat := 64

def maxToolArgumentBytes : Nat := 4 * 1024 * 1024

def maxBelievableTokens : Nat := 2147483647

/-- `Value::as_u64`. -/
def asU64 : Value → Option Nat
  | .integer value => if 0 ≤ value ∧ value ≤ u64Max then some value.toNat else none
  | _ => none

/-- `believable`: an implausible report is no report. -/
def believable (usage : TokenUsage) : Option TokenUsage :=
  let beyond (value : Option Nat) : Bool := value.any fun tokens => maxBelievableTokens < tokens
  if beyond usage.inputTokens || beyond usage.outputTokens || beyond usage.cachedInputTokens ||
      beyond usage.cacheWriteInputTokens then
    none
  else some usage

/-- A tool call under assembly. -/
structure PendingTool where
  id : String
  name : String
  arguments : String
  deriving DecidableEq, Repr

/-- A call without arguments is a call with none of them. -/
def PendingTool.toolCall (pending : PendingTool) : ToolCall where
  id := pending.id
  name := pending.name
  arguments := if pending.arguments = "" then "{}" else pending.arguments

/-! ## The loop -/

/-- A machine one `data:` payload at a time. -/
structure StreamMachine (μ : Type) where
  handlePayload : μ → String → μ × Except StreamError (List StreamEvent)
  partialUsage : μ → Option TokenUsage
  finished : μ → Bool
  /-- What is yielded when the upstream closes on an unfinished machine. -/
  close : μ → List StreamEvent × Option StreamError

/-- What a stream yields, and the payloads it read on the way. -/
inductive StreamItem where
  | read (payload : String)
  | event (event : StreamEvent)
  | failed (error : StreamError)
  deriving DecidableEq, Repr

namespace StreamMachine

variable {μ : Type} (machine : StreamMachine μ)

/-- An abnormal exit: the usage reported so far, and the error. -/
def abandon (state : μ) (error : StreamError) : List StreamItem :=
  ((machine.partialUsage state).map fun usage => .event (.usage usage)).toList ++ [.failed error]

/-- The payloads of one read, up to the first error. -/
def feed (state : μ) : List String → List StreamItem × Option μ
  | [] => ([], some state)
  | payload :: rest =>
      match machine.handlePayload state payload with
      | (state, .ok events) =>
          let later := feed state rest
          (.read payload :: events.map .event ++ later.1, later.2)
      | (state, .error error) => (.read payload :: machine.abandon state error, none)

/-- The loop over what each read of the socket drained. -/
def run (state : μ) : List (Except StreamError (List String)) → List StreamItem
  | [] =>
      let closed := machine.close state
      closed.1.map .event ++ (closed.2.map .failed).toList
  | .error error :: _ => machine.abandon state error
  | .ok payloads :: reads =>
      match machine.feed state payloads with
      | (items, none) => items
      | (items, some state) =>
          if machine.finished state then items else items ++ run state reads

end StreamMachine

/-- What the reads of a socket drain into: each one's payloads, or the error it ends with. -/
def drainReads (buffers : SseBuffers) :
    List (Except StreamError (List UInt8)) → List (Except StreamError (List String))
  | [] => []
  | .error error :: _ => [.error error]
  | .ok chunk :: chunks =>
      let drained := drainSsePayloads buffers chunk
      drained.2 :: drainReads drained.1 chunks

end ZeroRouter.Wire
