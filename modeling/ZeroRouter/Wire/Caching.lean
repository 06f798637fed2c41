import ZeroRouter.Wire.Anthropic

/-!
# Cache breakpoints of a request

`src/router/src/openai.rs`: `cache_breakpoints`, which checks and counts what the client
placed.  `src/router/src/retry.rs`: `truncate_for_context`, which a walk may shorten the
prompt by before it dispatches again.
-/

namespace ZeroRouter.Wire

open Relational

/-- `MAX_CACHE_BREAKPOINTS`. -/
def maxCacheBreakpoints : Nat := 4

inductive CacheControlFault where
  | shape
  | ttl
  | tooMany (count : Nat)
  deriving DecidableEq, Repr

/-- Exactly `{"type": "ephemeral"}`. -/
def validateCacheControl (value : Value) : Except CacheControlFault Unit :=
  match value.asObject with
  | none => .error .shape
  | some object =>
      if containsKey object "ttl" then .error .ttl
      else if object.length ≠ 1 ∨ value.str "type" ≠ some "ephemeral" then .error .shape
      else .ok ()

/-- The breakpoints on the parts of a content array. -/
def contentPartCacheControls (message : OpenAiMessage) : List Value :=
  (message.content.asArray.getD []).filterMap fun part => part.get "cache_control"

/-- Every breakpoint a request carries: on messages, on tools and on content parts. -/
def ChatCompletionRequest.cacheControls (request : ChatCompletionRequest) : List Value :=
  request.messages.filterMap (fun message => message.extra.lookup "cache_control") ++
    request.tools.filterMap (fun tool => tool.extra.lookup "cache_control") ++
    request.messages.flatMap contentPartCacheControls

/-- `cache_breakpoints`: how many there are, each valid and together within the cap. -/
def ChatCompletionRequest.cacheBreakpoints (request : ChatCompletionRequest) :
    Except CacheControlFault Nat := do
  request.cacheControls.forM validateCacheControl
  let count := request.cacheControls.length
  ensure (count ≤ maxCacheBreakpoints) (.tooMany count)
  return count

/-! ## Dispatches -/

/-- The first `count` messages that are not the system's removed. -/
def removeOldest : Nat → List ChatMessage → List ChatMessage
  | 0, messages => messages
  | _ + 1, [] => []
  | count + 1, message :: rest =>
      if message.role = "system" then message :: removeOldest (count + 1) rest
      else removeOldest count rest

/-- `truncate_for_context`: the oldest half of the non-system history removed, unless at
    most one message would be left to remove from. -/
def truncateForContext (messages : List ChatMessage) : List ChatMessage :=
  let nonSystem := messages.countP (·.role ≠ "system")
  if nonSystem ≤ 1 then messages else removeOldest (nonSystem / 2) messages

/-- The prompts a walk dispatches for a request: its messages, shortened or not. -/
inductive Dispatched (json : SerdeJson) (request : ChatCompletionRequest) :
    List ChatMessage → Prop
  | whole : Dispatched json request (request.providerMessages json)
  | shortened {messages : List ChatMessage} :
      Dispatched json request messages → Dispatched json request (truncateForContext messages)

/-- `(!tools.is_empty()).then_some(tools)`. -/
def ChatCompletionRequest.dispatchedTools (request : ChatCompletionRequest) :
    Option (List ToolSpec) :=
  if request.providerTools.isEmpty then none else some request.providerTools

end ZeroRouter.Wire
