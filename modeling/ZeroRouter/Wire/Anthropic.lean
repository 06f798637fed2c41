import ZeroRouter.Wire.Responses

/-!
# The Messages wires

`src/router/src/wire/anthropic.rs` and `wire/bedrock_runtime.rs`: one request body for
both, which the second wraps.  Turns strictly alternate, so blocks of one role run
together; a call without a result in the user turn after it is given an empty one.
-/

namespace ZeroRouter.Wire

inductive ImageSource where
  | base64 (mediaType data : String)
  | url (url : String)
  deriving DecidableEq, Repr

inductive BlockContent where
  | text (text : String)
  | image (source : ImageSource)
  | toolUse (id name : String) (input : Value)
  | toolResult (toolUseId : String) (content : Option String)

/-- A content block, and whether it carries a cache breakpoint. -/
structure Block where
  content : BlockContent
  cacheControl : Bool

def Block.of (content : BlockContent) : Block := { content, cacheControl := false }

structure Turn where
  role : MessageRole
  content : List Block

/-! ## Turns -/

/-- `push_anthropic_block`. -/
def pushAnthropicBlock (turns : List Turn) (role : MessageRole) (block : Block) : List Turn :=
  match turns.getLast? with
  | some last =>
      if last.role = role then turns.dropLast ++ [{ last with content := last.content ++ [block] }]
      else turns ++ [{ role, content := [block] }]
  | none => [{ role, content := [block] }]

/-- A block list with a breakpoint on its last block. -/
def markLast (blocks : List Block) : List Block :=
  match blocks.getLast? with
  | some last => blocks.dropLast ++ [{ last with cacheControl := true }]
  | none => blocks

/-- `mark_last_block`. -/
def markLastBlock (turns : List Turn) : List Turn :=
  match turns.getLast? with
  | some last => turns.dropLast ++ [{ last with content := markLast last.content }]
  | none => turns

/-- `block_cursor`. -/
def blockCursor (turns : List Turn) : Nat := (turns.map fun turn => turn.content.length).sum

def blockOf : UserPart → BlockContent
  | .text text => .text text
  | .base64Image mediaType data => .image (.base64 mediaType data)
  | .urlImage url => .image (.url url)

/-- `push_user_content`: each part, marked where the client marked it. -/
def pushUserContent (turns : List Turn) (message : ChatMessage) : List Turn :=
  (userPartsCached message).foldl
    (fun turns part =>
      let turns := pushAnthropicBlock turns .user (.of (blockOf part.1))
      if part.2 then markLastBlock turns else turns)
    turns

/-- The ids of a turn's `tool_use` blocks. -/
def Turn.pending (turn : Turn) : List String :=
  turn.content.filterMap fun block =>
    match block.content with
    | .toolUse id _ _ => some id
    | _ => none

/-- The ids a turn's `tool_result` blocks answer. -/
def Turn.answered (turn : Turn) : List String :=
  turn.content.filterMap fun block =>
    match block.content with
    | .toolResult id _ => some id
    | _ => none

/-- A result with no content for every pending call that is not answered. -/
def missingResults (pending answered : List String) : List Block :=
  (pending.filter fun id => !answered.contains id).map fun id => .of (.toolResult id none)

/-- `synthesize_missing_tool_results`: the results go to the head of the user turn that
    follows, which is opened when there is none. -/
def synthesizeMissingToolResults : List Turn → List Turn
  | [] => []
  | turn :: rest =>
      if turn.role = .assistant ∧ turn.pending ≠ [] then
        match rest with
        | next :: after =>
            if next.role = .user then
              turn ::
                { next with
                  content := missingResults turn.pending next.answered ++ next.content } ::
                synthesizeMissingToolResults after
            else
              turn :: { role := .user, content := missingResults turn.pending [] } ::
                synthesizeMissingToolResults (next :: after)
        | [] => [turn, { role := .user, content := missingResults turn.pending [] }]
      else turn :: synthesizeMissingToolResults rest

/-- A user turn at the head, opened when there is none. -/
def openUserTurn : List Turn → List Turn
  | next :: after =>
      if next.role = .user then next :: after
      else { role := .user, content := [] } :: next :: after
  | [] => [{ role := .user, content := [] }]

/-- The pass as it runs, an index going up while turns are inserted ahead of it; none when
    the fuel runs out. -/
def synthesizeLoop : Nat → Nat → List Turn → Option (List Turn)
  | 0, _, _ => none
  | fuel + 1, position, turns =>
      match turns[position]? with
      | none => some turns
      | some turn =>
          if turn.role = .assistant ∧ turn.pending ≠ [] then
            let answered := (openUserTurn (turns.drop (position + 1))).modifyHead fun next =>
              { next with content := missingResults turn.pending next.answered ++ next.content }
            synthesizeLoop fuel (position + 1) (turns.take (position + 1) ++ answered)
          else synthesizeLoop fuel (position + 1) turns

/-! ## The body -/

/-- `SystemPrompt`. -/
structure SystemPrompt where
  text : String
  cacheControl : Bool
  deriving DecidableEq, Repr

section Body

variable (json : SerdeJson)

/-- A call's arguments as the object this API takes; anything else is an empty one. -/
def toolInput (arguments : Option String) : Value :=
  ((arguments.bind json.fromStr).filter Value.isObject).getD (.object [])

/-- The turns after one turn's own blocks, its message-level breakpoint aside. -/
def pushMessage (turns : List Turn) (message : ChatMessage) : List Turn :=
  match message.role with
  | "user" => pushUserContent turns message
  | "assistant" =>
      match openAssistant json message.content with
      | .envelope text calls =>
          let turns :=
            match text with
            | some text => pushAnthropicBlock turns .assistant (.of (.text text))
            | none => turns
          calls.foldl
            (fun turns call =>
              pushAnthropicBlock turns .assistant
                (.of (.toolUse call.id call.name (toolInput json call.arguments))))
            turns
      | .plain text =>
          if isBlank text then turns else pushAnthropicBlock turns .assistant (.of (.text text))
  | "tool" =>
      let (callId, output) := openToolResult json message.content
      let content := if output.toList.isEmpty then none else some output
      pushAnthropicBlock turns .user (.of (.toolResult callId content))
  | _ => turns

/-- One pass of `build_anthropic_messages`: a breakpoint of the client's marks the last
    block the turn produced, if it produced one. -/
def buildPass (turns : List Turn) (message : ChatMessage) : List Turn :=
  let pushed := pushMessage json turns message
  if message.cacheControl ∧ blockCursor pushed ≠ blockCursor turns then markLastBlock pushed
  else pushed

/-- `build_anthropic_messages`. -/
def buildAnthropicMessages (messages : List ChatMessage) : SystemPrompt × List Turn :=
  ({ text := joinedSystem messages
     cacheControl := messages.any fun message => message.role = "system" && message.cacheControl },
    synthesizeMissingToolResults (messages.foldl (buildPass json) []))

/-- A tool of the body, and whether it carries a cache breakpoint. -/
structure MessagesTool where
  name : String
  description : String
  inputSchema : Value
  cacheControl : Bool

structure MessagesBody where
  messages : List Turn
  maxTokens : Nat
  model : Option String
  stream : Option Bool
  system : Option SystemPrompt
  tools : Option (List MessagesTool)
  temperature : Option F64

/-- The tools with the client's marks, or with the last one marked. -/
def messagesTools (clientPlaced : Bool) (tools : List ToolSpec) : List MessagesTool :=
  let shown := tools.map fun tool =>
    { name := tool.name
      description := tool.description
      inputSchema := tool.parameters
      cacheControl := clientPlaced && tool.cacheControl : MessagesTool }
  match shown.getLast? with
  | some last => if clientPlaced then shown else shown.dropLast ++ [{ last with cacheControl := true }]
  | none => shown

/-- `messages_request_body`: the client's breakpoints if it placed any, else the wire's. -/
def messagesRequestBody (model : Option String) (messages : List ChatMessage)
    (tools : Option (List ToolSpec)) (temperature : Option F64) (stream : Option Bool)
    (maxTokens : Nat) : MessagesBody :=
  let clientPlaced :=
    messages.any ChatMessage.hasClientBreakpoint ||
      tools.any fun tools => tools.any ToolSpec.cacheControl
  let (system, turns) := buildAnthropicMessages json messages
  { messages := if clientPlaced then turns else markLastBlock turns
    maxTokens
    model
    stream
    system :=
      if isBlank system.text then none
      else some { system with cacheControl := !clientPlaced || system.cacheControl }
    tools := (tools.filter fun tools => !tools.isEmpty).map (messagesTools clientPlaced)
    temperature }

/-- `AnthropicWire::request_body`. -/
def anthropicRequestBody (maxTokens : Nat) (model : String) (messages : List ChatMessage)
    (tools : Option (List ToolSpec)) (temperature : Option F64) (stream : Bool) : MessagesBody :=
  messagesRequestBody json (some model) messages tools temperature (some stream) maxTokens

/-! ## Bedrock's classic runtime -/

/-- `BEDROCK_ANTHROPIC_VERSION`. -/
def bedrockAnthropicVersion : String := "bedrock-2023-05-31"

structure BedrockBody where
  messages : MessagesBody
  anthropicVersion : String

/-- `unsupported_image_source`: the first image this API cannot take. -/
def unsupportedImageSource (messages : List ChatMessage) : Option String :=
  ((messages.filter (·.role = "user")).flatMap userParts).findSome? fun part =>
    match part with
    | .urlImage url => some url
    | _ => none

/-- `BedrockRuntimeWire::request_body`. -/
def bedrockRequestBody (maxTokens : Nat) (messages : List ChatMessage)
    (tools : Option (List ToolSpec)) (temperature : Option F64) : BedrockBody where
  messages := messagesRequestBody json none messages tools temperature none maxTokens
  anthropicVersion := bedrockAnthropicVersion

end Body

end ZeroRouter.Wire
