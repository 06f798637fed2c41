import ZeroRouter.Wire.Message

/-!
# The chat-completions wire

`src/router/src/wire/chat_completions.rs`: the request body.  Turns go out where the
request had them, system turns included.
-/

namespace ZeroRouter.Wire

/-- A part of a user turn that carries an image. -/
inductive ChatPart where
  | text (text : String)
  | imageUrl (url : String)
  deriving DecidableEq, Repr

/-- A user turn's `content`: a plain string unless it carries an image. -/
inductive ChatContent where
  | text (text : String)
  | parts (parts : List ChatPart)
  deriving DecidableEq, Repr

/-- A tool call as the two OpenAI dialects send it. -/
structure FunctionCall where
  id : String
  name : String
  arguments : String
  deriving DecidableEq, Repr

/-- A member of `messages`.  An assistant turn of nothing but calls has null content. -/
inductive ChatTurn where
  | system (content : String)
  | user (content : ChatContent)
  | assistant (content : Option String) (toolCalls : List FunctionCall)
  | tool (toolCallId content : String)
  deriving DecidableEq, Repr

/-- A tool as the two OpenAI dialects declare it. -/
structure FunctionTool where
  name : String
  description : String
  parameters : Value

def FunctionTool.ofSpec (tool : ToolSpec) : FunctionTool where
  name := tool.name
  description := tool.description
  parameters := tool.parameters

/-- Arguments are replayed verbatim. -/
def PackedCall.functionCall (call : PackedCall) : FunctionCall where
  id := call.id
  name := call.name
  arguments := call.arguments.getD "{}"

def chatPart : UserPart → ChatPart
  | .text text => .text text
  | .base64Image mediaType data => .imageUrl ("data:" ++ mediaType ++ ";base64," ++ data)
  | .urlImage url => .imageUrl url

/-- `user_content`. -/
def chatUserContent (message : ChatMessage) : ChatContent :=
  if message.parts.isEmpty then .text message.content
  else
    let parts := userParts message
    if parts.all UserPart.isText then .text message.content else .parts (parts.map chatPart)

section Body

variable (json : SerdeJson)

/-- What one turn adds to `messages`: nothing, for an envelope with neither text nor
    calls. -/
def chatTurns (message : ChatMessage) : List ChatTurn :=
  match message.role with
  | "system" => [.system message.content]
  | "user" => [.user (chatUserContent message)]
  | "assistant" =>
      match openAssistant json message.content with
      | .envelope text calls =>
          if text.isNone ∧ calls.isEmpty then []
          else [.assistant text (calls.map PackedCall.functionCall)]
      | .plain text => [.assistant (some text) []]
  | "tool" =>
      let (callId, output) := openToolResult json message.content
      [.tool callId output]
  | _ => []

/-- `build_chat_completions_messages`. -/
def buildChatCompletionsMessages (messages : List ChatMessage) : List ChatTurn :=
  messages.flatMap (chatTurns json)

structure ChatCompletionsBody where
  model : String
  messages : List ChatTurn
  stream : Bool
  tools : Option (List FunctionTool)
  toolChoice : Option String
  maxTokens : Option Nat
  temperature : Option F64
  includeUsage : Option Bool

/-- `ChatCompletionsWire::request_body`. -/
def chatCompletionsRequestBody (maxTokens : Option Nat) (model : String)
    (messages : List ChatMessage) (tools : Option (List ToolSpec)) (temperature : Option F64)
    (stream : Bool) : ChatCompletionsBody :=
  let tools := tools.filter fun tools => !tools.isEmpty
  { model
    messages := buildChatCompletionsMessages json messages
    stream
    tools := tools.map fun tools => tools.map FunctionTool.ofSpec
    toolChoice := tools.map fun _ => "auto"
    maxTokens
    temperature
    includeUsage := if stream then some true else none }

end Body

end ZeroRouter.Wire
