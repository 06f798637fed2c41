import ZeroRouter.Wire.ChatCompletions

/-!
# The Responses wire

`src/router/src/wire/responses.rs`: the request body.  System turns are joined into
`instructions`, and the ceiling is raised to the least this API accepts.
-/

namespace ZeroRouter.Wire

/-- `MIN_OUTPUT_TOKENS`: the least `max_output_tokens` the API accepts. -/
def minOutputTokens : Nat := 16

inductive InputPart where
  | inputText (text : String)
  | outputText (text : String)
  | inputImage (imageUrl : String)
  deriving DecidableEq, Repr

inductive MessageRole where
  | user
  | assistant
  deriving DecidableEq, Repr

/-- A member of `input`. -/
inductive InputItem where
  | message (role : MessageRole) (content : List InputPart)
  | functionCall (call : FunctionCall)
  | functionCallOutput (callId output : String)
  deriving DecidableEq, Repr

def inputPart : UserPart → InputPart
  | .text text => .inputText text
  | .base64Image mediaType data => .inputImage ("data:" ++ mediaType ++ ";base64," ++ data)
  | .urlImage url => .inputImage url

/-- `user_item`. -/
def userItem (message : ChatMessage) : InputItem :=
  if message.parts.isEmpty then .message .user [.inputText message.content]
  else
    let parts := userParts message
    if parts.all UserPart.isText then .message .user [.inputText message.content]
    else .message .user (parts.map inputPart)

/-- What a list of turns has in its system turns, joined. -/
def joinedSystem (messages : List ChatMessage) : String :=
  "\n\n".intercalate ((messages.filter (·.role = "system")).map ChatMessage.content)

section Body

variable (json : SerdeJson)

/-- What one turn adds to `input`. -/
def inputItems (message : ChatMessage) : List InputItem :=
  match message.role with
  | "user" => [userItem message]
  | "assistant" =>
      match openAssistant json message.content with
      | .envelope text calls =>
          (text.toList.map fun text => .message .assistant [.outputText text]) ++
            calls.map fun call => .functionCall call.functionCall
      | .plain text => [.message .assistant [.outputText text]]
  | "tool" =>
      let (callId, output) := openToolResult json message.content
      [.functionCallOutput callId output]
  | _ => []

/-- `build_responses_input`: the instructions and the input. -/
def buildResponsesInput (messages : List ChatMessage) : String × List InputItem :=
  (joinedSystem messages, messages.flatMap (inputItems json))

structure ResponsesBody where
  model : String
  input : List InputItem
  stream : Bool
  instructions : Option String
  tools : Option (List FunctionTool)
  toolChoice : Option String
  maxOutputTokens : Option Nat
  temperature : Option F64

/-- `OpenAiResponsesWire::request_body`. -/
def responsesRequestBody (maxTokens : Option Nat) (model : String) (messages : List ChatMessage)
    (tools : Option (List ToolSpec)) (temperature : Option F64) (stream : Bool) : ResponsesBody :=
  let (instructions, input) := buildResponsesInput json messages
  let tools := tools.filter fun tools => !tools.isEmpty
  { model
    input
    stream
    instructions := if instructions.toList.isEmpty then none else some instructions
    tools := tools.map fun tools => tools.map FunctionTool.ofSpec
    toolChoice := tools.map fun _ => "auto"
    maxOutputTokens := maxTokens.map fun maxTokens => max maxTokens minOutputTokens
    temperature }

end Body

end ZeroRouter.Wire
