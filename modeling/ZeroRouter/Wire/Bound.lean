import ZeroRouter.Wire.Message
import ZeroRouter.Api.Reservation

/-!
# A chat request as its prompt bound reads it

`src/router/src/openai.rs`: `image_urls` and `value_byte_len` read the client's JSON, and
`Api/Reservation.lean` adds up what they make of it.  The bytes of the text a turn hands to an
upstream are measured beside it: of a packed turn those of the strings in its envelope, of a
structured one those of its parts.
-/

namespace ZeroRouter.Wire

/-! ## The bound -/

/-- The URL of an image part. -/
def imageUrl (part : Value) : Option String :=
  match part.str "type" with
  | some "image_url" => (part.get "image_url").bind (·.str "url")
  | _ => none

section Bound

variable (json : SerdeJson)

/-- A value by what `value_byte_len` and `image_urls` read of it. -/
def measured : Value → MessageContent
  | .null => .null
  | .string text => .text text
  | .array parts => .parts (json.toString (.array parts)) (parts.filterMap imageUrl)
  | other => .parts (json.toString other) []

def OpenAiMessage.measured (message : OpenAiMessage) : ZeroRouter.OpenAiMessage where
  role := message.role
  content := Wire.measured json message.content
  toolCalls := message.toolCalls.map fun call =>
    { id := call.id, name := call.function.name, arguments := call.function.arguments }
  toolCallId := message.toolCallId
  name := message.name
  reasoningContent := message.reasoningContent

def OpenAiTool.measured (tool : OpenAiTool) : ZeroRouter.OpenAiTool where
  name := tool.function.name
  description := tool.function.description
  parameters := Wire.measured json tool.function.parameters

def ChatCompletionRequest.measured (request : ChatCompletionRequest) :
    ZeroRouter.ChatCompletionRequest where
  messages := request.messages.map (OpenAiMessage.measured json)
  tools := request.tools.map (OpenAiTool.measured json)

/-- `reservation_usage` of a request as it was sent. -/
def ChatCompletionRequest.reservationUsage (request : ChatCompletionRequest)
    (maxOutputTokens : Nat) : OpenAiUsage :=
  (request.measured json).reservationUsage maxOutputTokens

end Bound

/-! ## What a turn hands on -/

mutual

/-- The bytes of the strings in a value. -/
def stringBytes : Value → Nat
  | .string text => text.utf8ByteSize
  | .array items => itemBytes items
  | .object fields => fieldBytes fields
  | .null | .bool _ | .integer _ | .float _ => 0

def itemBytes : List Value → Nat
  | [] => 0
  | item :: items => stringBytes item + itemBytes items

def fieldBytes : List (String × Value) → Nat
  | [] => 0
  | (_, value) :: fields => stringBytes value + fieldBytes fields

end

/-- The text of a part, or the URL it carries. -/
def ContentPart.words : ContentPart → String
  | .text words _ => words
  | .image url _ => url

section Handed

variable (json : SerdeJson)

/-- The bytes of the text a message's turn carries: of the strings in the JSON it is packed as, or
    of its content and its parts, of which a wire sends the one or the other. -/
def textBytes (message : OpenAiMessage) : Nat :=
  let turn := toProviderMessage json message
  match packing json message with
  | some packed => stringBytes packed
  | none => max turn.content.utf8ByteSize (turn.parts.map (·.words.utf8ByteSize)).sum

def handedBytes (message : OpenAiMessage) : Nat :=
  (toProviderMessage json message).role.utf8ByteSize + textBytes json message

def handedImages (message : OpenAiMessage) : Nat :=
  (toProviderMessage json message).parts.countP ContentPart.isImage

/-- A schema's own text, or the JSON it is sent as. -/
def schemaBytes : Value → Nat
  | .null => 0
  | .string text => text.utf8ByteSize
  | schema => (json.toString schema).utf8ByteSize

def toolBytes (tool : ToolSpec) : Nat :=
  tool.name.utf8ByteSize + tool.description.utf8ByteSize + schemaBytes json tool.parameters

/-- The bytes `provider_messages` and `provider_tools` hand upstream. -/
def ChatCompletionRequest.handedBytes (request : ChatCompletionRequest) : Nat :=
  (request.messages.map (Wire.handedBytes json)).sum +
    (request.providerTools.map (toolBytes json)).sum

/-- The images among them. -/
def ChatCompletionRequest.handedImages (request : ChatCompletionRequest) : Nat :=
  (request.messages.map (Wire.handedImages json)).sum

end Handed

end ZeroRouter.Wire
