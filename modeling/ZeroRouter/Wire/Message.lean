import ZeroRouter.Json
import ZeroRouter.Config.Catalog
import ZeroRouter.Lib.Table

/-!
# A chat request and the turns it is packed into

`src/router/src/openai.rs`: the request a customer sends, what is refused of it,
and `to_provider_message`, which packs each message into one turn.  An assistant
message with tool calls or reasoning, and a tool result, are packed as JSON text
in the field that carries plain text elsewhere.  `src/router/src/provider.rs`: the
turns.  `src/router/src/wire/mod.rs`: how a user turn is read.
-/

namespace ZeroRouter.Wire

open Relational

/-! ## The request -/

/-- An `f64`: the rational it denotes, none for an infinity or NaN. -/
abbrev F64 := Option ℚ

structure OpenAiFunctionCall where
  name : String
  arguments : String
  extra : List (String × Value)

structure OpenAiToolCall where
  id : String
  kind : String
  function : OpenAiFunctionCall
  extra : List (String × Value)

structure OpenAiMessage where
  role : String
  content : Value
  toolCalls : List OpenAiToolCall
  toolCallId : Option String
  name : Option String
  reasoningContent : Option String
  extra : List (String × Value)

structure OpenAiFunctionSpec where
  name : String
  description : String
  parameters : Value
  extra : List (String × Value)

structure OpenAiTool where
  kind : String
  function : OpenAiFunctionSpec
  extra : List (String × Value)

structure StreamOptionsRequest where
  includeUsage : Bool
  extra : List (String × Value)

structure ChatCompletionRequest where
  model : String
  messages : List OpenAiMessage
  stream : Bool
  temperature : Option F64
  maxTokens : Option Nat
  tools : List OpenAiTool
  toolChoice : Option Value
  streamOptions : Option StreamOptionsRequest
  extra : List (String × Value)

/-- `contains_key` of a flattened map. -/
def containsKey (fields : List (String × Value)) (key : String) : Bool := fields.any (·.1 = key)

/-! ## What is refused -/

/-- The checks `validate` makes on each message. -/
def OpenAiMessage.validate (message : OpenAiMessage) : Except String Unit := do
  ensure (message.toolCalls.isEmpty ∨ message.role = "assistant")
    "tool_calls are only valid on assistant messages"
  ensure (message.toolCalls.all fun call =>
      !isBlank call.id && call.kind = "function" && !isBlank call.function.name)
    "tool call is invalid"
  ensure (message.role ≠ "tool" ∨ message.toolCallId.any fun id => !isBlank id)
    "tool messages require tool_call_id"
  ensure (message.role = "tool" ∨ message.toolCallId = none)
    "tool_call_id is only valid on tool messages"
  ensure (message.name = none ∨ message.role = "tool")
    "message name cannot be preserved for this role"
  ensure (message.reasoningContent = none ∨ message.role = "assistant")
    "reasoning_content cannot be preserved for this message"

def ChatCompletionRequest.validate (request : ChatCompletionRequest) : Except String Unit := do
  ensure (isBlank request.model = false) "model is empty"
  ensure (request.messages.isEmpty = false) "messages is empty"
  ensure (∀ message ∈ request.messages, message.role ∈ ["system", "user", "assistant", "tool"])
    "message role is unsupported"
  ensure (request.tools.all fun tool => tool.kind = "function" && !isBlank tool.function.name)
    "tool definition is invalid"
  ensure (request.temperature.all Option.isSome) "temperature must be finite"
  ensure (request.maxTokens ≠ some 0) "max_tokens must be positive"
  ensure (request.toolChoice.all fun choice => choice.asStr = some "auto")
    "only tool_choice auto is supported"
  ensure (request.toolChoice.isNone ∨ request.tools.isEmpty = false) "tool_choice requires tools"
  request.messages.forM OpenAiMessage.validate

/-- `reqwest::Url`, as far as it is read. -/
structure Url where
  scheme : String
  hostStr : Option String

inductive IpAddr where
  | v4 (a b c d : Nat)
  | v6 (segments : Vector Nat 8)

/-- `reqwest::Url::parse` and `IpAddr::from_str`. -/
structure UrlParser where
  url : String → Option Url
  ip : String → Option IpAddr

def ipv4IsPublic (a b c d : Nat) : Bool :=
  !((a = 10 || (a = 172 && 16 ≤ b && b ≤ 31) || (a = 192 && b = 168)) ||
    a = 127 ||
    (a = 169 && b = 254) ||
    (a = 0 && b = 0 && c = 0 && d = 0) ||
    (a = 255 && b = 255 && c = 255 && d = 255) ||
    ((a = 192 && b = 0 && c = 2) || (a = 198 && b = 51 && c = 100) ||
      (a = 203 && b = 0 && c = 113)) ||
    a = 0 ||
    (a = 100 && b &&& 0xc0 = 64))

/-- An IPv4 address mapped into IPv6 reaches the same host. -/
def ipLiteralIsPublic : IpAddr → Bool
  | .v4 a b c d => ipv4IsPublic a b c d
  | .v6 segments =>
      match segments.toList with
      | [0, 0, 0, 0, 0, 0xffff, high, low] =>
          ipv4IsPublic (high / 256) (high % 256) (low / 256) (low % 256)
      | segments =>
          !(segments = [0, 0, 0, 0, 0, 0, 0, 1] || segments = [0, 0, 0, 0, 0, 0, 0, 0] ||
            segments.head?.any fun first =>
              first &&& 0xfe00 = 0xfc00 || first &&& 0xffc0 = 0xfe80)

/-- `str::strip_prefix`. -/
def stripPrefix (start text : String) : Option String :=
  if startsWith start text then some (String.ofList (text.toList.drop start.toList.length)) else none

/-- A text cut at the first occurrence of another. -/
def splitAtFirst (separator : List Char) : List Char → Option (List Char × List Char)
  | [] => if separator = [] then some ([], []) else none
  | c :: rest =>
      if separator.isPrefixOf (c :: rest) then some ([], (c :: rest).drop separator.length)
      else (splitAtFirst separator rest).map fun cut => (c :: cut.1, cut.2)

/-- `str::split_once`. -/
def splitOnceAt (separator text : String) : Option (String × String) :=
  (splitAtFirst separator.toList text.toList).map fun cut =>
    (String.ofList cut.1, String.ofList cut.2)

/-- The media type and payload of an inline base64 image. -/
def base64DataUri (url : String) : Option (String × String) :=
  (stripPrefix "data:" url).bind (splitOnceAt ";base64,")

def imageUrlIsAdmissible (parser : UrlParser) (url : String) : Bool :=
  if (base64DataUri url).isSome then true
  else
    match parser.url url with
    | none => false
    | some parsed =>
        if parsed.scheme ≠ "https" then false
        else
          match parsed.hostStr with
          | none => false
          | some host =>
              let bare := ((host.toList.dropWhile (· = '[')).reverse.dropWhile (· = ']')).reverse
              match parser.ip (String.ofList bare) with
              | some ip => ipLiteralIsPublic ip
              | none => true

def partIsSupported (parser : UrlParser) (role : String) (part : Value) : Bool :=
  match part.asObject with
  | none => false
  | some fields =>
      match part.str "type" with
      | some "text" =>
          (part.str "text").isSome &&
            fields.all fun field => field.1 ∈ ["type", "text", "cache_control"]
      | some "image_url" =>
          role = "user" &&
            (((part.get "image_url").bind Value.asObject).any fun image =>
              (((Value.object image).str "url").any fun url =>
                imageUrlIsAdmissible parser (trim url)) &&
              image.all fun field => field.1 = "url") &&
            fields.all fun field => field.1 ∈ ["type", "image_url", "cache_control"]
      | _ => false

def contentIsSupported (parser : UrlParser) (role : String) : Value → Bool
  | .string _ | .null => true
  | .array parts => parts.all (partIsSupported parser role)
  | _ => false

def ChatCompletionRequest.containsUnsupportedExtensions (parser : UrlParser)
    (request : ChatCompletionRequest) : Bool :=
  (request.extra.any fun field => field.1 ≠ "cache_control") ||
    (request.streamOptions.any fun options => !options.extra.isEmpty) ||
    (request.messages.any fun message =>
      !contentIsSupported parser message.role message.content ||
        (message.extra.any fun field => field.1 ≠ "cache_control") ||
        message.toolCalls.any fun call => !call.extra.isEmpty || !call.function.extra.isEmpty) ||
    request.tools.any fun tool =>
      (tool.extra.any fun field => field.1 ≠ "cache_control") || !tool.function.extra.isEmpty

/-! ## Provider turns -/

inductive ContentPart where
  | text (text : String) (cacheControl : Bool)
  | image (url : String) (cacheControl : Bool)
  deriving DecidableEq, Repr

namespace ContentPart

def cacheControl : ContentPart → Bool
  | .text _ marked | .image _ marked => marked

def isImage : ContentPart → Bool
  | .image .. => true
  | .text .. => false

/-- The text of a text part. -/
def text? : ContentPart → Option String
  | .text words _ => some words
  | .image .. => none

end ContentPart

structure ChatMessage where
  role : String
  content : String
  cacheControl : Bool
  parts : List ContentPart
  deriving DecidableEq, Repr

namespace ChatMessage

/-- `ChatMessage::system`, `::user`, `::assistant`, `::tool`: a turn of text. -/
def ofText (role content : String) : ChatMessage :=
  { role, content, cacheControl := false, parts := [] }

def system : String → ChatMessage := ofText "system"
def user : String → ChatMessage := ofText "user"
def assistant : String → ChatMessage := ofText "assistant"
def tool : String → ChatMessage := ofText "tool"

/-- A user turn with structured content, and the text in it. -/
def userParts (parts : List ContentPart) : ChatMessage where
  role := "user"
  content := "\n".intercalate (parts.filterMap ContentPart.text?)
  cacheControl := false
  parts := parts

def withCacheBreakpoint (message : ChatMessage) : ChatMessage := { message with cacheControl := true }

def hasClientBreakpoint (message : ChatMessage) : Bool :=
  message.cacheControl || message.parts.any ContentPart.cacheControl

end ChatMessage

structure ToolSpec where
  name : String
  description : String
  parameters : Value
  cacheControl : Bool

section Packing

variable (json : SerdeJson)

/-- What one part of a content array is carried as. -/
def contentPart (part : Value) : Option ContentPart :=
  let cacheControl := (part.get "cache_control").isSome
  match part.str "type" with
  | some "text" => (part.str "text").map fun text => .text text cacheControl
  | some "image_url" =>
      ((part.get "image_url").bind (·.str "url")).map fun url => .image url cacheControl
  | _ => none

/-- `content_to_parts`: a text-only array with no breakpoint is its joined text. -/
def contentToParts : Value → Option (List ContentPart)
  | .array raw =>
      let parts := raw.filterMap contentPart
      if (raw.any fun part => (part.get "cache_control").isSome) || parts.any ContentPart.isImage then
        some parts
      else none
  | _ => none

/-- The text of a text part of a content array. -/
def partText (part : Value) : Option String :=
  match part.str "type" with
  | some "text" => part.str "text"
  | _ => none

def contentToText : Value → String
  | .string text => text
  | .array parts => "\n".intercalate (parts.filterMap partText)
  | .null => ""
  | other => json.toString other

/-- A tool call inside a packed assistant turn. -/
def packedCall (call : OpenAiToolCall) : Value :=
  .object
    [("arguments", .string call.function.arguments), ("id", .string call.id),
      ("name", .string call.function.name)]

/-- The JSON a message is packed as, when its turn is not the message's own text. -/
def packing (message : OpenAiMessage) : Option Value :=
  let content := Value.string (contentToText json message.content)
  if message.role = "assistant" ∧ message.toolCalls.isEmpty = false then
    some (.object
      [("content", content), ("reasoning_content", .ofOption message.reasoningContent),
        ("tool_calls", .array (message.toolCalls.map packedCall))])
  else if message.role = "assistant" ∧ message.reasoningContent.isSome then
    some (.object
      [("content", content), ("reasoning_content", .ofOption message.reasoningContent)])
  else if message.role = "tool" then
    some (.object
      [("content", content), ("name", .ofOption message.name),
        ("tool_call_id", .ofOption message.toolCallId)])
  else none

def toProviderMessage (message : OpenAiMessage) : ChatMessage :=
  match packing json message with
  | some packed =>
      if message.role = "tool" then .tool (json.toString packed)
      else .assistant (json.toString packed)
  | none =>
      match message.role with
      | "system" => .system (contentToText json message.content)
      | "assistant" => .assistant (contentToText json message.content)
      | _ =>
          match contentToParts message.content with
          | some parts => .userParts parts
          | none => .user (contentToText json message.content)

def ChatCompletionRequest.providerMessages (request : ChatCompletionRequest) : List ChatMessage :=
  request.messages.map fun message =>
    let turn := toProviderMessage json message
    if containsKey message.extra "cache_control" then turn.withCacheBreakpoint else turn

def ChatCompletionRequest.providerTools (request : ChatCompletionRequest) : List ToolSpec :=
  request.tools.map fun tool =>
    { name := tool.function.name
      description := tool.function.description
      parameters := tool.function.parameters
      cacheControl := containsKey tool.extra "cache_control" }

end Packing

/-! ## Reading a turn -/

inductive UserPart where
  | text (text : String)
  | base64Image (mediaType data : String)
  | urlImage (url : String)
  deriving DecidableEq, Repr

def UserPart.isText : UserPart → Bool
  | .text _ => true
  | .base64Image .. | .urlImage _ => false

def imagePart (url : String) : UserPart :=
  match base64DataUri url with
  | some (mediaType, data) => .base64Image mediaType data
  | none => .urlImage url

/-- A part of a user turn with its breakpoint; blank text is dropped. -/
def userPartCached : ContentPart → Option (UserPart × Bool)
  | .text text cacheControl => if isBlank text then none else some (.text text, cacheControl)
  | .image url cacheControl => some (imagePart url, cacheControl)

def userPartsCached (message : ChatMessage) : List (UserPart × Bool) :=
  if message.parts.isEmpty then
    if isBlank message.content then [] else [(.text message.content, false)]
  else message.parts.filterMap userPartCached

def userParts (message : ChatMessage) : List UserPart := (userPartsCached message).map (·.1)

/-- A tool call as it is read out of an envelope. -/
structure PackedCall where
  id : String
  name : String
  arguments : Option String
  deriving DecidableEq, Repr

/-- An assistant turn as every wire reads it: an envelope with the text and the calls
    in it, or plain text. -/
inductive AssistantTurn where
  | envelope (text : Option String) (calls : List PackedCall)
  | plain (text : String)
  deriving DecidableEq, Repr

section Opening

variable (json : SerdeJson)

/-- What the three builders do with an assistant turn's content, each in its own words:
    a JSON object with one of the packing's two keys is an envelope, whoever wrote it. -/
def openAssistant (content : String) : AssistantTurn :=
  match json.fromStr content with
  | some envelope =>
      if envelope.isObject ∧
          ((envelope.get "tool_calls").isSome ∨ (envelope.get "reasoning_content").isSome) then
        .envelope ((envelope.str "content").filter fun text => !isBlank text)
          ((((envelope.get "tool_calls").bind Value.asArray).getD []).map fun call =>
            { id := (call.str "id").getD ""
              name := (call.str "name").getD ""
              arguments := call.str "arguments" })
      else .plain content
  | none => .plain content

/-- What the three builders do with a tool turn's content: the call it answers and its
    output. -/
def openToolResult (content : String) : String × String :=
  ((json.fromStr content).bind fun envelope =>
    (envelope.str "tool_call_id").map fun callId =>
      (callId, (envelope.str "content").getD "")).getD ("", content)

end Opening

end ZeroRouter.Wire
