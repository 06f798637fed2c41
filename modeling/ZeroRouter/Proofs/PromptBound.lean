import ZeroRouter.Wire.Bound
import Mathlib.Algebra.Order.BigOperators.Group.List

/-!
# The prompt bound covers what is forwarded

`reservation_usage` adds up the client's JSON; the turns are a re-encoding of it.  The bound is the
saturation of an exact sum, and a message's share of that sum covers the text of its turn, by the
shapes a content can take and the envelopes a message can be packed in.

That printed JSON is no shorter than the strings in it is `serde_json`'s, and a hypothesis.
-/

namespace ZeroRouter

open List

/-! ## The sum that saturates -/

theorem u64SaturatingAdd_min (a b : Nat) :
    u64SaturatingAdd (min a u64Max) (min b u64Max) = min (a + b) u64Max := by
  unfold u64SaturatingAdd
  omega

theorem saturatingSum_min (start : Nat) (terms : List Nat) :
    saturatingSum (min start u64Max) (terms.map (min · u64Max)) =
      min (start + terms.sum) u64Max := by
  unfold saturatingSum
  induction terms generalizing start with
  | nil => simp
  | cons term terms ih =>
      rw [map_cons, foldl_cons, u64SaturatingAdd_min, ih, sum_cons, Nat.add_assoc]

/-- A fold each of whose steps saturates by a size is the sum of the sizes, saturated once. -/
theorem foldl_saturating {α : Type} {step : Nat → α → Nat} {size : α → Nat}
    (h : ∀ start item, step (min start u64Max) item = min (start + size item) u64Max)
    (start : Nat) (items : List α) :
    items.foldl step (min start u64Max) = min (start + (items.map size).sum) u64Max := by
  induction items generalizing start with
  | nil => simp
  | cons item items ih =>
      rw [foldl_cons, h, ih, map_cons, sum_cons, Nat.add_assoc]

namespace MessageContent

/-- The bytes of a content, without the width of a counter. -/
def size : MessageContent → Nat
  | .null => 0
  | .text value => value.utf8ByteSize
  | .parts serialized _ => serialized.utf8ByteSize

end MessageContent

def optionSize (value : Option String) : Nat := value.elim 0 String.utf8ByteSize

def OpenAiToolCall.size (call : OpenAiToolCall) : Nat :=
  64 + (call.id.utf8ByteSize + (call.name.utf8ByteSize + call.arguments.utf8ByteSize))

def OpenAiMessage.size (message : OpenAiMessage) : Nat :=
  64 + (message.role.utf8ByteSize + (message.content.size + (optionSize message.toolCallId +
    (optionSize message.name + optionSize message.reasoningContent)))) +
      (message.toolCalls.map OpenAiToolCall.size).sum

def OpenAiTool.size (tool : OpenAiTool) : Nat :=
  128 + (tool.name.utf8ByteSize + (tool.description.utf8ByteSize + tool.parameters.size))

/-- The sum `reservation_usage` saturates. -/
def ChatCompletionRequest.size (request : ChatCompletionRequest) : Nat :=
  (request.messages.map OpenAiMessage.size).sum + (request.tools.map OpenAiTool.size).sum +
    (imageUrls request.messages).length * maxImagePromptTokens

theorem optionSize_min (value : Option String) :
    value.elim 0 byteLen = min (optionSize value) u64Max := by
  cases value with
  | none => rfl
  | some value => rfl

theorem valueByteLen_min (content : MessageContent) :
    valueByteLen content = min content.size u64Max := by
  cases content <;> rfl

theorem sixtyFour_min : 64 = min 64 u64Max := by decide

theorem oneTwoEight_min : 128 = min 128 u64Max := by decide

/-- The prompt bound is the exact sum, saturated. -/
theorem reservationUsage_prompt (request : ChatCompletionRequest) (maxOutputTokens : Nat) :
    (request.reservationUsage maxOutputTokens).promptTokens = min request.size u64Max := by
  have calls : ∀ start (call : OpenAiToolCall),
      saturatingSum (min start u64Max)
          [64, byteLen call.id, byteLen call.name, byteLen call.arguments] =
        min (start + call.size) u64Max := by
    intro start call
    have := saturatingSum_min start
      [64, call.id.utf8ByteSize, call.name.utf8ByteSize, call.arguments.utf8ByteSize]
    simpa [OpenAiToolCall.size, byteLen, ← sixtyFour_min] using this
  have messages : ∀ start (message : OpenAiMessage),
      message.toolCalls.foldl (fun bound call =>
          saturatingSum bound [64, byteLen call.id, byteLen call.name, byteLen call.arguments])
        (saturatingSum (min start u64Max)
          [64, byteLen message.role, valueByteLen message.content,
            message.toolCallId.elim 0 byteLen, message.name.elim 0 byteLen,
            message.reasoningContent.elim 0 byteLen]) =
      min (start + message.size) u64Max := by
    intro start message
    have := saturatingSum_min start
      [64, message.role.utf8ByteSize, message.content.size, optionSize message.toolCallId,
        optionSize message.name, optionSize message.reasoningContent]
    have head : saturatingSum (min start u64Max)
          [64, byteLen message.role, valueByteLen message.content,
            message.toolCallId.elim 0 byteLen, message.name.elim 0 byteLen,
            message.reasoningContent.elim 0 byteLen] =
        min (start + (64 + (message.role.utf8ByteSize + (message.content.size +
          (optionSize message.toolCallId + (optionSize message.name +
            optionSize message.reasoningContent)))))) u64Max := by
      simpa [byteLen, ← sixtyFour_min, optionSize_min, valueByteLen_min] using this
    rw [head, foldl_saturating calls]
    simp only [OpenAiMessage.size, Nat.add_assoc]
  have tools : ∀ start (tool : OpenAiTool),
      saturatingSum (min start u64Max)
          [128, byteLen tool.name, byteLen tool.description, valueByteLen tool.parameters] =
        min (start + tool.size) u64Max := by
    intro start tool
    have := saturatingSum_min start
      [128, tool.name.utf8ByteSize, tool.description.utf8ByteSize, tool.parameters.size]
    simpa [OpenAiTool.size, byteLen, ← oneTwoEight_min, valueByteLen_min] using this
  unfold ChatCompletionRequest.reservationUsage
  have zero : 0 = min 0 u64Max := by decide
  simp only
  rw [zero, foldl_saturating messages, foldl_saturating tools, u64SaturatingAdd_min]
  simp only [ChatCompletionRequest.size, Nat.zero_add]

theorem size_append (request : ChatCompletionRequest) (messages : List OpenAiMessage)
    (tools : List OpenAiTool) :
    request.size ≤ ChatCompletionRequest.size
      { messages := request.messages ++ messages, tools := request.tools ++ tools } := by
  simp only [ChatCompletionRequest.size, imageUrls, map_append, sum_append,
    filter_append, flatMap_append, length_append, Nat.add_mul]
  omega

end ZeroRouter

namespace ZeroRouter.Wire

open Relational

variable {key text : String} {part value : Value} {message : OpenAiMessage}
  {fields : List (String × Value)} {α : Type} {request : ChatCompletionRequest}

/-! ## Strings in a value -/

/-- What `serde_json` prints is no shorter than the strings it prints. -/
def PrintsStrings (json : SerdeJson) : Prop :=
  ∀ value, stringBytes value ≤ (json.toString value).utf8ByteSize

theorem fieldBytes_lookup (h : fields.lookup key = some value) :
    stringBytes value ≤ fieldBytes fields := by
  induction fields with
  | nil => cases h
  | cons field fields ih =>
      obtain ⟨name, first⟩ := field
      rw [List.lookup_cons] at h
      simp only [fieldBytes]
      split at h
      · cases h
        omega
      · have := ih h
        omega

/-- Two fields are two summands. -/
theorem fieldBytes_lookups {other : String} {another : Value} (distinct : key ≠ other)
    (h : fields.lookup key = some value) (h' : fields.lookup other = some another) :
    stringBytes value + stringBytes another ≤ fieldBytes fields := by
  induction fields with
  | nil => cases h
  | cons field fields ih =>
      obtain ⟨name, first⟩ := field
      rw [List.lookup_cons] at h h'
      simp only [fieldBytes]
      by_cases hk : key = name
      · have hother : (other == name) = false := by
          rw [beq_eq_false_iff_ne, ← hk]
          exact distinct.symm
        rw [hother] at h'
        rw [show (key == name) = true by simp [hk]] at h
        cases h
        have := fieldBytes_lookup h'
        omega
      · rw [show (key == name) = false by simp [hk]] at h
        by_cases ho : other = name
        · rw [show (other == name) = true by simp [ho]] at h'
          cases h'
          have := fieldBytes_lookup h
          omega
        · rw [show (other == name) = false by simp [ho]] at h'
          have := ih h h'
          omega

theorem lookup_of_str (h : part.str key = some text) :
    ∃ fields, part = .object fields ∧ fields.lookup key = some (.string text) := by
  obtain ⟨value, found, str⟩ := Option.bind_eq_some_iff.mp h
  cases part with
  | object fields =>
      cases value with
      | string text' =>
          cases str
          exact ⟨fields, rfl, found⟩
      | _ => cases str
  | _ => cases found

/-- A text part is longer than its text, by its own tag. -/
theorem partText_bytes (h : partText part = some text) :
    text.utf8ByteSize + 1 ≤ stringBytes part := by
  unfold partText at h
  split at h
  · next tagged =>
      obtain ⟨fields, rfl, tag⟩ := lookup_of_str tagged
      obtain ⟨fields', same, found⟩ := lookup_of_str h
      cases same
      have both := fieldBytes_lookups (by decide) tag found
      have four : ("text" : String).utf8ByteSize = 4 := by decide
      simp only [stringBytes, four] at both ⊢
      omega
  · cases h

theorem contentPart_bytes {carried : ContentPart} (h : contentPart part = some carried) :
    carried.words.utf8ByteSize ≤ stringBytes part := by
  unfold contentPart at h
  split at h
  · obtain ⟨text, found, rfl⟩ := Option.map_eq_some_iff.mp h
    obtain ⟨fields, rfl, at_text⟩ := lookup_of_str found
    exact fieldBytes_lookup at_text
  · obtain ⟨url, found, rfl⟩ := Option.map_eq_some_iff.mp h
    obtain ⟨image, outer, inner⟩ := Option.bind_eq_some_iff.mp found
    obtain ⟨fields, rfl, at_url⟩ := lookup_of_str inner
    have := fieldBytes_lookup at_url
    cases part with
    | object outerFields => exact this.trans (fieldBytes_lookup outer)
    | _ => cases outer
  · cases h

/-! ## A content -/

theorem join_bytes (texts : List String) :
    ("\n".intercalate texts).utf8ByteSize ≤ (texts.map (·.utf8ByteSize + 1)).sum := by
  induction texts with
  | nil => simp
  | cons text texts ih =>
      cases texts with
      | nil => simp
      | cons next texts =>
          have newline : ("\n" : String).utf8ByteSize = 1 := by decide
          rw [String.intercalate_cons_cons, String.utf8ByteSize_append,
            String.utf8ByteSize_append, newline, List.map_cons, List.sum_cons]
          omega

/-- What a filter of the parts reads of them is no longer than they are. -/
theorem sum_filterMap_le {read : Value → Option α} {size : α → Nat}
    (h : ∀ part carried, read part = some carried → size carried ≤ stringBytes part)
    (parts : List Value) : ((parts.filterMap read).map size).sum ≤ itemBytes parts := by
  induction parts with
  | nil => simp
  | cons part parts ih =>
      rw [List.filterMap_cons]
      simp only [itemBytes]
      cases hread : read part with
      | none =>
          simp only
          omega
      | some carried =>
          have := h part carried hread
          simp only [List.map_cons, List.sum_cons]
          omega

section Content

variable {json : SerdeJson} (prints : PrintsStrings json)

include prints

theorem contentToText_bytes (content : Value) :
    (contentToText json content).utf8ByteSize ≤ (measured json content).size := by
  cases content with
  | array parts =>
      have joined := join_bytes (parts.filterMap partText)
      have covered : ((parts.filterMap partText).map (·.utf8ByteSize + 1)).sum ≤ itemBytes parts :=
        sum_filterMap_le (fun _ _ => partText_bytes) parts
      have printed := prints (.array parts)
      simp only [stringBytes] at printed
      simp only [contentToText, measured, MessageContent.size]
      omega
  | _ => simp [contentToText, measured, MessageContent.size]

theorem contentToParts_bytes {content : Value} {parts : List ContentPart}
    (h : contentToParts content = some parts) :
    (parts.map (·.words.utf8ByteSize)).sum ≤ (measured json content).size ∧
      ("\n".intercalate (parts.filterMap ContentPart.text?)).utf8ByteSize ≤
        (measured json content).size := by
  unfold contentToParts at h
  split at h
  · next raw =>
      simp only [Option.ite_none_right_eq_some] at h
      obtain ⟨-, same⟩ := h
      cases same
      have printed := prints (.array raw)
      simp only [stringBytes] at printed
      have texts : (raw.filterMap contentPart).filterMap ContentPart.text? =
          raw.filterMap partText := by
        rw [List.filterMap_filterMap]
        congr 1
        funext part
        unfold contentPart partText
        split <;> rename_i tagged <;> simp only [tagged]
        · cases part.str "text" <;> rfl
        · cases (part.get "image_url").bind (·.str "url") <;> rfl
        · simp
      constructor
      · have covered :
            ((raw.filterMap contentPart).map (·.words.utf8ByteSize)).sum ≤ itemBytes raw :=
          sum_filterMap_le (fun _ _ => contentPart_bytes) raw
        simp only [measured, MessageContent.size]
        omega
      · rw [texts]
        exact contentToText_bytes prints (.array raw)
  · cases h

end Content

/-! ## A message -/

theorem stringBytes_ofOption (value : Option String) :
    stringBytes (.ofOption value) = optionSize value := by
  cases value <;> rfl

theorem itemBytes_map (write : α → Value) (items : List α) :
    itemBytes (items.map write) = (items.map fun item => stringBytes (write item)).sum := by
  induction items with
  | nil => rfl
  | cons item items ih => simp [itemBytes, ih]

section Message

variable {json : SerdeJson} (prints : PrintsStrings json)

include prints

/-- The envelope of a packed message holds its content and its own strings. -/
theorem packing_bytes {packed : Value} (h : packing json message = some packed) :
    64 + stringBytes packed ≤ (message.measured json).size := by
  have content := contentToText_bytes prints message.content
  have calls : itemBytes (message.toolCalls.map packedCall) ≤
      ((message.measured json).toolCalls.map OpenAiToolCall.size).sum := by
    rw [itemBytes_map, OpenAiMessage.measured, List.map_map]
    apply List.sum_le_sum
    intro call _
    simp only [packedCall, stringBytes, fieldBytes, Function.comp_apply,
      ZeroRouter.OpenAiToolCall.size]
    omega
  have sized : (message.measured json).size =
      64 + (message.role.utf8ByteSize + ((measured json message.content).size +
        (optionSize message.toolCallId + (optionSize message.name +
          optionSize message.reasoningContent)))) +
        ((message.measured json).toolCalls.map OpenAiToolCall.size).sum := rfl
  unfold packing at h
  simp only at h
  split at h
  · cases h
    simp only [stringBytes, fieldBytes, stringBytes_ofOption]
    omega
  · split at h
    · cases h
      simp only [stringBytes, fieldBytes, stringBytes_ofOption]
      omega
    · split at h
      · cases h
        simp only [stringBytes, fieldBytes, stringBytes_ofOption]
        omega
      · cases h

/-- What a message that is not packed hands on is its content. -/
theorem unpacked_bytes (h : packing json message = none) :
    (toProviderMessage json message).content.utf8ByteSize ≤
        (measured json message.content).size ∧
      ((toProviderMessage json message).parts.map (·.words.utf8ByteSize)).sum ≤
        (measured json message.content).size := by
  have text := contentToText_bytes prints message.content
  unfold toProviderMessage
  rw [h]
  simp only
  split
  · exact ⟨text, Nat.zero_le _⟩
  · exact ⟨text, Nat.zero_le _⟩
  · split
    · next parts structured =>
        obtain ⟨carried, joined⟩ := contentToParts_bytes prints structured
        exact ⟨joined, carried⟩
    · exact ⟨text, Nat.zero_le _⟩

omit prints in
theorem role_bytes (message : OpenAiMessage) :
    (toProviderMessage json message).role.utf8ByteSize ≤ 64 := by
  have roles : ("tool" : String).utf8ByteSize ≤ 64 ∧ ("assistant" : String).utf8ByteSize ≤ 64 ∧
      ("system" : String).utf8ByteSize ≤ 64 ∧ ("user" : String).utf8ByteSize ≤ 64 := by decide
  obtain ⟨tool, assistant, system, user⟩ := roles
  unfold toProviderMessage
  split
  · split
    · exact tool
    · exact assistant
  · split
    · exact system
    · exact assistant
    · split
      · exact user
      · exact user

/-- A message's share of the bound covers the text of its turn. -/
theorem handedBytes_le (message : OpenAiMessage) :
    handedBytes json message ≤ (message.measured json).size := by
  have role : (toProviderMessage json message).role.utf8ByteSize ≤ 64 := role_bytes message
  unfold handedBytes textBytes
  simp only
  cases h : packing json message with
  | some packed =>
      have := packing_bytes prints h
      simp only
      omega
  | none =>
      obtain ⟨content, parts⟩ := unpacked_bytes prints h
      have sized : (measured json message.content).size + 64 ≤ (message.measured json).size := by
        simp only [OpenAiMessage.measured, ZeroRouter.OpenAiMessage.size]
        omega
      simp only
      omega

end Message

/-! ## Images -/

theorem isImage_contentPart (part : Value) :
    ((contentPart part).map ContentPart.isImage).getD false = (imageUrl part).isSome := by
  unfold contentPart imageUrl
  split
  · next tagged =>
      simp only [tagged]
      cases part.str "text" <;> rfl
  · next tagged =>
      simp only [tagged]
      cases (part.get "image_url").bind (·.str "url") <;> rfl
  · next notText notImage =>
      split
      · next tagged => exact absurd tagged notImage
      · rfl

/-- The image parts of a content are those `image_urls` finds in it. -/
theorem images_eq (raw : List Value) :
    (raw.filterMap contentPart).countP ContentPart.isImage = (raw.filterMap imageUrl).length := by
  rw [List.countP_filterMap, List.length_filterMap_eq_countP]
  apply List.countP_congr
  intro part _
  rw [isImage_contentPart]

/-- The URLs `image_urls` takes from one message. -/
def messageUrls (json : SerdeJson) (message : OpenAiMessage) : List String :=
  imageUrls [message.measured json]

theorem imageUrls_cons (message : ZeroRouter.OpenAiMessage)
    (messages : List ZeroRouter.OpenAiMessage) :
    imageUrls (message :: messages) = imageUrls [message] ++ imageUrls messages := by
  unfold imageUrls
  rw [← List.flatMap_append, ← List.filter_append]
  rfl

theorem imageUrls_measured (json : SerdeJson) (messages : List OpenAiMessage) :
    (imageUrls (messages.map (OpenAiMessage.measured json))).length =
      (messages.map fun message => (messageUrls json message).length).sum := by
  induction messages with
  | nil => rfl
  | cons message messages ih =>
      rw [List.map_cons, imageUrls_cons, List.length_append, ih, List.map_cons, List.sum_cons,
        messageUrls]

/-- An image reaches a turn from a user's content alone. -/
theorem handedImages_le (json : SerdeJson)
    (role : message.role ∈ ["system", "user", "assistant", "tool"]) :
    handedImages json message ≤ (messageUrls json message).length := by
  unfold handedImages toProviderMessage
  split
  · split <;> exact Nat.zero_le _
  · next unpacked =>
      split
      · exact Nat.zero_le _
      · exact Nat.zero_le _
      · next notSystem notAssistant =>
          split
          · next parts structured =>
              have user : message.role = "user" := by
                rcases List.mem_cons.mp role with system | role
                · exact absurd system notSystem
                rcases List.mem_cons.mp role with user | role
                · exact user
                rcases List.mem_cons.mp role with assistant | role
                · exact absurd assistant notAssistant
                have tool : message.role = "tool" := by simpa using role
                unfold packing at unpacked
                simp [tool] at unpacked
              unfold contentToParts at structured
              split at structured
              · next raw hcontent =>
                  simp only [Option.ite_none_right_eq_some] at structured
                  obtain ⟨-, same⟩ := structured
                  cases same
                  have urls : messageUrls json message = raw.filterMap imageUrl := by
                    simp [messageUrls, imageUrls, OpenAiMessage.measured, measured, user, hcontent]
                  rw [urls]
                  exact (images_eq raw).le
              · cases structured
          · exact Nat.zero_le _

/-! ## The request -/

section Request

variable {json : SerdeJson} (prints : PrintsStrings json)

include prints

/-- The exact sum covers every turn and tool, and every image on top of its bytes. -/
theorem handed_le_size
    (roles : ∀ message ∈ request.messages, message.role ∈ ["system", "user", "assistant", "tool"]) :
    request.handedBytes json + request.handedImages json * maxImagePromptTokens ≤
      (request.measured json).size := by
  have messages : (request.messages.map (handedBytes json)).sum ≤
      ((request.measured json).messages.map ZeroRouter.OpenAiMessage.size).sum := by
    rw [ChatCompletionRequest.measured, List.map_map]
    exact List.sum_le_sum fun message _ => handedBytes_le prints message
  have tools : (request.providerTools.map (toolBytes json)).sum ≤
      ((request.measured json).tools.map ZeroRouter.OpenAiTool.size).sum := by
    rw [ChatCompletionRequest.measured, ChatCompletionRequest.providerTools, List.map_map,
      List.map_map]
    apply List.sum_le_sum
    intro tool _
    have schema : schemaBytes json tool.function.parameters =
        (measured json tool.function.parameters).size := by
      cases tool.function.parameters <;> rfl
    simp only [Function.comp_apply, toolBytes, schema, OpenAiTool.measured,
      ZeroRouter.OpenAiTool.size]
    omega
  have images : request.handedImages json ≤
      (imageUrls (request.measured json).messages).length := by
    rw [ChatCompletionRequest.measured, imageUrls_measured]
    exact List.sum_le_sum fun message mem => handedImages_le json (roles message mem)
  have weighed := Nat.mul_le_mul_right maxImagePromptTokens images
  unfold ChatCompletionRequest.handedBytes ZeroRouter.ChatCompletionRequest.size
  omega

end Request

theorem roles_of_validate (valid : request.validate = .ok ()) :
    ∀ message ∈ request.messages, message.role ∈ ["system", "user", "assistant", "tool"] := by
  unfold ChatCompletionRequest.validate at valid
  obtain ⟨_, -, valid⟩ := bind_eq_ok.mp valid
  obtain ⟨_, -, valid⟩ := bind_eq_ok.mp valid
  obtain ⟨_, roles, -⟩ := bind_eq_ok.mp valid
  exact ensure_eq_ok.mp roles

/-- The prompt bound covers the bytes a valid request hands upstream and each image on top of
    them; it never decreases as messages or tools are appended; and where the sum passes the
    counter's range it stands at the top of it. -/
theorem prompt_bound_covers {json : SerdeJson} (prints : PrintsStrings json)
    {request : ChatCompletionRequest} (valid : request.validate = .ok ()) (maxOutputTokens : Nat) :
    let bound := (request.reservationUsage json maxOutputTokens).promptTokens
    min (request.handedBytes json + request.handedImages json * maxImagePromptTokens) u64Max ≤
        bound ∧
      bound ≤ u64Max ∧
      ∀ messages tools, bound ≤
        (ChatCompletionRequest.reservationUsage json
          { request with
            messages := request.messages ++ messages
            tools := request.tools ++ tools } maxOutputTokens).promptTokens := by
  simp only [ChatCompletionRequest.reservationUsage, reservationUsage_prompt]
  have covered := handed_le_size prints (roles_of_validate valid)
  refine ⟨by omega, Nat.min_le_right _ _, fun messages tools => ?_⟩
  have grown := size_append (request.measured json) (messages.map (OpenAiMessage.measured json))
    (tools.map (OpenAiTool.measured json))
  simp only [ChatCompletionRequest.measured, List.map_append] at grown ⊢
  omega

/-! ## A printer -/

mutual

/-- What `serde_json` prints of a value whose strings need no escapes. -/
def printValue : Value → String
  | .null => "null"
  | .bool true => "true"
  | .bool false => "false"
  | .integer value => toString value
  | .float text => text
  | .string text => "\"" ++ text ++ "\""
  | .array items => "[" ++ printItems items ++ "]"
  | .object fields => "\x7b" ++ printFields fields ++ "\x7d"

def printItems : List Value → String
  | [] => ""
  | item :: items => printValue item ++ (if items.isEmpty then "" else ",") ++ printItems items

def printFields : List (String × Value) → String
  | [] => ""
  | (key, value) :: fields =>
      "\"" ++ key ++ "\":" ++ printValue value ++ (if fields.isEmpty then "" else ",") ++
        printFields fields

end

def plainJson : SerdeJson where
  fromStr _ := none
  toString := printValue

mutual

theorem printValue_bytes : ∀ value, stringBytes value ≤ (printValue value).utf8ByteSize
  | .null | .bool _ | .integer _ | .float _ => Nat.zero_le _
  | .string text => by
      simp only [stringBytes, printValue, String.utf8ByteSize_append]
      omega
  | .array items => by
      have := printItems_bytes items
      simp only [stringBytes, printValue, String.utf8ByteSize_append]
      omega
  | .object fields => by
      have := printFields_bytes fields
      simp only [stringBytes, printValue, String.utf8ByteSize_append]
      omega

theorem printItems_bytes : ∀ items, itemBytes items ≤ (printItems items).utf8ByteSize
  | [] => Nat.zero_le _
  | item :: items => by
      have first := printValue_bytes item
      have rest := printItems_bytes items
      simp only [itemBytes, printItems, String.utf8ByteSize_append]
      omega

theorem printFields_bytes : ∀ fields, fieldBytes fields ≤ (printFields fields).utf8ByteSize
  | [] => Nat.zero_le _
  | (key, value) :: fields => by
      have first := printValue_bytes value
      have rest := printFields_bytes fields
      simp only [fieldBytes, printFields, String.utf8ByteSize_append]
      omega

end

/-- A user's words and image, the call the model answered them with, and its result. -/
def boundedRequest : ChatCompletionRequest where
  model := "zero/vision"
  messages :=
    [{ role := "user"
       content := .array
         [.object [("text", .string "what is this"), ("type", .string "text")],
           .object [("image_url", .object [("url", .string "https://example.com/a.png")]),
             ("type", .string "image_url")]]
       toolCalls := [], toolCallId := none, name := none, reasoningContent := none, extra := [] },
      { role := "assistant", content := .null
        toolCalls := [{ id := "call_1", kind := "function", extra := []
                        function := { name := "zoom", arguments := "[2]", extra := [] } }]
        toolCallId := none, name := none, reasoningContent := some "look closer", extra := [] },
      { role := "tool", content := .string "a cat", toolCalls := [], toolCallId := some "call_1"
        name := none, reasoningContent := none, extra := [] }]
  stream := false
  temperature := none
  maxTokens := none
  tools := [{ kind := "function", extra := []
              function := { name := "zoom", description := "enlarge", parameters := .object []
                            extra := [] } }]
  toolChoice := none
  streamOptions := none
  extra := []

theorem prompt_bound_covers_an_image_and_a_call :
    boundedRequest.handedImages plainJson = 1 ∧
      min (boundedRequest.handedBytes plainJson +
          boundedRequest.handedImages plainJson * maxImagePromptTokens) u64Max ≤
        (boundedRequest.reservationUsage plainJson 100).promptTokens := by
  have prints : PrintsStrings plainJson := printValue_bytes
  exact ⟨rfl, (prompt_bound_covers prints rfl 100).1⟩

end ZeroRouter.Wire
