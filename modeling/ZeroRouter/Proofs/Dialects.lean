import ZeroRouter.Wire.Responses

/-!
# Two dialects, one conversation

What the Responses wire sends is what the chat-completions wire sends, said in the other dialect:
its input is what the turns hold, in their order, and its instructions are the system turns joined.
-/

namespace ZeroRouter.Wire

/-! ## A body in the other dialect -/

def ChatPart.asInput : ChatPart → InputPart
  | .text words => .inputText words
  | .imageUrl url => .inputImage url

def ChatContent.asInput : ChatContent → List InputPart
  | .text words => [.inputText words]
  | .parts several => several.map ChatPart.asInput

/-- What a turn holds, as items: an assistant turn's text and its calls are items of their own, and
    a system turn is none. -/
def ChatTurn.asInput : ChatTurn → List InputItem
  | .system _ => []
  | .user content => [.message .user content.asInput]
  | .assistant content toolCalls =>
      (content.toList.map fun text => .message .assistant [.outputText text]) ++
        toolCalls.map .functionCall
  | .tool toolCallId content => [.functionCallOutput toolCallId content]

def ChatTurn.instruction : ChatTurn → Option String
  | .system content => some content
  | _ => none

def ChatCompletionsBody.asResponses (body : ChatCompletionsBody) : ResponsesBody :=
  let instructions := "\n\n".intercalate (body.messages.filterMap ChatTurn.instruction)
  { model := body.model
    input := body.messages.flatMap ChatTurn.asInput
    stream := body.stream
    instructions := if instructions.toList.isEmpty then none else some instructions
    tools := body.tools
    toolChoice := body.toolChoice
    maxOutputTokens := body.maxTokens.map fun maxTokens => max maxTokens minOutputTokens
    temperature := body.temperature }

/-! ## Turn by turn -/

variable (json : SerdeJson)

theorem inputPart_eq (part : UserPart) : inputPart part = (chatPart part).asInput := by
  cases part <;> rfl

theorem userItem_eq (message : ChatMessage) :
    userItem message = .message .user (chatUserContent message).asInput := by
  unfold userItem chatUserContent
  split
  · rfl
  · dsimp only
    split
    · rfl
    · rw [ChatContent.asInput, List.map_map]
      exact congrArg (InputItem.message .user)
        (List.map_congr_left fun part _ => inputPart_eq part)

/-- An envelope with neither text nor calls is no turn of the one and no item of the other. -/
theorem inputItems_eq (message : ChatMessage) :
    inputItems json message = (chatTurns json message).flatMap ChatTurn.asInput := by
  unfold inputItems chatTurns
  split
  · next user =>
      simp only [user]
      exact (congrArg (fun item => [item]) (userItem_eq message)).trans (List.append_nil _).symm
  · next assistant =>
      simp only [assistant]
      cases openAssistant json message.content with
      | plain text => rfl
      | envelope text calls =>
          dsimp only
          split
          · next contentless =>
              obtain ⟨no_text, no_calls⟩ := contentless
              rw [Option.isNone_iff_eq_none.mp no_text, List.isEmpty_iff.mp no_calls]
              rfl
          · rw [List.flatMap_singleton, ChatTurn.asInput, List.map_map]
            rfl
  · next tool =>
      simp only [tool]
      rfl
  · next not_user not_assistant not_tool =>
      split
      · rfl
      · next user => exact absurd user not_user
      · next assistant => exact absurd assistant not_assistant
      · next tool => exact absurd tool not_tool
      · rfl

theorem instruction_eq (message : ChatMessage) :
    (chatTurns json message).filterMap ChatTurn.instruction =
      if message.role = "system" then [message.content] else [] := by
  unfold chatTurns
  split
  · next system => simp [system, ChatTurn.instruction]
  · next user => simp [user, ChatTurn.instruction]
  · next assistant =>
      simp only [assistant]
      cases openAssistant json message.content with
      | plain text => rfl
      | envelope text calls =>
          dsimp only
          split
          · rfl
          · rfl
  · next tool => simp [tool, ChatTurn.instruction]
  · next not_system _ _ _ => rw [if_neg not_system, List.filterMap_nil]

theorem instructions_eq (messages : List ChatMessage) :
    (buildChatCompletionsMessages json messages).filterMap ChatTurn.instruction =
      (messages.filter (·.role = "system")).map ChatMessage.content := by
  induction messages with
  | nil => rfl
  | cons message rest ih =>
      unfold buildChatCompletionsMessages at ih ⊢
      rw [List.flatMap_cons, List.filterMap_append, ih, instruction_eq]
      by_cases system : message.role = "system"
      · simp [system]
      · simp [system]

/-- Every request: the body of the Responses wire is that of the chat-completions wire in the
    other dialect, its ceiling raised to the least the API accepts. -/
theorem responses_body_says_chat_body (maxTokens : Option Nat) (model : String)
    (messages : List ChatMessage) (tools : Option (List ToolSpec)) (temperature : Option F64)
    (stream : Bool) :
    responsesRequestBody json maxTokens model messages tools temperature stream =
      (chatCompletionsRequestBody json maxTokens model messages tools temperature
        stream).asResponses := by
  have input : messages.flatMap (inputItems json) =
      (buildChatCompletionsMessages json messages).flatMap ChatTurn.asInput := by
    rw [buildChatCompletionsMessages, List.flatMap_assoc]
    exact List.flatMap_congr fun message _ => inputItems_eq json message
  have instructions : joinedSystem messages = "\n\n".intercalate
      ((buildChatCompletionsMessages json messages).filterMap ChatTurn.instruction) := by
    rw [instructions_eq, joinedSystem]
  unfold responsesRequestBody buildResponsesInput
  rw [input, instructions]
  rfl

end ZeroRouter.Wire
