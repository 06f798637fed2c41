import ZeroRouter.Proofs.Turns
import ZeroRouter.Wire.Caching

/-!
# Where the breakpoints of a request land

A body takes either the client's marks or the wire's three defaults, by the messages and
tools that are sent.  So it is right about a request's breakpoints exactly when the
request has none, or one of them is still there to be seen, or there is no block a default
could land on.
-/

namespace ZeroRouter.Wire

open Bool List Relational

variable {body : MessagesBody} {message : ChatMessage} {request : ChatCompletionRequest}
  {sent : List ChatMessage}

/-! ## Marks, counted -/

/-- How many blocks of a row carry a breakpoint. -/
def rowMarks (row : List (MessageRole × Block)) : Nat := row.countP (·.2.cacheControl)

@[simp] theorem rowMarks_append (row later : List (MessageRole × Block)) :
    rowMarks (row ++ later) = rowMarks row + rowMarks later :=
  countP_append

theorem rowMarks_markEnd_le (row : List (MessageRole × Block)) :
    rowMarks (markEnd row) ≤ rowMarks row + 1 := by
  obtain rfl | ⟨first, last, rfl⟩ := eq_nil_or_concat' row
  · simp [rowMarks]
  · rw [markEnd_concat, rowMarks_append, rowMarks_append]
    have : rowMarks [(last.1, { last.2 with cacheControl := true })] = 1 := rfl
    omega

theorem rowMarks_flatMap_le {α : Type} (items : List α) (row : α → List (MessageRole × Block))
    (bound : α → Nat) (h : ∀ item ∈ items, rowMarks (row item) ≤ bound item) :
    rowMarks (items.flatMap row) ≤ (items.map bound).sum := by
  induction items with
  | nil => simp [rowMarks]
  | cons item items ih =>
      rw [forall_mem_cons] at h
      have := ih h.2
      have := h.1
      rw [flatMap_cons, rowMarks_append, map_cons, sum_cons]
      omega

/-- The breakpoints a turn carries, on itself and on its parts. -/
def ChatMessage.marks (message : ChatMessage) : Nat :=
  message.cacheControl.toNat + message.parts.countP ContentPart.cacheControl

theorem marks_eq_zero :
    message.marks = 0 ↔ message.hasClientBreakpoint = false := by
  simp [ChatMessage.marks, ChatMessage.hasClientBreakpoint]

theorem userPartsCached_marks (message : ChatMessage) :
    (userPartsCached message).countP (·.2) ≤ message.parts.countP ContentPart.cacheControl := by
  unfold userPartsCached
  split_ifs
  · simp
  · simp
  · induction message.parts with
    | nil => simp
    | cons part parts ih =>
        cases part with
        | image url marked =>
            simp only [filterMap_cons, userPartCached, countP_cons]
            exact Nat.add_le_add_right ih _
        | text words marked =>
            by_cases hblank : isBlank words = true
            · simp only [filterMap_cons, userPartCached, hblank, if_true, countP_cons]
              omega
            · simp only [filterMap_cons, userPartCached, if_neg hblank, countP_cons]
              exact Nat.add_le_add_right ih _

theorem contributions_marks (json : SerdeJson) (message : ChatMessage) :
    rowMarks (contributions json message) ≤ message.parts.countP ContentPart.cacheControl := by
  unfold contributions
  split
  · have hrow : ∀ parts : List (UserPart × Bool), rowMarks (parts.map fun part =>
        (MessageRole.user, ({ content := blockOf part.1, cacheControl := part.2 } : Block))) =
          parts.countP (·.2) := by
      intro parts
      rw [rowMarks, countP_map]
      rfl
    rw [hrow]
    exact userPartsCached_marks message
  · split
    · have hnone : ∀ (texts : List String) (calls : List PackedCall), rowMarks
          ((texts.map fun text => (MessageRole.assistant, Block.of (.text text))) ++
            calls.map fun call => (MessageRole.assistant,
              Block.of (.toolUse call.id call.name (toolInput json call.arguments)))) = 0 := by
        intro texts calls
        simp [rowMarks, countP_eq_zero, Block.of]
      rw [hnone]
      omega
    · split_ifs <;> simp [rowMarks, Block.of]
  · simp [rowMarks, Block.of]
  · simp [rowMarks]

theorem contributed_marks (json : SerdeJson) (message : ChatMessage) :
    rowMarks (contributed json message) ≤ message.marks := by
  have own := contributions_marks json message
  unfold contributed ChatMessage.marks
  split_ifs with hmark
  · have := rowMarks_markEnd_le (contributions json message)
    rw [hmark, toNat_true]
    omega
  · omega

theorem contributed_system (json : SerdeJson) (h : message.role = "system") :
    contributed json message = [] := by
  simp [contributed, contributions, h]

/-- A turn the client did not mark contributes no mark. -/
theorem contributed_unmarked (json : SerdeJson) (h : message.hasClientBreakpoint = false) :
    contributed json message = contributions json message ∧
      rowMarks (contributions json message) = 0 := by
  have hzero := marks_eq_zero.mpr h
  have hself : message.cacheControl = false := by
    unfold ChatMessage.hasClientBreakpoint at h
    simp only [or_eq_false_iff] at h
    exact h.1
  have := contributions_marks json message
  unfold ChatMessage.marks at hzero
  exact ⟨by simp [contributed, hself], by omega⟩

theorem synthesized_marks (sent : List SentTurn) :
    rowMarks (flat (sent.map SentTurn.turn)) = rowMarks (flat (sent.map SentTurn.own)) := by
  induction sent with
  | nil => rfl
  | cons entry sent ih =>
      have hempty : rowMarks ((entry.synthesized.map fun id => Block.of (.toolResult id none)).map
          (entry.role, ·)) = 0 := by
        simp [rowMarks, countP_eq_zero, Block.of]
      rw [map_cons, map_cons, flat_cons, flat_cons, rowMarks_append, rowMarks_append, ih]
      simp only [SentTurn.turn, SentTurn.own, map_append, rowMarks_append, hempty,
        Nat.zero_add]

/-- The marks on blocks and the one on the system prompt come from different turns. -/
theorem sent_marks_le (json : SerdeJson) (sent : List ChatMessage) :
    rowMarks (sent.flatMap (contributed json)) +
        (sent.any fun message => message.role = "system" && message.cacheControl).toNat ≤
      (sent.map ChatMessage.marks).sum := by
  induction sent with
  | nil => simp [rowMarks]
  | cons message sent ih =>
      rw [flatMap_cons, rowMarks_append, any_cons, map_cons, sum_cons]
      by_cases hsystem : message.role = "system"
      · have hself : message.cacheControl.toNat ≤ message.marks := Nat.le_add_right _ _
        rw [contributed_system json hsystem]
        cases hmark : message.cacheControl with
        | false => simpa [hsystem, hmark, rowMarks] using Nat.le_add_left_of_le ih
        | true =>
            rw [hmark] at hself
            simp only [hsystem, decide_true, Bool.and_self, Bool.true_or, Bool.toNat_true] at hself ⊢
            have : rowMarks [] = 0 := rfl
            omega
      · have := contributed_marks json message
        simp only [hsystem, decide_false, Bool.false_and, Bool.false_or]
        omega

/-! ## From the request to what is sent -/

theorem removeOldest_sublist (count : Nat) (messages : List ChatMessage) :
    (removeOldest count messages).Sublist messages := by
  induction messages generalizing count with
  | nil => cases count <;> exact .slnil
  | cons message rest ih =>
      cases count with
      | zero => exact List.Sublist.refl _
      | succ count =>
          rw [removeOldest]
          split_ifs
          · exact (ih _).cons_cons message
          · exact (ih _).cons message

/-- A dispatch sends the request's messages, in their order, or fewer. -/
theorem Dispatched.sublist {json : SerdeJson} (h : Dispatched json request sent) :
    sent.Sublist (request.providerMessages json) := by
  induction h with
  | whole => exact List.Sublist.refl _
  | shortened _ ih =>
      unfold truncateForContext
      dsimp only
      split_ifs
      · exact ih
      · exact (removeOldest_sublist _ _).trans ih

theorem sum_le_of_sublist {messages : List ChatMessage} (h : sent.Sublist messages) :
    (sent.map ChatMessage.marks).sum ≤ (messages.map ChatMessage.marks).sum := by
  induction h with
  | slnil => exact Nat.le_refl _
  | cons message _ ih =>
      rw [map_cons, sum_cons]
      omega
  | cons_cons message _ ih =>
      rw [map_cons, map_cons, sum_cons, sum_cons]
      omega

theorem contentPart_marked {part : Value} {carried : ContentPart}
    (h : contentPart part = some carried) :
    carried.cacheControl = (part.get "cache_control").isSome := by
  unfold contentPart at h
  split at h
  · obtain ⟨text, -, rfl⟩ := Option.map_eq_some_iff.mp h
    rfl
  · obtain ⟨url, -, rfl⟩ := Option.map_eq_some_iff.mp h
    rfl
  · cases h

theorem parts_marks_le (raw : List Value) :
    (raw.filterMap contentPart).countP ContentPart.cacheControl ≤
      (raw.filterMap fun part => part.get "cache_control").length := by
  induction raw with
  | nil => simp
  | cons part raw ih =>
      cases hpart : contentPart part with
      | none =>
          rw [filterMap_cons_none hpart]
          refine ih.trans ?_
          cases hmark : part.get "cache_control" <;> simp [hmark]
      | some carried =>
          rw [filterMap_cons_some hpart, countP_cons, contentPart_marked hpart]
          cases hmark : part.get "cache_control" with
          | none => simpa [hmark] using ih
          | some mark => simpa [hmark] using ih

/-- A message's parts carry no more marks than its content array. -/
theorem toProviderMessage_marks (json : SerdeJson) (message : OpenAiMessage) :
    (toProviderMessage json message).cacheControl = false ∧
      (toProviderMessage json message).parts.countP ContentPart.cacheControl ≤
        (contentPartCacheControls message).length := by
  unfold toProviderMessage
  split
  · split_ifs <;> exact ⟨rfl, by simp [ChatMessage.tool, ChatMessage.assistant, ChatMessage.ofText]⟩
  · split
    · exact ⟨rfl, by simp [ChatMessage.system, ChatMessage.ofText]⟩
    · exact ⟨rfl, by simp [ChatMessage.assistant, ChatMessage.ofText]⟩
    · split
      · next parts hparts =>
        refine ⟨rfl, ?_⟩
        unfold contentToParts at hparts
        split at hparts
        · next raw hraw =>
          dsimp only at hparts
          split_ifs at hparts
          cases hparts
          rw [contentPartCacheControls, hraw]
          exact parts_marks_le raw
        · cases hparts
      · exact ⟨rfl, by simp [ChatMessage.user, ChatMessage.ofText]⟩

theorem containsKey_eq (fields : List (String × Value)) (key : String) :
    containsKey fields key = (fields.lookup key).isSome := by
  induction fields with
  | nil => rfl
  | cons field fields ih =>
      rw [lookup_cons]
      by_cases hkey : key = field.1
      · simp [containsKey, hkey]
      · have hne : field.1 ≠ key := fun h => hkey h.symm
        have hbeq : (key == field.1) = false := by simpa using hkey
        rw [hbeq, ← ih]
        simp [containsKey, hne]

/-- A message's turn, with the message's own breakpoint. -/
def providerTurn (json : SerdeJson) (message : OpenAiMessage) : ChatMessage :=
  if containsKey message.extra "cache_control" then
    (toProviderMessage json message).withCacheBreakpoint
  else toProviderMessage json message

theorem providerMessages_eq (json : SerdeJson) (request : ChatCompletionRequest) :
    request.providerMessages json = request.messages.map (providerTurn json) := rfl

theorem providerTurn_marks (json : SerdeJson) (message : OpenAiMessage) :
    (providerTurn json message).marks ≤
      (message.extra.lookup "cache_control").isSome.toNat +
        (contentPartCacheControls message).length := by
  obtain ⟨plain, parts⟩ := toProviderMessage_marks json message
  rw [providerTurn, containsKey_eq]
  split_ifs with hmark
  · rw [hmark]
    exact Nat.add_le_add_left parts 1
  · rw [ChatMessage.marks, plain, toNat_false]
    omega

theorem providerMessages_marks (json : SerdeJson) (request : ChatCompletionRequest) :
    ((request.providerMessages json).map ChatMessage.marks).sum ≤
      (request.messages.filterMap fun message => message.extra.lookup "cache_control").length +
        (request.messages.flatMap contentPartCacheControls).length := by
  rw [providerMessages_eq]
  induction request.messages with
  | nil => simp
  | cons message messages ih =>
      have own := providerTurn_marks json message
      rw [map_cons, map_cons, sum_cons, flatMap_cons, length_append,
        filterMap_cons]
      cases hmark : message.extra.lookup "cache_control" with
      | none =>
          rw [hmark, Option.isSome_none, toNat_false] at own
          dsimp only
          omega
      | some mark =>
          rw [hmark, Option.isSome_some, toNat_true] at own
          rw [length_cons]
          omega

theorem providerTools_marks (request : ChatCompletionRequest) :
    request.providerTools.countP ToolSpec.cacheControl =
      (request.tools.filterMap fun tool => tool.extra.lookup "cache_control").length := by
  unfold ChatCompletionRequest.providerTools
  induction request.tools with
  | nil => rfl
  | cons tool tools ih =>
      rw [map_cons, countP_cons, ih, containsKey_eq]
      cases hmark : tool.extra.lookup "cache_control" <;> simp [hmark]

/-- What is sent carries no more breakpoints than the request. -/
theorem sent_le_placed {json : SerdeJson} (dispatched : Dispatched json request sent) :
    (sent.map ChatMessage.marks).sum + request.providerTools.countP ToolSpec.cacheControl ≤
      request.cacheControls.length := by
  have := sum_le_of_sublist dispatched.sublist
  have := providerMessages_marks json request
  rw [providerTools_marks, ChatCompletionRequest.cacheControls, length_append,
    length_append]
  omega

theorem cacheBreakpoints_eq_ok {placed : Nat} (h : request.cacheBreakpoints = .ok placed) :
    placed = request.cacheControls.length ∧ placed ≤ maxCacheBreakpoints := by
  simp only [ChatCompletionRequest.cacheBreakpoints, bind_eq_ok, ensure_eq_ok, exists_const, pure,
    Except.pure, Except.ok.injEq] at h
  obtain ⟨-, -, hle, rfl⟩ := h
  exact ⟨rfl, hle⟩

/-! ## The body -/

/-- The breakpoints of a body: on its blocks, its system prompt and its tools. -/
def MessagesBody.marks (body : MessagesBody) : Nat :=
  rowMarks (flat body.messages) + (body.system.any SystemPrompt.cacheControl).toNat +
    (body.tools.getD []).countP MessagesTool.cacheControl

/-- A body with the client's marks and no other: on the blocks of the marked parts and the
    last block each marked turn made, on the system prompt if a system turn is marked, and
    on the marked tools. -/
structure ClientMarks (json : SerdeJson) (sent : List ChatMessage) (tools : List ToolSpec)
    (body : MessagesBody) : Prop where
  blocks : ∃ turns : List SentTurn, body.messages = turns.map SentTurn.turn ∧
    flat (turns.map SentTurn.own) = sent.flatMap (contributed json)
  system : ∀ system ∈ body.system, system.cacheControl =
    sent.any fun message => message.role = "system" && message.cacheControl
  tools : (body.tools.getD []).map MessagesTool.cacheControl = tools.map ToolSpec.cacheControl

/-- A body with the wire's own marks and no other: on its last block, its system prompt and
    its last tool. -/
structure DefaultMarks (json : SerdeJson) (sent : List ChatMessage) (tools : List ToolSpec)
    (body : MessagesBody) : Prop where
  blocks : ∃ turns : List SentTurn, body.messages = markLastBlock (turns.map SentTurn.turn) ∧
    flat (turns.map SentTurn.own) = sent.flatMap (contributions json) ∧
    rowMarks (sent.flatMap (contributions json)) = 0
  system : ∀ system ∈ body.system, system.cacheControl = true
  tools : (body.tools.getD []).map MessagesTool.cacheControl =
    (tools.dropLast.map fun _ => false) ++ (tools.getLast?.map fun _ => true).toList

/-- There is nothing a default could mark. -/
structure Bare (json : SerdeJson) (sent : List ChatMessage) (tools : List ToolSpec) : Prop where
  blocks : sent.flatMap (contributions json) = []
  system : isBlank (joinedSystem sent) = true
  tools : tools = []

theorem messagesTools_client (tools : List ToolSpec) :
    (messagesTools true tools).map MessagesTool.cacheControl = tools.map ToolSpec.cacheControl := by
  unfold messagesTools
  dsimp only
  split <;> simp

theorem messagesTools_default (tools : List ToolSpec) :
    (messagesTools false tools).map MessagesTool.cacheControl =
      (tools.dropLast.map fun _ => false) ++ (tools.getLast?.map fun _ => true).toList := by
  obtain rfl | ⟨first, last, rfl⟩ := eq_nil_or_concat' tools
  · rfl
  · simp [messagesTools, Function.comp_def, map_const']

theorem countP_of_map {tools : List MessagesTool} {flags : List Bool}
    (h : tools.map MessagesTool.cacheControl = flags) :
    tools.countP MessagesTool.cacheControl = flags.countP id := by
  rw [← h, countP_map]
  rfl

section Bodies

variable {json : SerdeJson} {request : ChatCompletionRequest} {sent : List ChatMessage}
  {model : Option String} {temperature : Option F64} {stream : Option Bool} {maxTokens : Nat}

/-- The turns with the results added, beside the row they are laid out from. -/
theorem exists_turns (json : SerdeJson) (sent : List ChatMessage) :
    ∃ turns : List SentTurn,
      synthesizeMissingToolResults (builtTurns json sent) = turns.map SentTurn.turn ∧
      flat (turns.map SentTurn.own) = sent.flatMap (contributed json) ∧
      Formed (turns.map SentTurn.turn) := by
  obtain ⟨formed, hflat⟩ := builtTurns_spec json sent
  obtain ⟨turns, h⟩ := exists_synthesized _ formed
  refine ⟨turns, h.turns_eq, h.own.trans hflat, ?_, ?_⟩
  · intro turn hturn
    obtain ⟨entry, hentry, rfl⟩ := mem_map.mp hturn
    exact h.filled entry hentry
  · have := h.alternating
    rw [isChain_map] at this ⊢
    exact this

/-- Whether a client's breakpoint is among what is sent. -/
def clientPlaced (sent : List ChatMessage) (tools : List ToolSpec) : Bool :=
  sent.any ChatMessage.hasClientBreakpoint || tools.any ToolSpec.cacheControl

theorem dispatchedTools_any : (request.dispatchedTools.any fun tools =>
    tools.any ToolSpec.cacheControl) = request.providerTools.any ToolSpec.cacheControl := by
  unfold ChatCompletionRequest.dispatchedTools
  cases request.providerTools <;> rfl

theorem body_fields {placed : Bool}
    (hbody : messagesRequestBody json model sent request.dispatchedTools temperature stream
      maxTokens = body) (hplaced : clientPlaced sent request.providerTools = placed) :
    body.messages = (if placed then synthesizeMissingToolResults (builtTurns json sent)
      else markLastBlock (synthesizeMissingToolResults (builtTurns json sent))) ∧
    body.system = (if isBlank (joinedSystem sent) then none
      else some ⟨joinedSystem sent, !placed ||
        sent.any fun message => message.role = "system" && message.cacheControl⟩) ∧
    body.tools.getD [] = messagesTools placed request.providerTools := by
  subst hbody
  rw [clientPlaced, ← dispatchedTools_any] at hplaced
  refine ⟨?_, ?_, ?_⟩
  · simp only [messagesRequestBody, buildAnthropicMessages, hplaced, builtTurns]
  · simp only [messagesRequestBody, buildAnthropicMessages, hplaced]
  · simp only [messagesRequestBody, hplaced]
    unfold ChatCompletionRequest.dispatchedTools
    cases request.providerTools <;> rfl

/-- Where one of the client's breakpoints is sent, the body carries the client's. -/
theorem client_body
    (hbody : messagesRequestBody json model sent request.dispatchedTools temperature stream
      maxTokens = body) (hplaced : clientPlaced sent request.providerTools = true) :
    ClientMarks json sent request.providerTools body ∧
      body.marks ≤ (sent.map ChatMessage.marks).sum +
        request.providerTools.countP ToolSpec.cacheControl := by
  obtain ⟨hmessages, hsystem, htools⟩ := body_fields hbody hplaced
  obtain ⟨turns, hturns, hown, -⟩ := exists_turns json sent
  rw [if_pos rfl, hturns] at hmessages
  refine ⟨⟨⟨turns, hmessages, hown⟩, ?_, by rw [htools, messagesTools_client]⟩, ?_⟩
  · intro system hmem
    rw [hsystem] at hmem
    split_ifs at hmem
    · cases hmem
    · rw [Option.mem_some_iff] at hmem
      rw [← hmem]
      rfl
  · have hrow := sent_marks_le json sent
    have hcount := countP_of_map (messagesTools_client request.providerTools)
    have hcount' : (request.providerTools.map ToolSpec.cacheControl).countP id =
        request.providerTools.countP ToolSpec.cacheControl := by
      rw [countP_map]
      rfl
    have hmark : (body.system.any SystemPrompt.cacheControl).toNat ≤ (sent.any fun message =>
        message.role = "system" && message.cacheControl).toNat := by
      rw [hsystem]
      split_ifs <;> simp
    rw [MessagesBody.marks, htools, hmessages, synthesized_marks, hown]
    omega

/-- Turns the client did not mark contribute no mark. -/
theorem contributed_of_unplaced (hplaced : clientPlaced sent request.providerTools = false) :
    sent.flatMap (contributed json) = sent.flatMap (contributions json) ∧
      rowMarks (sent.flatMap (contributions json)) = 0 := by
  obtain ⟨unmarked, -⟩ := or_eq_false_iff.mp hplaced
  have plain : ∀ message ∈ sent, message.hasClientBreakpoint = false := by
    simpa using unmarked
  refine ⟨flatMap_congr fun message hmem =>
    (contributed_unmarked json (plain message hmem)).1, ?_⟩
  have := rowMarks_flatMap_le sent (contributions json) (fun _ => 0)
    fun message hmem => Nat.le_of_eq (contributed_unmarked json (plain message hmem)).2
  simpa using this

/-- Where none is, it carries the defaults. -/
theorem default_body
    (hbody : messagesRequestBody json model sent request.dispatchedTools temperature stream
      maxTokens = body) (hplaced : clientPlaced sent request.providerTools = false) :
    DefaultMarks json sent request.providerTools body ∧ body.marks ≤ 3 := by
  obtain ⟨hmessages, hsystem, htools⟩ := body_fields hbody hplaced
  obtain ⟨turns, hturns, hown, formed⟩ := exists_turns json sent
  rw [if_neg (by simp), hturns] at hmessages
  obtain ⟨hsame, hzero⟩ := contributed_of_unplaced hplaced
  rw [hsame] at hown
  refine ⟨⟨⟨turns, hmessages, hown, hzero⟩, ?_, by rw [htools, messagesTools_default]⟩, ?_⟩
  · intro system hmem
    rw [hsystem] at hmem
    split_ifs at hmem
    · cases hmem
    · rw [Option.mem_some_iff] at hmem
      rw [← hmem]
      rfl
  · have hrow := rowMarks_markEnd_le (flat (turns.map SentTurn.turn))
    rw [synthesized_marks, hown, hzero] at hrow
    have hcount := countP_of_map (messagesTools_default request.providerTools)
    have hlast : (((request.providerTools.dropLast.map fun _ => false) ++
        (request.providerTools.getLast?.map fun _ => true).toList).countP id) ≤ 1 := by
      rw [countP_append, countP_map]
      cases request.providerTools.getLast? <;> simp
    have hmark : (body.system.any SystemPrompt.cacheControl).toNat ≤ 1 := toNat_le _
    rw [MessagesBody.marks, htools, hmessages, (markLastBlock_spec formed).2]
    omega

theorem Formed.eq_nil {turns : List Turn} (h : Formed turns) (hflat : flat turns = []) :
    turns = [] := by
  cases turns with
  | nil => rfl
  | cons turn rest =>
      rw [flat_cons, append_eq_nil_iff, map_eq_nil_iff] at hflat
      exact absurd hflat.1 (h.filled turn (by simp))

theorem exists_marked_of_markEnd {row : List (MessageRole × Block)} (h : row ≠ []) :
    0 < rowMarks (markEnd row) := by
  obtain rfl | ⟨first, last, rfl⟩ := eq_nil_or_concat' row
  · exact absurd rfl h
  · rw [markEnd_concat, rowMarks_append]
    have : rowMarks [(last.1, { last.2 with cacheControl := true })] = 1 := rfl
    omega

/-- The defaults are the client's marks only where there is nothing to mark. -/
theorem bare_of_both
    (hbody : messagesRequestBody json model sent request.dispatchedTools temperature stream
      maxTokens = body) (hplaced : clientPlaced sent request.providerTools = false)
    (client : ClientMarks json sent request.providerTools body) :
    Bare json sent request.providerTools := by
  obtain ⟨hmessages, hsystem, htools⟩ := body_fields hbody hplaced
  obtain ⟨turns, hturns, hown, formed⟩ := exists_turns json sent
  rw [if_neg (by simp), hturns] at hmessages
  obtain ⟨unmarked, toolless⟩ := or_eq_false_iff.mp hplaced
  have plain : ∀ message ∈ sent, message.hasClientBreakpoint = false := by
    simpa using unmarked
  obtain ⟨hsame, hzero⟩ := contributed_of_unplaced hplaced
  refine ⟨?_, ?_, ?_⟩
  · -- the client's row has no mark, and the body's last block has one
    by_contra hne
    obtain ⟨turns', hmessages', hown'⟩ := client.blocks
    have hnone : rowMarks (flat body.messages) = 0 := by
      rw [hmessages', synthesized_marks, hown', hsame, hzero]
    rw [hmessages, (markLastBlock_spec formed).2] at hnone
    have hrow : flat (turns.map SentTurn.turn) ≠ [] := by
      intro hnil
      apply hne
      rw [← hsame, ← hown, map_eq_nil_iff.mp (formed.eq_nil hnil)]
      rfl
    have := exists_marked_of_markEnd hrow
    omega
  · by_contra hspoken
    rw [if_neg hspoken] at hsystem
    have := client.system _ hsystem
    have hnone : (sent.any fun message => message.role = "system" && message.cacheControl) =
        false := by
      rw [any_eq_false]
      intro message hmem
      have hself := plain message hmem
      unfold ChatMessage.hasClientBreakpoint at hself
      simp only [or_eq_false_iff] at hself
      simp [hself.1]
    rw [hnone] at this
    cases this
  · by_contra hsome
    have hflags := client.tools
    rw [htools, messagesTools_default] at hflags
    obtain hnil | ⟨first, last, htool⟩ := eq_nil_or_concat' request.providerTools
    · exact hsome hnil
    · rw [htool] at hflags toolless
      have : last.cacheControl = true := by
        have := congrArg List.getLast? hflags
        simpa using this.symm
      simp [this] at toolless

/-- With nothing to mark, no mark is sent. -/
theorem client_of_bare
    (hbody : messagesRequestBody json model sent request.dispatchedTools temperature stream
      maxTokens = body) (hplaced : clientPlaced sent request.providerTools = false)
    (bare : Bare json sent request.providerTools) :
    ClientMarks json sent request.providerTools body := by
  obtain ⟨hmessages, hsystem, htools⟩ := body_fields hbody hplaced
  obtain ⟨formed, hflat⟩ := builtTurns_spec json sent
  obtain ⟨hsame, -⟩ := contributed_of_unplaced hplaced
  rw [hsame, bare.blocks] at hflat
  rw [formed.eq_nil hflat] at hmessages
  refine ⟨⟨[], hmessages, ?_⟩, ?_, ?_⟩
  · rw [hsame, bare.blocks]
    rfl
  · intro system hmem
    rw [hsystem, if_pos bare.system] at hmem
    cases hmem
  · rw [htools, bare.tools]
    rfl

/-- For every request `cache_breakpoints` accepts and every prompt a walk dispatches for
    it, at most four marks are sent; and the marks sent are the client's when the request
    has any, and the wire's defaults when it has none, exactly when the request has none,
    or one of the client's is on what is sent, or there is nothing a default could mark. -/
theorem breakpoints_are_the_clients_iff {placed : Nat} {body : MessagesBody}
    (accepted : request.cacheBreakpoints = .ok placed) (dispatched : Dispatched json request sent)
    (hbody : messagesRequestBody json model sent request.dispatchedTools temperature stream
      maxTokens = body) :
    body.marks ≤ maxCacheBreakpoints ∧
      ((0 < placed → ClientMarks json sent request.providerTools body) ∧
          (placed = 0 → DefaultMarks json sent request.providerTools body) ↔
        placed = 0 ∨ clientPlaced sent request.providerTools = true ∨
          Bare json sent request.providerTools) := by
  obtain ⟨hcount, hcap⟩ := cacheBreakpoints_eq_ok accepted
  have hsent := sent_le_placed dispatched
  cases hplaced : clientPlaced sent request.providerTools with
  | true =>
      obtain ⟨client, hmarks⟩ := client_body hbody hplaced
      have hsome : placed ≠ 0 := by
        intro hzero
        have hnone : (sent.map ChatMessage.marks).sum = 0 := by omega
        have htools : request.providerTools.countP ToolSpec.cacheControl = 0 := by omega
        rcases Bool.or_eq_true_iff.mp hplaced with h | h
        · obtain ⟨message, hmem, hmark⟩ := List.any_eq_true.mp h
          have := List.sum_eq_zero_iff.mp hnone message.marks (List.mem_map_of_mem hmem)
          rw [marks_eq_zero.mp this] at hmark
          cases hmark
        · obtain ⟨tool, hmem, hmark⟩ := List.any_eq_true.mp h
          exact List.countP_eq_zero.mp htools tool hmem hmark
      exact ⟨by omega, ⟨fun _ => .inr (.inl rfl), fun _ => ⟨fun _ => client,
        fun hzero => absurd hzero hsome⟩⟩⟩
  | false =>
      obtain ⟨defaults, hmarks⟩ := default_body hbody hplaced
      have : maxCacheBreakpoints = 4 := rfl
      refine ⟨by omega, ?_, ?_⟩
      · rintro ⟨client, -⟩
        rcases Nat.eq_zero_or_pos placed with hzero | hpos
        · exact .inl hzero
        · exact .inr (.inr (bare_of_both hbody hplaced (client hpos)))
      · rintro (hzero | himpossible | bare)
        · exact ⟨fun hpos => absurd hzero (by omega), fun _ => defaults⟩
        · cases himpossible
        · exact ⟨fun _ => client_of_bare hbody hplaced bare, fun _ => defaults⟩

end Bodies

/-! ## A prompt shortened past its breakpoint -/

/-- A JSON reader and printer none of these turns needs. -/
def noJson : SerdeJson := ⟨fun _ => none, fun _ => ""⟩

def userMessage (text : String) (extra : List (String × Value)) : OpenAiMessage where
  role := "user"
  content := .string text
  toolCalls := []
  toolCallId := none
  name := none
  reasoningContent := none
  extra := extra

/-- Two user messages, the first with a breakpoint. -/
def markedRequest : ChatCompletionRequest where
  model := "m"
  messages := [userMessage "a" [("cache_control", .object [("type", .string "ephemeral")])],
    userMessage "b" []]
  stream := false
  temperature := none
  maxTokens := none
  tools := []
  toolChoice := none
  streamOptions := none
  extra := []

theorem markedRequest_accepted : markedRequest.cacheBreakpoints = .ok 1 := by rfl

/-- Dispatched whole, the request carries its own mark. -/
theorem breakpoints_are_the_clients_of_marked :
    ClientMarks noJson (markedRequest.providerMessages noJson) markedRequest.providerTools
      (messagesRequestBody noJson none (markedRequest.providerMessages noJson)
        markedRequest.dispatchedTools none none 16) :=
  ((breakpoints_are_the_clients_iff markedRequest_accepted .whole rfl).2.mpr
    (.inr (.inl (by decide +kernel)))).1 (by decide)

/-- Shortened, it carries the wire's mark on the message the client did not mark. -/
theorem shortened_body_takes_the_defaults :
    markedRequest.cacheBreakpoints = .ok 1 ∧
      ∃ sent, Dispatched noJson markedRequest sent ∧
        ¬ ClientMarks noJson sent markedRequest.providerTools
          (messagesRequestBody noJson none sent markedRequest.dispatchedTools none none 16) := by
  refine ⟨markedRequest_accepted, [.user "b"], ?_, ?_⟩
  · have : truncateForContext (markedRequest.providerMessages noJson) = [.user "b"] := by
      decide +kernel
    rw [← this]
    exact .shortened .whole
  · intro client
    have bare := bare_of_both rfl (by decide +kernel) client
    have hblocks : ((ChatMessage.user "b" :: []).flatMap (contributions noJson)).length = 0 := by
      rw [bare.blocks]
      rfl
    exact absurd hblocks (by decide +kernel)

end ZeroRouter.Wire
