import ZeroRouter.Wire.Anthropic
import Mathlib.Data.List.Chain

/-!
# The turns of a Messages conversation

What each message contributes is laid end to end, and a turn is a run of one role; then
results are put at the head of the user turns for the calls nothing answers.
-/

namespace ZeroRouter.Wire

open List Option

variable {turns : List Turn} {message : ChatMessage} {json : SerdeJson}
  {entry : MessageRole × Block} {row : List (MessageRole × Block)}

/-! ## What the messages contribute -/

/-- The turns as one row of blocks, each with the role it is under. -/
def flat (turns : List Turn) : List (MessageRole × Block) :=
  turns.flatMap fun turn => turn.content.map (turn.role, ·)

/-- Turns as the pass keeps them: none empty, and no two of one role in a row. -/
structure Formed (turns : List Turn) : Prop where
  filled : ∀ turn ∈ turns, turn.content ≠ []
  alternating : turns.IsChain fun turn next => turn.role ≠ next.role

@[simp] theorem flat_append (turns later : List Turn) :
    flat (turns ++ later) = flat turns ++ flat later :=
  flatMap_append

@[simp] theorem flat_singleton (turn : Turn) :
    flat [turn] = turn.content.map (turn.role, ·) := by
  simp [flat]

theorem flat_cons (turn : Turn) (turns : List Turn) :
    flat (turn :: turns) = turn.content.map (turn.role, ·) ++ flat turns := by
  simp [flat]

theorem Formed.nil : Formed [] where
  filled := by simp
  alternating := .nil

/-- The last turn may take other blocks, as long as it keeps one. -/
theorem Formed.replace_last {last : Turn} {blocks : List Block} (h : Formed (turns ++ [last]))
    (hne : blocks ≠ []) :
    Formed (turns ++ [{ last with content := blocks }]) where
  filled turn hturn := by
    rcases mem_append.mp hturn with hturn | hturn
    · exact h.filled turn (mem_append_left _ hturn)
    · rw [mem_singleton.mp hturn]
      exact hne
  alternating := by
    have := h.alternating
    rw [isChain_append] at this ⊢
    refine ⟨this.1, .singleton _, ?_⟩
    intro turn hturn next hnext
    simp only [head?_cons, mem_some_iff] at hnext
    subst hnext
    exact this.2.2 turn hturn last (by simp)

theorem pushAnthropicBlock_spec (h : Formed turns) (role : MessageRole) (block : Block) :
    Formed (pushAnthropicBlock turns role block) ∧
      flat (pushAnthropicBlock turns role block) = flat turns ++ [(role, block)] := by
  unfold pushAnthropicBlock
  rcases eq_nil_or_concat' turns with rfl | ⟨first, last, rfl⟩
  · exact ⟨⟨by simp, .singleton _⟩, by simp [flat]⟩
  · simp only [getLast?_concat, dropLast_concat]
    by_cases hrole : last.role = role
    · rw [if_pos hrole]
      exact ⟨h.replace_last (by simp), by simp [← hrole]⟩
    · rw [if_neg hrole]
      refine ⟨⟨?_, ?_⟩, by simp [flat]⟩
      · intro turn hturn
        rcases mem_append.mp hturn with hturn | hturn
        · exact h.filled turn hturn
        · rw [mem_singleton.mp hturn]
          simp
      · rw [isChain_append]
        refine ⟨h.alternating, .singleton _, ?_⟩
        intro turn hturn next hnext
        simp only [getLast?_concat, head?_cons, mem_some_iff] at hturn hnext
        rw [← hturn, ← hnext]
        exact hrole

/-- A row of blocks with a breakpoint on its last. -/
def markEnd (row : List (MessageRole × Block)) : List (MessageRole × Block) :=
  match row.getLast? with
  | some last => row.dropLast ++ [(last.1, { last.2 with cacheControl := true })]
  | none => row

@[simp] theorem markEnd_nil : markEnd [] = [] := rfl

@[simp] theorem markEnd_concat (row : List (MessageRole × Block)) (last : MessageRole × Block) :
    markEnd (row ++ [last]) = row ++ [(last.1, { last.2 with cacheControl := true })] := by
  simp [markEnd]

theorem markEnd_append (before : List (MessageRole × Block)) (h : row ≠ []) :
    markEnd (before ++ row) = before ++ markEnd row := by
  obtain hnil | ⟨first, last, rfl⟩ := eq_nil_or_concat' row
  · exact absurd hnil h
  · rw [← append_assoc, markEnd_concat, markEnd_concat, append_assoc]

theorem markLastBlock_spec (h : Formed turns) :
    Formed (markLastBlock turns) ∧ flat (markLastBlock turns) = markEnd (flat turns) := by
  unfold markLastBlock
  rcases eq_nil_or_concat' turns with rfl | ⟨first, last, rfl⟩
  · exact ⟨h, rfl⟩
  · obtain hnil | ⟨blocks, block, hblocks⟩ := eq_nil_or_concat' last.content
    · exact absurd hnil (h.filled last (by simp))
    · simp only [getLast?_concat, dropLast_concat]
      have hmark : markLast last.content = blocks ++ [{ block with cacheControl := true }] := by
        simp [markLast, hblocks]
      refine ⟨h.replace_last (by simp [hmark]), ?_⟩
      rw [flat_append, flat_append, flat_singleton, flat_singleton, hmark, hblocks]
      simp only [map_append, map_singleton, ← append_assoc, markEnd_concat]

/-- The blocks a message's own content makes, a part's breakpoint on the block of the
    part. -/
def contributions (json : SerdeJson) (message : ChatMessage) : List (MessageRole × Block) :=
  match message.role with
  | "user" =>
      (userPartsCached message).map fun part =>
        (.user, { content := blockOf part.1, cacheControl := part.2 })
  | "assistant" =>
      match openAssistant json message.content with
      | .envelope text calls =>
          (text.toList.map fun text => (.assistant, .of (.text text))) ++
            calls.map fun call =>
              (.assistant, .of (.toolUse call.id call.name (toolInput json call.arguments)))
      | .plain text => if isBlank text then [] else [(.assistant, .of (.text text))]
  | "tool" =>
      let (callId, output) := openToolResult json message.content
      [(.user, .of (.toolResult callId (if output.toList.isEmpty then none else some output)))]
  | _ => []

/-- The same, a breakpoint on the message marking its last block. -/
def contributed (json : SerdeJson) (message : ChatMessage) : List (MessageRole × Block) :=
  if message.cacheControl then markEnd (contributions json message)
  else contributions json message

/-- A push for each of a list of items lays their blocks end to end. -/
theorem foldl_push_spec {α : Type} (push : List Turn → α → List Turn)
    (row : α → List (MessageRole × Block))
    (hpush : ∀ turns a, Formed turns →
      Formed (push turns a) ∧ flat (push turns a) = flat turns ++ row a) (items : List α)
    (h : Formed turns) :
    Formed (items.foldl push turns) ∧
      flat (items.foldl push turns) = flat turns ++ items.flatMap row := by
  induction items generalizing turns with
  | nil => exact ⟨h, by simp⟩
  | cons item items ih =>
      obtain ⟨formed, hflat⟩ := hpush turns item h
      obtain ⟨formed', hflat'⟩ := ih formed
      exact ⟨formed', by rw [foldl_cons, hflat', hflat]; simp⟩

theorem pushUserContent_spec (h : Formed turns) (message : ChatMessage) :
    Formed (pushUserContent turns message) ∧
      flat (pushUserContent turns message) = flat turns ++
        (userPartsCached message).map fun part =>
          (.user, { content := blockOf part.1, cacheControl := part.2 }) := by
  have each := foldl_push_spec
    (fun (turns : List Turn) (part : UserPart × Bool) =>
      let turns := pushAnthropicBlock turns .user (.of (blockOf part.1))
      if part.2 then markLastBlock turns else turns)
    (fun part => [(.user, { content := blockOf part.1, cacheControl := part.2 })])
    (by
      intro turns part formed
      obtain ⟨pushed, hflat⟩ := pushAnthropicBlock_spec formed .user (.of (blockOf part.1))
      cases hmark : part.2 with
      | false => exact ⟨by simpa using pushed, by simpa [Block.of] using hflat⟩
      | true =>
          obtain ⟨marked, hmarked⟩ := markLastBlock_spec pushed
          rw [hflat, markEnd_concat] at hmarked
          exact ⟨by simpa using marked, by simpa [Block.of] using hmarked⟩)
    (userPartsCached message) h
  exact ⟨each.1, by rw [pushUserContent, each.2, map_eq_flatMap]⟩

/-- What one turn of the loop pushes, its breakpoint aside. -/
theorem pushMessage_spec (json : SerdeJson) (h : Formed turns) (message : ChatMessage) :
    Formed (pushMessage json turns message) ∧
      flat (pushMessage json turns message) = flat turns ++ contributions json message := by
  unfold pushMessage
  split
  · next hrole =>
    simp only [contributions, hrole]
    exact pushUserContent_spec h message
  · next hrole =>
    simp only [contributions, hrole]
    cases openAssistant json message.content with
    | plain text =>
        by_cases hblank : isBlank text
        · simpa [hblank] using h
        · simpa [hblank] using pushAnthropicBlock_spec h .assistant (.of (.text text))
    | envelope text calls =>
        have texts := foldl_push_spec
          (fun (turns : List Turn) (text : String) =>
            pushAnthropicBlock turns .assistant (.of (.text text)))
          (fun text => [(.assistant, .of (.text text))])
          (fun _ text formed => pushAnthropicBlock_spec formed .assistant (.of (.text text)))
          text.toList h
        have all := foldl_push_spec
          (fun (turns : List Turn) (call : PackedCall) =>
            pushAnthropicBlock turns .assistant
              (.of (.toolUse call.id call.name (toolInput json call.arguments))))
          (fun call =>
            [(.assistant, .of (.toolUse call.id call.name (toolInput json call.arguments)))])
          (fun _ call formed => pushAnthropicBlock_spec formed .assistant _) calls texts.1
        rw [texts.2] at all
        simp only [map_eq_flatMap, ← append_assoc]
        cases text <;> exact all
  · next hrole =>
    simp only [contributions, hrole]
    exact pushAnthropicBlock_spec h .user _
  · next hnot_user hnot_assistant hnot_tool =>
    have hnone : contributions json message = [] := by
      unfold contributions
      split <;> simp_all
    exact ⟨h, by simp [hnone]⟩

theorem blockCursor_eq (turns : List Turn) : blockCursor turns = (flat turns).length := by
  simp [blockCursor, flat, length_flatMap]

/-- One pass adds what the message contributes, and leaves what was there. -/
theorem buildPass_spec (json : SerdeJson) (h : Formed turns) (message : ChatMessage) :
    Formed (buildPass json turns message) ∧
      flat (buildPass json turns message) = flat turns ++ contributed json message := by
  obtain ⟨formed, hflat⟩ := pushMessage_spec json h message
  have cursor : blockCursor (pushMessage json turns message) ≠ blockCursor turns ↔
      contributions json message ≠ [] := by
    rw [blockCursor_eq, blockCursor_eq, hflat, length_append]
    simp
  unfold buildPass contributed
  simp only [cursor]
  by_cases hmark : message.cacheControl = true
  · by_cases hnone : contributions json message = []
    · rw [if_neg (by simp [hnone]), if_pos hmark, hnone]
      rw [hnone] at hflat
      exact ⟨formed, hflat⟩
    · rw [if_pos ⟨hmark, hnone⟩, if_pos hmark]
      obtain ⟨marked, hmarked⟩ := markLastBlock_spec formed
      exact ⟨marked, by rw [hmarked, hflat, markEnd_append _ hnone]⟩
  · rw [if_neg (by simp [hmark]), if_neg hmark]
    exact ⟨formed, hflat⟩

/-- The turns before results are added. -/
def builtTurns (json : SerdeJson) (messages : List ChatMessage) : List Turn :=
  messages.foldl (buildPass json) []

theorem builtTurns_spec (json : SerdeJson) (messages : List ChatMessage) :
    Formed (builtTurns json messages) ∧
      flat (builtTurns json messages) = messages.flatMap (contributed json) := by
  have := foldl_push_spec (buildPass json) (contributed json)
    (fun _ message formed => buildPass_spec json formed message) messages Formed.nil
  simpa [builtTurns, flat] using this

/-! ## Results for the calls nothing answers -/

/-- A turn as it is sent: empty results for some ids, then what the messages contribute. -/
structure SentTurn where
  role : MessageRole
  synthesized : List String
  contributed : List Block

namespace SentTurn

def turn (sent : SentTurn) : Turn where
  role := sent.role
  content := (sent.synthesized.map fun id => .of (.toolResult id none)) ++ sent.contributed

/-- The turn without the results added to it. -/
def own (sent : SentTurn) : Turn := { role := sent.role, content := sent.contributed }

end SentTurn

/-- Every call of an assistant turn has a result in the user turn right after it. -/
def Answered : List Turn → Prop
  | [] => True
  | turn :: rest =>
      (turn.role = .assistant → ∀ id ∈ turn.pending,
        ∃ next, rest.head? = some next ∧ next.role = .user ∧ id ∈ next.answered) ∧
      Answered rest

/-- Results are added only to a user turn, for calls of the assistant turn right before it
    that the user turn's own blocks do not answer. -/
def Warranted : Option SentTurn → List SentTurn → Prop
  | _, [] => True
  | previous, sent :: rest =>
      (∀ id ∈ sent.synthesized, sent.role = .user ∧ id ∉ sent.own.answered ∧
        ∃ caller, previous = some caller ∧ caller.role = .assistant ∧ id ∈ caller.own.pending) ∧
      Warranted (some sent) rest

theorem Warranted.of_none {sent : List SentTurn} (h : Warranted none sent)
    (previous : Option SentTurn) : Warranted previous sent := by
  cases sent with
  | nil => trivial
  | cons first rest =>
      refine ⟨fun id hid => ?_, h.2⟩
      obtain ⟨-, -, caller, hcaller, -⟩ := h.1 id hid
      cases hcaller

/-- A turn nothing is added to. -/
def untouched (turn : Turn) : SentTurn where
  role := turn.role
  synthesized := []
  contributed := turn.content

@[simp] theorem untouched_turn (turn : Turn) : (untouched turn).turn = turn := rfl

/-- The calls of a turn that some blocks do not answer. -/
def unanswered (pending answered : List String) : List String :=
  pending.filter fun id => !answered.contains id

/-- A user turn with results for the calls of the turn before it. -/
def answering (caller next : Turn) : SentTurn where
  role := next.role
  synthesized := unanswered caller.pending next.answered
  contributed := next.content

theorem answering_turn (caller next : Turn) :
    (answering caller next).turn =
      { next with content := missingResults caller.pending next.answered ++ next.content } := rfl

theorem answered_turn (sent : SentTurn) :
    sent.turn.answered = sent.synthesized ++ sent.own.answered := by
  simp only [SentTurn.turn, SentTurn.own, Turn.answered, filterMap_append, filterMap_map]
  congr 1
  induction sent.synthesized with
  | nil => rfl
  | cons id ids ih => simp [Block.of]

/-- Every call of the turn before is answered. -/
theorem answering_answers (caller next : Turn) :
    ∀ id ∈ caller.pending, id ∈ (answering caller next).turn.answered := by
  intro id hid
  rw [answered_turn, mem_append]
  by_cases hown : id ∈ next.answered
  · exact .inr hown
  · exact .inl (by simpa [answering, unanswered, hid] using hown)

theorem answering_warranted {caller next : Turn} (hcaller : caller.role = .assistant)
    (hnext : next.role = .user) :
    ∀ id ∈ (answering caller next).synthesized, (answering caller next).role = .user ∧
      id ∉ (answering caller next).own.answered ∧
      ∃ c, some (untouched caller) = some c ∧ c.role = .assistant ∧ id ∈ c.own.pending := by
  intro id hid
  simp only [answering, unanswered, mem_filter, Bool.not_eq_true', contains_eq_mem,
    decide_eq_false_iff_not] at hid
  exact ⟨hnext, hid.2, _, rfl, hcaller, hid.1⟩

/-- What the pass makes of the turns that alternate. -/
structure Synthesized (turns : List Turn) (sent : List SentTurn) : Prop where
  turns_eq : synthesizeMissingToolResults turns = sent.map SentTurn.turn
  own : flat (sent.map SentTurn.own) = flat turns
  alternating : (sent.map SentTurn.role).IsChain (· ≠ ·)
  head : sent.head?.map SentTurn.role = turns.head?.map Turn.role
  answered : Answered (sent.map SentTurn.turn)
  warranted : Warranted none sent
  filled : ∀ entry ∈ sent, entry.turn.content ≠ []

namespace Synthesized

variable {turn next : Turn} {turns : List Turn} {sent : List SentTurn}

theorem nil : Synthesized [] [] where
  turns_eq := rfl
  own := rfl
  alternating := .nil
  head := rfl
  answered := trivial
  warranted := trivial
  filled := by simp

theorem roles_cons (h : Synthesized turns sent) {role : MessageRole}
    (hfirst : ∀ first ∈ turns.head?, role ≠ first.role) :
    (role :: sent.map SentTurn.role).IsChain (· ≠ ·) := by
  rw [isChain_cons]
  refine ⟨?_, h.alternating⟩
  intro second hsecond
  rw [head?_map, h.head, mem_def, map_eq_some_iff] at hsecond
  obtain ⟨first, hhead, rfl⟩ := hsecond
  exact hfirst first hhead

/-- A turn without calls is sent as it is. -/
theorem cons (h : Synthesized turns sent) (hfilled : turn.content ≠ [])
    (hquiet : ¬ (turn.role = .assistant ∧ turn.pending ≠ []))
    (hfirst : ∀ first ∈ turns.head?, turn.role ≠ first.role) :
    Synthesized (turn :: turns) (untouched turn :: sent) where
  turns_eq := by
    unfold synthesizeMissingToolResults
    rw [if_neg hquiet, h.turns_eq]
    rfl
  own := by
    rw [map_cons, flat_cons, flat_cons, h.own]
    rfl
  alternating := h.roles_cons hfirst
  head := rfl
  answered := by
    refine ⟨fun hrole id hid => ?_, h.answered⟩
    have hnone : turn.pending = [] := by
      by_contra hne
      exact hquiet ⟨hrole, hne⟩
    rw [untouched_turn, hnone] at hid
    cases hid
  warranted := ⟨nofun, h.warranted.of_none _⟩
  filled := by
    rw [forall_mem_cons]
    exact ⟨hfilled, h.filled⟩

/-- A user turn answers the calls of the assistant turn before it. -/
theorem cons_cons (h : Synthesized turns sent) (hfilled : turn.content ≠ [])
    (hnext : next.content ≠ []) (hrole : turn.role = .assistant)
    (hcalls : turn.pending ≠ []) (huser : next.role = .user)
    (hfirst : ∀ first ∈ turns.head?, next.role ≠ first.role) :
    Synthesized (turn :: next :: turns) (untouched turn :: answering turn next :: sent) where
  turns_eq := by
    rw [synthesizeMissingToolResults, if_pos ⟨hrole, hcalls⟩]
    simp [huser, h.turns_eq, answering_turn]
  own := by
    simp only [map_cons, flat_cons, h.own]
    rfl
  alternating := by
    rw [map_cons, map_cons, isChain_cons_cons]
    refine ⟨?_, h.roles_cons hfirst⟩
    show turn.role ≠ next.role
    rw [hrole, huser]
    nofun
  head := rfl
  answered := by
    refine ⟨fun _ id hid => ⟨_, rfl, huser, answering_answers turn next id hid⟩, ?_, h.answered⟩
    intro hassistant
    rw [show (answering turn next).turn.role = next.role from rfl, huser] at hassistant
    cases hassistant
  warranted :=
    ⟨nofun, answering_warranted hrole huser, h.warranted.of_none _⟩
  filled := by
    rw [forall_mem_cons, forall_mem_cons, answering_turn]
    exact ⟨hfilled, by simp [hnext], h.filled⟩

/-- A turn of nothing but results closes a conversation that ends with calls. -/
theorem last (hfilled : turn.content ≠ []) (hrole : turn.role = .assistant)
    (hcalls : turn.pending ≠ []) :
    Synthesized [turn] [untouched turn, answering turn { role := .user, content := [] }] where
  turns_eq := by
    rw [synthesizeMissingToolResults, if_pos ⟨hrole, hcalls⟩]
    simp [answering_turn, Turn.answered]
  own := by
    simp only [map_cons, flat_cons]
    rfl
  alternating := by
    rw [map_cons, map_cons, isChain_cons_cons]
    refine ⟨?_, .singleton _⟩
    show turn.role ≠ .user
    rw [hrole]
    nofun
  head := rfl
  answered :=
    ⟨fun _ id hid => ⟨_, rfl, rfl, answering_answers turn _ id hid⟩, nofun, trivial⟩
  warranted := ⟨nofun, answering_warranted hrole rfl, trivial⟩
  filled := by
    rw [forall_mem_cons, forall_mem_singleton, answering_turn]
    exact ⟨hfilled, by simpa [missingResults, Turn.answered] using hcalls⟩

end Synthesized

theorem exists_synthesized (turns : List Turn) (formed : Formed turns) :
    ∃ sent, Synthesized turns sent := by
  obtain ⟨filled, chain⟩ := formed
  have first_of : ∀ {turn : Turn} {rest : List Turn},
      (turn :: rest).IsChain (fun turn next => turn.role ≠ next.role) →
        ∀ first ∈ rest.head?, turn.role ≠ first.role :=
    fun chain first hfirst => (isChain_cons.mp chain).1 first hfirst
  induction turns using synthesizeMissingToolResults.induct with
  | case1 => exact ⟨[], .nil⟩
  | case2 turn hcalls next after huser ih =>
      rw [forall_mem_cons, forall_mem_cons] at filled
      obtain ⟨sent, h⟩ := ih filled.2.2 chain.tail.tail
      exact ⟨_, h.cons_cons filled.1 filled.2.1 hcalls.1 hcalls.2 huser (first_of chain.tail)⟩
  | case3 turn hcalls next after hnot_user ih =>
      -- two assistant turns in a row cannot be
      have := first_of chain next rfl
      cases hnext : next.role with
      | user => exact absurd hnext hnot_user
      | assistant => exact absurd (hcalls.1.trans hnext.symm) this
  | case4 turn hcalls => exact ⟨_, .last (filled turn (by simp)) hcalls.1 hcalls.2⟩
  | case5 turn rest hquiet ih =>
      rw [forall_mem_cons] at filled
      obtain ⟨sent, h⟩ := ih filled.2 chain.tail
      exact ⟨_, h.cons filled.1 hquiet (first_of chain)⟩

/-! ## The pass ends -/

theorem loop_end (fuel : Nat) (done : List Turn) :
    synthesizeLoop (fuel + 1) done.length done = some done := by
  simp [synthesizeLoop]

theorem loop_quiet (fuel : Nat) (done rest : List Turn) {turn : Turn}
    (hquiet : ¬ (turn.role = .assistant ∧ turn.pending ≠ [])) :
    synthesizeLoop (fuel + 1) done.length (done ++ turn :: rest) =
      synthesizeLoop fuel (done ++ [turn]).length ((done ++ [turn]) ++ rest) := by
  rw [synthesizeLoop, getElem?_append_right (Nat.le_refl _), Nat.sub_self]
  simp only [getElem?_cons_zero, if_neg hquiet]
  simp

/-- At a turn with calls the index moves on to the user turn that then answers them. -/
theorem loop_calls (fuel : Nat) (done rest : List Turn) {turn : Turn}
    (hcalls : turn.role = .assistant ∧ turn.pending ≠ []) :
    synthesizeLoop (fuel + 1) done.length (done ++ turn :: rest) =
      synthesizeLoop fuel (done ++ [turn]).length ((done ++ [turn]) ++
        (openUserTurn rest).modifyHead fun next =>
          { next with content := missingResults turn.pending next.answered ++ next.content }) := by
  have htake : (done ++ turn :: rest).take (done.length + 1) = done ++ [turn] := by
    rw [← singleton_append, ← append_assoc]
    exact take_left' (by simp)
  have hdrop : (done ++ turn :: rest).drop (done.length + 1) = rest := by
    rw [← singleton_append, ← append_assoc]
    exact drop_left' (by simp)
  rw [synthesizeLoop, getElem?_append_right (Nat.le_refl _), Nat.sub_self]
  simp only [getElem?_cons_zero, if_pos hcalls, htake, hdrop, length_append,
    length_singleton]

/-- One round for each turn there is in the end, and one more. -/
theorem synthesizeLoop_eq (rest : List Turn) : ∀ (done : List Turn) (fuel : Nat),
    (synthesizeMissingToolResults rest).length < fuel →
      synthesizeLoop fuel done.length (done ++ rest) =
        some (done ++ synthesizeMissingToolResults rest) := by
  have user_quiet : ∀ content, ¬ ((⟨.user, content⟩ : Turn).role = .assistant ∧
      (⟨.user, content⟩ : Turn).pending ≠ []) := fun _ h => by cases h.1
  induction rest using synthesizeMissingToolResults.induct with
  | case1 =>
      intro done fuel hfuel
      obtain ⟨fuel, rfl⟩ : ∃ n, fuel = n + 1 := ⟨fuel - 1, by omega⟩
      simpa [synthesizeMissingToolResults] using loop_end fuel done
  | case2 turn hcalls next after huser ih =>
      intro done fuel hfuel
      rw [synthesizeMissingToolResults, if_pos hcalls] at hfuel ⊢
      simp only [if_pos huser, length_cons] at hfuel ⊢
      obtain ⟨fuel, rfl⟩ : ∃ n, fuel = n + 2 := ⟨fuel - 2, by omega⟩
      obtain ⟨role, content⟩ := next
      dsimp only at huser
      subst huser
      rw [loop_calls _ _ _ hcalls]
      simp only [openUserTurn, if_true, modifyHead_cons]
      rw [loop_quiet _ _ _ (user_quiet _), ih _ _ (by omega)]
      simp
  | case3 turn hcalls next after hnot_user ih =>
      intro done fuel hfuel
      rw [synthesizeMissingToolResults, if_pos hcalls] at hfuel ⊢
      simp only [if_neg hnot_user, length_cons] at hfuel ⊢
      obtain ⟨fuel, rfl⟩ : ∃ n, fuel = n + 2 := ⟨fuel - 2, by omega⟩
      rw [loop_calls _ _ _ hcalls]
      simp only [openUserTurn, if_neg hnot_user, modifyHead_cons]
      rw [loop_quiet _ _ _ (user_quiet _), ih _ _ (by omega)]
      simp [Turn.answered]
  | case4 turn hcalls =>
      intro done fuel hfuel
      rw [synthesizeMissingToolResults, if_pos hcalls] at hfuel ⊢
      simp only [length_cons, length_nil] at hfuel
      obtain ⟨fuel, rfl⟩ : ∃ n, fuel = n + 3 := ⟨fuel - 3, by omega⟩
      rw [loop_calls _ _ _ hcalls]
      simp only [openUserTurn, modifyHead_cons]
      rw [loop_quiet _ _ _ (user_quiet _)]
      simp only [append_nil]
      rw [loop_end]
      simp [Turn.answered]
  | case5 turn rest hquiet ih =>
      intro done fuel hfuel
      have hunfold : synthesizeMissingToolResults (turn :: rest) =
          turn :: synthesizeMissingToolResults rest := by
        rw [synthesizeMissingToolResults.eq_def]
        simp only [if_neg hquiet]
      rw [hunfold] at hfuel ⊢
      simp only [length_cons] at hfuel
      obtain ⟨fuel, rfl⟩ : ∃ n, fuel = n + 1 := ⟨fuel - 1, by omega⟩
      rw [loop_quiet _ _ _ hquiet, ih _ _ (by omega)]
      simp

/-! ## The conversation -/

/-- A block's text, if it is a text block, is not blank. -/
def Spoken (block : Block) : Prop :=
  ∀ text, block.content = .text text → isBlank text = false

theorem userPartsCached_spoken {part : UserPart × Bool} (h : part ∈ userPartsCached message) :
    Spoken { content := blockOf part.1, cacheControl := part.2 } := by
  intro text htext
  unfold userPartsCached at h
  split_ifs at h with hparts hblank
  · cases h
  · rw [mem_singleton.mp h] at htext
    simp only [blockOf, BlockContent.text.injEq] at htext
    rw [← htext]
    simpa using hblank
  · obtain ⟨raw, -, hraw⟩ := mem_filterMap.mp h
    cases raw with
    | image url marked =>
        simp only [userPartCached, some.injEq] at hraw
        subst hraw
        unfold imagePart at htext
        split at htext <;> simp [blockOf] at htext
    | text words marked =>
        simp only [userPartCached, ite_none_left_eq_some, some.injEq] at hraw
        obtain ⟨hspoken, rfl⟩ := hraw
        simp only [blockOf, BlockContent.text.injEq] at htext
        rw [← htext]
        simpa using hspoken

theorem openAssistant_spoken {content text : String} {calls : List PackedCall}
    (h : openAssistant json content = .envelope (some text) calls) : isBlank text = false := by
  unfold openAssistant at h
  split at h
  · split_ifs at h
    simp only [AssistantTurn.envelope.injEq, filter_eq_some_iff] at h
    simpa using h.1.2
  · cases h

theorem contributions_spoken (h : entry ∈ contributions json message) : Spoken entry.2 := by
  unfold contributions at h
  split at h
  · obtain ⟨part, hpart, rfl⟩ := mem_map.mp h
    exact userPartsCached_spoken hpart
  · split at h
    · next text calls hopen =>
      rcases mem_append.mp h with h | h
      · obtain ⟨words, hwords, rfl⟩ := mem_map.mp h
        rw [mem_toList] at hwords
        rw [hwords] at hopen
        rintro text ⟨⟩
        exact openAssistant_spoken hopen
      · obtain ⟨call, -, rfl⟩ := mem_map.mp h
        rintro text ⟨⟩
    · next text hopen =>
      split_ifs at h with hblank
      · cases h
      · rw [mem_singleton.mp h]
        rintro words ⟨⟩
        simpa using hblank
  · rw [mem_singleton.mp h]
    rintro words ⟨⟩
  · cases h

/-- A breakpoint changes no block's content. -/
theorem mem_markEnd (h : entry ∈ markEnd row) :
    ∃ plain ∈ row, plain.1 = entry.1 ∧ plain.2.content = entry.2.content := by
  obtain rfl | ⟨first, last, rfl⟩ := eq_nil_or_concat' row
  · cases h
  · rw [markEnd_concat] at h
    rcases mem_append.mp h with h | h
    · exact ⟨entry, mem_append_left _ h, rfl, rfl⟩
    · rw [mem_singleton.mp h]
      exact ⟨last, by simp, rfl, rfl⟩

theorem contributed_spoken (h : entry ∈ contributed json message) : Spoken entry.2 := by
  unfold contributed at h
  split_ifs at h
  · obtain ⟨plain, hplain, -, hcontent⟩ := mem_markEnd h
    intro text htext
    exact contributions_spoken hplain text (hcontent.trans htext)
  · exact contributions_spoken h

theorem mem_flat {turn : Turn} {block : Block} (hturn : turn ∈ turns)
    (hblock : block ∈ turn.content) : (turn.role, block) ∈ flat turns :=
  mem_flatMap.mpr ⟨turn, hturn, mem_map_of_mem hblock⟩

end ZeroRouter.Wire
