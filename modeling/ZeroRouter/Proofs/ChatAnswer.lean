import ZeroRouter.Proofs.ChatStream
import ZeroRouter.Proofs.ChatTools

/-!
# A streamed answer is the buffered one

An upstream splits an answer into chunks; the machine puts it together again.  Its text arrives in
any pieces, its calls in any fragments, its usage in snapshots that only grow.
-/

namespace ZeroRouter.Wire

open List

variable {views : List ChunkView} {machine : ChatCompletionsStreamMachine} {answer : ChatAnswer}
  {view : ChunkView} {events : List StreamEvent} {indices : List Nat} {payload : String} {α : Type}
  {fragments : List ToolFragment} {json : SerdeJson}

/-! ## The answer and its two shapes -/

/-- An answer as the upstream means it. -/
structure ChatAnswer where
  text : String
  reasoning : String
  toolCalls : List ToolCall
  finishReason : Option String
  usage : Option ChatUsageReport
  deriving DecidableEq, Repr

def callValue (call : ToolCall) : Value :=
  .object [("id", .string call.id), ("type", .string "function"),
    ("function", .object [("name", .string call.name), ("arguments", .string call.arguments)])]

/-- The buffered body. -/
def ChatAnswer.envelope (answer : ChatAnswer) : ChatCompletionsEnvelope where
  choices :=
    [.object
      [("index", .integer 0),
        ("message", .object
          [("role", .string "assistant"), ("content", .string answer.text),
            ("reasoning_content", .string answer.reasoning),
            ("tool_calls", .array (answer.toolCalls.map callValue))]),
        ("finish_reason", .ofOption answer.finishReason)]]
  usage := answer.usage.map fun report =>
    { promptTokens := report.promptTokens
      completionTokens := report.completionTokens
      promptTokensDetails := some { cachedTokens := report.cachedTokens } }

/-- A text there is something in. -/
def stated? (text : String) : Option String := (some text).filter (· ≠ "")

section Buffered

variable (json : SerdeJson)

theorem parseChatToolCall_callValue (call : ToolCall) :
    parseChatToolCall json (callValue call) = call := rfl

theorem parse_envelope (answer : ChatAnswer) :
    parseChatCompletionsEnvelope json answer.envelope =
      { text := stated? answer.text
        toolCalls := answer.toolCalls
        usage := answer.usage.bind (·.intoTokenUsage)
        reasoningContent := stated? answer.reasoning
        stopReason := answer.finishReason.bind StopReason.fromOpenai } := by
  have calls : (answer.toolCalls.map callValue).map (parseChatToolCall json) =
      answer.toolCalls := by
    rw [map_map]
    calc answer.toolCalls.map (parseChatToolCall json ∘ callValue)
      _ = answer.toolCalls.map id := map_congr_left fun call _ =>
          parseChatToolCall_callValue json call
      _ = answer.toolCalls := map_id _
  have usage : answer.envelope.usage.bind (·.intoTokenUsage) =
      answer.usage.bind (·.intoTokenUsage) := by
    unfold ChatAnswer.envelope
    cases answer.usage <;> rfl
  have reason : (Value.ofOption answer.finishReason).asStr = answer.finishReason := by
    cases answer.finishReason <;> rfl
  unfold parseChatCompletionsEnvelope
  rw [usage]
  change ChatReply.mk (ChatResponse.mk (stated? answer.text) _ (stated? answer.reasoning) _)
    ((Value.ofOption answer.finishReason).asStr.bind StopReason.fromOpenai) = _
  rw [reason]
  change ChatReply.mk (ChatResponse.mk (stated? answer.text)
    ((answer.toolCalls.map callValue).map (parseChatToolCall json)) (stated? answer.reasoning) _)
      _ = _
  rw [calls]

end Buffered

/-! ## What the events say -/

def deltaText : StreamEvent → String
  | .textDelta chunk => chunk.delta
  | _ => ""

def reasoningText : StreamEvent → String
  | .textDelta chunk => chunk.reasoning.getD ""
  | _ => ""

def callOf? : StreamEvent → Option ToolCall
  | .toolCall call => some call
  | _ => none

def usageOf? : StreamEvent → Option TokenUsage
  | .usage usage => some usage
  | _ => none

def finalOf? : StreamEvent → Option StreamFinal
  | .final final => some final
  | _ => none

/-- The reply a consumer puts together. -/
def replyOf (events : List StreamEvent) : ChatReply where
  text := stated? (joined (events.map deltaText))
  toolCalls := events.filterMap callOf?
  usage := (events.filterMap usageOf?).head?
  reasoningContent := stated? (joined (events.map reasoningText))
  stopReason := (events.filterMap finalOf?).head?.bind (·.stopReason)

/-- The events of a stream. -/
def eventsOf (items : List StreamItem) : List StreamEvent :=
  items.filterMap fun
    | .event event => some event
    | _ => none

/-! ## Reports that only grow -/

namespace ChatUsageReport

/-- `later` states whatever `earlier` does, and no less. -/
structure Grows (earlier later : ChatUsageReport) : Prop where
  prompt : ∀ tokens, earlier.promptTokens = some tokens →
    ∃ more, later.promptTokens = some more ∧ tokens ≤ more
  completion : ∀ tokens, earlier.completionTokens = some tokens →
    ∃ more, later.completionTokens = some more ∧ tokens ≤ more
  cached : ∀ tokens, earlier.cachedTokens = some tokens →
    ∃ more, later.cachedTokens = some more ∧ tokens ≤ more

theorem grows_empty (report : ChatUsageReport) : Grows .empty report := by
  constructor <;> exact fun tokens h => by cases h

variable {earlier later : ChatUsageReport}

/-- A dimension that grew is no contradiction. -/
theorem not_shrunk {earlier later : Option Nat}
    (grows : ∀ tokens, earlier = some tokens → ∃ more, later = some more ∧ tokens ≤ more) :
    later.or earlier = later ∧ ∀ more tokens, later = some more → earlier = some tokens →
      ¬ more < tokens := by
  cases earlier with
  | none => exact ⟨Option.or_none, fun _ _ _ h => by cases h⟩
  | some tokens =>
      obtain ⟨more, rfl, le⟩ := grows tokens rfl
      refine ⟨rfl, ?_⟩
      rintro _ _ ⟨rfl⟩ ⟨rfl⟩
      exact not_lt.mpr le

theorem Grows.replacedBy (grows : Grows earlier later) : earlier.replacedBy later = later := by
  unfold ChatUsageReport.replacedBy
  rw [(not_shrunk grows.prompt).1, (not_shrunk grows.completion).1, (not_shrunk grows.cached).1]

theorem Grows.shrinksAgainst (grows : Grows earlier later) :
    later.shrinksAgainst earlier = false := by
  have prompt := (not_shrunk grows.prompt).2
  have completion := (not_shrunk grows.completion).2
  have cached := (not_shrunk grows.cached).2
  unfold ChatUsageReport.shrinksAgainst ChatUsageReport.fields
  rw [any_eq_false]
  rintro ⟨incoming, accepted⟩ mem
  simp only [zip_cons_cons, zip_nil_right, mem_cons, Prod.mk.injEq,
    not_mem_nil, or_false] at mem
  split
  · next less accepted both =>
      obtain ⟨stated, held⟩ := Prod.mk.inj both
      rw [decide_eq_true_eq]
      rcases mem with ⟨new, old⟩ | ⟨new, old⟩ | ⟨new, old⟩
      · exact prompt _ _ (new.symm.trans stated) (old.symm.trans held)
      · exact completion _ _ (new.symm.trans stated) (old.symm.trans held)
      · exact cached _ _ (new.symm.trans stated) (old.symm.trans held)
  · exact Bool.false_ne_true

end ChatUsageReport

/-! ## A chunk as the machine reads it -/

section Chunks

variable (json : SerdeJson) (provider : String)

/-- What a chunk says. -/
structure ChunkView where
  usage : ChatUsageReport
  content : String
  reasoning : String
  fragments : List ToolFragment
  finishReason : Option String

def chunkView (value : Value) : ChunkView :=
  let choice := ((value.get "choices").bind Value.asArray).bind (·.head?)
  let delta := choice.bind (·.get "delta")
  { usage := (value.get "usage").elim .empty .ofValue
    content := (delta.bind (·.str "content")).getD ""
    reasoning := (delta.bind (·.str "reasoning_content")).getD ""
    fragments := (delta.map (ChatCompletionsStreamMachine.deltaFragments json)).getD []
    finishReason := choice.bind (·.str "finish_reason") }

/-- A payload that parses to a chunk which is no error. -/
structure ChunkSpoken (payload : String) (view : ChunkView) : Prop where
  unended : trim payload ≠ "[DONE]"
  chunk : ∃ value, json.fromStr payload = some value ∧
    ChatCompletionsStreamMachine.inBandError value = none ∧ chunkView json value = view

/-- `absorb_usage` of a report. -/
def absorbReport (machine : ChatCompletionsStreamMachine) (incoming : ChatUsageReport) :
    ChatCompletionsStreamMachine :=
  if incoming.isEmpty then machine
  else if incoming.shrinksAgainst machine.usage then machine
  else { machine with usage := machine.usage.replacedBy incoming, usageReported := true }

theorem absorbUsage_report (machine : ChatCompletionsStreamMachine) (value : Option Value) :
    machine.absorbUsage value = absorbReport machine (value.elim .empty .ofValue) := by
  cases value <;> rfl

/-- Output of a chunk, and nothing else. -/
structure Voiced (view : ChunkView) (events : List StreamEvent) : Prop where
  content : joined (events.map deltaText) = view.content
  reasoning : joined (events.map reasoningText) = view.reasoning
  texts : ∀ event ∈ events, ∃ chunk, event = .textDelta chunk

theorem deltaEvents_voiced (machine : ChatCompletionsStreamMachine) (delta : Value) :
    joined ((machine.deltaEvents delta).map deltaText) = (delta.str "content").getD "" ∧
      joined ((machine.deltaEvents delta).map reasoningText) =
        (delta.str "reasoning_content").getD "" ∧
      ∀ event ∈ machine.deltaEvents delta, ∃ chunk, event = .textDelta chunk := by
  unfold ChatCompletionsStreamMachine.deltaEvents
  generalize (delta.str "content").getD "" = content
  generalize (delta.str "reasoning_content").getD "" = reasoning
  have first : ∀ counted : Bool, ∀ chunk, chunk = StreamChunk.ofDelta content →
      (if counted then { chunk with tokenCount := content.utf8ByteSize / 4 } else chunk).delta =
          content ∧
        (if counted then { chunk with tokenCount := content.utf8ByteSize / 4 }
          else chunk).reasoning = none := by
    rintro counted chunk rfl
    cases counted <;> exact ⟨rfl, rfl⟩
  obtain ⟨said, unreasoned⟩ := first machine.countTokens _ rfl
  by_cases quiet : content = ""
  · by_cases calm : reasoning = ""
    · simp [quiet, calm]
    · simp [quiet, calm, deltaText, reasoningText, StreamChunk.ofReasoning]
  · by_cases calm : reasoning = ""
    · simp [quiet, calm, deltaText, reasoningText, said, unreasoned]
    · simp [quiet, calm, deltaText, reasoningText, said, unreasoned, StreamChunk.ofReasoning]

open ChatCompletionsStreamMachine in
/-- A chunk whose fragments find room is taken whole. -/
theorem handlePayload_spoken {next : ChatCompletionsStreamMachine}
    (live : machine.finished = false) (spoken : ChunkSpoken json payload view)
    (absorbed : (absorbReport machine view.usage).absorbToolFragments provider 0 view.fragments =
      (next, .ok ())) :
    ∃ events, machine.handlePayload json provider payload =
        ({ next with finishReason := view.finishReason.or next.finishReason }, .ok events) ∧
      Voiced view events := by
  obtain ⟨value, parsed, sound, rfl⟩ := spoken.chunk
  unfold handlePayload
  rw [if_neg spoken.unended, parsed]
  simp only [handle, live, sound, absorbUsage_report]
  simp only [chunkView] at absorbed ⊢
  cases choices : ((value.get "choices").bind Value.asArray).bind (·.head?) with
  | none =>
      rw [choices] at absorbed
      cases absorbed
      exact ⟨[], rfl, rfl, rfl, by simp⟩
  | some choice =>
      rw [choices] at absorbed
      simp only [Option.bind_some] at absorbed
      simp only [absorbChoice, absorbed]
      cases delta : choice.get "delta" with
      | none => exact ⟨[], by simp, by simp [delta], by simp [delta], by simp⟩
      | some delta' =>
          obtain ⟨content, reasoning, texts⟩ := deltaEvents_voiced
            (absorbReport machine ((value.get "usage").elim .empty .ofValue)) delta'
          refine ⟨_, rfl, ?_, ?_, ?_⟩
          · simpa [delta] using content
          · simpa [delta] using reasoning
          · simpa [delta] using texts



end Chunks

/-! ## A conforming stream -/

/-- The reports of a stream. -/
def reports (views : List ChunkView) : List ChatUsageReport :=
  (views.map (·.usage)).filter fun report => !report.isEmpty

def lastReport (views : List ChunkView) : ChatUsageReport := (reports views).getLast?.getD .empty

def fragmentsOf (views : List ChunkView) : List ToolFragment := views.flatMap (·.fragments)

def lastReason (views : List ChunkView) : Option String :=
  (views.filterMap (·.finishReason)).getLast?

theorem getLast?_concat_or (items : List α) (item : Option α) :
    (items ++ item.toList).getLast? = item.or items.getLast? := by
  cases item <;> simp

theorem lastReason_concat (views : List ChunkView) (view : ChunkView) :
    lastReason (views ++ [view]) = view.finishReason.or (lastReason views) := by
  unfold lastReason
  rw [filterMap_append]
  have one : [view].filterMap (·.finishReason) = view.finishReason.toList := by
    cases h : view.finishReason <;> simp [h]
  rw [one, getLast?_concat_or]

theorem reports_concat (views : List ChunkView) (view : ChunkView) :
    reports (views ++ [view]) =
      reports views ++ if view.usage.isEmpty then [] else [view.usage] := by
  unfold reports
  cases h : view.usage.isEmpty <;> simp [h]

/-- A report that grows on all before it is the one a machine then holds. -/
theorem absorbReport_grows (holds : machine.usage = lastReport views)
    (grows : (reports (views ++ [view])).Pairwise ChatUsageReport.Grows) :
    (absorbReport machine view.usage).usage = lastReport (views ++ [view]) := by
  unfold absorbReport lastReport
  rw [reports_concat] at grows ⊢
  by_cases empty : view.usage.isEmpty = true
  · rw [if_pos empty, if_pos empty, append_nil]
    exact holds
  · rw [if_neg empty, if_neg empty, getLast?_concat, Option.getD_some]
    rw [if_neg empty, pairwise_append] at grows
    have grown : ChatUsageReport.Grows machine.usage view.usage := by
      rw [holds, lastReport]
      cases last : (reports views).getLast? with
      | none => exact ChatUsageReport.grows_empty view.usage
      | some report =>
          exact grows.2.2 report (mem_of_getLast? last) view.usage mem_cons_self
    rw [grown.shrinksAgainst, if_neg Bool.false_ne_true]
    exact grown.replacedBy

/-- A machine that has heard some chunks, and said some events. -/
structure Followed {all : List ToolFragment} (assembly : Assembly all)
    (machine : ChatCompletionsStreamMachine) (views : List ChunkView)
    (events : List StreamEvent) : Prop where
  live : machine.finished = false
  usage : machine.usage = lastReport views
  reason : machine.finishReason = lastReason views
  slots : assembly.Slots (fragmentsOf views) machine.openTools
  bytes : machine.toolArgumentBytes = argumentBytes (fragmentsOf views)
  content : joined (events.map deltaText) = joined (views.map (·.content))
  reasoning : joined (events.map reasoningText) = joined (views.map (·.reasoning))
  texts : ∀ event ∈ events, ∃ chunk, event = .textDelta chunk

theorem absorbReport_rest (machine : ChatCompletionsStreamMachine) (report : ChatUsageReport) :
    ∃ usage reported, absorbReport machine report =
      { machine with usage := usage, usageReported := reported } := by
  unfold absorbReport
  split
  · exact ⟨_, _, rfl⟩
  · split
    · exact ⟨_, _, rfl⟩
    · exact ⟨_, _, rfl⟩

section Follow

variable {json : SerdeJson} (provider : String) {all : List ToolFragment}
  {assembly : Assembly all}

/-- One chunk. -/
theorem followed_spoken (few : argumentBytes all ≤ maxToolArgumentBytes)
    {done rest : List ChunkView} (split : all = fragmentsOf (done ++ view :: rest))
    (grows : (reports (done ++ view :: rest)).Pairwise ChatUsageReport.Grows)
    (followed : Followed assembly machine done events) (spoken : ChunkSpoken json payload view) :
    ∃ next more, machine.handlePayload json provider payload = (next, .ok more) ∧
      Followed assembly next (done ++ [view]) (events ++ more) := by
  obtain ⟨usage, reported, absorbed⟩ := absorbReport_rest machine view.usage
  have grown : (absorbReport machine view.usage).usage = lastReport (done ++ [view]) := by
    refine absorbReport_grows followed.usage ?_
    rw [append_cons] at grows
    refine grows.sublist ?_
    exact ((sublist_append_left _ rest).map _).filter _
  have parts : all = fragmentsOf done ++ view.fragments ++ fragmentsOf rest := by
    rw [split]
    simp [fragmentsOf]
  obtain ⟨slots, taken, filled⟩ := absorbToolFragments_ok provider assembly few view.fragments
    (fragmentsOf done) (fragmentsOf rest) (absorbReport machine view.usage) 0 parts (Nat.zero_le _)
    (by rw [absorbed]; exact followed.slots) (by rw [absorbed]; exact followed.bytes)
  obtain ⟨more, handled, voiced⟩ := handlePayload_spoken json provider followed.live spoken taken
  have fragments : fragmentsOf (done ++ [view]) = fragmentsOf done ++ view.fragments := by
    simp [fragmentsOf]
  refine ⟨_, more, handled, ?_⟩
  constructor
  · change (absorbReport machine view.usage).finished = false
    rw [absorbed]
    exact followed.live
  · exact grown
  · rw [lastReason_concat, ← followed.reason, absorbed]
  · rwa [fragments]
  · rw [fragments]
  · rw [map_append, joined_append, followed.content, voiced.content]
    simp
  · rw [map_append, joined_append, followed.reasoning, voiced.reasoning]
    simp
  · intro event mem
    rcases mem_append.mp mem with mem | mem
    · exact followed.texts event mem
    · exact voiced.texts event mem

end Follow

/-! ## The two answers -/

/-- Every fragment is a whole call, the calls told apart by their ids. -/
structure Indexless (calls : List ToolCall) (fragments : List ToolFragment) : Prop where
  whole : fragments = calls.map wholeFragment
  identified : ∀ call ∈ calls, call.id ≠ ""
  distinct : (calls.map (·.id)).Nodup

/-- An answer split into chunks. -/
structure SplitInto (answer : ChatAnswer) (views : List ChunkView) : Prop where
  content : joined (views.map (·.content)) = answer.text
  reasoning : joined (views.map (·.reasoning)) = answer.reasoning
  reason : lastReason views = answer.finishReason
  grows : (reports views).Pairwise ChatUsageReport.Grows
  usage : (reports views).getLast? = answer.usage.filter fun report => !report.isEmpty
  calls : (∃ indices, Indexed answer.toolCalls (fragmentsOf views) indices) ∨
    Indexless answer.toolCalls (fragmentsOf views)

/-- The payloads of an answer, the sentinel behind them or not. -/
structure Conforming (json : SerdeJson) (answer : ChatAnswer) (payloads : List String) : Prop where
  few : answer.toolCalls.length ≤ maxOpenToolBlocks
  short : (answer.toolCalls.map (·.arguments.utf8ByteSize)).sum ≤ maxToolArgumentBytes
  split : ∃ chunks views ending, payloads = chunks ++ ending ∧
    List.Forall₂ (ChunkSpoken json) chunks views ∧ SplitInto answer views ∧
    (ending = [] ∨ ∃ sentinel, trim sentinel = "[DONE]" ∧ ending = [sentinel])

/-- A call without arguments is streamed as one with none of them. -/
def settledCall (call : ToolCall) : ToolCall where
  id := call.id
  name := call.name
  arguments := if call.arguments = "" then "\x7b\x7d" else call.arguments

/-- What a stream makes of a reply: its calls with arguments, its usage if that states a side. -/
def settled (reply : ChatReply) : ChatReply :=
  { reply with
    toolCalls := reply.toolCalls.map settledCall
    usage := reply.usage.filter fun usage => usage.inputTokens.isSome || usage.outputTokens.isSome }

theorem joined_silent {say : StreamEvent → String} (silent : ∀ event ∈ events, say event = "") :
    joined (events.map say) = "" := by
  induction events with
  | nil => rfl
  | cons event events ih =>
      rw [map_cons, joined_cons, silent event mem_cons_self,
        ih fun other mem => silent other (mem_cons_of_mem _ mem)]
      rfl

theorem filterMap_texts (f : StreamEvent → Option α)
    (texts : ∀ event ∈ events, ∃ chunk, event = .textDelta chunk)
    (none : ∀ chunk, f (.textDelta chunk) = none) : events.filterMap f = [] := by
  rw [filterMap_eq_nil_iff]
  intro event mem
  obtain ⟨chunk, rfl⟩ := texts event mem
  exact none chunk

theorem usage_settled (answer : ChatAnswer)
    (h : (reports views).getLast? = answer.usage.filter fun report => !report.isEmpty) :
    ((lastReport views).intoTokenUsage.filter fun usage =>
        usage.inputTokens.isSome || usage.outputTokens.isSome) =
      (answer.usage.bind (·.intoTokenUsage)).filter fun usage =>
        usage.inputTokens.isSome || usage.outputTokens.isSome := by
  rw [lastReport, h]
  cases answer.usage with
  | none => rfl
  | some report =>
      rw [Option.filter_some]
      split
      · rfl
      · next empty =>
          have blank : report = .empty := by
            rcases report with ⟨_ | _, _ | _, _ | _⟩ <;>
              simp_all [ChatUsageReport.isEmpty, ChatUsageReport.empty]
          rw [blank]
          rfl

/-- What a machine that heard the whole answer closes with. -/
theorem replyOf_terminal (json : SerdeJson) {all : List ToolFragment} {assembly : Assembly all}
    {texts : List StreamEvent} (split : SplitInto answer views)
    (followed : Followed assembly machine views texts)
    (values : machine.openTools.values = answer.toolCalls.map pendingOf) (sawDone : Bool) :
    replyOf (texts ++ terminal { machine with sawDone := sawDone }) =
      settled (parseChatCompletionsEnvelope json answer.envelope) := by
  have reported : machine.partialUsage =
      (answer.usage.bind (·.intoTokenUsage)).filter fun usage =>
        usage.inputTokens.isSome || usage.outputTokens.isSome := by
    rw [← usage_settled answer split.usage, ← followed.usage]
    rfl
  have silent : ∀ event ∈ terminal { machine with sawDone := sawDone },
      deltaText event = "" ∧ reasoningText event = "" := by
    intro event mem
    simp only [terminal, mem_append, mem_map, Option.mem_toList, Option.map_eq_some_iff,
      mem_singleton] at mem
    rcases mem with (⟨_, _, rfl⟩ | ⟨_, _, rfl⟩) | rfl
    · exact ⟨rfl, rfl⟩
    · exact ⟨rfl, rfl⟩
    · exact ⟨rfl, rfl⟩
  have content : joined ((texts ++ terminal { machine with sawDone := sawDone }).map deltaText) =
      answer.text := by
    rw [map_append, joined_append, joined_silent fun event mem => (silent event mem).1,
      String.append_empty, followed.content, split.content]
  have reasoning :
      joined ((texts ++ terminal { machine with sawDone := sawDone }).map reasoningText) =
        answer.reasoning := by
    rw [map_append, joined_append, joined_silent fun event mem => (silent event mem).2,
      String.append_empty, followed.reasoning, split.reasoning]
  have calls : (texts ++ terminal { machine with sawDone := sawDone }).filterMap callOf? =
      answer.toolCalls.map settledCall := by
    rw [filterMap_append, filterMap_texts callOf? followed.texts fun _ => rfl, nil_append]
    unfold terminal
    rw [values, filterMap_append, filterMap_append, map_map, filterMap_map]
    have none : ((({ machine with sawDone := sawDone } :
        ChatCompletionsStreamMachine).partialUsage.map StreamEvent.usage).toList).filterMap callOf? =
          [] := by
      cases ({ machine with sawDone := sawDone } : ChatCompletionsStreamMachine).partialUsage <;> rfl
    rw [none, append_nil]
    change answer.toolCalls.filterMap (some ∘ settledCall) ++ [] = _
    rw [append_nil, filterMap_eq_map]
  have usages : ((texts ++ terminal { machine with sawDone := sawDone }).filterMap usageOf?).head? =
      machine.partialUsage := by
    rw [filterMap_append, filterMap_texts usageOf? followed.texts fun _ => rfl, nil_append]
    unfold terminal
    rw [filterMap_append, filterMap_append, filterMap_map]
    have none : machine.openTools.values.filterMap
        (usageOf? ∘ fun pending => StreamEvent.toolCall pending.toolCall) = [] := by
      rw [filterMap_eq_nil_iff]
      exact fun _ _ => rfl
    rw [none]
    change ((machine.partialUsage.map StreamEvent.usage).toList.filterMap usageOf? ++ []).head? = _
    cases machine.partialUsage <;> rfl
  have final : ((texts ++ terminal { machine with sawDone := sawDone }).filterMap finalOf?).head?.bind
      (·.stopReason) = answer.finishReason.bind StopReason.fromOpenai := by
    rw [filterMap_append, filterMap_texts finalOf? followed.texts fun _ => rfl, nil_append]
    unfold terminal
    rw [filterMap_append, filterMap_append, filterMap_map]
    have none : machine.openTools.values.filterMap
        (finalOf? ∘ fun pending => StreamEvent.toolCall pending.toolCall) = [] := by
      rw [filterMap_eq_nil_iff]
      exact fun _ _ => rfl
    rw [none, ← split.reason, ← followed.reason]
    change ((machine.partialUsage.map StreamEvent.usage).toList.filterMap finalOf? ++ _).head?.bind _ =
      _
    cases machine.partialUsage <;> rfl
  rw [parse_envelope, settled, replyOf, content, reasoning, calls, usages, final, reported]

/-! ## Room for the calls -/

theorem sum_indicator (distinct : indices.Nodup) {index : Nat} (mem : index ∈ indices)
    (size : Nat) :
    (indices.map fun key => if index = key then size else 0).sum = size := by
  induction indices with
  | nil => cases mem
  | cons first rest ih =>
      obtain ⟨fresh, distinct⟩ := nodup_cons.mp distinct
      rw [map_cons, sum_cons]
      by_cases same : index = first
      · have none : (rest.map fun key => if index = key then size else 0).sum = 0 := by
          rw [sum_eq_zero_iff]
          intro part mem
          obtain ⟨key, key_mem, rfl⟩ := mem_map.mp mem
          rw [if_neg]
          rintro rfl
          exact fresh (same ▸ key_mem)
        rw [if_pos same, none, Nat.add_zero]
      · rw [if_neg same, ih distinct ((mem_cons.mp mem).resolve_left same), Nat.zero_add]

/-- The bytes of the fragments, index by index. -/
theorem argumentBytes_under (distinct : indices.Nodup) (fragments : List ToolFragment)
    (within : ∀ fragment ∈ fragments, ∃ index ∈ indices, fragment.index = some index) :
    argumentBytes fragments =
      (indices.map fun index => argumentBytes (under index fragments)).sum := by
  induction fragments with
  | nil =>
      have zero : (indices.map fun _ => 0).sum = 0 := by simp
      exact zero.symm
  | cons fragment fragments ih =>
      obtain ⟨index, mem, stated⟩ := within fragment mem_cons_self
      have split : ∀ key, argumentBytes (under key (fragment :: fragments)) =
          (if index = key then fragment.arguments.utf8ByteSize else 0) +
            argumentBytes (under key fragments) := by
        intro key
        unfold under
        rw [filter_cons, stated]
        by_cases same : index = key
        · simp [same, argumentBytes]
        · simp [same]
      have first : argumentBytes (fragment :: fragments) =
          fragment.arguments.utf8ByteSize + argumentBytes fragments := by
        simp [argumentBytes]
      rw [first, ih fun other mem => within other (mem_cons_of_mem _ mem),
        map_congr_left fun key _ => split key, sum_map_add, sum_indicator distinct mem]

theorem argumentBytes_joined (fragments : List ToolFragment) :
    argumentBytes fragments = (joined (fragments.map (·.arguments))).utf8ByteSize := by
  induction fragments with
  | nil => rfl
  | cons fragment fragments ih =>
      rw [map_cons, joined_cons, String.utf8ByteSize_append, ← ih]
      simp [argumentBytes]

theorem Indexed.bytes {calls : List ToolCall} (indexed : Indexed calls fragments indices) :
    argumentBytes fragments = (calls.map (·.arguments.utf8ByteSize)).sum := by
  rw [argumentBytes_under (indexed.ascending.imp Nat.ne_of_lt) fragments indexed.index]
  have entries : ∀ entry ∈ indices.zip calls,
      argumentBytes (under entry.1 fragments) = entry.2.arguments.utf8ByteSize := by
    intro entry mem
    rw [argumentBytes_joined, (indexed.pieces entry mem).arguments]
  have firsts : (indices.zip calls).map Prod.fst = indices :=
    map_fst_zip indexed.length.le
  have seconds : (indices.zip calls).map Prod.snd = calls :=
    map_snd_zip indexed.length.ge
  calc (indices.map fun index => argumentBytes (under index fragments)).sum
    _ = ((indices.zip calls).map fun entry => argumentBytes (under entry.1 fragments)).sum := by
        conv_lhs => rw [← firsts, map_map]
        rfl
    _ = ((indices.zip calls).map fun entry => entry.2.arguments.utf8ByteSize).sum := by
        rw [map_congr_left entries]
    _ = (calls.map (·.arguments.utf8ByteSize)).sum := by
        conv_rhs => rw [← seconds, map_map]
        rfl

/-- Calls split either way are put together. -/
theorem exists_assembly (split : SplitInto answer views)
    (few : answer.toolCalls.length ≤ maxOpenToolBlocks) :
    ∃ assembly : Assembly (fragmentsOf views),
      (∀ slots, assembly.Slots (fragmentsOf views) slots →
        slots.values = answer.toolCalls.map pendingOf) ∧
      argumentBytes (fragmentsOf views) =
        (answer.toolCalls.map (·.arguments.utf8ByteSize)).sum := by
  rcases split.calls with ⟨indices, indexed⟩ | indexless
  · exact ⟨indexed.assembly few, fun slots filled => indexed.values filled, indexed.bytes⟩
  · obtain ⟨whole, identified, distinct⟩ := indexless
    rw [whole]
    refine ⟨indexlessAssembly few identified distinct, fun slots filled => ?_, ?_⟩
    · refine values_enumerated (filled.trans ?_)
      rw [length_map, take_length]
    · rw [argumentBytes, map_map]
      rfl

/-! ## Driving the machine over an answer -/

section Drive

variable {json : SerdeJson} (provider : String) {all : List ToolFragment}
  {assembly : Assembly all}

@[simp] theorem eventsOf_append (items later : List StreamItem) :
    eventsOf (items ++ later) = eventsOf items ++ eventsOf later := filterMap_append

theorem eventsOf_read (payload : String) (events : List StreamEvent) :
    eventsOf (.read payload :: events.map .event) = events := by
  have all : eventsOf (events.map .event) = events := by
    rw [eventsOf, filterMap_map]
    exact filterMap_some
  exact all

theorem feed_followed (few : argumentBytes all ≤ maxToolArgumentBytes) {chunks : List String}
    (spoken : List.Forall₂ (ChunkSpoken json) chunks views) (done : List ChunkView)
    (split : all = fragmentsOf (done ++ views))
    (grows : (reports (done ++ views)).Pairwise ChatUsageReport.Grows)
    (machine : ChatCompletionsStreamMachine) (events : List StreamEvent)
    (followed : Followed assembly machine done events) :
    ∃ items next, (ChatCompletionsStreamMachine.stream json provider).feed machine chunks =
        (items, some next) ∧
      Followed assembly next (done ++ views) (events ++ eventsOf items) := by
  induction spoken generalizing done machine events with
  | nil => exact ⟨[], machine, rfl, by simpa [eventsOf] using followed⟩
  | @cons chunk view chunks views heard _ ih =>
      obtain ⟨middle, more, handled, followed⟩ :=
        followed_spoken provider few split grows followed heard
      obtain ⟨items, next, fed, followed⟩ := ih (done ++ [view])
        (by rw [split, append_assoc, singleton_append])
        (by rwa [append_assoc, singleton_append]) middle (events ++ more) followed
      refine ⟨.read chunk :: more.map .event ++ items, next, ?_, ?_⟩
      · have step : (ChatCompletionsStreamMachine.stream json provider).handlePayload machine chunk =
            (middle, .ok more) := handled
        simp only [StreamMachine.feed, step, fed]
      · rw [eventsOf_append, eventsOf_read, ← append_assoc]
        rwa [append_assoc, singleton_append] at followed

end Drive


theorem feed_conforming {payloads : List String} (provider : String) (countTokens : Bool)
    (conforming : Conforming json answer payloads) :
    ∃ items machine,
      (ChatCompletionsStreamMachine.stream json provider).feed (.new countTokens) payloads =
        (items, some machine) ∧
      replyOf (eventsOf items ++ machine.terminate.2) =
        settled (parseChatCompletionsEnvelope json answer.envelope) := by
  obtain ⟨chunks, views, ending, rfl, spoken, split, ends⟩ := conforming.split
  obtain ⟨assembly, values, bytes⟩ := exists_assembly split conforming.few
  have start : Followed assembly (.new countTokens) [] [] :=
    ⟨rfl, rfl, rfl, assembly.start, rfl, rfl, rfl, by simp⟩
  obtain ⟨items, next, fed, followed⟩ := feed_followed provider
    (bytes.trans_le conforming.short) spoken [] rfl split.grows (.new countTokens) [] start
  rw [nil_append, nil_append] at followed
  have closed := replyOf_terminal json split followed (values _ followed.slots)
  rcases ends with rfl | ⟨sentinel, done, rfl⟩
  · refine ⟨items, next, by rw [append_nil, fed], ?_⟩
    rw [terminate_live followed.live]
    exact closed next.sawDone
  · have live : ({ next with sawDone := true } : ChatCompletionsStreamMachine).finished = false :=
      followed.live
    have ended : (ChatCompletionsStreamMachine.stream json provider).handlePayload next sentinel =
        ({ next with sawDone := true, openTools := .empty, usage := .empty, finished := true },
          .ok (terminal { next with sawDone := true })) := by
      change next.handlePayload json provider sentinel = _
      unfold ChatCompletionsStreamMachine.handlePayload
      rw [if_pos done, terminate_live live]
    have last : (ChatCompletionsStreamMachine.stream json provider).feed next [sentinel] =
        (.read sentinel :: (terminal { next with sawDone := true }).map .event,
          some { next with sawDone := true, openTools := .empty, usage := .empty, finished := true }) := by
      simp only [StreamMachine.feed, ended, append_nil]
    refine ⟨_, _, StreamMachine.feed_append _ chunks [sentinel] _ next items fed |>.trans
      (by rw [last]), ?_⟩
    rw [eventsOf_append, eventsOf_read, terminate_finished rfl, append_nil]
    exact closed true

/-- A reply that has nothing to settle. -/
theorem settled_eq (argued : ∀ call ∈ answer.toolCalls, call.arguments ≠ "")
    (sided : ∀ report, answer.usage = some report →
      report.promptTokens.isSome ∨ report.completionTokens.isSome) :
    settled (parseChatCompletionsEnvelope json answer.envelope) =
      parseChatCompletionsEnvelope json answer.envelope := by
  have calls : answer.toolCalls.map settledCall = answer.toolCalls := by
    calc answer.toolCalls.map settledCall
      _ = answer.toolCalls.map id := map_congr_left fun call mem => by
          unfold settledCall
          rw [if_neg (argued call mem)]
          rfl
      _ = answer.toolCalls := map_id _
  have usage : ((answer.usage.bind (·.intoTokenUsage)).filter fun usage =>
      usage.inputTokens.isSome || usage.outputTokens.isSome) =
        answer.usage.bind (·.intoTokenUsage) := by
    cases reported : answer.usage.bind (·.intoTokenUsage) with
    | none => rfl
    | some usage =>
        obtain ⟨report, stated, into⟩ := Option.bind_eq_some_iff.mp reported
        have side := sided report stated
        unfold ChatUsageReport.intoTokenUsage believable at into
        simp only at into
        split at into
        · cases into
        · cases into
          rw [Option.filter_some, if_pos (by simpa using side)]
  rw [parse_envelope, settled, calls, usage]

/-- At most one terminal is among the events of a stream nothing of which follows one. -/
theorem finals_le {items : List StreamItem} (silent : items.Pairwise (AfterFinal NoEvent)) :
    ((eventsOf items).filterMap finalOf?).length ≤ 1 := by
  induction items with
  | nil => exact Nat.zero_le 1
  | cons item items ih =>
      obtain ⟨first, silent⟩ := pairwise_cons.mp silent
      have rest := ih silent
      cases item with
      | read _ => exact rest
      | failed _ => exact rest
      | event event =>
          cases event with
          | final final =>
              have none : eventsOf items = [] := by
                rw [eventsOf, filterMap_eq_nil_iff]
                intro other mem
                cases other with
                | read _ => rfl
                | failed _ => rfl
                | event event => exact absurd rfl (first _ mem ⟨final, rfl⟩ event)
              change (final :: (eventsOf items).filterMap finalOf?).length ≤ 1
              rw [none]
              exact le_rfl
          | textDelta _ => exact rest
          | toolCall _ => exact rest
          | usage _ => exact rest

/-- A conforming stream says what the buffered answer says, but that it streams a call without
    arguments as one with none, and no usage that states neither side.  Any stream ends once, with
    nothing behind it, and reports usage once, each figure one that a chunk stated. -/
theorem streamed_answer_agrees (json : SerdeJson) (provider : String) (countTokens : Bool) :
    (∀ answer payloads, Conforming json answer payloads →
      ∃ items machine,
        (ChatCompletionsStreamMachine.stream json provider).feed (.new countTokens) payloads =
          (items, some machine) ∧
        replyOf (eventsOf items ++ machine.terminate.2) =
          settled (parseChatCompletionsEnvelope json answer.envelope) ∧
        ((∀ call ∈ answer.toolCalls, call.arguments ≠ "") →
          (∀ report, answer.usage = some report →
            report.promptTokens.isSome ∨ report.completionTokens.isSome) →
          replyOf (eventsOf items ++ machine.terminate.2) =
            parseChatCompletionsEnvelope json answer.envelope)) ∧
    ∀ reads : List (Except StreamError (List String)),
      let items := (ChatCompletionsStreamMachine.stream json provider).run (.new countTokens) reads
      let said := (readsOf items).map (chatReport json)
      ((eventsOf items).filterMap finalOf?).length ≤ 1 ∧
        items.Pairwise (AfterFinal NoEvent) ∧
        (usagesOf items).length ≤ 1 ∧
        ∀ usage ∈ usagesOf items, Sourced said (reportOf usage) := by
  constructor
  · intro answer payloads conforming
    obtain ⟨items, machine, fed, reply⟩ := feed_conforming provider countTokens conforming
    refine ⟨items, machine, fed, reply, fun argued sided => ?_⟩
    rw [reply, settled_eq argued sided]
  · intro reads
    have ended := run_ended json provider countTokens reads
    exact ⟨finals_le ended.silent, ended.silent, ended.once, ended.sourced⟩

section Agreement

def spokenText : String :=
  "\x7b\"choices\":[\x7b\"delta\":\x7b\"content\":\"On it. \"\x7d\x7d]\x7d"

def openingText : String :=
  "\x7b\"choices\":[\x7b\"delta\":\x7b\"tool_calls\":[\x7b\"index\":0,\"id\":\"call_1\"," ++
    "\"function\":\x7b\"name\":\"look\",\"arguments\":\"[1\"\x7d\x7d]\x7d\x7d]\x7d"

def closingText : String :=
  "\x7b\"choices\":[\x7b\"delta\":\x7b\"tool_calls\":[\x7b\"index\":0," ++
    "\"function\":\x7b\"arguments\":\"]\"\x7d\x7d]\x7d,\"finish_reason\":\"tool_calls\"\x7d]\x7d"

def emptyCallText : String :=
  "\x7b\"choices\":[\x7b\"delta\":\x7b\"tool_calls\":[\x7b\"index\":0,\"id\":\"call_1\"," ++
    "\"function\":\x7b\"name\":\"look\",\"arguments\":\"\"\x7d\x7d]\x7d,\"finish_reason\":\"stop\"\x7d]\x7d"

def chunkOf (delta : List (String × Value)) (reason : Value) : Value :=
  .object [("choices", .array [.object [("delta", .object delta), ("finish_reason", reason)]])]

def indexedCall (id function : List (String × Value)) : Value :=
  .array [.object (("index", .integer 0) :: id ++ [("function", .object function)])]

def spokenChunk : Value := chunkOf [("content", .string "On it. ")] .null

def openingChunk : Value :=
  chunkOf [("tool_calls", indexedCall [("id", .string "call_1")]
    [("name", .string "look"), ("arguments", .string "[1")])] .null

def closingChunk : Value :=
  chunkOf [("tool_calls", indexedCall [] [("arguments", .string "]")])] (.string "tool_calls")

def emptyCallChunk : Value :=
  chunkOf [("tool_calls", indexedCall [("id", .string "call_1")]
    [("name", .string "look"), ("arguments", .string "")])] (.string "stop")

/-- A parser that has seen the four texts. -/
def chunkJson : SerdeJson where
  fromStr text :=
    if text = spokenText then some spokenChunk
    else if text = openingText then some openingChunk
    else if text = closingText then some closingChunk
    else if text = emptyCallText then some emptyCallChunk
    else none
  toString _ := ""

theorem chunkJson_texts :
    chunkJson.fromStr spokenText = some spokenChunk ∧
      chunkJson.fromStr openingText = some openingChunk ∧
      chunkJson.fromStr closingText = some closingChunk ∧
      chunkJson.fromStr emptyCallText = some emptyCallChunk := by
  have h₁ : openingText ≠ spokenText := by decide +kernel
  have h₂ : closingText ≠ spokenText := by decide +kernel
  have h₃ : closingText ≠ openingText := by decide +kernel
  have h₄ : emptyCallText ≠ spokenText := by decide +kernel
  have h₅ : emptyCallText ≠ openingText := by decide +kernel
  have h₆ : emptyCallText ≠ closingText := by decide +kernel
  simp [chunkJson, h₁, h₂, h₃, h₄, h₅, h₆]

def lookAnswer (text arguments reason : String) : ChatAnswer where
  text := text
  reasoning := ""
  toolCalls := [⟨"call_1", "look", arguments⟩]
  finishReason := some reason
  usage := none

/-- A call that arrived under index 0. -/
theorem indexed_look {arguments : String}
    (index : ∀ fragment ∈ fragments, fragment.index = some 0)
    (pieces : Pieces ⟨"call_1", "look", arguments⟩ (under 0 fragments)) :
    Indexed [⟨"call_1", "look", arguments⟩] fragments [0] := by
  refine ⟨rfl, pairwise_singleton _ _, fun fragment mem => ⟨0, by simp, index fragment mem⟩, ?_⟩
  intro entry mem
  obtain rfl := mem_singleton.mp mem
  exact pieces

theorem lookAnswer_conforming :
    Conforming chunkJson (lookAnswer "On it. " "[1]" "tool_calls")
      [spokenText, openingText, closingText, "[DONE]"] := by
  refine ⟨by decide, by decide +kernel, [spokenText, openingText, closingText],
    [chunkView chunkJson spokenChunk, chunkView chunkJson openingChunk,
      chunkView chunkJson closingChunk], ["[DONE]"], rfl, ?_, ?_, ?_⟩
  · obtain ⟨spoken, opening, closing, -⟩ := chunkJson_texts
    exact .cons ⟨by decide +kernel, spokenChunk, spoken, rfl, rfl⟩
      (.cons ⟨by decide +kernel, openingChunk, opening, rfl, rfl⟩
        (.cons ⟨by decide +kernel, closingChunk, closing, rfl, rfl⟩ .nil))
  · refine ⟨by decide +kernel, by decide +kernel, by decide +kernel, .nil, by decide +kernel,
      .inl ⟨[0], indexed_look (by decide +kernel) ?_⟩⟩
    exact ⟨by decide +kernel, by decide +kernel, by decide +kernel, by decide +kernel,
      by decide +kernel⟩
  · exact .inr ⟨_, by decide +kernel, rfl⟩

/-- Text, a call in two fragments, and the sentinel. -/
theorem streamed_answer_agrees_look :
    ∃ items machine,
      (ChatCompletionsStreamMachine.stream chunkJson "local").feed (.new false)
          [spokenText, openingText, closingText, "[DONE]"] = (items, some machine) ∧
        replyOf (eventsOf items ++ machine.terminate.2) =
          { text := some "On it. "
            toolCalls := [⟨"call_1", "look", "[1]"⟩]
            usage := none
            reasoningContent := none
            stopReason := some .toolCalls } := by
  obtain ⟨items, machine, fed, -, reply⟩ :=
    (streamed_answer_agrees chunkJson "local" false).1 _ _ lookAnswer_conforming
  refine ⟨items, machine, fed, (reply ?_ ?_).trans (by decide +kernel)⟩
  · intro call mem
    obtain rfl := List.mem_singleton.mp mem
    decide
  · exact fun report h => by cases h

/-- A call whose arguments are the empty string: the buffered answer keeps them, the stream says
    there are none. -/
theorem empty_arguments_differ :
    Conforming chunkJson (lookAnswer "" "" "stop") [emptyCallText] ∧
      ∃ items machine,
        (ChatCompletionsStreamMachine.stream chunkJson "local").feed (.new false)
          [emptyCallText] = (items, some machine) ∧
        replyOf (eventsOf items ++ machine.terminate.2) ≠
          parseChatCompletionsEnvelope chunkJson (lookAnswer "" "" "stop").envelope := by
  have conforming : Conforming chunkJson (lookAnswer "" "" "stop") [emptyCallText] := by
    refine ⟨by decide, by decide +kernel, [emptyCallText],
      [chunkView chunkJson emptyCallChunk], [], rfl, ?_, ?_, .inl rfl⟩
    · exact .cons ⟨by decide +kernel, emptyCallChunk, chunkJson_texts.2.2.2, rfl, rfl⟩ .nil
    · refine ⟨by decide +kernel, by decide +kernel, by decide +kernel, .nil, by decide +kernel,
        .inl ⟨[0], indexed_look (by decide +kernel) ?_⟩⟩
      exact ⟨by decide +kernel, by decide +kernel, by decide +kernel, by decide +kernel,
        by decide +kernel⟩
  obtain ⟨items, machine, fed, reply⟩ := feed_conforming "local" false conforming
  refine ⟨conforming, items, machine, fed, ?_⟩
  rw [reply]
  decide +kernel

end Agreement

end ZeroRouter.Wire
