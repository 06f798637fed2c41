import ZeroRouter.Proofs.Upstream
import ZeroRouter.Wire.ChatStream

/-!
# What a chat-completions stream says

A stream in this dialect ends once, with its usage once and nothing behind it; and a conforming one
says what the buffered answer says, however it was split into chunks.
-/

namespace ZeroRouter.Wire

open List Option

variable {machine next : ChatCompletionsStreamMachine} {items : List StreamItem}

open ChatCompletionsStreamMachine in
/-- Fragments touch nothing but the open tools. -/
theorem absorbToolFragment_rest (provider : String) (machine : ChatCompletionsStreamMachine)
    (fragment : ToolFragment) (position : Nat) :
    ∃ slots bytes, (machine.absorbToolFragment provider fragment position).1 =
      { machine with openTools := slots, toolArgumentBytes := bytes } := by
  unfold absorbToolFragment
  simp only
  split
  · exact ⟨_, _, rfl⟩
  · generalize (if fragment.arguments = "" then machine.toolArgumentBytes
      else u64SaturatingAdd machine.toolArgumentBytes fragment.arguments.utf8ByteSize) = bytes
    split
    · exact ⟨_, _, rfl⟩
    · exact ⟨_, _, rfl⟩

theorem absorbToolFragments_rest (provider : String) (fragments : List ToolFragment)
    (machine : ChatCompletionsStreamMachine) (position : Nat) :
    ∃ slots bytes, (machine.absorbToolFragments provider position fragments).1 =
      { machine with openTools := slots, toolArgumentBytes := bytes } := by
  induction fragments generalizing machine position with
  | nil => exact ⟨_, _, rfl⟩
  | cons fragment rest ih =>
      obtain ⟨slots, bytes, one⟩ := absorbToolFragment_rest provider machine fragment position
      unfold ChatCompletionsStreamMachine.absorbToolFragments
      rcases absorbed : machine.absorbToolFragment provider fragment position with ⟨next, outcome⟩
      rw [absorbed] at one
      cases outcome with
      | error error => exact ⟨slots, bytes, one⟩
      | ok _ =>
          obtain ⟨slots', bytes', more⟩ := ih next (position + 1)
          refine ⟨slots', bytes', more.trans ?_⟩
          rw [show next = _ from one]

/-! ## What is reported was stated -/

/-- Every figure of a report is one of those stated. -/
structure Sourced (said : List ChatUsageReport) (report : ChatUsageReport) : Prop where
  prompt : ∀ tokens, report.promptTokens = some tokens →
    ∃ stated ∈ said, stated.promptTokens = some tokens
  completion : ∀ tokens, report.completionTokens = some tokens →
    ∃ stated ∈ said, stated.completionTokens = some tokens
  cached : ∀ tokens, report.cachedTokens = some tokens →
    ∃ stated ∈ said, stated.cachedTokens = some tokens

theorem sourced_empty (said : List ChatUsageReport) : Sourced said .empty := by
  constructor <;> exact fun tokens h => by cases h

theorem Sourced.append {said : List ChatUsageReport} {report : ChatUsageReport}
    (sourced : Sourced said report) (more : List ChatUsageReport) :
    Sourced (said ++ more) report := by
  constructor
  · intro tokens h
    obtain ⟨stated, mem, states⟩ := sourced.prompt tokens h
    exact ⟨stated, mem_append_left more mem, states⟩
  · intro tokens h
    obtain ⟨stated, mem, states⟩ := sourced.completion tokens h
    exact ⟨stated, mem_append_left more mem, states⟩
  · intro tokens h
    obtain ⟨stated, mem, states⟩ := sourced.cached tokens h
    exact ⟨stated, mem_append_left more mem, states⟩

theorem Sourced.replacedBy {said : List ChatUsageReport} {report incoming : ChatUsageReport}
    (sourced : Sourced said report) (mem : incoming ∈ said) :
    Sourced said (report.replacedBy incoming) := by
  constructor
  · intro tokens h
    rcases or_eq_some_iff.mp h with h | ⟨_, h⟩
    · exact ⟨incoming, mem, h⟩
    · exact sourced.prompt tokens h
  · intro tokens h
    rcases or_eq_some_iff.mp h with h | ⟨_, h⟩
    · exact ⟨incoming, mem, h⟩
    · exact sourced.completion tokens h
  · intro tokens h
    rcases or_eq_some_iff.mp h with h | ⟨_, h⟩
    · exact ⟨incoming, mem, h⟩
    · exact sourced.cached tokens h

/-- A report as the router's usage has it. -/
def reportOf (usage : TokenUsage) : ChatUsageReport where
  promptTokens := usage.inputTokens
  completionTokens := usage.outputTokens
  cachedTokens := usage.cachedInputTokens

theorem partialUsage_report {usage : TokenUsage} (h : machine.partialUsage = some usage) :
    reportOf usage = machine.usage := by
  obtain ⟨h, -⟩ := filter_eq_some_iff.mp h
  unfold ChatUsageReport.intoTokenUsage believable at h
  simp only at h
  split at h
  · cases h
  · cases h
    rfl

section Stream

variable (json : SerdeJson) (provider : String)

/-- The usage a payload states. -/
def chatReport (payload : String) : ChatUsageReport :=
  ((json.fromStr payload).bind (·.get "usage")).elim .empty .ofValue

open ChatCompletionsStreamMachine in
theorem absorbUsage_cases (machine : ChatCompletionsStreamMachine) (value : Option Value) :
    machine.absorbUsage value = machine ∨
      machine.absorbUsage value =
        { machine with
          usage := machine.usage.replacedBy (value.elim .empty .ofValue)
          usageReported := true } := by
  cases value with
  | none => exact .inl rfl
  | some usage =>
      unfold absorbUsage
      simp only [map_some, elim_some]
      split
      · exact .inl rfl
      · split
        · exact .inl rfl
        · exact .inr rfl

/-- What a payload leaves an unfinished machine that goes on. -/
structure Goes (machine : ChatCompletionsStreamMachine) (report : ChatUsageReport)
    (outcome : ChatCompletionsStreamMachine × Except StreamError (List StreamEvent)) : Prop where
  usage : outcome.1.usage = machine.usage ∨ outcome.1.usage = machine.usage.replacedBy report
  finished : outcome.1.finished = machine.finished
  plain : ∀ events, outcome.2 = .ok events → ∀ event ∈ events, Plain event
  silent : machine.finished = true →
    outcome.1.usage = machine.usage ∧ ∀ events, outcome.2 = .ok events → events = []

theorem goes_of_quiet (report : ChatUsageReport) (usage : next.usage = machine.usage)
    (finished : next.finished = machine.finished) :
    Goes machine report (next, .ok []) :=
  ⟨.inl usage, finished, fun events h => by cases h; simp, fun _ => ⟨usage, fun events h => by
    cases h; rfl⟩⟩

theorem goes_of_error (report : ChatUsageReport) (error : StreamError)
    (usage : next.usage = machine.usage) (finished : next.finished = machine.finished) :
    Goes machine report (next, .error error) :=
  ⟨.inl usage, finished, nofun, fun _ => ⟨usage, nofun⟩⟩

theorem deltaEvents_plain (machine : ChatCompletionsStreamMachine) (delta : Option Value) :
    ∀ event ∈ (delta.map machine.deltaEvents).getD [], Plain event := by
  cases delta with
  | none => simp
  | some delta =>
      intro event mem
      simp only [map_some, getD_some,
        ChatCompletionsStreamMachine.deltaEvents, mem_append] at mem
      rcases mem with mem | mem
      · split at mem
        · cases mem
        · rw [mem_singleton] at mem
          rw [mem]
          trivial
      · split at mem
        · cases mem
        · rw [mem_singleton] at mem
          rw [mem]
          trivial

open ChatCompletionsStreamMachine in
theorem absorbChoice_goes (machine : ChatCompletionsStreamMachine) (choice : Value) :
    (machine.absorbChoice json provider choice).1.usage = machine.usage ∧
      (machine.absorbChoice json provider choice).1.finished = machine.finished ∧
      ∀ events, (machine.absorbChoice json provider choice).2 = .ok events →
        ∀ event ∈ events, Plain event := by
  have kept := absorbToolFragments_rest provider
    (((choice.get "delta").map (deltaFragments json)).getD []) machine 0
  unfold absorbChoice
  simp only
  rcases absorbed : machine.absorbToolFragments provider 0
    (((choice.get "delta").map (deltaFragments json)).getD []) with ⟨next, outcome⟩
  rw [absorbed] at kept
  obtain ⟨slots, bytes, rfl⟩ := kept
  cases outcome with
  | error error => exact ⟨rfl, rfl, nofun⟩
  | ok _ =>
      refine ⟨rfl, rfl, ?_⟩
      rintro events ⟨rfl⟩
      exact deltaEvents_plain machine (choice.get "delta")

open ChatCompletionsStreamMachine in
theorem chatHandle_goes (machine : ChatCompletionsStreamMachine) (value : Value) :
    Goes machine ((value.get "usage").elim .empty .ofValue)
      (machine.handle json provider value) := by
  unfold handle
  split
  · exact goes_of_quiet _ rfl rfl
  · next live =>
      split
      · exact goes_of_error _ _ rfl rfl
      · have absorbed := absorbUsage_cases machine (value.get "usage")
        simp only
        split
        · refine ⟨?_, ?_, fun events h => by cases h; simp, fun ends => absurd ends live⟩
          · exact absorbed.imp (congrArg _) (congrArg _)
          · rcases absorbed with h | h <;> rw [h]
        · next choice _ =>
            obtain ⟨usage, finished, plain⟩ :=
              absorbChoice_goes json provider (machine.absorbUsage (value.get "usage")) choice
            refine ⟨?_, ?_, plain, fun ends => absurd ends live⟩
            · rw [usage]
              exact absorbed.imp (congrArg _) (congrArg _)
            · rw [finished]
              rcases absorbed with h | h <;> rw [h]

/-- The events of a terminal. -/
def terminal (machine : ChatCompletionsStreamMachine) : List StreamEvent :=
  machine.openTools.values.map (fun pending => .toolCall pending.toolCall) ++
    (machine.partialUsage.map StreamEvent.usage).toList ++
      [.final
        { stopReason := machine.finishReason.bind StopReason.fromOpenai
          usageGap := machine.usageGap }]

theorem terminate_live (live : machine.finished = false) :
    machine.terminate =
      ({ machine with openTools := .empty, usage := .empty, finished := true },
        terminal machine) := by
  unfold ChatCompletionsStreamMachine.terminate
  rw [live]
  rfl

theorem terminate_finished (ends : machine.finished = true) :
    machine.terminate = (machine, []) := by
  unfold ChatCompletionsStreamMachine.terminate
  rw [ends]
  rfl

/-- A payload ends an unfinished stream, or leaves it as it was but for what it says. -/
theorem chatPayload_cases (machine : ChatCompletionsStreamMachine) (payload : String) :
    (machine.finished = false ∧ machine.handlePayload json provider payload =
      ({ machine with sawDone := true, openTools := .empty, usage := .empty, finished := true },
        .ok (terminal { machine with sawDone := true }))) ∨
    Goes machine (chatReport json payload) (machine.handlePayload json provider payload) := by
  unfold ChatCompletionsStreamMachine.handlePayload
  split
  · simp only
    rcases Bool.eq_false_or_eq_true machine.finished with ends | live
    · right
      have ends' : ({ machine with sawDone := true } : ChatCompletionsStreamMachine).finished = true :=
        ends
      rw [terminate_finished ends']
      exact goes_of_quiet _ rfl rfl
    · left
      have live' : ({ machine with sawDone := true } : ChatCompletionsStreamMachine).finished = false :=
        live
      exact ⟨live, by rw [terminate_live live']⟩
  · right
    unfold chatReport
    cases json.fromStr payload with
    | none => exact goes_of_error _ _ rfl rfl
    | some value => exact chatHandle_goes json provider machine value

/-! ## Every stream -/

def NoEvent (item : StreamItem) : Prop := ∀ event, item ≠ .event event

/-- What the payloads read so far stated. -/
def chatSaid (items : List StreamItem) : List ChatUsageReport :=
  (readsOf items).map (chatReport json)

structure Ended (items : List StreamItem) : Prop where
  silent : items.Pairwise (AfterFinal NoEvent)
  once : (usagesOf items).length ≤ 1
  sourced : ∀ usage ∈ usagesOf items, Sourced (chatSaid json items) (reportOf usage)

structure Heard (machine : ChatCompletionsStreamMachine) (items : List StreamItem) : Prop where
  unfinished : machine.finished = false →
    usagesOf items = [] ∧ Open items ∧ Sourced (chatSaid json items) machine.usage
  finished : machine.finished = true → machine.usage = .empty ∧ Ended json items

theorem chatSaid_append (items later : List StreamItem) :
    chatSaid json (items ++ later) = chatSaid json items ++ chatSaid json later := by
  rw [chatSaid, readsOf_append, map_append, chatSaid, chatSaid]

theorem chatSaid_read (payload : String) (events : List StreamEvent) :
    chatSaid json (.read payload :: events.map .event) = [chatReport json payload] := by
  rw [chatSaid, readsOf_read, readsOf_events]
  rfl

/-- What closes an unfinished stream: at most one usage, the machine's own, and nothing behind a
    terminal. -/
structure Closing (usage : ChatUsageReport) (items : List StreamItem) : Prop where
  silent : items.Pairwise (AfterFinal NoEvent)
  reads : readsOf items = []
  once : (usagesOf items).length ≤ 1
  usages : ∀ reported ∈ usagesOf items, reportOf reported = usage

theorem ended_of_closing {closing : List StreamItem} {usage : ChatUsageReport}
    (unreported : usagesOf items = []) (unended : Open items)
    (sourced : Sourced (chatSaid json items) usage) (closes : Closing usage closing) :
    Ended json (items ++ closing) := by
  refine ⟨afterFinal_of_open unended closes.silent, ?_, ?_⟩
  · rw [usagesOf_append, unreported]
    exact closes.once
  · intro reported mem
    rw [usagesOf_append, unreported] at mem
    rw [closes.usages reported mem, chatSaid_append]
    exact sourced.append _

/-- A machine's usage on the way out, if any. -/
theorem partial_closing {rest : List StreamItem} (silent : rest.Pairwise (AfterFinal NoEvent))
    (reads : readsOf rest = []) (usages : usagesOf rest = []) :
    Closing machine.usage
      ((machine.partialUsage.map fun usage => StreamItem.event (.usage usage)).toList ++ rest) := by
  cases reported : machine.partialUsage with
  | none => exact ⟨silent, reads, by simp [usages], by simp [usages]⟩
  | some usage =>
      refine ⟨?_, reads, ?_, ?_⟩
      · refine pairwise_cons.mpr ⟨?_, silent⟩
        rintro later _ ⟨_, final⟩
        cases final
      · rw [usagesOf_append, usages]
        exact le_rfl
      · intro other mem
        rw [usagesOf_append, usages, append_nil] at mem
        obtain rfl := mem_singleton.mp mem
        exact partialUsage_report reported

theorem abandon_closing (machine : ChatCompletionsStreamMachine) (error : StreamError) :
    Closing machine.usage
      ((ChatCompletionsStreamMachine.stream json provider).abandon machine error) :=
  partial_closing (pairwise_singleton _ _) rfl rfl

/-- The calls a terminal flushes are neither reads nor usages nor terminals. -/
theorem calls_plain (calls : List PendingTool) :
    ∀ event ∈ calls.map fun pending => StreamEvent.toolCall pending.toolCall, Plain event := by
  intro event mem
  obtain ⟨pending, -, rfl⟩ := mem_map.mp mem
  trivial

theorem terminal_closing (machine : ChatCompletionsStreamMachine) :
    Closing machine.usage ((terminal machine).map .event) := by
  have unended : Open ((machine.openTools.values.map fun pending =>
      StreamEvent.toolCall pending.toolCall).map .event) := by
    intro final mem
    obtain ⟨event, mem, h⟩ := mem_map.mp mem
    cases h
    exact calls_plain _ _ mem
  have closes : Closing machine.usage
      ((machine.partialUsage.map fun usage => StreamItem.event (.usage usage)).toList ++
        [.event (.final
          { stopReason := machine.finishReason.bind StopReason.fromOpenai
            usageGap := machine.usageGap })]) :=
    partial_closing (pairwise_singleton _ _) rfl rfl
  have split : (terminal machine).map StreamItem.event =
      (machine.openTools.values.map fun pending =>
        StreamEvent.toolCall pending.toolCall).map .event ++
      ((machine.partialUsage.map fun usage => StreamItem.event (.usage usage)).toList ++
        [.event (.final
          { stopReason := machine.finishReason.bind StopReason.fromOpenai
            usageGap := machine.usageGap })]) := by
    unfold terminal
    cases machine.partialUsage <;> simp
  have unsaid := usagesOf_plain (calls_plain machine.openTools.values)
  rw [split]
  refine ⟨afterFinal_of_open unended closes.silent, ?_, ?_, ?_⟩
  · rw [readsOf_append, readsOf_events, closes.reads, append_nil]
  · rw [usagesOf_append, unsaid]
    exact closes.once
  · intro reported mem
    rw [usagesOf_append, unsaid] at mem
    exact closes.usages reported mem

theorem heard_goes {payload : String} {events : List StreamEvent}
    (heard : Heard json machine items)
    (usage : next.usage = machine.usage ∨
      next.usage = machine.usage.replacedBy (chatReport json payload))
    (finished : next.finished = machine.finished) (plain : ∀ event ∈ events, Plain event)
    (silent : machine.finished = true → next.usage = machine.usage ∧ events = []) :
    Heard json next (items ++ .read payload :: events.map .event) := by
  have unsaid : usagesOf (.read payload :: events.map .event) = [] := by
    rw [usagesOf_read, usagesOf_plain plain]
  have said : chatSaid json (items ++ .read payload :: events.map .event) =
      chatSaid json items ++ [chatReport json payload] := by
    rw [chatSaid_append, chatSaid_read]
  constructor
  · intro live
    obtain ⟨unreported, unended, sourced⟩ := heard.unfinished (finished.symm.trans live)
    refine ⟨by rw [usagesOf_append, unreported, unsaid]; rfl, unended.plain payload plain, ?_⟩
    have kept := sourced.append [chatReport json payload]
    rw [said]
    rcases usage with h | h
    · rwa [h]
    · rw [h]
      exact kept.replacedBy (mem_append_right _ mem_cons_self)
  · intro ends
    have stopped := finished.symm.trans ends
    obtain ⟨same, quiet⟩ := silent stopped
    obtain ⟨none, ended⟩ := heard.finished stopped
    refine ⟨same.trans none, ?_, ?_, ?_⟩
    · refine afterFinal_of_all ended.silent ?_
      intro item mem event
      rw [quiet, map_nil, mem_singleton] at mem
      rw [mem]
      nofun
    · rw [usagesOf_append, unsaid, append_nil]
      exact ended.once
    · intro reported mem
      rw [usagesOf_append, unsaid, append_nil] at mem
      rw [said]
      exact (ended.sourced reported mem).append _

/-- A payload that said nothing more. -/
theorem heard_read (payload : String) (heard : Heard json machine items)
    (usage : next.usage = machine.usage ∨
      next.usage = machine.usage.replacedBy (chatReport json payload))
    (finished : next.finished = machine.finished)
    (silent : machine.finished = true → next.usage = machine.usage) :
    Heard json next (items ++ [.read payload]) := by
  have none : ∀ event ∈ ([] : List StreamEvent), Plain event := by simp
  exact heard_goes json heard usage finished none fun ends => ⟨silent ends, rfl⟩

theorem ended_abandon (heard : Heard json machine items) (error : StreamError) :
    Ended json
      (items ++ (ChatCompletionsStreamMachine.stream json provider).abandon machine error) := by
  rcases Bool.eq_false_or_eq_true machine.finished with ends | live
  · obtain ⟨none, ended⟩ := heard.finished ends
    have failed : (ChatCompletionsStreamMachine.stream json provider).abandon machine error =
        [.failed error] := by
      have unreported : machine.partialUsage = .none := by
        unfold ChatCompletionsStreamMachine.partialUsage
        rw [none]
        rfl
      change ((machine.partialUsage.map _).toList ++ _) = _
      rw [unreported]
      rfl
    have same : usagesOf (items ++ [.failed error]) = usagesOf items := by
      rw [usagesOf_append]
      exact append_nil _
    rw [failed]
    refine ⟨afterFinal_of_all ended.silent (by simp [NoEvent]), ?_, ?_⟩
    · rw [same]
      exact ended.once
    · intro usage mem
      rw [same] at mem
      rw [chatSaid_append]
      exact (ended.sourced usage mem).append _
  · obtain ⟨unreported, unended, sourced⟩ := heard.unfinished live
    exact ended_of_closing json unreported unended sourced
      (abandon_closing json provider machine error)

/-- Whatever an upstream sends, in whatever reads. -/
theorem run_ended (countTokens : Bool) (reads : List (Except StreamError (List String))) :
    Ended json
      ((ChatCompletionsStreamMachine.stream json provider).run (.new countTokens) reads) := by
  have start : Heard json (.new countTokens) [] :=
    ⟨fun _ => ⟨rfl, by simp [Open], sourced_empty _⟩, nofun⟩
  refine StreamMachine.run_told (ChatCompletionsStreamMachine.stream json provider) (Heard json)
    (fun _ _ => True) (Ended json) ?_ ?_ ?_ ?_ ?_ reads (fun _ _ _ _ _ _ => trivial)
    (.new countTokens) [] start rfl
  · intro machine items payload rest heard _ next events handled
    refine ⟨?_, trivial⟩
    rcases chatPayload_cases json provider machine payload with ⟨live, outcome⟩ | goes
    · obtain ⟨rfl, rfl⟩ : _ = next ∧ _ = events := by
        simpa using outcome.symm.trans handled
      have read := heard_read json payload heard (.inl rfl) rfl fun _ => rfl
      obtain ⟨unreported, unended, sourced⟩ := read.unfinished live
      have ended := ended_of_closing json unreported unended sourced
        (terminal_closing { machine with sawDone := true })
      rw [append_assoc] at ended
      exact ⟨nofun, fun _ => ⟨rfl, ended⟩⟩
    · have goes' : Goes machine (chatReport json payload) (next, .ok events) := handled ▸ goes
      exact heard_goes json heard goes'.usage goes'.finished (goes'.plain events rfl)
        fun ends => ⟨(goes'.silent ends).1, (goes'.silent ends).2 events rfl⟩
  · intro machine items payload rest heard _ next error handled
    rcases chatPayload_cases json provider machine payload with ⟨_, outcome⟩ | goes
    · cases outcome.symm.trans handled
    · have goes' : Goes machine (chatReport json payload) (next, .error error) := handled ▸ goes
      have read := heard_read json payload heard goes'.usage goes'.finished
        fun ends => (goes'.silent ends).1
      have ended := ended_abandon json provider read error
      rwa [append_assoc] at ended
  · intro machine items error heard _
    exact ended_abandon json provider heard error
  · intro machine items heard live
    obtain ⟨unreported, unended, sourced⟩ := heard.unfinished live
    simp only [ChatCompletionsStreamMachine.stream]
    split
    · rw [terminate_live live]
      have ended := ended_of_closing json unreported unended sourced (terminal_closing machine)
      simpa using ended
    · have ended := ended_abandon json provider heard
        (.invalidSse s!"{provider} chat completions stream ended without completion")
      have same : (ChatCompletionsStreamMachine.stream json provider).abandon machine
          (.invalidSse s!"{provider} chat completions stream ended without completion") =
            ((machine.partialUsage.map StreamEvent.usage).toList).map .event ++
              [.failed
                (.invalidSse s!"{provider} chat completions stream ended without completion")] := by
        simp only [StreamMachine.abandon, ChatCompletionsStreamMachine.stream]
        cases machine.partialUsage <;> rfl
      rwa [same] at ended
  · exact fun machine items heard ends => (heard.finished ends).2

end Stream

end ZeroRouter.Wire
