import ZeroRouter.Wire.AnthropicStream
import ZeroRouter.Api.Schedule
import ZeroRouter.Proofs.Upstream
import Mathlib.Tactic.Linarith
import Mathlib.Tactic.NormNum

/-!
# What an Anthropic stream bills

The vendor's three disjoint prompt buckets are folded into one total with two subsets, and split
again where they are priced; a usage block costs what the vendor invoices for it.  A stream's
counters only rise, and are reported once.
-/

namespace ZeroRouter.Wire

open Option List

variable {rate : Decimal} {tokens : Nat} {machine : AnthropicStreamMachine}
  {items : List StreamItem}

/-! ## A block is billed as it is invoiced -/

/-- The most one bucket can cost, in millionths. -/
def bucketMax : Decimal := maxBelievableTokens * maxRatePerMtok

theorem billableRate_of_bounds (h : 0 ≤ rate ∧ rate ≤ maxRatePerMtok) :
    billableRate rate = some rate := if_pos h

theorem bucket_bounds (few : tokens ≤ maxBelievableTokens) (h : 0 ≤ rate ∧ rate ≤ maxRatePerMtok) :
    0 ≤ (tokens : Decimal) * rate ∧ (tokens : Decimal) * rate ≤ bucketMax := by
  have count : (tokens : Decimal) ≤ maxBelievableTokens := Nat.cast_le.mpr few
  have nonneg : (0 : Decimal) ≤ tokens := Nat.cast_nonneg tokens
  exact ⟨mul_nonneg nonneg h.1, mul_le_mul count h.2 h.1 (nonneg.trans count)⟩

theorem checkedMul_of_bounds (few : tokens ≤ maxBelievableTokens)
    (h : 0 ≤ rate ∧ rate ≤ maxRatePerMtok) :
    checkedMul tokens rate = some (tokens * rate) := by
  obtain ⟨nonneg, top⟩ := bucket_bounds few h
  have room : bucketMax ≤ decimalMax := by
    unfold bucketMax maxBelievableTokens maxRatePerMtok decimalMax
    norm_num
  unfold checkedMul
  rw [if_pos]
  rw [abs_of_nonneg nonneg]
  exact top.trans room

theorem checkedAdd_of_bounds {a b : Decimal} (ha : 0 ≤ a) (hb : 0 ≤ b)
    (h : a + b ≤ 4 * bucketMax) : Decimal.checkedAdd a b = some (a + b) := by
  have room : 4 * bucketMax ≤ decimalMax := by
    unfold bucketMax maxBelievableTokens maxRatePerMtok decimalMax
    norm_num
  unfold Decimal.checkedAdd
  rw [if_pos]
  rw [abs_of_nonneg (add_nonneg ha hb)]
  exact h.trans room

/-- A believable usage at billable rates costs its buckets' sum. -/
theorem usageCost_of_buckets {rates : ModelRates} {usage : OpenAiUsage} {fresh cached written : Nat}
    {cachedRate writeRate : Decimal}
    (prompt : usage.promptTokens = fresh + cached + written)
    (reads : usage.cachedInputTokens = cached) (writes : usage.cacheWriteTokens = written)
    (few : usage.promptTokens ≤ maxBelievableTokens)
    (said : usage.completionTokens ≤ maxBelievableTokens)
    (hcached : rates.cachedInputPerMtok = some cachedRate)
    (hwrite : rates.cacheWritePerMtok = some writeRate)
    (input : Billable rates.inputPerMtok) (output : Billable rates.outputPerMtok)
    (cachedInput : Billable rates.cachedInputPerMtok)
    (cacheWrite : Billable rates.cacheWritePerMtok) :
    usageCost rates usage = some
      ((fresh * rates.inputRate + cached * cachedRate + written * writeRate +
        usage.completionTokens * rates.outputRate) / 1000000) := by
  have r₁ := input.getD
  have r₂ := cachedInput cachedRate hcached
  have r₃ := cacheWrite writeRate hwrite
  have r₄ := output.getD
  have clampCached : min usage.cachedInputTokens usage.promptTokens = cached := by omega
  have clampWritten : min usage.cacheWriteTokens (usage.promptTokens - cached) = written := by omega
  have rest : usage.promptTokens - cached - written = fresh := by omega
  have b₁ := bucket_bounds (show fresh ≤ maxBelievableTokens by omega) r₁
  have b₂ := bucket_bounds (show cached ≤ maxBelievableTokens by omega) r₂
  have b₃ := bucket_bounds (show written ≤ maxBelievableTokens by omega) r₃
  have b₄ := bucket_bounds said r₄
  unfold usageCost
  simp only [hcached, hwrite, getD_some, billableRate_of_bounds r₁,
    billableRate_of_bounds r₂, billableRate_of_bounds r₃, billableRate_of_bounds r₄,
    bind_eq_bind, bind_some, clampCached, clampWritten, rest]
  rw [checkedMul_of_bounds (by omega) r₁, bind_some,
    checkedMul_of_bounds (by omega) r₂, bind_some,
    checkedAdd_of_bounds b₁.1 b₂.1 (by linarith), bind_some,
    checkedMul_of_bounds (by omega) r₃, bind_some,
    checkedAdd_of_bounds (by linarith) b₃.1 (by linarith), bind_some,
    checkedMul_of_bounds said r₄, bind_some,
    checkedAdd_of_bounds (by linarith) b₄.1 (by linarith), bind_some]
  rfl

/-- The block of a buffered or streamed answer, its output stated. -/
structure BilledBlock where
  fresh : Nat
  output : Nat
  cacheRead : Option Nat
  cacheCreation : Option Nat

def BilledBlock.usage (block : BilledBlock) : AnthropicUsage where
  inputTokens := some block.fresh
  outputTokens := some block.output
  cacheReadInputTokens := block.cacheRead
  cacheCreationInputTokens := block.cacheCreation

def BilledBlock.reads (block : BilledBlock) : Nat := block.cacheRead.getD 0

def BilledBlock.writes (block : BilledBlock) : Nat := block.cacheCreation.getD 0

def BilledBlock.prompt (block : BilledBlock) : Nat := block.fresh + block.reads + block.writes

theorem bucketDetails_read (cached written : Nat) :
    let details : Option PromptTokenDetails :=
      if 0 < cached ∨ 0 < written then
        some { cachedTokens := cached, cacheWriteTokens := written }
      else none
    details.elim 0 (·.cachedTokens) = cached ∧ details.elim 0 (·.cacheWriteTokens) = written := by
  by_cases h : 0 < cached ∨ 0 < written
  · simp [h]
  · simp only [h, if_false, elim_none]
    omega

/-- What the vendor's buckets become. -/
theorem tryFromProvider_block (block : BilledBlock)
    (few : block.prompt ≤ maxBelievableTokens) (said : block.output ≤ maxBelievableTokens)
    (something : 0 < block.prompt ∨ 0 < block.output) :
    ∃ usage, OpenAiUsage.tryFromProvider block.usage.intoTokenUsage = some usage ∧
      usage.promptTokens = block.prompt ∧ usage.completionTokens = block.output ∧
      usage.cachedInputTokens = block.reads ∧ usage.cacheWriteTokens = block.writes := by
  have total : u64SaturatingAdd (u64SaturatingAdd block.fresh block.reads) block.writes =
      block.prompt := by
    unfold u64SaturatingAdd u64Max BilledBlock.prompt
    unfold BilledBlock.prompt maxBelievableTokens at few
    omega
  have reported : block.usage.intoTokenUsage = some
      { inputTokens := some block.prompt
        outputTokens := some block.output
        cachedInputTokens := if 0 < block.reads then some block.reads else none
        cacheWriteInputTokens := if 0 < block.writes then some block.writes else none } := by
    have reads : block.reads ≤ maxBelievableTokens := by unfold BilledBlock.prompt at few; omega
    have writes : block.writes ≤ maxBelievableTokens := by unfold BilledBlock.prompt at few; omega
    have likely : ∀ tokens, tokens ≤ maxBelievableTokens →
        ((if 0 < tokens then some tokens else none).any fun n => maxBelievableTokens < n) =
          false := by
      intro tokens few
      split
      · simpa using few
      · rfl
    simp only [AnthropicUsage.intoTokenUsage, BilledBlock.usage, map_some]
    change believable
      { inputTokens := some (u64SaturatingAdd (u64SaturatingAdd block.fresh block.reads) block.writes)
        outputTokens := some block.output
        cachedInputTokens := if 0 < block.reads then some block.reads else none
        cacheWriteInputTokens := if 0 < block.writes then some block.writes else none } = _
    rw [total, believable]
    simp only [likely _ reads, likely _ writes, any_some, Bool.or_false]
    rw [if_neg]
    simpa using ⟨few, said⟩
  have positive : ∀ tokens : Nat, (if 0 < tokens then some tokens else none).getD 0 = tokens := by
    intro tokens
    split
    · rfl
    · simp only [getD_none]
      omega
  have prompt : block.prompt = block.fresh + block.reads + block.writes := rfl
  have cached : min block.reads block.prompt = block.reads := by omega
  have written : min block.writes (block.prompt - block.reads) = block.writes := by omega
  rw [reported]
  let usage : OpenAiUsage :=
    { promptTokens := block.prompt
      completionTokens := block.output
      totalTokens := u64SaturatingAdd block.prompt block.output
      promptTokensDetails :=
        if 0 < block.reads ∨ 0 < block.writes then
          some { cachedTokens := block.reads, cacheWriteTokens := block.writes }
        else none }
  refine ⟨usage, ?_, rfl, rfl, ?_, ?_⟩
  · simp only [OpenAiUsage.tryFromProvider, bind_eq_bind, bind_some, positive, cached,
      written]
    rw [if_neg (by omega)]
    rfl
  · exact (bucketDetails_read _ _).1
  · exact (bucketDetails_read _ _).2

/-! ## Counters only rise -/

/-- The highest figure stated for each counter. -/
def peak (stated : List AnthropicUsage) : AnthropicUsage where
  inputTokens := (stated.filterMap AnthropicUsage.inputTokens).max?
  outputTokens := (stated.filterMap AnthropicUsage.outputTokens).max?
  cacheReadInputTokens := (stated.filterMap AnthropicUsage.cacheReadInputTokens).max?
  cacheCreationInputTokens := (stated.filterMap AnthropicUsage.cacheCreationInputTokens).max?

theorem max?_concat (figures : List Nat) (figure : Nat) :
    (figures ++ [figure]).max? = some (figures.max?.elim figure (max · figure)) := by
  cases figures with
  | nil => rfl
  | cons first figures =>
      rw [cons_append, max?_cons', max?_cons', foldl_append]
      rfl

theorem max?_filterMap_concat (field : AnthropicUsage → Option Nat) (stated : List AnthropicUsage)
    (usage : AnthropicUsage) :
    ((stated ++ [usage]).filterMap field).max? =
      AnthropicUsage.raise (stated.filterMap field).max? (field usage) := by
  rw [filterMap_append, filterMap_cons, filterMap_nil]
  cases field usage with
  | none => simp [AnthropicUsage.raise]
  | some figure => exact max?_concat _ figure

theorem peak_concat (stated : List AnthropicUsage) (usage : AnthropicUsage) :
    peak (stated ++ [usage]) = (peak stated).raiseAll usage := by
  simp only [peak, max?_filterMap_concat, AnthropicUsage.raiseAll]

@[simp] theorem raiseAll_empty (usage : AnthropicUsage) :
    usage.raiseAll .empty = usage := rfl

/-! ## One payload -/

section Stream

variable (json : SerdeJson) (provider : String)

/-- The counters an event states. -/
def eventCounters (value : Value) : AnthropicUsage :=
  if value.str "type" = some "message_start" then
    (((value.get "message").bind (·.get "usage")).map AnthropicUsage.ofValue).getD .empty
  else if value.str "type" = some "message_delta" then
    ((value.get "usage").map AnthropicUsage.ofValue).getD .empty
  else .empty

def counters (payload : String) : AnthropicUsage :=
  (json.fromStr payload).elim .empty eventCounters

/-- The terminal event. -/
def IsStop (payload : String) : Prop :=
  (json.fromStr payload).bind (·.str "type") = some "message_stop"

open AnthropicStreamMachine in
theorem absorbUsage_eq (machine : AnthropicStreamMachine) (value : Option Value) :
    machine.absorbUsage value =
      { machine with
        usage := machine.usage.raiseAll ((value.map AnthropicUsage.ofValue).getD .empty) } := by
  cases value <;> rfl

/-- An outcome that leaves the counters and the terminal alone. -/
structure Kept (machine : AnthropicStreamMachine)
    (outcome : AnthropicStreamMachine × Except StreamError (List StreamEvent)) : Prop where
  usage : outcome.1.usage = machine.usage
  finished : outcome.1.finished = machine.finished
  plain : ∀ events, outcome.2 = .ok events → ∀ event ∈ events, Plain event

theorem kept_of_silent (machine : AnthropicStreamMachine) : Kept machine (machine, .ok []) :=
  ⟨rfl, rfl, fun events h => by cases h; simp⟩

theorem openBlock_kept (machine : AnthropicStreamMachine) (value : Value) :
    Kept machine (machine.openBlock provider value) := by
  unfold AnthropicStreamMachine.openBlock
  split
  · split
    · split
      · exact ⟨rfl, rfl, nofun⟩
      · exact ⟨rfl, rfl, fun events h => by cases h; simp⟩
    · exact kept_of_silent machine
  · exact kept_of_silent machine

theorem blockDelta_kept (machine : AnthropicStreamMachine) (value : Value) :
    Kept machine (machine.blockDelta provider value) := by
  unfold AnthropicStreamMachine.blockDelta
  simp only
  split
  · split
    · exact ⟨rfl, rfl, fun events h => by cases h; simp [Plain]⟩
    · exact kept_of_silent machine
  · split
    · split
      · exact ⟨rfl, rfl, nofun⟩
      · split
        · exact ⟨rfl, rfl, fun events h => by cases h; simp⟩
        · exact ⟨rfl, rfl, fun events h => by cases h; simp⟩
    · exact kept_of_silent machine
  · exact kept_of_silent machine

theorem closeBlock_kept (machine : AnthropicStreamMachine) (value : Value) :
    Kept machine (machine.closeBlock value) := by
  unfold AnthropicStreamMachine.closeBlock
  split
  · split
    · exact ⟨rfl, rfl, fun events h => by cases h; simp [Plain]⟩
    · exact kept_of_silent machine
  · exact kept_of_silent machine

/-- An event either ends an unfinished stream, or raises the counters it states and yields
    neither usage nor terminal. -/
theorem handle_cases (machine : AnthropicStreamMachine) (value : Value) :
    (machine.finished = false ∧ value.str "type" = some "message_stop" ∧
      eventCounters value = .empty ∧
      machine.handle json provider value =
        ({ machine with usage := .empty, finished := true },
          .ok ((machine.usage.reportable.map .usage).toList ++
            [.final { stopReason := machine.stopReason, usageGap := none }]))) ∨
    Kept { machine with usage := machine.usage.raiseAll (eventCounters value) }
      (machine.handle json provider value) := by
  have stated := eventCounters.eq_def value
  unfold AnthropicStreamMachine.handle
  split
  · next kind =>
      rw [if_pos kind] at stated
      rw [absorbUsage_eq, stated]
      exact .inr ⟨rfl, rfl, fun events h => by cases h; simp⟩
  · next kind =>
      simp [kind] at stated
      rw [stated, raiseAll_empty]
      exact .inr (openBlock_kept provider machine value)
  · next kind =>
      simp [kind] at stated
      rw [stated, raiseAll_empty]
      exact .inr (blockDelta_kept provider machine value)
  · next kind =>
      simp [kind] at stated
      rw [stated, raiseAll_empty]
      exact .inr (closeBlock_kept machine value)
  · next kind =>
      simp [kind] at stated
      right
      rw [AnthropicStreamMachine.messageDelta, absorbUsage_eq, stated]
      split
      · exact ⟨rfl, rfl, fun events h => by cases h; simp⟩
      · exact ⟨rfl, rfl, fun events h => by cases h; simp⟩
  · next kind =>
      simp [kind] at stated
      unfold AnthropicStreamMachine.messageStop
      cases finished : machine.finished with
      | false => exact .inl ⟨rfl, kind, stated, rfl⟩
      | true =>
          right
          rw [stated, raiseAll_empty]
          exact ⟨rfl, by simp [finished], fun events h => by cases h; simp⟩
  · next kind =>
      simp [kind] at stated
      right
      rw [stated, raiseAll_empty]
      exact ⟨rfl, rfl, nofun⟩
  · next notStart _ _ _ notDelta _ _ =>
      right
      have silent : eventCounters value = .empty := by
        rw [stated, if_neg notStart, if_neg notDelta]
      rw [silent, raiseAll_empty]
      exact kept_of_silent machine

theorem handlePayload_cases (machine : AnthropicStreamMachine) (payload : String) :
    (machine.finished = false ∧ IsStop json payload ∧ counters json payload = .empty ∧
      (AnthropicStreamMachine.stream json provider).handlePayload machine payload =
        ({ machine with usage := .empty, finished := true },
          .ok ((machine.usage.reportable.map .usage).toList ++
            [.final { stopReason := machine.stopReason, usageGap := none }]))) ∨
    Kept { machine with usage := machine.usage.raiseAll (counters json payload) }
      ((AnthropicStreamMachine.stream json provider).handlePayload machine payload) := by
  simp only [AnthropicStreamMachine.stream, counters, IsStop]
  cases json.fromStr payload with
  | none => exact .inr ⟨rfl, rfl, nofun⟩
  | some value => exact handle_cases json provider machine value

/-! ## A whole stream -/

/-- What the payloads read so far stated. -/
def stated (items : List StreamItem) : AnthropicUsage :=
  peak ((readsOf items).map (counters json))

/-- The usage is reported once, at most, and before the terminal. -/
structure Reported (items : List StreamItem) : Prop where
  usage : usagesOf items = (stated json items).reportable.toList
  first : items.Pairwise (AfterFinal NoUsage)

/-- A machine and what its stream yielded so far. -/
structure Telling (machine : AnthropicStreamMachine) (items : List StreamItem) : Prop where
  unfinished : machine.finished = false →
    machine.usage = stated json items ∧ usagesOf items = [] ∧
      Open items
  finished : machine.finished = true → machine.usage = .empty ∧ Reported json items

/-- Nothing is stated after the terminal. -/
def Quiet (payload later : String) : Prop :=
  IsStop json payload → counters json later = .empty

structure Fits (machine : AnthropicStreamMachine) (payloads : List String) : Prop where
  quiet : payloads.Pairwise (Quiet json)
  silent : machine.finished = true → ∀ payload ∈ payloads, counters json payload = .empty

theorem stated_append (items later : List StreamItem) :
    stated json (items ++ later) =
      peak ((readsOf items ++ readsOf later).map (counters json)) := by
  rw [stated, readsOf_append]

/-- A read after which nothing but output follows. -/
theorem stated_read (items : List StreamItem) (payload : String) {later : List StreamItem}
    (none : readsOf later = []) :
    stated json (items ++ .read payload :: later) =
      (stated json items).raiseAll (counters json payload) := by
  have reads : readsOf (.read payload :: later) = [payload] := by
    simpa [readsOf] using none
  rw [stated_append, reads, map_append, map_singleton, peak_concat, stated]

/-- Output keeps what was told. -/
theorem telling_kept {next : AnthropicStreamMachine} {payload : String}
    {events : List StreamEvent} (told : Telling json machine items)
    (usage : next.usage = machine.usage.raiseAll (counters json payload))
    (finished : next.finished = machine.finished) (plain : ∀ event ∈ events, Plain event)
    (silent : machine.finished = true → counters json payload = .empty) :
    Telling json next (items ++ .read payload :: events.map .event) := by
  have none : usagesOf (.read payload :: events.map .event) = [] := by
    rw [usagesOf_read, usagesOf_plain plain]
  have states := stated_read json items payload (readsOf_events events)
  constructor
  · intro live
    obtain ⟨counted, unreported, unended⟩ := told.unfinished (finished.symm.trans live)
    exact ⟨by rw [usage, counted, states], by rw [usagesOf_append, unreported, none]; rfl,
      unended.plain payload plain⟩
  · intro ends
    have stopped := finished.symm.trans ends
    obtain ⟨counted, reported⟩ := told.finished stopped
    have quiet := silent stopped
    refine ⟨by rw [usage, counted, quiet, raiseAll_empty], ?_, ?_⟩
    · rw [usagesOf_append, none, append_nil, states, quiet, raiseAll_empty, reported.usage]
    · exact afterFinal_of_all reported.first (noUsage_of_none none)

/-- An abnormal exit reports what was counted and not reported. -/
theorem reported_abandon (told : Telling json machine items) (error : StreamError) :
    Reported json
      (items ++ (AnthropicStreamMachine.stream json provider).abandon machine error) := by
  have reads : readsOf ((AnthropicStreamMachine.stream json provider).abandon machine error) =
      [] := by
    unfold StreamMachine.abandon
    cases (AnthropicStreamMachine.stream json provider).partialUsage machine <;> rfl
  have usages : usagesOf ((AnthropicStreamMachine.stream json provider).abandon machine error) =
      machine.usage.reportable.toList := by
    unfold StreamMachine.abandon
    change usagesOf ((machine.usage.reportable.map _).toList ++ _) = _
    cases machine.usage.reportable <;> rfl
  have same : stated json
      (items ++ (AnthropicStreamMachine.stream json provider).abandon machine error) =
        stated json items := by
    rw [stated_append, reads, append_nil, stated]
  cases ends : machine.finished with
  | false =>
      obtain ⟨counted, unreported, unended⟩ := told.unfinished ends
      refine ⟨by rw [usagesOf_append, unreported, usages, same, counted]; rfl, ?_⟩
      refine afterFinal_of_open unended ?_
      unfold StreamMachine.abandon
      cases (AnthropicStreamMachine.stream json provider).partialUsage machine <;>
        simp [AfterFinal, NoUsage]
  | true =>
      obtain ⟨counted, reported⟩ := told.finished ends
      have none : machine.usage.reportable.toList = [] := by rw [counted]; rfl
      rw [none] at usages
      refine ⟨by rw [usagesOf_append, usages, same, reported.usage, append_nil], ?_⟩
      exact afterFinal_of_all reported.first (noUsage_of_none usages)

/-- The terminal, behind the usage. -/
theorem telling_stop {payload : String} (told : Telling json machine items)
    (live : machine.finished = false) (silent : counters json payload = .empty)
    (final : StreamFinal) :
    Telling json { machine with usage := .empty, finished := true }
      (items ++ .read payload :: ((machine.usage.reportable.map StreamEvent.usage).toList ++
        [StreamEvent.final final]).map .event) := by
  obtain ⟨counted, unreported, unended⟩ := told.unfinished live
  have states := stated_read json items payload
    (readsOf_events
      ((machine.usage.reportable.map StreamEvent.usage).toList ++ [StreamEvent.final final]))
  rw [silent, raiseAll_empty] at states
  refine ⟨nofun, fun _ => ⟨rfl, ?_, ?_⟩⟩
  · rw [usagesOf_append, unreported, states, ← counted, usagesOf_read]
    cases machine.usage.reportable <;> rfl
  · refine afterFinal_of_open unended ?_
    cases machine.usage.reportable <;> simp [AfterFinal, NoUsage]

/-- The usage a stream reports. -/
theorem run_reported (countTokens : Bool) (reads : List (Except StreamError (List String)))
    (quiet : ∀ payloads, .ok payloads ∈ reads → payloads.Pairwise (Quiet json)) :
    Reported json
      ((AnthropicStreamMachine.stream json provider).run (.new countTokens) reads) := by
  have start : Telling json (.new countTokens) [] :=
    ⟨fun _ => ⟨rfl, rfl, by simp [Open]⟩, nofun⟩
  refine StreamMachine.run_told (AnthropicStreamMachine.stream json provider) (Telling json)
    (Fits json) (Reported json) ?_ ?_ ?_ ?_ ?_ reads ?_ (.new countTokens) [] start rfl
  · intro machine items payload rest told fits next events handled
    have later := pairwise_cons.mp fits.quiet
    rcases handlePayload_cases json provider machine payload with
      ⟨live, stop, silent, outcome⟩ | kept
    · rw [outcome, Prod.mk.injEq, Except.ok.injEq] at handled
      obtain ⟨rfl, rfl⟩ := handled
      exact ⟨telling_stop json told live silent _, later.2, fun _ payload mem =>
        later.1 payload mem stop⟩
    · rw [handled] at kept
      refine ⟨telling_kept json told kept.usage kept.finished (kept.plain events rfl)
        fun ends => fits.silent ends payload mem_cons_self, later.2, ?_⟩
      intro ends payload mem
      exact fits.silent (kept.finished.symm.trans ends) payload (mem_cons_of_mem _ mem)
  · intro machine items payload rest told fits next error handled
    rcases handlePayload_cases json provider machine payload with ⟨_, _, _, outcome⟩ | kept
    · rw [outcome] at handled
      cases handled
    · rw [handled] at kept
      have read : Telling json next (items ++ .read payload :: ([] : List StreamEvent).map .event) :=
        telling_kept json told kept.usage kept.finished (by simp)
          fun ends => fits.silent ends payload mem_cons_self
      simpa using reported_abandon json provider read error
  · intro machine items error told _
    exact reported_abandon json provider told error
  · intro machine items told _
    have closed := reported_abandon json provider told
      (.invalidSse s!"{provider} messages stream ended without completion")
    have same : (AnthropicStreamMachine.stream json provider).abandon machine
        (.invalidSse s!"{provider} messages stream ended without completion") =
          ((AnthropicStreamMachine.stream json provider).close machine).1.map .event ++
            (((AnthropicStreamMachine.stream json provider).close machine).2.map .failed).toList := by
      simp only [StreamMachine.abandon, AnthropicStreamMachine.stream]
      cases machine.partialUsage <;> rfl
    rwa [same] at closed
  · exact fun machine items told ends => (told.finished ends).2
  · intro payloads mem machine items _ live
    exact ⟨quiet payloads mem, fun ends => by cases live.symm.trans ends⟩

/-- A counter a peak has is the highest of those stated. -/
theorem peak_counter (field : AnthropicUsage → Option Nat) (stated : List AnthropicUsage)
    (h : (stated.filterMap field).max? = some tokens) :
    (∃ usage ∈ stated, field usage = some tokens) ∧
      ∀ usage ∈ stated, ∀ figure, field usage = some figure → figure ≤ tokens := by
  obtain ⟨mem, top⟩ := max?_eq_some_iff.mp h
  refine ⟨mem_filterMap.mp mem, fun usage said figure states => ?_⟩
  exact top figure (mem_filterMap.mpr ⟨usage, said, states⟩)

instance (payload : String) : Decidable (IsStop json payload) :=
  inferInstanceAs (Decidable (_ = _))

instance (payload later : String) : Decidable (Quiet json payload later) :=
  inferInstanceAs (Decidable (_ → _))

end Stream

section Billed

/-- Of 300 prompt tokens 200 were read from the cache and 60 written to it. -/
def warmBlock : BilledBlock where
  fresh := 40
  output := 7
  cacheRead := some 200
  cacheCreation := some 60

def listedRates : ModelRates where
  inputPerMtok := some 3
  outputPerMtok := some 15
  cachedInputPerMtok := some (3 / 10)
  cacheWritePerMtok := some (15 / 4)

def startPayload : String :=
  "\x7b\"type\":\"message_start\",\"message\":\x7b\"usage\":\x7b\"input_tokens\":25\x7d\x7d\x7d"

def deltaPayload : String :=
  "\x7b\"type\":\"message_delta\",\"usage\":\x7b\"output_tokens\":15\x7d\x7d"

def stopPayload : String := "\x7b\"type\":\"message_stop\"\x7d"

/-- A parser that has seen the three texts. -/
def messagesJson : SerdeJson where
  fromStr text :=
    if text = startPayload then
      some (.object [("type", .string "message_start"),
        ("message", .object [("usage", .object [("input_tokens", .integer 25)])])])
    else if text = deltaPayload then
      some (.object [("type", .string "message_delta"),
        ("usage", .object [("output_tokens", .integer 15)])])
    else if text = stopPayload then some (.object [("type", .string "message_stop")])
    else none
  toString _ := ""

theorem billable_some (nonneg : 0 ≤ rate) (top : rate ≤ 1000000) :
    Billable (some rate) := by
  rintro r ⟨rfl⟩
  exact ⟨nonneg, top⟩

/-- A block of nothing but zeroes: believable, and no report at all. -/
def zeroBlock : BilledBlock where
  fresh := 0
  output := 0
  cacheRead := none
  cacheCreation := none

end Billed

end ZeroRouter.Wire
