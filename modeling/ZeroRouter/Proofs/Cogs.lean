import ZeroRouter.Db.Payload
import ZeroRouter.Api.Stream
import Mathlib.Algebra.BigOperators.Group.List.Basic

/-!
# Where a request's cost of goods is counted

A settled row carries what a request cost ZeroRouter in two columns: `cost_basis_usd`, found as
the served attempt's own basis, and `attempts_cost_basis_usd`, summed over the attempts that did
not serve.  The margin subtracts both.  The first column has a fallback, the settled usage priced
again when no attempt served, and that usage may be an attempt's own.
-/

namespace ZeroRouter.Stored

open List

open ZeroRouter (AttemptTokens AttemptCogs)

/-! ## The two sides -/

/-- What the attempts cost, an unknown basis counting for nothing. -/
def basisSum (attempts : List AttemptRecord) : Decimal :=
  (attempts.map fun attempt => attempt.costBasisUsd.getD 0).sum

/-- The attempt whose cost the settled row's own column carries. -/
def servedSide (attempts : List AttemptRecord) : List AttemptRecord :=
  attempts.filter (·.served)

/-- The attempts `AttemptCogs::summarize` adds up. -/
def losingSide (attempts : List AttemptRecord) : List AttemptRecord :=
  attempts.filter fun attempt => !attempt.served

/-- `AttemptCogs::summarize` of a record's attempts. -/
def attemptCogs (record : UsageRecord) : AttemptCogs :=
  AttemptCogs.summarize (record.attempts.map AttemptRecord.lower)

/-- What the margin of a settled row subtracts from its price. -/
def cogs (telemetry : RequestTelemetry) (record : UsageRecord) : Decimal :=
  (telemetry.costBasis record).getD 0 + (attemptCogs record).total.getD 0

/-- The settled usage at the basis rates, nothing where it has no price. -/
def repriced (telemetry : RequestTelemetry) (usage : OpenAiUsage) : Decimal :=
  (telemetry.basisRates.bind fun rates => usageCost rates usage).getD 0

/-- Nothing is on both sides, and nothing on neither. -/
theorem sides_perm (attempts : List AttemptRecord) :
    (servedSide attempts ++ losingSide attempts).Perm attempts :=
  filter_append_perm (fun attempt : AttemptRecord => attempt.served) attempts

theorem basisSum_append (before after : List AttemptRecord) :
    basisSum (before ++ after) = basisSum before + basisSum after := by
  simp [basisSum]

theorem basisSum_sides (attempts : List AttemptRecord) :
    basisSum (servedSide attempts) + basisSum (losingSide attempts) = basisSum attempts := by
  rw [← basisSum_append]
  exact ((sides_perm attempts).map _).sum_eq

section Columns

variable (telemetry : RequestTelemetry) (record : UsageRecord)

theorem attemptCogs_total (h : record.attempts ≠ []) :
    (attemptCogs record).total = some (basisSum (losingSide record.attempts)) := by
  have lowered : ((record.attempts.map AttemptRecord.lower).filter fun a => !a.served) =
      (losingSide record.attempts).map AttemptRecord.lower := by
    rw [filter_map]
    rfl
  unfold attemptCogs AttemptCogs.summarize
  rw [if_neg (by simpa using h)]
  simp only [lowered, map_map]
  rfl

theorem attemptCogs_complete (h : (attemptCogs record).complete = some true) :
    ∀ attempt ∈ record.attempts, attempt.served = false →
      attempt.lower.cogsIsMeasured = true := by
  intro attempt mem unserved
  unfold attemptCogs AttemptCogs.summarize at h
  split at h
  · cases h
  · have measured := all_eq_true.mp (Option.some.inj h)
    apply measured
    rw [mem_filter]
    refine ⟨mem_map_of_mem mem, ?_⟩
    simp [AttemptRecord.lower, unserved]

/-- With a served attempt, the row's column is that attempt's basis. -/
theorem costBasis_of_served {attempt : AttemptRecord}
    (h : servedSide record.attempts = [attempt]) :
    telemetry.costBasis record = attempt.costBasisUsd := by
  have found : record.attempts.find? (·.served) = some attempt := by
    rw [← head?_filter]
    exact congrArg List.head? h
  unfold RequestTelemetry.costBasis
  rw [found]

/-- Without one, it is the settled usage priced again. -/
theorem costBasis_of_none (h : servedSide record.attempts = []) :
    telemetry.costBasis record =
      telemetry.basisRates.bind fun rates => usageCost rates record.usage := by
  have found : record.attempts.find? (·.served) = none := by
    rw [← head?_filter]
    exact congrArg List.head? h
  unfold RequestTelemetry.costBasis
  rw [found]

/-- What the two columns come to when some attempt was recorded. -/
theorem cogs_eq (one : (servedSide record.attempts).length ≤ 1) (h : record.attempts ≠ []) :
    cogs telemetry record = basisSum record.attempts +
      if servedSide record.attempts = [] then repriced telemetry record.usage else 0 := by
  have sides := basisSum_sides record.attempts
  unfold cogs
  rw [attemptCogs_total record h, Option.getD_some]
  cases served : servedSide record.attempts with
  | nil =>
      rw [costBasis_of_none telemetry record served, if_pos rfl, ← sides, served]
      simp only [basisSum, map_nil, sum_nil, zero_add, repriced]
      ring
  | cons attempt rest =>
      have none_left : rest = [] := by
        rw [served] at one
        exact length_eq_zero_iff.mp (by simpa using one)
      subst none_left
      rw [costBasis_of_served telemetry record served, if_neg (by simp), ← sides, served]
      simp [basisSum]

end Columns

/-! ## Counted once -/

/-- An attempt's cost is a measurement: the basis is known and stands on four measured
    dimensions. -/
structure Measured (attempt : AttemptRecord) : Prop where
  basis : attempt.costBasisUsd.isSome = true
  input : attempt.tokens.input.isSome = true
  cachedInput : attempt.tokens.cachedInput.isSome = true
  cacheWriteInput : attempt.tokens.cacheWriteInput.isSome = true
  output : attempt.tokens.output.isSome = true
  reported : attempt.tokensEstimated = false

theorem measured_of_cogsIsMeasured {attempt : AttemptRecord}
    (h : attempt.lower.cogsIsMeasured = true) : Measured attempt := by
  simp only [ZeroRouter.AttemptRecord.cogsIsMeasured, AttemptTokens.isComplete,
    AttemptRecord.lower, Bool.and_eq_true, Bool.not_eq_true'] at h
  obtain ⟨⟨basis, ⟨⟨input, cached⟩, written⟩, output⟩, reported⟩ := h
  exact ⟨basis, input, cached, written, output, reported⟩

/-- The two columns of a settled row are the attempts' costs, each once, and a sum marked
    complete is of measurements alone. -/
structure CountedOnce (telemetry : RequestTelemetry) (record : UsageRecord) : Prop where
  sum : record.attempts ≠ [] → cogs telemetry record = basisSum record.attempts
  complete : (attemptCogs record).complete = some true →
    (∀ attempt ∈ record.attempts, attempt.served = false → Measured attempt) ∧
      (attemptCogs record).total = some (basisSum (losingSide record.attempts))

/-- The fallback has nothing to price: an attempt served, none was recorded, or the settled
    usage costs nothing at the basis rates. -/
def NothingRepriced (telemetry : RequestTelemetry) (record : UsageRecord) : Prop :=
  record.attempts = [] ∨ (∃ attempt ∈ record.attempts, attempt.served = true) ∨
    repriced telemetry record.usage = 0

theorem servedSide_eq_nil {attempts : List AttemptRecord} :
    servedSide attempts = [] ↔ ¬ ∃ attempt ∈ attempts, attempt.served = true := by
  simp [servedSide, filter_eq_nil_iff]

/-- The cost of goods is counted once exactly when the settled usage is not priced on top of
    attempts none of which served. -/
theorem counted_once_iff (telemetry : RequestTelemetry) (record : UsageRecord)
    (one : (record.attempts.filter (·.served)).length ≤ 1) :
    CountedOnce telemetry record ↔ NothingRepriced telemetry record := by
  have total := cogs_eq telemetry record one
  constructor
  · intro counted
    by_cases none_recorded : record.attempts = []
    · exact .inl none_recorded
    by_cases served : ∃ attempt ∈ record.attempts, attempt.served = true
    · exact .inr (.inl served)
    have sum := counted.sum none_recorded
    rw [total none_recorded, if_pos (servedSide_eq_nil.mpr served)] at sum
    exact .inr (.inr (by linarith))
  · intro nothing
    refine ⟨fun recorded => ?_, fun complete => ⟨fun attempt mem unserved => ?_, ?_⟩⟩
    · rw [total recorded]
      rcases nothing with none_recorded | served | free
      · exact absurd none_recorded recorded
      · rw [if_neg (fun h => servedSide_eq_nil.mp h served), add_zero]
      · rw [free, ite_self, add_zero]
    · exact measured_of_cogsIsMeasured (attemptCogs_complete record complete attempt mem unserved)
    · apply attemptCogs_total
      rintro empty
      rw [attemptCogs, empty] at complete
      cases complete

def emptyUsage : OpenAiUsage where
  promptTokens := 1000
  completionTokens := 20
  totalTokens := 1020
  promptTokensDetails := none

/-- The row of a stream that metered 1000 tokens in and 20 out and sent nothing. -/
def emptyAnswer : AttemptRecord where
  attemptNo := 1
  startedAt := 0
  candidateId := "solo"
  upstreamProvider := "openai"
  upstreamModel := "upstream/solo"
  outcome := "ok"
  served := false
  latencyMs := 5
  tokens := .measured emptyUsage
  tokensEstimated := false
  costBasisUsd := some (1 / 1000)
  finishReason := some "stop"
  validatorKind := none

def emptyTelemetry : RequestTelemetry where
  requestedMaxTokens := 100
  stream := true
  promptBytes := 40
  messageCount := 1
  toolCount := 0
  candidateId := some "solo"
  basisRates := some ⟨some 1, some 0, none, none⟩
  sellRates := ⟨some 2, some 0, none, none⟩
  finishReason := some "stop"
  finishReasonSource := some finishReasonUpstream
  shapeOk := some false
  usageGap := none
  priority := some .balanced
  byok := some false

def emptyRecord : UsageRecord where
  tier := "zero/test-solo"
  upstreamProvider := "openai"
  upstreamModel := "upstream/solo"
  usage := emptyUsage
  costUsd := 2 / 1000
  byokCatalogUsd := none
  latencyMs := 6
  status := 200
  telemetry := emptyTelemetry
  attempts := [emptyAnswer]

/-- The same call with its output received. -/
def keptAnswer : AttemptRecord := { emptyAnswer with attemptNo := 2, served := true }

def keptTelemetry : RequestTelemetry := { emptyTelemetry with shapeOk := some true }

def keptRecord : UsageRecord := { emptyRecord with attempts := [emptyAnswer, keptAnswer] }

/-- A request that lost one attempt and was served by the next. -/
theorem counted_once_after_a_loss :
    CountedOnce keptTelemetry keptRecord :=
  (counted_once_iff keptTelemetry keptRecord (by decide)).mpr
    (.inr (.inl ⟨keptAnswer, by simp [keptRecord], rfl⟩))

/-! ## Which terminals meet it -/

section EmptyAnswer

variable (request : WalkRequest) (env : StreamSurroundings)

end EmptyAnswer

/-- The margin of a paid empty answer loses the upstream's price twice. -/
theorem empty_answer_counted_twice :
    (emptyRecord.attempts.filter (·.served)).length ≤ 1 ∧
      ¬ CountedOnce emptyTelemetry emptyRecord := by
  refine ⟨by decide, fun counted => ?_⟩
  have sum := counted.sum (by simp [emptyRecord])
  exact absurd sum (by decide +kernel)

end ZeroRouter.Stored
