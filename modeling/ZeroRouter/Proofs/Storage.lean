import ZeroRouter.Db.Payload

/-!
# A settlement intent survives storage

What a build wrote of an intent is read back field by field, the late fields it did not have
taking their defaults.  The record rebuilt from it is the original but for what `to_record`
normalises, and a replay settles it as the request itself would have.
-/

namespace ZeroRouter.Stored

open List

open ZeroRouter (Uuid Decimal Timestamp Value)
open Serde

/-! ## What a document says -/

/-- What a rate reads as once its text is stored. -/
def Texts.reread (texts : Texts) (value : Decimal) : Decimal := texts.readRate (texts.rate value)

section
variable (reread : Decimal → Decimal) (build : Build)

def RatesPayload.written (payload : RatesPayload) : RatesPayload where
  inputPerMtok := payload.inputPerMtok.map reread
  cachedInputPerMtok := payload.cachedInputPerMtok.map reread
  cacheWritePerMtok := build.keep .ratesCacheWrite (payload.cacheWritePerMtok.map reread)
  outputPerMtok := payload.outputPerMtok.map reread

def TelemetryPayload.written (payload : TelemetryPayload) : TelemetryPayload :=
  { payload with
    basisRates := payload.basisRates.map (RatesPayload.written reread build)
    sellRates := payload.sellRates.written reread build
    finishReasonSource := build.keep .finishReasonSource payload.finishReasonSource
    usageGap := build.keep .usageGap payload.usageGap
    priority := build.keep .priority payload.priority
    byok := build.keep .byok payload.byok }

def UsagePayload.written (payload : UsagePayload) : UsagePayload :=
  { payload with
    cacheWriteInputTokens :=
      if build .usageCacheWrite then payload.cacheWriteInputTokens else 0 }

def AttemptTokensPayload.written (payload : AttemptTokensPayload) : AttemptTokensPayload :=
  { payload with cacheWriteInput := build.keep .tokensCacheWrite payload.cacheWriteInput }

def AttemptPayload.written (payload : AttemptPayload) : AttemptPayload :=
  { payload with
    tokens := if build .attemptTokens then payload.tokens.written build else .unknown }

/-- The intent a document of the build says, `reread` being what its rates read as. -/
def SettlementIntent.written (intent : SettlementIntent) : SettlementIntent :=
  { intent with
    taskSignatureScheme := build.keep .taskSignatureScheme intent.taskSignatureScheme
    toolNamesSha256 := build.keep .toolNamesSha256 intent.toolNamesSha256
    estimatorBasis := if build .estimatorBasis then intent.estimatorBasis else basisStr .cold
    usage := UsagePayload.written build intent.usage
    byokCatalogUsd := build.keep .byokCatalogUsd intent.byokCatalogUsd
    telemetry := intent.telemetry.written reread build
    attempts := intent.attempts.map (AttemptPayload.written build) }

end

/-! ## What the types hold -/

/-- A signed integer of so many bits. -/
def IsInt (bits : Nat) (value : Int) : Prop := -2 ^ (bits - 1) ≤ value ∧ value < 2 ^ (bits - 1)

/-- An unsigned one. -/
def IsNat (bits : Nat) (value : Nat) : Prop := value < 2 ^ bits

def UsagePayload.Typed (payload : UsagePayload) : Prop :=
  IsNat 64 payload.promptTokens ∧ IsNat 64 payload.cachedInputTokens ∧
    IsNat 64 payload.cacheWriteInputTokens ∧ IsNat 64 payload.completionTokens ∧
    IsNat 64 payload.totalTokens

structure TelemetryPayload.Typed (payload : TelemetryPayload) : Prop where
  requestedMaxTokens : IsInt 32 payload.requestedMaxTokens
  promptBytes : IsInt 64 payload.promptBytes
  messageCount : IsInt 32 payload.messageCount
  toolCount : IsInt 32 payload.toolCount

structure AttemptTokensPayload.Typed (payload : AttemptTokensPayload) : Prop where
  input : ∀ count, payload.input = some count → IsNat 64 count
  cachedInput : ∀ count, payload.cachedInput = some count → IsNat 64 count
  cacheWriteInput : ∀ count, payload.cacheWriteInput = some count → IsNat 64 count
  output : ∀ count, payload.output = some count → IsNat 64 count

structure AttemptPayload.Typed (payload : AttemptPayload) : Prop where
  attemptNo : IsInt 16 payload.attemptNo
  latencyMs : IsInt 32 payload.latencyMs
  tokens : payload.tokens.Typed

structure SettlementIntent.Typed (intent : SettlementIntent) : Prop where
  version : IsNat 8 intent.version
  taskSignatureScheme : ∀ scheme, intent.taskSignatureScheme = some scheme → IsInt 16 scheme
  reservedOutputTokens : IsInt 32 intent.reservedOutputTokens
  usage : UsagePayload.Typed intent.usage
  latencyMs : IsInt 32 intent.latencyMs
  status : IsInt 16 intent.status
  telemetry : intent.telemetry.Typed
  attempts : ∀ attempt ∈ intent.attempts, attempt.Typed

/-- The identifiers and the instants of an intent read back as themselves. -/
structure Texts.Identify (texts : Texts) (intent : SettlementIntent) : Prop where
  userId : texts.readUuid (texts.uuid intent.userId) = some intent.userId
  startedAt : ∀ attempt ∈ intent.attempts,
    texts.readInstant (texts.instant attempt.startedAt) = some attempt.startedAt

/-! ## Reading back -/

section Reading

variable {texts : Texts} {build : Build}

theorem readUsage_object {payload : UsagePayload} (typed : UsagePayload.Typed payload) :
    readUsage (object (UsagePayload.members build payload)) =
      some (UsagePayload.written build payload) := by
  obtain ⟨prompt, cached, written, completion, total⟩ := typed
  have distinct : ((UsagePayload.members build payload).map Member.key).Nodup := by
    simp [UsagePayload.members]
  unfold readUsage
  rw [required_object distinct rfl, required_object distinct rfl, defaulted_object distinct rfl,
    required_object distinct rfl, required_object distinct rfl, readNat_integer prompt,
    readNat_integer cached, readNat_integer written, readNat_integer completion,
    readNat_integer total]
  cases h : build .usageCacheWrite <;> simp [UsagePayload.written, h]

theorem asObject_object (members : List Member) :
    ∃ entries, (object members).asObject = some entries := ⟨_, rfl⟩

theorem readRates_serialize (payload : RatesPayload) :
    readRates texts (payload.serialize texts build) =
      some (payload.written texts.reread build) := by
  have distinct : ((payload.members texts build).map Member.key).Nodup := by
    simp [RatesPayload.members]
  have plain : ∀ value, rate texts value ≠ .null := by
    intro value
    simp [rate]
  have reads : ∀ value, readRate texts (rate texts value) =
      some (texts.reread value) := fun _ => rfl
  obtain ⟨entries, isObject⟩ := asObject_object (payload.members texts build)
  unfold readRates RatesPayload.serialize
  rw [isObject, optional_object distinct rfl plain fun value _ => reads value,
    optional_object distinct rfl plain fun value _ => reads value,
    optional_object distinct rfl plain fun value _ => reads value,
    optional_object distinct rfl plain fun value _ => reads value]
  rfl

theorem readTokens_object {payload : AttemptTokensPayload} (typed : payload.Typed) :
    readTokens (object (payload.members build)) = some (payload.written build) := by
  have distinct : ((payload.members build).map Member.key).Nodup := by
    simp [AttemptTokensPayload.members]
  have plain : ∀ count, natural count ≠ .null := by
    intro count
    simp [natural]
  obtain ⟨entries, isObject⟩ := asObject_object (payload.members build)
  unfold readTokens
  rw [isObject,
    optional_object distinct rfl plain fun count h => readNat_integer (typed.input count h),
    optional_object distinct rfl plain fun count h => readNat_integer (typed.cachedInput count h),
    optional_object distinct rfl plain
      fun count h => readNat_integer (typed.cacheWriteInput count h),
    optional_object distinct rfl plain fun count h => readNat_integer (typed.output count h)]
  cases h : build .tokensCacheWrite <;> simp [AttemptTokensPayload.written, Build.keep, h]

theorem readTelemetry_object {payload : TelemetryPayload} (typed : payload.Typed) :
    readTelemetry texts (object (payload.members texts build)) =
      some (payload.written texts.reread build) := by
  have distinct : ((payload.members texts build).map Member.key).Nodup := by
    simp [TelemetryPayload.members]
  have text : ∀ value, Value.string value ≠ .null := by simp
  have flag : ∀ value, Value.bool value ≠ .null := by simp
  have rates : ∀ payload, RatesPayload.serialize texts build payload ≠ .null := by
    simp [RatesPayload.serialize, object]
  unfold readTelemetry
  rw [required_object distinct rfl, required_object distinct rfl, required_object distinct rfl,
    required_object distinct rfl, required_object distinct rfl,
    optional_object distinct rfl text fun value _ => (rfl : _ = some (id value)),
    optional_object distinct rfl rates fun value _ => readRates_serialize value,
    required_object distinct rfl,
    optional_object distinct rfl text fun value _ => (rfl : _ = some (id value)),
    optional_object distinct rfl text fun value _ => (rfl : _ = some (id value)),
    optional_object distinct rfl text fun value _ => (rfl : _ = some (id value)),
    optional_object distinct rfl flag fun value _ => (rfl : _ = some (id value)),
    optional_object distinct rfl text fun value _ => (rfl : _ = some (id value)),
    optional_object distinct rfl flag fun value _ => (rfl : _ = some (id value)),
    readInt_integer typed.requestedMaxTokens, readInt_integer typed.promptBytes,
    readInt_integer typed.messageCount, readInt_integer typed.toolCount, readRates_serialize]
  simp [TelemetryPayload.written, Build.keep, readBool]

theorem readAttempt_serialize {payload : AttemptPayload} (typed : payload.Typed)
    (startedAt : texts.readInstant (texts.instant payload.startedAt) = some payload.startedAt) :
    readAttempt texts (payload.serialize texts build) = some (payload.written build) := by
  have distinct : ((payload.members texts build).map Member.key).Nodup := by
    simp [AttemptPayload.members]
  have text : ∀ value, Value.string value ≠ .null := by simp
  unfold readAttempt AttemptPayload.serialize
  rw [required_object distinct rfl, required_object distinct rfl, required_object distinct rfl,
    required_object distinct rfl, required_object distinct rfl, required_object distinct rfl,
    required_object distinct rfl, required_object distinct rfl, defaulted_object distinct rfl,
    required_object distinct rfl,
    optional_object distinct rfl text fun value _ => (rfl : _ = some (id value)),
    optional_object distinct rfl text fun value _ => (rfl : _ = some (id value)),
    optional_object distinct rfl text fun value _ => (rfl : _ = some (id value)),
    readInt_integer typed.attemptNo, readInt_integer typed.latencyMs,
    readTokens_object typed.tokens]
  cases h : build .attemptTokens <;>
    simp [AttemptPayload.written, readBool, Value.asStr, startedAt, h]

/-- What a build wrote of an intent is what this one reads, but for the late fields it did not
    have. -/
theorem readIntent_serialize {intent : SettlementIntent} (typed : intent.Typed)
    (identify : texts.Identify intent) :
    readIntent texts (intent.serialize texts build) = some (intent.written texts.reread build) := by
  have distinct : ((intent.members texts build).map Member.key).Nodup := by
    simp [SettlementIntent.members]
  have text : ∀ value, Value.string value ≠ .null := by simp
  have number : ∀ value, Value.integer value ≠ .null := by simp
  have attempts : readArray (readAttempt texts)
      (.array (intent.attempts.map (AttemptPayload.serialize texts build))) =
      some (intent.attempts.map (AttemptPayload.written build)) :=
    readArray_map fun attempt h =>
      readAttempt_serialize (typed.attempts attempt h) (identify.startedAt attempt h)
  unfold readIntent SettlementIntent.serialize
  rw [required_object distinct rfl, required_object distinct rfl, required_object distinct rfl,
    required_object distinct rfl,
    optional_object distinct rfl number
      fun scheme h => readInt_integer (typed.taskSignatureScheme scheme h),
    optional_object distinct rfl text fun value _ => (rfl : _ = some (id value)),
    required_object distinct rfl, required_object distinct rfl, defaulted_object distinct rfl,
    required_object distinct rfl, required_object distinct rfl, required_object distinct rfl,
    required_object distinct rfl, required_object distinct rfl,
    optional_object distinct rfl text fun value _ => (rfl : _ = some (id value)),
    required_object distinct rfl, required_object distinct rfl, required_object distinct rfl,
    required_object distinct rfl, readNat_integer typed.version,
    readInt_integer typed.reservedOutputTokens, readUsage_object typed.usage,
    readInt_integer typed.latencyMs, readInt_integer typed.status,
    readTelemetry_object typed.telemetry, attempts]
  cases h : build .estimatorBasis <;>
    simp [SettlementIntent.written, Build.keep, readBool, Value.asStr, identify.userId, h]

end Reading

/-! ## What is left of a record -/

section
variable (reread : Decimal → Decimal) (build : Build)

/-- The split of the prompt: one that counts nothing is none. -/
def usageLeft (usage : OpenAiUsage) : OpenAiUsage :=
  let cacheWriteTokens := if build .usageCacheWrite then usage.cacheWriteTokens else 0
  { usage with
    promptTokensDetails :=
      if usage.cachedInputTokens = 0 ∧ cacheWriteTokens = 0 then none
      else some { cachedTokens := usage.cachedInputTokens, cacheWriteTokens } }

def ratesLeft (rates : ModelRates) : ModelRates where
  inputPerMtok := rates.inputPerMtok.map reread
  outputPerMtok := rates.outputPerMtok.map reread
  cachedInputPerMtok := rates.cachedInputPerMtok.map reread
  cacheWritePerMtok := build.keep .ratesCacheWrite (rates.cacheWritePerMtok.map reread)

def tokensLeft (tokens : AttemptTokens) : AttemptTokens :=
  if build .attemptTokens then
    { tokens with cacheWriteInput := build.keep .tokensCacheWrite tokens.cacheWriteInput }
  else ⟨none, none, none, none⟩

/-- The source of a finish reason: the upstream if the record says so, the router otherwise. -/
def sourceLeft (source : Option String) : String :=
  if source = some finishReasonUpstream then finishReasonUpstream else finishReasonSynthetic

/-- A usage gap, if it is one the ledger knows. -/
def gapLeft (gap : Option String) : Option String :=
  gap.filter fun label => (UsageGap.fromKeyword label).isSome

def RequestTelemetry.left (telemetry : RequestTelemetry) : RequestTelemetry :=
  { telemetry with
    basisRates := telemetry.basisRates.map (ratesLeft reread build)
    sellRates := ratesLeft reread build telemetry.sellRates
    finishReasonSource :=
      some (sourceLeft (build.keep .finishReasonSource telemetry.finishReasonSource))
    usageGap := gapLeft (build.keep .usageGap telemetry.usageGap)
    priority := build.keep .priority telemetry.priority
    byok := build.keep .byok telemetry.byok }

def AttemptRecord.left (attempt : AttemptRecord) : AttemptRecord :=
  { attempt with tokens := tokensLeft build attempt.tokens }

/-- What is left of a record whose intent a build stored. -/
def UsageRecord.left (record : UsageRecord) : UsageRecord :=
  { record with
    usage := usageLeft build record.usage
    byokCatalogUsd := build.keep .byokCatalogUsd record.byokCatalogUsd
    telemetry := record.telemetry.left reread build
    attempts := record.attempts.map (AttemptRecord.left build) }

end

/-! ## Rebuilding the record -/

section Rebuilding

variable {texts : Texts} {reread : Decimal → Decimal} {build : Build}

theorem settlementDecimal_ok {amount : Decimal} (field : String)
    (h : texts.readDecimal (texts.decimal amount) = some amount) :
    settlementDecimal texts (texts.decimal amount) field = .ok amount := by
  unfold settlementDecimal
  rw [h]

theorem optionalDecimal_ok {amount : Option Decimal} (field : String)
    (h : ∀ value, amount = some value → texts.readDecimal (texts.decimal value) = some value) :
    optionalDecimal texts (amount.map texts.decimal) field = .ok amount := by
  cases amount with
  | none => rfl
  | some value =>
      show (settlementDecimal texts (texts.decimal value) field).map some = _
      rw [settlementDecimal_ok field (h value rfl)]
      rfl

theorem priorityFromKeyword_str (priority : Priority) :
    priorityFromKeyword (priorityStr priority) = some priority := by
  cases priority <;> rfl

theorem basisFromKeyword_str (basis : ReservationBasis) :
    basisFromKeyword (basisStr basis) = basis := by
  cases basis <;> rfl

theorem gapLeft_eq (gap : Option String) :
    (gap.bind UsageGap.fromKeyword).map UsageGap.asStr = gapLeft gap := by
  cases gap with
  | none => rfl
  | some label =>
      simp only [gapLeft, Option.bind_some, Option.filter_some]
      unfold UsageGap.fromKeyword
      split
      · next h => simp [h, UsageGap.asStr]
      · split
        · next h => simp [h, UsageGap.asStr]
        · rfl

theorem sourceLeft_eq (source : Option String) :
    (source.bind finishReasonSourceFromKeyword).or (some finishReasonSynthetic) =
      some (sourceLeft source) := by
  cases source with
  | none => rfl
  | some keyword =>
      simp only [sourceLeft, Option.bind_some, Option.some.injEq]
      unfold finishReasonSourceFromKeyword
      split
      · rfl
      · split <;> rfl

theorem toRates_written (rates : ModelRates) :
    ((RatesPayload.new rates).written reread build).toRates = ratesLeft reread build rates := rfl

theorem toTelemetry_written (telemetry : RequestTelemetry) :
    ((TelemetryPayload.new telemetry).written reread build).toTelemetry =
      telemetry.left reread build := by
  have priority : (build.keep .priority (telemetry.priority.map priorityStr)).bind
      priorityFromKeyword = build.keep .priority telemetry.priority := by
    unfold Build.keep
    split
    · cases telemetry.priority with
      | none => rfl
      | some priority => exact priorityFromKeyword_str priority
    · rfl
  have basis : ((telemetry.basisRates.map RatesPayload.new).map
      (RatesPayload.written reread build)).map RatesPayload.toRates =
      telemetry.basisRates.map (ratesLeft reread build) := by
    cases telemetry.basisRates <;> rfl
  simp only [TelemetryPayload.new, TelemetryPayload.written, TelemetryPayload.toTelemetry,
    RequestTelemetry.left, toRates_written, gapLeft_eq, sourceLeft_eq, priority, basis]

theorem toUsage_written (usage : OpenAiUsage) :
    (UsagePayload.written build (.new usage)).toUsage = usageLeft build usage := by
  unfold UsagePayload.toUsage UsagePayload.written UsagePayload.new usageLeft
  simp only [gt_iff_lt, Nat.pos_iff_ne_zero]
  by_cases cached : usage.cachedInputTokens = 0 <;>
    by_cases written : (if build .usageCacheWrite then usage.cacheWriteTokens else 0) = 0 <;>
      simp [cached, written]

/-- The identifier, the instants and the money of a settlement read back as themselves. -/
structure Texts.Keep (texts : Texts) (session : UsageSession) (reservation : Reservation)
    (record : UsageRecord) : Prop where
  userId : texts.readUuid (texts.uuid session.userId) = some session.userId
  startedAt : ∀ attempt ∈ record.attempts,
    texts.readInstant (texts.instant attempt.startedAt) = some attempt.startedAt
  reservedCostUsd :
    texts.readDecimal (texts.decimal reservation.reservedCostUsd) =
      some reservation.reservedCostUsd
  costUsd : texts.readDecimal (texts.decimal record.costUsd) = some record.costUsd
  byokCatalogUsd : ∀ catalog, record.byokCatalogUsd = some catalog →
    texts.readDecimal (texts.decimal catalog) = some catalog
  costBasisUsd : ∀ attempt ∈ record.attempts, ∀ cost, attempt.costBasisUsd = some cost →
    texts.readDecimal (texts.decimal cost) = some cost

theorem toAttempt_written {attempt : AttemptRecord}
    (price : ∀ cost, attempt.costBasisUsd = some cost →
      texts.readDecimal (texts.decimal cost) = some cost) :
    ((AttemptPayload.new texts attempt).written build).toAttempt texts =
      .ok (attempt.left build) := by
  simp only [AttemptPayload.toAttempt, AttemptPayload.written, AttemptPayload.new]
  rw [optionalDecimal_ok _ price]
  unfold AttemptRecord.left tokensLeft
  cases build .attemptTokens <;> rfl

theorem toAttempts_written {attempts : List AttemptRecord}
    (price : ∀ attempt ∈ attempts, ∀ cost, attempt.costBasisUsd = some cost →
      texts.readDecimal (texts.decimal cost) = some cost) :
    ((attempts.map (AttemptPayload.new texts)).map (AttemptPayload.written build)).mapM
      (AttemptPayload.toAttempt texts) = .ok (attempts.map (AttemptRecord.left build)) := by
  induction attempts with
  | nil => rfl
  | cons attempt rest ih =>
      have head : ((AttemptPayload.new texts attempt).written build).toAttempt texts =
          .ok (attempt.left build) := toAttempt_written (price attempt mem_cons_self)
      have tail := ih fun other h => price other (mem_cons_of_mem _ h)
      simp only [map_cons, mapM_cons, head, tail]
      rfl

/-- What `to_record` makes of what a build stored. -/
theorem toRecord_written {session : UsageSession} {reservation : Reservation}
    {record : UsageRecord} (keep : texts.Keep session reservation record) :
    ((SettlementIntent.new texts session reservation record).written reread build).toRecord texts =
      .ok (record.left reread build) := by
  have catalog : optionalDecimal texts
      (build.keep .byokCatalogUsd (record.byokCatalogUsd.map texts.decimal))
      "byok_catalog_usd" = .ok (build.keep .byokCatalogUsd record.byokCatalogUsd) := by
    unfold Build.keep
    split
    · exact optionalDecimal_ok _ keep.byokCatalogUsd
    · rfl
  simp only [SettlementIntent.toRecord, SettlementIntent.written, SettlementIntent.new,
    toAttempts_written keep.costBasisUsd, settlementDecimal_ok _ keep.costUsd, catalog,
    toTelemetry_written, toUsage_written]
  rfl

end Rebuilding

/-! ## What the source types hold -/

structure OpenAiUsageTyped (usage : OpenAiUsage) : Prop where
  promptTokens : IsNat 64 usage.promptTokens
  completionTokens : IsNat 64 usage.completionTokens
  totalTokens : IsNat 64 usage.totalTokens
  cachedTokens : IsNat 64 usage.cachedInputTokens
  cacheWriteTokens : IsNat 64 usage.cacheWriteTokens

structure AttemptRecord.Typed (attempt : AttemptRecord) : Prop where
  attemptNo : IsInt 16 attempt.attemptNo
  latencyMs : IsInt 32 attempt.latencyMs
  input : ∀ count, attempt.tokens.input = some count → IsNat 64 count
  cachedInput : ∀ count, attempt.tokens.cachedInput = some count → IsNat 64 count
  cacheWriteInput : ∀ count, attempt.tokens.cacheWriteInput = some count → IsNat 64 count
  output : ∀ count, attempt.tokens.output = some count → IsNat 64 count

/-- The integers of a session, its reservation and its record are of the types the source gives
    them. -/
structure Typed (session : UsageSession) (reservation : Reservation) (record : UsageRecord) :
    Prop where
  outputBound : IsInt 32 session.outputBound
  scheme : IsInt 16 reservation.taskSignature.scheme
  usage : OpenAiUsageTyped record.usage
  latencyMs : IsInt 32 record.latencyMs
  status : IsInt 16 record.status
  requestedMaxTokens : IsInt 32 record.telemetry.requestedMaxTokens
  promptBytes : IsInt 64 record.telemetry.promptBytes
  messageCount : IsInt 32 record.telemetry.messageCount
  toolCount : IsInt 32 record.telemetry.toolCount
  attempts : ∀ attempt ∈ record.attempts, attempt.Typed

section Settling

variable {texts : Texts} {session : UsageSession} {reservation : Reservation}
  {record : UsageRecord}

theorem Typed.intent (typed : Typed session reservation record) :
    (SettlementIntent.new texts session reservation record).Typed where
  version := by
    show settlementIntentVersion < 2 ^ 8
    decide
  taskSignatureScheme scheme h := by
    cases h
    exact typed.scheme
  reservedOutputTokens := typed.outputBound
  usage :=
    ⟨typed.usage.promptTokens, typed.usage.cachedTokens, typed.usage.cacheWriteTokens,
      typed.usage.completionTokens, typed.usage.totalTokens⟩
  latencyMs := typed.latencyMs
  status := typed.status
  telemetry :=
    ⟨typed.requestedMaxTokens, typed.promptBytes, typed.messageCount, typed.toolCount⟩
  attempts payload h := by
    obtain ⟨attempt, hattempt, rfl⟩ := mem_map.mp h
    have held := typed.attempts attempt hattempt
    exact ⟨held.attemptNo, held.latencyMs,
      ⟨held.input, held.cachedInput, held.cacheWriteInput, held.output⟩⟩

theorem Texts.Keep.identify (keep : texts.Keep session reservation record) :
    texts.Identify (SettlementIntent.new texts session reservation record) where
  userId := keep.userId
  startedAt payload h := by
    obtain ⟨attempt, hattempt, rfl⟩ := mem_map.mp h
    exact keep.startedAt attempt hattempt

/-! ## Settling what was stored -/

/-- A build that has every field, storing rates as they are, says the intent itself. -/
theorem SettlementIntent.written_current (intent : SettlementIntent) :
    intent.written id Build.current = intent := by
  have rates : ∀ payload : RatesPayload, payload.written id Build.current = payload := by
    intro payload
    simp [RatesPayload.written, Build.keep, Build.current]
  have attempts : ∀ payload : AttemptPayload, payload.written Build.current = payload := fun _ =>
    rfl
  have basis : RatesPayload.written id Build.current = id := funext rates
  have walk : AttemptPayload.written Build.current = id := funext attempts
  simp only [SettlementIntent.written, TelemetryPayload.written, basis, walk, map_id,
    Option.map_id]
  rfl

/-- The reservation as the metering tables see it. -/
def Reservation.lower (reservation : Reservation) : ZeroRouter.Reservation where
  reservedCostUsd := reservation.reservedCostUsd
  estimatorBasis := reservation.estimatorBasis

/-- The record as the metering tables see it. -/
def UsageRecord.lower (record : UsageRecord) : ZeroRouter.UsageRecord where
  tier := record.tier
  upstreamProvider := record.upstreamProvider
  upstreamModel := record.upstreamModel
  usage := record.usage
  costUsd := record.costUsd
  byokCatalogUsd := record.byokCatalogUsd
  latencyMs := record.latencyMs
  status := record.status
  byok := record.telemetry.byok
  attempts := record.attempts.map AttemptRecord.lower

/-- Whatever its rates read as, what this build stored is settled as the intent that
    `SettlementIntent.new` makes of the same session and record. -/
theorem settleOnce_written (reread : Decimal → Decimal)
    (keep : texts.Keep session reservation record) (db : Db) (now : Timestamp)
    (reservationId apiKeyId : Uuid) :
    settleOnce texts db now reservationId apiKeyId
      ((SettlementIntent.new texts session reservation record).written reread Build.current) =
      (db.settleOnce now reservationId apiKeyId
        (.new session reservation.lower record.lower)).map fun (step, settled) =>
          { step
            db := settled
            provenance :=
              ((SettlementIntent.new texts session reservation record).written reread
                Build.current).provenance (record.left reread Build.current) } := by
  have walk : (record.attempts.map (AttemptRecord.left Build.current)).map AttemptRecord.lower =
      record.attempts.map AttemptRecord.lower := by
    rw [map_map]
    rfl
  have lowered : ((SettlementIntent.new texts session reservation record).written reread
      Build.current).lower (record.left reread Build.current) reservation.reservedCostUsd =
      .new session reservation.lower record.lower := by
    simp only [SettlementIntent.lower, SettlementIntent.written, SettlementIntent.new,
      UsageRecord.left, walk, Build.current, Build.keep, if_true, basisFromKeyword_str]
    rfl
  have reserved : ((SettlementIntent.new texts session reservation record).written reread
      Build.current).reservedCostSnapshot texts = .ok reservation.reservedCostUsd :=
    settlementDecimal_ok _ keep.reservedCostUsd
  unfold settleOnce
  rw [toRecord_written keep, reserved]
  show (db.settleOnce now reservationId apiKeyId (SettlementIntent.lower _ _ _) >>= _) = _
  rw [lowered]
  cases db.settleOnce now reservationId apiKeyId (.new session reservation.lower record.lower) <;>
    rfl

/-- Rates whose texts read back as themselves. -/
def RatesKept (reread : Decimal → Decimal) (rates : ModelRates) : Prop :=
  ratesLeft reread Build.current rates = rates

/-- Where the rates read back as themselves, what this build stored is the intent itself. -/
theorem written_of_ratesKept {reread : Decimal → Decimal}
    (sell : RatesKept reread record.telemetry.sellRates)
    (basis : ∀ rates, record.telemetry.basisRates = some rates → RatesKept reread rates) :
    (SettlementIntent.new texts session reservation record).written reread Build.current =
      SettlementIntent.new texts session reservation record := by
  have payload : ∀ rates : ModelRates, RatesKept reread rates →
      (RatesPayload.new rates).written reread Build.current = .new rates := by
    intro rates kept
    calc (RatesPayload.new rates).written reread Build.current
        = .new (ratesLeft reread Build.current rates) := rfl
      _ = .new rates := by rw [kept]
  have basisRates : (record.telemetry.basisRates.map RatesPayload.new).map
      (RatesPayload.written reread Build.current) =
      record.telemetry.basisRates.map RatesPayload.new := by
    cases h : record.telemetry.basisRates with
    | none => rfl
    | some rates => exact congrArg some (payload rates (basis rates h))
  have walk : AttemptPayload.written Build.current = id := rfl
  simp only [SettlementIntent.written, TelemetryPayload.written, SettlementIntent.new,
    TelemetryPayload.new, payload _ sell, basisRates, walk, map_id]
  rfl

/-- What the metering tables see of a settlement. -/
def Settlement.tables (settlement : Settlement) : SettleStep × Db :=
  (settlement.step, settlement.db)

theorem tables_written (reread : Decimal → Decimal)
    (keep : texts.Keep session reservation record) (db : Db) (now : Timestamp)
    (reservationId apiKeyId : Uuid) :
    (settleOnce texts db now reservationId apiKeyId
      ((SettlementIntent.new texts session reservation record).written reread
        Build.current)).map Settlement.tables =
      db.settleOnce now reservationId apiKeyId (.new session reservation.lower record.lower) := by
  rw [settleOnce_written reread keep]
  cases db.settleOnce now reservationId apiKeyId (.new session reservation.lower record.lower) <;>
    rfl

end Settling

/-- Whatever build stored the intent of a session and its record, this one reads it, with the
    late fields that build did not have absent, and rebuilds from it the record that was
    settled: its charge, its tokens and its attempts as they were, a split that counts nothing
    gone, a source of the finish reason that is none or unknown synthetic, a usage gap the
    ledger does not know gone, and each rate what its text reads as.  What this build stored
    itself is settled, from any database, as the request that stored it would have settled. -/
theorem intent_survives_storage {texts : Texts} {session : UsageSession}
    {reservation : Reservation} {record : UsageRecord}
    (typed : Typed session reservation record) (keep : texts.Keep session reservation record) :
    let intent := SettlementIntent.new texts session reservation record
    (∀ build : Build, ∃ stored,
      readIntent texts (intent.serialize texts build) = some stored ∧
        stored = intent.written texts.reread build ∧
        stored.toRecord texts = .ok (record.left texts.reread build) ∧
        stored.reservedCostSnapshot texts = .ok reservation.reservedCostUsd) ∧
      intent.toRecord texts = .ok (record.left id Build.current) ∧
      ∃ stored, readIntent texts (intent.serialize texts Build.current) = some stored ∧
        ∀ (db : Db) (now : Timestamp) (reservationId apiKeyId : Uuid),
          (settleOnce texts db now reservationId apiKeyId stored).map Settlement.tables =
              (settleOnce texts db now reservationId apiKeyId intent).map Settlement.tables ∧
            (RatesKept texts.reread record.telemetry.sellRates →
              (∀ rates, record.telemetry.basisRates = some rates →
                RatesKept texts.reread rates) →
              settleOnce texts db now reservationId apiKeyId stored =
                settleOnce texts db now reservationId apiKeyId intent) := by
  intro intent
  have itself : intent.written id Build.current = intent := intent.written_current
  refine ⟨fun build => ⟨_, readIntent_serialize typed.intent keep.identify, rfl,
    toRecord_written keep, settlementDecimal_ok _ keep.reservedCostUsd⟩, ?_, _,
    readIntent_serialize typed.intent keep.identify, fun db now reservationId apiKeyId => ⟨?_, ?_⟩⟩
  · have rebuilt : (intent.written id Build.current).toRecord texts =
        .ok (record.left id Build.current) := toRecord_written keep
    rwa [itself] at rebuilt
  · have live := tables_written id keep db now reservationId apiKeyId
    rw [itself] at live
    rw [tables_written texts.reread keep, live]
  · intro sell basis
    rw [written_of_ratesKept sell basis]

/-! A request whose first attempt died mid-stream, its prompt unknown, and whose second served. -/

def sampleTexts : Texts where
  uuid _ := "7b0c2f0e-5d1c-4a57-9a3e-2f6d1f0c9a11"
  readUuid text := if text = "7b0c2f0e-5d1c-4a57-9a3e-2f6d1f0c9a11" then some 7 else none
  instant _ := "2026-01-01T00:00:00Z"
  readInstant text := if text = "2026-01-01T00:00:00Z" then some 1767225600000000 else none
  decimal amount := if amount = 3 / 100 then "0.03" else "0.05"
  readDecimal text :=
    if text = "0.03" then some (3 / 100) else if text = "0.05" then some (5 / 100) else none
  rate _ := "1.5"
  readRate _ := 3 / 2

def sampleSession : UsageSession where
  requestId := 1
  apiKeyId := 2
  userId := 7
  requireCredits := true
  outputBound := 256
  reservation := none

def sampleReservation : Reservation where
  reservedCostUsd := 5 / 100
  taskSignature :=
    { hex := "9f2c51d0aa3b7e64"
      scheme := 2
      toolNamesSha256 := "e3b0c44298fc1c149afbf4c8996fb92427ae41e4649b934ca495991b7852b855" }
  estimatorBasis := .learned

def sampleRates : ModelRates := ⟨some (3 / 2), some (3 / 2), none, some (3 / 2)⟩

def sampleAttempt (attemptNo : Int) (served : Bool) (tokens : AttemptTokens)
    (costBasisUsd : Option Decimal) : AttemptRecord where
  attemptNo
  startedAt := 1767225600000000
  candidateId := "primary"
  upstreamProvider := "anthropic"
  upstreamModel := "sonnet"
  outcome := if served then "success" else "stream_error"
  served
  latencyMs := 900
  tokens
  tokensEstimated := !served
  costBasisUsd
  finishReason := if served then some "stop" else none
  validatorKind := none

def sampleRecord (usageGap : Option String) : UsageRecord where
  tier := "balanced"
  upstreamProvider := "anthropic"
  upstreamModel := "sonnet"
  usage :=
    { promptTokens := 100
      completionTokens := 20
      totalTokens := 120
      promptTokensDetails := some { cachedTokens := 40, cacheWriteTokens := 8 } }
  costUsd := 3 / 100
  byokCatalogUsd := none
  latencyMs := 1800
  status := 200
  telemetry :=
    { requestedMaxTokens := 256
      stream := true
      promptBytes := 410
      messageCount := 2
      toolCount := 0
      candidateId := some "primary"
      basisRates := some sampleRates
      sellRates := sampleRates
      finishReason := some "stop"
      finishReasonSource := some "upstream"
      shapeOk := some true
      usageGap
      priority := some .balanced
      byok := some false }
  attempts :=
    [sampleAttempt 1 false ⟨none, none, none, some 3⟩ none,
      sampleAttempt 2 true ⟨some 100, some 40, some 8, some 20⟩ (some (3 / 100))]

theorem sample_typed (usageGap : Option String) :
    Typed sampleSession sampleReservation (sampleRecord usageGap) := by
  constructor <;>
    first
    | simp [IsInt, sampleSession, sampleReservation, sampleRecord]; done
    | skip
  · constructor <;> simp [IsNat, sampleRecord, OpenAiUsage.cachedInputTokens,
      OpenAiUsage.cacheWriteTokens]
  · intro attempt hattempt
    simp only [sampleRecord, mem_cons, not_mem_nil, or_false] at hattempt
    rcases hattempt with rfl | rfl <;> constructor <;> simp [IsInt, IsNat, sampleAttempt]

theorem sample_keep (usageGap : Option String) :
    sampleTexts.Keep sampleSession sampleReservation (sampleRecord usageGap) where
  userId := by decide
  startedAt attempt hattempt := by
    simp only [sampleRecord, mem_cons, not_mem_nil, or_false] at hattempt
    rcases hattempt with rfl | rfl <;> decide
  reservedCostUsd := by decide +kernel
  costUsd := by
    show sampleTexts.readDecimal (sampleTexts.decimal (3 / 100)) = some (3 / 100)
    decide +kernel
  byokCatalogUsd catalog h := by cases h
  costBasisUsd attempt hattempt cost h := by
    simp only [sampleRecord, mem_cons, not_mem_nil, or_false] at hattempt
    rcases hattempt with rfl | rfl
    · cases h
    · cases h
      decide +kernel

theorem intent_survives_storage_sample :
    ∃ stored, readIntent sampleTexts
        ((SettlementIntent.new sampleTexts sampleSession sampleReservation
          (sampleRecord (some "done_missing"))).serialize sampleTexts fun _ => false) =
        some stored ∧
      stored.toRecord sampleTexts =
        .ok ((sampleRecord (some "done_missing")).left sampleTexts.reread fun _ => false) := by
  obtain ⟨stored, read, -, rebuilt, -⟩ :=
    (intent_survives_storage (sample_typed (some "done_missing"))
      (sample_keep (some "done_missing"))).1 fun _ => false
  exact ⟨stored, read, rebuilt⟩

/-- A gap the ledger does not know is not replayed. -/
theorem unknown_usage_gap_dropped :
    ¬ ∀ (texts : Texts) (session : UsageSession) (reservation : Reservation)
      (record : UsageRecord), Typed session reservation record →
        texts.Keep session reservation record → ∀ stored replayed,
          readIntent texts ((SettlementIntent.new texts session reservation record).serialize
            texts Build.current) = some stored →
          stored.toRecord texts = .ok replayed →
          replayed.telemetry.usageGap = record.telemetry.usageGap := by
  intro claim
  have typed := sample_typed (some "truncated")
  have keep := sample_keep (some "truncated")
  have kept := claim _ _ _ _ typed keep _ _ (readIntent_serialize typed.intent keep.identify)
    (toRecord_written keep)
  exact absurd kept (by decide)

end ZeroRouter.Stored
