import ZeroRouter.Api.Inference
import ZeroRouter.Lib.KeyedMap
import ZeroRouter.Lib.Run

/-!
# The estimator at work

`EstimatorState` of `src/router/src/estimator.rs`, the refresher's pass and the loss evaluation of
`src/router/src/api.rs` with the scans of `usage_events` in `src/router/src/db.rs` they run, and how
`chat_completions` comes to a learned bound.  Requests, the refresher and settlements interleave; a
call reads its clock before it waits for a lock, and the database has a clock of its own.  Instants
are nanoseconds.

`percentile_cont` is the database's and `to_f64` the decimal library's.
-/

namespace ZeroRouter.Estimation

/-- `WARM_MIN_ROWS`. -/
def warmMinRows : Int := 50

/-- `CELL_TTL`. -/
def cellTtl : Int := 5 * 60 * 10 ^ 9

/-- `REFRESH_BATCH`. -/
def refreshBatch : Nat := 1024

/-- `MAX_CELLS`. -/
def maxCells : Nat := 65536

/-- `MAX_PENDING`. -/
def maxPending : Nat := 1024

/-- `REVERT_COOLDOWN`. -/
def revertCooldown : Int := 7 * 24 * 60 * 60 * 10 ^ 9

/-- `SEGMENT_LOSS_LIMIT_7D_USD`. -/
def segmentLossLimit7dUsd : ℚ := 10

/-- `ROW_LOSS_LIMIT_USD`. -/
def rowLossLimitUsd : ℚ := 1

/-- `SEGMENT_HIT_RATE_LIMIT`. -/
def segmentHitRateLimit : ℚ := 1 / 200

/-- `USER_LOSS_LIMIT_30D_USD`. -/
def userLossLimit30dUsd : ℚ := 50

/-- `MAX_REVERT_MARKS`. -/
def maxRevertMarks : Nat := 4096

/-! ## The cache -/

structure TaskSignature where
  hex : String
  scheme : Int
  deriving DecidableEq, Repr

/-- A segment, as its mark is filed. -/
abbrev Segment := String × Int

def TaskSignature.segment (signature : TaskSignature) : Segment := (signature.hex, signature.scheme)

structure CellKey where
  signature : String
  scheme : Int
  candidate : Option String
  deriving DecidableEq, Repr

def CellKey.segment (key : CellKey) : Segment := (key.signature, key.scheme)

def CellKey.forSignature (signature : TaskSignature) : CellKey where
  signature := signature.hex
  scheme := signature.scheme
  candidate := none

def isWarm (percentiles : OutputPercentiles) : Bool := warmMinRows ≤ percentiles.rows

inductive CellRead where
  | warm (percentiles : OutputPercentiles)
  | cold
  deriving DecidableEq, Repr

structure CachedCell where
  fetchedAt : Int
  measured : Option OutputPercentiles
  deriving DecidableEq, Repr

structure EstimatorState where
  cells : KeyedMap CellKey CachedCell
  pending : List CellKey
  revertedSegments : KeyedMap Segment Int
  revertedUsers : KeyedMap Uuid Int

/-- `EstimatorState::default`. -/
def EstimatorState.new : EstimatorState where
  cells := .empty
  pending := []
  revertedSegments := .empty
  revertedUsers := .empty

/-- `duration_since` stops at zero. -/
def aged (cell : CachedCell) (now : Int) : Int := max 0 (now - cell.fetchedAt)

namespace EstimatorState

def enqueue (state : EstimatorState) (key : CellKey) : EstimatorState :=
  if state.pending.length < maxPending then
    { state with pending := if key ∈ state.pending then state.pending else key :: state.pending }
  else state

def lookup (state : EstimatorState) (key : CellKey) (now : Int) : CellRead × EstimatorState :=
  match (state.cells.get? key).filter (aged · now ≤ cellTtl) with
  | some cell => ((cell.measured.filter isWarm).elim .cold .warm, state)
  | none => (.cold, state.enqueue key)

def apply (state : EstimatorState) (key : CellKey) (measured : Option OutputPercentiles)
    (now : Int) : EstimatorState :=
  if maxCells ≤ state.cells.size && !state.cells.contains key then
    let kept := state.cells.retain fun _ cell => aged cell now ≤ cellTtl
    if maxCells ≤ kept.size then { state with cells := kept }
    else { state with cells := kept.insert key ⟨now, measured⟩ }
  else { state with cells := state.cells.insert key ⟨now, measured⟩ }

def revertSegment (state : EstimatorState) (segment : Segment) (now : Int) : EstimatorState :=
  { state with
    revertedSegments :=
      state.revertedSegments.mark maxRevertMarks now segment (now + revertCooldown) }

def revertUser (state : EstimatorState) (user : Uuid) (now : Int) : EstimatorState :=
  { state with
    revertedUsers := state.revertedUsers.mark maxRevertMarks now user (now + revertCooldown) }

def segmentReverted (state : EstimatorState) (segment : Segment) (now : Int) :
    Bool × EstimatorState :=
  let read := state.revertedSegments.readMark now segment
  (read.1, { state with revertedSegments := read.2 })

def userReverted (state : EstimatorState) (user : Uuid) (now : Int) : Bool × EstimatorState :=
  let read := state.revertedUsers.readMark now user
  (read.1, { state with revertedUsers := read.2 })

end EstimatorState

/-! ## The scans -/

/-- The columns of `usage_events` the scans read, and the owner of the row's key. -/
structure UsageRow where
  ts : Timestamp
  userId : Uuid
  taskSignature : Option String
  taskSignatureScheme : Option Int
  candidateId : Option String
  status : Int
  outputTokens : Int
  costUsd : Decimal
  reservedCostUsd : Option Decimal
  estimatorBasis : Option ReservationBasis
  deriving DecidableEq, Repr

def days (count : Int) : Int := count * (24 * 60 * 60 * 10 ^ 9)

namespace UsageRow

def ofSegment (row : UsageRow) (segment : Segment) : Bool :=
  row.taskSignature = some segment.1 && row.taskSignatureScheme = some segment.2

/-- `ts >= NOW() - INTERVAL '… days'`. -/
def within (row : UsageRow) (count dbNow : Int) : Bool := dbNow - days count ≤ row.ts

/-- `GREATEST` passes over a null. -/
def clampLoss (row : UsageRow) : Decimal :=
  row.reservedCostUsd.elim 0 fun reserved => max 0 (row.costUsd - reserved)

def clamped (row : UsageRow) : Bool := row.reservedCostUsd.any (· < row.costUsd)

def learned (row : UsageRow) : Bool := row.estimatorBasis = some .learned

end UsageRow

structure SegmentClampStats where
  loss7dUsd : Decimal
  maxRowLoss7dUsd : Decimal
  clampedRows7d : Nat
  learnedRows7d : Nat
  loss14dUsd : Decimal
  maxRowLoss14dUsd : Decimal
  clampedRows14d : Nat
  learnedRows14d : Nat
  deriving DecidableEq, Repr

section Scans

variable (rows : List UsageRow) (dbNow : Int)

def segmentClampStats (segment : Segment) : SegmentClampStats :=
  let scanned := rows.filter fun row =>
    row.ofSegment segment && row.learned && row.within 14 dbNow
  let recent := scanned.filter (·.within 7 dbNow)
  { loss7dUsd := (recent.map (·.clampLoss)).sum
    maxRowLoss7dUsd := (recent.map (·.clampLoss)).foldr max 0
    clampedRows7d := recent.countP (·.clamped)
    learnedRows7d := recent.length
    loss14dUsd := (scanned.map (·.clampLoss)).sum
    maxRowLoss14dUsd := (scanned.map (·.clampLoss)).foldr max 0
    clampedRows14d := scanned.countP (·.clamped)
    learnedRows14d := scanned.length }

/-- What `segment_user` may answer: any row's owner, `none` only when there is no row. -/
def segmentUser (segment : Segment) : Option Uuid → Bool
  | some user => rows.any fun row => row.ofSegment segment && row.userId = user
  | none => !rows.any (·.ofSegment segment)

def userClampLoss (user : Uuid) : Decimal × Decimal :=
  let scanned := rows.filter fun row => row.userId = user && row.learned && row.within 37 dbNow
  (((scanned.filter (·.within 30 dbNow)).map (·.clampLoss)).sum, (scanned.map (·.clampLoss)).sum)

def outputTokenPercentiles (percentileCont : ℚ → List Int → ℚ) (key : CellKey) :
    Option OutputPercentiles :=
  let scanned := rows.filter fun row =>
    row.ofSegment key.segment && key.candidate.all (row.candidateId = some ·) &&
      row.status = 200 && row.within 14 dbNow
  if scanned.isEmpty then none
  else
    let output := scanned.map (·.outputTokens)
    some {
      p50 := percentileCont (1 / 2) output
      p90 := percentileCont (9 / 10) output
      p99 := percentileCont (99 / 100) output
      rows := scanned.length }

end Scans

section Tripped

variable (toF64 : Decimal → Option ℚ)

/-- A value with no float counts as an infinite one. -/
def exceeds (value : Decimal) (limit : ℚ) : Bool := (toF64 value).all (limit < ·)

/-- Of no rows at all the hit rate is not a number, and trips nothing. -/
def windowTripped (lossUsd maxRowLossUsd : Decimal) (clampedRows learnedRows : Nat) : Bool :=
  exceeds toF64 lossUsd segmentLossLimit7dUsd || exceeds toF64 maxRowLossUsd rowLossLimitUsd ||
    (learnedRows ≠ 0 && segmentHitRateLimit < (clampedRows : ℚ) / learnedRows)

def segmentTripped (stats : SegmentClampStats) : Bool :=
  windowTripped toF64 stats.loss7dUsd stats.maxRowLoss7dUsd stats.clampedRows7d
      stats.learnedRows7d ||
    windowTripped toF64 stats.loss14dUsd stats.maxRowLoss14dUsd stats.clampedRows14d
      stats.learnedRows14d

def userTripped (losses : Decimal × Decimal) : Bool :=
  exceeds toF64 losses.1 userLossLimit30dUsd || exceeds toF64 losses.2 userLossLimit30dUsd

end Tripped

/-! ## Evaluations -/

/-- What an evaluation that ran to its end did: the marks it made, and when each was made. -/
structure Evaluation where
  key : CellKey
  segmentReverted : Option Int
  user : Option Uuid
  userReverted : Option Int
  completed : Int
  deriving DecidableEq, Repr

inductive Event where
  | segmentReverted (segment : Segment) (instant : Int)
  | userReverted (user : Uuid) (instant : Int)
  | evaluated (evaluation : Evaluation)
  | applied (key : CellKey) (fetchedAt : Int)
  deriving DecidableEq, Repr

def Event.instant : Event → Int
  | .segmentReverted _ instant | .userReverted _ instant | .applied _ instant => instant
  | .evaluated evaluation => evaluation.completed

/-- Where `evaluate_revert` is. -/
inductive Evaluating where
  | segmentClampStats
  | revertSegment
  | markSegment (now : Int)
  | segmentUser (segmentReverted : Option Int)
  | userClampLoss (segmentReverted : Option Int) (user : Uuid)
  | revertUser (segmentReverted : Option Int) (user : Uuid)
  | markUser (segmentReverted : Option Int) (user : Uuid) (now : Int)
  deriving DecidableEq, Repr

/-- Where the refresher is; `rest` is what it drained and has not come to. -/
inductive Refresher where
  | asleep
  | batch (keys : List CellKey)
  | evaluating (key : CellKey) (measured : Option OutputPercentiles) (stage : Evaluating)
      (rest : List CellKey)
  | applying (key : CellKey) (measured : Option OutputPercentiles) (rest : List CellKey)
  | inserting (key : CellKey) (measured : Option OutputPercentiles) (now : Int)
      (rest : List CellKey)
  | stopped
  deriving DecidableEq, Repr

/-! ## Requests -/

/-- What a request is sized by. -/
structure SizedRequest where
  signature : TaskSignature
  userId : Uuid
  priority : Priority
  maxTokens : Option Nat
  /-- `ChatCompletionRequest::validate`. -/
  maxTokens_positive : maxTokens ≠ some 0
  deriving DecidableEq, Repr

def SizedRequest.maxOutputTokens (request : SizedRequest) : Nat :=
  request.maxTokens.getD baselineMaxTokens

/-- A read of the estimator: the clock it had read, the clock when it held the lock, and what the
    refresher had come to by then. -/
structure Reading where
  now : Int
  clock : Int
  events : List Event
  deriving DecidableEq, Repr

inductive SizingStage where
  | lookup
  | segmentReverted (percentiles : OutputPercentiles) (lookup : Reading)
  | userReverted (percentiles : OutputPercentiles) (lookup segment : Reading)
  deriving DecidableEq, Repr

structure Sizing where
  request : SizedRequest
  stage : SizingStage
  deriving DecidableEq, Repr

/-- A learned bound given, with the reads behind it. -/
structure LearnedBound where
  request : SizedRequest
  percentiles : OutputPercentiles
  lookup : Reading
  segment : Reading
  user : Reading
  bound : Nat
  deriving DecidableEq, Repr

/-! ## Steps -/

structure World where
  clock : Int
  rows : List UsageRow
  estimator : EstimatorState
  refresher : Refresher
  sizings : List Sizing
  learned : List LearnedBound
  /-- What the refresher has come to, the last first. -/
  events : List Event

/-- A process that has just begun. -/
def World.new (clock : Int) (rows : List UsageRow) : World where
  clock := clock
  rows := rows
  estimator := .new
  refresher := .asleep
  sizings := []
  learned := []
  events := []

namespace World

/-- `evaluate_revert` returns. -/
def evaluated (world : World) (key : CellKey) (measured : Option OutputPercentiles)
    (segmentReverted : Option Int) (user : Option Uuid) (userReverted : Option Int)
    (rest : List CellKey) : World :=
  { world with
    refresher := .applying key measured rest
    events := .evaluated ⟨key, segmentReverted, user, userReverted, world.clock⟩ :: world.events }

/-- A query failed: the cell is left as it was and queued again. -/
def requeued (world : World) (key : CellKey) (rest : List CellKey) : World :=
  { world with estimator := world.estimator.enqueue key, refresher := .batch rest }

def reading (world : World) (now : Int) : Reading := ⟨now, world.clock, world.events⟩

/-- A request goes on, or is done with the estimator. -/
def goOn (world : World) (sizing : Sizing) (estimator : EstimatorState)
    (stage : Option SizingStage) : World :=
  { world with
    estimator
    sizings := (stage.map (⟨sizing.request, ·⟩)).toList ++ world.sizings.erase sizing }

end World

inductive Action where
  | tick (clock : Int)
  | settle (row : UsageRow)
  | drain (keys : List CellKey)
  | shutdown
  | query (dbNow : Int) (owner : Option Uuid)
  | queryFailed
  | proceed
  | lookup (key : CellKey) (now : Int)
  | request (request : SizedRequest)
  | read (sizing : Sizing) (now : Int)

section Step

variable (percentileCont : ℚ → List Int → ℚ) (toF64 : Decimal → Option ℚ)

/-- The refresher's query is answered. -/
def query (world : World) (dbNow : Int) (owner : Option Uuid) : Option World :=
  match world.refresher with
  | .batch (key :: rest) =>
      let measured := outputTokenPercentiles world.rows dbNow percentileCont key
      -- Only a segment's own cell is evaluated.
      some { world with
        refresher :=
          if key.candidate.isNone then .evaluating key measured .segmentClampStats rest
          else .applying key measured rest }
  | .evaluating key measured .segmentClampStats rest =>
      let tripped := segmentTripped toF64 (segmentClampStats world.rows dbNow key.segment)
      some { world with
        refresher := .evaluating key measured
          (if tripped then .revertSegment else .segmentUser none) rest }
  | .evaluating key measured (.segmentUser reverted) rest =>
      if segmentUser world.rows key.segment owner then
        match owner with
        | some user =>
            some { world with
              refresher := .evaluating key measured (.userClampLoss reverted user) rest }
        | none => some (world.evaluated key measured reverted none none rest)
      else none
  | .evaluating key measured (.userClampLoss reverted user) rest =>
      if userTripped toF64 (userClampLoss world.rows dbNow user) then
        some { world with
          refresher := .evaluating key measured (.revertUser reverted user) rest }
      else some (world.evaluated key measured reverted (some user) none rest)
  | _ => none

def queryFailed (world : World) : Option World :=
  match world.refresher with
  | .batch (key :: rest)
  | .evaluating key _ .segmentClampStats rest
  | .evaluating key _ (.segmentUser _) rest
  | .evaluating key _ (.userClampLoss _ _) rest => some (world.requeued key rest)
  | _ => none

/-- The refresher's own next step. -/
def proceed (world : World) : Option World :=
  match world.refresher with
  | .batch [] => some { world with refresher := .asleep }
  | .evaluating key measured .revertSegment rest =>
      some { world with refresher := .evaluating key measured (.markSegment world.clock) rest }
  | .evaluating key measured (.markSegment now) rest =>
      some { world with
        estimator := world.estimator.revertSegment key.segment now
        refresher := .evaluating key measured (.segmentUser (some now)) rest
        events := .segmentReverted key.segment now :: world.events }
  | .evaluating key measured (.revertUser reverted user) rest =>
      some { world with
        refresher := .evaluating key measured (.markUser reverted user world.clock) rest }
  | .evaluating key measured (.markUser reverted user now) rest =>
      some ({ world with
        estimator := world.estimator.revertUser user now
        events := .userReverted user now :: world.events }.evaluated key measured reverted
          (some user) (some now) rest)
  | .applying key measured rest =>
      some { world with refresher := .inserting key measured world.clock rest }
  | .inserting key measured now rest =>
      some { world with
        estimator := world.estimator.apply key measured now
        refresher := .batch rest
        events := .applied key now :: world.events }
  | _ => none

/-- The next of a request's reads, in the order its guard has them. -/
def read (world : World) (sizing : Sizing) (now : Int) : World :=
  let request := sizing.request
  match sizing.stage with
  | .lookup =>
      let (cell, estimator) := world.estimator.lookup (.forSignature request.signature) now
      match cell with
      | .warm percentiles =>
          world.goOn sizing estimator <|
            if request.priority ≠ .success then
              some (.segmentReverted percentiles (world.reading now))
            else none
      | .cold => world.goOn sizing estimator none
  | .segmentReverted percentiles lookup =>
      let (reverted, estimator) :=
        world.estimator.segmentReverted request.signature.segment now
      world.goOn sizing estimator <|
        if reverted then none else some (.userReverted percentiles lookup (world.reading now))
  | .userReverted percentiles lookup segment =>
      let (reverted, estimator) := world.estimator.userReverted request.userId now
      let done := world.goOn sizing estimator none
      match learnedOutputBound percentiles request.maxOutputTokens with
      | some bound =>
          if reverted then done
          else
            { done with
              learned := ⟨request, percentiles, lookup, segment, world.reading now, bound⟩ ::
                world.learned }
      | none => done

def step (world : World) : Action → Option World
  | .tick clock => if world.clock ≤ clock then some { world with clock } else none
  | .settle row => some { world with rows := row :: world.rows }
  | .drain keys =>
      let pending := world.estimator.pending
      if world.refresher = .asleep ∧ keys.Nodup ∧ (∀ key ∈ keys, key ∈ pending) ∧
          keys.length = min refreshBatch pending.length then
        some { world with
          estimator := { world.estimator with pending := pending.filter (· ∉ keys) }
          refresher := .batch keys }
      else none
  | .shutdown =>
      match world.refresher with
      | .asleep | .batch (_ :: _) => some { world with refresher := .stopped }
      | _ => none
  | .query dbNow owner => query percentileCont toF64 world dbNow owner
  | .queryFailed => queryFailed world
  | .proceed => proceed world
  -- Selection reads the candidates' cells.
  | .lookup key now =>
      if now ≤ world.clock then
        some { world with estimator := (world.estimator.lookup key now).2 }
      else none
  | .request request => some { world with sizings := ⟨request, .lookup⟩ :: world.sizings }
  | .read sizing now =>
      if sizing ∈ world.sizings ∧ now ≤ world.clock then some (read world sizing now) else none

end Step

end ZeroRouter.Estimation
