import ZeroRouter.Api.Estimation

/-!
# A learned bound obeys the reverts

A mark is filed with a deadline a cooldown ahead, and neither a sweep at the cap nor a read clears a
deadline still to come; so a request that reads its segment, or its user, as unmarked has every mark
of theirs a cooldown behind it.  A cell is written right after an evaluation of its segment ran to
its end, and is read as warm for the cache's lifetime only.
-/

namespace ZeroRouter.Estimation

open List

variable {key : CellKey} {events : List Event} {after clock : Int} {percentiles : OutputPercentiles}
  {refresher : Refresher}

/-! ## What a learned bound goes back to -/

/-- The cell was written right after an evaluation of it. -/
def AppliedAt (events : List Event) (key : CellKey) (fetchedAt : Int) : Prop :=
  ∃ later evaluation earlier,
    events = later ++ .applied key fetchedAt :: .evaluated evaluation :: earlier ∧
      evaluation.key = key ∧ evaluation.completed ≤ fetchedAt

/-- The cell read was measured over enough rows, and written a lifetime before at most. -/
structure Sourced (reading : Reading) (key : CellKey) (percentiles : OutputPercentiles) : Prop where
  warm : warmMinRows ≤ percentiles.rows
  applied : ∃ fetchedAt, AppliedAt reading.events key fetchedAt ∧
    reading.now ≤ fetchedAt + cellTtl

/-- What the evaluations completed by then had marked the segment with has run out. -/
def SegmentRanOut (reading : Reading) (segment : Segment) : Prop :=
  ∀ evaluation, .evaluated evaluation ∈ reading.events → evaluation.key.segment = segment →
    ∀ instant ∈ evaluation.segmentReverted, instant + revertCooldown ≤ reading.clock

def UserRanOut (reading : Reading) (user : Uuid) : Prop :=
  ∀ evaluation, .evaluated evaluation ∈ reading.events → evaluation.user = some user →
    ∀ instant ∈ evaluation.userReverted, instant + revertCooldown ≤ reading.clock

structure LearnedGood (learned : LearnedBound) : Prop where
  source : Sourced learned.lookup (.forSignature learned.request.signature) learned.percentiles
  segment : SegmentRanOut learned.segment learned.request.signature.segment
  user : UserRanOut learned.user learned.request.userId
  priority : learned.request.priority ≠ .success
  bound : learnedOutputBound learned.percentiles learned.request.maxOutputTokens =
    some learned.bound

/-- What a request has read so far. -/
def StageGood (request : SizedRequest) : SizingStage → Prop
  | .lookup => True
  | .segmentReverted percentiles lookup =>
      Sourced lookup (.forSignature request.signature) percentiles ∧ request.priority ≠ .success
  | .userReverted percentiles lookup segment =>
      Sourced lookup (.forSignature request.signature) percentiles ∧ request.priority ≠ .success ∧
        SegmentRanOut segment request.signature.segment

/-! ## The estimator -/

/-- No mark still live is missing, and every segment's cell was evaluated. -/
structure EstimatorGood (events : List Event) (clock : Int) (state : EstimatorState) : Prop where
  segments : ∀ segment instant, .segmentReverted segment instant ∈ events →
    state.revertedSegments.MarkedUntil clock segment (instant + revertCooldown)
  users : ∀ user instant, .userReverted user instant ∈ events →
    state.revertedUsers.MarkedUntil clock user (instant + revertCooldown)
  cells : ∀ key cell, state.cells.get? key = some cell → key.candidate = none →
    AppliedAt events key cell.fetchedAt

theorem AppliedAt.cons {fetchedAt : Int} (h : AppliedAt events key fetchedAt) (event : Event) :
    AppliedAt (event :: events) key fetchedAt := by
  obtain ⟨later, evaluation, earlier, rfl, rest⟩ := h
  exact ⟨event :: later, evaluation, earlier, rfl, rest⟩

section Estimator

variable {events : List Event} {clock now : Int} {state : EstimatorState}

theorem estimatorGood_new : EstimatorGood [] clock .new where
  segments segment instant mem := by cases mem
  users user instant mem := by cases mem
  cells key cell held := by cases held

theorem EstimatorGood.later (good : EstimatorGood events clock state) (forward : clock ≤ after) :
    EstimatorGood events after state where
  segments segment instant mem := (good.segments segment instant mem).later forward
  users user instant mem := (good.users user instant mem).later forward
  cells := good.cells

theorem EstimatorGood.pending (good : EstimatorGood events clock state) (pending : List CellKey) :
    EstimatorGood events clock { state with pending } :=
  ⟨good.segments, good.users, good.cells⟩

theorem EstimatorGood.enqueue (good : EstimatorGood events clock state) (key : CellKey) :
    EstimatorGood events clock (state.enqueue key) := by
  unfold EstimatorState.enqueue
  split
  · exact good.pending _
  · exact good

theorem EstimatorGood.lookup (good : EstimatorGood events clock state) (key : CellKey) :
    EstimatorGood events clock (state.lookup key now).2 := by
  unfold EstimatorState.lookup
  split
  · exact good
  · exact good.enqueue key

theorem EstimatorGood.segmentReverted (good : EstimatorGood events clock state)
    (segment : Segment) (early : now ≤ clock) :
    EstimatorGood events clock (state.segmentReverted segment now).2 where
  segments marked instant mem := (good.segments marked instant mem).read early
  users := good.users
  cells := good.cells

theorem EstimatorGood.userReverted (good : EstimatorGood events clock state) (user : Uuid)
    (early : now ≤ clock) : EstimatorGood events clock (state.userReverted user now).2 where
  segments := good.segments
  users marked instant mem := (good.users marked instant mem).read early
  cells := good.cells

/-- One event more, with the mark it stands for. -/
theorem EstimatorGood.cons (good : EstimatorGood events clock state) (event : Event)
    (segments : ∀ segment instant, event = .segmentReverted segment instant →
      state.revertedSegments.MarkedUntil clock segment (instant + revertCooldown))
    (users : ∀ user instant, event = .userReverted user instant →
      state.revertedUsers.MarkedUntil clock user (instant + revertCooldown)) :
    EstimatorGood (event :: events) clock state where
  segments segment instant mem :=
    (mem_cons.mp mem).elim (fun same => segments segment instant same.symm)
      (good.segments segment instant)
  users user instant mem :=
    (mem_cons.mp mem).elim (fun same => users user instant same.symm)
      (good.users user instant)
  cells key cell held own := (good.cells key cell held own).cons _

/-- A segment is marked: its earlier marks run out no sooner for it. -/
theorem EstimatorGood.revertSegment (good : EstimatorGood events clock state) (segment : Segment)
    (early : now ≤ clock) (past : ∀ event ∈ events, event.instant ≤ now) :
    EstimatorGood (.segmentReverted segment now :: events) clock
      (state.revertSegment segment now) := by
  have kept : EstimatorGood events clock (state.revertSegment segment now) := by
    refine ⟨fun marked instant mem => ?_, good.users, good.cells⟩
    have before : instant ≤ now := past _ mem
    exact (good.segments marked instant mem).mark early fun _ => by omega
  refine kept.cons _ ?_ nofun
  rintro _ _ ⟨⟩
  exact KeyedMap.markedUntil_mark_self le_rfl

theorem EstimatorGood.revertUser (good : EstimatorGood events clock state) (user : Uuid)
    (early : now ≤ clock) (past : ∀ event ∈ events, event.instant ≤ now) :
    EstimatorGood (.userReverted user now :: events) clock (state.revertUser user now) := by
  have kept : EstimatorGood events clock (state.revertUser user now) := by
    refine ⟨good.segments, fun marked instant mem => ?_, good.cells⟩
    have before : instant ≤ now := past _ mem
    exact (good.users marked instant mem).mark early fun _ => by omega
  refine kept.cons _ nofun ?_
  rintro _ _ ⟨⟩
  exact KeyedMap.markedUntil_mark_self le_rfl

/-- Applying sets one cell, at the cap after evicting others, and no mark. -/
theorem apply_spec (state : EstimatorState) (key : CellKey) (measured : Option OutputPercentiles)
    (now : Int) :
    (state.apply key measured now).revertedSegments = state.revertedSegments ∧
      (state.apply key measured now).revertedUsers = state.revertedUsers ∧
      ∀ asked cell, (state.apply key measured now).cells.get? asked = some cell →
        state.cells.get? asked = some cell ∨ asked = key ∧ cell.fetchedAt = now := by
  have inserted {cells : KeyedMap CellKey CachedCell} {asked : CellKey} {cell : CachedCell}
      (held : (cells.insert key ⟨now, measured⟩).get? asked = some cell) :
      cells.get? asked = some cell ∨ asked = key ∧ cell.fetchedAt = now := by
    rw [KeyedMap.get?_insert] at held
    split at held
    · next same =>
        cases held
        exact .inr ⟨same, rfl⟩
    · exact .inl held
  have evicted {asked : CellKey} {cell : CachedCell}
      (held : (state.cells.retain fun _ cell => aged cell now ≤ cellTtl).get? asked = some cell) :
      state.cells.get? asked = some cell := by
    rw [KeyedMap.get?_retain, Option.filter_eq_some_iff] at held
    exact held.1
  unfold EstimatorState.apply
  split
  · dsimp only
    split
    · exact ⟨rfl, rfl, fun asked cell held => .inl (evicted held)⟩
    · exact ⟨rfl, rfl, fun asked cell held => (inserted held).imp_left evicted⟩
  · exact ⟨rfl, rfl, fun asked cell held => inserted held⟩

/-- A cell is applied; a segment's, right after its evaluation. -/
theorem EstimatorGood.apply (good : EstimatorGood events clock state)
    (measured : Option OutputPercentiles)
    (evaluated : key.candidate = none → ∃ evaluation earlier,
      events = .evaluated evaluation :: earlier ∧ evaluation.key = key ∧
        evaluation.completed ≤ now) :
    EstimatorGood (.applied key now :: events) clock (state.apply key measured now) := by
  obtain ⟨segments, users, cells⟩ := apply_spec state key measured now
  have marked := good.cons (.applied key now) nofun nofun
  refine ⟨?_, ?_, ?_⟩
  · rw [segments]
    exact marked.segments
  · rw [users]
    exact marked.users
  · intro asked cell held own
    rcases cells asked cell held with before | ⟨rfl, rfl⟩
    · exact marked.cells asked cell before own
    · obtain ⟨evaluation, earlier, rfl, rest⟩ := evaluated own
      exact ⟨[], evaluation, earlier, rfl, rest⟩

/-! ## Reads -/

theorem EstimatorGood.warm (good : EstimatorGood events clock state) {signature : TaskSignature}
    (h : (state.lookup (.forSignature signature) now).1 = .warm percentiles) :
    Sourced ⟨now, clock, events⟩ (.forSignature signature) percentiles := by
  unfold EstimatorState.lookup at h
  split at h
  · next cell found =>
      obtain ⟨held, fresh⟩ := Option.filter_eq_some_iff.mp found
      cases kept : cell.measured.filter isWarm with
      | none =>
          rw [kept] at h
          cases h
      | some measured =>
          rw [kept] at h
          cases h
          refine ⟨of_decide_eq_true (Option.filter_eq_some_iff.mp kept).2, cell.fetchedAt,
            good.cells _ cell held rfl, ?_⟩
          have young : aged cell now ≤ cellTtl := of_decide_eq_true fresh
          unfold aged at young
          have bounded := (le_max_right 0 (now - cell.fetchedAt)).trans young
          dsimp only
          omega
  · cases h

end Estimator

/-- Every mark of an evaluation that ended has been filed. -/
def Recorded (events : List Event) : Prop :=
  ∀ evaluation, .evaluated evaluation ∈ events →
    (∀ instant ∈ evaluation.segmentReverted,
      .segmentReverted evaluation.key.segment instant ∈ events) ∧
    ∀ user ∈ evaluation.user, ∀ instant ∈ evaluation.userReverted,
      .userReverted user instant ∈ events

section Recorded

variable {events : List Event} {clock now : Int} {state : EstimatorState}

theorem EstimatorGood.segmentRanOut (good : EstimatorGood events clock state)
    (recorded : Recorded events) (early : now ≤ clock) {segment : Segment}
    (unmarked : (state.segmentReverted segment now).1 = false) :
    SegmentRanOut ⟨now, clock, events⟩ segment := by
  rintro evaluation mem rfl instant marked
  have filed := (recorded evaluation mem).1 instant marked
  exact (good.segments _ _ filed).passed early unmarked

theorem EstimatorGood.userRanOut (good : EstimatorGood events clock state)
    (recorded : Recorded events) (early : now ≤ clock) {user : Uuid}
    (unmarked : (state.userReverted user now).1 = false) :
    UserRanOut ⟨now, clock, events⟩ user := by
  intro evaluation mem own instant marked
  have filed := (recorded evaluation mem).2 user own instant marked
  exact (good.users _ _ filed).passed early unmarked

theorem Recorded.cons (recorded : Recorded events) {event : Event}
    (own : ∀ evaluation, event = .evaluated evaluation →
      (∀ instant ∈ evaluation.segmentReverted,
        .segmentReverted evaluation.key.segment instant ∈ events) ∧
      ∀ user ∈ evaluation.user, ∀ instant ∈ evaluation.userReverted,
        .userReverted user instant ∈ events) :
    Recorded (event :: events) := by
  intro evaluation mem
  have before : (∀ instant ∈ evaluation.segmentReverted,
      .segmentReverted evaluation.key.segment instant ∈ events) ∧
      ∀ user ∈ evaluation.user, ∀ instant ∈ evaluation.userReverted,
        .userReverted user instant ∈ events := by
    rcases mem_cons.mp mem with rfl | mem
    · exact own evaluation rfl
    · exact recorded evaluation mem
  refine ⟨fun instant marked => mem_cons_of_mem _ (before.1 instant marked), ?_⟩
  intro user found instant marked
  exact mem_cons_of_mem _ (before.2 user found instant marked)

end Recorded

/-! ## The refresher -/

/-- What an evaluation has done so far. -/
def EvaluatingGood (events : List Event) (clock : Int) (key : CellKey) : Evaluating → Prop
  | .segmentClampStats | .revertSegment => True
  | .markSegment now => now ≤ clock ∧ ∀ event ∈ events, event.instant ≤ now
  | .segmentUser reverted | .userClampLoss reverted _ | .revertUser reverted _ =>
      ∀ instant ∈ reverted, .segmentReverted key.segment instant ∈ events
  | .markUser reverted _ now =>
      (∀ instant ∈ reverted, .segmentReverted key.segment instant ∈ events) ∧
        now ≤ clock ∧ ∀ event ∈ events, event.instant ≤ now

def RefresherGood (events : List Event) (clock : Int) : Refresher → Prop
  | .asleep | .batch _ | .stopped => True
  | .evaluating key _ stage _ => EvaluatingGood events clock key stage
  | .applying key _ _ => key.candidate = none → ∃ evaluation earlier,
      events = .evaluated evaluation :: earlier ∧ evaluation.key = key
  | .inserting key _ now _ => now ≤ clock ∧ (key.candidate = none → ∃ evaluation earlier,
      events = .evaluated evaluation :: earlier ∧ evaluation.key = key ∧
        evaluation.completed ≤ now)

theorem EvaluatingGood.later {stage : Evaluating} (good : EvaluatingGood events clock key stage)
    (forward : clock ≤ after) : EvaluatingGood events after key stage := by
  cases stage with
  | segmentClampStats => trivial
  | revertSegment => trivial
  | markSegment now => exact ⟨good.1.trans forward, good.2⟩
  | segmentUser reverted => exact good
  | userClampLoss reverted user => exact good
  | revertUser reverted user => exact good
  | markUser reverted user now => exact ⟨good.1, good.2.1.trans forward, good.2.2⟩

theorem RefresherGood.later (good : RefresherGood events clock refresher)
    (forward : clock ≤ after) :
    RefresherGood events after refresher := by
  cases refresher with
  | asleep => trivial
  | batch keys => trivial
  | evaluating key measured stage rest => exact EvaluatingGood.later good forward
  | applying key measured rest => exact good
  | inserting key measured now rest => exact ⟨good.1.trans forward, good.2⟩
  | stopped => trivial

/-! ## Worlds -/

structure Good (world : World) : Prop where
  past : ∀ event ∈ world.events, event.instant ≤ world.clock
  recorded : Recorded world.events
  estimator : EstimatorGood world.events world.clock world.estimator
  refresher : RefresherGood world.events world.clock world.refresher
  sizings : ∀ sizing ∈ world.sizings, StageGood sizing.request sizing.stage
  learned : ∀ learned ∈ world.learned, LearnedGood learned

theorem good_new (clock : Int) (rows : List UsageRow) : Good (.new clock rows) where
  past event mem := by cases mem
  recorded evaluation mem := by cases mem
  estimator := estimatorGood_new
  refresher := trivial
  sizings sizing mem := by cases mem
  learned learned mem := by cases mem

section Steps

variable {world next : World}

theorem Good.refreshing (good : Good world)
    (sound : RefresherGood world.events world.clock refresher) :
    Good { world with refresher } :=
  { good with refresher := sound }

/-- An evaluation ends. -/
theorem Good.evaluated (good : Good world) (measured : Option OutputPercentiles)
    {reverted : Option Int} {user : Option Uuid} {userReverted : Option Int} (rest : List CellKey)
    (segment : ∀ instant ∈ reverted, .segmentReverted key.segment instant ∈ world.events)
    (owner : ∀ found ∈ user, ∀ instant ∈ userReverted, .userReverted found instant ∈ world.events) :
    Good (world.evaluated key measured reverted user userReverted rest) where
  past := forall_mem_cons.mpr ⟨le_rfl, good.past⟩
  recorded := by
    refine good.recorded.cons ?_
    rintro evaluation ⟨⟩
    exact ⟨segment, owner⟩
  estimator := good.estimator.cons _ nofun nofun
  refresher _ := ⟨_, _, rfl, rfl⟩
  sizings := good.sizings
  learned := good.learned

theorem Good.requeued (good : Good world) (key : CellKey) (rest : List CellKey) :
    Good (world.requeued key rest) :=
  { good with
    estimator := good.estimator.enqueue key
    refresher := trivial }

variable (percentileCont : ℚ → List Int → ℚ) (toF64 : Decimal → Option ℚ)

theorem good_query {dbNow : Int} {owner : Option Uuid} (good : Good world)
    (h : query percentileCont toF64 world dbNow owner = some next) : Good next := by
  have sound := good.refresher
  unfold query at h
  split at h
  · next key rest _ =>
      cases h
      refine good.refreshing ?_
      split
      · trivial
      · next candidate =>
          intro own
          rw [own] at candidate
          exact absurd rfl candidate
  · next key measured rest _ =>
      cases h
      refine good.refreshing ?_
      split
      · trivial
      · intro instant marked
        cases marked
  · next key measured reverted rest stage =>
      rw [stage] at sound
      split at h
      · split at h
        · cases h
          exact good.refreshing sound
        · cases h
          refine good.evaluated measured rest sound ?_
          intro found none
          cases none
      · cases h
  · next key measured reverted user rest stage =>
      rw [stage] at sound
      split at h
      · cases h
        exact good.refreshing sound
      · cases h
        refine good.evaluated measured rest sound ?_
        intro found own instant marked
        cases marked
  · cases h

theorem good_queryFailed (good : Good world) (h : queryFailed world = some next) : Good next := by
  unfold queryFailed at h
  split at h
  · cases h
    exact good.requeued _ _
  · cases h
    exact good.requeued _ _
  · cases h
    exact good.requeued _ _
  · cases h
    exact good.requeued _ _
  · cases h

theorem good_proceed (good : Good world) (h : proceed world = some next) : Good next := by
  have sound := good.refresher
  unfold proceed at h
  split at h
  · cases h
    exact good.refreshing trivial
  · cases h
    exact good.refreshing ⟨le_rfl, good.past⟩
  · next key measured now rest stage =>
      rw [stage] at sound
      cases h
      exact {
        past := forall_mem_cons.mpr ⟨sound.1, good.past⟩
        recorded := good.recorded.cons fun _ differs => by cases differs
        estimator := good.estimator.revertSegment key.segment sound.1 sound.2
        refresher := by
          rintro instant ⟨⟩
          exact mem_cons_self
        sizings := good.sizings
        learned := good.learned }
  · next key measured reverted user rest stage =>
      rw [stage] at sound
      cases h
      exact good.refreshing ⟨sound, le_rfl, good.past⟩
  · next key measured reverted user now rest stage =>
      rw [stage] at sound
      obtain ⟨marked, early, past⟩ := sound
      cases h
      have filed : Good { world with
          estimator := world.estimator.revertUser user now
          refresher := .asleep
          events := .userReverted user now :: world.events } :=
        { past := forall_mem_cons.mpr ⟨early, good.past⟩
          recorded := good.recorded.cons fun _ differs => by cases differs
          estimator := good.estimator.revertUser user early past
          refresher := trivial
          sizings := good.sizings
          learned := good.learned }
      refine filed.evaluated measured rest ?_ ?_
      · intro instant own
        exact mem_cons_of_mem _ (marked instant own)
      · rintro found ⟨⟩ instant ⟨⟩
        exact mem_cons_self
  · next key measured rest stage =>
      rw [stage] at sound
      cases h
      refine good.refreshing ⟨le_rfl, fun own => ?_⟩
      obtain ⟨evaluation, earlier, events, same⟩ := sound own
      refine ⟨evaluation, earlier, events, same, ?_⟩
      exact good.past (.evaluated evaluation) (by rw [events]; exact mem_cons_self)
  · next key measured now rest stage =>
      rw [stage] at sound
      cases h
      exact {
        past := forall_mem_cons.mpr ⟨sound.1, good.past⟩
        recorded := good.recorded.cons fun _ differs => by cases differs
        estimator := good.estimator.apply measured sound.2
        refresher := trivial
        sizings := good.sizings
        learned := good.learned }
  · cases h

/-- A request goes on from a read. -/
theorem Good.goOn (good : Good world) (sizing : Sizing) {estimator : EstimatorState}
    (kept : EstimatorGood world.events world.clock estimator) {stage : Option SizingStage}
    (sound : ∀ next ∈ stage, StageGood sizing.request next) :
    Good (world.goOn sizing estimator stage) :=
  { good with
    estimator := kept
    sizings := by
      intro other mem
      rcases mem_append.mp mem with mem | mem
      · cases stage with
        | none => cases mem
        | some stage =>
            rw [mem_singleton.mp mem]
            exact sound stage rfl
      · exact good.sizings other (mem_of_mem_erase mem) }

theorem good_read (good : Good world) {sizing : Sizing} (mem : sizing ∈ world.sizings) {now : Int}
    (early : now ≤ world.clock) : Good (read world sizing now) := by
  have sound := good.sizings sizing mem
  unfold read
  dsimp only
  split
  · have kept : EstimatorGood world.events world.clock
        (world.estimator.lookup (.forSignature sizing.request.signature) now).2 :=
      good.estimator.lookup _
    split
    · next percentiles warm =>
        refine good.goOn sizing kept ?_
        intro stage found
        split at found
        · next priority =>
            cases found
            exact ⟨good.estimator.warm warm, priority⟩
        · cases found
    · refine good.goOn sizing kept ?_
      intro stage found
      cases found
  · next percentiles lookup stage =>
      rw [stage] at sound
      refine good.goOn sizing (good.estimator.segmentReverted _ early) ?_
      intro stage found
      split at found
      · cases found
      · next unmarked =>
          cases found
          have ran_out := good.estimator.segmentRanOut good.recorded early
            (Bool.eq_false_iff.mpr unmarked)
          exact ⟨sound.1, sound.2, ran_out⟩
  · next percentiles lookup segment stage =>
      rw [stage] at sound
      have done : Good (world.goOn sizing
          (world.estimator.userReverted sizing.request.userId now).2 none) := by
        refine good.goOn sizing (good.estimator.userReverted _ early) ?_
        intro stage found
        cases found
      split
      · next bound measured =>
          split
          · exact done
          · next unmarked =>
              have ran_out := good.estimator.userRanOut good.recorded early
                (Bool.eq_false_iff.mpr unmarked)
              refine { done with learned := forall_mem_cons.mpr ⟨?_, done.learned⟩ }
              exact ⟨sound.1, sound.2.2, ran_out, sound.2.1, measured⟩
      · exact done

theorem good_step {action : Action} (good : Good world)
    (h : step percentileCont toF64 world action = some next) : Good next := by
  cases action with
  | tick clock =>
      simp only [step] at h
      split at h
      · next forward =>
          cases h
          exact {
            past := fun event mem => (good.past event mem).trans forward
            recorded := good.recorded
            estimator := good.estimator.later forward
            refresher := good.refresher.later forward
            sizings := good.sizings
            learned := good.learned }
      · cases h
  | settle row =>
      cases h
      exact { good with }
  | drain keys =>
      simp only [step] at h
      split at h
      · cases h
        exact { good with estimator := good.estimator.pending _, refresher := trivial }
      · cases h
  | shutdown =>
      simp only [step] at h
      split at h
      · cases h
        exact good.refreshing trivial
      · cases h
        exact good.refreshing trivial
      · cases h
  | query dbNow owner => exact good_query percentileCont toF64 good h
  | queryFailed => exact good_queryFailed good h
  | proceed => exact good_proceed good h
  | lookup key now =>
      simp only [step] at h
      split at h
      · cases h
        exact { good with estimator := good.estimator.lookup key }
      · cases h
  | request request =>
      cases h
      exact { good with sizings := forall_mem_cons.mpr ⟨trivial, good.sizings⟩ }
  | read sizing now =>
      simp only [step] at h
      split at h
      · next reads =>
          cases h
          exact good_read good reads.1 reads.2
      · cases h

end Steps

/-! ## The bound -/

/-- The tail gate. -/
theorem learnedOutputBound_gate {maxTokens bound : Nat}
    (h : learnedOutputBound percentiles maxTokens = some bound) :
    0 < percentiles.p50 ∧ percentiles.p99 / percentiles.p50 ≤ tailGateRatio := by
  unfold learnedOutputBound at h
  split at h
  · cases h
  · next passes =>
      rw [not_or, not_le, not_lt] at passes
      exact passes

theorem SizedRequest.maxOutputTokens_positive (request : SizedRequest) :
    1 ≤ request.maxOutputTokens := by
  unfold SizedRequest.maxOutputTokens
  cases states : request.maxTokens with
  | none => decide
  | some maxTokens =>
      have nonzero := request.maxTokens_positive
      rw [states] at nonzero
      exact Nat.one_le_iff_ne_zero.mpr fun zero => nonzero (congrArg some zero)

/-! ## Runs -/

section Runs

variable (percentileCont : ℚ → List Int → ℚ) (toF64 : Decimal → Option ℚ)

open Transition

theorem good_run {rows : List UsageRow} {world : World}
    (run : Steps (step percentileCont toF64) anyStep (.new clock rows) world) : Good world :=
  run.invariant (good_new clock rows) fun _ _ _ good _ next =>
    good_step percentileCont toF64 good next

/-- In every run: a mark of a segment or a user is there until its cooldown is past, whatever the
    caps evict; and a request given a learned bound read its segment's mark, and then its user's,
    when whatever the evaluations completed by that read had marked them with was past its cooldown.
    The cell it was sized from is that of an evaluated segment, no older than the cache's lifetime,
    and the bound is at least one and at most what was asked for, out of success mode and within the
    tail gate. -/
theorem learned_obeys_reverts (clock : Int) (rows : List UsageRow) {world : World}
    (run : Steps (step percentileCont toF64) anyStep (.new clock rows) world) :
    (∀ segment instant, .segmentReverted segment instant ∈ world.events →
      world.clock < instant + revertCooldown →
        ∃ till, world.estimator.revertedSegments.get? segment = some till ∧ world.clock < till) ∧
    (∀ user instant, .userReverted user instant ∈ world.events →
      world.clock < instant + revertCooldown →
        ∃ till, world.estimator.revertedUsers.get? user = some till ∧ world.clock < till) ∧
    ∀ learned ∈ world.learned,
      (∀ evaluation, .evaluated evaluation ∈ learned.segment.events →
        evaluation.key.segment = learned.request.signature.segment →
          ∀ instant ∈ evaluation.segmentReverted,
            instant + revertCooldown ≤ learned.segment.clock) ∧
      (∀ evaluation, .evaluated evaluation ∈ learned.user.events →
        evaluation.user = some learned.request.userId →
          ∀ instant ∈ evaluation.userReverted, instant + revertCooldown ≤ learned.user.clock) ∧
      (∃ fetchedAt, AppliedAt learned.lookup.events (.forSignature learned.request.signature)
        fetchedAt ∧ learned.lookup.now ≤ fetchedAt + cellTtl) ∧
      warmMinRows ≤ learned.percentiles.rows ∧
      1 ≤ learned.bound ∧ learned.bound ≤ learned.request.maxOutputTokens ∧
      learned.request.priority ≠ .success ∧ 0 < learned.percentiles.p50 ∧
      learned.percentiles.p99 / learned.percentiles.p50 ≤ tailGateRatio := by
  have good := good_run percentileCont toF64 run
  refine ⟨?_, ?_, ?_⟩
  · intro segment instant mem before
    obtain ⟨till, held, le⟩ := good.estimator.segments segment instant mem before
    exact ⟨till, held, before.trans_le le⟩
  · intro user instant mem before
    obtain ⟨till, held, le⟩ := good.estimator.users user instant mem before
    exact ⟨till, held, before.trans_le le⟩
  · intro learned mem
    have obeys := good.learned learned mem
    have between := learnedOutputBound_between obeys.bound
    have asked := learned.request.maxOutputTokens_positive
    have gate := learnedOutputBound_gate obeys.bound
    exact ⟨obeys.segment, obeys.user, obeys.source.applied, obeys.source.warm, by omega,
      between.2, obeys.priority, gate.1, gate.2⟩

end Runs

/-! ## A mark a request does not see -/

/-- `percentile_cont`, between the two nearest of the sorted values. -/
def interpolated (fraction : ℚ) (values : List Int) : ℚ :=
  let sorted := values.insertionSort (· ≤ ·)
  let position := fraction * (sorted.length - 1)
  let below := sorted.getD ⌊position⌋.toNat 0
  let above := sorted.getD ⌈position⌉.toNat 0
  below + (position - ⌊position⌋) * (above - below)

def oneSignature : TaskSignature := ⟨"00112233445566ff", 2⟩

/-- A cold row of eight output tokens. -/
def coldRow : UsageRow where
  ts := 0
  userId := 1
  taskSignature := some "00112233445566ff"
  taskSignatureScheme := some 2
  candidateId := some "one"
  status := 200
  outputTokens := 8
  costUsd := 1
  reservedCostUsd := some 1
  estimatorBasis := some .cold

/-- A learned row that lost twenty dollars. -/
def lossyRow : UsageRow :=
  { coldRow with costUsd := 21, estimatorBasis := some .learned }

def oneRequest : SizedRequest where
  signature := oneSignature
  userId := 1
  priority := .balanced
  maxTokens := some 64
  maxTokens_positive := by decide

def oneKey : CellKey := .forSignature oneSignature

/-- Fifty rows are settled, and a request that finds the segment cold has it measured: nothing
    trips. -/
def warming : List Action :=
  List.replicate 50 (.settle coldRow) ++
    [.request oneRequest, .read ⟨oneRequest, .lookup⟩ 0, .drain [oneKey], .query 0 none,
      .query 0 none, .query 0 (some 1), .query 0 none, .proceed, .proceed, .proceed]

/-- What the refresher has come to by then. -/
def quiet : List Event :=
  [.applied oneKey 0, .evaluated ⟨oneKey, none, some 1, none, 0⟩]

/-- The request's reads, each at its own moment; `rows` is how many the cell was measured over. -/
def lookupRead (now : Int) : Action := .read ⟨oneRequest, .lookup⟩ now

def segmentRead (rows : Int) (lookup : Reading) (now : Int) : Action :=
  .read ⟨oneRequest, .segmentReverted ⟨8, 8, 8, rows⟩ lookup⟩ now

def userRead (rows : Int) (lookup segment : Reading) (now : Int) : Action :=
  .read ⟨oneRequest, .userReverted ⟨8, 8, 8, rows⟩ lookup segment⟩ now

/-- A request sized while nothing had tripped. -/
def sizedQuietly : List Action :=
  warming ++ [.request oneRequest, lookupRead 0, segmentRead 50 ⟨0, 0, quiet⟩ 0,
    userRead 50 ⟨0, 0, quiet⟩ ⟨0, 0, quiet⟩ 0]

theorem learned_obeys_reverts_quietly : ∃ world : World, ∃ learned ∈ world.learned,
    learned.bound = 16 ∧ learned.bound ≤ learned.request.maxOutputTokens ∧
      learned.request.priority ≠ .success := by
  have reaches : (Transition.runWhile (step interpolated some) Transition.anyStep (.new 0 [])
      sizedQuietly).any (fun world => world.learned.any (·.bound = 16)) = true := by
    decide +kernel
  obtain ⟨world, run, sized⟩ := Transition.Steps.exists_of_runWhile reaches
  obtain ⟨learned, mem, bound⟩ := List.any_eq_true.mp sized
  obtain ⟨-, -, obeys⟩ := learned_obeys_reverts interpolated some 0 [] run
  obtain ⟨-, -, -, -, -, most, priority, -⟩ := obeys learned mem
  exact ⟨world, learned, mem, of_decide_eq_true bound, most, priority⟩

/-- The evaluation of a segment that was the last to run to its end. -/
def latestEvaluation (events : List Event) (segment : Segment) : Option Evaluation :=
  events.findSome? fun
    | .evaluated evaluation => if evaluation.key.segment = segment then some evaluation else none
    | _ => none

/-- When the cell goes stale. -/
def stale : Int := cellTtl + 1

/-- What the refresher has come to after the segment is marked. -/
def tripped : List Event :=
  [.applied oneKey stale, .evaluated ⟨oneKey, some stale, some 1, none, stale⟩,
    .segmentReverted oneSignature.segment stale] ++ quiet

/-- A request reads its segment unmarked; a loss is settled, another request finds the cell stale,
    and the segment is marked and its cell warm again before the first reads its user.  A third looks
    the segment up and reads on a cooldown later. -/
def sizedPastAMark : List Action :=
  warming ++ [.request oneRequest, lookupRead 0, segmentRead 50 ⟨0, 0, quiet⟩ 0,
    .settle lossyRow, .tick stale, .request oneRequest, lookupRead stale, .drain [oneKey],
    .query 0 none, .query 0 none, .proceed, .proceed, .query 0 (some 1), .query 0 none,
    .proceed, .proceed, .proceed,
    userRead 50 ⟨0, 0, quiet⟩ ⟨0, 0, quiet⟩ stale,
    .request oneRequest, lookupRead stale, .tick (stale + revertCooldown),
    segmentRead 51 ⟨stale, stale, tripped⟩ (stale + revertCooldown),
    userRead 51 ⟨stale, stale, tripped⟩ ⟨stale + revertCooldown, stale + revertCooldown, tripped⟩
      (stale + revertCooldown)]

/-- When the bound was given, the segment had just been marked. -/
def markedWhenGiven (learned : LearnedBound) : Bool :=
  (latestEvaluation learned.user.events learned.request.signature.segment).any
    (·.segmentReverted = some learned.user.clock)

/-- When the segment was read, its latest evaluation had marked it. -/
def markedWhenRead (learned : LearnedBound) : Bool :=
  (latestEvaluation learned.segment.events learned.request.signature.segment).any
    (·.segmentReverted.isSome)

/-- Two requests given a learned bound though the latest completed evaluation of their segment had
    marked it: between the first one's two reads, and a cooldown before the second's. -/
theorem sized_past_a_mark : ∃ world : World,
    Transition.Steps (step interpolated some) Transition.anyStep (.new 0 []) world ∧
      (∃ learned ∈ world.learned, markedWhenGiven learned) ∧
      ∃ learned ∈ world.learned, markedWhenRead learned := by
  have reaches : (Transition.runWhile (step interpolated some) Transition.anyStep (.new 0 [])
      sizedPastAMark).any (fun world =>
        world.learned.any markedWhenGiven && world.learned.any markedWhenRead) = true := by
    decide +kernel
  obtain ⟨world, run, sized⟩ := Transition.Steps.exists_of_runWhile reaches
  rw [Bool.and_eq_true, List.any_eq_true, List.any_eq_true] at sized
  exact ⟨world, run, sized.1, sized.2⟩

end ZeroRouter.Estimation
