import ZeroRouter.Proofs.Encumbrance
import ZeroRouter.Proofs.Charging
import ZeroRouter.Estimator

/-!
# Learned sizings are few

Admission counts the user's live reservations, learned or not, before it grants a
learned sizing, and nothing but an admission adds a live reservation.  So at most
two are ever learned at once, and all the others hold their full bound.
-/

namespace ZeroRouter

open Relational

variable {admission : Admission} {swept : Db} {keyState : KeyState} {user : User}
  {table : Table usageReservationsTable}

/-- Unreleased and unexpired: what the concurrency gate counts. -/
def UsageReservation.isLive (row : UsageReservation) (now : Timestamp) : Prop :=
  row.releasedAt = none ∧ now < row.expiresAt

instance (row : UsageReservation) (now : Timestamp) : Decidable (row.isLive now) :=
  inferInstanceAs (Decidable (_ ∧ _))

namespace World

/-- The reservation was made with the learned sizing. -/
def isLearned (w : World) (requestId : Uuid) : Prop :=
  ∃ a ∈ w.admitted, a.requestId = requestId ∧ a.plan.basis = .learned

instance (w : World) (requestId : Uuid) : Decidable (w.isLearned requestId) :=
  inferInstanceAs (Decidable (∃ a ∈ w.admitted, _))

/-- The request's full bound is `full`, and its learned bound not under a quarter
    of it. -/
def hasShape (w : World) (full : Nat) (requestId : Uuid) : Prop :=
  ∃ a ∈ w.admitted, a.requestId = requestId ∧ a.request.HasShape full

instance (w : World) (full : Nat) (requestId : Uuid) : Decidable (w.hasShape full requestId) :=
  inferInstanceAs (Decidable (∃ a ∈ w.admitted, _))

/-- The output tokens a reservation was made for. -/
def outputTokens (w : World) (requestId : Uuid) : Int :=
  ((w.admitted.find? fun a => a.requestId = requestId).map fun a => a.plan.size.outputTokens).getD 0

/-- How many live reservations of the user are learned. -/
def liveLearned (w : World) (userId : Uuid) : Nat :=
  countWhere (fun row => (w.db.owns userId row.apiKeyId ∧ row.isLive w.clock) ∧ w.isLearned row.id)
    w.db.usageReservations.rows

/-- How many live reservations of the user have one shape. -/
def liveOfShape (w : World) (userId : Uuid) (full : Nat) : Nat :=
  countWhere
    (fun row => (w.db.owns userId row.apiKeyId ∧ row.isLive w.clock) ∧ w.hasShape full row.id)
    w.db.usageReservations.rows

/-- The output tokens the user's encumbering reservations hold. -/
def encumberedOutputTokens (w : World) (userId : Uuid) : Int :=
  sumWhere (fun row => w.db.owns userId row.apiKeyId ∧ row.encumbers w.clock)
    (fun row => w.outputTokens row.id) w.db.usageReservations.rows

end World

/-! ## Sizings -/

/-- What the gate chose: the learned sizing only below the limit, else the full one. -/
theorem chooseSizing_cases (sizing : ReservationSizing) (live : Nat) :
    (∃ learned, sizing.learned = some learned ∧ live < learnedSizingConcurrencyLimit ∧
        chooseSizing sizing live = (learned, .learned)) ∨
      chooseSizing sizing live = (sizing.full, .cold) := by
  unfold chooseSizing
  cases hlearned : sizing.learned with
  | none => exact .inr rfl
  | some learned =>
      dsimp only
      split
      · next below => exact .inl ⟨learned, rfl, below, rfl⟩
      · exact .inr rfl

/-- An admission holds a nonnegative sizing that its request offered. -/
structure Admission.Sized (a : Admission) : Prop where
  nonneg : 0 ≤ a.plan.size.outputTokens
  cold : a.plan.basis = .cold → a.plan.size = a.request.sizing.full
  learned : a.plan.basis = .learned → a.request.sizing.learned = some a.plan.size

section Step

variable {w w' : World} {a : Action} {userId : Uuid}

theorem Admitted.sized (admitted : Admitted w a w' admission swept keyState user table) :
    admission.Sized := by
  have nonneg := admitted.allowed.nonnegative
  have offered : admission.request.offered = admission.request.sizing := by
    unfold AdmissionRequest.offered
    rw [admitted.lane]
  unfold ReservationSizing.isNonnegative at nonneg
  rw [offered, Bool.and_eq_true] at nonneg
  have outputNonneg : ∀ size : ReservationSize, size.isNonnegative = true →
      0 ≤ size.outputTokens := by
    intro size h
    simp only [ReservationSize.isNonnegative, Bool.and_eq_true, decide_eq_true_eq] at h
    exact h.1.2
  have plan := admitted.plan
  unfold Db.admissionPlan at plan
  rw [offered] at plan
  rcases chooseSizing_cases admission.request.sizing
    (swept.reservedUsage admission.now admission.request.key).userLiveReservations with
    ⟨learned, hlearned, -, chosen⟩ | chosen
  · simp only [chosen] at plan
    rw [hlearned] at nonneg
    constructor
    · rw [plan]
      exact outputNonneg learned nonneg.2
    · rw [plan]
      exact fun cold => by cases cold
    · rw [plan]
      exact fun _ => hlearned
  · simp only [chosen] at plan
    constructor
    · rw [plan]
      exact outputNonneg _ nonneg.1
    · rw [plan]
      exact fun _ => rfl
    · rw [plan]
      exact fun learned => by cases learned

/-- A learned sizing was granted below the limit. -/
theorem Admitted.live_lt (admitted : Admitted w a w' admission swept keyState user table)
    (learned : admission.plan.basis = .learned) :
    (swept.reservedUsage admission.now admission.request.key).userLiveReservations
      < learnedSizingConcurrencyLimit := by
  have plan := admitted.plan
  unfold Db.admissionPlan at plan
  rcases chooseSizing_cases admission.request.offered
    (swept.reservedUsage admission.now admission.request.key).userLiveReservations with
    ⟨-, -, below, -⟩ | chosen
  · exact below
  · simp only [chosen] at plan
    rw [plan] at learned
    cases learned

/-! ## The count -/

/-- A row that is live after a step was live before it. -/
theorem RowStep.isLive {old new : UsageReservation} (moved : RowStep w a old new)
    {clock : Timestamp} (later : w.clock ≤ clock) (h : new.isLive clock) : old.isLive w.clock := by
  obtain ⟨unreleased, unexpired⟩ := h
  rw [moved.columns.expiresAt] at unexpired
  refine ⟨?_, later.trans_lt unexpired⟩
  rcases moved.released with ⟨same, -⟩ | ⟨unreleasedOld, -⟩
  · rw [← same]
    exact unreleased
  · exact unreleasedOld

theorem liveLearned_eq (w : World) (userId : Uuid) :
    w.liveLearned userId =
      w.heldBy userId (·.isLive w.clock) (·.plan.basis = ReservationBasis.learned) fun _ => 1 :=
  countWhere_eq_sumWhere _

/-- A step that admits nobody adds no live learned reservation. -/
theorem liveLearned_step (inv : Inv w) (h : Change w a w') (same : w'.admitted = w.admitted) :
    w'.liveLearned userId ≤ w.liveLearned userId := by
  rw [liveLearned_eq, liveLearned_eq]
  refine heldBy_step inv h same (fun _ _ _ => Nat.zero_le 1) ?_
  intro old new moved live
  exact ⟨moved.isLive (clock_step h) live, le_refl _⟩

/-- An admission adds one live learned reservation at most, and only to fewer than
    the limit. -/
theorem liveLearned_admitted (inv : Inv w)
    (admitted : Admitted w a w' admission swept keyState user table)
    (bounded : w.liveLearned userId ≤ learnedSizingConcurrencyLimit) :
    w'.liveLearned userId ≤ learnedSizingConcurrencyLimit := by
  rw [liveLearned_eq, heldBy_admitted inv admitted, admitted.clock]
  by_cases counts : (w.db.owns userId admission.request.key.id ∧ admission.row.isLive w.clock) ∧
      admission.plan.basis = .learned
  · rw [if_pos counts]
    obtain ⟨⟨owned, -⟩, learned⟩ := counts
    have owner : admission.request.key.userId = userId :=
      Db.owns_unique admitted.allowed.owned owned
    have below := admitted.live_lt learned
    have counted : { w with db := swept }.heldBy userId (·.isLive w.clock)
          (·.plan.basis = ReservationBasis.learned) (fun _ => 1)
        ≤ (swept.reservedUsage admission.now admission.request.key).userLiveReservations := by
      unfold Db.reservedUsage
      rw [countWhere_eq_sumWhere]
      refine sumWhere_le_sumWhere ?_ (fun _ _ _ => le_refl 1) fun _ _ _ => Nat.zero_le 1
      rintro row - ⟨⟨hkey, unreleased, unexpired⟩, -⟩
      have unexpired' := admitted.timely.trans_lt unexpired
      rw [owner]
      exact ⟨⟨hkey, unreleased, .inl unexpired'⟩, unexpired'⟩
    exact Nat.succ_le_of_lt (counted.trans_lt below)
  · rw [if_neg counts, add_zero]
    have older : { w with db := swept }.heldBy userId (·.isLive w.clock)
        (·.plan.basis = ReservationBasis.learned) (fun _ => 1) ≤ w.liveLearned userId := by
      rw [liveLearned_eq]
      refine heldBy_swept admitted.sweep (fun _ _ _ => Nat.zero_le 1) ?_
      rintro old new parked ⟨unreleased, unexpired⟩
      rw [parked.releasedAt] at unreleased
      rw [parked.columns.expiresAt] at unexpired
      exact ⟨⟨unreleased, unexpired⟩, le_refl _⟩
    exact older.trans bounded

/-! ## The invariant -/

/-- Every admission is sized as offered, and few live ones are learned. -/
structure FewLearned (userId : Uuid) (w : World) : Prop where
  sized : ∀ a ∈ w.admitted, a.Sized
  few : w.liveLearned userId ≤ learnedSizingConcurrencyLimit

theorem FewLearned.step (inv : Inv w) (few : FewLearned userId w) (h : Change w a w') :
    FewLearned userId w' := by
  rcases admitted_cases h with same | ⟨admission, _, _, _, _, admitted⟩
  · refine ⟨?_, (liveLearned_step inv h same).trans few.few⟩
    rw [same]
    exact few.sized
  · refine ⟨?_, liveLearned_admitted inv admitted few.few⟩
    intro other hother
    rw [admitted.history] at hother
    rcases List.mem_cons.mp hother with rfl | before
    · exact admitted.sized
    · exact few.sized other before

theorem FewLearned.opening (h : w.Opening) : FewLearned userId w := by
  refine ⟨by simp [h.admitted], ?_⟩
  unfold World.liveLearned
  rw [h.usageReservations]
  exact Nat.zero_le _

end Step

/-! ## The tokens held -/

section Tokens

variable {w : World} {userId : Uuid}

/-- The sizing of a row is its own admission's. -/
theorem Inv.outputTokens (inv : Inv w) (hadm : admission ∈ w.admitted) :
    w.outputTokens admission.requestId = admission.plan.size.outputTokens := by
  unfold World.outputTokens
  cases hfind : w.admitted.find? fun a => a.requestId = admission.requestId with
  | none =>
      have absent := List.find?_eq_none.mp hfind admission hadm
      simp at absent
  | some found =>
      have hid : found.requestId = admission.requestId := by
        simpa using List.find?_some hfind
      rw [inv.unique found (List.mem_of_find?_eq_some hfind) admission hadm hid]
      rfl

/-- A request of a shape holds a quarter of its full bound when learned, and all of
    it when not. -/
theorem FewLearned.shape_le (inv : Inv w) (few : FewLearned userId w) {full : Nat}
    {requestId : Uuid} (shape : w.hasShape full requestId) :
    4 * (full : Int) ≤ 4 * w.outputTokens requestId +
      if w.isLearned requestId then 3 * (full : Int) else 0 := by
  obtain ⟨admission, hadm, rfl, hfull, quarter⟩ := shape
  have sized := few.sized admission hadm
  rw [inv.outputTokens hadm]
  cases basis : admission.plan.basis with
  | learned =>
      have bound := quarter _ (sized.learned basis)
      rw [if_pos ⟨admission, hadm, rfl, basis⟩]
      omega
  | cold =>
      rw [sized.cold basis, hfull]
      split <;> omega

theorem FewLearned.outputTokens_nonneg (inv : Inv w) (few : FewLearned userId w)
    {row : UsageReservation} (hrow : row ∈ w.db.usageReservations) :
    0 ≤ w.outputTokens row.id := by
  obtain ⟨admission, hadm, columns⟩ := inv.rows row hrow
  rw [columns.id]
  exact (inv.outputTokens hadm).symm ▸ (few.sized admission hadm).nonneg

/-- Four times what is held, and three full bounds for each learned reservation,
    make up four full bounds for each reservation of the shape. -/
theorem FewLearned.tokens (inv : Inv w) (few : FewLearned userId w) (full : Nat) :
    4 * (full : Int) * w.liveOfShape userId full ≤
      4 * w.encumberedOutputTokens userId + 3 * full * w.liveLearned userId := by
  unfold World.liveOfShape World.encumberedOutputTokens World.liveLearned
  have nonneg := fun row (hrow : row ∈ w.db.usageReservations.rows) =>
    few.outputTokens_nonneg inv hrow
  generalize w.db.usageReservations.rows = rows at nonneg
  induction rows with
  | nil => simp [countWhere]
  | cons row rest ih =>
      have tail := ih fun x hx => nonneg x (List.mem_cons_of_mem _ hx)
      have held := nonneg row List.mem_cons_self
      unfold countWhere at tail ⊢
      rw [List.countP_cons, List.countP_cons, sumWhere_cons]
      push_cast
      by_cases live : w.db.owns userId row.apiKeyId ∧ row.isLive w.clock
      · have encumbers : w.db.owns userId row.apiKeyId ∧ row.encumbers w.clock :=
          ⟨live.1, live.2.1, .inl live.2.2⟩
        rw [if_pos encumbers]
        by_cases shape : w.hasShape full row.id
        · have bound := few.shape_le inv shape
          by_cases learned : w.isLearned row.id
          · rw [if_pos learned] at bound
            simp only [live, shape, learned, and_self, decide_true, if_true]
            linarith
          · rw [if_neg learned] at bound
            simp only [live, shape, learned, and_self, and_false, decide_true, decide_false,
              if_true, Bool.false_eq_true, if_false]
            linarith
        · simp only [shape, and_false, decide_false, Bool.false_eq_true, if_false]
          have extra : (0 : Int) ≤ 3 * full * (if decide ((w.db.owns userId row.apiKeyId ∧
              row.isLive w.clock) ∧ w.isLearned row.id) = true then 1 else 0) := by
            split <;> omega
          linarith
      · simp only [live, false_and, decide_false, Bool.false_eq_true, if_false]
        have extra : (0 : Int) ≤ if w.db.owns userId row.apiKeyId ∧ row.encumbers w.clock then
            w.outputTokens row.id else 0 := by
          split
          · exact held
          · exact le_refl _
        linarith

end Tokens

/-- In every reachable state a user has at most two live reservations that were
    sized as learned; so of any number of live requests with one full bound, whose
    learned bounds are no less than a quarter of it, all but one and a half full
    bounds are held. -/
theorem learned_sizing_bounded {w₀ w : World} (opening : w₀.Opening)
    (run : Reaches Transition.anyStep w₀ w) (userId : Uuid) :
    w.liveLearned userId ≤ learnedSizingConcurrencyLimit ∧
      ∀ full : Nat, (full : ℚ) * (w.liveOfShape userId full - 3 / 2)
        ≤ w.encumberedOutputTokens userId := by
  have all := run.invariant (I := fun w => Inv w ∧ FewLearned userId w)
    ⟨.opening opening, .opening opening⟩ fun _ _ _ h _ next =>
      have change := step_change next
      ⟨h.1.step change, h.2.step h.1 change⟩
  obtain ⟨inv, few⟩ := all
  refine ⟨few.few, fun full => ?_⟩
  have tokens := few.tokens inv full
  have limit : (w.liveLearned userId : Int) ≤ 2 := by exact_mod_cast few.few
  have learned : 3 * (full : Int) * w.liveLearned userId ≤ 3 * full * 2 :=
    mul_le_mul_of_nonneg_left limit (by positivity)
  have scaled : (4 * (full : ℚ)) * w.liveOfShape userId full ≤
      4 * w.encumberedOutputTokens userId + 3 * full * 2 := by
    exact_mod_cast tokens.trans (add_le_add (le_refl _) learned)
  linarith

/-- Three requests with a learned bound of a quarter, in flight together. -/
def sizedRequest : AdmissionRequest where
  key := { id := 10, userId := 1 }
  sizing :=
    { learned := some { totalTokens := 200, outputTokens := 100, costUsd := 1 }
      full := { totalTokens := 500, outputTokens := 400, costUsd := 4 } }
  byok := { catalogBasis := none, whollyByok := false }
  requireCredits := true
  lane := .reserved

def threeSizedRun : List Action :=
  [.beginUsageSession 0 7 sizedRequest .commit, .beginUsageSession 0 8 sizedRequest .commit,
    .beginUsageSession 0 9 sizedRequest .commit]

theorem learned_sizing_bounded_three :
    ∃ w : World, w.liveLearned 1 = 2 ∧ w.liveOfShape 1 400 = 3 ∧
      w.encumberedOutputTokens 1 = 600 ∧
      w.liveLearned 1 ≤ learnedSizingConcurrencyLimit ∧
      ∀ full : Nat, (full : ℚ) * (w.liveOfShape 1 full - 3 / 2) ≤ w.encumberedOutputTokens 1 := by
  have runs : (Transition.runWhile step Transition.anyStep (.fresh onePrepaidUser oneKey 0)
      threeSizedRun).any (fun w => w.liveLearned 1 = 2 ∧ w.liveOfShape 1 400 = 3 ∧
        w.encumberedOutputTokens 1 = 600) = true := by
    decide +kernel
  obtain ⟨w, run, hw⟩ := Transition.Steps.exists_of_runWhile runs
  obtain ⟨learned, shaped, held⟩ := of_decide_eq_true hw
  exact ⟨w, learned, shaped, held, learned_sizing_bounded (World.opening_fresh _ _ _) run 1⟩

end ZeroRouter
