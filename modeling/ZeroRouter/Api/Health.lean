import ZeroRouter.Api.Pricing
import Mathlib.Data.Rat.Defs
import Mathlib.Algebra.Order.Ring.Rat
import Mathlib.Tactic.NormNum
import Mathlib.Tactic.Linarith
import Mathlib.Tactic.Ring

/-!
# Provider health across requests

`src/router/src/health.rs`: every rung, keyed by provider and upstream model,
carries a smoothed error rate and a rate-limit cooldown, and every attempt row a
walk records is folded into it.

The error rate is an `f64` in the source and an exact rational here; a rung the
registry has never seen reads as the default one.
-/

namespace ZeroRouter

/-- `tokio::time::Instant`, in milliseconds. -/
abbrev Instant := Nat

/-- `config.rs` `TierCandidate`, as the walk reads it. -/
structure TierCandidate where
  id : String
  provider : String
  model : String
  surface : Option String
  rates : RateSchedule
  deriving DecidableEq, Repr

/-- `ERROR_EWMA_ALPHA`, `DEMOTION_THRESHOLD`, `RATE_LIMIT_COOLDOWN`. -/
def errorEwmaAlpha : ℚ := 3 / 10
def demotionThreshold : ℚ := 1 / 2
def rateLimitCooldown : Nat := 60000

structure RungHealth where
  errorEwma : ℚ
  cooldownUntil : Option Instant
  deriving DecidableEq, Repr

def RungHealth.cold : RungHealth := { errorEwma := 0, cooldownUntil := none }

def RungHealth.demoted (rung : RungHealth) (now : Instant) : Bool :=
  demotionThreshold < rung.errorEwma || rung.cooldownUntil.any (now < ·)

/-- What an attempt outcome says about availability (`observe`'s `Update`). -/
inductive Update where
  | success
  | failure
  | rateLimited
  deriving DecidableEq, Repr

/-- The outcome labels that are evidence; every other one is none. -/
def Update.ofOutcome (outcome : String) : Option Update :=
  if outcome = "ok" then some .success
  else if outcome = "rate_limited" then some .rateLimited
  else if outcome = "upstream_error" ∨ outcome = "timeout" ∨ outcome = "stream_error" then
    some .failure
  else none

def RungHealth.apply (rung : RungHealth) (now : Instant) : Update → RungHealth
  | .success => { errorEwma := rung.errorEwma * (1 - errorEwmaAlpha), cooldownUntil := none }
  | .failure =>
      { rung with errorEwma := errorEwmaAlpha + (1 - errorEwmaAlpha) * rung.errorEwma }
  | .rateLimited => { rung with cooldownUntil := some (now + rateLimitCooldown) }

/-- The registry. -/
abbrev ProviderHealth := String × String → RungHealth

namespace ProviderHealth

def empty : ProviderHealth := fun _ => .cold

/-- `observe`: fold one attempt row into the rung it names. -/
def observe (health : ProviderHealth) (now : Instant) (attempt : AttemptRecord) : ProviderHealth :=
  match Update.ofOutcome attempt.outcome with
  | none => health
  | some update => fun key =>
      if key = (attempt.upstreamProvider, attempt.upstreamModel) then
        (health key).apply now update
      else health key

/-- `should_skip`. -/
def shouldSkip (health : ProviderHealth) (now : Instant) (candidate : TierCandidate) : Bool :=
  (health (candidate.provider, candidate.model)).demoted now

/-- The rows several walks recorded, each at its instant. -/
def observeAll (health : ProviderHealth) (rows : List (Instant × AttemptRecord)) :
    ProviderHealth :=
  rows.foldl (fun health row => health.observe row.1 row.2) health

theorem observe_of_no_evidence {attempt : AttemptRecord}
    (h : Update.ofOutcome attempt.outcome = none) (health : ProviderHealth) (now : Instant) :
    health.observe now attempt = health := by
  simp [observe, h]

end ProviderHealth

/-- `WalkLedger`: recording a row is observing it. -/
structure WalkLedger where
  health : ProviderHealth
  rows : List AttemptRecord

namespace WalkLedger

def new (health : ProviderHealth) : WalkLedger := { health, rows := [] }

def push (ledger : WalkLedger) (now : Instant) (row : AttemptRecord) : WalkLedger :=
  { health := ledger.health.observe now row, rows := ledger.rows ++ [row] }

/-- Rows other walks record meanwhile reach the shared registry only. -/
def meet (ledger : WalkLedger) (observed : List (Instant × AttemptRecord)) : WalkLedger :=
  { ledger with health := ledger.health.observeAll observed }

@[simp] theorem push_rows (ledger : WalkLedger) (now : Instant) (row : AttemptRecord) :
    (ledger.push now row).rows = ledger.rows ++ [row] := rfl

@[simp] theorem push_health (ledger : WalkLedger) (now : Instant) (row : AttemptRecord) :
    (ledger.push now row).health = ledger.health.observe now row := rfl

@[simp] theorem meet_rows (ledger : WalkLedger) (observed : List (Instant × AttemptRecord)) :
    (ledger.meet observed).rows = ledger.rows := rfl

@[simp] theorem meet_health (ledger : WalkLedger) (observed : List (Instant × AttemptRecord)) :
    (ledger.meet observed).health = ledger.health.observeAll observed := rfl

end WalkLedger

/-! ## What the rows of a rung come to -/

namespace RungHealth

variable {updates : List (Instant × Update)} {rung : RungHealth}

/-- Updates in the order they were observed. -/
def applyAll (rung : RungHealth) (updates : List (Instant × Update)) : RungHealth :=
  updates.foldl (fun rung update => rung.apply update.1 update.2) rung

theorem errorEwma_between (updates : List (Instant × Update))
    (start : 0 ≤ rung.errorEwma ∧ rung.errorEwma ≤ 1) :
    0 ≤ (rung.applyAll updates).errorEwma ∧ (rung.applyAll updates).errorEwma ≤ 1 := by
  induction updates generalizing rung with
  | nil => exact start
  | cons update rest ih =>
      obtain ⟨now, update⟩ := update
      apply ih
      cases update with
      | rateLimited => exact start
      | success | failure =>
          simp only [apply, errorEwmaAlpha]
          constructor <;> linarith

/-- Without a success, `n` failures leave `1 - (1 - α) ^ n * (1 - e)` of an error rate `e`. -/
theorem errorEwma_of_unserved (rung : RungHealth)
    (unserved : ∀ update ∈ updates, update.2 ≠ .success) :
    (rung.applyAll updates).errorEwma =
      1 - (1 - errorEwmaAlpha) ^ updates.countP (·.2 = .failure) * (1 - rung.errorEwma) := by
  induction updates generalizing rung with
  | nil => simp [applyAll]
  | cons update rest ih =>
      obtain ⟨now, update⟩ := update
      have later := ih (rung.apply now update) fun other mem => unserved other (.tail _ mem)
      refine Eq.trans later ?_
      cases update with
      | success => exact absurd rfl (unserved (now, .success) (.head _))
      | rateLimited => simp [apply]
      | failure =>
          simp only [apply, List.countP_cons, decide_true, if_true, pow_succ]
          ring

theorem applyAll_of_served (rung : RungHealth) (served : ∀ update ∈ updates, update.2 = .success)
    (seen : updates ≠ []) :
    rung.applyAll updates =
      ⟨rung.errorEwma * (1 - errorEwmaAlpha) ^ updates.length, none⟩ := by
  induction updates generalizing rung with
  | nil => exact absurd rfl seen
  | cons update rest ih =>
      obtain ⟨now, update⟩ := update
      cases served (now, update) (.head _)
      by_cases last : rest = []
      · simp [last, applyAll, apply]
      · refine (ih _ (fun other mem => served other (.tail _ mem)) last).trans ?_
        simp only [apply, List.length_cons, pow_succ]
        congr 1
        ring

/-- Without a failure the error rate stays at zero, and what demotes is a cooldown. -/
theorem applyAll_of_unfailed (unfailed : ∀ update ∈ updates, update.2 ≠ .failure)
    (clear : rung.errorEwma = 0) :
    (rung.applyAll updates).errorEwma = 0 ∧
      ∀ till ∈ (rung.applyAll updates).cooldownUntil, till ∈ rung.cooldownUntil ∨
        ∃ update ∈ updates, update.2 = .rateLimited ∧ till = update.1 + rateLimitCooldown := by
  induction updates generalizing rung with
  | nil => exact ⟨clear, fun till held => .inl held⟩
  | cons update rest ih =>
      obtain ⟨now, update⟩ := update
      have still : (rung.apply now update).errorEwma = 0 := by
        cases update with
        | failure => exact absurd rfl (unfailed (now, .failure) (.head _))
        | success | rateLimited => simp [apply, clear]
      obtain ⟨rate, cooldown⟩ := ih (fun other mem => unfailed other (.tail _ mem)) still
      refine ⟨rate, fun till held => ?_⟩
      rcases cooldown till held with before | ⟨other, mem, limited⟩
      · cases update with
        | success => cases before
        | failure => exact .inl before
        | rateLimited =>
            cases before
            exact .inr ⟨(now, .rateLimited), .head _, rfl, rfl⟩
      · exact .inr ⟨other, .tail _ mem, limited⟩

end RungHealth

namespace ProviderHealth

/-- What the rows of all walks say of one rung. -/
def evidence (key : String × String) (rows : List (Instant × AttemptRecord)) :
    List (Instant × Update) :=
  rows.filterMap fun row =>
    if key = (row.2.upstreamProvider, row.2.upstreamModel) then
      (Update.ofOutcome row.2.outcome).map fun update => (row.1, update)
    else none

theorem observeAll_eq (health : ProviderHealth) (rows : List (Instant × AttemptRecord))
    (key : String × String) :
    health.observeAll rows key = (health key).applyAll (evidence key rows) := by
  induction rows generalizing health with
  | nil => rfl
  | cons row rest ih =>
      refine (ih (health.observe row.1 row.2)).trans ?_
      unfold evidence observe
      cases seen : Update.ofOutcome row.2.outcome with
      | none => simp [seen]
      | some update =>
          by_cases here : key = (row.2.upstreamProvider, row.2.upstreamModel)
          · simp [seen, here, RungHealth.applyAll]
          · simp [here]

/-- From whatever the walks of a process have recorded, in whatever order: two failures with no
    success since demote a rung, however long ago; two completions with nothing since let it back
    in; and one that never failed is demoted by a rate limit of the last minute only. -/
theorem demoted_by_evidence (history rows : List (Instant × AttemptRecord))
    (key : String × String) (now : Instant) :
    ((∀ update ∈ evidence key rows, update.2 ≠ .success) →
      2 ≤ (evidence key rows).countP (·.2 = .failure) →
        ((empty.observeAll history).observeAll rows key).demoted now = true) ∧
    ((∀ update ∈ evidence key rows, update.2 = .success) → 2 ≤ (evidence key rows).length →
      ((empty.observeAll history).observeAll rows key).demoted now = false) ∧
    ((∀ update ∈ evidence key rows, update.2 ≠ .failure) →
      (empty.observeAll rows key).demoted now = true →
        ∃ update ∈ evidence key rows, update.2 = .rateLimited ∧
          now < update.1 + rateLimitCooldown) := by
  have clear : RungHealth.cold.errorEwma = 0 := rfl
  have bounds := RungHealth.errorEwma_between (evidence key history)
    ⟨clear.ge, clear.trans_le zero_le_one⟩
  have before : (empty.observeAll history) key = RungHealth.cold.applyAll (evidence key history) :=
    observeAll_eq empty history key
  rw [← before] at bounds
  have shrinks (n : Nat) (two : 2 ≤ n) : (1 - errorEwmaAlpha) ^ n ≤ 49 / 100 := by
    have fewer := pow_le_pow_of_le_one (a := 1 - errorEwmaAlpha) (by norm_num [errorEwmaAlpha])
      (by norm_num [errorEwmaAlpha]) two
    exact fewer.trans (by norm_num [errorEwmaAlpha])
  have positive (n : Nat) : 0 ≤ (1 - errorEwmaAlpha) ^ n :=
    pow_nonneg (by norm_num [errorEwmaAlpha]) n
  refine ⟨fun unserved twice => ?_, fun served twice => ?_, fun unfailed demoted => ?_⟩
  · rw [observeAll_eq, RungHealth.demoted, RungHealth.errorEwma_of_unserved _ unserved]
    have below := mul_le_of_le_one_right (positive ((evidence key rows).countP (·.2 = .failure)))
      (sub_le_self 1 bounds.1)
    have small := shrinks _ twice
    refine Bool.or_eq_true_iff.mpr (.inl (decide_eq_true ?_))
    rw [demotionThreshold]
    linarith
  · have seen : evidence key rows ≠ [] := by
      intro none
      rw [none] at twice
      cases twice
    rw [observeAll_eq, RungHealth.applyAll_of_served _ served seen, RungHealth.demoted]
    have under := mul_le_of_le_one_left (positive (evidence key rows).length) bounds.2
    have small := shrinks _ twice
    refine Bool.or_eq_false_iff.mpr ⟨decide_eq_false (not_lt.mpr ?_), rfl⟩
    rw [demotionThreshold]
    linarith
  · obtain ⟨rate, cooldown⟩ := RungHealth.applyAll_of_unfailed unfailed clear
    rw [observeAll_eq] at demoted
    change (RungHealth.cold.applyAll (evidence key rows)).demoted now = true at demoted
    rw [RungHealth.demoted, rate] at demoted
    rcases Bool.or_eq_true_iff.mp demoted with past | cooling
    · exact absurd (of_decide_eq_true past) (by norm_num [demotionThreshold])
    · obtain ⟨till, held, early⟩ := (Option.any_eq_true _ _).mp cooling
      rcases cooldown till held with old | ⟨update, mem, limited, rfl⟩
      · cases old
      · exact ⟨update, mem, limited, of_decide_eq_true early⟩

end ProviderHealth

end ZeroRouter
