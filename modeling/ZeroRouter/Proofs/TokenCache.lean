import ZeroRouter.GcpAuth

/-!
# A token is not served near its expiry

Whatever clocks the callers read and whatever the endpoint answers, the cell's deadline only rises,
a token leaves it with the margin still to run, and no call ends in a panic unless a stated lifetime
carries the caller's clock past the last representable instant.
-/

namespace ZeroRouter.GcpAuth

variable {cache next : TokenCache} {log : List Entry} {token : AccessToken} {call : Call}
  {action : Action} {answer : TokenAnswer} {entry : Entry} {began : SystemTime}

/-! ## One mint -/

/-- The margin, in nanoseconds. -/
def margin : Int := 300 * 10 ^ 9

theorem usableAt_iff (token : AccessToken) (now : SystemTime) :
    token.usableAt now = true ↔ now.nanos + margin < token.expiresAt.nanos := by
  unfold AccessToken.usableAt SystemTime.checkedSub
  have low := now.low
  have high := token.expiresAt.high
  have skew : (refreshSkew : Int) * 10 ^ 9 = margin := rfl
  rw [skew]
  cases deadline : SystemTime.ofNanos (token.expiresAt.nanos - margin) with
  | none =>
      unfold SystemTime.ofNanos at deadline
      split at deadline
      · cases deadline
      · next out =>
          simp only [Bool.false_eq_true, false_iff]
          unfold margin at out ⊢
          omega
  | some time =>
      have same := SystemTime.ofNanos_eq_some deadline
      simp only [decide_eq_true_eq]
      rw [same]
      omega

section Mint

variable (libraries : Libraries) (key : ServiceAccountKey)

/-- The assertion's own addition always fits. -/
theorem assertion_ne_panicked (now : SystemTime) :
    assertion libraries key now ≠ .error .panicked := by
  unfold assertion
  have high := now.high
  split
  · nofun
  · simp only
    rw [if_neg]
    · split <;> nofun
    · unfold u64Max assertionLifetime
      omega

/-- A minted token expires the stated lifetime after the caller's clock. -/
theorem mint_eq_ok {now : SystemTime} (h : mint libraries key now answer = .ok token) :
    ∃ parsed, readAnswer libraries answer = .ok parsed ∧ token.token = parsed.accessToken ∧
      token.expiresAt.nanos = now.nanos + parsed.lifetime * 10 ^ 9 := by
  unfold mint at h
  split at h
  · cases h
  · split at h
    · cases h
    · next parsed read =>
        split at h
        · cases h
        · next expiresAt added =>
            cases h
            exact ⟨parsed, read, rfl, SystemTime.ofNanos_eq_some added⟩

/-- A lifetime the clock can be carried by. -/
def Carries (now : SystemTime) (answer : TokenAnswer) : Prop :=
  ∀ parsed, readAnswer libraries answer = .ok parsed →
    now.nanos + parsed.lifetime * 10 ^ 9 < 2 ^ 63 * 10 ^ 9

/-- Minting panics exactly when the signed request was answered with a lifetime beyond the last
    instant. -/
theorem mint_panicked_iff (now : SystemTime) (answer : TokenAnswer) :
    mint libraries key now answer = .error .panicked ↔
      (∃ jwt, assertion libraries key now = .ok jwt) ∧ ¬ Carries libraries now answer := by
  have low := now.low
  unfold mint Carries
  cases signed : assertion libraries key now with
  | error stop =>
      have sound := assertion_ne_panicked libraries key now
      rw [signed] at sound
      simpa using sound
  | ok jwt =>
      cases read : readAnswer libraries answer with
      | error error => simp
      | ok parsed =>
          simp only [Except.ok.injEq, exists_eq', true_and, forall_eq', not_lt]
          unfold SystemTime.checkedAdd SystemTime.ofNanos
          by_cases fits : now.nanos + (parsed.lifetime : Int) * 10 ^ 9 < 2 ^ 63 * 10 ^ 9
          · have range : -(2 ^ 63 * 10 ^ 9) ≤ now.nanos + (parsed.lifetime : Int) * 10 ^ 9 ∧
                now.nanos + (parsed.lifetime : Int) * 10 ^ 9 < 2 ^ 63 * 10 ^ 9 := ⟨by omega, fits⟩
            rw [dif_pos range]
            simp only [reduceCtorEq, false_iff, not_le]
            exact fits
          · rw [dif_neg fun range => fits range.2]
            simpa using fits

end Mint

/-! ## Runs -/

section Cache

variable (libraries : Libraries) (key : ServiceAccountKey)

/-- The token's mint is on record. -/
def Recorded (log : List Entry) (token : AccessToken) : Prop :=
  ∃ call began answer, .minted call began answer (.ok token) ∈ log

/-- What a call's end must be. -/
def Entry.Sound (log : List Entry) : Entry → Prop
  | .served call token =>
      call.now.nanos + margin < token.expiresAt.nanos ∧ Recorded log token
  | .minted call began answer outcome =>
      outcome ≠ .error .panicked ∧
        ∀ token, outcome = .ok token → ∃ parsed, readAnswer libraries answer = .ok parsed ∧
          token.expiresAt.nanos = call.now.nanos + parsed.lifetime * 10 ^ 9 ∧
          (call.now.nanos ≤ began.nanos →
            token.expiresAt.nanos ≤ began.nanos + parsed.lifetime * 10 ^ 9)

/-- A step whose answer's lifetime the minting caller's clock can be carried by. -/
def Fits (cache : TokenCache) : Action → Prop
  | .answer answer => ∀ call began, cache.minting = some (call, began) →
      Carries libraries call.now answer
  | _ => True

structure Good (cache : TokenCache) : Prop where
  sound : ∀ entry ∈ cache.log, entry.Sound libraries cache.log
  recorded : ∀ token, cache.cached = some token → Recorded cache.log token
  /-- A mint is under way only for a clock the cell has nothing for. -/
  stale : ∀ call began, cache.minting = some (call, began) →
    ∀ token, cache.cached = some token → token.usableAt call.now = false

theorem Recorded.append (h : Recorded log token) (entry : Entry) :
    Recorded (log ++ [entry]) token := by
  obtain ⟨call, began, answer, mem⟩ := h
  exact ⟨call, began, answer, List.mem_append_left _ mem⟩

theorem Entry.Sound.append (h : entry.Sound libraries log) (next : Entry) :
    entry.Sound libraries (log ++ [next]) := by
  cases entry with
  | served call token => exact ⟨h.1, h.2.append next⟩
  | minted call began answer outcome => exact h

theorem sound_append (h : ∀ entry ∈ log, entry.Sound libraries log)
    (sound : entry.Sound libraries (log ++ [entry])) :
    ∀ other ∈ log ++ [entry], other.Sound libraries (log ++ [entry]) := by
  intro other mem
  rcases List.mem_append.mp mem with mem | mem
  · exact (h other mem).append libraries entry
  · obtain rfl := List.mem_singleton.mp mem
    exact sound

/-- What the record of a mint says. -/
theorem minted_sound (fits : Carries libraries call.now answer) :
    (Entry.minted call began answer (mint libraries key call.now answer)).Sound libraries log := by
  refine ⟨fun panicked => ((mint_panicked_iff libraries key _ _).mp panicked).2 fits, ?_⟩
  intro token minted
  obtain ⟨parsed, read, -, expires⟩ := mint_eq_ok libraries key minted
  exact ⟨parsed, read, expires, fun early => by omega⟩

/-- What an answer makes of the cell. -/
def stored (cached : Option AccessToken) (now : SystemTime) (outcome : Except Stop AccessToken) :
    Option AccessToken :=
  match outcome with
  | .ok minted => if minted.usableAt now then some minted else cached
  | .error _ => cached

theorem step_answer (holds : cache.minting = some (call, began)) (answer : TokenAnswer) :
    step libraries key cache (.answer answer) = some
      { cache with
        cached := stored cache.cached call.now (mint libraries key call.now answer)
        minting := none
        log := cache.log ++ [.minted call began answer (mint libraries key call.now answer)] } := by
  unfold step stored
  simp only [holds]
  cases mint libraries key call.now answer with
  | error stop => rfl
  | ok minted =>
      simp only
      split <;> rfl

/-- Everything a step can do. -/
theorem step_cases (h : step libraries key cache action = some next) :
    (next.cached = cache.cached ∧ next.log = cache.log ∧
      (next.minting = cache.minting ∨ next.minting = none)) ∨
    (∃ call token, cache.cached = some token ∧ token.usableAt call.now = true ∧
      next.cached = cache.cached ∧ next.minting = cache.minting ∧
      next.log = cache.log ++ [.served call token]) ∨
    (∃ call, next.cached = cache.cached ∧ next.log = cache.log ∧
      next.minting = some (call, cache.clock) ∧
      ∀ token, cache.cached = some token → token.usableAt call.now = false) ∨
    ∃ call began answer, action = .answer answer ∧ cache.minting = some (call, began) ∧
      next.minting = none ∧
      next.cached = stored cache.cached call.now (mint libraries key call.now answer) ∧
      next.log = cache.log ++ [.minted call began answer (mint libraries key call.now answer)] := by
  cases action with
  | tick clock =>
      simp only [step] at h
      split at h
      · cases h
        exact .inl ⟨rfl, rfl, .inl rfl⟩
      · cases h
  | call call =>
      cases h
      exact .inl ⟨rfl, rfl, .inl rfl⟩
  | lock call =>
      simp only [step] at h
      split at h
      · split at h
        · next token found =>
            cases h
            obtain ⟨held, usable⟩ := Option.filter_eq_some_iff.mp found
            exact .inr (.inl ⟨call, token, held, usable, rfl, rfl, rfl⟩)
        · next nothing =>
            cases h
            refine .inr (.inr (.inl ⟨call, rfl, rfl, rfl, ?_⟩))
            intro token held
            rw [held, Option.filter_some] at nothing
            cases usable : token.usableAt call.now with
            | true =>
                rw [if_pos usable] at nothing
                cases nothing
            | false => rfl
      · cases h
  | answer answer =>
      cases holds : cache.minting with
      | none =>
          simp only [step, holds] at h
          cases h
      | some held =>
          obtain ⟨call, began⟩ := held
          rw [step_answer libraries key holds] at h
          cases h
          exact .inr (.inr (.inr ⟨call, began, answer, rfl, rfl, rfl, rfl, rfl⟩))
  | abandon call =>
      simp only [step] at h
      split at h
      · cases h
        exact .inl ⟨rfl, rfl, .inr rfl⟩
      · split at h
        · cases h
          exact .inl ⟨rfl, rfl, .inl rfl⟩
        · cases h

theorem good_new (clock : SystemTime) : Good libraries (.new clock) := by
  refine ⟨?_, ?_, ?_⟩
  · exact fun entry mem => by cases mem
  · exact fun token h => by cases h
  · exact fun call began h => by cases h

theorem good_step (good : Good libraries cache) (fits : Fits libraries cache action)
    (h : step libraries key cache action = some next) :
    Good libraries next := by
  rcases step_cases libraries key h with ⟨cached, log, minting⟩ |
    ⟨call, token, held, usable, cached, minting, log⟩ | ⟨call, cached, log, minting, stale⟩ |
    ⟨call, began, answer, rfl, holds, minting, cached, log⟩
  · constructor
    · rw [log]
      exact good.sound
    · rw [cached, log]
      exact good.recorded
    · rw [cached]
      rcases minting with minting | minting
      · rw [minting]
        exact good.stale
      · rw [minting]
        exact fun _ _ h => by cases h
  · constructor
    · rw [log]
      refine sound_append libraries good.sound ?_
      exact ⟨(usableAt_iff token call.now).mp usable, (good.recorded token held).append _⟩
    · rw [cached, log]
      exact fun token held => (good.recorded token held).append _
    · rw [cached, minting]
      exact good.stale
  · constructor
    · rw [log]
      exact good.sound
    · rw [cached, log]
      exact good.recorded
    · rw [cached, minting]
      rintro _ _ ⟨rfl, rfl⟩
      exact stale
  · have sound : (Entry.minted call began answer (mint libraries key call.now answer)).Sound
        libraries next.log :=
      minted_sound libraries key (fits call began holds)
    constructor
    · rw [log] at sound ⊢
      exact sound_append libraries good.sound sound
    · rw [cached, log]
      intro token held
      unfold stored at held
      split at held
      · next minted outcome =>
          split at held
          · cases held
            refine ⟨call, began, answer, List.mem_append_right _ ?_⟩
            rw [outcome]
            exact List.mem_cons_self
          · exact (good.recorded token held).append _
      · exact (good.recorded token held).append _
    · rw [minting]
      exact fun _ _ h => by cases h

/-! ## The cell's deadline only rises -/

/-- The cell holds a token that is good for at least as long. -/
def Raised (cache next : TokenCache) : Prop :=
  ∀ token, cache.cached = some token →
    ∃ later, next.cached = some later ∧ token.expiresAt.nanos ≤ later.expiresAt.nanos

theorem raised_step (good : Good libraries cache)
    (h : step libraries key cache action = some next) : Raised cache next := by
  intro token held
  rcases step_cases libraries key h with ⟨cached, -⟩ | ⟨_, _, -, -, cached, -⟩ | ⟨_, cached, -⟩ |
    ⟨call, began, answer, rfl, holds, -, cached, -⟩
  · exact ⟨token, cached.trans held, le_rfl⟩
  · exact ⟨token, cached.trans held, le_rfl⟩
  · exact ⟨token, cached.trans held, le_rfl⟩
  · rw [cached]
    unfold stored
    split
    · next minted _ =>
        split
        · next usable =>
            refine ⟨minted, rfl, ?_⟩
            -- The cell had nothing for this caller, so its deadline was not past his clock.
            have stale := good.stale call began holds token held
            have late := (usableAt_iff minted call.now).mp usable
            have early : ¬ call.now.nanos + margin < token.expiresAt.nanos := by
              rw [← usableAt_iff, stale]
              exact Bool.false_ne_true
            omega
        · exact ⟨token, held, le_rfl⟩
    · exact ⟨token, held, le_rfl⟩

open Transition in
theorem good_steps (good : Good libraries cache)
    (run : Steps (step libraries key) (Fits libraries) cache next) :
    Good libraries next ∧ Raised cache next := by
  refine run.invariant (I := fun now => Good libraries now ∧ Raised cache now) ?_ ?_
  · exact ⟨good, fun token held => ⟨token, held, le_rfl⟩⟩
  · rintro before action after ⟨good, raised⟩ fits next
    refine ⟨good_step libraries key good fits next, ?_⟩
    intro token held
    obtain ⟨middle, held, le⟩ := raised token held
    obtain ⟨later, held, le'⟩ := raised_step libraries key good next middle held
    exact ⟨later, held, le.trans le'⟩

/-- A waiting call finds what was minted for a clock no earlier than its own. -/
theorem lock_served (held : cache.cached = some token) (usable : token.usableAt call.now = true)
    (h : step libraries key cache (.lock call) = some next) :
    next.log = cache.log ++ [.served call token] ∧ next.minting = cache.minting := by
  simp only [step] at h
  split at h
  · rw [held, Option.filter_some, if_pos usable] at h
    cases h
    exact ⟨rfl, rfl⟩
  · cases h

end Cache

section Claim

variable (libraries : Libraries) (key : ServiceAccountKey)

open Transition

/-- While no stated lifetime carries a minting caller's clock past the last instant: no call panics;
    a token leaves the cell with more than the margin to run; a token's recorded expiry is at most
    its stated lifetime after its mint began, for a clock that was not ahead of it; a mint that
    fails leaves the cell alone; and a call that waited for a mint its own clock can use is served
    from the cell. -/
theorem token_cache_guarded (clock : SystemTime) {cache : TokenCache}
    (run : Steps (step libraries key) (Fits libraries) (.new clock) cache) :
    (∀ call began answer outcome, .minted call began answer outcome ∈ cache.log →
      outcome ≠ .error .panicked) ∧
    (∀ call token, .served call token ∈ cache.log →
      call.now.nanos + margin < token.expiresAt.nanos) ∧
    (∀ (call : Call) (began : SystemTime) (answer : TokenAnswer) (token : AccessToken),
      .minted call began answer (.ok token) ∈ cache.log →
      ∃ parsed, readAnswer libraries answer = .ok parsed ∧
        (call.now.nanos ≤ began.nanos →
          token.expiresAt.nanos ≤ began.nanos + parsed.lifetime * 10 ^ 9)) ∧
    ∀ call began answer next, cache.minting = some (call, began) →
      Fits libraries cache (.answer answer) →
      step libraries key cache (.answer answer) = some next →
        ((∀ token, mint libraries key call.now answer ≠ .ok token) →
          next.cached = cache.cached) ∧
        ∀ token, mint libraries key call.now answer = .ok token →
          token.usableAt call.now = true → ∀ waiter ∈ cache.waiting,
            token.usableAt waiter.now = true →
              ∀ later, Steps (step libraries key) (Fits libraries) next later →
                ∀ after, step libraries key later (.lock waiter) = some after →
                  ∃ found, after.log = later.log ++ [.served waiter found] ∧
                    after.minting = later.minting := by
  have good := (good_steps libraries key (good_new libraries clock) run).1
  refine ⟨?_, ?_, ?_, ?_⟩
  · intro call began answer outcome mem
    exact (good.sound _ mem).1
  · intro call token mem
    exact (good.sound _ mem).1
  · intro call began answer token mem
    obtain ⟨parsed, read, -, bounded⟩ := (good.sound _ mem).2 token rfl
    exact ⟨parsed, read, bounded⟩
  · intro call began answer next holds fits answered
    have cell := step_answer libraries key holds answer
    rw [answered, Option.some.injEq] at cell
    constructor
    · intro failed
      rw [cell]
      simp only [stored]
      split
      · next minted outcome => exact absurd outcome (failed minted)
      · rfl
    · intro token minted usable waiter _ waits later rest after locked
      have held : next.cached = some token := by
        rw [cell]
        simp only [stored, minted, if_pos usable]
      have raised : Raised next later :=
        (good_steps libraries key (good_step libraries key good fits answered) rest).2
      obtain ⟨found, found_held, le⟩ := raised token held
      refine ⟨found, lock_served libraries key found_held ?_ locked⟩
      rw [usableAt_iff] at waits ⊢
      omega

instance (now : SystemTime) (answer : TokenAnswer) : Decidable (Carries libraries now answer) :=
  match read : readAnswer libraries answer with
  | .error _ => isTrue (by intro parsed h; rw [read] at h; cases h)
  | .ok parsed =>
      decidable_of_iff (now.nanos + parsed.lifetime * 10 ^ 9 < 2 ^ 63 * 10 ^ 9)
        (by simp [Carries, read])

instance (cache : TokenCache) : (action : Action) → Decidable (Fits libraries cache action)
  | .answer answer =>
      match holds : cache.minting with
      | none => isTrue (by intro call began h; rw [holds] at h; cases h)
      | some (call, _) =>
          decidable_of_iff (Carries libraries call.now answer) (by simp [Fits, holds])
  | .tick _ | .call _ | .lock _ | .abandon _ => isTrue trivial

end Claim

section Endpoint

open Transition

/-- Half an hour into the epoch. -/
def halfHour : SystemTime := ⟨1800 * 10 ^ 9, by decide, by decide⟩

def hourAnswer : String := "\x7b\"access_token\":\"ya29.a\",\"expires_in\":3600\x7d"

def endlessAnswer : String :=
  "\x7b\"access_token\":\"ya29.a\",\"expires_in\":18446744073709551615\x7d"

/-- A signer, and a deserializer that has seen the two answers. -/
def endpoint : Libraries where
  sign _ _ _ := .ok "e30.e30.c2ln"
  fromStr body :=
    if body = hourAnswer then .ok { accessToken := "ya29.a", expiresIn := some 3600 }
    else if body = endlessAnswer then
      .ok { accessToken := "ya29.a", expiresIn := some 18446744073709551615 }
    else .error "expected value at line 1 column 1"

def vertexKey : ServiceAccountKey where
  clientEmail := "lane@project.iam.gserviceaccount.com"
  keyId := none
  tokenUri := "https://oauth2.googleapis.com/token"

def firstCall : Call := ⟨1, halfHour⟩
def secondCall : Call := ⟨2, halfHour⟩

/-- One mint and one token from the cell. -/
def shared (cache : TokenCache) : Bool :=
  match cache.log with
  | [.minted _ _ _ (.ok minted), .served _ token] => token = minted
  | _ => false

theorem token_cache_guarded_shared :
    ∃ cache, Steps (step endpoint vertexKey) (Fits endpoint) (.new halfHour) cache ∧
      shared cache = true ∧
      ∀ call token, .served call token ∈ cache.log →
        call.now.nanos + margin < token.expiresAt.nanos := by
  have runs : (runWhile (step endpoint vertexKey) (Fits endpoint) (.new halfHour)
      [.call firstCall, .call secondCall, .lock firstCall, .answer (.answered 200 hourAnswer),
        .lock secondCall]).any shared = true := by
    decide +kernel
  obtain ⟨cache, run, held⟩ := Steps.exists_of_runWhile runs
  exact ⟨cache, run, held, (token_cache_guarded endpoint vertexKey halfHour run).2.1⟩

/-- The last call ended in a panic. -/
def panicked (cache : TokenCache) : Bool :=
  match cache.log with
  | [.minted _ _ _ (.error .panicked)] => true
  | _ => false

/-- An answer that states the largest lifetime there is. -/
theorem endless_lifetime_panics :
    ∃ cache, Steps (step endpoint vertexKey) anyStep (.new halfHour) cache ∧
      panicked cache = true := by
  have runs : (runWhile (step endpoint vertexKey) anyStep (.new halfHour)
      [.call firstCall, .lock firstCall, .answer (.answered 200 endlessAnswer)]).any panicked =
        true := by
    decide +kernel
  exact Steps.exists_of_runWhile runs

end Endpoint

end ZeroRouter.GcpAuth
