import ZeroRouter.Auth
import Mathlib.Data.Nat.Bitwise

/-!
# A key is honoured no longer than the cache window

A cached answer goes back to a row read no earlier than the call that filled the entry began, and
the entry's deadline is counted from that same beginning.  The order in which reads and writes of
different calls fall does not enter.
-/

namespace ZeroRouter.Auth

open List

variable {world : World} {call : Call} {clock : Int} {hash : String} {row : KeyRecord}
  {stage : Stage} {entry : CacheEntry} {rows : List KeyRecord} {begun : Int}

/-! ## Comparing hashes -/

theorem bytes_inj {left right : String} (h : bytes left = bytes right) : left = right := by
  rw [← String.toByteArray_inj]
  exact ByteArray.ext (Array.ext' h)

theorem foldl_or_eq_zero (part : Nat → Nat) (indices : List Nat) (start : Nat) :
    indices.foldl (fun difference index => difference ||| part index) start = 0 ↔
      start = 0 ∧ ∀ index ∈ indices, part index = 0 := by
  induction indices generalizing start with
  | nil => simp
  | cons index rest ih =>
      rw [foldl_cons, ih, Nat.or_eq_zero_iff, forall_mem_cons, and_assoc]

/-- The comparison is equality. -/
theorem constantTimeEq_iff (left right : String) :
    constantTimeEq left right = true ↔ left = right := by
  unfold constantTimeEq
  simp only [beq_iff_eq, foldl_or_eq_zero, mem_range]
  constructor
  · rintro ⟨lengths, bytewise⟩
    have same_length : (bytes left).length = (bytes right).length := by
      exact Nat.eq_of_xor_eq_zero lengths
    refine bytes_inj (ext_getElem same_length ?_)
    intro index before after
    have byte := bytewise index (lt_max_of_lt_left before)
    rw [getElem?_eq_getElem before, getElem?_eq_getElem after] at byte
    have zero : (bytes left)[index] ^^^ (bytes right)[index] = 0 := by
      exact UInt8.toNat_inj.mp byte
    simpa using zero
  · rintro rfl
    simp

/-! ## What a run has read -/

section Run

variable (hashApiKey : String → String)

/-- At an instant of the run the table held a row under a hash, live and unexpired. -/
structure HeldAt (past : List (Int × List KeyRecord)) (hash : String) (read : Int)
    (row : KeyRecord) : Prop where
  held : ∃ rows, (read, rows) ∈ past ∧ row ∈ rows
  hash : row.keyHash = hash
  live : row.disabled = false
  unexpired : ∀ deadline, row.expiresAt = some deadline → read < deadline

/-- What a call has in hand. -/
def StageGood (past : List (Int × List KeyRecord)) (call : Call) : Stage → Prop
  | .lookup | .query => True
  | .filter row => ∀ found, row = some found → ∃ read rows, (read, rows) ∈ past ∧
      found ∈ rows ∧ call.begun ≤ read
  | .clamp key expiresAt => validKeyShape call.token = true ∧
      ∃ read row, HeldAt past (hashApiKey call.token) read row ∧ call.begun ≤ read ∧
        row.authenticated = key ∧ row.expiresAt = expiresAt
  | .write key ttl => validKeyShape call.token = true ∧
      ∃ read row, HeldAt past (hashApiKey call.token) read row ∧ call.begun ≤ read ∧
        row.authenticated = key ∧ ttl ≤ cacheTtl ∧
        ∀ deadline, row.expiresAt = some deadline → call.begun + ttl ≤ deadline

/-- What an entry goes back to. -/
def EntryGood (past : List (Int × List KeyRecord)) (hash : String) (entry : CacheEntry) :
    Prop :=
  ∃ read row, HeldAt past hash read row ∧ row.authenticated = entry.key ∧
    entry.expiresAt ≤ read + cacheTtl ∧
    ∀ deadline, row.expiresAt = some deadline → entry.expiresAt ≤ deadline

/-- What an answer goes back to. -/
def AnswerGood (past : List (Int × List KeyRecord)) (answer : Answer) : Prop :=
  ∀ key, answer.result = .ok key → validKeyShape answer.token = true ∧
    ∃ read row, HeldAt past (hashApiKey answer.token) read row ∧
      answer.begun - cacheTtl ≤ read ∧ read ≤ answer.given ∧ row.authenticated = key ∧
      (answer.cached = true → ∀ deadline, row.expiresAt = some deadline → answer.begun < deadline)

structure Good (world : World) : Prop where
  clock : ∀ moment ∈ world.past, moment.1 ≤ world.clock
  here : (world.clock, world.rows) ∈ world.past
  /-- A row is never deleted and keeps its hash. -/
  kept : ∀ moment ∈ world.past, ∀ row ∈ moment.2, ∃ now ∈ world.rows, now.keyHash = row.keyHash
  begun : ∀ call ∈ world.calls, call.begun ≤ world.clock
  stages : ∀ call ∈ world.calls, StageGood hashApiKey world.past call call.stage
  entries : ∀ hash entry, world.cache hash = some entry → EntryGood world.past hash entry
  answers : ∀ answer ∈ world.answers, AnswerGood hashApiKey world.past answer

/-! ## More moments -/

section Later

variable {hashApiKey}
variable {past : List (Int × List KeyRecord)} (later : Int × List KeyRecord)

theorem HeldAt.cons {read : Int} (h : HeldAt past hash read row) :
    HeldAt (later :: past) hash read row := by
  obtain ⟨rows, mem, held⟩ := h.held
  exact { h with held := ⟨rows, mem_cons_of_mem _ mem, held⟩ }

theorem StageGood.cons (h : StageGood hashApiKey past call stage) :
    StageGood hashApiKey (later :: past) call stage := by
  cases stage with
  | lookup => trivial
  | query => trivial
  | filter row =>
      intro found held
      obtain ⟨read, rows, mem, rest⟩ := h found held
      exact ⟨read, rows, mem_cons_of_mem _ mem, rest⟩
  | clamp key expiresAt =>
      obtain ⟨shape, read, row, held, rest⟩ := h
      exact ⟨shape, read, row, held.cons later, rest⟩
  | write key ttl =>
      obtain ⟨shape, read, row, held, rest⟩ := h
      exact ⟨shape, read, row, held.cons later, rest⟩

theorem EntryGood.cons (h : EntryGood past hash entry) :
    EntryGood (later :: past) hash entry := by
  obtain ⟨read, row, held, rest⟩ := h
  exact ⟨read, row, held.cons later, rest⟩

theorem AnswerGood.cons {answer : Answer} (h : AnswerGood hashApiKey past answer) :
    AnswerGood hashApiKey (later :: past) answer := by
  intro key served
  obtain ⟨shape, read, row, held, rest⟩ := h key served
  exact ⟨shape, read, row, held.cons later, rest⟩

end Later

/-- A new moment keeps everything when the clock has not gone back and no row is gone. -/
theorem Good.moment (good : Good hashApiKey world) (forward : world.clock ≤ clock)
    (kept : ∀ row ∈ world.rows, ∃ now ∈ rows, now.keyHash = row.keyHash) :
    Good hashApiKey { world with clock, rows, past := (clock, rows) :: world.past } where
  clock := by
    rintro moment mem
    rcases mem_cons.mp mem with rfl | mem
    · exact le_rfl
    · exact (good.clock moment mem).trans forward
  here := mem_cons_self
  kept := by
    intro moment mem row held
    rcases mem_cons.mp mem with rfl | mem
    · exact ⟨row, held, rfl⟩
    · obtain ⟨now, held, same⟩ := good.kept moment mem row held
      obtain ⟨later, held, same'⟩ := kept now held
      exact ⟨later, held, same'.trans same⟩
  begun call mem := (good.begun call mem).trans forward
  stages call mem := (good.stages call mem).cons _
  entries hash entry held := (good.entries hash entry held).cons _
  answers answer mem := (good.answers answer mem).cons _

/-- A call that goes on. -/
theorem Good.goOn (good : Good hashApiKey world) (mem : call ∈ world.calls)
    (sound : StageGood hashApiKey world.past call stage) :
    Good hashApiKey (world.goOn call stage) where
  clock := good.clock
  here := good.here
  kept := good.kept
  begun := by
    intro other mem'
    rcases mem_cons.mp mem' with rfl | mem'
    · exact good.begun call mem
    · exact good.begun other (mem_of_mem_erase mem')
  stages := by
    intro other mem'
    rcases mem_cons.mp mem' with rfl | mem'
    · cases stage <;> exact sound
    · exact good.stages other (mem_of_mem_erase mem')
  entries := good.entries
  answers := good.answers

/-- A call that ends. -/
theorem Good.answer (good : Good hashApiKey world) (call : Call) (cached : Bool)
    {result : Except AuthenticationError AuthenticatedKey}
    (sound : AnswerGood hashApiKey world.past
      ⟨call.token, call.begun, world.clock, cached, result⟩) :
    Good hashApiKey (world.answer call cached result) where
  clock := good.clock
  here := good.here
  kept := good.kept
  begun other mem := good.begun other (mem_of_mem_erase mem)
  stages other mem := good.stages other (mem_of_mem_erase mem)
  entries := good.entries
  answers := by
    intro answer mem
    rcases mem_cons.mp mem with rfl | mem
    · exact sound
    · exact good.answers answer mem

theorem AnswerGood.error {past : List (Int × List KeyRecord)} {token : String} {given : Int}
    {cached : Bool} {error : AuthenticationError} :
    AnswerGood hashApiKey past ⟨token, begun, given, cached, .error error⟩ := by
  intro key served
  cases served

/-! ## The pieces of a call -/

theorem cachedKey_eq_some {cache : String → Option CacheEntry}
    (h : cachedKey hashApiKey cache call = some entry) :
    validKeyShape call.token = true ∧ cache (hashApiKey call.token) = some entry ∧
      call.begun < entry.expiresAt := by
  unfold cachedKey at h
  split at h
  · next shape =>
      obtain ⟨held, fresh⟩ := Option.filter_eq_some_iff.mp h
      exact ⟨shape, held, of_decide_eq_true fresh⟩
  · cases h

theorem admittedRow_eq_some {found : Option KeyRecord}
    (h : admittedRow hashApiKey clock call found = some row) :
    found = some row ∧ validKeyShape call.token = true ∧ row.keyHash = hashApiKey call.token ∧
      row.disabled = false ∧ ∀ deadline, row.expiresAt = some deadline → clock < deadline := by
  unfold admittedRow at h
  obtain ⟨rfl, passes⟩ := Option.filter_eq_some_iff.mp h
  simp only [Option.elim_some, Bool.and_eq_true, Bool.not_eq_true'] at passes
  obtain ⟨⟨⟨shape, hashes⟩, live⟩, unexpired⟩ := passes
  refine ⟨rfl, shape, (constantTimeEq_iff _ _).mp hashes, live, ?_⟩
  intro deadline states
  rw [states] at unexpired
  simpa using unexpired

theorem lifetime_le (clock : Int) (expiresAt : Option Int) :
    lifetime clock expiresAt ≤ cacheTtl := by
  unfold lifetime
  split
  · exact le_rfl
  · split
    · decide
    · exact min_le_right _ _

/-- Counted from no later than the clock it was taken at, a lifetime ends by the deadline. -/
theorem add_lifetime_le {deadline : Int} (early : begun ≤ clock) (before : begun < deadline) :
    begun + lifetime clock (some deadline) ≤ deadline := by
  simp only [lifetime]
  split
  · omega
  · have least := min_le_left (deadline - clock) cacheTtl
    omega

/-- Each piece of a call keeps the record sound. -/
theorem good_advance (good : Good hashApiKey world) (mem : call ∈ world.calls) :
    Good hashApiKey (advance hashApiKey world call) := by
  have sound := good.stages call mem
  have early := good.begun call mem
  unfold advance
  split
  · split
    · next entry hit =>
        obtain ⟨shape, held, fresh⟩ := cachedKey_eq_some hashApiKey hit
        obtain ⟨read, row, at_read, key, near, clamped⟩ := good.entries _ _ held
        obtain ⟨rows, moment, -⟩ := at_read.held
        refine good.answer hashApiKey call true ?_
        rintro _ ⟨⟩
        refine ⟨shape, read, row, at_read, by dsimp only; omega, good.clock _ moment, key, ?_⟩
        intro _ deadline states
        exact fresh.trans_le (clamped deadline states)
    · exact good.goOn hashApiKey mem trivial
  · refine good.goOn hashApiKey mem ?_
    intro found hit
    exact ⟨world.clock, world.rows, good.here, mem_of_find?_eq_some hit, early⟩
  · next found stage =>
      rw [stage] at sound
      split
      · exact good.answer hashApiKey call false (AnswerGood.error hashApiKey)
      · next row admitted =>
          obtain ⟨rfl, shape, hash, live, unexpired⟩ := admittedRow_eq_some hashApiKey admitted
          obtain ⟨read, rows, moment, held, later⟩ := sound row rfl
          refine good.goOn hashApiKey mem ⟨shape, read, row, ?_, later, rfl, rfl⟩
          refine ⟨⟨rows, moment, held⟩, hash, live, ?_⟩
          -- The row was still unexpired when it was looked at, after it was read.
          intro deadline states
          exact (good.clock _ moment).trans_lt (unexpired deadline states)
  · next key expiresAt stage =>
      rw [stage] at sound
      obtain ⟨shape, read, row, held, later, same, rfl⟩ := sound
      refine good.goOn hashApiKey mem ⟨shape, read, row, held, later, same, lifetime_le _ _, ?_⟩
      intro deadline states
      rw [states]
      exact add_lifetime_le early (later.trans_lt (held.unexpired deadline states))
  · next key ttl stage =>
      rw [stage] at sound
      obtain ⟨shape, read, row, held, later, same, short, clamped⟩ := sound
      have cached : Good hashApiKey { world with
          cache := written hashApiKey world.cache call ⟨key, call.begun + ttl⟩ } := by
        refine { good with entries := ?_ }
        intro hash entry kept
        by_cases own : hash = hashApiKey call.token
        · subst own
          simp only [written, Function.update_self, Option.some.injEq] at kept
          subst kept
          exact ⟨read, row, held, same, by dsimp only; omega, clamped⟩
        · simp only [written, Function.update_of_ne own] at kept
          exact good.entries hash entry (Option.filter_eq_some_iff.mp kept).1
      refine cached.answer hashApiKey call false ?_
      rintro _ ⟨⟩
      obtain ⟨rows, moment, -⟩ := held.held
      have window : 0 ≤ cacheTtl := by decide
      refine ⟨shape, read, row, held, by dsimp only; omega, good.clock _ moment, same, ?_⟩
      intro cached
      cases cached

/-! ## Runs -/

theorem disableKey_kept (rows : List KeyRecord) (userId keyId : Uuid) :
    ∀ row ∈ rows, ∃ now ∈ disableKey rows userId keyId, now.keyHash = row.keyHash := by
  intro row mem
  refine ⟨_, mem_map_of_mem mem, ?_⟩
  split <;> rfl

theorem editKey_kept (rows : List KeyRecord) (edited : KeyRecord) :
    ∀ row ∈ rows, ∃ now ∈ editKey rows edited, now.keyHash = row.keyHash := by
  intro row mem
  refine ⟨_, mem_map_of_mem mem, ?_⟩
  split
  · next same => exact same.2.symm
  · rfl

theorem good_new (clock : Int) (rows : List KeyRecord) :
    Good hashApiKey (.new clock rows) where
  clock := by
    rintro moment mem
    rw [mem_singleton.mp mem]
    exact le_rfl
  here := mem_singleton_self _
  kept := by
    intro moment mem row held
    rw [mem_singleton.mp mem] at held
    exact ⟨row, held, rfl⟩
  begun call mem := by cases mem
  stages call mem := by cases mem
  entries hash entry held := by cases held
  answers answer mem := by cases mem

theorem good_step {next : World} {action : Action} (good : Good hashApiKey world)
    (h : step hashApiKey world action = some next) : Good hashApiKey next := by
  cases action with
  | tick clock =>
      simp only [step] at h
      split at h
      · next forward =>
          cases h
          exact good.moment hashApiKey forward fun row mem => ⟨row, mem, rfl⟩
      · cases h
  | create row =>
      simp only [step] at h
      split at h
      · cases h
      · cases h
        exact good.moment hashApiKey le_rfl fun row mem => ⟨row, mem_cons_of_mem _ mem, rfl⟩
  | disable userId keyId =>
      cases h
      exact good.moment hashApiKey le_rfl (disableKey_kept world.rows userId keyId)
  | edit row =>
      cases h
      exact good.moment hashApiKey le_rfl (editKey_kept world.rows row)
  | authenticate token =>
      cases h
      exact
        { good with
          begun := forall_mem_cons.mpr ⟨le_rfl, good.begun⟩
          stages := forall_mem_cons.mpr ⟨trivial, good.stages⟩ }
  | advance call =>
      simp only [step] at h
      split at h
      · next mem =>
          cases h
          exact good_advance hashApiKey good mem
      · cases h
  | queryFailed call error =>
      simp only [step] at h
      split at h
      · cases h
        exact good.answer hashApiKey call false (AnswerGood.error hashApiKey)
      · cases h
  | abandon call =>
      simp only [step] at h
      split at h
      · cases h
        exact
          { good with
            begun := fun other mem => good.begun other (mem_of_mem_erase mem)
            stages := fun other mem => good.stages other (mem_of_mem_erase mem) }
      · cases h

end Run

section Claim

variable (hashApiKey : String → String)

open Transition

theorem good_steps (run : Steps (step hashApiKey) anyStep (.new clock rows) world) :
    Good hashApiKey world :=
  run.invariant (good_new hashApiKey clock rows) fun _ _ _ good _ next =>
    good_step hashApiKey good next

/-- Whatever the order of calls, clock and edits: an answered identity is that of a live, unexpired
    row with the token's hash, held at an instant after the call began or at most the window before;
    a cached one is not for a call that begins at or after the row's own expiry; and a token of the
    wrong shape, or with no row, is never answered one. -/
theorem key_honoured_within_window (clock : Int) (rows : List KeyRecord) {world : World}
    (run : Steps (step hashApiKey) anyStep (.new clock rows) world) :
    ∀ answer ∈ world.answers,
      (∀ key, answer.result = .ok key →
        ∃ read row, HeldAt world.past (hashApiKey answer.token) read row ∧
          answer.begun - cacheTtl ≤ read ∧ read ≤ answer.given ∧ row.authenticated = key ∧
          (answer.cached = true →
            ∀ deadline, row.expiresAt = some deadline → answer.begun < deadline)) ∧
      (validKeyShape answer.token = false ∨
          (∀ row ∈ world.rows, row.keyHash ≠ hashApiKey answer.token) →
        ∀ key, answer.result ≠ .ok key) := by
  intro answer mem
  have good := good_steps hashApiKey run
  refine ⟨fun key served => (good.answers answer mem key served).2, ?_⟩
  intro without key served
  obtain ⟨shape, read, row, held, -⟩ := good.answers answer mem key served
  rcases without with wrong | missing
  · rw [wrong] at shape
    cases shape
  · obtain ⟨moment, past, there⟩ := held.held
    obtain ⟨now, kept, same⟩ := good.kept _ past row there
    exact missing now kept (same.trans held.hash)

end Claim

section Window

open Transition

def zeroToken : String :=
  "zcr_0000000000000000000000000000000000000000000000000000000000000000"

def zeroHash : String := "075e1d317e9fafe7db00c1aad3585e68028d7c4b3ceb4d954b462a291d57300c"

/-- The digest of one token. -/
def sha256 (token : String) : String := if token = zeroToken then zeroHash else dummyHash

/-- A key that expires ten seconds on. -/
def shortKey : KeyRecord where
  id := 1
  userId := 2
  keyHash := zeroHash
  disabled := false
  defaultPriority := some "cost"
  expiresAt := some (10 * 10 ^ 9)
  retentionPolicy := "zdr_only"

def shortIdentity : AuthenticatedKey where
  id := 1
  userId := 2
  defaultPriority := some .cost
  retentionPolicy := .zdrOnly

def begins (begun : Int) (stage : Stage) : Action := .advance ⟨zeroToken, begun, stage⟩

/-- A call that fills the cache at the start. -/
def filled : List Action :=
  [.authenticate zeroToken, begins 0 .lookup, begins 0 .query, begins 0 (.filter (some shortKey)),
    begins 0 (.clamp shortIdentity (some (10 * 10 ^ 9))),
    begins 0 (.write shortIdentity (10 * 10 ^ 9))]

/-- The last answer was served from the cache, at an instant. -/
def servedAt (given : Int) (world : World) : Bool :=
  match world.answers with
  | ⟨_, _, at_instant, true, .ok key⟩ :: _ => at_instant = given && key = shortIdentity
  | _ => false

theorem key_honoured_within_window_cached :
    ∃ world, Steps (step sha256) anyStep (.new 0 [shortKey]) world ∧
      servedAt (9 * 10 ^ 9) world = true ∧
      ∀ answer ∈ world.answers, ∀ key, answer.result = .ok key →
        ∃ read row, HeldAt world.past (sha256 answer.token) read row ∧
          answer.begun - cacheTtl ≤ read ∧ read ≤ answer.given ∧ row.authenticated = key ∧
          (answer.cached = true →
            ∀ deadline, row.expiresAt = some deadline → answer.begun < deadline) := by
  have runs : (runWhile (step sha256) anyStep (.new 0 [shortKey]) (filled ++
      [.tick (9 * 10 ^ 9), .authenticate zeroToken, begins (9 * 10 ^ 9) .lookup])).any
        (servedAt (9 * 10 ^ 9)) = true := by
    decide +kernel
  obtain ⟨world, run, served⟩ := Steps.exists_of_runWhile runs
  exact ⟨world, run, served, fun answer mem =>
    (key_honoured_within_window sha256 0 [shortKey] run answer mem).1⟩

/-- The key never was any but the one that lapses at this instant. -/
def lapsed (world : World) : Bool :=
  servedAt (10 * 10 ^ 9) world && world.past.all (·.2 = [shortKey])

/-- A call reads its clock a second before the key's expiry, and the cache only at the expiry. -/
theorem lapsed_key_served :
    shortKey.expiresAt = some (10 * 10 ^ 9) ∧
      ∃ world, Steps (step sha256) anyStep (.new 0 [shortKey]) world ∧ lapsed world = true := by
  have runs : (runWhile (step sha256) anyStep (.new 0 [shortKey]) (filled ++
      [.tick (9 * 10 ^ 9), .authenticate zeroToken, .tick (10 * 10 ^ 9),
        begins (9 * 10 ^ 9) .lookup])).any lapsed = true := by
    decide +kernel
  exact ⟨rfl, Steps.exists_of_runWhile runs⟩

end Window

end ZeroRouter.Auth
