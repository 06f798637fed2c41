import ZeroRouter.Lib.Journal

/-!
# Every run of disciplined writers keeps the balances explained

The invariant has a part for each transaction in flight: it has written and entered
only for the accounts it has locked, and what it sees of those is explained up to the
one movement it may still owe.  No key is held twice, so what one transaction commits
leaves what the others see alone.
-/

namespace Journal

open List

variable {ι κ ν τ : Type} {account : ι} {t : Txn ι κ ν τ} {txns : List (Txn ι κ ν τ)}
  {n nextId : Nat}

/-! ## What holds of a store and of each transaction in it -/

/-- No key is held twice. -/
def Apart (t o : Txn ι κ ν τ) : Prop := ∀ key ∈ t.locks, key ∉ o.locks

theorem Apart.symm {o : Txn ι κ ν τ} (h : Apart t o) : Apart o t :=
  fun key ho ht => h key ht ho

theorem pairwise_eraseIdx (h : txns[n]? = some t) :
    txns.Pairwise Apart ↔ (∀ o ∈ txns.eraseIdx n, Apart t o) ∧ (txns.eraseIdx n).Pairwise Apart := by
  obtain ⟨hn, rfl⟩ := List.getElem?_eq_some_iff.mp h
  have split : txns = txns.take n ++ txns[n] :: txns.drop (n + 1) := by simp
  rw [List.eraseIdx_eq_take_drop_succ]
  conv_lhs => rw [split]
  rw [List.pairwise_middle Apart.symm, List.pairwise_cons]

theorem mem_set {t' o : Txn ι κ ν τ} (h : o ∈ txns.set n t') : o = t' ∨ o ∈ txns.eraseIdx n := by
  rcases Nat.lt_or_ge n txns.length with hn | hn
  · rw [set_eq_take_append_cons_drop, if_pos hn] at h
    rw [eraseIdx_eq_take_drop_succ]
    simpa [or_left_comm] using h
  · rw [set_eq_of_length_le hn] at h
    rw [eraseIdx_of_length_le hn]
    exact .inr h

theorem pairwise_set {t' : Txn ι κ ν τ} (h : txns[n]? = some t)
    (others : (txns.eraseIdx n).Pairwise Apart) (apart : ∀ o ∈ txns.eraseIdx n, Apart t' o) :
    (txns.set n t').Pairwise Apart := by
  obtain ⟨hn, -⟩ := List.getElem?_eq_some_iff.mp h
  have here : (txns.set n t')[n]? = some t' := List.getElem?_set_self hn
  rw [pairwise_eraseIdx here, List.eraseIdx_set_eq]
  exact ⟨apart, others⟩

section Invariant

variable [DecidableEq ι]

@[simp] theorem value_start (program : Program ι κ ν τ) (balances : ι → Option ν) (account : ι) :
    (Txn.start program).value balances account = balances account := by
  simp [Txn.value, Txn.start]

theorem value_unwritten (h : ∀ w ∈ t.writes, w.1 ≠ account) (balances : ι → Option ν) :
    t.value balances account = balances account := by
  have unwritten : t.writes.find? (·.1 = account) = none := by simpa using h
  simp [Txn.value, unwritten]

section Statements

variable [AddCommGroup ν] [LinearOrder ν]

/-- What an entry records: something the table admits, and a debt only under its tag. -/
def Admitted (valid : Entry ι ν τ → Bool) (debt : τ → Prop) (entry : Entry ι ν τ) : Prop :=
  valid entry = true ∧ (entry.balanceAfter < 0 → entry.amount < 0 → debt entry.tag)

/-- The account's balance is explained, as the transaction sees both. -/
def Txn.Explained (t : Txn ι κ ν τ) (balances : ι → Option ν) (log : List (Entry ι ν τ))
    (account : ι) : Prop :=
  Explains 0 (entriesOf (log ++ t.rows) account) ((t.value balances account).getD 0)

/-- What is so of the accounts a transaction holds, by what it has yet to enter. -/
def Txn.Meets (lockOf : ι → κ) (t : Txn ι κ ν τ) (balances : ι → Option ν)
    (log : List (Entry ι ν τ)) : Pending ι ν → Prop
  | .clear known =>
      (∀ account, lockOf account ∈ t.locks → t.Explained balances log account) ∧
        ∀ account balance, known = some (account, balance) →
          lockOf account ∈ t.locks ∧ t.value balances account = some balance
  | .owes account amount balanceAfter =>
      lockOf account ∈ t.locks ∧ t.value balances account = some balanceAfter ∧
        (∃ old, Explains 0 (entriesOf (log ++ t.rows) account) old ∧ balanceAfter = old + amount) ∧
        (∀ other, other ≠ account → lockOf other ∈ t.locks → t.Explained balances log other) ∧
        (balanceAfter < 0 → amount < 0 → t.reversal = true)

/-- A transaction in flight keeps to the accounts it has locked, numbers its entries
    above the committed ones, and has a disciplined program to run. -/
structure Txn.Sound (lockOf : ι → κ) (valid : Entry ι ν τ → Bool) (debt : τ → Prop)
    (t : Txn ι κ ν τ) (balances : ι → Option ν) (log : List (Entry ι ν τ)) (nextId : Nat) :
    Prop where
  writesHeld : ∀ w ∈ t.writes, lockOf w.1 ∈ t.locks
  rowsHeld : ∀ entry ∈ t.rows, lockOf entry.account ∈ t.locks
  numbered : ∀ account, lockOf account ∈ t.locks → Numbered (entriesOf (log ++ t.rows) account)
  fresh : ∀ entry ∈ t.rows, entry.id < nextId
  admitted : ∀ entry ∈ t.rows, Admitted valid debt entry
  disciplined : ∃ pending, Disciplined lockOf debt t.program t.locks t.reversal pending ∧
    t.Meets lockOf balances log pending

/-- The invariant of a store whose writers are disciplined. -/
structure Inv (lockOf : ι → κ) (valid : Entry ι ν τ → Bool) (debt : τ → Prop)
    (s : Store ι κ ν τ) : Prop where
  explained : ∀ account, Explains 0 (entriesOf s.log account) ((s.balances account).getD 0)
  numbered : ∀ account, Numbered (entriesOf s.log account)
  fresh : ∀ entry ∈ s.log, entry.id < s.nextId
  admitted : ∀ entry ∈ s.log, Admitted valid debt entry
  sound : ∀ t ∈ s.txns, t.Sound lockOf valid debt s.balances s.log s.nextId
  apart : s.txns.Pairwise Apart

end Statements

variable {lockOf : ι → κ} {valid : Entry ι ν τ → Bool} {debt : τ → Prop}

section Agreement

variable [AddCommGroup ν]

/-- `log'` and `balances'` tell of an account what `log` and `balances` told; an account
    may have been opened. -/
structure Agrees (balances balances' : ι → Option ν) (log log' : List (Entry ι ν τ))
    (account : ι) : Prop where
  entries : entriesOf log' account = entriesOf log account
  balance : balances' account = balances account ∨
    balances account = none ∧ balances' account = some 0

theorem Agrees.refl (balances : ι → Option ν) (log : List (Entry ι ν τ)) (account : ι) :
    Agrees balances balances log log account :=
  ⟨rfl, .inl rfl⟩

variable {t : Txn ι κ ν τ} {balances balances' : ι → Option ν} {log log' : List (Entry ι ν τ)}
  {account : ι}

theorem Agrees.getD (h : Agrees balances balances' log log' account) :
    (t.value balances' account).getD 0 = (t.value balances account).getD 0 := by
  unfold Txn.value
  rcases h.balance with same | ⟨before, after⟩
  · rw [same]
  · rw [before, after]
    cases (t.writes.find? (·.1 = account)).map (·.2) <;> rfl

theorem Agrees.value_some (h : Agrees balances balances' log log' account) {balance : ν}
    (held : t.value balances account = some balance) :
    t.value balances' account = some balance := by
  unfold Txn.value at held ⊢
  rcases h.balance with same | ⟨before, -⟩
  · rwa [same]
  · rw [before, Option.or_none] at held
    rw [held, Option.some_or]

theorem Agrees.rows (h : Agrees balances balances' log log' account) :
    entriesOf (log' ++ t.rows) account = entriesOf (log ++ t.rows) account := by
  rw [entriesOf_append, h.entries, entriesOf_append]

theorem Agrees.explained (h : Agrees balances balances' log log' account)
    (held : t.Explained balances log account) : t.Explained balances' log' account := by
  unfold Txn.Explained at held ⊢
  rwa [h.rows, h.getD]

end Agreement

variable [AddCommGroup ν] [LinearOrder ν]

/-- What others do leaves a transaction sound if it leaves the accounts it holds alone. -/
theorem Txn.Sound.agree {balances balances' : ι → Option ν} {log log' : List (Entry ι ν τ)}
    {nextId' : Nat} (h : t.Sound lockOf valid debt balances log nextId)
    (agrees : ∀ account, lockOf account ∈ t.locks → Agrees balances balances' log log' account)
    (later : nextId ≤ nextId') : t.Sound lockOf valid debt balances' log' nextId' where
  writesHeld := h.writesHeld
  rowsHeld := h.rowsHeld
  numbered account held := by
    rw [(agrees account held).rows]
    exact h.numbered account held
  fresh entry hentry := Nat.lt_of_lt_of_le (h.fresh entry hentry) later
  admitted := h.admitted
  disciplined := by
    obtain ⟨pending, hpending, hmeets⟩ := h.disciplined
    refine ⟨pending, hpending, ?_⟩
    cases pending with
    | clear known =>
        obtain ⟨explained, current⟩ := hmeets
        refine ⟨fun account held => (agrees account held).explained (explained account held), ?_⟩
        intro account balance hknown
        obtain ⟨held, value⟩ := current account balance hknown
        exact ⟨held, (agrees account held).value_some value⟩
    | owes account amount balanceAfter =>
        obtain ⟨held, value, ⟨old, hold, hafter⟩, rest, down⟩ := hmeets
        refine ⟨held, (agrees account held).value_some value, ⟨old, ?_, hafter⟩, ?_, down⟩
        · rwa [(agrees account held).rows]
        · intro other hne hother
          exact (agrees other hother).explained (rest other hne hother)

/-! ## Every step keeps the invariant -/

section Steps

variable {s s' : Store ι κ ν τ} {n : Nat} {t t' : Txn ι κ ν τ}

/-- A transaction moved on, alone: nothing committed changed. -/
theorem Inv.put (h : Inv lockOf valid debt s) (at_n : s.txns[n]? = some t)
    (later : s.nextId ≤ nextId) (apart : ∀ o ∈ s.others n, Apart t' o)
    (sound : t'.Sound lockOf valid debt s.balances s.log nextId) :
    Inv lockOf valid debt ({ s with nextId }.put n t') where
  explained := h.explained
  numbered := h.numbered
  fresh entry hentry := Nat.lt_of_lt_of_le (h.fresh entry hentry) later
  admitted := h.admitted
  sound o ho := by
    rcases mem_set ho with rfl | ho
    · exact sound
    · exact (h.sound o (mem_of_mem_eraseIdx ho)).agree
        (fun account _ => .refl s.balances s.log account) later
  apart := pairwise_set at_n ((pairwise_eraseIdx at_n).mp h.apart).2 apart

/-- A transaction ended without committing. -/
theorem Inv.drop (h : Inv lockOf valid debt s) (later : s.nextId ≤ nextId) :
    Inv lockOf valid debt ({ s with nextId }.drop n) where
  explained := h.explained
  numbered := h.numbered
  fresh entry hentry := Nat.lt_of_lt_of_le (h.fresh entry hentry) later
  admitted := h.admitted
  sound o ho := (h.sound o (mem_of_mem_eraseIdx ho)).agree
    (fun account _ => .refl s.balances s.log account) later
  apart := h.apart.sublist (eraseIdx_sublist _ _)

/-- The accounts another transaction holds are not the committing one's to touch. -/
theorem Txn.Sound.untouched (h : t.Sound lockOf valid debt s.balances s.log s.nextId)
    (free : lockOf account ∉ t.locks) :
    Agrees s.balances (t.value s.balances) s.log (s.log ++ t.rows) account where
  entries := by
    have none_own : entriesOf t.rows account = [] := by
      apply entriesOf_eq_nil
      rintro entry hentry rfl
      exact free (h.rowsHeld entry hentry)
    rw [entriesOf_append, none_own, append_nil]
  balance := by
    apply Or.inl
    apply value_unwritten
    rintro w hw rfl
    exact free (h.writesHeld w hw)

/-- An account a transaction has not locked, it sees as committed. -/
theorem Inv.explained_free (h : Inv lockOf valid debt s)
    (sound : t.Sound lockOf valid debt s.balances s.log s.nextId)
    (free : lockOf account ∉ t.locks) : t.Explained s.balances s.log account := by
  have agrees := sound.untouched free
  unfold Txn.Explained
  rw [agrees.entries]
  rcases agrees.balance with same | ⟨before, after⟩
  · rw [same]
    exact h.explained account
  · rw [after]
    simpa [before] using h.explained account

theorem Inv.numbered_rows (h : Inv lockOf valid debt s)
    (sound : t.Sound lockOf valid debt s.balances s.log s.nextId) (account : ι) :
    Numbered (entriesOf (s.log ++ t.rows) account) := by
  by_cases held : lockOf account ∈ t.locks
  · exact sound.numbered account held
  · rw [(sound.untouched held).entries]
    exact h.numbered account

/-- A transaction that owes nothing sees every balance explained. -/
theorem Inv.explained_clear (h : Inv lockOf valid debt s)
    (sound : t.Sound lockOf valid debt s.balances s.log s.nextId)
    {known : Option (ι × ν)} (hmeets : t.Meets lockOf s.balances s.log (.clear known))
    (account : ι) : t.Explained s.balances s.log account := by
  by_cases held : lockOf account ∈ t.locks
  · exact hmeets.1 account held
  · exact h.explained_free sound held

/-- A sound transaction with nothing owed commits. -/
theorem Inv.commit (h : Inv lockOf valid debt s) (at_n : s.txns[n]? = some t)
    (program : t.program = .commit) :
    Inv lockOf valid debt
      { s.drop n with balances := t.value s.balances, log := s.log ++ t.rows } := by
  have sound := h.sound t (mem_of_getElem? at_n)
  obtain ⟨pending, hpending, hmeets⟩ := sound.disciplined
  rw [program] at hpending
  cases hpending
  obtain ⟨apart, others⟩ := (pairwise_eraseIdx at_n).mp h.apart
  constructor
  case explained => exact h.explained_clear sound hmeets
  case numbered => exact h.numbered_rows sound
  case fresh =>
    intro entry hentry
    rcases mem_append.mp hentry with old | new
    · exact h.fresh entry old
    · exact sound.fresh entry new
  case admitted =>
    intro entry hentry
    rcases mem_append.mp hentry with old | new
    · exact h.admitted entry old
    · exact sound.admitted entry new
  case sound =>
    intro o ho
    apply (h.sound o (mem_of_mem_eraseIdx ho)).agree
    · intro account held
      exact sound.untouched fun mine => apart o ho _ mine held
    · exact Nat.le_refl _
  case apart => exact others

/-- A transaction moves on with its writes and entries as they are, and no less locked. -/
theorem Txn.Sound.proceed (h : Inv lockOf valid debt s)
    (sound : t.Sound lockOf valid debt s.balances s.log s.nextId)
    (writes : t'.writes = t.writes) (rows : t'.rows = t.rows) (locks : t.locks ⊆ t'.locks)
    {pending : Pending ι ν}
    (hpending : Disciplined lockOf debt t'.program t'.locks t'.reversal pending)
    (hmeets : t'.Meets lockOf s.balances s.log pending) :
    t'.Sound lockOf valid debt s.balances s.log s.nextId where
  writesHeld w hw := locks (sound.writesHeld w (writes ▸ hw))
  rowsHeld entry hentry := locks (sound.rowsHeld entry (rows ▸ hentry))
  numbered account _ := by
    rw [rows]
    exact h.numbered_rows sound account
  fresh entry hentry := sound.fresh entry (rows ▸ hentry)
  admitted entry hentry := sound.admitted entry (rows ▸ hentry)
  disciplined := ⟨pending, hpending, hmeets⟩

/-- A movement the trigger let pass, its entry owed. -/
theorem Txn.Sound.update [IsOrderedAddMonoid ν]
    (sound : t.Sound lockOf valid debt s.balances s.log s.nextId) {old new : ν}
    {known : Option (ι × ν)} {next : Program ι κ ν τ} (held : lockOf account ∈ t.locks)
    (hmeets : t.Meets lockOf s.balances s.log (.clear known))
    (value : t.value s.balances account = some old)
    (allowed : overdraws t.reversal old new = false)
    (hnext : Disciplined lockOf debt next t.locks t.reversal (.owes account (new - old) new)) :
    Txn.Sound lockOf valid debt
      { t with program := next, writes := (account, new) :: t.writes }
      s.balances s.log s.nextId where
  writesHeld w hw := by
    rcases mem_cons.mp hw with rfl | hw
    · exact held
    · exact sound.writesHeld w hw
  rowsHeld := sound.rowsHeld
  numbered := sound.numbered
  fresh := sound.fresh
  admitted := sound.admitted
  disciplined := by
    refine ⟨_, hnext, held, by simp [Txn.value], ⟨old, ?_, (add_sub_cancel old new).symm⟩, ?_, ?_⟩
    · have explained := hmeets.1 account held
      rw [Txn.Explained, value] at explained
      exact explained
    · intro other hne hother
      have explained := hmeets.1 other hother
      rw [Txn.Explained] at explained ⊢
      simpa [Txn.value, hne.symm] using explained
    · intro negative down
      by_contra undeclared
      have up : t.reversal = false → old ≤ new := by simpa [overdraws, negative] using allowed
      exact absurd (sub_neg.mp down) (not_lt.mpr (up (by simpa using undeclared)))

/-- The owed movement is entered. -/
theorem Txn.Sound.insert (h : Inv lockOf valid debt s)
    (sound : t.Sound lockOf valid debt s.balances s.log s.nextId) {amount balanceAfter : ν}
    {tag : τ} {next : Program ι κ ν τ}
    (hmeets : t.Meets lockOf s.balances s.log (.owes account amount balanceAfter))
    (admits : valid { id := s.nextId, account, amount, balanceAfter, tag } = true)
    (tagged : t.reversal = true → amount < 0 → debt tag)
    (hnext : Disciplined lockOf debt next t.locks t.reversal (.clear none)) :
    Txn.Sound lockOf valid debt
      { t with
        program := next
        rows := t.rows ++ [{ id := s.nextId, account, amount, balanceAfter, tag }] }
      s.balances s.log (s.nextId + 1) := by
  obtain ⟨held, value, ⟨old, hold, hafter⟩, rest, down⟩ := hmeets
  constructor
  case writesHeld => exact sound.writesHeld
  case rowsHeld =>
    intro entry hentry
    rcases mem_append.mp hentry with before | here
    · exact sound.rowsHeld entry before
    · obtain rfl := mem_singleton.mp here
      exact held
  case numbered =>
    intro other hother
    rw [← append_assoc, entriesOf_append]
    apply pairwise_append.mpr
    refine ⟨h.numbered_rows sound other, ?_, ?_⟩
    · exact (pairwise_singleton _ _).filter _
    · intro before hbefore here hhere
      obtain rfl := mem_singleton.mp (mem_entriesOf.mp hhere).1
      rcases mem_append.mp (mem_entriesOf.mp hbefore).1 with committed | own
      · exact h.fresh before committed
      · exact sound.fresh before own
  case fresh =>
    intro entry hentry
    rcases mem_append.mp hentry with before | here
    · exact Nat.lt_succ_of_lt (sound.fresh entry before)
    · obtain rfl := mem_singleton.mp here
      exact Nat.lt_succ_self _
  case admitted =>
    intro entry hentry
    rcases mem_append.mp hentry with before | here
    · exact sound.admitted entry before
    · obtain rfl := mem_singleton.mp here
      exact ⟨admits, fun negative taken => tagged (down negative taken) taken⟩
  case disciplined =>
    refine ⟨.clear none, hnext, ?_, by simp⟩
    intro other hother
    rw [Txn.Explained, ← append_assoc, entriesOf_append]
    by_cases same : other = account
    · subst same
      have here := entriesOf_singleton_self (τ := τ)
        { id := s.nextId, account := other, amount, balanceAfter, tag }
      rw [here, explains_snoc]
      exact ⟨old, hold, hafter, by simpa [Txn.value] using congrArg (Option.getD · 0) value⟩
    · rw [entriesOf_singleton_ne (Ne.symm same), append_nil]
      exact rest other same hother

/-- A new account has no entries, and its balance is nothing. -/
theorem Inv.openAccount (h : Inv lockOf valid debt s) (absent : s.balances account = none) :
    Inv lockOf valid debt { s with balances := Function.update s.balances account (some 0) } := by
  have agrees : ∀ other, Agrees s.balances (Function.update s.balances account (some 0))
      s.log s.log other := by
    intro other
    by_cases same : other = account
    · subst same
      exact ⟨rfl, .inr ⟨absent, by simp⟩⟩
    · exact ⟨rfl, .inl (Function.update_of_ne same _ _)⟩
  constructor
  case explained =>
    intro other
    dsimp only
    rcases (agrees other).balance with same | ⟨before, after⟩
    · rw [same]
      exact h.explained other
    · rw [after]
      simpa [before] using h.explained other
  case numbered => exact h.numbered
  case fresh => exact h.fresh
  case admitted => exact h.admitted
  case sound =>
    intro t ht
    exact (h.sound t ht).agree (fun other _ => agrees other) (Nat.le_refl _)
  case apart => exact h.apart

/-- A transaction that has done nothing is sound. -/
theorem Inv.begin (h : Inv lockOf valid debt s) {program : Program ι κ ν τ}
    (disciplined : Disciplined lockOf debt program [] false (.clear none)) :
    Inv lockOf valid debt { s with txns := s.txns ++ [.start program] } where
  explained := h.explained
  numbered := h.numbered
  fresh := h.fresh
  admitted := h.admitted
  sound t ht := by
    rcases mem_append.mp ht with running | begun
    · exact h.sound t running
    · obtain rfl := mem_singleton.mp begun
      exact {
        writesHeld := by simp [Txn.start]
        rowsHeld := by simp [Txn.start]
        numbered := by simp [Txn.start]
        fresh := by simp [Txn.start]
        admitted := by simp [Txn.start]
        disciplined := ⟨.clear none, disciplined, by simp [Txn.Meets, Txn.start]⟩ }
  apart := by
    apply pairwise_append.mpr
    exact ⟨h.apart, pairwise_singleton _ _, by simp [Apart, Txn.start]⟩

/-- Nothing has happened: every balance is zero and nothing is entered or under way. -/
structure Opening (s : Store ι κ ν τ) : Prop where
  zero : ∀ account balance, s.balances account = some balance → balance = 0
  log : s.log = []
  txns : s.txns = []

theorem Opening.inv (h : Opening s) : Inv lockOf valid debt s where
  explained account := by
    rw [h.log]
    show (s.balances account).getD 0 = 0
    cases hbalance : s.balances account with
    | none => rfl
    | some balance => exact h.zero account balance hbalance
  numbered account := by
    rw [h.log]
    exact List.Pairwise.nil
  fresh := by simp [h.log]
  admitted := by simp [h.log]
  sound := by simp [h.txns]
  apart := by simp [h.txns]

variable [DecidableEq κ] {ω : Type} {writers : ω → Program ι κ ν τ}

/-- No step changes or removes a committed entry. -/
theorem log_prefix_of_step {action : Action ι ω}
    (stepped : step valid writers s action = some s') : s.log <+: s'.log := by
  cases action with
  | openAccount account =>
      simp only [Journal.step] at stepped
      split at stepped
      · obtain rfl := Option.some.inj stepped
        exact prefix_refl _
      · cases stepped
  | begin_ writer =>
      obtain rfl := Option.some.inj stepped
      exact prefix_refl _
  | exec n =>
      obtain ⟨t, -, ran⟩ := Option.bind_eq_some_iff.mp stepped
      unfold Store.exec at ran
      dsimp only at ran
      repeat' split at ran
      all_goals cases ran
      all_goals first
        | exact prefix_append _ _
        | exact prefix_refl _
  | abort n =>
      obtain ⟨t, -, rfl⟩ := Option.map_eq_some_iff.mp stepped
      exact prefix_refl _

theorem log_prefix_of_run {C : Store ι κ ν τ → Action ι ω → Prop}
    (run : Transition.Steps (step valid writers) C s s') : s.log <+: s'.log := by
  apply run.relate (R := fun s s' => s.log <+: s'.log)
  · intro s
    exact prefix_refl _
  · intro _ _ _ first second
    exact first.trans second
  · intro _ _ _ _ stepped
    exact log_prefix_of_step stepped

variable [IsOrderedAddMonoid ν]

/-- Each statement of a sound transaction keeps the invariant. -/
theorem Inv.exec (h : Inv lockOf valid debt s) (at_n : s.txns[n]? = some t)
    (ran : s.exec valid n t = some s') : Inv lockOf valid debt s' := by
  have sound := h.sound t (mem_of_getElem? at_n)
  have apart := ((pairwise_eraseIdx at_n).mp h.apart).1
  have same := Nat.le_refl s.nextId
  obtain ⟨pending, hpending, hmeets⟩ := sound.disciplined
  unfold Store.exec at ran
  split at ran
  next program =>
    obtain rfl := Option.some.inj ran
    exact h.commit at_n program
  next program =>
    obtain rfl := Option.some.inj ran
    exact h.drop same
  next key next program =>
    rw [program] at hpending
    cases hpending with
    | lock hnext =>
      split at ran
      · cases ran
      · next free =>
          obtain rfl := Option.some.inj ran
          apply h.put at_n same
          · intro o ho taken held hother
            rcases mem_cons.mp held with rfl | held
            · exact free (any_eq_true.mpr ⟨o, ho, by simpa using hother⟩)
            · exact apart o ho taken held hother
          · refine sound.proceed h rfl rfl (subset_cons_self _ _) hnext ?_
            refine ⟨fun account _ => h.explained_clear sound hmeets account, ?_⟩
            intro account balance hknown
            obtain ⟨held, value⟩ := hmeets.2 account balance hknown
            exact ⟨mem_cons_of_mem _ held, value⟩
  next next program =>
    rw [program] at hpending
    cases hpending with
    | declareReversal hnext =>
      obtain rfl := Option.some.inj ran
      exact h.put at_n same apart (sound.proceed h rfl rfl (List.Subset.refl _) hnext hmeets)
  next account next program =>
    rw [program] at hpending
    cases hpending with
    | read held found missing =>
      obtain rfl := Option.some.inj ran
      refine h.put at_n same apart ?_
      cases value : t.value s.balances account with
      | none =>
          exact sound.proceed h rfl rfl (List.Subset.refl _) missing ⟨hmeets.1, by simp⟩
      | some balance =>
          refine sound.proceed h rfl rfl (List.Subset.refl _) (found balance) ?_
          refine ⟨hmeets.1, ?_⟩
          rintro other amount ⟨⟩
          exact ⟨held, value⟩
  next account write next program =>
    rw [program] at hpending
    cases hpending with
    | update held moved missing =>
      have idle : Inv lockOf valid debt (s.put n { t with program := next none }) :=
        h.put at_n same apart (sound.proceed h rfl rfl (List.Subset.refl _) missing hmeets)
      split at ran
      · cases ran
      split at ran
      · obtain rfl := Option.some.inj ran
        exact idle
      next old value =>
        split at ran
        · obtain rfl := Option.some.inj ran
          exact idle
        next new written =>
          split at ran
          · obtain rfl := Option.some.inj ran
            exact h.drop same
          next allowed =>
            obtain rfl := Option.some.inj ran
            refine h.put at_n same apart ?_
            apply sound.update held hmeets value (by simpa using allowed)
            apply moved old new _ written
            rintro balance ⟨⟩
            have current := (hmeets.2 account balance rfl).2
            exact Option.some.inj (value.symm.trans current)
  next account amount balanceAfter tag next program =>
    rw [program] at hpending
    cases hpending with
    | insert tagged hnext =>
      have later := Nat.le_succ s.nextId
      dsimp only at ran
      split at ran
      · next admits =>
          obtain rfl := Option.some.inj ran
          exact h.put at_n later apart (sound.insert h hmeets admits tagged hnext)
      · obtain rfl := Option.some.inj ran
        exact h.drop later

theorem Inv.step (disciplined : ∀ writer, Disciplined lockOf debt (writers writer) [] false
      (.clear none)) {action : Action ι ω} (h : Inv lockOf valid debt s)
    (stepped : step valid writers s action = some s') : Inv lockOf valid debt s' := by
  cases action with
  | openAccount account =>
      simp only [Journal.step] at stepped
      split at stepped
      · next absent =>
          obtain rfl := Option.some.inj stepped
          exact h.openAccount absent
      · cases stepped
  | begin_ writer =>
      obtain rfl := Option.some.inj stepped
      exact h.begin (disciplined writer)
  | exec n =>
      obtain ⟨t, at_n, ran⟩ := Option.bind_eq_some_iff.mp stepped
      exact h.exec at_n ran
  | abort n =>
      obtain ⟨t, at_n, rfl⟩ := Option.map_eq_some_iff.mp stepped
      exact h.drop (Nat.le_refl _)

/-- What holds in every state of every run from nothing. -/
theorem inv_of_run (disciplined : ∀ writer, Disciplined lockOf debt (writers writer) [] false
      (.clear none)) {C : Store ι κ ν τ → Action ι ω → Prop} (opening : Opening s)
    (run : Transition.Steps (step valid writers) C s s') : Inv lockOf valid debt s' :=
  run.invariant opening.inv fun _ _ _ h _ stepped => h.step disciplined stepped

end Steps

end Invariant

end Journal
