import Mathlib.Algebra.Order.Group.Defs
import Mathlib.Data.List.Sort
import Mathlib.Logic.Function.Basic
import ZeroRouter.Lib.Run

/-!
# Balances explained by an append-only journal

Accounts carry a balance, and every movement of a balance is followed by a journal
entry that states the amount moved and the balance it left.  Transactions run
interleaved, statement by statement, at the isolation level "read committed": a
statement sees what is committed when it runs and its own transaction's writes.  A
transaction holds advisory locks until it ends; entry ids come from a sequence that
no rollback turns back.

A program is disciplined when it takes the account's lock before it reads or moves
the account's balance, and enters each movement, with the amount it made, before it
does anything else.  If every program is, each account's entries in id order explain
its balance in every reachable state.

The module names no particular accounts or programs.
-/

namespace Journal

variable {ι κ ν τ : Type}

/-- A journal entry; `tag` is whatever else it records. -/
structure Entry (ι ν τ : Type) where
  id : Nat
  account : ι
  amount : ν
  balanceAfter : ν
  tag : τ
  deriving DecidableEq, Repr

/-- What is left of a transaction to run.  An `update` finds no row when the account
    does not exist or `write` answers `none` for its balance. -/
inductive Program (ι κ ν τ : Type) where
  | commit
  | rollback
  | lock (key : κ) (next : Program ι κ ν τ)
  | declareReversal (next : Program ι κ ν τ)
  | read (account : ι) (next : Option ν → Program ι κ ν τ)
  | update (account : ι) (write : ν → Option ν) (next : Option ν → Program ι κ ν τ)
  | insert (account : ι) (amount balanceAfter : ν) (tag : τ) (next : Program ι κ ν τ)

/-- A transaction in flight, with the writes and entries only it can see. -/
structure Txn (ι κ ν τ : Type) where
  program : Program ι κ ν τ
  locks : List κ
  reversal : Bool
  writes : List (ι × ν)
  rows : List (Entry ι ν τ)

/-- The committed balances and journal, the entry sequence, and the transactions in
    flight. -/
structure Store (ι κ ν τ : Type) where
  balances : ι → Option ν
  log : List (Entry ι ν τ)
  nextId : Nat
  txns : List (Txn ι κ ν τ)

inductive Action (ι ω : Type) where
  /-- A new account, its balance zero. -/
  | openAccount (account : ι)
  | begin_ (writer : ω)
  | exec (n : Nat)
  /-- The connection is lost, or a statement times out. -/
  | abort (n : Nat)
  deriving DecidableEq, Repr

/-- A fresh transaction. -/
def Txn.start (program : Program ι κ ν τ) : Txn ι κ ν τ where
  program := program
  locks := []
  reversal := false
  writes := []
  rows := []

section Semantics

variable [DecidableEq ι] [DecidableEq κ] [LinearOrder ν] [Zero ν]

/-- A balance as a transaction sees it. -/
def Txn.value (t : Txn ι κ ν τ) (balances : ι → Option ν) (account : ι) : Option ν :=
  ((t.writes.find? (·.1 = account)).map (·.2)).or (balances account)

/-- A write that carries a balance down into or within the negative is refused unless
    its transaction declared a reversal. -/
def overdraws (reversal : Bool) (old new : ν) : Bool := new < 0 && !reversal && new < old

namespace Store

def put (s : Store ι κ ν τ) (n : Nat) (t : Txn ι κ ν τ) : Store ι κ ν τ :=
  { s with txns := s.txns.set n t }

def drop (s : Store ι κ ν τ) (n : Nat) : Store ι κ ν τ := { s with txns := s.txns.eraseIdx n }

/-- The transactions but the `n`th. -/
def others (s : Store ι κ ν τ) (n : Nat) : List (Txn ι κ ν τ) := s.txns.eraseIdx n

/-- The next statement of a transaction; `none` while it waits for a lock another holds.
    `valid` is what the journal's table checks of an entry. -/
def exec (valid : Entry ι ν τ → Bool) (s : Store ι κ ν τ) (n : Nat) (t : Txn ι κ ν τ) :
    Option (Store ι κ ν τ) :=
  match t.program with
  | .commit =>
      some { s.drop n with balances := t.value s.balances, log := s.log ++ t.rows }
  | .rollback => some (s.drop n)
  | .lock key next =>
      if (s.others n).any fun other => key ∈ other.locks then none
      else some (s.put n { t with program := next, locks := key :: t.locks })
  | .declareReversal next => some (s.put n { t with program := next, reversal := true })
  | .read account next => some (s.put n { t with program := next (t.value s.balances account) })
  | .update account write next =>
      if (s.others n).any fun other => other.writes.any (·.1 = account) then none
      else
        match t.value s.balances account with
        | none => some (s.put n { t with program := next none })
        | some old =>
            match write old with
            | none => some (s.put n { t with program := next none })
            | some new =>
                if overdraws t.reversal old new then some (s.drop n)
                else some (s.put n
                  { t with program := next (some new), writes := (account, new) :: t.writes })
  | .insert account amount balanceAfter tag next =>
      let entry : Entry ι ν τ := { id := s.nextId, account, amount, balanceAfter, tag }
      let advanced := { s with nextId := s.nextId + 1 }
      if valid entry then
        some (advanced.put n { t with program := next, rows := t.rows ++ [entry] })
      else some (advanced.drop n)

end Store

/-- One step of the store; `writers` are the programs that may be begun. -/
def step {ω : Type} (valid : Entry ι ν τ → Bool) (writers : ω → Program ι κ ν τ)
    (s : Store ι κ ν τ) : Action ι ω → Option (Store ι κ ν τ)
  | .openAccount account =>
      match s.balances account with
      | none => some { s with balances := Function.update s.balances account (some 0) }
      | some _ => none
  | .begin_ writer => some { s with txns := s.txns ++ [.start (writers writer)] }
  | .exec n => (s.txns[n]?).bind (s.exec valid n)
  | .abort n => (s.txns[n]?).map fun _ => s.drop n

end Semantics

/-! ## What a disciplined program does -/

/-- What a transaction has yet to enter: nothing, the balance it may have read being
    current, or the movement it just made. -/
inductive Pending (ι ν : Type) where
  | clear (known : Option (ι × ν))
  | owes (account : ι) (amount balanceAfter : ν)

/-- The discipline: locks before balances, each movement entered as it was made, and
    an amount taken under a declared reversal entered under a tag for `debt`. -/
inductive Disciplined [Sub ν] [Zero ν] [LT ν] (lockOf : ι → κ) (debt : τ → Prop) :
    Program ι κ ν τ → List κ → Bool → Pending ι ν → Prop where
  | commit {locks reversal known} : Disciplined lockOf debt .commit locks reversal (.clear known)
  | rollback {locks reversal pending} : Disciplined lockOf debt .rollback locks reversal pending
  | lock {key next locks reversal known}
      (rest : Disciplined lockOf debt next (key :: locks) reversal (.clear known)) :
      Disciplined lockOf debt (.lock key next) locks reversal (.clear known)
  | declareReversal {next locks reversal known}
      (rest : Disciplined lockOf debt next locks true (.clear known)) :
      Disciplined lockOf debt (.declareReversal next) locks reversal (.clear known)
  | read {account next locks reversal known} (held : lockOf account ∈ locks)
      (found : ∀ balance, Disciplined lockOf debt (next (some balance)) locks reversal
        (.clear (some (account, balance))))
      (missing : Disciplined lockOf debt (next none) locks reversal (.clear none)) :
      Disciplined lockOf debt (.read account next) locks reversal (.clear known)
  | update {account write next locks reversal known} (held : lockOf account ∈ locks)
      (moved : ∀ old new, (∀ balance, known = some (account, balance) → old = balance) →
        write old = some new →
        Disciplined lockOf debt (next (some new)) locks reversal (.owes account (new - old) new))
      (missing : Disciplined lockOf debt (next none) locks reversal (.clear known)) :
      Disciplined lockOf debt (.update account write next) locks reversal (.clear known)
  | insert {account amount balanceAfter tag next locks reversal}
      (tagged : reversal = true → amount < 0 → debt tag)
      (rest : Disciplined lockOf debt next locks reversal (.clear none)) :
      Disciplined lockOf debt (.insert account amount balanceAfter tag next) locks reversal
        (.owes account amount balanceAfter)

/-! ## What the entries explain -/

/-- The entries carry a balance from `start` to `final`, each stating what it left. -/
def Explains [Add ν] (start : ν) : List (Entry ι ν τ) → ν → Prop
  | [], final => final = start
  | entry :: rest, final =>
      entry.balanceAfter = start + entry.amount ∧ Explains entry.balanceAfter rest final

theorem explains_snoc [Add ν] {start final : ν} {rows : List (Entry ι ν τ)}
    {entry : Entry ι ν τ} :
    Explains start (rows ++ [entry]) final ↔
      ∃ old, Explains start rows old ∧ entry.balanceAfter = old + entry.amount ∧
        final = entry.balanceAfter := by
  induction rows generalizing start with
  | nil => simp [Explains]
  | cons first rest ih =>
      simp only [List.cons_append, Explains, ih]
      constructor
      · rintro ⟨hfirst, old, hold, hentry⟩
        exact ⟨old, ⟨hfirst, hold⟩, hentry⟩
      · rintro ⟨old, ⟨hfirst, hold⟩, hentry⟩
        exact ⟨hfirst, old, hold, hentry⟩

/-- What the first `n` entries left. -/
def standing (start : ν) (rows : List (Entry ι ν τ)) : Nat → ν
  | 0 => start
  | n + 1 => ((rows[n]?).map Entry.balanceAfter).getD start

theorem standing_cons {start : ν} {first : Entry ι ν τ} {rest : List (Entry ι ν τ)} {n : Nat}
    (h : n ≤ rest.length) :
    standing start (first :: rest) (n + 1) = standing first.balanceAfter rest n := by
  cases n with
  | zero => rfl
  | succ n => simp [standing, List.getElem?_eq_getElem h]

/-- Each entry adds its amount to what the entries before it left. -/
theorem Explains.standing_succ [Add ν] {rows : List (Entry ι ν τ)} {start final : ν}
    (h : Explains start rows final) {n : Nat} {entry : Entry ι ν τ}
    (hn : rows[n]? = some entry) :
    standing start rows (n + 1) = standing start rows n + entry.amount := by
  induction rows generalizing start n with
  | nil => simp at hn
  | cons first rest ih =>
      cases n with
      | zero =>
          obtain rfl : first = entry := by simpa using hn
          exact h.1
      | succ n =>
          have hlt : n < rest.length := by
            simpa using (List.getElem?_eq_some_iff.mp hn).choose
          rw [standing_cons hlt, standing_cons (Nat.le_of_lt hlt)]
          apply ih h.2
          simpa using hn

/-- All the entries leave the final balance. -/
theorem Explains.standing_length [Add ν] {rows : List (Entry ι ν τ)} {start final : ν}
    (h : Explains start rows final) : standing start rows rows.length = final := by
  induction rows generalizing start with
  | nil => exact Eq.symm h
  | cons first rest ih =>
      rw [List.length_cons, standing_cons (Nat.le_refl _)]
      exact ih h.2

/-- An account's entries, in the order they are held. -/
def entriesOf [DecidableEq ι] (rows : List (Entry ι ν τ)) (account : ι) : List (Entry ι ν τ) :=
  rows.filter fun entry => entry.account = account

section Entries

variable [DecidableEq ι]

@[simp] theorem entriesOf_nil (account : ι) :
    entriesOf ([] : List (Entry ι ν τ)) account = [] := rfl

@[simp] theorem entriesOf_append (rows more : List (Entry ι ν τ)) (account : ι) :
    entriesOf (rows ++ more) account = entriesOf rows account ++ entriesOf more account := by
  simp [entriesOf]

@[simp] theorem entriesOf_singleton_self (entry : Entry ι ν τ) :
    entriesOf [entry] entry.account = [entry] := by
  simp [entriesOf]

theorem entriesOf_singleton_ne {entry : Entry ι ν τ} {account : ι} (h : entry.account ≠ account) :
    entriesOf [entry] account = [] := by
  simp [entriesOf, h]

theorem entriesOf_eq_nil {rows : List (Entry ι ν τ)} {account : ι}
    (h : ∀ entry ∈ rows, entry.account ≠ account) : entriesOf rows account = [] := by
  simpa [entriesOf] using h

theorem mem_entriesOf {rows : List (Entry ι ν τ)} {account : ι} {entry : Entry ι ν τ} :
    entry ∈ entriesOf rows account ↔ entry ∈ rows ∧ entry.account = account := by
  simp [entriesOf]

end Entries

/-- Ids increase along the entries. -/
def Numbered (rows : List (Entry ι ν τ)) : Prop := rows.Pairwise fun a b => a.id < b.id

/-- Entries in id order are the entries as held. -/
theorem Numbered.mergeSort {rows : List (Entry ι ν τ)} (h : Numbered rows) :
    rows.mergeSort (fun a b => a.id ≤ b.id) = rows :=
  List.mergeSort_of_pairwise (h.imp fun hab => by simpa using Nat.le_of_lt hab)

end Journal
