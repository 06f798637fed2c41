import ZeroRouter.Lib.Run
import Mathlib.Logic.Function.Basic

/-!
# Transactions under READ COMMITTED

A transaction is a program of statements: take a row's lock, read, write, and at last
commit or give up.  A read sees what is committed at that moment, under the
transaction's own writes; a lock that another transaction holds is waited for, and is
kept until the transaction ends; the writes reach the database together, at the
commit.

Two rules are proved of every interleaving.  The first is rely and guarantee: a
program is `Sound` when its commit is one it may make whatever the others do to the
rows it has not locked, and sound programs together keep the database's invariant.  The
second is about what a transaction sees: a `Blind` program goes on in the same way over
two databases that differ only in what it may not see.

The module names no database and no transaction of any particular program.
-/

namespace ReadCommitted

open Transition Option

variable {ι κ D α : Type}

/-- What is left of a transaction. -/
inductive Program (κ D α : Type) where
  | lock (row : κ) (next : Program κ D α)
  | read (next : D → Program κ D α)
  | write (change : D → D) (next : Program κ D α)
  | commit (answer : α)
  | refuse (answer : α)

/-- Take the locks of several rows, one after the other. -/
def Program.lockAll (rows : List κ) (next : Program κ D α) : Program κ D α :=
  rows.foldr .lock next

/-- A transaction under way: the locks it holds and the writes it has not committed. -/
structure Session (ι κ D α : Type) where
  operation : ι
  held : List κ
  writes : D → D
  rest : Program κ D α

/-- The committed database, the transactions under way, and which of them holds each
    lock. -/
structure State (ι κ D α : Type) where
  db : D
  session : Nat → Option (Session ι κ D α)
  owner : κ → Option Nat

inductive Action (ι : Type) where
  | begin_ (who : Nat) (operation : ι)
  | advance (who : Nat)
  /-- The connection is lost, or the database refuses to go on. -/
  | abort (who : Nat)
  deriving DecidableEq, Repr

/-- A database with no transaction under way. -/
def State.idle (db : D) : State ι κ D α where
  db := db
  session _ := none
  owner _ := none

namespace State

variable (s : State ι κ D α) {who other : Nat} {session : Session ι κ D α} {row : κ} {db : D}

/-- A transaction goes on. -/
def resume (who : Nat) (session : Session ι κ D α) : State ι κ D α :=
  { s with session := Function.update s.session who (some session) }

/-- A transaction is over: its locks are free. -/
def finish (who : Nat) (db : D) : State ι κ D α where
  db := db
  session := Function.update s.session who none
  owner row := if s.owner row = some who then none else s.owner row

/-- A transaction goes on with a row's lock. -/
def grant [DecidableEq κ] (who : Nat) (row : κ) (session : Session ι κ D α) :
    State ι κ D α :=
  { s.resume who session with owner := Function.update s.owner row (some who) }

/-- The next statement of a transaction; `none` while it waits. -/
def advance [DecidableEq κ] (who : Nat) (session : Session ι κ D α) :
    Option (State ι κ D α) :=
  match session.rest with
  | .lock row next =>
      if s.owner row = none ∨ s.owner row = some who then
        some (s.grant who row { session with held := row :: session.held, rest := next })
      else none
  | .read next => some (s.resume who { session with rest := next (session.writes s.db) })
  | .write change next =>
      some (s.resume who { session with writes := change ∘ session.writes, rest := next })
  | .commit _ => some (s.finish who (session.writes s.db))
  | .refuse _ => some (s.finish who s.db)

variable {s}

@[simp]
theorem resume_db : (s.resume who session).db = s.db :=
  rfl

@[simp]
theorem resume_self :
    (s.resume who session).session who = some session := by
  simp [resume]

@[simp]
theorem resume_other (ne : other ≠ who) :
    (s.resume who session).session other = s.session other := by
  simp [resume, ne]

@[simp]
theorem finish_db : (s.finish who db).db = db :=
  rfl

@[simp]
theorem finish_self : (s.finish who db).session who = none := by
  simp [finish]

@[simp]
theorem finish_other (ne : other ≠ who) :
    (s.finish who db).session other = s.session other := by
  simp [finish, ne]

theorem finish_owner (ne : other ≠ who) (held : s.owner row = some other) :
    (s.finish who db).owner row = some other := by
  show (if s.owner row = some who then none else s.owner row) = some other
  have free : s.owner row ≠ some who := by
    rw [held]
    intro same
    exact ne (Option.some.inj same)
  rw [if_neg free, held]

variable [DecidableEq κ]

@[simp]
theorem grant_db :
    (s.grant who row session).db = s.db :=
  rfl

theorem grant_session :
    (s.grant who row session).session = (s.resume who session).session :=
  rfl

theorem grant_owner_self :
    (s.grant who row session).owner row = some who := by
  simp [grant]

theorem grant_owner_other {key : κ} (ne : key ≠ row) :
    (s.grant who row session).owner key = s.owner key := by
  simp [grant, resume, ne]

end State

/-- One step of the system whose transactions run `program`. -/
def step [DecidableEq κ] (program : ι → Program κ D α) (s : State ι κ D α) :
    Action ι → Option (State ι κ D α)
  | .begin_ who operation =>
      if (s.session who).isNone then
        some (s.resume who { operation, held := [], writes := id, rest := program operation })
      else none
  | .advance who => (s.session who).bind (s.advance who)
  | .abort who => (s.session who).map fun _ => s.finish who s.db

/-! ## Rely and guarantee -/

/-- What the transactions of a system promise each other. -/
structure Contract (ι κ D α : Type) where
  inv : D → Prop
  /-- What the others may make of a database while a transaction holds these locks. -/
  rely : List κ → D → D → Prop
  /-- What an operation that holds these locks knows of the database. -/
  knows : ι → List κ → D → Prop
  /-- What an operation that holds these locks may make of a database by its commit. -/
  guar : ι → List κ → α → D → D → Prop

namespace Contract

variable (contract : Contract ι κ D α)

/-- Every way on from here commits what the operation may: `d` is a database the program
    has seen, and the others may have been at it since. -/
def Sound (operation : ι) : List κ → (D → D) → D → Program κ D α → Prop
  | held, writes, d, .lock row next =>
      ∀ d', contract.inv d' → contract.rely held d d' →
        contract.knows operation (row :: held) d' ∧ Sound operation (row :: held) writes d' next
  | held, writes, d, .read next =>
      ∀ d', contract.inv d' → contract.rely held d d' →
        Sound operation held writes d' (next (writes d'))
  | held, writes, d, .write change next => Sound operation held (change ∘ writes) d next
  | held, writes, d, .commit answer =>
      ∀ d', contract.inv d' → contract.rely held d d' →
        contract.guar operation held answer d' (writes d')
  | _, _, _, .refuse _ => True

/-- What is relied on may happen again and again, and more of it with fewer locks. -/
structure Steady : Prop where
  refl : ∀ held d, contract.rely held d d
  trans : ∀ {held d d' d''}, contract.rely held d d' → contract.rely held d' d'' →
    contract.rely held d d''
  fewer : ∀ {row held d d'}, contract.rely (row :: held) d d' → contract.rely held d d'

/-- Every operation keeps to the contract, and what each guarantees is what every other
    relies on. -/
structure Kept (program : ι → Program κ D α) : Prop extends contract.Steady where
  unlocked : ∀ operation d, contract.knows operation [] d
  lasts : ∀ {operation held d d'}, contract.knows operation held d → contract.rely held d d' →
    contract.knows operation held d'
  sound : ∀ operation d, contract.inv d → contract.Sound operation [] id d (program operation)
  keeps : ∀ {operation held answer d d'}, contract.inv d →
    contract.guar operation held answer d d' → contract.inv d'
  apart : ∀ {operation held answer d d'}, contract.inv d →
    contract.guar operation held answer d d' → ∀ other, (∀ row ∈ other, row ∉ held) →
      contract.rely other d d'

/-- What holds between the statements of the transactions under way. -/
structure Holds (s : State ι κ D α) : Prop where
  db : contract.inv s.db
  sound : ∀ who session, s.session who = some session →
    ∃ d, contract.Sound session.operation session.held session.writes d session.rest ∧
      contract.rely session.held d s.db
  knows : ∀ who session, s.session who = some session →
    contract.knows session.operation session.held s.db
  owned : ∀ who session, s.session who = some session →
    ∀ row ∈ session.held, s.owner row = some who

variable {contract}

/-- Rows locked one after the other: the rest of the program starts over a database it
    has seen under all the locks. -/
theorem Sound.lockAll (steady : contract.Steady) {operation : ι}
    (knows : ∀ held d, contract.knows operation held d) {rows held : List κ} {writes : D → D}
    {d : D} {next : Program κ D α} (inv : contract.inv d)
    (sound : ∀ d', contract.inv d' → contract.rely held d d' →
      contract.Sound operation (rows.reverse ++ held) writes d' next) :
    contract.Sound operation held writes d (.lockAll rows next) := by
  induction rows generalizing held d with
  | nil => exact sound d inv (steady.refl held d)
  | cons row rows ih =>
      intro d' inv' relied
      refine ⟨knows _ _, ih inv' ?_⟩
      intro d'' inv'' relied'
      have := sound d'' inv'' (steady.trans relied (steady.fewer relied'))
      rwa [List.reverse_cons, List.append_assoc] at this

theorem Holds.idle {db : D} (inv : contract.inv db) :
    contract.Holds (State.idle db : State ι κ D α) where
  db := inv
  sound _ _ found := by cases found
  knows _ _ found := by cases found
  owned _ _ found := by cases found

namespace Holds

variable {s : State ι κ D α} (holds : contract.Holds s) {who : Nat} {session : Session ι κ D α}
include holds

/-- Locks that two transactions hold are different locks. -/
theorem disjoint {other : Nat} (ne : other ≠ who) {session' : Session ι κ D α}
    (found : s.session who = some session) (found' : s.session other = some session') :
    ∀ row ∈ session'.held, row ∉ session.held := by
  intro row held' held
  have owner := holds.owned who session found row held
  rw [holds.owned other session' found' row held'] at owner
  exact ne (Option.some.inj owner)

/-- A commit makes what the operation guarantees of the database as it is. -/
theorem commits {answer : α} (found : s.session who = some session)
    (rest : session.rest = .commit answer) :
    contract.guar session.operation session.held answer s.db (session.writes s.db) := by
  obtain ⟨d, sound, seen⟩ := holds.sound who session found
  rw [rest] at sound
  exact sound s.db holds.db seen

/-- A transaction that ends leaves the others as they were, over a database they rely
    on. -/
theorem finish {program : ι → Program κ D α} (kept : contract.Kept program) {db : D}
    (inv : contract.inv db)
    (relied : ∀ other session, other ≠ who → s.session other = some session →
      contract.rely session.held s.db db) : contract.Holds (s.finish who db) := by
  have before : ∀ other session, (s.finish who db).session other = some session →
      other ≠ who ∧ s.session other = some session := by
    intro other session found
    by_cases here : other = who
    · subst here
      simp at found
    · rw [State.finish_other here] at found
      exact ⟨here, found⟩
  refine ⟨inv, ?_, ?_, ?_⟩
  · intro other session found
    obtain ⟨ne, found⟩ := before other session found
    obtain ⟨d, sound, seen⟩ := holds.sound other session found
    exact ⟨d, sound, kept.trans seen (relied other session ne found)⟩
  · intro other session found
    obtain ⟨ne, found⟩ := before other session found
    exact kept.lasts (holds.knows other session found) (relied other session ne found)
  · intro other session found row held
    obtain ⟨ne, found⟩ := before other session found
    exact State.finish_owner ne (holds.owned other session found row held)

/-- A transaction that goes on with the locks it has. -/
theorem resume
    (sound : ∃ d, contract.Sound session.operation session.held session.writes d session.rest ∧
      contract.rely session.held d s.db)
    (knows : contract.knows session.operation session.held s.db)
    (owned : ∀ row ∈ session.held, s.owner row = some who) :
    contract.Holds (s.resume who session) := by
  refine ⟨holds.db, ?_, ?_, ?_⟩
  all_goals
    intro other session' found
    by_cases here : other = who
  · subst here
    cases State.resume_self.symm.trans found
    exact sound
  · rw [State.resume_other here] at found
    exact holds.sound other session' found
  · subst here
    cases State.resume_self.symm.trans found
    exact knows
  · rw [State.resume_other here] at found
    exact holds.knows other session' found
  · subst here
    cases State.resume_self.symm.trans found
    exact owned
  · rw [State.resume_other here] at found
    exact holds.owned other session' found

/-- A lock taken while no other transaction holds it. -/
theorem grant [DecidableEq κ] {row : κ} (free : s.owner row = none ∨ s.owner row = some who)
    (sound : ∃ d, contract.Sound session.operation session.held session.writes d session.rest ∧
      contract.rely session.held d s.db)
    (knows : contract.knows session.operation session.held s.db)
    (owned : ∀ key ∈ session.held, key = row ∨ s.owner key = some who) :
    contract.Holds (s.grant who row session) := by
  refine ⟨holds.db, ?_, ?_, ?_⟩
  all_goals
    intro other session' found
    rw [State.grant_session] at found
    by_cases here : other = who
  · subst here
    cases State.resume_self.symm.trans found
    exact sound
  · rw [State.resume_other here] at found
    exact holds.sound other session' found
  · subst here
    cases State.resume_self.symm.trans found
    exact knows
  · rw [State.resume_other here] at found
    exact holds.knows other session' found
  · subst here
    cases State.resume_self.symm.trans found
    intro key held
    by_cases same : key = row
    · subst same
      exact State.grant_owner_self
    · rw [State.grant_owner_other same]
      exact (owned key held).resolve_left same
  · rw [State.resume_other here] at found
    intro key held
    have owner := holds.owned other session' found key held
    have ne : key ≠ row := by
      rintro rfl
      rw [owner] at free
      rcases free with free | free
      · cases free
      · exact here (Option.some.inj free)
    rw [State.grant_owner_other ne]
    exact owner

end Holds

namespace Kept

variable [DecidableEq κ] {program : ι → Program κ D α} (kept : contract.Kept program)
  {s t : State ι κ D α} {action : Action ι}
include kept

/-- Transactions that keep to the contract keep what holds between their statements. -/
theorem holds_step (holds : contract.Holds s) (next : step program s action = some t) :
    contract.Holds t := by
  cases action with
  | begin_ who operation =>
      simp only [step] at next
      split at next
      · cases next
        exact holds.resume ⟨s.db, kept.sound operation s.db holds.db, kept.refl _ _⟩
          (kept.unlocked _ _) (fun _ held => by cases held)
      · cases next
  | abort who =>
      obtain ⟨session, -, rfl⟩ := map_eq_some_iff.mp next
      exact holds.finish kept holds.db (fun _ _ _ _ => kept.refl _ _)
  | advance who =>
      obtain ⟨session, found, next⟩ := bind_eq_some_iff.mp next
      obtain ⟨d, sound, seen⟩ := holds.sound who session found
      have knows := holds.knows who session found
      have owned := holds.owned who session found
      unfold State.advance at next
      cases rest : session.rest with
      | lock row more =>
          rw [rest] at next sound
          simp only at next
          split at next
          · rename_i free
            cases next
            obtain ⟨knows, sound⟩ := sound s.db holds.db seen
            refine holds.grant free ⟨s.db, sound, kept.refl _ _⟩ knows ?_
            intro other held
            rcases List.mem_cons.mp held with rfl | held
            · exact .inl rfl
            · exact .inr (owned other held)
          · cases next
      | read more =>
          rw [rest] at next sound
          cases next
          exact holds.resume ⟨s.db, sound s.db holds.db seen, kept.refl _ _⟩ knows owned
      | write change more =>
          rw [rest] at next sound
          cases next
          exact holds.resume ⟨d, sound, seen⟩ knows owned
      | commit answer =>
          have guarantees := holds.commits found rest
          rw [rest] at next
          cases next
          refine holds.finish kept (kept.keeps holds.db guarantees) ?_
          intro other session' ne found'
          exact kept.apart holds.db guarantees _ (holds.disjoint ne found found')
      | refuse answer =>
          rw [rest] at next
          cases next
          exact holds.finish kept holds.db (fun _ _ _ _ => kept.refl _ _)

theorem holds {C : State ι κ D α → Action ι → Prop} (start : contract.Holds s)
    (run : Steps (step program) C s t) : contract.Holds t :=
  run.invariant start fun _ _ _ holds _ next => kept.holds_step holds next

end Kept

end Contract

/-- What a step does to the database: a commit brings its writes to it, and every other
    step leaves it as it is. -/
theorem step_db [DecidableEq κ] {program : ι → Program κ D α} {s t : State ι κ D α}
    {action : Action ι} (next : step program s action = some t) :
    t.db = s.db ∨ ∃ who session answer, action = .advance who ∧ s.session who = some session ∧
      session.rest = .commit answer ∧ t.db = session.writes s.db := by
  cases action with
  | begin_ who operation =>
      simp only [step] at next
      split at next
      · cases next
        exact .inl rfl
      · cases next
  | abort who =>
      obtain ⟨session, -, rfl⟩ := map_eq_some_iff.mp next
      exact .inl rfl
  | advance who =>
      obtain ⟨session, found, next⟩ := bind_eq_some_iff.mp next
      unfold State.advance at next
      cases rest : session.rest with
      | lock row more =>
          rw [rest] at next
          simp only at next
          split at next
          · cases next
            exact .inl rfl
          · cases next
      | read more =>
          rw [rest] at next
          cases next
          exact .inl rfl
      | write change more =>
          rw [rest] at next
          cases next
          exact .inl rfl
      | commit answer =>
          rw [rest] at next
          cases next
          exact .inr ⟨who, session, answer, rfl, found, rest, rfl⟩
      | refuse answer =>
          rw [rest] at next
          cases next
          exact .inl rfl

theorem step_commit [DecidableEq κ] {program : ι → Program κ D α} {s t : State ι κ D α}
    {who : Nat} {session : Session ι κ D α} {answer : α} (found : s.session who = some session)
    (rest : session.rest = .commit answer) (next : step program s (.advance who) = some t) :
    t.db = session.writes s.db := by
  simp only [step, found, bind_some, State.advance, rest, some.injEq] at next
  rw [← next, State.finish_db]

/-! ## What a transaction sees -/

/-- A program that goes on in the same way over two databases that are the same to it,
    `same held` saying what they share for a transaction that holds these locks. -/
def Program.Blind (same : List κ → D → D → Prop) : List κ → Program κ D α → Prop
  | held, .lock row next => next.Blind same (row :: held)
  | held, .read next =>
      (∀ d d', same held d d' → next d = next d') ∧ ∀ d, (next d).Blind same held
  | held, .write change next =>
      (∀ more d d', same (more ++ held) d d' → same (more ++ held) (change d) (change d')) ∧
        next.Blind same held
  | _, .commit _ => True
  | _, .refuse _ => True

/-- A transaction whose rest is blind, and whose own writes tell it nothing more. -/
structure Session.Blind (same : ι → List κ → D → D → Prop) (session : Session ι κ D α) :
    Prop where
  rest : session.rest.Blind (same session.operation) session.held
  writes : ∀ more d d', same session.operation (more ++ session.held) d d' →
    same session.operation (more ++ session.held) (session.writes d) (session.writes d')

theorem Program.Blind.lockAll {same : List κ → D → D → Prop} {rows held : List κ}
    {next : Program κ D α} (blind : next.Blind same (rows.reverse ++ held)) :
    (Program.lockAll rows next).Blind same held := by
  induction rows generalizing held with
  | nil => exact blind
  | cons row rows ih =>
      rw [List.reverse_cons, List.append_assoc] at blind
      exact ih blind

namespace Session.Blind

variable [DecidableEq κ] {same : ι → List κ → D → D → Prop} {session : Session ι κ D α}
  {s : State ι κ D α}

/-- Over two databases that are the same to it, a transaction goes on in the same way. -/
theorem advance (blind : session.Blind same) {who : Nat} {d : D}
    (alike : same session.operation session.held s.db d) :
    (State.advance { s with db := d } who session).map (·.session who) =
      (s.advance who session).map (·.session who) := by
  obtain ⟨operation, held, writes, rest⟩ := session
  cases rest with
  | lock row next =>
      simp only [State.advance]
      by_cases free : s.owner row = none ∨ s.owner row = some who
      · rw [if_pos free, if_pos free]
        rfl
      · rw [if_neg free, if_neg free]
  | read next =>
      have same := blind.rest.1 _ _ (blind.writes [] _ _ alike)
      simp only at same
      simp [State.advance, same]
  | write change next => rfl
  | commit answer => rfl
  | refuse answer => rfl

variable {program : ι → Program κ D α}

/-- Between their statements the transactions of blind programs stay blind. -/
theorem step (programs : ∀ operation, (program operation).Blind (same operation) [])
    {t : State ι κ D α} {action : Action ι}
    (blind : ∀ who session, s.session who = some session → session.Blind same)
    (next : step program s action = some t) :
    ∀ who session, t.session who = some session → session.Blind same := by
  have resumed : ∀ {who : Nat} {session : Session ι κ D α}, session.Blind same →
      ∀ other session', (s.resume who session).session other = some session' →
        session'.Blind same := by
    intro who session here other session' found
    by_cases self : other = who
    · subst self
      cases State.resume_self.symm.trans found
      exact here
    · rw [State.resume_other self] at found
      exact blind other session' found
  have finished : ∀ {who : Nat} {db : D} other session',
      (s.finish who db).session other = some session' → session'.Blind same := by
    intro who db other session' found
    by_cases self : other = who
    · subst self
      simp at found
    · rw [State.finish_other self] at found
      exact blind other session' found
  cases action with
  | begin_ who operation =>
      simp only [ReadCommitted.step] at next
      split at next
      · cases next
        exact resumed ⟨programs operation, fun _ _ _ alike => alike⟩
      · cases next
  | abort who =>
      obtain ⟨session, -, rfl⟩ := map_eq_some_iff.mp next
      exact finished
  | advance who =>
      obtain ⟨⟨operation, held, writes, rest⟩, found, next⟩ := bind_eq_some_iff.mp next
      have here := blind who _ found
      cases rest with
      | lock row more =>
          simp only [State.advance] at next
          split at next
          · cases next
            rw [State.grant_session]
            refine resumed ⟨here.rest, ?_⟩
            intro more' d d' alike
            have := here.writes (more' ++ [row]) d d'
            simp only [List.append_assoc, List.singleton_append] at this
            exact this alike
          · cases next
      | read more =>
          cases next
          exact resumed ⟨here.rest.2 _, here.writes⟩
      | write change more =>
          cases next
          refine resumed ⟨here.rest.2, ?_⟩
          intro more' d d' alike
          exact here.rest.1 more' _ _ (here.writes more' d d' alike)
      | commit answer =>
          cases next
          exact finished
      | refuse answer =>
          cases next
          exact finished

/-- In every interleaving of blind programs the transactions stay blind. -/
theorem run (programs : ∀ operation, (program operation).Blind (same operation) [])
    {C : State ι κ D α → Action ι → Prop} {t : State ι κ D α}
    (blind : ∀ who session, s.session who = some session → session.Blind same)
    (run : Steps (ReadCommitted.step program) C s t) :
    ∀ who session, t.session who = some session → session.Blind same :=
  run.invariant (I := fun s => ∀ who session, s.session who = some session →
    session.Blind same) blind fun _ _ _ here _ next => step programs here next

end Session.Blind

end ReadCommitted
