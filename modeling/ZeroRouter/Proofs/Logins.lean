import ZeroRouter.Oidc

/-!
# What a login leaves in its tables

One invariant over the login states, the users, the sessions and the signup credits, with
what each callback holds of them, kept by every step of the callbacks and of what runs beside
them.
-/

namespace ZeroRouter.Oidc

open Relational Transition Table Option

variable {toLowercase : String → String} {signupCreditUsd : Decimal} {opening w w' : World}
  {callback : Callback} {verified : Verified} {action : Action} {n : Nat}
  {accounts accounts' : Table accountsTable} {userId : Uuid} {fate : Fate} {a b : Account}
  {stage : Stage} {now : Timestamp} {identity : Identity} {account : Account} {db db' : Db}
  {callback' : Callback} {state : String}

/-! ## Statements -/

theorem accounts_eq_of_id (ha : a ∈ accounts) (hb : b ∈ accounts) (id : a.id = b.id) : a = b :=
  eq_of_clash ha hb (.inl id)

theorem accounts_eq_of_email (ha : a ∈ accounts) (hb : b ∈ accounts) (email : a.email = b.email) :
    a = b :=
  eq_of_clash ha hb (.inr (.inl email))

theorem accounts_eq_of_bound (ha : a ∈ accounts) (hb : b ∈ accounts) (bound : a.Bound identity)
    (bound' : b.Bound identity) : a = b := by
  apply eq_of_clash ha hb
  refine .inr (.inr ⟨?_, ?_, ?_, ?_⟩)
  · simp [bound.1]
  · simp [bound.2]
  · rw [bound.1, bound'.1]
  · rw [bound.2, bound'.2]

/-- A user with an issuer is bound to some identity. -/
theorem Account.bound_of_issuer (mem : a ∈ accounts) (bound : a.oidcIssuer ≠ none) :
    ∃ identity, a.Bound identity := by
  have check : AccountCheck a := accounts.checked a mem
  have complete := check.oidcIdentityIsComplete
  cases issuer : a.oidcIssuer with
  | none => exact absurd issuer bound
  | some issuer' =>
      cases subject : a.oidcSubject with
      | none => simp [issuer, subject] at complete
      | some subject' => exact ⟨⟨issuer', subject'⟩, issuer, subject⟩

theorem Account.bound_bindTo (a : Account) (identity : Identity) :
    (a.bindTo identity).Bound identity :=
  ⟨rfl, rfl⟩

theorem Account.Bound.eq {x y : Identity} (bound : a.Bound x) (bound' : a.Bound y) :
    x = y := by
  cases x
  cases y
  simp only [Account.Bound] at bound bound'
  have issuer := bound.1.symm.trans bound'.1
  have subject := bound.2.symm.trans bound'.2
  simp_all

theorem Account.not_claimable_of_bound {email : String} (bound : a.Bound identity) :
    ¬ a.Claimable email := by
  intro claimable
  rw [Account.Claimable, bound.1] at claimable
  cases claimable.2

/-- The `UPDATE` binds the one user that goes by the email. -/
theorem claimAccount_some (h : claimAccount accounts verified = .ok (some (accounts', userId))) :
    ∃ account ∈ accounts, account.Claimable verified.email ∧ account.id = userId ∧
      ∀ x, x ∈ accounts' ↔
        (x ∈ accounts ∧ x ≠ account) ∨ x = account.bindTo verified.identity := by
  unfold claimAccount at h
  split at h
  · cases h
  · next account found =>
      rw [bind_eq_ok] at h
      obtain ⟨accounts'', updated, same⟩ := h
      cases same
      obtain ⟨mem, claimable⟩ := find_some found
      refine ⟨account, mem, claimable, rfl, fun x => ?_⟩
      have only : ∀ row ∈ accounts, row.Claimable verified.email ↔ row = account := by
        intro row hrow
        constructor
        · intro claims
          exact accounts_eq_of_email hrow mem (claims.1.trans claimable.1.symm)
        · rintro rfl
          exact claimable
      rw [mem_updateWhere updated]
      constructor
      · rintro ⟨row, hrow, rfl⟩
        by_cases here : row = account
        · subst here
          right
          rw [rewrite, if_pos claimable]
        · left
          rw [rewrite, if_neg fun claims => here ((only row hrow).mp claims)]
          exact ⟨hrow, here⟩
      · rintro (⟨hx, ne⟩ | rfl)
        · refine ⟨x, hx, ?_⟩
          rw [rewrite, if_neg fun claims => ne ((only x hx).mp claims)]
        · exact ⟨account, mem, if_pos claimable⟩

theorem claimAccount_none (h : claimAccount accounts verified = .ok none) :
    ∀ account ∈ accounts, ¬ account.Claimable verified.email := by
  unfold claimAccount at h
  split at h
  · next free => exact find_none free
  · rw [bind_eq_ok] at h
    obtain ⟨_, _, same⟩ := h
    cases same

theorem insertAccount_some (h : insertAccount accounts account = .ok (some accounts')) :
    (∀ x, x ∈ accounts' ↔ x ∈ accounts ∨ x = account) ∧
      (∀ x ∈ accounts, x.id ≠ account.id) ∧ ∀ x ∈ accounts, x.email ≠ account.email := by
  unfold insertAccount at h
  split at h
  · cases h
  · next free =>
      rw [map_eq_ok] at h
      obtain ⟨_, inserted, same⟩ := h
      cases same
      obtain ⟨_, _, apart⟩ := insert_ok inserted
      exact ⟨fun x => mem_insert inserted, fun x hx id => apart x hx (.inl id),
        find_none free⟩

theorem insertAccount_none (h : insertAccount accounts account = .ok none) :
    ∃ x ∈ accounts, x.email = account.email := by
  unfold insertAccount at h
  split at h
  · next taken found => exact ⟨taken, find_some found⟩
  · rw [map_eq_ok] at h
    obtain ⟨_, _, same⟩ := h
    cases same

/-- The grant writes one promo row and returns it. -/
theorem grantPromo_ok {amountUsd : Decimal} {note : String} {row : Option CreditLedger}
    (h : grantPromo db userId amountUsd note = .ok (db', row)) :
    (∀ entry ∈ db.creditLedger, entry ∈ db'.creditLedger) ∧
      ∀ entry ∈ row, entry ∈ db'.creditLedger ∧ entry.userId = userId ∧
        entry.entryType = .promo ∧ entry.amountUsd = amountUsd := by
  unfold grantPromo at h
  split at h
  · cases h
    exact ⟨fun _ mem => mem, nofun⟩
  · split at h
    · cases h
    · rw [bind_eq_ok] at h
      obtain ⟨granted, moved, same⟩ := h
      cases same
      obtain ⟨user, users, ledger, _, _, _, _, entered, rfl⟩ := Db.moveBalance_ok moved
      refine ⟨fun entry mem => (mem_insert entered).mpr (.inl mem), ?_⟩
      intro entry last
      rw [(insert_ok entered).1, List.getLast?_concat] at last
      cases last
      exact ⟨(mem_insert entered).mpr (.inr rfl), rfl, rfl, rfl⟩

theorem moveBalance_ledger {creditReversal : Bool} {missing : SqlError} {delta : Decimal}
    {entry : Decimal → CreditLedger}
    (h : db.moveBalance userId creditReversal missing delta entry = .ok db') :
    ∀ row ∈ db.creditLedger, row ∈ db'.creditLedger := by
  obtain ⟨_, _, _, _, _, _, _, entered, rfl⟩ := Db.moveBalance_ok h
  exact fun row mem => (mem_insert entered).mpr (.inl mem)

/-! ## What a callback stands for -/

/-- The callback was shown a verified token of the identity with this verified email. -/
def Callback.Vouches (toLowercase : String → String) (callback : Callback) (identity : Identity)
    (email : String) : Prop :=
  ∃ claims ∈ callback.claims, claims.identity = identity ∧ claims.emailVerified = some true ∧
    ∃ raw ∈ claims.email, normalizeEmail toLowercase raw = email

/-- The identity the callback was shown belongs to the user. -/
def World.Resolves (toLowercase : String → String) (w : World) (callback : Callback)
    (userId : Uuid) : Prop :=
  ∃ identity email, callback.Vouches toLowercase identity email ∧
    ∃ account ∈ w.accounts, account.id = userId ∧ account.Bound identity

/-! ## The invariant -/

/-- The callback is not yet past its `INSERT`. -/
def Stage.early : Stage → Prop
  | .arrived | .exchanging _ | .selecting _ | .claiming _ | .inserting _ => True
  | _ => False

/-- The callback may yet store a session. -/
def Stage.pending : Stage → Prop
  | .signedIn _ | .restarted | .refused _ | .lost => False
  | _ => True

/-- The callback has not been shown a token. -/
def Stage.unshown : Stage → Prop
  | .arrived | .exchanging _ => True
  | _ => False

theorem Stage.early_of_unshown (h : stage.unshown) : stage.early := by
  cases stage with
  | arrived | exchanging => trivial
  | _ => cases h

/-- Whom the callback is resolving. -/
def Stage.verified? : Stage → Option Verified
  | .selecting verified | .claiming verified | .inserting verified => some verified
  | _ => none

/-- The user the callback has resolved its identity to. -/
def Stage.user? : Stage → Option Uuid
  | .welcoming userId | .signingIn userId => some userId
  | _ => none

structure Callback.Ok (toLowercase : String → String) (signupCreditUsd : Decimal)
    (opening w : World) (callback : Callback) : Prop where
  early : callback.stage.early → callback.inserted = none ∧ callback.granted = none
  pending : callback.stage.pending → callback.session = none
  login : ∀ row ∈ callback.login, row.login < w.logins ∧
    (∀ other ∈ w.states, other.login ≠ row.login) ∧
      callback.request.params.loginState = some row.state ∧
        oidcCookieValue callback.request.cookies oidcStateCookie = some row.state
  vouches : ∀ verified ∈ callback.stage.verified?,
    callback.Vouches toLowercase verified.identity verified.email
  resolves : ∀ userId ∈ callback.stage.user?, w.Resolves toLowercase callback userId
  session : ∀ session ∈ callback.session, w.Resolves toLowercase callback session.userId
  inserted : ∀ userId ∈ callback.inserted, (∃ account ∈ w.accounts, account.id = userId) ∧
    ∀ account ∈ opening.accounts, account.id ≠ userId
  welcoming : ∀ userId, callback.stage = .welcoming userId →
    callback.inserted = some userId ∧ callback.granted = none
  granted : ∀ row ∈ callback.granted, row ∈ w.db.creditLedger ∧ row.entryType = .promo ∧
    row.amountUsd = signupCreditUsd ∧ callback.inserted = some row.userId
  unshown : callback.stage.unshown → callback.claims = none

/-- Two callbacks spent different login states and inserted different users. -/
def Callback.Apart (c d : Callback) : Prop :=
  (∀ row ∈ c.login, ∀ row' ∈ d.login, row.login ≠ row'.login) ∧
    ∀ userId ∈ c.inserted, userId ∉ d.inserted

theorem Callback.Apart.symm {c d : Callback} (apart : c.Apart d) : d.Apart c :=
  ⟨fun row mem row' mem' same => apart.1 row' mem' row mem same.symm,
    fun userId mem mem' => apart.2 userId mem' mem⟩

structure Inv (toLowercase : String → String) (signupCreditUsd : Decimal) (opening w : World) :
    Prop where
  stored : ∀ row ∈ w.states, row.login < w.logins
  once : ∀ a ∈ w.states, ∀ b ∈ w.states, a.login = b.login → a = b
  callbacks : ∀ (m : Nat) (c : Callback), w.callbacks[m]? = some c →
    c.Ok toLowercase signupCreditUsd opening w
  apart : ∀ (m n : Nat) (c d : Callback), w.callbacks[m]? = some c → w.callbacks[n]? = some d →
    m ≠ n → c.Apart d
  sessions : ∀ session ∈ w.sessions, session ∈ opening.sessions ∨
    ∃ (m : Nat) (c : Callback), w.callbacks[m]? = some c ∧ c.session = some session
  since : ∀ account ∈ opening.accounts, ∃ account' ∈ w.accounts, account'.id = account.id

/-! ## Steps -/

/-- Users stay, with their emails and their identities. -/
def Persist (accounts accounts' : Table accountsTable) : Prop :=
  ∀ account ∈ accounts, ∃ account' ∈ accounts', account'.id = account.id ∧
    account'.email = account.email ∧ ∀ identity, account.Bound identity → account'.Bound identity

theorem Persist.refl (accounts : Table accountsTable) : Persist accounts accounts :=
  fun account mem => ⟨account, mem, rfl, rfl, fun _ bound => bound⟩

theorem persist_of_subset (stay : ∀ account ∈ accounts, account ∈ accounts') :
    Persist accounts accounts' :=
  fun account mem => ⟨account, stay account mem, rfl, rfl, fun _ bound => bound⟩

theorem persist_claimAccount (h : claimAccount accounts verified = .ok (some (accounts', userId))) :
    Persist accounts accounts' := by
  obtain ⟨claimed, _, claimable, _, rows⟩ := claimAccount_some h
  intro account mem
  by_cases here : account = claimed
  · subst here
    refine ⟨account.bindTo verified.identity, (rows _).mpr (.inr rfl), rfl, rfl, ?_⟩
    exact fun _ bound => absurd claimable (Account.not_claimable_of_bound bound)
  · exact ⟨account, (rows _).mpr (.inl ⟨mem, here⟩), rfl, rfl, fun _ bound => bound⟩

/-- What any step leaves of what the callbacks stand for. -/
structure World.Grows (w w' : World) : Prop where
  logins : w.logins ≤ w'.logins
  states : ∀ row ∈ w'.states, row ∈ w.states ∨ w.logins ≤ row.login
  accounts : Persist w.accounts w'.accounts
  ledger : ∀ row ∈ w.db.creditLedger, row ∈ w'.db.creditLedger

theorem World.Resolves.grows (resolves : w.Resolves toLowercase callback userId)
    (accounts : Persist w.accounts w'.accounts) : w'.Resolves toLowercase callback userId := by
  obtain ⟨identity, email, vouches, account, mem, id, bound⟩ := resolves
  obtain ⟨account', mem', id', -, bound'⟩ := accounts account mem
  exact ⟨identity, email, vouches, account', mem', id'.trans id, bound' identity bound⟩

theorem Callback.Ok.grows (ok : callback.Ok toLowercase signupCreditUsd opening w)
    (grows : w.Grows w') : callback.Ok toLowercase signupCreditUsd opening w' where
  early := ok.early
  pending := ok.pending
  login row mem := by
    obtain ⟨spent, gone, carried⟩ := ok.login row mem
    refine ⟨Nat.lt_of_lt_of_le spent grows.logins, ?_, carried⟩
    intro other hother
    rcases grows.states other hother with old | new
    · exact gone other old
    · omega
  vouches := ok.vouches
  resolves userId mem := (ok.resolves userId mem).grows grows.accounts
  session session mem := (ok.session session mem).grows grows.accounts
  inserted userId mem := by
    obtain ⟨⟨account, hmem, id⟩, fresh⟩ := ok.inserted userId mem
    obtain ⟨account', mem', id', -⟩ := grows.accounts account hmem
    exact ⟨⟨account', mem', id'.trans id⟩, fresh⟩
  welcoming := ok.welcoming
  granted row mem := by
    obtain ⟨entered, rest⟩ := ok.granted row mem
    exact ⟨grows.ledger row entered, rest⟩
  unshown := ok.unshown

/-- One callback goes on, or arrives; the others are where they were. -/
structure World.Turns (w w' : World) (n : Nat) (callback' : Callback) : Prop where
  here : w'.callbacks[n]? = some callback'
  others : ∀ m, m ≠ n → w'.callbacks[m]? = w.callbacks[m]?

theorem World.turns_put (found : w.callbacks[n]? = some callback)
    (same : w'.callbacks = w.callbacks) : w.Turns (w'.put n callback') n callback' where
  here := by
    obtain ⟨bound, -⟩ := List.getElem?_eq_some_iff.mp found
    simp [World.put, same, bound]
  others m ne := by
    simp [World.put, same, List.getElem?_set_ne (Ne.symm ne)]

theorem World.turns_arrive (w : World) (request : CallbackRequest) :
    w.Turns { w with callbacks := w.callbacks ++ [Callback.arrival request] } w.callbacks.length
      (Callback.arrival request) where
  here := List.getElem?_concat_length
  others m ne := by
    rw [List.getElem?_append]
    split
    · rfl
    · next past =>
        have none_ : w.callbacks.length ≤ m := Nat.le_of_not_lt past
        rw [List.getElem?_eq_none none_, List.getElem?_eq_none (by simp; omega)]

/-- A step of one callback: what it newly holds was in the tables before, and no other
    callback's. -/
theorem Inv.advance (inv : Inv toLowercase signupCreditUsd opening w) (grows : w.Grows w')
    (turns : w.Turns w' n callback') (ok : callback'.Ok toLowercase signupCreditUsd opening w')
    (states : ∀ row ∈ w'.states, row ∈ w.states)
    (login : ∀ row ∈ callback'.login,
      (∃ c, w.callbacks[n]? = some c ∧ row ∈ c.login) ∨ row ∈ w.states)
    (inserted : ∀ userId ∈ callback'.inserted,
      (∃ c, w.callbacks[n]? = some c ∧ userId ∈ c.inserted) ∨
        ∀ account ∈ w.accounts, account.id ≠ userId)
    (sessions : ∀ session ∈ w'.sessions, session ∈ w.sessions ∨ callback'.session = some session)
    (session : ∀ c, w.callbacks[n]? = some c → ∀ session ∈ c.session,
      callback'.session = some session) :
    Inv toLowercase signupCreditUsd opening w' := by
  have old : ∀ m c, w'.callbacks[m]? = some c → m ≠ n → w.callbacks[m]? = some c := by
    intro m c found ne
    rwa [turns.others m ne] at found
  have here : ∀ c, w'.callbacks[n]? = some c → c = callback' := by
    intro c found
    rw [turns.here] at found
    exact (Option.some.inj found).symm
  -- what the callback newly holds no other callback has
  have mine : ∀ m c, w.callbacks[m]? = some c → m ≠ n → callback'.Apart c := by
    intro m c found ne
    have other := inv.callbacks m c found
    refine ⟨?_, ?_⟩
    · intro row mem row' mem' same
      rcases login row mem with ⟨before, was, had⟩ | stored
      · exact (inv.apart n m before c was found ne.symm).1 row had row' mem' same
      · exact (other.login row' mem').2.1 row stored same
    · intro userId mem mem'
      rcases inserted userId mem with ⟨before, was, had⟩ | fresh
      · exact (inv.apart n m before c was found ne.symm).2 userId had mem'
      · obtain ⟨⟨account, hmem, id⟩, -⟩ := other.inserted userId mem'
        exact fresh account hmem id
  refine ⟨?_, ?_, ?_, ?_, ?_, ?_⟩
  · exact fun row mem => Nat.lt_of_lt_of_le (inv.stored row (states row mem)) grows.logins
  · exact fun a ha b hb => inv.once a (states a ha) b (states b hb)
  · intro m c found
    by_cases at_ : m = n
    · subst at_
      rw [here c found]
      exact ok
    · exact (inv.callbacks m c (old m c found at_)).grows grows
  · intro m m' c d hc hd ne
    by_cases at_ : m = n
    · subst at_
      rw [here c hc]
      exact mine m' d (old m' d hd ne.symm) ne.symm
    · by_cases at' : m' = n
      · subst at'
        rw [here d hd]
        exact (mine m c (old m c hc at_) at_).symm
      · exact inv.apart m m' c d (old m c hc at_) (old m' d hd at') ne
  · intro s mem
    rcases sessions s mem with was | new
    · rcases inv.sessions s was with opened | ⟨m, c, found, stored⟩
      · exact .inl opened
      · right
        by_cases at_ : m = n
        · subst at_
          exact ⟨m, callback', turns.here, session c found s stored⟩
        · exact ⟨m, c, (turns.others m at_).trans found, stored⟩
    · exact .inr ⟨n, callback', turns.here, new⟩
  · intro account mem
    obtain ⟨account', mem', id⟩ := inv.since account mem
    obtain ⟨account'', mem'', id', -⟩ := grows.accounts account' mem'
    exact ⟨account'', mem'', id'.trans id⟩

/-- A step of the tables alone. -/
theorem Inv.keep (inv : Inv toLowercase signupCreditUsd opening w) (grows : w.Grows w')
    (callbacks : w'.callbacks = w.callbacks)
    (stored : ∀ row ∈ w'.states, row.login < w'.logins)
    (once : ∀ a ∈ w'.states, ∀ b ∈ w'.states, a.login = b.login → a = b)
    (sessions : ∀ session ∈ w'.sessions, session ∈ w.sessions) :
    Inv toLowercase signupCreditUsd opening w' where
  stored := stored
  once := once
  callbacks m c found := by
    rw [callbacks] at found
    exact (inv.callbacks m c found).grows grows
  apart := by
    rw [callbacks]
    exact inv.apart
  sessions session mem := by
    rw [callbacks]
    exact inv.sessions session (sessions session mem)
  since account mem := by
    obtain ⟨account', mem', id⟩ := inv.since account mem
    obtain ⟨account'', mem'', id', -⟩ := grows.accounts account' mem'
    exact ⟨account'', mem'', id'.trans id⟩

theorem World.Grows.refl (w : World) : w.Grows w where
  logins := Nat.le_refl _
  states _ mem := .inl mem
  accounts := .refl _
  ledger _ mem := mem

/-- A callback that only moves on to another stage. -/
theorem Inv.goto {w₁ : World} (inv : Inv toLowercase signupCreditUsd opening w)
    (found : w.callbacks[n]? = some callback) (grows : w.Grows w₁)
    (same : w₁.callbacks = w.callbacks) (states : ∀ row ∈ w₁.states, row ∈ w.states)
    (sessions : ∀ session ∈ w₁.sessions, session ∈ w.sessions)
    (early : stage.early → callback.stage.early)
    (pending : stage.pending → callback.stage.pending)
    (vouches : ∀ verified ∈ stage.verified?,
      callback.Vouches toLowercase verified.identity verified.email)
    (resolves : ∀ userId ∈ stage.user?, w₁.Resolves toLowercase callback userId)
    (welcoming : ∀ userId, stage ≠ .welcoming userId) (shown : ¬ stage.unshown) :
    Inv toLowercase signupCreditUsd opening (w₁.put n (callback.at stage)) := by
  have ok := inv.callbacks n callback found
  have grown := ok.grows grows
  refine inv.advance ⟨grows.logins, grows.states,
    grows.accounts, grows.ledger⟩ (World.turns_put found same) ?_ states ?_ ?_ ?_ ?_
  · exact
      { early := fun h => ok.early (early h)
        pending := fun h => ok.pending (pending h)
        unshown := fun h => absurd h shown
        login := grown.login
        vouches := vouches
        resolves := resolves
        session := grown.session
        inserted := grown.inserted
        welcoming := fun userId h => absurd h (welcoming userId)
        granted := grown.granted }
  · exact fun row mem => .inl ⟨callback, found, mem⟩
  · exact fun userId mem => .inl ⟨callback, found, mem⟩
  · exact fun session mem => .inl (sessions session mem)
  · intro c was session mem
    rw [found] at was
    cases was
    exact mem

/-- A stage after which the callback does nothing. -/
def Stage.over : Stage → Prop
  | .restarted | .refused _ | .lost => True
  | _ => False

theorem Inv.finish (inv : Inv toLowercase signupCreditUsd opening w)
    (found : w.callbacks[n]? = some callback) (done : stage.over) :
    Inv toLowercase signupCreditUsd opening (w.put n (callback.at stage)) := by
  cases stage with
  | restarted | refused | lost =>
      refine inv.goto found (.refl w) rfl (fun _ mem => mem) (fun _ mem => mem) ?_ ?_ ?_ ?_ ?_ ?_
      all_goals nofun
  | _ => cases done

theorem Callback.over_restart (callback : Callback) :
    ∃ stage : Stage, stage.over ∧ callback.restart = callback.at stage := by
  unfold Callback.restart
  split
  · exact ⟨.restarted, trivial, rfl⟩
  · next error _ => exact ⟨.refused error, trivial, rfl⟩

/-- A statement that goes through is heard of or refused. -/
theorem Callback.proceed_cases (callback : Callback) (fate : Fate) (stage : Stage) :
    callback.proceed fate stage = callback.at stage ∨
      callback.proceed fate stage = callback.at (.refused .databaseUnavailable) := by
  cases fate with
  | commit => exact .inl rfl
  | rollback | commitUnseen => exact .inr rfl

theorem Stage.over.still (done : stage.over) :
    stage.verified? = none ∧ stage.user? = none ∧ ∀ userId, stage ≠ .welcoming userId := by
  cases stage with
  | restarted | refused | lost => exact ⟨rfl, rfl, nofun⟩
  | _ => cases done

/-- The row is the callback's own, whether it goes on to the provider or not. -/
theorem World.spend_cases (callback : Callback) (row : OidcState) (fate : Fate) :
    ∃ stage : Stage, World.spend callback row fate =
        { callback with login := some row, stage := stage } ∧
      (stage = .exchanging row ∨ stage.over) := by
  have proceeds : ∀ next : Stage, next = .exchanging row ∨ next.over →
      ∃ stage : Stage, Callback.proceed { callback with login := some row } fate next =
          { callback with login := some row, stage := stage } ∧
        (stage = .exchanging row ∨ stage.over) := by
    intro next goes
    rcases Callback.proceed_cases { callback with login := some row } fate next with h | h
    · exact ⟨next, h, goes⟩
    · exact ⟨_, h, .inr trivial⟩
  unfold World.spend
  by_cases failed : callback.request.params.error.isSome
  · simp only [failed, if_true]
    exact proceeds _ (.inr trivial)
  · simp only [failed]
    cases callback.request.params.presentCode with
    | none => exact proceeds _ (.inr trivial)
    | some code => exact proceeds _ (.inl rfl)

/-- The `DELETE … RETURNING` hands its row to this callback alone. -/
theorem Inv.spend {row : OidcState} (inv : Inv toLowercase signupCreditUsd opening w)
    (found : w.callbacks[n]? = some callback) (stage : callback.stage = .arrived)
    (present : callback.request.params.loginState = some state)
    (cookie : oidcCookieValue callback.request.cookies oidcStateCookie = some state)
    (hit : w.states.find (fun row => row.state = state ∧ now < row.expiresAt) = some row) :
    Inv toLowercase signupCreditUsd opening ({ w with
        states := w.states.deleteWhere fun row => row.state = state ∧ now < row.expiresAt }.put n
      (World.spend callback row fate)) := by
  have ok := inv.callbacks n callback found
  have bare := ok.early (by rw [stage]; trivial)
  have unsigned := ok.pending (by rw [stage]; trivial)
  have unshown := ok.unshown (by rw [stage]; trivial)
  obtain ⟨mem, same, -⟩ := find_some hit
  obtain ⟨stage', eq, next⟩ := World.spend_cases callback row fate
  rw [eq]
  have left : ∀ other ∈ w.states.deleteWhere
      (fun row => row.state = state ∧ now < row.expiresAt), other ∈ w.states :=
    fun other h => (mem_deleteWhere.mp h).1
  have still : stage'.verified? = none ∧ stage'.user? = none ∧
      ∀ userId, stage' ≠ .welcoming userId := by
    rcases next with rfl | done
    · exact ⟨rfl, rfl, nofun⟩
    · exact done.still
  refine inv.advance ⟨Nat.le_refl _, fun other h => .inl (left other h), .refl _,
    fun _ h => h⟩ (World.turns_put found rfl) ?_ left ?_ ?_ ?_ ?_
  · refine ⟨fun _ => bare, fun _ => unsigned, ?_, ?_, ?_, ?_, ?_, ?_, ?_, fun _ => unshown⟩
    · rintro _ ⟨⟩
      refine ⟨inv.stored row mem, ?_, by rw [present, same], by rw [cookie, same]⟩
      intro other h same'
      obtain ⟨hother, kept⟩ := mem_deleteWhere.mp h
      rw [inv.once other hother row mem same'] at kept
      exact kept (find_some hit).2
    · intro verified h
      rw [still.1] at h
      cases h
    · intro userId h
      rw [still.2.1] at h
      cases h
    · intro session h
      rw [unsigned] at h
      cases h
    · intro userId h
      rw [bare.1] at h
      cases h
    · exact fun userId h => absurd h (still.2.2 userId)
    · intro entry h
      rw [bare.2] at h
      cases h
  · rintro _ ⟨⟩
    exact .inr mem
  · exact fun userId h => .inl ⟨callback, found, h⟩
  · exact fun session h => .inl h
  · intro c was session h
    rw [found] at was
    cases was
    exact h

theorem Inv.consume (inv : Inv toLowercase signupCreditUsd opening w)
    (found : w.callbacks[n]? = some callback) (stage : callback.stage = .arrived) :
    Inv toLowercase signupCreditUsd opening (w.consume n callback now fate) := by
  obtain ⟨stage', done, restarted⟩ := callback.over_restart
  have restarts : Inv toLowercase signupCreditUsd opening (w.put n callback.restart) := by
    rw [restarted]
    exact inv.finish found done
  unfold World.consume
  split
  · exact restarts
  · next state present =>
      split
      · exact restarts
      · next cookie =>
          split
          · exact inv.finish found trivial
          · split
            · rw [restarted]
              rcases callback.proceed_cases fate (callback.at stage').stage with h | h
              · rw [h]
                exact inv.finish found done
              · rw [h]
                exact inv.finish found trivial
            · next row hit => exact inv.spend found stage present (not_not.mp cookie) hit

theorem Claims.vouches {claims : Claims} (h : claims.verify toLowercase = .ok verified)
    (callback : Callback) :
    Callback.Vouches toLowercase { callback with claims := some claims } verified.identity
      verified.email := by
  unfold Claims.verify at h
  split at h
  · cases h
  · next raw email =>
      split at h
      · cases h
      · split at h
        · cases h
        · next emailVerified =>
            cases h
            exact ⟨claims, rfl, rfl, not_not.mp emailVerified, raw, email, rfl⟩

theorem Inv.exchange {login : OidcState} {answer : Except ExchangeFailure Claims}
    (inv : Inv toLowercase signupCreditUsd opening w) (found : w.callbacks[n]? = some callback)
    (stage : callback.stage = .exchanging login) :
    Inv toLowercase signupCreditUsd opening (w.exchange toLowercase n callback answer) := by
  have ok := inv.callbacks n callback found
  have bare := ok.early (by rw [stage]; trivial)
  have unsigned := ok.pending (by rw [stage]; trivial)
  unfold World.exchange
  split
  · exact inv.finish found trivial
  · next claims =>
      -- the claims are new, but nothing was resolved by other ones before
      have shown : ∀ stage' : Stage, ¬ stage'.unshown → stage'.user? = none →
          (∀ u, stage' ≠ .welcoming u) →
          (∀ verified ∈ stage'.verified?, Callback.Vouches toLowercase
            { callback with claims := some claims } verified.identity verified.email) →
          Inv toLowercase signupCreditUsd opening
            (w.put n { callback with claims := some claims, stage := stage' }) := by
        intro stage' past user welcoming vouches
        refine inv.advance ⟨Nat.le_refl _, fun _ h => .inl h, .refl _, fun _ h => h⟩
          (World.turns_put found rfl) ?_ (fun _ h => h) ?_ ?_ (fun _ h => .inl h) ?_
        · refine ⟨fun _ => bare, fun _ => unsigned, ok.login, vouches, ?_, ?_, ok.inserted, ?_,
            ok.granted, fun h => absurd h past⟩
          · intro userId h
            rw [user] at h
            cases h
          · intro session h
            rw [unsigned] at h
            cases h
          · exact fun userId h => absurd h (welcoming userId)
        · exact fun row h => .inl ⟨callback, found, h⟩
        · exact fun userId h => .inl ⟨callback, found, h⟩
        · intro c was session h
          rw [found] at was
          cases was
          exact h
      split
      · exact shown _ id rfl nofun nofun
      · next verified checked =>
          refine shown _ id rfl nofun ?_
          rintro _ ⟨⟩
          exact claims.vouches checked callback

theorem Inv.select (inv : Inv toLowercase signupCreditUsd opening w)
    (found : w.callbacks[n]? = some callback) (stage : callback.stage = .selecting verified) :
    Inv toLowercase signupCreditUsd opening (w.select n callback verified fate) := by
  have ok := inv.callbacks n callback found
  have vouches := ok.vouches verified (by rw [stage]; rfl)
  unfold World.select
  split
  · next account hit =>
      obtain ⟨mem, bound⟩ := find_some hit
      rcases callback.proceed_cases fate (.signingIn account.id) with h | h
      · rw [h]
        refine inv.goto found (.refl w) rfl (fun _ mem => mem) (fun _ mem => mem) nofun
          (fun _ => by rw [stage]; trivial) nofun ?_ nofun id
        rintro _ ⟨⟩
        exact ⟨_, _, vouches, account, mem, rfl, bound⟩
      · rw [h]
        exact inv.finish found trivial
  · split
    · exact inv.finish found trivial
    · refine inv.goto found (.refl w) rfl (fun _ mem => mem) (fun _ mem => mem)
        (fun _ => by rw [stage]; trivial) (fun _ => by rw [stage]; trivial) ?_ nofun nofun id
      rintro _ ⟨⟩
      exact vouches

theorem Inv.claim (inv : Inv toLowercase signupCreditUsd opening w)
    (found : w.callbacks[n]? = some callback) (stage : callback.stage = .claiming verified) :
    Inv toLowercase signupCreditUsd opening (w.claim n callback verified fate) := by
  have ok := inv.callbacks n callback found
  have vouches := ok.vouches verified (by rw [stage]; rfl)
  unfold World.claim
  split
  · exact inv.finish found trivial
  · split
    · exact inv.finish found trivial
    · refine inv.goto found (.refl w) rfl (fun _ mem => mem) (fun _ mem => mem)
        (fun _ => by rw [stage]; trivial) (fun _ => by rw [stage]; trivial) ?_ nofun nofun id
      rintro _ ⟨⟩
      exact vouches
    · next accounts userId claimed =>
        have persist := persist_claimAccount claimed
        obtain ⟨account, mem, -, owner, rows⟩ := claimAccount_some claimed
        have grows : w.Grows { w with accounts } :=
          ⟨Nat.le_refl _, fun _ h => .inl h, persist, fun _ h => h⟩
        have resolves : World.Resolves toLowercase { w with accounts } callback userId :=
          ⟨_, _, vouches, account.bindTo verified.identity, (rows _).mpr (.inr rfl), owner,
            account.bound_bindTo verified.identity⟩
        rcases callback.proceed_cases fate (.signingIn userId) with h | h
        · rw [h]
          refine inv.goto found grows rfl (fun _ mem => mem) (fun _ mem => mem) nofun
            (fun _ => by rw [stage]; trivial) nofun ?_ nofun id
          rintro _ ⟨⟩
          exact resolves
        · rw [h]
          exact inv.goto found grows rfl (fun _ mem => mem) (fun _ mem => mem) nofun nofun nofun
            nofun nofun id

theorem Inv.insert (inv : Inv toLowercase signupCreditUsd opening w)
    (found : w.callbacks[n]? = some callback) (stage : callback.stage = .inserting verified) :
    Inv toLowercase signupCreditUsd opening (w.insert n callback verified userId fate) := by
  have ok := inv.callbacks n callback found
  have vouches := ok.vouches verified (by rw [stage]; rfl)
  have bare := ok.early (by rw [stage]; trivial)
  have unsigned := ok.pending (by rw [stage]; trivial)
  unfold World.insert
  split
  · exact inv.finish found trivial
  · split
    · exact inv.finish found trivial
    · exact inv.finish found trivial
    · next accounts inserted =>
        split
        · exact inv.finish found trivial
        · next users _ =>
            obtain ⟨rows, ids, -⟩ := insertAccount_some inserted
            have stay : Persist w.accounts accounts :=
              persist_of_subset fun account mem => (rows account).mpr (.inl mem)
            have grows : w.Grows { w with accounts, db := { w.db with users } } :=
              ⟨Nat.le_refl _, fun _ h => .inl h, stay, fun _ h => h⟩
            have mine : verified.account userId ∈ accounts := (rows _).mpr (.inr rfl)
            have grown := ok.grows grows
            -- whether or not the commit is heard of, the user is this callback's
            have goes : ∀ stage' : Stage, (¬ stage'.early) → stage'.verified? = none →
                (∀ u ∈ stage'.user?, u = userId) →
                (∀ u, stage' = .welcoming u → u = userId) →
                Inv toLowercase signupCreditUsd opening
                  ({ w with accounts, db := { w.db with users } }.put n
                    { callback with inserted := some userId, stage := stage' }) := by
              intro stage' late verified? user welcoming
              refine inv.advance ⟨grows.logins, grows.states,
                grows.accounts, grows.ledger⟩ (World.turns_put found rfl) ?_ (fun _ h => h) ?_ ?_
                (fun _ h => .inl h) ?_
              · refine ⟨fun h => absurd h late, fun _ => unsigned, grown.login, ?_, ?_,
                  grown.session, ?_, ?_, ?_, fun h => absurd (Stage.early_of_unshown h) late⟩
                · intro v h
                  rw [verified?] at h
                  cases h
                · intro u h
                  rw [user u h]
                  exact ⟨_, _, vouches, _, mine, rfl, rfl, rfl⟩
                · rintro _ ⟨⟩
                  refine ⟨⟨_, mine, rfl⟩, fun account mem same => ?_⟩
                  obtain ⟨account', mem', id⟩ := inv.since account mem
                  exact ids account' mem' (id.trans same)
                · intro u h
                  rw [welcoming u h]
                  exact ⟨rfl, bare.2⟩
                · intro row h
                  rw [bare.2] at h
                  cases h
              · exact fun row h => .inl ⟨callback, found, h⟩
              · rintro _ ⟨⟩
                exact .inr ids
              · intro c was session h
                rw [found] at was
                cases was
                exact h
            rcases Callback.proceed_cases { callback with inserted := some userId } fate
              (.welcoming userId) with h | h
            · rw [h]
              refine goes _ id rfl ?_ ?_
              · rintro _ ⟨⟩
                rfl
              · rintro _ ⟨⟩
                rfl
            · rw [h]
              exact goes _ id rfl nofun nofun

theorem Inv.grant (inv : Inv toLowercase signupCreditUsd opening w)
    (found : w.callbacks[n]? = some callback) (stage : callback.stage = .welcoming userId) :
    Inv toLowercase signupCreditUsd opening
      (w.grant signupCreditUsd n callback userId fate) := by
  have ok := inv.callbacks n callback found
  have resolves := ok.resolves userId (by rw [stage]; rfl)
  have unsigned := ok.pending (by rw [stage]; trivial)
  obtain ⟨inserted, -⟩ := ok.welcoming userId stage
  have without : Inv toLowercase signupCreditUsd opening
      (w.put n (callback.at (.signingIn userId))) := by
    refine inv.goto found (.refl w) rfl (fun _ mem => mem) (fun _ mem => mem) nofun
      (fun _ => by rw [stage]; trivial) nofun ?_ nofun id
    rintro _ ⟨⟩
    exact resolves
  unfold World.grant
  split
  · exact without
  · split
    · exact without
    · next db row granted =>
        obtain ⟨ledger, entry⟩ := grantPromo_ok granted
        have grows : w.Grows { w with db } :=
          ⟨Nat.le_refl _, fun _ h => .inl h, .refl _, ledger⟩
        have grown := ok.grows grows
        refine inv.advance ⟨grows.logins, grows.states, grows.accounts,
          grows.ledger⟩ (World.turns_put found rfl) ?_ (fun _ h => h) ?_ ?_
          (fun _ h => .inl h) ?_
        · refine ⟨nofun, fun _ => unsigned, grown.login, nofun, ?_, grown.session,
            grown.inserted, nofun, ?_, nofun⟩
          · rintro _ ⟨⟩
            exact resolves
          · intro promo h
            obtain ⟨entered, user, type, amount⟩ := entry promo h
            refine ⟨entered, type, amount, ?_⟩
            rw [user]
            exact inserted
        · exact fun state h => .inl ⟨callback, found, h⟩
        · exact fun u h => .inl ⟨callback, found, h⟩
        · intro c was session h
          rw [found] at was
          cases was
          exact h

theorem Inv.createSession {session : PortalSession}
    (inv : Inv toLowercase signupCreditUsd opening w) (found : w.callbacks[n]? = some callback)
    (stage : callback.stage = .signingIn session.userId) :
    Inv toLowercase signupCreditUsd opening (w.createSession n callback session fate) := by
  have ok := inv.callbacks n callback found
  have resolves := ok.resolves session.userId (by rw [stage]; rfl)
  have unsigned := ok.pending (by rw [stage]; trivial)
  unfold World.createSession
  split
  · exact inv.finish found trivial
  · split
    · exact inv.finish found trivial
    · next sessions stored =>
        have goes : ∀ stage' : Stage, ¬ stage'.pending → stage'.over ∨ stage' = .signedIn session →
            Inv toLowercase signupCreditUsd opening ({ w with sessions }.put n
              { callback with session := some session, stage := stage' }) := by
          intro stage' done late
          have still : stage'.verified? = none ∧ stage'.user? = none ∧
              (∀ u, stage' ≠ .welcoming u) ∧ ¬ stage'.early := by
            rcases late with h | rfl
            · obtain ⟨verified?, user?, welcoming⟩ := h.still
              refine ⟨verified?, user?, welcoming, fun early => done ?_⟩
              cases stage' with
              | arrived | exchanging | selecting | claiming | inserting => trivial
              | _ => cases early
            · exact ⟨rfl, rfl, nofun, id⟩
          refine inv.advance ⟨Nat.le_refl _, fun _ h => .inl h, .refl _,
            fun _ h => h⟩ (World.turns_put found rfl) ?_ (fun _ h => h) ?_ ?_ ?_ ?_
          · refine ⟨fun h => absurd h still.2.2.2, fun h => absurd h done, ok.login, ?_, ?_, ?_,
              ok.inserted, fun u h => absurd h (still.2.2.1 u), ok.granted,
              fun h => absurd (Stage.early_of_unshown h) still.2.2.2⟩
            · intro v h
              rw [still.1] at h
              cases h
            · intro u h
              rw [still.2.1] at h
              cases h
            · rintro _ ⟨⟩
              exact resolves
          · exact fun state h => .inl ⟨callback, found, h⟩
          · exact fun u h => .inl ⟨callback, found, h⟩
          · intro s h
            rcases (mem_insert stored).mp h with old | rfl
            · exact .inl old
            · exact .inr rfl
          · intro c was s h
            rw [found] at was
            cases was
            rw [unsigned] at h
            cases h
        rcases Callback.proceed_cases { callback with session := some session } fate
          (.signedIn session) with h | h
        · rw [h]
          exact goes _ id (.inr rfl)
        · rw [h]
          exact goes _ id (.inl trivial)

theorem Inv.login {nonce pkceVerifier : String} (inv : Inv toLowercase signupCreditUsd opening w) :
    Inv toLowercase signupCreditUsd opening (w.login state nonce pkceVerifier now) := by
  unfold World.login
  split
  · next states stored =>
      refine inv.keep ⟨Nat.le_succ _, ?_, .refl _, fun _ h => h⟩ rfl ?_ ?_ (fun _ h => h)
      · intro row mem
        rcases (mem_insert stored).mp mem with old | rfl
        · exact .inl old
        · exact .inr (Nat.le_refl _)
      · intro row mem
        rcases (mem_insert stored).mp mem with old | rfl
        · exact Nat.lt_succ_of_lt (inv.stored row old)
        · exact Nat.lt_succ_self _
      · intro a ha b hb same
        rcases (mem_insert stored).mp ha with olda | rfl
        · rcases (mem_insert stored).mp hb with oldb | rfl
          · exact inv.once a olda b oldb same
          · exact absurd same (Nat.ne_of_lt (inv.stored a olda))
        · rcases (mem_insert stored).mp hb with oldb | rfl
          · exact absurd same.symm (Nat.ne_of_lt (inv.stored b oldb))
          · rfl
  · exact inv

/-- The operator's row joins the others, or nothing changes. -/
theorem World.provision_cases (w : World) (userId : Uuid) (email : String) :
    w.provision userId email = w ∨ ∃ accounts users,
      insertAccount w.accounts (provisionedAccount userId email) = .ok (some accounts) ∧
        w.provision userId email = { w with accounts, db := { w.db with users } } := by
  unfold World.provision
  split
  · next accounts inserted =>
      split
      · next users _ => exact .inr ⟨accounts, users, inserted, rfl⟩
      · exact .inl rfl
  · exact .inl rfl

theorem Inv.step (inv : Inv toLowercase signupCreditUsd opening w)
    (h : step toLowercase signupCreditUsd w action = some w') :
    Inv toLowercase signupCreditUsd opening w' := by
  cases action with
  | login state nonce pkceVerifier now =>
      cases h
      exact inv.login
  | sweepStates now =>
      cases h
      have left : ∀ row ∈ w.states.deleteWhere (fun row => row.expiresAt ≤ now),
          row ∈ w.states := fun row mem => (mem_deleteWhere.mp mem).1
      exact inv.keep ⟨Nat.le_refl _, fun row mem => .inl (left row mem), .refl _, fun _ h => h⟩
        rfl (fun row mem => inv.stored row (left row mem))
        (fun a ha b hb => inv.once a (left a ha) b (left b hb)) (fun _ h => h)
  | arrive request =>
      cases h
      refine inv.advance ⟨Nat.le_refl _, fun _ h => .inl h, .refl _, fun _ h => h⟩
        (w.turns_arrive request) ?_ (fun _ h => h) nofun nofun (fun _ h => .inl h) ?_
      · exact ⟨fun _ => ⟨rfl, rfl⟩, fun _ => rfl, nofun, nofun, nofun, nofun, nofun, nofun, nofun,
          fun _ => rfl⟩
      · intro c found
        rw [List.getElem?_eq_none (Nat.le_refl _)] at found
        cases found
  | consume n now fate =>
      obtain ⟨callback, found, h⟩ := bind_eq_some_iff.mp h
      cases stage : callback.stage <;> simp only [stage] at h <;> cases h
      exact inv.consume found stage
  | exchange n answer =>
      obtain ⟨callback, found, h⟩ := bind_eq_some_iff.mp h
      cases stage : callback.stage <;> simp only [stage] at h <;> cases h
      exact inv.exchange found stage
  | select n fate =>
      obtain ⟨callback, found, h⟩ := bind_eq_some_iff.mp h
      cases stage : callback.stage <;> simp only [stage] at h <;> cases h
      exact inv.select found stage
  | claim n fate =>
      obtain ⟨callback, found, h⟩ := bind_eq_some_iff.mp h
      cases stage : callback.stage <;> simp only [stage] at h <;> cases h
      exact inv.claim found stage
  | insert n userId fate =>
      obtain ⟨callback, found, h⟩ := bind_eq_some_iff.mp h
      cases stage : callback.stage <;> simp only [stage] at h <;> cases h
      exact inv.insert found stage
  | grant n fate =>
      obtain ⟨callback, found, h⟩ := bind_eq_some_iff.mp h
      cases stage : callback.stage <;> simp only [stage] at h <;> cases h
      exact inv.grant found stage
  | createSession n sessionId tokenHash fate =>
      obtain ⟨callback, found, h⟩ := bind_eq_some_iff.mp h
      cases stage : callback.stage <;> simp only [stage] at h <;> cases h
      exact inv.createSession found stage
  | lose n =>
      obtain ⟨callback, found, rfl⟩ := map_eq_some_iff.mp h
      exact inv.finish found trivial
  | endSession sessionId =>
      cases h
      exact inv.keep ⟨Nat.le_refl _, fun _ h => .inl h, .refl _, fun _ h => h⟩ rfl inv.stored
        inv.once (fun session mem => (mem_deleteWhere.mp mem).1)
  | provision userId email =>
      cases h
      rcases w.provision_cases userId email with same | ⟨accounts, users, inserted, same⟩
      · rw [same]
        exact inv
      · rw [same]
        have stay := persist_of_subset fun account mem =>
          ((insertAccount_some inserted).1 account).mpr (.inl mem)
        exact inv.keep ⟨Nat.le_refl _, fun _ h => .inl h, stay, fun _ h => h⟩ rfl inv.stored
          inv.once (fun _ h => h)
  | move userId creditReversal delta entry =>
      simp only [Oidc.step] at h
      split at h
      · next db moved =>
          cases h
          exact inv.keep ⟨Nat.le_refl _, fun _ h => .inl h, .refl _, moveBalance_ledger moved⟩
            rfl inv.stored inv.once (fun _ h => h)
      · cases h
        exact inv

end ZeroRouter.Oidc
