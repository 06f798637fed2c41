import ZeroRouter.Proofs.Logins

/-!
# One identity, one account

Each login state is spent once, an identity keeps its user, a session and a signup credit go
to the user the identity resolves to.  A callback is answered `EmailConflict` for another
identity's email, as long as no user of its own identity and email is committed between its
`SELECT` and its `INSERT`.
-/

namespace ZeroRouter.Oidc

open Option Relational Transition World List

variable {toLowercase : String → String} {signupCreditUsd : Decimal} {opening w w' : World}
  {callback : Callback} {verified : Verified} {action : Action} {n : Nat} {fate : Fate}
  {callback' : Callback} {userId : Uuid} {email : String}

/-! ## What is asked of a run -/

/-- What is asked of a state: the login states, the users and their identities, the
    sessions, the signup credits and the refusals that the callbacks have left. -/
structure World.Sound (toLowercase : String → String) (signupCreditUsd : Decimal)
    (w opening : World) : Prop where
  /-- A login state is consumed by one callback. -/
  consumedOnce : ∀ (m n : Nat) (c d : Callback) (row row' : OidcState), w.callbacks[m]? = some c →
    w.callbacks[n]? = some d → c.login = some row → d.login = some row' →
    row.login = row'.login → m = n
  /-- It carries the cookie of that state. -/
  consumedByCookie : ∀ callback ∈ w.callbacks, ∀ row ∈ callback.login,
    callback.request.params.loginState = some row.state ∧
      oidcCookieValue callback.request.cookies oidcStateCookie = some row.state
  oneUser : ∀ identity, ∀ a ∈ w.accounts, ∀ b ∈ w.accounts,
    a.Bound identity → b.Bound identity → a = b
  sessions : ∀ session ∈ w.sessions, session ∈ opening.sessions ∨
    ∃ callback ∈ w.callbacks, callback.session = some session ∧
      w.Resolves toLowercase callback session.userId
  /-- Every grant is a ledger row, of a user the same callback inserted. -/
  grants : ∀ callback ∈ w.callbacks, ∀ row ∈ callback.granted,
    row ∈ w.db.creditLedger ∧ row.entryType = .promo ∧ row.amountUsd = signupCreditUsd ∧
      callback.inserted = some row.userId ∧ ∀ account ∈ opening.accounts, account.id ≠ row.userId
  grantedOnce : ∀ (m n : Nat) (c d : Callback) (row row' : CreditLedger), w.callbacks[m]? = some c →
    w.callbacks[n]? = some d → c.granted = some row → d.granted = some row' →
    row.userId = row'.userId → m = n
  /-- The email of a refused callback is another identity's. -/
  conflicts : ∀ callback ∈ w.callbacks, callback.stage = .refused .emailConflict →
    ∃ identity email, callback.Vouches toLowercase identity email ∧
      ∃ account ∈ w.accounts, account.email = email ∧
        ∃ other, account.Bound other ∧ other ≠ identity

/-- What is asked of two states of one run: users stay, with their emails and their
    identities, and one that is bound meanwhile is bound to an identity that showed its
    email. -/
def World.Kept (toLowercase : String → String) (w w' : World) : Prop :=
  ∀ account ∈ w.accounts, ∃ account' ∈ w'.accounts,
    account'.id = account.id ∧ account'.email = account.email ∧
      (∀ identity, account.Bound identity → account'.Bound identity) ∧
      ∀ identity, account'.Bound identity → account.Bound identity ∨
        account.oidcIssuer = none ∧ ∃ callback ∈ w'.callbacks,
          callback.Vouches toLowercase identity account.email

/-! ## The condition -/

/-- What a callback that has found no user of its identity is looking for. -/
def Callback.searching (callback : Callback) : Option Verified :=
  match callback.stage with
  | .claiming verified | .inserting verified => some verified
  | _ => none

/-- The `UPDATE` or the `INSERT` that a step commits for a callback. -/
def World.binds (w : World) : Action → Option (Nat × Verified)
  | .claim n fate =>
      match w.callbacks[n]?.map Callback.stage with
      | some (.claiming verified) =>
          match fate, claimAccount w.accounts verified with
          | .commit, .ok (some _) | .commitUnseen, .ok (some _) => some (n, verified)
          | _, _ => none
      | _ => none
  | .insert n userId fate =>
      match w.callbacks[n]?.map Callback.stage with
      | some (.inserting verified) =>
          match fate, insertAccount w.accounts (verified.account userId) with
          | .commit, .ok (some _) | .commitUnseen, .ok (some _) => some (n, verified)
          | _, _ => none
      | _ => none
  | _ => none

/-- The email of the user that a step provisions. -/
def World.provisions (w : World) : Action → Option String
  | .provision userId email =>
      match insertAccount w.accounts (provisionedAccount userId email) with
      | .ok (some _) => some email
      | _ => none
  | _ => none

/-- The step commits no user of an identity and an email that another callback is about to
    claim or insert, and provisions no email that a callback is about to insert. -/
def Undisturbed (w : World) (action : Action) : Prop :=
  (∀ bound ∈ w.binds action, ∀ m < w.callbacks.length, m ≠ bound.1 →
    w.callbacks[m]?.bind Callback.searching ≠ some bound.2) ∧
  ∀ email ∈ w.provisions action, ∀ callback ∈ w.callbacks,
    ∀ verified ∈ callback.searching, callback.stage = .inserting verified →
      verified.email ≠ email

instance (w : World) (action : Action) : Decidable (Undisturbed w action) :=
  inferInstanceAs (Decidable ((∀ _ ∈ _, ∀ _ < _, _ → _) ∧ ∀ _ ∈ _, ∀ _ ∈ _, ∀ _ ∈ _, _ → _))

/-! ## What a step does -/

/-- No user of the callback's identity has been committed when it goes on looking. -/
structure Looks (w : World) (before : Option Callback) (callback' : Callback) : Prop where
  searching : ∀ verified ∈ callback'.searching, before.bind Callback.searching = some verified ∨
    ∀ account ∈ w.accounts, ¬ account.Bound verified.identity
  inserting : ∀ verified, callback'.stage = .inserting verified →
    ∀ account ∈ w.accounts, ¬ account.Claimable verified.email
  conflict : callback'.stage = .refused .emailConflict → ∃ callback verified,
    before = some callback ∧ callback.stage = .inserting verified ∧
      callback'.claims = callback.claims ∧ ∃ account ∈ w.accounts, account.email = verified.email

/-- The claims a callback was shown are kept. -/
def KeepsClaims (before : Option Callback) (callback' : Callback) : Prop :=
  ∀ callback, before = some callback → ∀ claims ∈ callback.claims, callback'.claims = some claims

/-- What a step does to the users and to the callbacks. -/
inductive Moved (w : World) (action : Action) (w' : World) : Prop where
  | kept (callbacks : w'.callbacks = w.callbacks) (accounts : w'.accounts = w.accounts)
  | provisioned {userId : Uuid} {email : String} (callbacks : w'.callbacks = w.callbacks)
      (provisions : w.provisions action = some email)
      (rows : ∀ x, x ∈ w'.accounts ↔ x ∈ w.accounts ∨ x = provisionedAccount userId email)
  | turned {n : Nat} {callback' : Callback} (turns : w.Turns w' n callback')
      (accounts : w'.accounts = w.accounts) (claims : KeepsClaims w.callbacks[n]? callback')
      (looks : Looks w w.callbacks[n]? callback')
  | bound {n : Nat} {callback callback' : Callback} {verified : Verified}
      (found : w.callbacks[n]? = some callback) (turns : w.Turns w' n callback')
      (claims : callback'.claims = callback.claims) (binds : w.binds action = some (n, verified))
      (searching : callback.stage.verified? = some verified)
      (found' : callback'.searching = none) (granted : callback'.stage ≠ .refused .emailConflict)
      (persist : Persist w.accounts w'.accounts)
      (rows : ∀ x ∈ w'.accounts, x ∈ w.accounts ∨
        x.email = verified.email ∧ x.Bound verified.identity)

/-- A stage in which the callback neither looks for a user nor is told of a conflict. -/
def Stage.apart : Stage → Prop
  | .claiming _ | .inserting _ | .refused .emailConflict => False
  | _ => True

theorem Looks.of_apart {before : Option Callback} (apart : callback'.stage.apart) :
    Looks w before callback' where
  searching verified h := by
    unfold Callback.searching at h
    split at h
    · next stage =>
        rw [stage] at apart
        cases apart
    · next stage =>
        rw [stage] at apart
        cases apart
    · cases h
  inserting verified h := by
    rw [h] at apart
    cases apart
  conflict h := by
    rw [h] at apart
    cases apart

theorem Moved.turn (found : w.callbacks[n]? = some callback) (same : w'.callbacks = w.callbacks)
    (accounts : w'.accounts = w.accounts) (claims : callback'.claims = callback.claims)
    (looks : Looks w (some callback) callback') :
    Moved w action (w'.put n callback') := by
  refine .turned (turns_put found same) accounts ?_ ?_
  · intro c was shown mem
    rw [found] at was
    cases was
    rw [claims]
    exact mem
  · rw [found]
    exact looks

theorem Moved.goto {stage : Stage} (found : w.callbacks[n]? = some callback)
    (apart : stage.apart) : Moved w action (w.put n (callback.at stage)) :=
  .turn found rfl rfl rfl (.of_apart apart)

theorem Callback.apart_restart (callback : Callback) :
    ∃ stage : Stage, stage.apart ∧ callback.restart = callback.at stage := by
  unfold Callback.restart CallbackRequest.restartSignIn
  split
  · exact ⟨.restarted, trivial, rfl⟩
  · next error h =>
      split at h
      · cases h
        exact ⟨.refused .stateInvalid, trivial, rfl⟩
      · cases h

/-- A statement that goes through leads to an apart stage if it was to lead to one. -/
theorem Callback.apart_proceed (callback : Callback) (fate : Fate) {stage : Stage}
    (apart : stage.apart) :
    (callback.proceed fate stage).stage.apart ∧
      (callback.proceed fate stage).claims = callback.claims := by
  rcases callback.proceed_cases fate stage with h | h
  · rw [h]
    exact ⟨apart, rfl⟩
  · rw [h]
    exact ⟨trivial, rfl⟩

theorem World.apart_spend (callback : Callback) (row : OidcState) (fate : Fate) :
    (spend callback row fate).stage.apart ∧
      (spend callback row fate).claims = callback.claims := by
  unfold spend
  by_cases failed : callback.request.params.error.isSome
  · simp only [failed, if_true]
    exact Callback.apart_proceed { callback with login := some row } fate trivial
  · simp only [failed]
    cases callback.request.params.presentCode with
    | none => exact Callback.apart_proceed { callback with login := some row } fate trivial
    | some code => exact Callback.apart_proceed { callback with login := some row } fate trivial

theorem moved_consume {now : Timestamp} (found : w.callbacks[n]? = some callback) :
    Moved w action (w.consume n callback now fate) := by
  obtain ⟨stage', apart, restarted⟩ := callback.apart_restart
  have restarts : Moved w action (w.put n callback.restart) := by
    rw [restarted]
    exact .goto found apart
  unfold consume
  split
  · exact restarts
  · split
    · exact restarts
    · split
      · exact .goto found trivial
      · split
        · obtain ⟨apart', claims⟩ := callback.apart_proceed fate apart
          rw [restarted]
          exact .turn found rfl rfl claims (.of_apart apart')
        · next row _ =>
            obtain ⟨apart', claims⟩ := apart_spend callback row fate
            exact .turn found rfl rfl claims (.of_apart apart')

theorem moved_exchange {login : OidcState} {answer : Except ExchangeFailure Claims}
    (inv : Inv toLowercase signupCreditUsd opening w) (found : w.callbacks[n]? = some callback)
    (stage : callback.stage = .exchanging login) :
    Moved w action (w.exchange toLowercase n callback answer) := by
  have unshown := (inv.callbacks n callback found).unshown (by rw [stage]; trivial)
  unfold exchange
  split
  · next failure =>
      refine .goto found ?_
      cases failure <;> trivial
  · next claims =>
      -- there were no claims to keep
      have shown : ∀ stage' : Stage, stage'.apart →
          Moved w action (w.put n { callback with claims := some claims, stage := stage' }) := by
        intro stage' apart
        refine .turned (turns_put found rfl) rfl ?_ (.of_apart apart)
        intro c was claims' mem
        rw [found] at was
        cases was
        rw [unshown] at mem
        cases mem
      split
      · next error checked =>
          refine shown _ ?_
          unfold Claims.verify at checked
          repeat' split at checked
          all_goals cases checked
          all_goals trivial
      · exact shown _ trivial

theorem moved_select (found : w.callbacks[n]? = some callback) :
    Moved w action (w.select n callback verified fate) := by
  unfold select
  split
  · next account _ =>
      obtain ⟨apart, claims⟩ := callback.apart_proceed fate
        (show (Stage.signingIn account.id).apart from trivial)
      exact .turn found rfl rfl claims (.of_apart apart)
  · next free =>
      split
      · exact .goto found trivial
      · refine .turn found rfl rfl rfl ⟨?_, nofun, nofun⟩
        rintro _ ⟨⟩
        exact .inr (Table.find_none free)

theorem moved_claim (found : w.callbacks[n]? = some callback)
    (stage : callback.stage = .claiming verified) :
    Moved w (.claim n fate) (w.claim n callback verified fate) := by
  unfold claim
  split
  · exact .goto found trivial
  · next through =>
      split
      · exact .goto found trivial
      · next nobody =>
          refine .turn found rfl rfl rfl ⟨?_, ?_, nofun⟩
          · rintro _ ⟨⟩
            left
            simp only [bind_some, Callback.searching, stage]
          · rintro _ ⟨⟩
            exact claimAccount_none nobody
      · next accounts userId claimed =>
          obtain ⟨apart, claims⟩ := callback.apart_proceed fate
            (show (Stage.signingIn userId).apart from trivial)
          have binds : w.binds (.claim n fate) = some (n, verified) := by
            cases fate with
            | commit | commitUnseen => simp [binds, found, stage, claimed]
            | rollback => exact absurd rfl through
          refine .bound found (turns_put found rfl) claims binds (by rw [stage]; rfl) ?_ ?_
            (persist_claimAccount claimed) ?_
          · rcases callback.proceed_cases fate (.signingIn userId) with h | h
            · rw [h]
              rfl
            · rw [h]
              rfl
          · intro conflict
            rw [conflict] at apart
            cases apart
          · obtain ⟨account, _, claimable, _, rows⟩ := claimAccount_some claimed
            intro x mem
            rcases (rows x).mp mem with ⟨old, _⟩ | rfl
            · exact .inl old
            · exact .inr ⟨claimable.1, account.bound_bindTo _⟩

theorem moved_insert (found : w.callbacks[n]? = some callback)
    (stage : callback.stage = .inserting verified) :
    Moved w (.insert n userId fate) (w.insert n callback verified userId fate) := by
  unfold World.insert
  split
  · exact .goto found trivial
  · next through =>
      split
      · exact .goto found trivial
      · next taken =>
          refine .turn found rfl rfl rfl ⟨nofun, nofun, fun _ => ?_⟩
          exact ⟨callback, verified, rfl, stage, rfl, insertAccount_none taken⟩
      · next accounts inserted =>
          split
          · exact .goto found trivial
          · next users _ =>
              obtain ⟨rows, -, -⟩ := insertAccount_some inserted
              obtain ⟨apart, claims⟩ := Callback.apart_proceed
                { callback with inserted := some userId } fate (show (Stage.welcoming userId).apart from trivial)
              have binds : w.binds (.insert n userId fate) = some (n, verified) := by
                cases fate with
                | commit | commitUnseen => simp [World.binds, found, stage, inserted]
                | rollback => exact absurd rfl through
              refine .bound found (World.turns_put found rfl) claims binds (by rw [stage]; rfl)
                ?_ ?_ (persist_of_subset fun account mem => (rows account).mpr (.inl mem)) ?_
              · rcases Callback.proceed_cases { callback with inserted := some userId } fate
                  (.welcoming userId) with h | h
                · rw [h]
                  rfl
                · rw [h]
                  rfl
              · intro conflict
                rw [conflict] at apart
                cases apart
              · intro x mem
                rcases (rows x).mp mem with old | rfl
                · exact .inl old
                · exact .inr ⟨rfl, rfl, rfl⟩

theorem moved_grant (found : w.callbacks[n]? = some callback) :
    Moved w action (w.grant signupCreditUsd n callback userId fate) := by
  unfold grant
  split
  · exact .goto found trivial
  · split
    · exact .goto found trivial
    · exact .turn found rfl rfl rfl (.of_apart trivial)

theorem moved_createSession {session : PortalSession} (found : w.callbacks[n]? = some callback) :
    Moved w action (w.createSession n callback session fate) := by
  unfold createSession
  split
  · exact .goto found trivial
  · split
    · exact .goto found trivial
    · obtain ⟨apart, claims⟩ := Callback.apart_proceed
        { callback with session := some session } fate (show (Stage.signedIn session).apart from trivial)
      exact .turn found rfl rfl claims (.of_apart apart)

theorem moved (inv : Inv toLowercase signupCreditUsd opening w)
    (h : step toLowercase signupCreditUsd w action = some w') : Moved w action w' := by
  cases action with
  | login state nonce pkceVerifier now =>
      cases h
      unfold login
      split
      · exact .kept rfl rfl
      · exact .kept rfl rfl
  | sweepStates now =>
      cases h
      exact .kept rfl rfl
  | arrive request =>
      cases h
      refine .turned (w.turns_arrive request) rfl ?_ (.of_apart trivial)
      intro c found
      rw [getElem?_eq_none (Nat.le_refl _)] at found
      cases found
  | consume n now fate =>
      obtain ⟨callback, found, h⟩ := bind_eq_some_iff.mp h
      cases stage : callback.stage <;> simp only [stage] at h <;> cases h
      exact moved_consume found
  | exchange n answer =>
      obtain ⟨callback, found, h⟩ := bind_eq_some_iff.mp h
      cases stage : callback.stage <;> simp only [stage] at h <;> cases h
      exact moved_exchange inv found stage
  | select n fate =>
      obtain ⟨callback, found, h⟩ := bind_eq_some_iff.mp h
      cases stage : callback.stage <;> simp only [stage] at h <;> cases h
      exact moved_select found
  | claim n fate =>
      obtain ⟨callback, found, h⟩ := bind_eq_some_iff.mp h
      cases stage : callback.stage <;> simp only [stage] at h <;> cases h
      exact moved_claim found stage
  | insert n userId fate =>
      obtain ⟨callback, found, h⟩ := bind_eq_some_iff.mp h
      cases stage : callback.stage <;> simp only [stage] at h <;> cases h
      exact moved_insert found stage
  | grant n fate =>
      obtain ⟨callback, found, h⟩ := bind_eq_some_iff.mp h
      cases stage : callback.stage <;> simp only [stage] at h <;> cases h
      exact moved_grant found
  | createSession n sessionId tokenHash fate =>
      obtain ⟨callback, found, h⟩ := bind_eq_some_iff.mp h
      cases stage : callback.stage <;> simp only [stage] at h <;> cases h
      exact moved_createSession found
  | lose n =>
      obtain ⟨callback, found, rfl⟩ := map_eq_some_iff.mp h
      exact .goto found trivial
  | endSession sessionId =>
      cases h
      exact .kept rfl rfl
  | provision userId email =>
      cases h
      rcases w.provision_cases userId email with same | ⟨accounts, users, inserted, same⟩
      · rw [same]
        exact .kept rfl rfl
      · rw [same]
        exact .provisioned rfl (by simp [provisions, inserted])
          (insertAccount_some inserted).1
  | move userId creditReversal delta entry =>
      simp only [Oidc.step] at h
      split at h
      · cases h
        exact .kept rfl rfl
      · cases h
        exact .kept rfl rfl

/-! ## Users over a run -/

/-- Every callback keeps the claims it was shown. -/
def World.Remembers (w w' : World) : Prop :=
  ∀ (n : Nat) (c : Callback), w.callbacks[n]? = some c →
    ∃ c', w'.callbacks[n]? = some c' ∧ ∀ claims ∈ c.claims, c'.claims = some claims

theorem World.Remembers.of_eq (callbacks : w'.callbacks = w.callbacks) : w.Remembers w' := by
  intro n c found
  rw [callbacks]
  exact ⟨c, found, fun _ mem => mem⟩

theorem World.Remembers.of_turns (turns : w.Turns w' n callback')
    (claims : KeepsClaims w.callbacks[n]? callback') : w.Remembers w' := by
  intro m c found
  by_cases here : m = n
  · subst here
    exact ⟨callback', turns.here, claims c found⟩
  · exact ⟨c, (turns.others m here).trans found, fun _ mem => mem⟩

theorem Moved.remembers (moved : Moved w action w') : w.Remembers w' := by
  cases moved with
  | kept callbacks => exact .of_eq callbacks
  | provisioned callbacks => exact .of_eq callbacks
  | turned turns _ claims => exact .of_turns turns claims
  | bound found turns claims =>
      refine .of_turns turns ?_
      intro c was shown mem
      rw [found] at was
      cases was
      rw [claims]
      exact mem

theorem World.Remembers.vouches {identity : Identity} (remembers : w.Remembers w')
    (h : ∃ callback ∈ w.callbacks, callback.Vouches toLowercase identity email) :
    ∃ callback ∈ w'.callbacks, callback.Vouches toLowercase identity email := by
  obtain ⟨callback, mem, claims, shown, rest⟩ := h
  obtain ⟨n, found⟩ := mem_iff_getElem?.mp mem
  obtain ⟨callback', found', kept⟩ := remembers n callback found
  exact ⟨callback', mem_of_getElem? found', claims, kept claims shown, rest⟩

theorem World.Remembers.trans {w'' : World} (first : w.Remembers w')
    (second : w'.Remembers w'') : w.Remembers w'' := by
  intro n c found
  obtain ⟨c', found', kept⟩ := first n c found
  obtain ⟨c'', found'', kept'⟩ := second n c' found'
  exact ⟨c'', found'', fun claims mem => kept' claims (kept claims mem)⟩

theorem World.Kept.of_eq (accounts : w'.accounts = w.accounts) : w.Kept toLowercase w' := by
  intro account mem
  rw [accounts]
  exact ⟨account, mem, rfl, rfl, fun _ bound => bound, fun _ bound => .inl bound⟩

/-- A step binds a user only to the identity of the callback it goes on with. -/
theorem Moved.users (inv : Inv toLowercase signupCreditUsd opening w)
    (moved : Moved w action w') : w.Kept toLowercase w' := by
  cases moved with
  | kept _ accounts => exact .of_eq accounts
  | turned _ accounts => exact .of_eq accounts
  | provisioned _ _ rows =>
      intro account mem
      exact ⟨account, (rows account).mpr (.inl mem), rfl, rfl, fun _ bound => bound,
        fun _ bound => .inl bound⟩
  | @bound n callback callback' verified found turns claims _ searching _ _ persist rows =>
      intro account mem
      obtain ⟨account', mem', id, email, keeps⟩ := persist account mem
      refine ⟨account', mem', id, email, keeps, fun identity now => ?_⟩
      rcases rows account' mem' with old | ⟨mine, bound⟩
      · left
        rw [accounts_eq_of_id mem old id.symm]
        exact now
      · cases now.eq bound
        by_cases free : account.oidcIssuer = none
        · right
          refine ⟨free, callback', mem_of_getElem? turns.here, ?_⟩
          obtain ⟨shown, has, rest⟩ := (inv.callbacks n callback found).vouches verified searching
          rw [← email, mine]
          exact ⟨shown, claims.trans has, rest⟩
        · left
          obtain ⟨other, was⟩ := Account.bound_of_issuer mem free
          rw [now.eq (keeps other was)]
          exact was

theorem World.Kept.trans {w'' : World} (remembers : w'.Remembers w'')
    (first : w.Kept toLowercase w') (second : w'.Kept toLowercase w'') :
    w.Kept toLowercase w'' := by
  intro account mem
  obtain ⟨account', mem', id, email, keeps, binds⟩ := first account mem
  obtain ⟨account'', mem'', id', email', keeps', binds'⟩ := second account' mem'
  refine ⟨account'', mem'', id'.trans id, email'.trans email,
    fun identity bound => keeps' identity (keeps identity bound), fun identity now => ?_⟩
  rcases binds' identity now with before | ⟨free, vouched⟩
  · rcases binds identity before with was | ⟨free, vouched⟩
    · exact .inl was
    · exact .inr ⟨free, remembers.vouches vouched⟩
  · right
    rw [email] at vouched
    refine ⟨?_, vouched⟩
    by_contra bound
    obtain ⟨other, was⟩ := Account.bound_of_issuer mem bound
    rw [(keeps other was).1] at free
    cases free

/-! ## Conflicts -/

/-- No user has been committed that a callback then looks for in vain, and whoever was told
    of a conflict was told the truth. -/
structure Unsurprised (toLowercase : String → String) (w : World) : Prop where
  searching : ∀ (n : Nat) (c : Callback), w.callbacks[n]? = some c → ∀ verified ∈ c.searching,
    ∀ account ∈ w.accounts, account.email = verified.email → ¬ account.Bound verified.identity
  inserting : ∀ (n : Nat) (c : Callback), w.callbacks[n]? = some c → ∀ verified,
    c.stage = .inserting verified → ∀ account ∈ w.accounts, ¬ account.Claimable verified.email
  conflicts : ∀ (n : Nat) (c : Callback), w.callbacks[n]? = some c →
    c.stage = .refused .emailConflict → ∃ identity email, c.Vouches toLowercase identity email ∧
      ∃ account ∈ w.accounts, account.email = email ∧
        ∃ other, account.Bound other ∧ other ≠ identity

theorem Callback.searching_of_inserting (stage : callback.stage = .inserting verified) :
    callback.searching = some verified := by
  rw [Callback.searching, stage]

/-- What a callback was told of a conflict stays true. -/
theorem conflict_lasts {identity : Identity} (persist : Persist w.accounts w'.accounts)
    (h : ∃ account ∈ w.accounts, account.email = email ∧
      ∃ other, account.Bound other ∧ other ≠ identity) :
    ∃ account ∈ w'.accounts, account.email = email ∧
      ∃ other, account.Bound other ∧ other ≠ identity := by
  obtain ⟨account, mem, same, other, bound, ne⟩ := h
  obtain ⟨account', mem', -, same', keeps⟩ := persist account mem
  exact ⟨account', mem', same'.trans same, other, keeps other bound, ne⟩

/-- One callback goes on while the users stay as they are. -/
theorem Unsurprised.turned (inv : Inv toLowercase signupCreditUsd opening w)
    (before : Unsurprised toLowercase w) (turns : w.Turns w' n callback')
    (accounts : w'.accounts = w.accounts) (looks : Looks w w.callbacks[n]? callback') :
    Unsurprised toLowercase w' := by
  have old : ∀ m c, w'.callbacks[m]? = some c → m ≠ n → w.callbacks[m]? = some c := by
    intro m c found ne
    rwa [turns.others m ne] at found
  have here : ∀ c, w'.callbacks[n]? = some c → c = callback' := by
    intro c found
    rw [turns.here] at found
    exact (Option.some.inj found).symm
  refine ⟨?_, ?_, ?_⟩
  all_goals
    intro m c found
    rw [accounts]
    by_cases at_ : m = n
  · subst at_
    rw [here c found]
    intro verified h account mem same
    rcases looks.searching verified h with was | free
    · obtain ⟨c', found', searching⟩ := bind_eq_some_iff.mp was
      exact before.searching m c' found' verified searching account mem same
    · exact free account mem
  · exact before.searching m c (old m c found at_)
  · subst at_
    rw [here c found]
    exact looks.inserting
  · exact before.inserting m c (old m c found at_)
  · subst at_
    rw [here c found]
    intro refused
    obtain ⟨c', verified, found', stage, claims, account, mem, same⟩ := looks.conflict refused
    obtain ⟨shown, has, rest⟩ := (inv.callbacks m c' found').vouches verified (by rw [stage]; rfl)
    refine ⟨verified.identity, verified.email, ⟨shown, claims.trans has, rest⟩, account, mem,
      same, ?_⟩
    -- the row is bound, or the `UPDATE` had claimed it, and not to this identity
    have issuer : account.oidcIssuer ≠ none := fun free =>
      before.inserting m c' found' verified stage account mem ⟨same, free⟩
    obtain ⟨other, bound⟩ := Account.bound_of_issuer mem issuer
    refine ⟨other, bound, ?_⟩
    rintro rfl
    exact before.searching m c' found' verified (Callback.searching_of_inserting stage) account mem
      same bound
  · exact before.conflicts m c (old m c found at_)

/-- A user is committed while no other callback is looking for it. -/
theorem Unsurprised.bound (before : Unsurprised toLowercase w) (turns : w.Turns w' n callback')
    (found' : callback'.searching = none) (told : callback'.stage ≠ .refused .emailConflict)
    (persist : Persist w.accounts w'.accounts)
    (rows : ∀ x ∈ w'.accounts, x ∈ w.accounts ∨
      x.email = verified.email ∧ x.Bound verified.identity)
    (alone : ∀ m < w.callbacks.length, m ≠ n →
      w.callbacks[m]?.bind Callback.searching ≠ some verified) : Unsurprised toLowercase w' := by
  have old : ∀ m c, w'.callbacks[m]? = some c → m ≠ n → w.callbacks[m]? = some c := by
    intro m c found ne
    rwa [turns.others m ne] at found
  have here : ∀ c, w'.callbacks[n]? = some c → c = callback' := by
    intro c found
    rw [turns.here] at found
    exact (Option.some.inj found).symm
  refine ⟨?_, ?_, ?_⟩
  all_goals
    intro m c found
    by_cases at_ : m = n
  · subst at_
    rw [here c found, found']
    nofun
  · have was := old m c found at_
    intro other h account mem same bound
    rcases rows account mem with stays | ⟨email, bound'⟩
    · exact before.searching m c was other h account stays same bound
    · refine alone m (List.getElem?_eq_some_iff.mp was).1 at_ ?_
      have identity := bound.eq bound'
      have same := same.symm.trans email
      cases other
      cases verified
      simp only at identity same
      subst identity same
      rw [was]
      exact h
  · subst at_
    rw [here c found]
    intro other stage
    rw [Callback.searching_of_inserting stage] at found'
    cases found'
  · intro other stage account mem claimable
    rcases rows account mem with stays | ⟨_, bound⟩
    · exact before.inserting m c (old m c found at_) other stage account stays claimable
    · exact Account.not_claimable_of_bound bound claimable
  · subst at_
    rw [here c found]
    exact fun refused => absurd refused told
  · intro refused
    obtain ⟨identity, email, vouches, other⟩ :=
      before.conflicts m c (old m c found at_) refused
    exact ⟨identity, email, vouches, conflict_lasts persist other⟩

/-- A user is provisioned while no callback is about to insert its email. -/
theorem Unsurprised.provisioned (before : Unsurprised toLowercase w)
    (callbacks : w'.callbacks = w.callbacks)
    (rows : ∀ x, x ∈ w'.accounts ↔ x ∈ w.accounts ∨ x = provisionedAccount userId email)
    (alone : ∀ callback ∈ w.callbacks, ∀ verified ∈ callback.searching,
      callback.stage = .inserting verified → verified.email ≠ email) :
    Unsurprised toLowercase w' := by
  refine ⟨?_, ?_, ?_⟩
  all_goals
    intro m c found
    rw [callbacks] at found
  · intro verified h account mem same bound
    rcases (rows account).mp mem with stays | rfl
    · exact before.searching m c found verified h account stays same bound
    · cases bound.1
  · intro verified stage account mem claimable
    rcases (rows account).mp mem with stays | rfl
    · exact before.inserting m c found verified stage account stays claimable
    · exact alone c (mem_of_getElem? found) verified (Callback.searching_of_inserting stage)
        stage claimable.1.symm
  · intro refused
    obtain ⟨identity, email', vouches, other⟩ := before.conflicts m c found refused
    refine ⟨identity, email', vouches, conflict_lasts ?_ other⟩
    exact persist_of_subset fun account mem => (rows account).mpr (.inl mem)

theorem Unsurprised.step (inv : Inv toLowercase signupCreditUsd opening w)
    (before : Unsurprised toLowercase w) (quiet : Undisturbed w action)
    (moved : Moved w action w') : Unsurprised toLowercase w' := by
  cases moved with
  | kept callbacks accounts =>
      refine ⟨?_, ?_, ?_⟩
      all_goals rw [callbacks, accounts]
      · exact before.searching
      · exact before.inserting
      · exact before.conflicts
  | provisioned callbacks provisions rows =>
      exact before.provisioned callbacks rows (quiet.2 _ provisions)
  | turned turns accounts _ looks => exact before.turned inv turns accounts looks
  | bound _ turns _ binds _ found' told persist rows =>
      exact before.bound turns found' told persist rows (quiet.1 _ binds)

/-! ## Every run -/

/-- A database before the first callback: the stored login states are different logins. -/
structure World.Opening (w : World) : Prop where
  callbacks : w.callbacks = []
  stored : ∀ row ∈ w.states, row.login < w.logins
  once : ∀ a ∈ w.states, ∀ b ∈ w.states, a.login = b.login → a = b

theorem World.Opening.none (opens : opening.Opening) {c : Callback} :
    opening.callbacks[n]? ≠ some c := by
  rw [opens.callbacks]
  simp

theorem World.Opening.inv (opens : opening.Opening) :
    Inv toLowercase signupCreditUsd opening opening where
  stored := opens.stored
  once := opens.once
  callbacks _ _ found := absurd found opens.none
  apart _ _ _ _ found := absurd found opens.none
  sessions _ mem := .inl mem
  since account mem := ⟨account, mem, rfl⟩

theorem World.Opening.unsurprised (opens : opening.Opening) :
    Unsurprised toLowercase opening where
  searching _ _ found := absurd found opens.none
  inserting _ _ found := absurd found opens.none
  conflicts _ _ found := absurd found opens.none

/-- Of any run: users keep their identities, and one that is bound was vouched for. -/
theorem Inv.run {C : World → Action → Prop}
    (inv : Inv toLowercase signupCreditUsd opening w)
    (run : Steps (Oidc.step toLowercase signupCreditUsd) C w w') :
    Inv toLowercase signupCreditUsd opening w' ∧ w.Kept toLowercase w' ∧ w.Remembers w' := by
  induction run with
  | refl => exact ⟨inv, .of_eq rfl, .of_eq rfl⟩
  | tail _ _ next ih =>
      obtain ⟨inv, kept, remembers⟩ := ih
      have moved := moved inv next
      exact ⟨inv.step next, kept.trans moved.remembers (moved.users inv),
        remembers.trans moved.remembers⟩

theorem Unsurprised.run (opens : opening.Opening)
    (run : Steps (Oidc.step toLowercase signupCreditUsd) Undisturbed opening w) :
    Unsurprised toLowercase w := by
  induction run with
  | refl => exact opens.unsurprised
  | tail run quiet next ih =>
      have inv : Inv toLowercase signupCreditUsd opening _ := (opens.inv.run run).1
      exact ih.step inv quiet (moved inv next)

theorem Inv.sound (inv : Inv toLowercase signupCreditUsd opening w)
    (unsurprised : Unsurprised toLowercase w) :
    w.Sound toLowercase signupCreditUsd opening where
  consumedOnce m n c d row row' hc hd spent spent' same := by
    by_contra ne
    exact (inv.apart m n c d hc hd ne).1 row spent row' spent' same
  consumedByCookie callback mem row spent := by
    obtain ⟨n, found⟩ := mem_iff_getElem?.mp mem
    exact ((inv.callbacks n callback found).login row spent).2.2
  oneUser identity a ha b hb bound bound' := accounts_eq_of_bound ha hb bound bound'
  sessions session mem := by
    rcases inv.sessions session mem with old | ⟨n, c, found, stored⟩
    · exact .inl old
    · exact .inr ⟨c, mem_of_getElem? found, stored,
        (inv.callbacks n c found).session session stored⟩
  grants callback mem row granted := by
    obtain ⟨n, found⟩ := mem_iff_getElem?.mp mem
    have ok := inv.callbacks n callback found
    obtain ⟨entered, type, amount, inserted⟩ := ok.granted row granted
    exact ⟨entered, type, amount, inserted, (ok.inserted row.userId inserted).2⟩
  grantedOnce m n c d row row' hc hd granted granted' same := by
    by_contra ne
    have inserted := ((inv.callbacks m c hc).granted row granted).2.2.2
    have inserted' := ((inv.callbacks n d hd).granted row' granted').2.2.2
    rw [← same] at inserted'
    exact (inv.apart m n c d hc hd ne).2 row.userId inserted inserted'
  conflicts callback mem refused := by
    obtain ⟨n, found⟩ := mem_iff_getElem?.mp mem
    exact unsurprised.conflicts n callback found refused

/-- One identity, one account, one signup credit, in every run in which no user is committed
    under a callback that is looking for it. -/
theorem one_identity_one_account (opens : opening.Opening)
    (run : Steps (Oidc.step toLowercase signupCreditUsd) Undisturbed opening w)
    (later : Steps (Oidc.step toLowercase signupCreditUsd) Undisturbed w w') :
    w'.Sound toLowercase signupCreditUsd opening ∧ w.Kept toLowercase w' := by
  have start : Inv toLowercase signupCreditUsd opening opening := opens.inv
  obtain ⟨inv, -, -⟩ := start.run run
  obtain ⟨inv', kept, -⟩ := inv.run later
  exact ⟨inv'.sound (.run opens (run.trans later)), kept⟩

section Examples

/-- A deployment without users. -/
def vacant : World where
  accounts := .empty
  db := .fresh .empty .empty
  states := .empty
  sessions := .empty
  callbacks := []
  logins := 0

theorem vacant_opening : vacant.Opening := ⟨rfl, nofun, nofun⟩

/-- A browser that comes back from the provider with its own state. -/
def returning (state : String) : CallbackRequest where
  params := { state := some state, code := some "code", error := none }
  cookies := [some ("zr_oidc_state=" ++ state)]

def adasClaims : Claims where
  identity := ⟨"https://idp.example", "ada"⟩
  email := some " ada@example.com"
  emailVerified := some true

/-- The callback of one browser up to its `SELECT`. -/
def untilSelect (n : Nat) (state : String) : List Action :=
  [.login state "nonce" "verifier" 0, .arrive (returning state), .consume n 1 .commit,
    .exchange n (.ok adasClaims)]

/-- Two tabs of one identity: both find no user before either has inserted one. -/
def twoTabs : List Action :=
  untilSelect 0 "first" ++ untilSelect 1 "second" ++
    [.select 0 .commit, .select 1 .commit, .claim 0 .commit, .insert 0 7 .commit,
      .claim 1 .commit, .insert 1 8 .commit]

/-- The second tab is told that its email is another identity's. -/
theorem one_identity_two_tabs :
    ¬ ∀ w, Steps (Oidc.step id 5) anyStep vacant w → w.Sound id 5 vacant := by
  intro claim
  have raced : ((runWhile (Oidc.step id 5) anyStep vacant twoTabs).any fun w =>
      decide ((∃ callback ∈ w.callbacks, callback.stage = .refused .emailConflict) ∧
        (∀ callback ∈ w.callbacks, callback.claims = some adasClaims) ∧
          ∀ account ∈ w.accounts, account.Bound adasClaims.identity)) = true := by
    decide +kernel
  obtain ⟨w, run, told⟩ := Steps.exists_of_runWhile raced
  obtain ⟨⟨callback, mem, refused⟩, shown, only⟩ := of_decide_eq_true told
  obtain ⟨identity, email, ⟨claims, has, same, -⟩, account, hmem, -, other, bound, ne⟩ :=
    (claim w run).conflicts callback mem refused
  cases (shown callback mem).symm.trans has
  exact ne ((bound.eq (only account hmem)).trans same)

/-- One tab after the other. -/
def oneTabThenAnother : List Action :=
  untilSelect 0 "first" ++
    [.select 0 .commit, .claim 0 .commit, .insert 0 7 .commit, .grant 0 .commit,
      .createSession 0 20 "hash" .commit] ++
    untilSelect 1 "second" ++ [.select 1 .commit, .createSession 1 21 "hash2" .commit]

theorem one_identity_one_account_twice : ∃ w,
    Steps (Oidc.step id 5) Undisturbed vacant w ∧
      (w.sessions.rows.map (·.userId) = [7, 7] ∧
        w.db.creditLedger.rows.map (·.amountUsd) = [5]) ∧
      w.Sound id 5 vacant ∧ vacant.Kept id w := by
  have ran : ((runWhile (Oidc.step id 5) Undisturbed vacant oneTabThenAnother).any fun w =>
      decide (w.sessions.rows.map (·.userId) = [7, 7] ∧
        w.db.creditLedger.rows.map (·.amountUsd) = [5])) = true := by
    decide +kernel
  obtain ⟨w, run, reached⟩ := Steps.exists_of_runWhile ran
  exact ⟨w, run, of_decide_eq_true reached,
    one_identity_one_account vacant_opening (.refl vacant) run⟩

end Examples

end ZeroRouter.Oidc
