import ZeroRouter.Proofs.KeySight

/-!
# Whose ceilings self-service can raise

Admission derives a user's ceilings as the largest caps over their live keys.  The edits
leave the caps alone and every mint but one takes the column defaults; `create_key`
writes the caps its request names.  So the ceilings stay at what an operator or a default
gave the user exactly as long as no committed `create_key` names a larger one.
-/

namespace ZeroRouter

open List ReadCommitted Transition

variable {userId keyId : Uuid} {d opening d' : KeyStore} {key row : KeyRow} {answer : KeyAnswer}
  {free : RowLock → Prop} {operation : KeyOperation} {s : KeySystem} {now clock : Timestamp}
  {request : CreateKeyRequest} {t : KeySystem} {action : KeyAction} {keys : List KeyRow}
  {change : KeyRow → KeyRow}

/-! ## Ceilings -/

section Caps

variable {β : Type} (cap : KeyRow → β) (byDefault : β) {named : Option β}

/-- The cap an operator or the column default gave a key: what it had when the run began,
    or what its own `INSERT` left to the default. -/
def givenCap (opening : KeyStore) (key : KeyRow) : β :=
  (opening.keys.find? fun old => old.id = key.id).elim byDefault cap

/-- What a user was ever given. -/
def givenCaps (opening d : KeyStore) (userId : Uuid) : List β :=
  (d.keysOf userId).map (givenCap cap byDefault opening)

section Given

variable {cap byDefault} {opening d d' : KeyStore} {given : β}

theorem mem_givenCaps :
    given ∈ givenCaps cap byDefault opening d userId ↔
      ∃ key ∈ d.keys, key.userId = userId ∧ givenCap cap byDefault opening key = given := by
  simp only [givenCaps, KeyStore.keysOf, mem_map, mem_filter, decide_eq_true_eq,
    and_assoc]

theorem givenCap_aged {key' : KeyRow} (ages : KeyAges free key key') :
    givenCap cap byDefault opening key' = givenCap cap byDefault opening key := by
  simp only [givenCap, ages.id]

/-- What was given stays given. -/
theorem givenCaps_mono (changes : Changes free d d')
    (mem : given ∈ givenCaps cap byDefault opening d userId) :
    given ∈ givenCaps cap byDefault opening d' userId := by
  obtain ⟨key, was, owner, rfl⟩ := mem_givenCaps.mp mem
  obtain ⟨key', here, ages⟩ := changes.key_to was
  exact mem_givenCaps.mpr ⟨key', here, ages.userId.trans owner, givenCap_aged ages⟩

/-- The default is given to a key that is minted in the run. -/
theorem default_given (began : ∀ old ∈ opening.keys, ∃ key ∈ d.keys, key.id = old.id)
    (fresh : ∀ key ∈ d.keys, key.id ≠ row.id) :
    givenCap cap byDefault opening row = byDefault := by
  have absent : (opening.keys.find? fun old => old.id = row.id) = none := by
    rw [find?_eq_none]
    intro old mem same
    obtain ⟨key, mem, id⟩ := began old mem
    exact fresh key mem (id.trans (by simpa using same))
  rw [givenCap, absent, Option.elim_none]

/-- A key the run began with was given its own cap. -/
theorem givenCap_opening (sane : opening.Sane) (mem : key ∈ opening.keys) :
    givenCap cap byDefault opening key = cap key := by
  have found : (opening.keys.find? fun old => old.id = key.id) = some key := by
    apply find?_eq_of_unique mem (by simp)
    intro other mem' same
    exact sane.key_unique mem' mem (by simpa using same)
  rw [givenCap, found, Option.elim_some]

end Given

variable [LinearOrder β]

/-- The largest cap over the user's live keys. -/
def ceiling (keys : List KeyRow) (userId : Uuid) : Option β :=
  ((keys.filter fun key => key.isLiveSibling userId).map cap).max?

/-- No user's ceiling is above the largest cap they were given. -/
def CeilingGiven (opening d : KeyStore) : Prop :=
  ∀ userId, ∀ top ∈ ceiling cap d.keys userId, ∃ given ∈ givenCaps cap byDefault opening d userId,
    top ≤ given

/-- A named cap is none, or not above the default or what the user was given. -/
def capAllowed (opening d : KeyStore) (userId : Uuid) (named : Option β) : Bool :=
  named.all fun value =>
    value ≤ byDefault || (givenCaps cap byDefault opening d userId).any fun given => value ≤ given

/-- Every key's cap is at most one its owner was given. -/
def CapsGiven (opening d : KeyStore) : Prop :=
  ∀ key ∈ d.keys, ∃ given ∈ givenCaps cap byDefault opening d key.userId, cap key ≤ given

variable {cap byDefault} {opening d d' : KeyStore}

variable (cap) in
theorem le_ceiling (mem : key ∈ d.keys) (live : key.isLiveSibling userId) :
    ∃ top ∈ ceiling cap d.keys userId, cap key ≤ top := by
  have mem : cap key ∈ (d.keys.filter fun key => key.isLiveSibling userId).map cap :=
    mem_map_of_mem (mem_filter.mpr ⟨mem, by simpa using live⟩)
  unfold ceiling
  cases largest : ((d.keys.filter fun key => key.isLiveSibling userId).map cap).max? with
  | none =>
      rw [max?_eq_none_iff] at largest
      rw [largest] at mem
      cases mem
  | some top => exact ⟨top, rfl, (max?_eq_some_iff.mp largest).2 _ mem⟩

theorem CapsGiven.ceilingGiven (given : CapsGiven cap byDefault opening d) :
    CeilingGiven cap byDefault opening d := by
  intro userId top largest
  obtain ⟨key, mem, rfl⟩ := mem_map.mp (max?_mem largest)
  obtain ⟨mem, live⟩ := mem_filter.mp mem
  obtain ⟨value, given, le⟩ := given key mem
  have owner : key.userId = userId := by
    simp only [decide_eq_true_eq] at live
    exact live.1
  exact ⟨value, owner ▸ given, le⟩

theorem capsGiven_opening (sane : opening.Sane) : CapsGiven cap byDefault opening opening :=
  fun key mem => ⟨cap key, mem_givenCaps.mpr ⟨key, mem, rfl, givenCap_opening sane mem⟩, le_rfl⟩

/-- A commit keeps the caps given if the cap it names is allowed. -/
theorem CapsGiven.step (given : CapsGiven cap byDefault opening d)
    (capAges : ∀ key key' : KeyRow, KeyAges (fun _ => True) key key' → cap key' = cap key)
    (began : ∀ old ∈ opening.keys, ∃ key ∈ d.keys, key.id = old.id) (changes : Changes free d d')
    (effect : KeysEffect d operation d')
    (names : ∀ row, MintedRow d operation row → cap row = named.getD byDefault)
    (allowed : ∀ row, MintedRow d operation row →
      capAllowed cap byDefault opening d row.userId named = true) :
    CapsGiven cap byDefault opening d' := by
  have aged : ∀ key ∈ d.keys, ∀ key', KeyAges (fun _ => True) key key' →
      ∃ value ∈ givenCaps cap byDefault opening d' key'.userId, cap key' ≤ value := by
    intro key mem key' ages
    obtain ⟨value, was, le⟩ := given key mem
    refine ⟨value, ?_, (capAges key key' ages).trans_le le⟩
    rw [ages.userId]
    exact givenCaps_mono changes was
  intro key' mem'
  cases effect with
  | aged age keys ages =>
      rw [keys] at mem'
      obtain ⟨key, mem, rfl⟩ := mem_map.mp mem'
      exact aged key mem _ (ages key mem)
  | minted age row keys ages frozenAt admits mint source =>
      have here : row ∈ d'.keys := by
        rw [keys]
        exact mem_append_right _ (mem_singleton.mpr rfl)
      have byDefault_given : byDefault ∈ givenCaps cap byDefault opening d' row.userId :=
        mem_givenCaps.mpr ⟨row, here, rfl, default_given began mint.fresh⟩
      rw [keys] at mem'
      rcases mem_append.mp mem' with mem' | mem'
      · obtain ⟨key, mem, rfl⟩ := mem_map.mp mem'
        exact aged key mem _ (ages key mem)
      · rw [mem_singleton.mp mem', names row mint]
        have allowed := allowed row mint
        cases named with
        | none => exact ⟨byDefault, byDefault_given, le_rfl⟩
        | some value =>
            simp only [capAllowed, Option.all_some, Bool.or_eq_true, decide_eq_true_eq,
              any_eq_true] at allowed
            rcases allowed with low | ⟨value', mem, low⟩
            · exact ⟨byDefault, byDefault_given, low⟩
            · exact ⟨value', givenCaps_mono changes mem, low⟩

/-- … and only if: a named cap is at once part of its owner's ceiling. -/
theorem capAllowed_of_ceilingGiven {age : KeyRow → KeyRow}
    (keys : d'.keys = d.keys.map age ++ [row])
    (ages : ∀ key ∈ d.keys, KeyAges (fun _ => True) key (age key))
    (mint : MintedRow d operation row) (names : cap row = named.getD byDefault)
    (began : ∀ old ∈ opening.keys, ∃ key ∈ d.keys, key.id = old.id)
    (bounded : CeilingGiven cap byDefault opening d') :
    capAllowed cap byDefault opening d row.userId named = true := by
  cases named with
  | none => rfl
  | some value =>
      have mem : row ∈ d'.keys := by
        rw [keys]
        exact mem_append_right _ (mem_singleton.mpr rfl)
      obtain ⟨top, largest, le⟩ := le_ceiling cap mem ⟨rfl, mint.enabled⟩
      obtain ⟨given, was_given, top_le⟩ := bounded row.userId top largest
      have low : value ≤ given := by
        rw [names, Option.getD_some] at le
        exact le.trans top_le
      simp only [capAllowed, Option.all_some, Bool.or_eq_true, decide_eq_true_eq,
        any_eq_true]
      -- what bounds it was given to the row itself, and is the default, or before
      obtain ⟨key', mem', owner, rfl⟩ := mem_givenCaps.mp was_given
      rw [keys] at mem'
      rcases mem_append.mp mem' with mem' | mem'
      · obtain ⟨key, was, rfl⟩ := mem_map.mp mem'
        have aged := ages key was
        rw [givenCap_aged aged] at low
        exact .inr ⟨_, mem_givenCaps.mpr ⟨key, was, aged.userId.symm.trans owner, rfl⟩, low⟩
      · rw [mem_singleton.mp mem', default_given began mint.fresh] at low
        exact .inl low

end Caps

/-! ## Runs -/

abbrev spendCap (key : KeyRow) : Decimal := key.spendCapUsd
abbrev velocityCap (key : KeyRow) : Int := key.velocityCapTokensPerMin

/-- The ceilings admission derives are bounded by what each user was given. -/
structure KeyStore.CeilingsGiven (opening d : KeyStore) : Prop where
  spend : CeilingGiven spendCap defaultSpendCapUsd opening d
  velocity : CeilingGiven velocityCap defaultVelocityCapTokensPerMin opening d

/-- The step commits no `create_key` that names a cap above the default and above what its
    user was given. -/
def namesNoHigherCap (opening : KeyStore) (s : KeySystem) : KeyAction → Bool
  | .advance who =>
      match s.session who with
      | some ⟨.createKey userId request _ _ _, _, _, .commit _⟩ =>
          capAllowed spendCap defaultSpendCapUsd opening s.db userId request.spendCapUsd &&
            capAllowed velocityCap defaultVelocityCapTokensPerMin opening s.db userId
              request.velocityCapTokensPerMin
      | _ => true
  | _ => true

theorem namesNoHigherCap_commit {who : Nat}
    {session : Session KeyOperation RowLock KeyStore KeyAnswer}
    (found : s.session who = some session) (rest : session.rest = .commit answer)
    (operation : session.operation = .createKey userId request now clock keyId) :
    namesNoHigherCap opening s (.advance who) =
      (capAllowed spendCap defaultSpendCapUsd opening s.db userId request.spendCapUsd &&
        capAllowed velocityCap defaultVelocityCapTokensPerMin opening s.db userId
          request.velocityCapTokensPerMin) := by
  obtain ⟨operation', held, writes, rest'⟩ := session
  simp only at rest operation
  subst rest operation
  simp only [namesNoHigherCap, found]

/-- What a self-service run keeps of the keys it began with and of the caps. -/
structure KeyStore.Bounded (opening d : KeyStore) : Prop where
  began : ∀ old ∈ opening.keys, ∃ key ∈ d.keys, key.id = old.id
  spend : CapsGiven spendCap defaultSpendCapUsd opening d
  velocity : CapsGiven velocityCap defaultVelocityCapTokensPerMin opening d

theorem KeyStore.Bounded.ceilingsGiven (bounded : opening.Bounded d) :
    opening.CeilingsGiven d :=
  ⟨bounded.spend.ceilingGiven, bounded.velocity.ceilingGiven⟩

theorem bounded_step (holds : keyContract.Holds s) (bounded : opening.Bounded s.db)
    (low : namesNoHigherCap opening s action = true) (next : keyStep s action = some t) :
    opening.Bounded t.db := by
  rcases keyStep_db holds next with same | ⟨who, session, answer, rfl, found, rest, changes, effect⟩
  · rw [same]
    exact bounded
  · have keys := effect.keysEffect
    have allowed : ∀ row, MintedRow s.db session.operation row →
        capAllowed spendCap defaultSpendCapUsd opening s.db row.userId
            session.operation.namedSpendCap = true ∧
          capAllowed velocityCap defaultVelocityCapTokensPerMin opening s.db row.userId
            session.operation.namedVelocityCap = true := by
      intro row mint
      cases operation : session.operation with
      | createKey userId request now clock keyId =>
          rw [namesNoHigherCap_commit found rest operation, Bool.and_eq_true] at low
          rw [mint.caller userId (by rw [operation]; rfl)]
          exact low
      | _ => exact ⟨rfl, rfl⟩
    refine ⟨?_, ?_, ?_⟩
    · intro old mem
      obtain ⟨key, mem, id⟩ := bounded.began old mem
      obtain ⟨key', mem', ages⟩ := changes.key_to mem
      exact ⟨key', mem', ages.id.trans id⟩
    · exact bounded.spend.step (fun _ _ ages => ages.spendCapUsd) bounded.began changes keys
        (fun _ mint => mint.spendCapUsd) fun row mint => (allowed row mint).1
    · exact bounded.velocity.step (fun _ _ ages => ages.velocityCap) bounded.began changes keys
        (fun _ mint => mint.velocityCap) fun row mint => (allowed row mint).2

theorem KeyEffect.mints_created
    (effect : KeyEffect d (.createKey userId request now clock keyId) answer d') :
    ∃ row, d'.keys = d.keys ++ [row] ∧
      MintedRow d (.createKey userId request now clock keyId) row := by
  cases effect with
  | @created _ _ validated _ _ _ valid admits fresh =>
      refine ⟨validated.createdKey userId now keyId, rfl, ?_⟩
      cases validateNewKey_ok valid
      exact ⟨fresh, rfl, fun _ same => Option.some.inj same, rfl, rfl⟩

/-- A step that leaves the ceilings given names no higher cap. -/
theorem namesNoHigherCap_of_ceilingsGiven (holds : keyContract.Holds s)
    (began : ∀ old ∈ opening.keys, ∃ key ∈ s.db.keys, key.id = old.id)
    (next : keyStep s action = some t) (bounded : opening.CeilingsGiven t.db) :
    namesNoHigherCap opening s action = true := by
  cases action with
  | begin_ | abort => rfl
  | advance who =>
      cases found : s.session who with
      | none => simp only [namesNoHigherCap, found]
      | some session =>
          obtain ⟨operation, held, writes, rest⟩ := session
          cases operation with
          | createKey userId request now clock keyId =>
              cases rest with
              | commit answer =>
                  rw [namesNoHigherCap_commit found rfl rfl, Bool.and_eq_true]
                  obtain ⟨row, keys, mint⟩ := (commit_effect holds found rfl next).mints_created
                  have ages : ∀ key ∈ s.db.keys, KeyAges (fun _ => True) key (id key) :=
                    fun key _ => .refl key
                  rw [← map_id s.db.keys] at keys
                  have spend := capAllowed_of_ceilingGiven keys ages mint mint.spendCapUsd began
                    bounded.spend
                  have velocity := capAllowed_of_ceilingGiven keys ages mint mint.velocityCap began
                    bounded.velocity
                  rw [mint.caller userId rfl] at spend velocity
                  exact ⟨spend, velocity⟩
              | _ => simp only [namesNoHigherCap, found]
          | _ => simp only [namesNoHigherCap, found]

/-! ## What an operation does to other users' keys -/

/-- The keys of everyone else. -/
def KeyStore.keysOfOthers (d : KeyStore) (userId : Uuid) : List KeyRow :=
  d.keys.filter fun key => key.userId ≠ userId

/-- A change of a user's own rows leaves the others'. -/
theorem keysOfOthers_map (owner : ∀ key ∈ keys, (change key).userId = key.userId)
    (others : ∀ key ∈ keys, key.userId ≠ userId → change key = key) :
    ((keys.map change).filter fun key => key.userId ≠ userId) =
      keys.filter fun key => key.userId ≠ userId := by
  induction keys with
  | nil => rfl
  | cons key keys ih =>
      have ih := ih (fun key mem => owner key (mem_cons_of_mem _ mem))
        (fun key mem => others key (mem_cons_of_mem _ mem))
      rw [map_cons, filter_cons, filter_cons, ih, owner key mem_cons_self]
      by_cases same : key.userId = userId
      · simp [same]
      · simp [same, others key mem_cons_self same]

theorem keysOfOthers_withKey (owner : row.userId = userId) :
    (d.withKey row).keysOfOthers userId = d.keysOfOthers userId := by
  simp [KeyStore.keysOfOthers, KeyStore.withKey, owner]

theorem keysOfOthers_updateKeyRow (sane : d.Sane) (mem : key ∈ d.keys)
    (owner : ∀ key, (change key).userId = key.userId) :
    (updateKeyRow key.id change d).keysOfOthers key.userId = d.keysOfOthers key.userId := by
  apply keysOfOthers_map
  · intro other _
    split
    · exact owner other
    · rfl
  · intro other mem' ne
    by_cases same : other.id = key.id
    · exact absurd (congrArg (fun key => key.userId) (sane.key_unique mem' mem same)) ne
    · rw [if_neg same]

/-- A commit changes no key, or only keys of the user its operation acts for. -/
theorem KeyEffect.confined {held : List RowLock} (sane : d.Sane)
    (changes : Changes (· ∈ held) d d') (effect : KeyEffect d operation answer d') :
    d'.keys = d.keys ∨ ∃ userId, operation.ActsFor held userId ∧
      d'.keysOfOthers userId = d.keysOfOthers userId := by
  cases effect with
  | created valid admits fresh =>
      refine .inr ⟨_, rfl, keysOfOthers_withKey ?_⟩
      cases validateNewKey_ok valid
      rfl
  | @replaced userId now keyId locked covers admits fresh =>
      refine .inr ⟨userId, rfl, (keysOfOthers_withKey rfl).trans (keysOfOthers_map ?_ ?_)⟩
      · intro key _
        split <;> rfl
      · intro key _ ne
        apply if_neg
        rintro ⟨-, playground⟩
        simp only [KeyRow.isPlayground, Bool.and_eq_true, decide_eq_true_eq] at playground
        exact ne playground.1.1
  | disabled mem =>
      refine .inr ⟨_, rfl, keysOfOthers_updateKeyRow sane mem ?_⟩
      exact fun _ => rfl
  | updated mem valid =>
      refine .inr ⟨_, rfl, keysOfOthers_updateKeyRow sane mem ?_⟩
      exact fun _ => rfl
  | @claimed grant now keyId userId mem inTime approved owner admits fresh =>
      refine .inr ⟨userId, ?_, keysOfOthers_withKey rfl⟩
      -- the user's row is among the locks the new key was inserted under
      have here : grant.claimedKey userId now keyId ∈
          (updateGrant grant.id (·.claimed now keyId)
            (d.withKey (grant.claimedKey userId now keyId))).keys :=
        mem_append_right _ (mem_singleton.mpr rfl)
      rcases changes.key_from here with ⟨old, was, ages⟩ | ⟨user, -⟩
      · exact absurd ages.id.symm (fresh old was)
      · exact user
  | expired | deleted | started | lapsed | polled | approved | denied | froze | thawed =>
      exact .inl rfl

/-- An edit that is committed writes the fields it names over the row as it is. -/
theorem KeyEffect.edits {request : UpdateKeyRequest}
    (effect : KeyEffect d (.updateKey userId keyId request clock) answer d') :
    ∃ key ∈ d.keys, key.id = keyId ∧ key.userId = userId ∧
      answer = .summary (key.patched request) ∧
      d' = updateKeyRow keyId (·.patched request) d := by
  cases effect with
  | @updated key _ _ after mem valid => exact ⟨key, mem, rfl, rfl, rfl, rfl⟩

/-- Admission's ceilings are those of the rows. -/
theorem ceiling_of_keyState {db : Db} (rows : db.apiKeys.rows = keys.map fun key => key.toApiKey)
    {presented : AuthenticatedKey} {keyState : KeyState}
    (found : db.keyState now presented = some keyState) :
    ceiling spendCap keys presented.userId = some keyState.userSpendCapUsd ∧
      ceiling velocityCap keys presented.userId = some keyState.userVelocityCapTokensPerMin := by
  obtain ⟨presenting, here, rfl⟩ := Option.map_eq_some_iff.mp found
  obtain ⟨mem, -, live, -⟩ := Relational.Table.find_some here
  have siblings : (db.apiKeys.rows.filter fun key => key.isLiveSibling presented.userId) =
      (keys.filter fun key => key.isLiveSibling presented.userId).map fun key => key.toApiKey := by
    rw [rows, filter_map]
    rfl
  have some_ : (keys.filter fun key => key.isLiveSibling presented.userId) ≠ [] := by
    intro none_
    have mem : presenting ∈ db.apiKeys.rows.filter fun key =>
        key.isLiveSibling presented.userId :=
      mem_filter.mpr ⟨mem, by simpa using live⟩
    rw [siblings, none_] at mem
    cases mem
  constructor
  · simp only [siblings, map_map, ceiling]
    cases largest : (List.map spendCap
        (keys.filter fun key => key.isLiveSibling presented.userId)).max? with
    | none =>
        rw [max?_eq_none_iff, map_eq_nil_iff] at largest
        exact absurd largest some_
    | some top =>
        have same : (List.map (ApiKey.spendCapUsd ∘ fun key : KeyRow => key.toApiKey)
            (keys.filter fun key => key.isLiveSibling presented.userId)).max? = some top := largest
        rw [same, Option.getD_some]
  · simp only [siblings, map_map, ceiling]
    cases largest : (List.map velocityCap
        (keys.filter fun key => key.isLiveSibling presented.userId)).max? with
    | none =>
        rw [max?_eq_none_iff, map_eq_nil_iff] at largest
        exact absurd largest some_
    | some top =>
        have same : (List.map (ApiKey.velocityCapTokensPerMin ∘ fun key : KeyRow => key.toApiKey)
            (keys.filter fun key => key.isLiveSibling presented.userId)).max? = some top := largest
        rw [same, Option.getD_some]

/-! ## Self-service -/

/-- The ceilings admission derives stay at what an operator or a column default gave each
    user for exactly as long as no committed `create_key` names a higher cap.  Whatever the
    callers name, a disabled key stays disabled, an operation neither changes nor sees the
    keys of anyone but its own user, an edit that is refused changes nothing, and one that
    is committed writes only the fields it names over the row as the others left it. -/
theorem self_service_keeps_ceilings {opening : KeyStore} (sane : opening.Sane) :
    (∀ s, Steps keyStep (fun s action => namesNoHigherCap opening s action = true)
        opening.opened s →
      opening.CeilingsGiven s.db ∧ ∀ action t, keyStep s action = some t →
        (opening.CeilingsGiven t.db ↔ namesNoHigherCap opening s action = true)) ∧
    ∀ s, opening.Reaches s →
      (∀ db : Db, db.apiKeys.rows = (s.db.keys.map fun key => key.toApiKey) →
        ∀ now presented keyState, db.keyState now presented = some keyState →
          ceiling spendCap s.db.keys presented.userId = some keyState.userSpendCapUsd ∧
          ceiling velocityCap s.db.keys presented.userId =
            some keyState.userVelocityCapTokensPerMin) ∧
      (∀ t, Steps keyStep anyStep s t → ∀ key ∈ s.db.keys, key.disabled = true →
        ∀ key' ∈ t.db.keys, key'.id = key.id → key'.disabled = true) ∧
      (∀ action t, keyStep s action = some t → t.db.keys = s.db.keys ∨
        ∃ who session userId, action = .advance who ∧ s.session who = some session ∧
          session.operation.ActsFor session.held userId ∧
          t.db.keysOfOthers userId = s.db.keysOfOthers userId) ∧
      (∀ who session, s.session who = some session → ∀ d,
        SameTo session.operation session.held s.db d →
          (keyStep { s with db := d } (.advance who)).map (·.session who) =
            (keyStep s (.advance who)).map (·.session who)) ∧
      (∀ who session, s.session who = some session → ∀ userId keyId request clock,
        session.operation = .updateKey userId keyId request clock →
          (∀ action t, (action = .advance who ∨ action = .abort who) →
            keyStep s action = some t → (∀ answer, session.rest ≠ .commit answer) →
              t.db = s.db) ∧
          ∀ answer t, session.rest = .commit answer → keyStep s (.advance who) = some t →
            ∃ key ∈ s.db.keys, key.id = keyId ∧ key.userId = userId ∧
              answer = .summary (key.patched request) ∧
              t.db = updateKeyRow keyId (·.patched request) s.db) := by
  refine ⟨?_, ?_⟩
  · intro s run
    have kept := run.invariant (I := fun s : KeySystem => keyContract.Holds s ∧
        opening.Bounded s.db)
      ⟨.idle sane, fun old mem => ⟨old, mem, rfl⟩, capsGiven_opening sane, capsGiven_opening sane⟩
      fun s action t before low next =>
        ⟨keyContract_kept.holds_step before.1 next, bounded_step before.1 before.2 low next⟩
    obtain ⟨holds, bounded⟩ := kept
    refine ⟨bounded.ceilingsGiven, fun action t next => ⟨fun given => ?_, fun low => ?_⟩⟩
    · exact namesNoHigherCap_of_ceilingsGiven holds bounded.began next given
    · exact (bounded_step holds bounded low next).ceilingsGiven
  · intro s run
    have holds := holds_of_reaches sane run
    refine ⟨?_, ?_, ?_, ?_, ?_⟩
    · intro db rows now presented keyState found
      exact ceiling_of_keyState rows found
    · intro t later key mem revoked key' mem' id
      obtain ⟨aged, here, ages⟩ := (changes_of_steps holds later).key_to mem
      have after := keyContract_kept.holds holds later
      rw [after.db.key_unique mem' here (id.trans ages.id.symm)]
      exact ages.disabled revoked
    · intro action t next
      rcases keyStep_db holds next with
        same | ⟨who, session, answer, rfl, found, -, changes, effect⟩
      · exact .inl (by rw [same])
      · rcases effect.confined holds.db changes with same | ⟨userId, acts, others⟩
        · exact .inl same
        · exact .inr ⟨who, session, userId, rfl, found, acts, others⟩
    · intro who session found d alike
      have blind := Session.Blind.run blind_program (fun _ _ none_ => by cases none_) run who
        session found
      simp only [keyStep, step, found, Option.bind_some]
      exact blind.advance alike
    · intro who session found userId keyId request clock operation
      refine ⟨fun action t own next uncommitted => ?_, fun answer t rest next => ?_⟩
      · exact db_of_uncommitted found own next uncommitted
      · have effect := commit_effect holds found rest next
        rw [operation] at effect
        exact effect.edits

/-- An operator's key with caps below the defaults. -/
def modestStore : KeyStore where
  frozenAt _ := none
  keys := [{ KeyRow.inserted 1 7 "ops" 0 .operator with
    spendCapUsd := 5, velocityCapTokensPerMin := 50000 }]
  grants := []
  drawn := []

theorem modestStore_sane : modestStore.Sane where
  keys := by decide
  grants := by decide
  drawn := by simp [modestStore]

/-- User 7 creates a key and names its spend cap. -/
def createRun (spendCapUsd : Decimal) : List KeyAction :=
  .begin_ 0 (.createKey 7
    { name := "mine", spendCapUsd := some spendCapUsd, velocityCapTokensPerMin := none
      defaultPriority := none, expiresAt := none, creditLimitUsd := none
      creditLimitWindow := none } 5 5 2) :: List.replicate 9 (.advance 0)

theorem self_service_keeps_ceilings_modest :
    ∃ s : KeySystem, modestStore.Reaches s ∧ ceiling spendCap s.db.keys 7 = some 15 ∧
      modestStore.CeilingsGiven s.db ∧
      ∀ t, Steps keyStep anyStep s t → ∀ key ∈ s.db.keys, key.disabled = true →
        ∀ key' ∈ t.db.keys, key'.id = key.id → key'.disabled = true := by
  have reached : (runWhile keyStep (fun s action => namesNoHigherCap modestStore s action = true)
      modestStore.opened (createRun 15)).any
      (fun s : KeySystem => ceiling spendCap s.db.keys 7 = some 15) = true := by
    decide +kernel
  obtain ⟨s, run, facts⟩ := Steps.exists_of_runWhile reached
  have any_run : modestStore.Reaches s := run.weaken
  exact ⟨s, any_run, by simpa using facts,
    ((self_service_keeps_ceilings modestStore_sane).1 s run).1,
    ((self_service_keeps_ceilings modestStore_sane).2 s any_run).2.1⟩

/-- A customer whose keys were given five dollars a day names ten thousand, and it is
    their ceiling. -/
theorem create_key_raises_ceiling :
    ¬ ∀ opening : KeyStore, opening.Sane → ∀ s, opening.Reaches s →
      opening.CeilingsGiven s.db := by
  intro claim
  have reached : (runWhile keyStep anyStep modestStore.opened (createRun 10000)).any
      (fun s : KeySystem => ceiling spendCap s.db.keys 7 = some 10000 ∧
        givenCaps spendCap defaultSpendCapUsd modestStore s.db 7 = [5, 20]) = true := by
    decide +kernel
  obtain ⟨s, run, facts⟩ := Steps.exists_of_runWhile reached
  simp only [decide_eq_true_eq] at facts
  obtain ⟨given, mem, le⟩ := (claim modestStore modestStore_sane s run).spend 7 10000 facts.1
  rw [facts.2] at mem
  simp only [List.mem_cons, List.not_mem_nil, or_false] at mem
  rcases mem with rfl | rfl
  · exact absurd le (by decide)
  · exact absurd le (by decide)

end ZeroRouter
