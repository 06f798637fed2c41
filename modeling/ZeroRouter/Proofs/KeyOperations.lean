import ZeroRouter.Proofs.KeyStore

/-!
# What every transaction of key management commits

`KeyEffect` says of each operation what its commit makes of the database as it is at that
moment, and under which conditions; `keyContract` puts it under the locks the transaction
holds.  Every program is sound for the contract, so in every interleaving each commit is
one of these effects.
-/

namespace ZeroRouter

open List ReadCommitted Transition

variable {d d' : KeyStore} {userId keyId : Uuid} {now clock : Timestamp} {operation : KeyOperation}
  {held : List RowLock} {locked : List Uuid} {change : KeyRow → KeyRow} {free : RowLock → Prop}
  {grant : DeviceAuthorization} {s t : KeySystem} {answer : KeyAnswer} {row key : KeyRow}
  {request : CreateKeyRequest}

/-! ## Effects -/

/-- What `admit_key_mint` asks of the database. -/
structure KeyStore.Admits (d : KeyStore) (userId : Uuid) (now : Timestamp) : Prop where
  thawed : d.frozenAt userId = none
  active : activeKeys d.keys userId < maxActiveKeysPerUser
  recent : createdKeys d.keys userId (now - keyCreationWindow) < maxKeysCreatedPerWindow

def CreateKeyRequest.createdKey (request : CreateKeyRequest) (userId : Uuid) (now : Timestamp)
    (keyId : Uuid) : KeyRow :=
  request.coalesced (request.inserted userId now keyId)

/-- What the commit of an operation makes of a database. -/
inductive KeyEffect (d : KeyStore) : KeyOperation → KeyAnswer → KeyStore → Prop where
  | created {userId : Uuid} {request validated : CreateKeyRequest} {now clock : Timestamp}
      {keyId : Uuid} (valid : validateNewKey request clock = .ok validated)
      (admits : d.Admits userId now) (fresh : ∀ key ∈ d.keys, key.id ≠ keyId) :
      KeyEffect d (.createKey userId request now clock keyId)
        (.created (validated.createdKey userId now keyId))
        (d.withKey (validated.createdKey userId now keyId))
  | replaced {userId : Uuid} {now : Timestamp} {keyId : Uuid} (locked : List Uuid)
      (covers : ∀ key ∈ d.keys, key.isPlayground userId → key.id ∈ locked)
      (admits : (retirePlayground userId locked d).Admits userId now)
      (fresh : ∀ key ∈ d.keys, key.id ≠ keyId) :
      KeyEffect d (.ensurePlaygroundKey userId now keyId)
        (.created (playgroundRow userId now keyId))
        ((retirePlayground userId locked d).withKey (playgroundRow userId now keyId))
  | disabled {key : KeyRow} (mem : key ∈ d.keys) :
      KeyEffect d (.disableKey key.userId key.id) .noContent
        (updateKeyRow key.id (fun key => { key with disabled := true }) d)
  | updated {key : KeyRow} {request : UpdateKeyRequest} {clock : Timestamp} {after : KeyEdit}
      (mem : key ∈ d.keys) (valid : validateKeyEdit request key.edit clock = .ok after) :
      KeyEffect d (.updateKey key.userId key.id request clock) (.summary (key.patched request))
        (updateKeyRow key.id (·.patched request) d)
  | expired {now : Timestamp} (locked : List Uuid) :
      KeyEffect d (.expireStale now) .done (expireLocked now locked d)
  | deleted {now : Timestamp} (locked : List Uuid) :
      KeyEffect d (.deleteTerminal now) .done (deleteLocked now locked d)
  | started {id : Uuid} {deviceCodeHash userCode clientId : String} {keyName : Option String}
      {now : Timestamp} (fresh : id ∉ d.drawn) :
      KeyEffect d (.insertAuthorization id deviceCodeHash userCode clientId keyName now) .done
        (d.withGrant (authorizationRow id deviceCodeHash userCode clientId keyName now))
  | lapsed {grant : DeviceAuthorization} {now : Timestamp} {keyId : Uuid}
      (mem : grant ∈ d.grants) (late : grant.expiresAt ≤ now) (isOpen : grant.isOpen = true) :
      KeyEffect d (.pollDeviceToken grant.deviceCodeHash grant.clientId now keyId)
        (.oauth .expiredToken)
        (updateGrant grant.id (fun grant => { grant with status := .expired }) d)
  | polled {grant : DeviceAuthorization} {now : Timestamp} {keyId : Uuid}
      (mem : grant ∈ d.grants) (inTime : now < grant.expiresAt)
      (pending : grant.status = .pending) :
      KeyEffect d (.pollDeviceToken grant.deviceCodeHash grant.clientId now keyId)
        (.oauth (if grant.polledTooRecently now then .slowDown else .authorizationPending))
        (updateGrant grant.id (fun grant => { grant with lastPolledAt := some now }) d)
  | claimed {grant : DeviceAuthorization} {now : Timestamp} {keyId userId : Uuid}
      (mem : grant ∈ d.grants) (inTime : now < grant.expiresAt)
      (approved : grant.status = .approved) (owner : grant.userId = some userId)
      (admits : d.Admits userId now) (fresh : ∀ key ∈ d.keys, key.id ≠ keyId) :
      KeyEffect d (.pollDeviceToken grant.deviceCodeHash grant.clientId now keyId)
        (.token (grant.claimedKey userId now keyId))
        (updateGrant grant.id (·.claimed now keyId)
          (d.withKey (grant.claimedKey userId now keyId)))
  | approved {grant : DeviceAuthorization} {userId : Uuid} {keyName : Option String}
      {now : Timestamp} (mem : grant ∈ d.grants) (inTime : now < grant.expiresAt)
      (pending : grant.status = .pending) :
      KeyEffect d (.approveUserCode userId grant.userCode keyName now) .done
        (updateGrant grant.id (·.approvedBy userId keyName) d)
  | denied {grant : DeviceAuthorization} {now : Timestamp} (mem : grant ∈ d.grants)
      (inTime : now < grant.expiresAt) (pending : grant.status = .pending) :
      KeyEffect d (.denyUserCode grant.userCode now) .done
        (updateGrant grant.id (fun grant => { grant with status := .denied }) d)
  | froze {userId : Uuid} {now : Timestamp} :
      KeyEffect d (.freezeAccount userId now) .done (d.withFrozen userId (some now))
  | thawed {userId : Uuid} :
      KeyEffect d (.unfreezeAccount userId) .done (d.withFrozen userId none)

/-! ## The contract -/

/-- A poll that holds a user's row is claiming a grant that user approved, and holds the
    grant's row too. -/
def KeyOperation.Knows (operation : KeyOperation) (held : List RowLock) (d : KeyStore) : Prop :=
  ∀ deviceCodeHash clientId now keyId,
    operation = .pollDeviceToken deviceCodeHash clientId now keyId →
      ∀ userId, RowLock.user userId ∈ held →
        ∃ grant ∈ d.grants, RowLock.grant grant.id ∈ held ∧
          grant.deviceCodeHash = deviceCodeHash ∧ grant.clientId = clientId ∧
            grant.status = .approved ∧ grant.userId = some userId ∧ now < grant.expiresAt

def keyContract : Contract KeyOperation RowLock KeyStore KeyAnswer where
  inv := KeyStore.Sane
  rely held := Changes (· ∉ held)
  knows := KeyOperation.Knows
  guar operation held answer d d' :=
    Changes (· ∈ held) d d' ∧ KeyEffect d operation answer d'

theorem keyContract_steady : keyContract.Steady where
  refl _ d := Changes.refl d
  trans first second := Changes.trans first second
  fewer changes := Changes.mono (fun _ free held => free (mem_cons_of_mem _ held)) changes

/-- Without a user's row there is nothing to know. -/
theorem KeyOperation.Knows.of_no_user (none_ : ∀ userId, RowLock.user userId ∉ held) :
    operation.Knows held d :=
  fun _ _ _ _ _ userId mem => absurd mem (none_ userId)

theorem KeyOperation.Knows.of_no_poll
    (other : ∀ deviceCodeHash clientId now keyId,
      operation ≠ .pollDeviceToken deviceCodeHash clientId now keyId) : operation.Knows held d :=
  fun _ _ _ _ poll => absurd poll (other _ _ _ _)

theorem KeyOperation.Knows.lasts (knows : operation.Knows held d)
    (changes : Changes (· ∉ held) d d') :
    operation.Knows held d' := by
  intro deviceCodeHash clientId now keyId poll userId user
  obtain ⟨grant, mem, lock, found⟩ := knows _ _ _ _ poll userId user
  exact ⟨grant, changes.grant_locked mem (fun free => free lock), lock, found⟩

/-! ## Statements -/

section Statements

variable {operation : KeyOperation} {held : List RowLock} {writes : KeyStore → KeyStore}
  {d : KeyStore}

/-- A row that is found, locked and found again. -/
theorem sound_selectForUpdate {β : Type} {table : KeyStore → List β} {rowId : β → Uuid}
    {lock : Uuid → RowLock} {wanted : β → Bool} {found : β → KeyProgram}
    (quiet : ∀ row d, operation.Knows [lock row] d)
    (sound : ∀ d row, d.Sane → row ∈ table d → wanted row = true →
      keyContract.Sound operation [lock (rowId row)] id d (found row)) :
    keyContract.Sound operation [] id d
      (selectForUpdate table rowId lock wanted (.refuse answer) found) := by
  intro snapshot _ _
  simp only [id_eq]
  cases (table snapshot).find? wanted with
  | none => trivial
  | some row =>
      intro db sane _
      refine ⟨quiet _ _, ?_⟩
      intro db sane _
      simp only [id_eq]
      cases again : (table db).find? fun other => rowId other = rowId row && wanted other with
      | none => trivial
      | some row' =>
          have mem := mem_of_find?_eq_some again
          have matched := find?_some again
          simp only [Bool.and_eq_true, decide_eq_true_eq] at matched
          rw [← matched.1]
          exact sound db row' sane mem matched.2

/-- A lock that tells nothing. -/
theorem sound_lock {row : RowLock} {next : KeyProgram}
    (knows : ∀ d', d'.Sane → Changes (· ∉ held) d d' → operation.Knows (row :: held) d')
    (sound : ∀ d', d'.Sane → Changes (· ∉ held) d d' →
      keyContract.Sound operation (row :: held) writes d' next) :
    keyContract.Sound operation held writes d (.lock row next) :=
  fun d' sane changes => ⟨knows d' sane changes, sound d' sane changes⟩

/-- `admit_key_mint` under the user's lock: what it read of the freeze still stands when it
    counts. -/
theorem sound_admitKeyMint {refused : KeyMintAdmission → KeyProgram} {allowed : KeyProgram}
    (user : RowLock.user userId ∈ held) (frozenAt : ∀ d, (writes d).frozenAt = d.frozenAt)
    (refuses : ∀ reason d', keyContract.Sound operation held writes d' (refused reason))
    (sound : ∀ d', d'.Sane → Changes (· ∉ held) d d' → (writes d').Admits userId now →
      keyContract.Sound operation held writes d' allowed) :
    keyContract.Sound operation held writes d (admitKeyMint userId now refused allowed) := by
  intro first sane relied
  show keyContract.Sound operation held writes first (if _ then _ else _)
  by_cases frozen : ((writes first).frozenAt userId).isSome
  · rw [if_pos frozen]
    exact refuses _ _
  · rw [if_neg frozen]
    intro second sane relied'
    show keyContract.Sound operation held writes second (if _ then _ else _)
    by_cases full : maxActiveKeysPerUser ≤ activeKeys (writes second).keys userId ∨
        maxKeysCreatedPerWindow ≤
          createdKeys (writes second).keys userId (now - keyCreationWindow)
    · rw [if_pos full]
      exact refuses _ _
    · rw [if_neg full]
      simp only [not_or, Nat.not_le] at full
      refine sound second sane (relied.trans relied') ⟨?_, full.1, full.2⟩
      have thawed := relied'.frozenAt userId (fun free => free user)
      rw [frozenAt, thawed]
      rw [frozenAt] at frozen
      simpa using frozen

/-- `INSERT INTO api_keys` goes on where the id is nobody's. -/
theorem sound_insertKey {next : KeyProgram}
    (knows : ∀ d', d'.Sane → Changes (· ∉ held) d d' → operation.Knows (.key row.id :: held) d')
    (sound : ∀ d', d'.Sane → Changes (· ∉ held) d d' →
      (∀ key ∈ (writes d').keys, key.id ≠ row.id) →
        keyContract.Sound operation (.key row.id :: held) (KeyStore.withKey row ∘ writes) d'
          next) :
    keyContract.Sound operation held writes d (insertKey row (.refuse answer) next) := by
  refine sound_lock knows fun locked _ relied => ?_
  intro d' sane relied'
  have relied := relied.trans (keyContract_steady.fewer relied')
  show keyContract.Sound operation _ writes d' (if _ then _ else _)
  by_cases taken : (writes d').keys.any fun key => key.id = row.id
  · rw [if_pos taken]
    trivial
  · rw [if_neg taken]
    apply sound d' sane relied
    intro key mem same
    exact taken (any_eq_true.mpr ⟨key, mem, by simpa using same⟩)

/-- The last read of a mint answers with the row that is committed. -/
theorem sound_answerCreated (row : KeyRow)
    (found : ∀ d', d'.Sane → Changes (· ∉ held) d d' →
      (writes d').keys.find? (fun key => key.id = keyId) = some row)
    (commits : ∀ d', d'.Sane → Changes (· ∉ held) d d' →
      Changes (· ∈ held) d' (writes d') ∧ KeyEffect d' operation (.created row) (writes d')) :
    keyContract.Sound operation held writes d (answerCreated keyId) := by
  intro first sane relied
  simp only [found first sane relied]
  intro d' sane relied'
  exact commits d' sane (relied.trans relied')

end Statements

/-! ## The portal's transactions -/

theorem KeyStore.Admits.lasts (admits : d.Admits userId now) (relied : Changes (· ∉ held) d d')
    (user : RowLock.user userId ∈ held) : d'.Admits userId now where
  thawed := by
    rw [relied.frozenAt userId fun free => free user]
    exact admits.thawed
  active := (relied.activeKeys_le fun free => free user).trans_lt admits.active
  recent := by
    rw [relied.createdKeys_eq fun free => free user]
    exact admits.recent

theorem fresh_lasts (fresh : ∀ key ∈ d.keys, key.id ≠ keyId) (relied : Changes (· ∉ held) d d')
    (key : RowLock.key keyId ∈ held) : ∀ key ∈ d'.keys, key.id ≠ keyId :=
  relied.fresh (fun free => free key) fresh

theorem find?_withKey (row : KeyRow) (fresh : ∀ key ∈ d.keys, key.id ≠ row.id) :
    (d.withKey row).keys.find? (fun key => key.id = row.id) = some row := by
  have absent : d.keys.find? (fun key => key.id = row.id) = none := by
    rw [find?_eq_none]
    intro key mem
    simpa using fresh key mem
  simp [KeyStore.withKey, find?_append, absent]

/-- Updating the row just inserted is inserting the updated row. -/
theorem updateKeyRow_withKey (fresh : ∀ key ∈ d.keys, key.id ≠ row.id) :
    updateKeyRow row.id change (d.withKey row) = d.withKey (change row) := by
  have same : d.keys.map (fun key => if key.id = row.id then change key else key) = d.keys := by
    conv_rhs => rw [← map_id d.keys]
    apply map_congr_left
    intro key mem
    rw [if_neg (fresh key mem), id]
  simp only [updateKeyRow, KeyStore.withKey, map_append, map_singleton, if_true, same]

theorem CreateKeyRequest.coalesced_of_none
    (none_ : ¬ (request.spendCapUsd.isSome || request.velocityCapTokensPerMin.isSome ||
      request.defaultPriority.isSome) = true) : request.coalesced key = key := by
  simp only [Bool.or_eq_true, not_or, Option.not_isSome_iff_eq_none] at none_
  obtain ⟨⟨spend, velocity⟩, priority⟩ := none_
  simp [CreateKeyRequest.coalesced, spend, velocity, priority]

theorem refuses_portalRefusal {writes : KeyStore → KeyStore} (reason : KeyMintAdmission)
    (d : KeyStore) :
    keyContract.Sound operation held writes d (portalRefusal reason) := by
  cases reason <;> trivial

theorem sound_createKey :
    keyContract.Sound (.createKey userId request now clock keyId) [] id d
      (createKey userId request now clock keyId) := by
  have quiet : ∀ held d, (KeyOperation.createKey userId request now clock keyId).Knows held d :=
    fun _ _ => .of_no_poll nofun
  unfold createKey
  cases valid : validateNewKey request clock with
  | error message => trivial
  | ok validated =>
      refine sound_lock (fun _ _ _ => quiet _ _) fun _ _ _ => ?_
      refine sound_admitKeyMint mem_cons_self (fun _ => rfl) refuses_portalRefusal
        fun admitted _ _ admits => ?_
      refine sound_insertKey (fun _ _ _ => quiet _ _) fun inserted _ relied fresh => ?_
      have admits : inserted.Admits userId now := admits.lasts relied mem_cons_self
      -- either way the row that is committed is the coalesced one
      have answers : ∀ writes : KeyStore → KeyStore,
          (∀ d : KeyStore, (∀ key ∈ d.keys, key.id ≠ keyId) →
            writes d = d.withKey (validated.createdKey userId now keyId)) →
          keyContract.Sound (.createKey userId request now clock keyId)
            [.key keyId, .user userId] writes inserted (answerCreated keyId) := by
        intro writes writesRow
        refine sound_answerCreated (validated.createdKey userId now keyId) ?_ ?_
        · intro d' _ relied
          have fresh := fresh_lasts fresh relied mem_cons_self
          rw [writesRow d' fresh]
          exact find?_withKey (validated.createdKey userId now keyId) fresh
        · intro d' _ relied
          have fresh := fresh_lasts fresh relied mem_cons_self
          have user : RowLock.user userId ∈ [RowLock.key keyId, .user userId] := by simp
          rw [writesRow d' fresh]
          exact ⟨Changes.withKey user mem_cons_self fresh,
            .created valid (admits.lasts relied user) fresh⟩
      split
      · exact answers _ fun d fresh => updateKeyRow_withKey fresh
      · next none_ =>
          refine answers _ fun d fresh => ?_
          show d.withKey _ = d.withKey _
          rw [CreateKeyRequest.createdKey, CreateKeyRequest.coalesced_of_none none_]

/-! ### The playground key -/

/-- Retiring playground keys only disables them, and only locked ones. -/
theorem changes_retirePlayground (locks : ∀ keyId ∈ locked, free (.key keyId)) :
    Changes free d (retirePlayground userId locked d) := by
  apply Changes.mapKeys
  intro key mem
  split
  · next retired =>
      exact ⟨rfl, rfl, rfl, rfl, rfl, rfl, rfl, fun _ => rfl,
        fun held => absurd (locks _ retired.1) held⟩
  · exact .refl key

theorem fresh_retirePlayground :
    (∀ key ∈ (retirePlayground userId locked d).keys, key.id ≠ keyId) ↔
      ∀ key ∈ d.keys, key.id ≠ keyId := by
  have changes : Changes (fun _ => True) d (retirePlayground userId locked d) :=
    changes_retirePlayground fun _ _ => trivial
  constructor
  · intro fresh key mem same
    obtain ⟨key', mem', ages⟩ := changes.key_to mem
    exact fresh key' mem' (ages.id.trans same)
  · intro fresh key mem
    obtain ⟨old, was, rfl⟩ := mem_map.mp mem
    split
    · exact fresh old was
    · exact fresh old was

/-- A user's live playground keys are among the locked ones for as long as the user's row
    is locked. -/
theorem covers_lasts (covers : ∀ key ∈ d.keys, key.isPlayground userId → key.id ∈ locked)
    (relied : Changes (· ∉ held) d d') (user : RowLock.user userId ∈ held) :
    ∀ key ∈ d'.keys, key.isPlayground userId → key.id ∈ locked := by
  intro key' mem' playground
  simp only [KeyRow.isPlayground, Bool.and_eq_true, decide_eq_true_eq, Bool.not_eq_true']
    at playground
  obtain ⟨⟨owner, name⟩, live⟩ := playground
  rcases relied.key_from mem' with ⟨key, mem, ages⟩ | ⟨free, -⟩
  · rw [ages.id]
    apply covers key mem
    simp only [KeyRow.isPlayground, Bool.and_eq_true, decide_eq_true_eq, Bool.not_eq_true']
    exact ⟨⟨ages.userId.symm.trans owner, ages.name.symm.trans name⟩, ages.enabled live⟩
  · rw [owner] at free
    exact absurd user free

/-- What is live after the retirement was live after it before the others were at the
    database. -/
theorem activeKeys_retirePlayground_le (changes : Changes free d d')
    (held : ¬ free (.user userId)) :
    activeKeys (retirePlayground userId locked d').keys userId ≤
      activeKeys (retirePlayground userId locked d).keys userId := by
  obtain ⟨age, added, eq, ages, fresh⟩ := changes.keys
  unfold activeKeys retirePlayground
  simp only [eq, map_append, countP_append, countP_map]
  have none_ : added.countP ((fun key => decide (key.userId = userId ∧ key.disabled = false)) ∘
      fun key => if key.id ∈ locked ∧ key.isPlayground userId then { key with disabled := true }
        else key) = 0 := by
    rw [countP_eq_zero]
    intro key mem live
    have owner : key.userId = userId := by
      simp only [Function.comp_apply, decide_eq_true_eq] at live
      split at live
      · exact live.1
      · exact live.1
    exact held (owner ▸ (fresh key mem).1)
  rw [none_, Nat.add_zero]
  apply countP_mono_left
  intro key mem live
  have aged := ages key mem
  simp only [Function.comp_apply, decide_eq_true_eq] at live ⊢
  by_cases retired : key.id ∈ locked ∧ key.isPlayground userId
  · exfalso
    by_cases still : (age key).id ∈ locked ∧ (age key).isPlayground userId
    · rw [if_pos still] at live
      cases live.2
    · -- a live key that was a playground key is one still
      rw [if_neg still] at live
      apply still
      refine ⟨aged.id ▸ retired.1, ?_⟩
      have playground := retired.2
      simp only [KeyRow.isPlayground, Bool.and_eq_true, decide_eq_true_eq, Bool.not_eq_true']
        at playground ⊢
      exact ⟨⟨live.1, aged.name.trans playground.1.2⟩, live.2⟩
  · rw [if_neg retired]
    split at live
    · cases live.2
    · exact ⟨aged.userId.symm.trans live.1, aged.enabled live.2⟩

theorem createdKeys_retirePlayground {after : Timestamp} :
    createdKeys (retirePlayground userId locked d).keys userId after =
      createdKeys d.keys userId after := by
  have changes : Changes (fun row => ∃ keyId, row = .key keyId) d
      (retirePlayground userId locked d) := changes_retirePlayground fun keyId _ => ⟨keyId, rfl⟩
  exact changes.createdKeys_eq (by simp) after

theorem admits_retirePlayground_lasts
    (admits : (retirePlayground userId locked d).Admits userId now)
    (relied : Changes (· ∉ held) d d') (user : RowLock.user userId ∈ held) :
    (retirePlayground userId locked d').Admits userId now where
  thawed := by
    show d'.frozenAt userId = none
    rw [relied.frozenAt userId fun free => free user]
    exact admits.thawed
  active :=
    (activeKeys_retirePlayground_le relied fun free => free user).trans_lt admits.active
  recent := by
    have recent := admits.recent
    rw [createdKeys_retirePlayground] at recent ⊢
    rwa [relied.createdKeys_eq fun free => free user]

theorem sound_ensurePlaygroundKey :
    keyContract.Sound (.ensurePlaygroundKey userId now keyId) [] id d
      (ensurePlaygroundKey userId now keyId) := by
  have quiet : ∀ held d, (KeyOperation.ensurePlaygroundKey userId now keyId).Knows held d :=
    fun _ _ => .of_no_poll nofun
  refine sound_lock (fun _ _ _ => quiet _ _) fun _ _ _ => ?_
  intro snapshot sane _
  have covers : ∀ key ∈ snapshot.keys, key.isPlayground userId →
      key.id ∈ (snapshot.keys.filter (·.isPlayground userId)).map (·.id) := by
    intro key mem playground
    exact mem_map_of_mem (mem_filter.mpr ⟨mem, playground⟩)
  simp only [id_eq]
  generalize (snapshot.keys.filter (·.isPlayground userId)).map (·.id) = locked at covers ⊢
  refine Contract.Sound.lockAll keyContract_steady quiet sane fun held _ relied => ?_
  have covers := covers_lasts covers relied (by simp)
  have user : RowLock.user userId ∈ (locked.map RowLock.key).reverse ++ [.user userId] := by simp
  have locks : ∀ id ∈ locked,
      RowLock.key id ∈ (locked.map RowLock.key).reverse ++ [.user userId] := by
    intro id mem
    simp [mem]
  generalize (locked.map RowLock.key).reverse ++ [.user userId] = rows at user locks ⊢
  refine sound_admitKeyMint user (fun _ => rfl) refuses_portalRefusal
    fun admitted _ relied admits => ?_
  have covers := covers_lasts covers relied user
  refine sound_insertKey (fun _ _ _ => quiet _ _) fun inserted _ relied fresh => ?_
  have covers := covers_lasts covers relied user
  have admits := admits_retirePlayground_lasts admits relied user
  have fresh := fresh_retirePlayground.mp fresh
  refine sound_answerCreated (playgroundRow userId now keyId) ?_ ?_
  · intro d' _ relied
    have fresh := fresh_lasts fresh relied mem_cons_self
    exact find?_withKey (playgroundRow userId now keyId) (fresh_retirePlayground.mpr fresh)
  · intro d' _ relied
    have fresh := fresh_lasts fresh relied mem_cons_self
    have covers := covers_lasts covers relied (mem_cons_of_mem _ user)
    have admits := admits_retirePlayground_lasts admits relied (mem_cons_of_mem _ user)
    refine ⟨?_, .replaced locked covers admits fresh⟩
    refine (changes_retirePlayground fun id mem => ?_).trans (Changes.withKey ?_ ?_ ?_)
    · exact mem_cons_of_mem _ (locks id mem)
    · exact mem_cons_of_mem _ user
    · exact mem_cons_self
    · exact fresh_retirePlayground.mpr fresh

/-! ### One key -/

/-- Updating a locked key by its id. -/
theorem changes_updateKeyRow (lock : free (.key keyId))
    (ages : ∀ key ∈ d.keys, key.id = keyId → KeyAges (fun _ => True) key (change key)) :
    Changes free d (updateKeyRow keyId change d) := by
  apply Changes.mapKeys
  intro key mem
  split
  · next same =>
      exact { ages key mem same with locked := fun held => absurd (same ▸ lock) held }
  · exact .refl key

theorem sound_disableKey :
    keyContract.Sound (.disableKey userId keyId) [] id d (disableKey userId keyId) := by
  refine sound_selectForUpdate (fun _ _ => .of_no_poll nofun) fun d row _ mem wanted => ?_
  simp only [Bool.and_eq_true, decide_eq_true_eq] at wanted
  obtain ⟨⟨rfl, rfl⟩, -⟩ := wanted
  intro d' _ relied
  have mem := relied.key_locked mem (fun free => free mem_cons_self)
  refine ⟨changes_updateKeyRow mem_cons_self ?_, .disabled mem⟩
  intro key _ _
  exact ⟨rfl, rfl, rfl, rfl, rfl, rfl, rfl, fun _ => rfl, fun held => absurd trivial held⟩

/-- A patch leaves the caps, the name, the owner and the revocation alone. -/
theorem ages_patched (key : KeyRow) (request : UpdateKeyRequest) :
    KeyAges (fun _ => True) key (key.patched request) :=
  ⟨rfl, rfl, rfl, rfl, rfl, rfl, rfl, fun revoked => revoked, fun held => absurd trivial held⟩

/-- In a sane store an update of one row by its id is decided by that row. -/
theorem updateKeyRow_congr (sane : d.Sane) (mem : key ∈ d.keys) {change' : KeyRow → KeyRow}
    (same : change key = change' key) :
    updateKeyRow key.id change d = updateKeyRow key.id change' d := by
  unfold updateKeyRow
  congr 1
  apply map_congr_left
  intro other mem'
  by_cases here : other.id = key.id
  · rw [if_pos here, if_pos here, sane.key_unique mem' mem here, same]
  · rw [if_neg here, if_neg here]

theorem updateKeyRow_id (same : ∀ key ∈ d.keys, key.id = keyId → change key = key) :
    updateKeyRow keyId change d = d := by
  have keys : d.keys.map (fun key => if key.id = keyId then change key else key) = d.keys := by
    conv_rhs => rw [← map_id d.keys]
    apply map_congr_left
    intro key mem
    by_cases here : key.id = keyId
    · rw [if_pos here, same key mem here, id]
    · rw [if_neg here, id]
  unfold updateKeyRow
  rw [keys]

theorem find?_eq_of_unique {β : Type} {rows : List β} {wanted : β → Bool} {row : β}
    (mem : row ∈ rows) (matched : wanted row = true)
    (unique : ∀ other ∈ rows, wanted other = true → other = row) :
    rows.find? wanted = some row := by
  cases found : rows.find? wanted with
  | none =>
      rw [find?_eq_none] at found
      exact absurd matched (found row mem)
  | some other =>
      rw [unique other (mem_of_find?_eq_some found) (find?_some found)]

theorem find?_updateKeyRow (sane : d.Sane) (mem : key ∈ d.keys)
    (ages : KeyAges (fun _ => True) key (change key)) :
    (updateKeyRow key.id change d).keys.find?
      (fun other => other.id = key.id && other.userId = key.userId) = some (change key) := by
  have change_eq : updateKeyRow key.id change d = updateKeyRow key.id (fun _ => change key) d :=
    updateKeyRow_congr sane mem rfl
  rw [change_eq]
  refine find?_eq_of_unique ?_ (by simp [ages.id, ages.userId]) ?_
  · exact mem_map.mpr ⟨key, mem, if_pos rfl⟩
  · intro other mem' wanted
    obtain ⟨old, was, rfl⟩ := mem_map.mp mem'
    by_cases here : old.id = key.id
    · rw [if_pos here]
    · rw [if_neg here] at wanted
      simp [here] at wanted

theorem sound_updateKey {request : UpdateKeyRequest} :
    keyContract.Sound (.updateKey userId keyId request clock) [] id d
      (updateKey userId keyId request clock) := by
  refine sound_selectForUpdate (fun _ _ => .of_no_poll nofun) fun d row _ mem wanted => ?_
  simp only [Bool.and_eq_true, decide_eq_true_eq, and_true] at wanted
  obtain ⟨rfl, rfl⟩ := wanted
  cases valid : validateKeyEdit request row.edit clock with
  | error message => trivial
  | ok after =>
      -- with or without a field to write, the row is patched in what is committed
      have answers (reply : KeyStore → KeyProgram)
          (replies : ∀ db, reply db =
            (db.keys.find? fun key => key.id = row.id && key.userId = row.userId).elim
              (.refuse (.refused .keyNotFound)) fun key => .commit (.summary key))
          (writes : KeyStore → KeyStore)
          (writesRow : ∀ d : KeyStore, d.Sane → row ∈ d.keys →
            writes d = updateKeyRow row.id (·.patched request) d) :
          keyContract.Sound (.updateKey row.userId row.id request clock) [.key row.id] writes d
            (.read reply) := by
        obtain rfl : reply = _ := funext replies
        intro first sane relied
        have here := relied.key_locked mem fun free => free mem_cons_self
        have found : (updateKeyRow row.id (·.patched request) first).keys.find?
            (fun key => key.id = row.id && key.userId = row.userId) =
              some (row.patched request) :=
          find?_updateKeyRow sane here (ages_patched row request)
        simp only [writesRow first sane here, found, Option.elim_some]
        intro d' sane' relied'
        have here' := relied'.key_locked here fun free => free mem_cons_self
        rw [writesRow d' sane' here']
        exact ⟨changes_updateKeyRow mem_cons_self fun key _ _ => ages_patched key request,
          .updated here' valid⟩
      by_cases names : request.namesAField = true
      · simp only [names, if_true]
        unfold Contract.Sound
        refine answers _ (fun db => ?_) _ fun d sane mem => ?_
        · cases db.keys.find? fun key => key.id = row.id && key.userId = row.userId <;> rfl
        · exact updateKeyRow_congr sane mem (validateKeyEdit_ok valid)
      · simp only [names, Bool.false_eq_true, if_false]
        refine answers _ (fun db => ?_) _ fun d _ _ => ?_
        · cases db.keys.find? fun key => key.id = row.id && key.userId = row.userId <;> rfl
        · have empty := Bool.eq_false_iff.mpr names
          exact (updateKeyRow_id fun key _ _ => key.patched_of_empty empty).symm

/-! ## The device flow's transactions -/

theorem changes_updateGrant {grantId : Uuid} {change : DeviceAuthorization → DeviceAuthorization}
    (lock : free (.grant grantId))
    (ages : ∀ grant ∈ d.grants, grant.id = grantId →
      GrantAges (fun _ => True) grant (change grant)) :
    Changes free d (updateGrant grantId change d) := by
  apply Changes.mapGrants
  intro grant mem
  split
  · next same =>
      exact { ages grant mem same with locked := fun held => absurd (same ▸ lock) held }
  · exact .refl grant

theorem DeviceAuthorization.isOpen_iff :
    grant.isOpen = true ↔ grant.status = .pending ∨ grant.status = .approved := by
  simp [DeviceAuthorization.isOpen]

/-- An open grant can expire. -/
theorem ages_expired (isOpen : grant.isOpen = true) (lock : free (.grant grant.id)) :
    GrantAges free grant { grant with status := .expired } where
  id := rfl
  expiresAt := rfl
  status := by
    rcases DeviceAuthorization.isOpen_iff.mp isOpen with status | status
    · rw [status]
      exact .decided _
    · rw [status]
      exact .expired
  userId _ := rfl
  apiKeyId _ := rfl
  locked held := absurd lock held

/-- The claim takes an approved grant to its last status and leaves the others. -/
theorem ages_claimed (grant : DeviceAuthorization) :
    GrantAges (fun _ => True) grant (grant.claimed now keyId) := by
  unfold DeviceAuthorization.claimed
  split
  · next approved =>
      refine ⟨rfl, rfl, ?_, fun _ => rfl, ?_, fun held => absurd trivial held⟩
      · rw [approved]
        exact .claimed
      · intro claimed
        rw [approved] at claimed
        cases claimed
  · exact .refl grant

theorem sound_expireStale :
    keyContract.Sound (.expireStale now) [] id d (expireStale now) := by
  intro snapshot sane _
  simp only [id_eq]
  refine Contract.Sound.lockAll keyContract_steady (fun _ _ => .of_no_poll (by simp)) sane ?_
  generalize (snapshot.grants.filter (·.isStale now)).map (·.id) = locked
  intro _ _ _ d' _ _
  refine ⟨Changes.mapGrants ?_, .expired locked⟩
  intro grant _
  split
  · next stale =>
      simp only [DeviceAuthorization.isStale, Bool.and_eq_true] at stale
      exact ages_expired stale.2.1 (by simp [stale.1])
  · exact .refl grant

theorem sound_deleteTerminal :
    keyContract.Sound (.deleteTerminal now) [] id d (deleteTerminal now) := by
  intro snapshot sane _
  simp only [id_eq]
  refine Contract.Sound.lockAll keyContract_steady (fun _ _ => .of_no_poll (by simp)) sane ?_
  generalize (snapshot.grants.filter (·.isReclaimed now)).map (·.id) = locked
  intro _ _ _ d' _ _
  refine ⟨Changes.filterGrants ?_, .deleted locked⟩
  intro grant _ gone
  simp only [Bool.not_eq_false', Bool.and_eq_true, contains_eq_mem, decide_eq_true_eq]
    at gone
  simp [gone.1]

theorem sound_insertAuthorization {id : Uuid} {deviceCodeHash userCode clientId : String}
    {keyName : Option String} (sane : d.Sane) :
    keyContract.Sound (.insertAuthorization id deviceCodeHash userCode clientId keyName now) []
      (fun d => d) d
      (insertAuthorization
        (authorizationRow id deviceCodeHash userCode clientId keyName now)) := by
  refine Contract.Sound.lockAll keyContract_steady (fun _ _ => .of_no_poll (by simp)) sane ?_
  intro _ _ _ first _ _
  show keyContract.Sound _ _ _ first (if _ then _ else _)
  split
  · trivial
  · next free =>
      simp only [not_or] at free
      intro d' _ relied
      have lock : RowLock.grant id ∈
          [RowLock.grant id, .deviceCode deviceCodeHash, .userCode userCode].reverse ++ [] := by
        simp
      -- others draw no id whose row is locked
      have fresh : id ∉ d'.drawn := by
        intro drawn
        exact relied.drew id drawn free.1 lock
      exact ⟨Changes.withGrant lock fresh, .started fresh⟩

theorem sound_claimGrant (mem : grant ∈ d.grants) (inTime : now < grant.expiresAt)
    (approved : grant.status = .approved) (owner : grant.userId = some userId) :
    keyContract.Sound (.pollDeviceToken grant.deviceCodeHash grant.clientId now keyId)
      [.grant grant.id] id d (claimGrant grant userId now keyId) := by
  have knows : ∀ held d, RowLock.grant grant.id ∈ held → grant ∈ d.grants →
      (∀ other, RowLock.user other ∈ held → other = userId) →
        (KeyOperation.pollDeviceToken grant.deviceCodeHash grant.clientId now keyId).Knows
          held d := by
    intro held d lock mem only deviceCodeHash clientId now' keyId' poll other user
    cases poll
    cases only other user
    exact ⟨grant, mem, lock, rfl, rfl, approved, owner, inTime⟩
  refine sound_lock (fun _ _ relied => ?_) fun locked _ relied => ?_
  · exact knows _ _ (by simp) (relied.grant_locked mem fun free => free mem_cons_self)
      (by simp)
  have mem := relied.grant_locked mem fun free => free mem_cons_self
  refine sound_admitKeyMint mem_cons_self (fun _ => rfl) (fun _ _ => trivial)
    fun admitted _ relied admits => ?_
  have mem := relied.grant_locked mem fun free => free (by simp)
  refine sound_insertKey (fun _ _ relied => ?_) fun inserted _ relied fresh => ?_
  · exact knows _ _ (by simp) (relied.grant_locked mem fun free => free (by simp)) (by simp)
  have mem := relied.grant_locked mem fun free => free (by simp)
  have admits : inserted.Admits userId now := admits.lasts relied mem_cons_self
  intro first _ relied
  have mem := relied.grant_locked mem fun free => free (by simp)
  have admits : first.Admits userId now := admits.lasts relied (by simp)
  have fresh := fresh_lasts fresh relied mem_cons_self
  show keyContract.Sound _ _ _ first (if _ then _ else _)
  split
  · intro d' _ relied
    have mem := relied.grant_locked mem fun free => free (by simp)
    have admits : d'.Admits userId now := admits.lasts relied (by simp)
    have fresh := fresh_lasts fresh relied mem_cons_self
    refine ⟨?_, .claimed mem inTime approved owner admits fresh⟩
    refine (Changes.withKey (by simp [DeviceAuthorization.claimedKey, KeyRow.inserted])
      (by simp [DeviceAuthorization.claimedKey, KeyRow.inserted]) fresh).trans
        (changes_updateGrant (by simp) ?_)
    intro other _ _
    exact ages_claimed other
  · trivial

theorem sound_pollDeviceToken {deviceCodeHash clientId : String} :
    keyContract.Sound (.pollDeviceToken deviceCodeHash clientId now keyId) [] id d
      (pollDeviceToken deviceCodeHash clientId now keyId) := by
  refine sound_selectForUpdate (fun _ _ => .of_no_user (by simp)) fun d grant _ mem wanted => ?_
  simp only [Bool.and_eq_true, decide_eq_true_eq] at wanted
  obtain ⟨rfl, rfl⟩ := wanted
  have lasts : ∀ d', Changes (· ∉ [RowLock.grant grant.id]) d d' → grant ∈ d'.grants :=
    fun d' relied => relied.grant_locked mem fun free => free mem_cons_self
  by_cases late : grant.expiresAt ≤ now ∧ grant.isOpen
  · simp only [late, and_self, if_true]
    intro d' sane relied
    refine ⟨changes_updateGrant mem_cons_self ?_, .lapsed (lasts d' relied) late.1 late.2⟩
    intro other mem' same
    rw [sane.grant_unique mem' (lasts d' relied) same]
    exact ages_expired late.2 trivial
  · rw [if_neg late]
    cases status : grant.status with
    | pending =>
        have inTime : now < grant.expiresAt := by
          simp [DeviceAuthorization.isOpen, status] at late
          exact late
        intro d' sane relied
        refine ⟨changes_updateGrant mem_cons_self ?_,
          .polled (lasts d' relied) inTime status⟩
        intro other _ _
        exact ⟨rfl, rfl, .stays _, fun _ => rfl, fun _ => rfl, fun held => absurd trivial held⟩
    | approved =>
        have inTime : now < grant.expiresAt := by
          simp [DeviceAuthorization.isOpen, status] at late
          exact late
        cases owner : grant.userId with
        | none => trivial
        | some userId => exact sound_claimGrant mem inTime status owner
    | denied => trivial
    | expired => trivial
    | claimed => trivial

theorem ages_decided {grant' : DeviceAuthorization} (pending : grant.status = .pending)
    (id : grant'.id = grant.id) (expiresAt : grant'.expiresAt = grant.expiresAt) :
    GrantAges (fun _ => True) grant grant' where
  id := id
  expiresAt := expiresAt
  status := by
    rw [pending]
    exact .decided _
  userId decided := absurd pending decided
  apiKeyId claimed := by
    rw [pending] at claimed
    cases claimed
  locked held := absurd trivial held

/-- An approval or a denial: one `UPDATE` of a pending grant that has not expired. -/
theorem sound_decide {userCode : String} {change : DeviceAuthorization → DeviceAuthorization}
    (quiet : ∀ held d, operation.Knows held d) (id : ∀ grant, (change grant).id = grant.id)
    (expiresAt : ∀ grant, (change grant).expiresAt = grant.expiresAt)
    (effect : ∀ (d : KeyStore) (grant : DeviceAuthorization), grant ∈ d.grants →
      grant.userCode = userCode → now < grant.expiresAt → grant.status = .pending →
        KeyEffect d operation .done (updateGrant grant.id change d)) :
    keyContract.Sound operation [] (fun d => d) d
      (selectGrant (·.isDecidable userCode now) (.refuse .codeNotFound) fun grant =>
        .write (updateGrant grant.id change) (.commit .done)) := by
  refine sound_selectForUpdate (fun _ _ => quiet _ _) fun d grant _ mem wanted => ?_
  simp only [DeviceAuthorization.isDecidable, Bool.and_eq_true, decide_eq_true_eq] at wanted
  obtain ⟨⟨code, pending⟩, inTime⟩ := wanted
  intro d' sane relied
  have here := relied.grant_locked mem fun free => free mem_cons_self
  refine ⟨changes_updateGrant mem_cons_self ?_, effect d' grant here code inTime pending⟩
  intro other mem' same
  rw [sane.grant_unique mem' here same]
  exact ages_decided pending (id grant) (expiresAt grant)

/-! ## Freezes -/

theorem sound_setFrozen {frozenAt : Option Timestamp} (quiet : ∀ held d, operation.Knows held d)
    (effect : ∀ d : KeyStore, KeyEffect d operation .done (d.withFrozen userId frozenAt)) :
    keyContract.Sound operation [] (fun d => d) d (setFrozen userId frozenAt) := by
  intro snapshot _ _
  show keyContract.Sound _ _ _ snapshot (if _ then _ else _)
  split
  · trivial
  · refine sound_lock (fun _ _ _ => quiet _ _) fun _ _ _ => ?_
    intro first _ _
    show keyContract.Sound _ _ _ first (if _ then _ else _)
    split
    · trivial
    · intro d' _ _
      exact ⟨Changes.withFrozen mem_cons_self, effect d'⟩

/-! ## What an effect does to the keys -/

/-- The commit of a poll that claims a grant: the key and the grant's last status. -/
structure ClaimEffect (d : KeyStore) (operation : KeyOperation) (d' : KeyStore)
    (grant : DeviceAuthorization) (row : KeyRow) : Prop where
  mem : grant ∈ d.grants
  operation : operation =
    .pollDeviceToken grant.deviceCodeHash grant.clientId row.createdAt row.id
  inTime : row.createdAt < grant.expiresAt
  approved : grant.status = .approved
  owner : grant.userId = some row.userId
  row_eq : row = grant.claimedKey row.userId row.createdAt row.id
  fresh : ∀ key ∈ d.keys, key.id ≠ row.id
  result : d' = updateGrant grant.id (·.claimed row.createdAt row.id) (d.withKey row)

theorem ClaimEffect.origin (claim : ClaimEffect d operation d' grant row) :
    row.origin = .device grant.id := by
  rw [claim.row_eq]
  rfl

/-- The caller of a portal request. -/
def KeyOperation.caller : KeyOperation → Option Uuid
  | .createKey userId _ _ _ _ => some userId
  | .ensurePlaygroundKey userId _ _ => some userId
  | .disableKey userId _ => some userId
  | .updateKey userId _ _ _ => some userId
  | _ => none

/-- The caps a request names for the key it mints. -/
def KeyOperation.namedSpendCap : KeyOperation → Option Decimal
  | .createKey _ request _ _ _ => request.spendCapUsd
  | _ => none

def KeyOperation.namedVelocityCap : KeyOperation → Option Int
  | .createKey _ request _ _ _ => request.velocityCapTokensPerMin
  | _ => none

/-- The row a mint commits: its caps are what the request names or the column defaults. -/
structure MintedRow (d : KeyStore) (operation : KeyOperation) (row : KeyRow) : Prop where
  fresh : ∀ key ∈ d.keys, key.id ≠ row.id
  enabled : row.disabled = false
  caller : ∀ userId, operation.caller = some userId → row.userId = userId
  spendCapUsd : row.spendCapUsd = operation.namedSpendCap.getD defaultSpendCapUsd
  velocityCap : row.velocityCapTokensPerMin =
    operation.namedVelocityCap.getD defaultVelocityCapTokensPerMin

theorem validateNewKey_ok {validated : CreateKeyRequest}
    (valid : validateNewKey request clock = .ok validated) :
    validated = { request with name := trim request.name } := by
  unfold validateNewKey at valid
  simp only at valid
  iterate 10
    split at valid
    · cases valid
  cases valid
  rfl

/-- The keys after a commit: aged, or aged with one more that was admitted over them. -/
inductive KeysEffect (d : KeyStore) (operation : KeyOperation) (d' : KeyStore) : Prop where
  | aged (age : KeyRow → KeyRow) (keys : d'.keys = d.keys.map age)
      (ages : ∀ key ∈ d.keys, KeyAges (fun _ => True) key (age key))
  | minted (age : KeyRow → KeyRow) (row : KeyRow) (keys : d'.keys = d.keys.map age ++ [row])
      (ages : ∀ key ∈ d.keys, KeyAges (fun _ => True) key (age key))
      (frozenAt : d'.frozenAt = d.frozenAt)
      (admits : KeyStore.Admits { d with keys := d.keys.map age } row.userId row.createdAt)
      (mint : MintedRow d operation row)
      (source : (∀ grantId, row.origin ≠ .device grantId) ∨
        ∃ grant, ClaimEffect d operation d' grant row)

theorem KeysEffect.of_keys_eq (keys : d'.keys = d.keys) : KeysEffect d operation d' :=
  .aged id (by rw [keys, map_id]) fun key _ => .refl key

theorem KeyEffect.keysEffect (effect : KeyEffect d operation answer d') :
    KeysEffect d operation d' := by
  have revoked : ∀ key : KeyRow, KeyAges (fun _ => True) key { key with disabled := true } :=
    fun key => ⟨rfl, rfl, rfl, rfl, rfl, rfl, rfl, fun _ => rfl, fun held => absurd trivial held⟩
  cases effect with
  | @created userId request validated now clock keyId valid admits fresh =>
      refine .minted id (validated.createdKey userId now keyId) ?_ (fun key _ => .refl key) rfl ?_
        ?_ (.inl fun _ => nofun)
      · rw [map_id]
        rfl
      · rw [map_id]
        exact admits
      · cases validateNewKey_ok valid
        exact ⟨fresh, rfl, fun _ same => Option.some.inj same, rfl, rfl⟩
  | @replaced userId now keyId locked covers admits fresh =>
      refine .minted _ (playgroundRow userId now keyId) rfl ?_ rfl admits
        ⟨fresh, rfl, fun _ same => Option.some.inj same, rfl, rfl⟩ (.inl fun _ => nofun)
      intro key mem
      split
      · exact revoked key
      · exact .refl key
  | disabled mem =>
      refine .aged _ rfl fun key _ => ?_
      split
      · exact revoked key
      · exact .refl key
  | updated mem valid =>
      refine .aged _ rfl fun key _ => ?_
      split
      · exact ages_patched key _
      · exact .refl key
  | @claimed grant now keyId userId mem inTime approved owner admits fresh =>
      refine .minted id (grant.claimedKey userId now keyId) ?_ (fun key _ => .refl key) rfl ?_
        ⟨fresh, rfl, nofun, rfl, rfl⟩
        (.inr ⟨grant, mem, rfl, inTime, approved, owner, rfl, fresh, rfl⟩)
      · rw [map_id]
        rfl
      · rw [map_id]
        exact admits
  | expired | deleted | started | lapsed | polled | approved | denied | froze | thawed =>
      exact .of_keys_eq rfl

/-! ## The system -/

theorem keyContract_kept : keyContract.Kept KeyOperation.program where
  toSteady := keyContract_steady
  unlocked _ _ := .of_no_user (by simp)
  lasts knows changes := knows.lasts changes
  sound operation d sane := by
    cases operation with
    | createKey => exact sound_createKey
    | ensurePlaygroundKey => exact sound_ensurePlaygroundKey
    | disableKey => exact sound_disableKey
    | updateKey => exact sound_updateKey
    | expireStale => exact sound_expireStale
    | deleteTerminal => exact sound_deleteTerminal
    | insertAuthorization => exact sound_insertAuthorization sane
    | pollDeviceToken => exact sound_pollDeviceToken
    | approveUserCode userId userCode keyName now =>
        refine sound_decide (fun _ _ => .of_no_poll (by simp)) (fun _ => rfl) (fun _ => rfl) ?_
        rintro d grant mem rfl inTime pending
        exact .approved mem inTime pending
    | denyUserCode userCode now =>
        refine sound_decide (fun _ _ => .of_no_poll (by simp)) (fun _ => rfl) (fun _ => rfl) ?_
        rintro d grant mem rfl inTime pending
        exact .denied mem inTime pending
    | freezeAccount userId now =>
        exact sound_setFrozen (fun _ _ => .of_no_poll (by simp)) fun _ => .froze
    | unfreezeAccount userId =>
        exact sound_setFrozen (fun _ _ => .of_no_poll (by simp)) fun _ => .thawed
  keeps sane guar := guar.1.sane sane
  apart _ guar other apart :=
    guar.1.mono fun row held locked => apart row locked held

/-- A database that key management starts from. -/
abbrev KeyStore.opened (d : KeyStore) : KeySystem := State.idle d

/-- `s` is reached by a run from the database `d`. -/
abbrev KeyStore.Reaches (d : KeyStore) (s : KeySystem) : Prop :=
  Steps keyStep anyStep d.opened s

theorem holds_of_reaches (sane : d.Sane) (run : d.Reaches s) :
    keyContract.Holds s :=
  keyContract_kept.holds (.idle sane) run

/-- A step leaves the database as it is, or it commits an operation's effect. -/
theorem keyStep_db {action : KeyAction} (holds : keyContract.Holds s)
    (next : keyStep s action = some t) :
    t.db = s.db ∨ ∃ who session answer, action = .advance who ∧ s.session who = some session ∧
      session.rest = .commit answer ∧ Changes (· ∈ session.held) s.db t.db ∧
        KeyEffect s.db session.operation answer t.db := by
  rcases step_db next with same | ⟨who, session, answer, rfl, found, rest, db⟩
  · exact .inl same
  · have guarantees := holds.commits found rest
    rw [← db] at guarantees
    exact .inr ⟨who, session, answer, rfl, found, rest, guarantees.1, guarantees.2⟩

theorem commit_effect {who : Nat} {session : Session KeyOperation RowLock KeyStore KeyAnswer}
    (holds : keyContract.Holds s) (found : s.session who = some session)
    (rest : session.rest = .commit answer) (next : keyStep s (.advance who) = some t) :
    KeyEffect s.db session.operation answer t.db := by
  rw [step_commit found rest next]
  exact (holds.commits found rest).2

/-- What a transaction does before its commit, and its end without one, leave the database
    as it is. -/
theorem db_of_uncommitted {who : Nat} {session : Session KeyOperation RowLock KeyStore KeyAnswer}
    {action : KeyAction} (found : s.session who = some session)
    (own : action = .advance who ∨ action = .abort who) (next : keyStep s action = some t)
    (uncommitted : ∀ answer, session.rest ≠ .commit answer) :
    t.db = s.db := by
  rcases step_db next with same | ⟨who', session', answer, rfl, found', rest, -⟩
  · exact same
  · rcases own with own | own
    · cases own
      cases found'.symm.trans found
      exact absurd rest (uncommitted answer)
    · cases own

/-- Over any run the rows only age as `Changes` says. -/
theorem changes_of_steps (holds : keyContract.Holds s) (run : Steps keyStep anyStep s t) :
    Changes (fun _ => True) s.db t.db := by
  induction run with
  | refl => exact Changes.refl _
  | tail run _ next ih =>
      have holds := keyContract_kept.holds holds run
      rcases keyStep_db holds next with same | ⟨_, _, _, -, -, -, changes, -⟩
      · rw [same]
        exact ih
      · exact ih.trans (changes.mono fun _ _ => trivial)

end ZeroRouter
