import ZeroRouter.Proofs.KeyOperations

/-!
# What the transactions of key management see of other users' keys

Two databases are the same to a transaction when they share everything but the keys of
the users it does not act for; of those it may know which ids are taken, as the primary
key tells it.  Every program goes on in the same way over two such databases.
-/

namespace ZeroRouter

open List ReadCommitted

variable {userId keyId : Uuid} {now : Timestamp} {answer : KeyAnswer} {operation : KeyOperation}
  {wanted : KeyRow → Bool} {change : KeyRow → KeyRow} {next : KeyProgram} {d d' : KeyStore}
  {clock : Timestamp} {deviceCodeHash clientId : String}

/-- The user an operation acts for: the caller of a portal request, and for a poll the
    user whose row it has locked to claim their grant. -/
def KeyOperation.ActsFor (operation : KeyOperation) (held : List RowLock) (userId : Uuid) :
    Prop :=
  match operation with
  | .createKey caller _ _ _ _ => caller = userId
  | .ensurePlaygroundKey caller _ _ => caller = userId
  | .disableKey caller _ => caller = userId
  | .updateKey caller _ _ _ => caller = userId
  | .pollDeviceToken _ _ _ _ => RowLock.user userId ∈ held
  | _ => False

/-- The id an operation has drawn for the key it mints. -/
def KeyOperation.draws : KeyOperation → Option Uuid
  | .createKey _ _ _ _ keyId => some keyId
  | .ensurePlaygroundKey _ _ keyId => some keyId
  | .pollDeviceToken _ _ _ keyId => some keyId
  | _ => none

/-- The keys of a user. -/
def KeyStore.keysOf (d : KeyStore) (userId : Uuid) : List KeyRow :=
  d.keys.filter fun key => key.userId = userId

/-- The databases differ at most in the keys of users the operation does not act for, none
    of which has the id the operation has drawn. -/
structure SameTo (operation : KeyOperation) (held : List RowLock) (d d' : KeyStore) : Prop where
  frozenAt : d.frozenAt = d'.frozenAt
  grants : d.grants = d'.grants
  drawn : d.drawn = d'.drawn
  ids : d.keys.map (fun key => key.id) = d'.keys.map fun key => key.id
  own : ∀ userId, operation.ActsFor held userId → d.keysOf userId = d'.keysOf userId
  drew : ∀ keyId ∈ operation.draws, d.keys.find? (fun key => key.id = keyId) =
    d'.keys.find? fun key => key.id = keyId

theorem KeyOperation.ActsFor.more {held : List RowLock} (acts : operation.ActsFor held userId)
    (more : List RowLock) :
    operation.ActsFor (more ++ held) userId := by
  cases operation with
  | pollDeviceToken => exact mem_append_right more acts
  | _ => exact acts

namespace SameTo

variable {operation : KeyOperation} {held : List RowLock} {d d' : KeyStore}

/-! ## Reads -/

section Reads

variable (same : SameTo operation held d d')
include same

theorem any_id (keyId : Uuid) : (d.keys.any fun key => key.id = keyId) =
    d'.keys.any fun key => key.id = keyId := by
  have := congrArg (List.any · fun id => decide (id = keyId)) same.ids
  simpa only [any_map, Function.comp_def] using this

variable {userId : Uuid} (acts : operation.ActsFor held userId)
include acts

theorem activeKeys_eq : activeKeys d.keys userId = activeKeys d'.keys userId := by
  have own := congrArg (List.countP fun key => !key.disabled) (same.own userId acts)
  simp only [KeyStore.keysOf, countP_filter] at own
  unfold activeKeys
  convert own using 4 <;> simp [and_comm]

theorem createdKeys_eq (after : Timestamp) :
    createdKeys d.keys userId after = createdKeys d'.keys userId after := by
  have own := congrArg (List.countP fun key => decide (after < key.createdAt))
    (same.own userId acts)
  simp only [KeyStore.keysOf, countP_filter] at own
  unfold createdKeys
  convert own using 4 <;> simp [Bool.and_comm]

theorem find_own (owned : ∀ key, wanted key = true → key.userId = userId) :
    d.keys.find? wanted = d'.keys.find? wanted := by
  have narrow : wanted = fun key => decide (key.userId = userId) && wanted key := by
    funext key
    cases want : wanted key with
    | false => simp
    | true => simp [owned key want]
  have own := congrArg (List.find? wanted) (same.own userId acts)
  simp only [KeyStore.keysOf, find?_filter, Bool.decide_and, Bool.decide_eq_true] at own
  rw [narrow]
  exact own

theorem filter_playground : d.keys.filter (·.isPlayground userId) =
    d'.keys.filter (·.isPlayground userId) := by
  have own := congrArg (List.filter (·.isPlayground userId)) (same.own userId acts)
  simp only [KeyStore.keysOf, filter_filter] at own
  have narrow : ∀ key : KeyRow, (key.isPlayground userId && decide (key.userId = userId)) =
      key.isPlayground userId := by
    intro key
    by_cases owner : key.userId = userId <;> simp [KeyRow.isPlayground, owner]
  simpa only [narrow] using own

end Reads

/-! ## Writes -/

/-- A change of rows that leaves their ids and owners alone is the same over databases that
    are the same. -/
theorem mapKeys (same : SameTo operation held d d') (id : ∀ key, (change key).id = key.id)
    (userId : ∀ key, (change key).userId = key.userId) :
    SameTo operation held { d with keys := d.keys.map change }
      { d' with keys := d'.keys.map change } where
  frozenAt := same.frozenAt
  grants := same.grants
  drawn := same.drawn
  ids := by
    simp only [map_map, Function.comp_def, id]
    exact same.ids
  own user acts := by
    have own := congrArg (List.map change) (same.own user acts)
    simp only [KeyStore.keysOf, filter_map, Function.comp_def, userId]
    exact own
  drew keyId drew := by
    have found := congrArg (Option.map change) (same.drew keyId drew)
    simpa only [find?_map, Function.comp_def, id] using found

theorem withKey (same : SameTo operation held d d') (row : KeyRow) :
    SameTo operation held (d.withKey row) (d'.withKey row) where
  frozenAt := same.frozenAt
  grants := same.grants
  drawn := same.drawn
  ids := by simp [KeyStore.withKey, same.ids]
  own user acts := by
    have own := same.own user acts
    simp only [KeyStore.keysOf] at own
    simp [KeyStore.keysOf, KeyStore.withKey, own]
  drew keyId drew := by
    have found := same.drew keyId drew
    simp only [KeyStore.withKey, find?_append, found]

theorem withGrants (same : SameTo operation held d d')
    (change : List DeviceAuthorization → List DeviceAuthorization) (draw : List Uuid → List Uuid) :
    SameTo operation held { d with grants := change d.grants, drawn := draw d.drawn }
      { d' with grants := change d'.grants, drawn := draw d'.drawn } where
  frozenAt := same.frozenAt
  grants := congrArg change same.grants
  drawn := congrArg draw same.drawn
  ids := same.ids
  own := same.own
  drew := same.drew

theorem withFrozen (same : SameTo operation held d d') (userId : Uuid)
    (frozenAt : Option Timestamp) :
    SameTo operation held (d.withFrozen userId frozenAt) (d'.withFrozen userId frozenAt) where
  frozenAt := by
    show Function.update d.frozenAt userId frozenAt = Function.update d'.frozenAt userId frozenAt
    rw [same.frozenAt]
  grants := same.grants
  drawn := same.drawn
  ids := same.ids
  own := same.own
  drew := same.drew

end SameTo

/-! ## The programs -/

section Programs

variable {operation : KeyOperation} {held : List RowLock}

theorem blind_selectForUpdate {β : Type} {table : KeyStore → List β} {rowId : β → Uuid}
    {lock : Uuid → RowLock} {wanted : β → Bool} {found : β → KeyProgram}
    (reads : ∀ (held : List RowLock) (d d' : KeyStore) (also : β → Bool),
      SameTo operation held d d' →
        ((table d).find? fun row => also row && wanted row) =
          (table d').find? fun row => also row && wanted row)
    (blind : ∀ row, (found row).Blind (SameTo operation) [lock (rowId row)]) :
    (selectForUpdate table rowId lock wanted (.refuse answer) found).Blind
      (SameTo operation) [] := by
  refine ⟨fun d d' same => ?_, fun d => ?_⟩
  · have same := reads [] d d' (fun _ => true) same
    simp only [Bool.true_and] at same
    simp only [same]
  · simp only
    cases (table d).find? wanted with
    | none => trivial
    | some row =>
        refine ⟨fun d d' same => ?_, fun d => ?_⟩
        · simp only [reads _ d d' _ same]
        · simp only
          cases again : (table d).find? fun other => rowId other = rowId row && wanted other with
          | none => trivial
          | some row' =>
              have matched := find?_some again
              simp only [Bool.and_eq_true, decide_eq_true_eq] at matched
              rw [← matched.1]
              exact blind row'

theorem blind_selectKey {found : KeyRow → KeyProgram} (acts : operation.ActsFor [] userId)
    (blind : ∀ row, (found row).Blind (SameTo operation) [.key row.id]) :
    (selectKey keyId userId wanted (.refuse answer) found).Blind (SameTo operation) [] := by
  refine blind_selectForUpdate (fun held d d' also same => ?_) blind
  have acts := acts.more held
  rw [append_nil] at acts
  apply same.find_own acts
  intro key want
  simp only [Bool.and_eq_true, decide_eq_true_eq] at want
  exact want.2.1.2

theorem blind_selectGrant {wanted : DeviceAuthorization → Bool}
    {found : DeviceAuthorization → KeyProgram}
    (blind : ∀ row, (found row).Blind (SameTo operation) [.grant row.id]) :
    (selectGrant wanted (.refuse answer) found).Blind (SameTo operation) [] :=
  blind_selectForUpdate (fun _ _ _ _ same => by rw [same.grants]) blind

theorem blind_lockUser (blind : next.Blind (SameTo operation) (.user userId :: held)) :
    (lockUser userId next).Blind (SameTo operation) held :=
  blind

theorem blind_admitKeyMint {refused : KeyMintAdmission → KeyProgram} {allowed : KeyProgram}
    (acts : operation.ActsFor held userId)
    (refuses : ∀ reason, (refused reason).Blind (SameTo operation) held)
    (blind : allowed.Blind (SameTo operation) held) :
    (admitKeyMint userId now refused allowed).Blind (SameTo operation) held := by
  refine ⟨fun d d' same => by simp only [same.frozenAt], fun d => ?_⟩
  simp only
  split
  · exact refuses _
  · refine ⟨fun d d' same => ?_, fun d => ?_⟩
    · simp only [same.activeKeys_eq acts, same.createdKeys_eq acts]
    · simp only
      split
      · exact refuses _
      · exact blind

theorem blind_insertKey {row : KeyRow}
    (blind : next.Blind (SameTo operation) (.key row.id :: held)) :
    (insertKey row (.refuse answer) next).Blind (SameTo operation) held := by
  refine ⟨fun d d' same => by simp only [same.any_id], fun d => ?_⟩
  simp only
  split
  · trivial
  · exact ⟨fun more d d' same => same.withKey row, blind⟩

theorem blind_answerCreated (draws : operation.draws = some keyId) :
    (answerCreated keyId).Blind (SameTo operation) held := by
  refine ⟨fun d d' same => by simp only [same.drew keyId draws], fun d => ?_⟩
  simp only
  split <;> trivial

theorem blind_portalRefusal (reason : KeyMintAdmission) :
    (portalRefusal reason).Blind (SameTo operation) held := by
  cases reason <;> trivial

/-- An update of one grant shows nothing of any key. -/
theorem same_updateGrant {more : List RowLock} {grantId : Uuid}
    {change : DeviceAuthorization → DeviceAuthorization} (same : SameTo operation more d d') :
    SameTo operation more (updateGrant grantId change d) (updateGrant grantId change d') :=
  same.withGrants (List.map fun grant => if grant.id = grantId then change grant else grant) id

theorem same_updateKeyRow {more : List RowLock} (id : ∀ key, (change key).id = key.id)
    (userId : ∀ key, (change key).userId = key.userId) (same : SameTo operation more d d') :
    SameTo operation more (updateKeyRow keyId change d) (updateKeyRow keyId change d') := by
  refine same.mapKeys (fun key => ?_) fun key => ?_
  · split
    · exact id key
    · rfl
  · split
    · exact userId key
    · rfl

end Programs

theorem blind_createKey {request : CreateKeyRequest} :
    (createKey userId request now clock keyId).Blind
      (SameTo (.createKey userId request now clock keyId)) [] := by
  unfold createKey
  cases validateNewKey request clock with
  | error message => trivial
  | ok validated =>
      refine blind_lockUser (blind_admitKeyMint rfl blind_portalRefusal (blind_insertKey ?_))
      split
      · refine ⟨fun more d d' same => ?_, blind_answerCreated rfl⟩
        refine same_updateKeyRow ?_ ?_ same
        · exact fun _ => rfl
        · exact fun _ => rfl
      · exact blind_answerCreated rfl

theorem blind_ensurePlaygroundKey :
    (ensurePlaygroundKey userId now keyId).Blind
      (SameTo (.ensurePlaygroundKey userId now keyId)) [] := by
  refine blind_lockUser ⟨fun d d' same => by simp only [same.filter_playground rfl], fun d => ?_⟩
  refine Program.Blind.lockAll ⟨fun more d d' same => ?_, ?_⟩
  · refine same.mapKeys (fun key => ?_) fun key => ?_
    · split <;> rfl
    · split <;> rfl
  · exact blind_admitKeyMint rfl blind_portalRefusal
      (blind_insertKey (blind_answerCreated rfl))

theorem blind_disableKey :
    (disableKey userId keyId).Blind (SameTo (.disableKey userId keyId)) [] := by
  refine blind_selectKey rfl fun row => ⟨fun more d d' same => ?_, trivial⟩
  refine same_updateKeyRow ?_ ?_ same
  · exact fun _ => rfl
  · exact fun _ => rfl

theorem blind_updateKey {request : UpdateKeyRequest} :
    (updateKey userId keyId request clock).Blind
      (SameTo (.updateKey userId keyId request clock)) [] := by
  refine blind_selectKey rfl fun row => ?_
  have answer (reply : KeyStore → KeyProgram)
      (replies : ∀ db, reply db =
        (db.keys.find? fun key => key.id = keyId && key.userId = userId).elim
          (.refuse (.refused .keyNotFound)) fun key => .commit (.summary key))
      (held : List RowLock) :
      (Program.read reply).Blind (SameTo (.updateKey userId keyId request clock)) held := by
    obtain rfl : reply = _ := funext replies
    refine ⟨fun d d' same => ?_, fun d => ?_⟩
    · have found : (d.keys.find? fun key => key.id = keyId && key.userId = userId) =
          d'.keys.find? fun key => key.id = keyId && key.userId = userId :=
        same.find_own (Eq.refl userId) (by simp)
      simp only [found]
    · dsimp only
      cases d.keys.find? _ <;> trivial
  split
  · trivial
  · split
    · refine ⟨fun more d d' same => ?_, answer _ (fun db => ?_) _⟩
      · refine same_updateKeyRow ?_ ?_ same
        · exact fun _ => rfl
        · exact fun _ => rfl
      · cases db.keys.find? fun key => key.id = keyId && key.userId = userId <;> rfl
    · refine answer _ (fun db => ?_) _
      cases db.keys.find? fun key => key.id = keyId && key.userId = userId <;> rfl

theorem blind_claimGrant {grant : DeviceAuthorization} :
    (claimGrant grant userId now keyId).Blind
      (SameTo (.pollDeviceToken deviceCodeHash clientId now keyId)) [.grant grant.id] := by
  have acts : (KeyOperation.pollDeviceToken deviceCodeHash clientId now keyId).ActsFor
      [.user userId, .grant grant.id] userId := mem_cons_self
  refine blind_lockUser (blind_admitKeyMint acts ?_ (blind_insertKey ?_))
  · exact fun _ => trivial
  · refine ⟨fun d d' same => by simp only [same.grants], fun d => ?_⟩
    simp only
    split
    · exact ⟨fun _ _ _ same => same_updateGrant same, trivial⟩
    · trivial

theorem blind_pollDeviceToken :
    (pollDeviceToken deviceCodeHash clientId now keyId).Blind
      (SameTo (.pollDeviceToken deviceCodeHash clientId now keyId)) [] := by
  refine blind_selectGrant fun grant => ?_
  split
  · exact ⟨fun _ _ _ same => same_updateGrant same, trivial⟩
  · cases grant.status with
    | pending => exact ⟨fun _ _ _ same => same_updateGrant same, trivial⟩
    | approved =>
        cases grant.userId with
        | none => trivial
        | some userId =>
            exact blind_claimGrant
    | denied => trivial
    | expired => trivial
    | claimed => trivial

theorem blind_insertAuthorization {row : DeviceAuthorization} :
    (insertAuthorization row).Blind (SameTo operation) [] := by
  refine Program.Blind.lockAll ⟨fun d d' same => ?_, fun d => ?_⟩
  · simp only [same.drawn, same.grants]
  simp only
  split
  · trivial
  · exact ⟨fun _ _ _ same => same.withGrants (· ++ [row]) (row.id :: ·), trivial⟩

theorem blind_setFrozen {frozenAt : Option Timestamp} :
    (setFrozen userId frozenAt).Blind (SameTo operation) [] := by
  refine ⟨fun d d' same => by simp only [same.frozenAt], fun d => ?_⟩
  simp only
  split
  · trivial
  · refine ⟨fun d d' same => by simp only [same.frozenAt], fun d => ?_⟩
    simp only
    split
    · trivial
    · exact ⟨fun _ _ _ same => same.withFrozen userId frozenAt, trivial⟩

theorem blind_program (operation : KeyOperation) :
    operation.program.Blind (SameTo operation) [] := by
  cases operation with
  | createKey => exact blind_createKey
  | ensurePlaygroundKey => exact blind_ensurePlaygroundKey
  | disableKey => exact blind_disableKey
  | updateKey => exact blind_updateKey
  | expireStale now =>
      refine ⟨fun d d' same => by simp only [same.grants], fun d => ?_⟩
      exact Program.Blind.lockAll ⟨fun _ _ _ same => same.withGrants _ id, trivial⟩
  | deleteTerminal now =>
      refine ⟨fun d d' same => by simp only [same.grants], fun d => ?_⟩
      exact Program.Blind.lockAll ⟨fun _ _ _ same => same.withGrants _ id, trivial⟩
  | insertAuthorization => exact blind_insertAuthorization
  | pollDeviceToken => exact blind_pollDeviceToken
  | approveUserCode userId userCode keyName now =>
      exact blind_selectGrant fun _ => ⟨fun _ _ _ same => same_updateGrant same, trivial⟩
  | denyUserCode userCode now =>
      exact blind_selectGrant fun _ => ⟨fun _ _ _ same => same_updateGrant same, trivial⟩
  | freezeAccount => exact blind_setFrozen
  | unfreezeAccount => exact blind_setFrozen

end ZeroRouter
