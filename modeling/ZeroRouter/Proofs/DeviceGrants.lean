import ZeroRouter.Proofs.KeyOperations

/-!
# Device grants and the limits on keys

What every interleaving of the device flow with the portal's mints, edits and freezes
keeps: a grant mints one key at most, for the user who approved it while it was pending
and in time; what is decided of a grant stays decided; and nobody holds more keys than
the limits of `admit_key_mint` allow.
-/

namespace ZeroRouter

open List ReadCommitted Transition

variable {userId grantId keyId : Uuid} {d d' : KeyStore} {keys : List KeyRow} {t s : KeySystem}
  {age : KeyRow → KeyRow} {now : Timestamp} {grant' grant : DeviceAuthorization} {key row : KeyRow}
  {operation : KeyOperation} {free : RowLock → Prop} {answer : KeyAnswer} {action : KeyAction}
  {since : Timestamp} {deviceCodeHash clientId : String} {who : Nat}
  {session : Session KeyOperation RowLock KeyStore KeyAnswer}

/-! ## Counts -/

/-- A count of keys by what never changes of a key. -/
theorem countP_aged {counted : KeyRow → Bool}
    (ages : ∀ key ∈ keys, KeyAges (fun _ => True) key (age key))
    (same : ∀ key key', KeyAges (fun _ => True) key key' → counted key' = counted key) :
    (keys.map age).countP counted = keys.countP counted := by
  rw [countP_map]
  apply countP_congr
  intro key mem
  rw [Function.comp_apply, same key (age key) (ages key mem)]

/-! ## The limits -/

/-- Nobody is over the limits of `admit_key_mint`. -/
structure KeyStore.Limited (d : KeyStore) : Prop where
  active : ∀ userId, activeKeys d.keys userId ≤ maxActiveKeysPerUser
  created : ∀ userId since, createdWithin d.keys userId since ≤ maxKeysCreatedPerWindow

theorem activeKeys_aged_le (ages : ∀ key ∈ keys, KeyAges (fun _ => True) key (age key)) :
    activeKeys (keys.map age) userId ≤ activeKeys keys userId := by
  unfold activeKeys
  rw [countP_map]
  apply countP_mono_left
  intro key mem live
  simp only [Function.comp_apply, decide_eq_true_eq] at live ⊢
  have aged := ages key mem
  exact ⟨aged.userId.symm.trans live.1, aged.enabled live.2⟩

theorem createdWithin_aged (ages : ∀ key ∈ keys, KeyAges (fun _ => True) key (age key)) :
    createdWithin (keys.map age) userId since = createdWithin keys userId since :=
  countP_aged ages fun key key' aged => by rw [aged.userId, aged.createdAt]

/-- The keys of a window that reaches up to an instant are among those the mint at that
    instant counts. -/
theorem createdWithin_le_createdKeys (reaches : now ≤ since + keyCreationWindow) :
    createdWithin keys userId since ≤ createdKeys keys userId (now - keyCreationWindow) := by
  apply countP_mono_left
  intro key _ within
  simp only [decide_eq_true_eq] at within ⊢
  obtain ⟨owner, after, -⟩ := within
  exact ⟨owner, sub_lt_iff_lt_add.mpr (reaches.trans_lt (Int.add_lt_add_right after _))⟩

theorem KeyStore.Limited.step (limited : d.Limited) (effect : KeysEffect d operation d') :
    d'.Limited := by
  cases effect with
  | aged age keys ages =>
      constructor
      · intro userId
        rw [keys]
        exact (activeKeys_aged_le ages).trans (limited.active userId)
      · intro userId since
        rw [keys, createdWithin_aged ages]
        exact limited.created userId since
  | minted age row keys ages frozenAt admits _ source =>
      constructor
      · intro userId
        have before := (activeKeys_aged_le ages).trans (limited.active userId)
        have admitted := admits.active
        unfold activeKeys at before admitted ⊢
        rw [keys, countP_append, countP_singleton]
        split
        · next counted =>
            simp only [decide_eq_true_eq] at counted
            rw [counted.1] at admitted
            exact admitted
        · exact before
      · intro userId since
        have before := limited.created userId since
        rw [← createdWithin_aged ages] at before
        have admitted := admits.recent
        unfold createdWithin at before ⊢
        rw [keys, countP_append, countP_singleton]
        split
        · next counted =>
            simp only [decide_eq_true_eq] at counted
            obtain ⟨owner, -, reaches⟩ := counted
            rw [owner] at admitted
            exact (createdWithin_le_createdKeys reaches).trans_lt admitted
        · exact before

/-! ## Grants and their keys -/

/-- The keys a grant has minted. -/
def mintedBy (keys : List KeyRow) (grantId : Uuid) : Nat :=
  keys.countP fun key => key.origin = .device grantId

/-- A grant that has a key is claimed, or deleted since, and has no other. -/
structure KeyStore.Single (d : KeyStore) : Prop where
  once : ∀ grantId, mintedBy d.keys grantId ≤ 1
  drawn : ∀ key ∈ d.keys, ∀ grantId, key.origin = .device grantId → grantId ∈ d.drawn
  claimed : ∀ key ∈ d.keys, ∀ grant ∈ d.grants, key.origin = .device grant.id →
    grant.status = .claimed

theorem mintedBy_aged (ages : ∀ key ∈ keys, KeyAges (fun _ => True) key (age key)) :
    mintedBy (keys.map age) grantId = mintedBy keys grantId :=
  countP_aged ages fun key key' aged => by rw [aged.origin]

/-- A grant's row after a change: from before, or of an id that was not drawn before. -/
theorem Changes.claimed_from (changes : Changes free d d') (mem' : grant' ∈ d'.grants)
    (drawn : grant'.id ∈ d.drawn)
    (claimed : ∀ grant ∈ d.grants, grant.id = grant'.id → grant.status = .claimed) :
    grant'.status = .claimed := by
  rcases changes.grant_from mem' with ⟨grant, mem, ages⟩ | ⟨-, fresh⟩
  · have before := claimed grant mem ages.id.symm
    rw [ages.status.final (by simp [before]), before]
  · exact absurd drawn fresh

theorem KeyStore.Single.step (single : d.Single) (sane : d.Sane) (changes : Changes free d d')
    (effect : KeysEffect d operation d') : d'.Single := by
  -- a key from before keeps its grant claimed
  have kept : ∀ key ∈ d.keys, ∀ key', KeyAges (fun _ => True) key key' →
      (∀ grantId, key'.origin = .device grantId → grantId ∈ d'.drawn) ∧
        ∀ grant ∈ d'.grants, key'.origin = .device grant.id → grant.status = .claimed := by
    intro key mem key' ages
    constructor
    · intro grantId origin
      exact changes.drawn (single.drawn key mem grantId (ages.origin.symm.trans origin))
    · intro grant' mem' origin
      have origin := ages.origin.symm.trans origin
      refine changes.claimed_from mem' (single.drawn key mem _ origin) fun grant mem'' same => ?_
      exact single.claimed key mem grant mem'' (same ▸ origin)
  cases effect with
  | aged age keys ages =>
      refine ⟨?_, ?_, ?_⟩
      · intro grantId
        rw [keys, mintedBy_aged ages]
        exact single.once grantId
      · intro key' mem' grantId origin
        rw [keys] at mem'
        obtain ⟨key, mem, rfl⟩ := mem_map.mp mem'
        exact (kept key mem _ (ages key mem)).1 grantId origin
      · intro key' mem' grant granted origin
        rw [keys] at mem'
        obtain ⟨key, mem, rfl⟩ := mem_map.mp mem'
        exact (kept key mem _ (ages key mem)).2 grant granted origin
  | minted age row keys ages frozenAt admits _ source =>
      -- the key that is new: not a grant's, or the first of the grant that is claimed
      have new : (∀ grantId, row.origin = .device grantId → grantId ∈ d'.drawn) ∧
          (∀ grant ∈ d'.grants, row.origin = .device grant.id → grant.status = .claimed) ∧
          ∀ grantId, row.origin = .device grantId → mintedBy d.keys grantId = 0 := by
        rcases source with other | ⟨grant, claim⟩
        · exact ⟨fun _ origin => absurd origin (other _),
            fun _ _ origin => absurd origin (other _), fun _ origin => absurd origin (other _)⟩
        · have id : ∀ grantId, row.origin = .device grantId → grantId = grant.id := by
            intro grantId origin
            rw [claim.origin] at origin
            exact (KeyOrigin.device.inj origin).symm
          refine ⟨?_, ?_, ?_⟩
          · intro grantId origin
            rw [id grantId origin]
            exact changes.drawn (sane.drawn grant claim.mem)
          · intro grant' mem' origin
            rw [claim.result] at mem'
            obtain ⟨old, was, rfl⟩ := mem_map.mp mem'
            have was : old ∈ d.grants := was
            by_cases here : old.id = grant.id
            · rw [if_pos here, sane.grant_unique was claim.mem here]
              simp [DeviceAuthorization.claimed, claim.approved]
            · rw [if_neg here] at origin
              exact absurd (id _ origin) here
          · intro grantId origin
            rw [mintedBy, countP_eq_zero, id grantId origin]
            intro key mem counted
            have claimed := single.claimed key mem grant claim.mem (by simpa using counted)
            rw [claim.approved] at claimed
            cases claimed
      refine ⟨?_, ?_, ?_⟩
      · intro grantId
        have once := single.once grantId
        rw [keys, mintedBy, countP_append, countP_singleton]
        show mintedBy (d.keys.map age) grantId + _ ≤ 1
        rw [mintedBy_aged ages]
        split
        · next origin =>
            rw [new.2.2 grantId (by simpa using origin)]
        · exact once
      · intro key' mem' grantId origin
        rw [keys] at mem'
        rcases mem_append.mp mem' with mem' | mem'
        · obtain ⟨key, mem, rfl⟩ := mem_map.mp mem'
          exact (kept key mem _ (ages key mem)).1 grantId origin
        · rw [mem_singleton.mp mem'] at origin
          exact new.1 grantId origin
      · intro key' mem' grant granted origin
        rw [keys] at mem'
        rcases mem_append.mp mem' with mem' | mem'
        · obtain ⟨key, mem, rfl⟩ := mem_map.mp mem'
          exact (kept key mem _ (ages key mem)).2 grant granted origin
        · rw [mem_singleton.mp mem'] at origin
          exact new.2.1 grant granted origin

/-! ## Approvals -/

/-- A row of `device_authorizations` after an update by id. -/
theorem mem_updateGrant {change : DeviceAuthorization → DeviceAuthorization}
    (mem' : grant' ∈ (updateGrant grantId change d).grants) :
    grant' ∈ d.grants ∨ ∃ grant ∈ d.grants, grant.id = grantId ∧ change grant = grant' := by
  obtain ⟨grant, mem, rfl⟩ := mem_map.mp mem'
  by_cases here : grant.id = grantId
  · rw [if_pos here]
    exact .inr ⟨grant, mem, here, rfl⟩
  · rw [if_neg here]
    exact .inl mem

/-- A grant is approved because it was, or by the commit of its approval. -/
theorem KeyEffect.approved_from (sane : d.Sane) (effect : KeyEffect d operation answer d')
    (mem' : grant' ∈ d'.grants) (approved : grant'.status = .approved) :
    (∃ grant ∈ d.grants, grant.id = grant'.id ∧ grant.status = .approved ∧
        grant.userId = grant'.userId) ∨
      ∃ grant ∈ d.grants, ∃ userId keyName now,
        operation = .approveUserCode userId grant.userCode keyName now ∧
        grant.id = grant'.id ∧ grant.status = .pending ∧ now < grant.expiresAt ∧
        grant'.userId = some userId := by
  cases effect with
  | created | replaced | disabled | updated | froze | thawed =>
      exact .inl ⟨grant', mem', rfl, approved, rfl⟩
  | expired locked =>
      obtain ⟨grant, mem, rfl⟩ := mem_map.mp mem'
      split at approved
      · cases approved
      · next other =>
          rw [if_neg other]
          exact .inl ⟨grant, mem, rfl, approved, rfl⟩
  | deleted locked => exact .inl ⟨grant', mem_of_mem_filter mem', rfl, approved, rfl⟩
  | started fresh =>
      rcases mem_append.mp mem' with mem | added
      · exact .inl ⟨grant', mem, rfl, approved, rfl⟩
      · rw [mem_singleton.mp added] at approved
        cases approved
  | lapsed mem late isOpen =>
      rcases mem_updateGrant mem' with mem' | ⟨old, was, here, rfl⟩
      · exact .inl ⟨grant', mem', rfl, approved, rfl⟩
      · cases approved
  | polled mem inTime pending =>
      rcases mem_updateGrant mem' with mem' | ⟨old, was, here, rfl⟩
      · exact .inl ⟨grant', mem', rfl, approved, rfl⟩
      · exact .inl ⟨old, was, rfl, approved, rfl⟩
  | claimed mem inTime approved' owner admits fresh =>
      rcases mem_updateGrant mem' with mem' | ⟨old, was, here, rfl⟩
      · exact .inl ⟨grant', mem', rfl, approved, rfl⟩
      · unfold DeviceAuthorization.claimed at approved
        split at approved
        · cases approved
        · next other => exact absurd approved other
  | approved mem inTime pending =>
      rcases mem_updateGrant mem' with mem' | ⟨old, was, here, rfl⟩
      · exact .inl ⟨grant', mem', rfl, approved, rfl⟩
      · cases sane.grant_unique was mem here
        exact .inr ⟨_, mem, _, _, _, rfl, rfl, pending, inTime, rfl⟩
  | denied mem inTime pending =>
      rcases mem_updateGrant mem' with mem' | ⟨old, was, here, rfl⟩
      · exact .inl ⟨grant', mem', rfl, approved, rfl⟩
      · cases approved

/-- What a poll commits claims a grant, or leaves the keys and every approved grant that is
    in time as they are. -/
theorem KeyEffect.claim_or_keeps (sane : d.Sane)
    (effect : KeyEffect d (.pollDeviceToken deviceCodeHash clientId now keyId) answer d')
    (mem : grant ∈ d.grants) (approved : grant.status = .approved)
    (inTime : now < grant.expiresAt) :
    (∃ grant' row, ClaimEffect d (.pollDeviceToken deviceCodeHash clientId now keyId) d'
        grant' row) ∨ d'.keys = d.keys ∧ grant ∈ d'.grants := by
  have apart : ∀ (grant' : DeviceAuthorization) (change : DeviceAuthorization →
      DeviceAuthorization), grant.id ≠ grant'.id →
        grant ∈ (updateGrant grant'.id change d).grants := by
    intro grant' change ne
    exact mem_map.mpr ⟨grant, mem, if_neg ne⟩
  cases effect with
  | @lapsed grant' now keyId mem' late isOpen =>
      refine .inr ⟨rfl, apart grant' _ ?_⟩
      intro same
      cases sane.grant_unique mem mem' same
      exact absurd inTime (not_lt.mpr late)
  | @polled grant' now keyId mem' _ pending =>
      refine .inr ⟨rfl, apart grant' _ ?_⟩
      intro same
      cases sane.grant_unique mem mem' same
      rw [pending] at approved
      cases approved
  | @claimed grant' now keyId userId mem' inTime' approved' owner admits fresh =>
      exact .inl ⟨grant', grant'.claimedKey userId now keyId, mem', rfl, inTime', approved', owner,
        rfl, fresh, rfl⟩

/-! ## The playground key -/

theorem liveNamed_append {name : String} :
    liveNamed (keys ++ [row]) userId name = liveNamed keys userId name +
      if row.userId = userId ∧ row.name = name ∧ row.disabled = false then 1 else 0 := by
  simp [liveNamed, countP_append, countP_singleton]

/-- A committed replacement leaves the new playground key and no other live one. -/
theorem KeyEffect.playground
    (effect : KeyEffect d (.ensurePlaygroundKey userId now keyId) answer d') :
    answer = .created (playgroundRow userId now keyId) ∧
      playgroundRow userId now keyId ∈ d'.keys ∧
      liveNamed d'.keys userId playgroundKeyName = 1 := by
  cases effect with
  | replaced locked covers admits fresh =>
      refine ⟨rfl, mem_append_right _ (mem_singleton.mpr rfl), ?_⟩
      have retired : liveNamed (retirePlayground userId locked d).keys userId
          playgroundKeyName = 0 := by
        rw [liveNamed, countP_eq_zero]
        intro key' mem' live
        obtain ⟨key, mem, rfl⟩ := mem_map.mp mem'
        simp only [decide_eq_true_eq] at live
        by_cases playground : key.isPlayground userId
        · rw [if_pos ⟨covers key mem playground, playground⟩] at live
          cases live.2.2
        · rw [if_neg fun retired => playground retired.2] at live
          apply playground
          simp [KeyRow.isPlayground, live]
      rw [KeyStore.withKey, liveNamed_append, retired, if_pos ⟨rfl, rfl, rfl⟩]

/-! ## Runs -/

/-- A database that key management starts from: no grant has been started yet, and the
    keys, whoever made them, are within the limits. -/
structure KeyStore.Opens (d : KeyStore) : Prop where
  keys : (d.keys.map fun key => key.id).Nodup
  grants : d.grants = []
  origins : ∀ key ∈ d.keys, ∀ grantId, key.origin ≠ .device grantId
  limited : d.Limited

/-- `s` to `t` is the commit of an approval by a user, of a grant that is pending and not
    expired. -/
def KeySystem.Approves (s t : KeySystem) (grantId userId : Uuid) : Prop :=
  ∃ who session userCode keyName now grant, keyStep s (.advance who) = some t ∧
    s.session who = some session ∧
    session.operation = .approveUserCode userId userCode keyName now ∧
    grant ∈ s.db.grants ∧ grant.id = grantId ∧ grant.userCode = userCode ∧
    grant.status = .pending ∧ now < grant.expiresAt

/-- `s` to `t` is the commit of the claim of an approved grant, by a poll that began before
    the grant expired; the key is the one the grant's approver gets. -/
def KeySystem.Claims (s t : KeySystem) (grantId : Uuid) (key : KeyRow) : Prop :=
  ∃ who session grant, keyStep s (.advance who) = some t ∧ s.session who = some session ∧
    session.operation =
      .pollDeviceToken grant.deviceCodeHash grant.clientId key.createdAt key.id ∧
    grant ∈ s.db.grants ∧ grant.id = grantId ∧ grant.status = .approved ∧
    grant.userId = some key.userId ∧ key.createdAt < grant.expiresAt ∧
    (∀ old ∈ s.db.keys, old.id ≠ key.id) ∧
    t.db = updateGrant grantId (·.claimed key.createdAt key.id)
      (s.db.withKey (grant.claimedKey key.userId key.createdAt key.id))

/-- The key was minted in the run by the claim of a grant that its owner approved. -/
def KeyStore.History (opening : KeyStore) (s : KeySystem) (grantId : Uuid) (key : KeyRow) :
    Prop :=
  ∃ u v w x, opening.Reaches u ∧ KeySystem.Approves u v grantId key.userId ∧
    Steps keyStep anyStep v w ∧ KeySystem.Claims w x grantId key ∧ Steps keyStep anyStep x s

theorem ClaimEffect.claims (claim : ClaimEffect s.db session.operation t.db grant row)
    (next : keyStep s (.advance who) = some t) (found : s.session who = some session) :
    KeySystem.Claims s t grant.id row := by
  have result := claim.result
  rw [claim.row_eq] at result
  exact ⟨who, session, grant, next, found, claim.operation, claim.mem, rfl, claim.approved,
    claim.owner, claim.inTime, claim.fresh, result⟩

/-- A step that brings a key of a grant is its claim. -/
theorem claims_of_new (holds : keyContract.Holds s) (next : keyStep s action = some t)
    (mem : key ∈ t.db.keys) (origin : key.origin = .device grantId)
    (new : ∀ old ∈ s.db.keys, old.id = key.id → old.origin ≠ .device grantId) :
    KeySystem.Claims s t grantId key := by
  rcases keyStep_db holds next with same | ⟨who, session, answer, rfl, found, -, -, effect⟩
  · rw [same] at mem
    exact absurd origin (new key mem rfl)
  · cases effect.keysEffect with
    | aged age keys ages =>
        rw [keys] at mem
        obtain ⟨old, was, rfl⟩ := mem_map.mp mem
        have aged := ages old was
        exact absurd (aged.origin.symm.trans origin) (new old was aged.id.symm)
    | minted age row keys ages frozenAt admits _ source =>
        rw [keys] at mem
        rcases mem_append.mp mem with mem | mem
        · obtain ⟨old, was, rfl⟩ := mem_map.mp mem
          have aged := ages old was
          exact absurd (aged.origin.symm.trans origin) (new old was aged.id.symm)
        · cases mem_singleton.mp mem
          rcases source with other | ⟨grant, claim⟩
          · exact absurd origin (other grantId)
          · have id : grant.id = grantId := by
              rw [claim.origin] at origin
              exact KeyOrigin.device.inj origin
            subst id
            exact claim.claims next found

/-- The claim of a key is told of the key as it has aged. -/
theorem KeySystem.Claims.aged (claims : KeySystem.Claims s t grantId row)
    (ages : KeyAges free row key) : KeySystem.Claims s t grantId key := by
  unfold KeySystem.Claims at claims ⊢
  rw [ages.id, ages.userId, ages.createdAt]
  exact claims

section Runs

variable {opening : KeyStore} (opens : opening.Opens) {s : KeySystem} (run : opening.Reaches s)
include opens

theorem KeyStore.Opens.sane : opening.Sane where
  keys := opens.keys
  grants := by simp [opens.grants]
  drawn := by simp [opens.grants]

include run

theorem holds_of_opening : keyContract.Holds s :=
  holds_of_reaches opens.sane run

theorem limited_of_opening : s.db.Limited := by
  refine (run.invariant (I := fun s : KeySystem => keyContract.Holds s ∧ s.db.Limited)
    ⟨.idle opens.sane, opens.limited⟩ ?_).2
  rintro s action t ⟨holds, limited⟩ - next
  refine ⟨keyContract_kept.holds_step holds next, ?_⟩
  rcases keyStep_db holds next with same | ⟨_, _, _, -, -, -, -, effect⟩
  · rw [same]
    exact limited
  · exact limited.step effect.keysEffect

theorem single_of_opening : s.db.Single := by
  refine (run.invariant (I := fun s : KeySystem => keyContract.Holds s ∧ s.db.Single)
    ⟨.idle opens.sane, ?_⟩ ?_).2
  · refine ⟨?_, fun key mem grantId origin => absurd origin (opens.origins key mem grantId),
      fun key mem grant _ origin => absurd origin (opens.origins key mem grant.id)⟩
    intro grantId
    have none_ : mintedBy opening.keys grantId = 0 := by
      rw [mintedBy, countP_eq_zero]
      intro key mem counted
      exact opens.origins key mem grantId (by simpa using counted)
    exact none_.le.trans (Nat.zero_le 1)
  · rintro s action t ⟨holds, single⟩ - next
    refine ⟨keyContract_kept.holds_step holds next, ?_⟩
    rcases keyStep_db holds next with same | ⟨_, _, _, -, -, -, changes, effect⟩
    · rw [same]
      exact single
    · exact single.step holds.db changes effect.keysEffect

/-- A user whose grant is approved approved it. -/
theorem approves_of_approved (mem : grant ∈ s.db.grants) (approved : grant.status = .approved)
    (owner : grant.userId = some userId) :
    ∃ u v, opening.Reaches u ∧ KeySystem.Approves u v grant.id userId ∧
      Steps keyStep anyStep v s := by
  obtain ⟨u, action, v, reached, -, next, no, ⟨now, now_mem, now_id, now_approved, now_owner⟩,
      rest⟩ :=
    run.turns (P := fun s : KeySystem => ∃ now ∈ s.db.grants, now.id = grant.id ∧
        now.status = .approved ∧ now.userId = some userId)
      (by
        rintro ⟨now, now_mem, -⟩
        have none_ := opens.grants
        change now ∈ opening.grants at now_mem
        simp [none_] at now_mem)
      ⟨grant, mem, rfl, approved, owner⟩
  have holds := holds_of_opening opens reached
  refine ⟨u, v, reached, ?_, rest⟩
  rcases keyStep_db holds next with same | ⟨who, session, answer, rfl, found, -, -, effect⟩
  · rw [same] at now_mem
    exact absurd ⟨now, now_mem, now_id, now_approved, now_owner⟩ no
  · rcases effect.approved_from holds.db now_mem now_approved with
      ⟨old, was, old_id, old_approved, old_owner⟩ |
      ⟨old, was, other, keyName, at_, operation, old_id, pending, inTime, other_owner⟩
    · exact absurd ⟨old, was, old_id.trans now_id, old_approved, old_owner.trans now_owner⟩ no
    · cases other_owner.symm.trans now_owner
      exact ⟨who, session, old.userCode, keyName, at_, old, next, found, operation, was,
        old_id.trans now_id, rfl, pending, inTime⟩

theorem history_of_device_key (mem : key ∈ s.db.keys) (origin : key.origin = .device grantId) :
    opening.History s grantId key := by
  have holds := holds_of_opening opens run
  -- the step that minted the key
  obtain ⟨w, action, x, reached, -, next, no, ⟨row, row_mem, row_id, row_origin⟩, rest⟩ :=
    run.turns (P := fun s : KeySystem => ∃ row ∈ s.db.keys, row.id = key.id ∧
        row.origin = .device grantId)
      (by
        rintro ⟨row, row_mem, -, row_origin⟩
        exact opens.origins row row_mem grantId row_origin)
      ⟨key, mem, rfl, origin⟩
  have before := holds_of_opening opens reached
  have claims := claims_of_new before next row_mem row_origin
    fun old was id old_origin => no ⟨old, was, id.trans row_id, old_origin⟩
  have after := keyContract_kept.holds_step before next
  -- the key in the end is that row, aged
  obtain ⟨key', mem', ages⟩ := (changes_of_steps after rest).key_to row_mem
  cases holds.db.key_unique mem' mem (ages.id.trans row_id)
  have claims := claims.aged ages
  obtain ⟨-, -, grant, -, -, -, granted, id, approved, owner, -⟩ := id claims
  obtain ⟨u, v, reached', approves, rest'⟩ :=
    approves_of_approved opens reached granted approved owner
  rw [id] at approves
  exact ⟨u, v, w, x, reached', approves, rest', claims, rest⟩

/-! ## What is decided of a grant -/

/-- A grant of a reached database that is still there later is the same grant, aged. -/
theorem grant_ages (later : Steps keyStep anyStep s t) (mem : grant ∈ s.db.grants)
    (mem' : grant' ∈ t.db.grants) (id : grant'.id = grant.id) :
    GrantAges (fun _ => True) grant grant' := by
  have holds := holds_of_opening opens run
  rcases (changes_of_steps holds later).grant_from mem' with ⟨old, was, ages⟩ | ⟨-, fresh⟩
  · rwa [holds.db.grant_unique was mem (ages.id.symm.trans id)] at ages
  · rw [id] at fresh
    exact absurd (holds.db.drawn grant mem) fresh

/-- A user gets a key only while their account is not frozen. -/
theorem thawed_of_new (next : keyStep s action = some t) (mem : key ∈ t.db.keys)
    (new : ∀ old ∈ s.db.keys, old.id ≠ key.id) :
    s.db.frozenAt key.userId = none ∧ t.db.frozenAt key.userId = none := by
  rcases keyStep_db (holds_of_opening opens run) next with same | ⟨_, _, _, -, -, -, -, effect⟩
  · rw [same] at mem
    exact absurd rfl (new key mem)
  · cases effect.keysEffect with
    | aged age keys ages =>
        rw [keys] at mem
        obtain ⟨old, was, rfl⟩ := mem_map.mp mem
        exact absurd (ages old was).id.symm (new old was)
    | minted age row keys ages frozenAt admits _ source =>
        rw [keys] at mem
        rcases mem_append.mp mem with mem | mem
        · obtain ⟨old, was, rfl⟩ := mem_map.mp mem
          exact absurd (ages old was).id.symm (new old was)
        · cases mem_singleton.mp mem
          exact ⟨admits.thawed, (congrFun frozenAt _).trans admits.thawed⟩

/-- Whatever way the transaction of a claim goes on: the grant is claimed, or no key is
    minted and the grant is approved as it was. -/
theorem claim_or_keeps (found : s.session who = some session)
    (operation : session.operation = .pollDeviceToken deviceCodeHash clientId now keyId)
    (claiming : RowLock.user userId ∈ session.held)
    (own : action = .advance who ∨ action = .abort who) (next : keyStep s action = some t) :
    (∃ grantId key, KeySystem.Claims s t grantId key) ∨
      t.db.keys = s.db.keys ∧ ∃ grant ∈ t.db.grants, grant.deviceCodeHash = deviceCodeHash ∧
        grant.clientId = clientId ∧ grant.status = .approved ∧ grant.userId = some userId := by
  have holds := holds_of_opening opens run
  obtain ⟨grant, mem, -, hash, client, approved, owner, inTime⟩ :=
    holds.knows who session found _ _ _ _ operation userId claiming
  rcases keyStep_db holds next with same | ⟨who', session', answer, rfl, found', -, -, effect⟩
  · rw [same]
    exact .inr ⟨rfl, grant, mem, hash, client, approved, owner⟩
  · have here : who' = who := by
      rcases own with own | own
      · exact Action.advance.inj own
      · cases own
    subst here
    cases found'.symm.trans found
    have effect' := effect
    rw [operation] at effect'
    rcases effect'.claim_or_keeps holds.db mem approved inTime with
      ⟨grant', row, claim⟩ | ⟨keys, mem⟩
    · rw [← operation] at claim
      exact .inl ⟨grant'.id, row, claim.claims next found⟩
    · exact .inr ⟨keys, grant, mem, hash, client, approved, owner⟩

end Runs

/-- In every interleaving of the device flow with the portal's transactions and with
    freezes, a grant mints one key at most, for the user who approved it while it was
    pending and in time, by a poll that began in time; what is decided of a grant stays;
    a claim that comes to nothing mints nothing and leaves its grant approved; and no mint
    goes past the limits, a freeze, or the playground's one key. -/
theorem device_grant_mints_once {opening : KeyStore} (opens : opening.Opens) {s : KeySystem}
    (run : opening.Reaches s) :
    (∀ grantId, mintedBy s.db.keys grantId ≤ 1) ∧
    (∀ key ∈ s.db.keys, ∀ grantId, key.origin = .device grantId →
      opening.History s grantId key) ∧
    (∀ t, Steps keyStep anyStep s t → ∀ grant ∈ s.db.grants, ∀ grant' ∈ t.db.grants,
      grant'.id = grant.id →
        (grant.status ≠ .pending → grant'.userId = grant.userId) ∧
        (grant.status = .denied ∨ grant.status = .expired ∨ grant.status = .claimed →
          grant'.status = grant.status)) ∧
    (∀ who session, s.session who = some session →
      ∀ deviceCodeHash clientId now keyId userId,
        session.operation = .pollDeviceToken deviceCodeHash clientId now keyId →
        RowLock.user userId ∈ session.held →
        ∀ action t, (action = .advance who ∨ action = .abort who) → keyStep s action = some t →
          (∃ grantId key, KeySystem.Claims s t grantId key) ∨
            t.db.keys = s.db.keys ∧ ∃ grant ∈ t.db.grants,
              grant.deviceCodeHash = deviceCodeHash ∧ grant.clientId = clientId ∧
                grant.status = .approved ∧ grant.userId = some userId) ∧
    (∀ userId, activeKeys s.db.keys userId ≤ 20 ∧
      ∀ since, createdWithin s.db.keys userId since ≤ 20) ∧
    (∀ action t, keyStep s action = some t → ∀ key ∈ t.db.keys,
      (∀ old ∈ s.db.keys, old.id ≠ key.id) →
        s.db.frozenAt key.userId = none ∧ t.db.frozenAt key.userId = none) ∧
    (∀ who session, s.session who = some session → ∀ userId now keyId,
      session.operation = .ensurePlaygroundKey userId now keyId →
        (∀ action t, (action = .advance who ∨ action = .abort who) → keyStep s action = some t →
          (∀ answer, session.rest ≠ .commit answer) → t.db = s.db) ∧
        ∀ answer t, session.rest = .commit answer → keyStep s (.advance who) = some t →
          ∃ key ∈ t.db.keys, answer = .created key ∧ key.userId = userId ∧
            key.name = playgroundKeyName ∧ key.disabled = false ∧
            liveNamed t.db.keys userId playgroundKeyName = 1) := by
  have holds := holds_of_opening opens run
  have limited := limited_of_opening opens run
  refine ⟨(single_of_opening opens run).once, ?_, ?_, ?_, ?_, ?_, ?_⟩
  · intro key mem grantId origin
    exact history_of_device_key opens run mem origin
  · intro t later grant mem grant' mem' id
    have ages := grant_ages opens run later mem mem' id
    refine ⟨ages.userId, fun final => ages.status.final ?_⟩
    rcases final with final | final | final <;> simp [final]
  · intro who session found deviceCodeHash clientId now keyId userId operation claiming action t
      own next
    exact claim_or_keeps opens run found operation claiming own next
  · intro userId
    exact ⟨limited.active userId, fun since => limited.created userId since⟩
  · intro action t next key mem new
    exact thawed_of_new opens run next mem new
  · intro who session found userId now keyId operation
    refine ⟨fun action t own next uncommitted => ?_, fun answer t rest next => ?_⟩
    · exact db_of_uncommitted found own next uncommitted
    have effect := commit_effect holds found rest next
    rw [operation] at effect
    obtain ⟨created, mem, single⟩ := effect.playground
    exact ⟨_, mem, created, rfl, rfl, rfl, single⟩

/-- An operator's key, and no grant yet. -/
def oneKeyStore : KeyStore where
  frozenAt _ := none
  keys := [KeyRow.inserted 1 7 "ops" 0 .operator]
  grants := []
  drawn := []

theorem oneKeyStore_opens : oneKeyStore.Opens where
  keys := by decide
  grants := rfl
  origins := by simp [oneKeyStore, KeyRow.inserted]
  limited := by
    constructor
    · exact fun _ => countP_le_length.trans (by decide)
    · exact fun _ _ => countP_le_length.trans (by decide)

/-- A transaction from its beginning to its end, alone. -/
def alone (who : Nat) (operation : KeyOperation) (statements : Nat) : List KeyAction :=
  .begin_ who operation :: List.replicate statements (.advance who)

/-- A grant is started, approved by user 7 and claimed, while user 8 tries to approve it. -/
def grantRun : List KeyAction :=
  alone 0 (.insertAuthorization 100 "hash" "CODE" "cli" none 0) 6 ++
    [.begin_ 1 (.approveUserCode 7 "CODE" none 5), .advance 1,
      .begin_ 2 (.approveUserCode 8 "CODE" none 5), .advance 2] ++
    List.replicate 4 (.advance 1) ++ List.replicate 3 (.advance 2) ++
    alone 3 (.pollDeviceToken "hash" "cli" 9 2) 12

theorem device_grant_mints_once_claimed :
    ∃ s : KeySystem, oneKeyStore.Reaches s ∧ mintedBy s.db.keys 100 = 1 ∧
      (s.db.keys.map fun key => (key.id, key.userId)) = [(1, 7), (2, 7)] ∧
      ∀ key ∈ s.db.keys, key.origin = .device 100 → oneKeyStore.History s 100 key := by
  have reached : (runWhile keyStep anyStep oneKeyStore.opened grantRun).any
      (fun s : KeySystem => mintedBy s.db.keys 100 = 1 ∧
        (s.db.keys.map fun key => (key.id, key.userId)) = [(1, 7), (2, 7)]) = true := by
    decide +kernel
  obtain ⟨s, run, facts⟩ := Steps.exists_of_runWhile reached
  simp only [decide_eq_true_eq] at facts
  exact ⟨s, run, facts.1, facts.2,
    fun key mem => (device_grant_mints_once oneKeyStore_opens run).2.1 key mem 100⟩

end ZeroRouter
