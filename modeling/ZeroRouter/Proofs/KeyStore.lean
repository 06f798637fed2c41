import ZeroRouter.Keys.Operations

/-!
# What may become of the rows of a key store

`Changes free d d'` is the relation the transactions rely on and keep to: rows age in the
only ways the handlers have of changing them, new rows are added, and a row outside
`free` is as it was.  It is a preorder, and it grows with `free`: what a transaction does
under its locks is what another may see done to the rows it has not locked.
-/

namespace ZeroRouter

open List

variable {d : KeyStore} {a b key : KeyRow} {userId : Uuid}

/-! ## Rows -/

/-- What may become of a key. -/
structure KeyAges (free : RowLock → Prop) (key key' : KeyRow) : Prop where
  id : key'.id = key.id
  userId : key'.userId = key.userId
  name : key'.name = key.name
  createdAt : key'.createdAt = key.createdAt
  origin : key'.origin = key.origin
  spendCapUsd : key'.spendCapUsd = key.spendCapUsd
  velocityCap : key'.velocityCapTokensPerMin = key.velocityCapTokensPerMin
  disabled : key.disabled = true → key'.disabled = true
  locked : ¬ free (.key key.id) → key' = key

/-- The ways a grant's status goes, over any number of steps. -/
inductive GrantStatus.Goes : GrantStatus → GrantStatus → Prop where
  | stays (status : GrantStatus) : Goes status status
  | decided (status : GrantStatus) : Goes .pending status
  | claimed : Goes .approved .claimed
  | expired : Goes .approved .expired

/-- What may become of a grant that is not deleted. -/
structure GrantAges (free : RowLock → Prop) (grant grant' : DeviceAuthorization) : Prop where
  id : grant'.id = grant.id
  expiresAt : grant'.expiresAt = grant.expiresAt
  status : grant.status.Goes grant'.status
  userId : grant.status ≠ .pending → grant'.userId = grant.userId
  apiKeyId : grant.status = .claimed → grant'.apiKeyId = grant.apiKeyId
  locked : ¬ free (.grant grant.id) → grant' = grant

variable {free more : RowLock → Prop}

theorem GrantStatus.Goes.trans {a b c : GrantStatus} (first : a.Goes b) (second : b.Goes c) :
    a.Goes c := by
  cases first with
  | stays => exact second
  | decided => exact .decided c
  | claimed =>
      cases second with
      | stays => exact .claimed
  | expired =>
      cases second with
      | stays => exact .expired

theorem GrantStatus.Goes.final {a b : GrantStatus} (goes : a.Goes b)
    (final : a ≠ .pending ∧ a ≠ .approved) : b = a := by
  cases goes with
  | stays => rfl
  | decided => exact absurd rfl final.1
  | claimed => exact absurd rfl final.2
  | expired => exact absurd rfl final.2

namespace KeyAges

theorem refl (key : KeyRow) : KeyAges free key key :=
  ⟨rfl, rfl, rfl, rfl, rfl, rfl, rfl, fun revoked => revoked, fun _ => rfl⟩

theorem trans {c : KeyRow} (first : KeyAges free a b) (second : KeyAges free b c) :
    KeyAges free a c where
  id := second.id.trans first.id
  userId := second.userId.trans first.userId
  name := second.name.trans first.name
  createdAt := second.createdAt.trans first.createdAt
  origin := second.origin.trans first.origin
  spendCapUsd := second.spendCapUsd.trans first.spendCapUsd
  velocityCap := second.velocityCap.trans first.velocityCap
  disabled revoked := second.disabled (first.disabled revoked)
  locked held := by
    have same := first.locked held
    subst same
    exact second.locked held

theorem mono (le : ∀ row, free row → more row) (ages : KeyAges free a b) :
    KeyAges more a b :=
  { ages with locked := fun held => ages.locked fun h => held (le _ h) }

/-- A key that is live was live before. -/
theorem enabled (ages : KeyAges free a b) (live : b.disabled = false) :
    a.disabled = false := by
  cases before : a.disabled with
  | false => rfl
  | true =>
      rw [ages.disabled before] at live
      cases live

end KeyAges

namespace GrantAges

theorem refl (grant : DeviceAuthorization) : GrantAges free grant grant :=
  ⟨rfl, rfl, .stays _, fun _ => rfl, fun _ => rfl, fun _ => rfl⟩

theorem mono (le : ∀ row, free row → more row) {a b : DeviceAuthorization}
    (ages : GrantAges free a b) : GrantAges more a b :=
  { ages with locked := fun held => ages.locked fun h => held (le _ h) }

theorem trans {a b c : DeviceAuthorization} (first : GrantAges free a b)
    (second : GrantAges free b c) : GrantAges free a c where
  id := second.id.trans first.id
  expiresAt := second.expiresAt.trans first.expiresAt
  status := first.status.trans second.status
  userId decided := by
    have still : b.status ≠ .pending := by
      intro pending
      have goes := first.status
      rw [pending] at goes
      cases same : a.status with
      | pending => exact decided same
      | _ =>
          rw [same] at goes
          cases goes
    exact (second.userId still).trans (first.userId decided)
  apiKeyId claimed := by
    have still : b.status = .claimed := by
      rw [first.status.final (by simp [claimed]), claimed]
    exact (second.apiKeyId still).trans (first.apiKeyId claimed)
  locked held := by
    have same := first.locked held
    subst same
    exact second.locked held

end GrantAges

/-! ## Stores -/

/-- Rows are told apart by their ids, and a grant's id is one that was drawn. -/
structure KeyStore.Sane (d : KeyStore) : Prop where
  keys : (d.keys.map fun key => key.id).Nodup
  grants : (d.grants.map fun grant => grant.id).Nodup
  drawn : ∀ grant ∈ d.grants, grant.id ∈ d.drawn

/-- What becomes of a grant's row: aged, or deleted. -/
def GrantGoes (free : RowLock → Prop) (grant : DeviceAuthorization) :
    Option DeviceAuthorization → Prop
  | none => free (.grant grant.id)
  | some grant' => GrantAges free grant grant'

structure Changes (free : RowLock → Prop) (d d' : KeyStore) : Prop where
  frozenAt : ∀ userId, ¬ free (.user userId) → d'.frozenAt userId = d.frozenAt userId
  keys : ∃ (age : KeyRow → KeyRow) (added : List KeyRow),
    d'.keys = d.keys.map age ++ added ∧ (∀ key ∈ d.keys, KeyAges free key (age key)) ∧
      ∀ key ∈ added, free (.user key.userId) ∧ free (.key key.id)
  grants : ∃ (age : DeviceAuthorization → Option DeviceAuthorization)
      (added : List DeviceAuthorization),
    d'.grants = d.grants.filterMap age ++ added ∧
      (∀ grant ∈ d.grants, GrantGoes free grant (age grant)) ∧
      ∀ grant ∈ added, free (.grant grant.id) ∧ grant.id ∉ d.drawn
  drawn : d.drawn ⊆ d'.drawn
  drew : ∀ id ∈ d'.drawn, id ∉ d.drawn → free (.grant id)
  sane : d.Sane → d'.Sane

theorem KeyStore.Sane.key_unique (sane : d.Sane) {key' : KeyRow} (mem : key ∈ d.keys)
    (mem' : key' ∈ d.keys) (same : key.id = key'.id) : key = key' :=
  inj_on_of_nodup_map sane.keys mem mem' same

theorem KeyStore.Sane.grant_unique (sane : d.Sane) {grant grant' : DeviceAuthorization}
    (mem : grant ∈ d.grants) (mem' : grant' ∈ d.grants) (same : grant.id = grant'.id) :
    grant = grant' :=
  inj_on_of_nodup_map sane.grants mem mem' same

namespace Changes

variable {d d' d'' : KeyStore}

theorem refl (d : KeyStore) : Changes free d d where
  frozenAt _ _ := rfl
  keys := ⟨id, [], by simp, fun key _ => .refl key, by simp⟩
  grants := ⟨some, [], by simp, fun grant _ => GrantAges.refl grant, by simp⟩
  drawn := List.Subset.refl _
  drew _ mem fresh := absurd mem fresh
  sane sane := sane

theorem mono (le : ∀ row, free row → more row) (changes : Changes free d d') :
    Changes more d d' where
  frozenAt userId held := changes.frozenAt userId fun h => held (le _ h)
  keys := by
    obtain ⟨age, added, eq, ages, fresh⟩ := changes.keys
    exact ⟨age, added, eq, fun key mem => (ages key mem).mono le,
      fun key mem => ⟨le _ (fresh key mem).1, le _ (fresh key mem).2⟩⟩
  grants := by
    obtain ⟨age, added, eq, ages, fresh⟩ := changes.grants
    refine ⟨age, added, eq, ?_, fun grant mem => ⟨le _ (fresh grant mem).1, (fresh grant mem).2⟩⟩
    intro grant mem
    have goes := ages grant mem
    cases same : age grant with
    | none =>
        rw [same] at goes
        exact le _ goes
    | some grant' =>
        rw [same] at goes
        exact GrantAges.mono le goes
  drawn := changes.drawn
  drew id mem fresh := le _ (changes.drew id mem fresh)
  sane := changes.sane

/-- Every grant after a change is a grant from before, aged, or a new one. -/
theorem grant_from (changes : Changes free d d') {grant' : DeviceAuthorization}
    (mem : grant' ∈ d'.grants) :
    (∃ grant ∈ d.grants, GrantAges free grant grant') ∨
      (free (.grant grant'.id) ∧ grant'.id ∉ d.drawn) := by
  obtain ⟨age, added, eq, ages, fresh⟩ := changes.grants
  rw [eq, mem_append, mem_filterMap] at mem
  rcases mem with ⟨grant, mem, same⟩ | mem
  · have goes := ages grant mem
    rw [same] at goes
    exact .inl ⟨grant, mem, goes⟩
  · exact .inr (fresh grant' mem)

/-- Every key after a change is a key from before, aged, or a new one. -/
theorem key_from (changes : Changes free d d') {key' : KeyRow} (mem : key' ∈ d'.keys) :
    (∃ key ∈ d.keys, KeyAges free key key') ∨
      (free (.user key'.userId) ∧ free (.key key'.id)) := by
  obtain ⟨age, added, eq, ages, fresh⟩ := changes.keys
  rw [eq, mem_append, mem_map] at mem
  rcases mem with ⟨key, mem, rfl⟩ | mem
  · exact .inl ⟨key, mem, ages key mem⟩
  · exact .inr (fresh key' mem)

/-- A key stays, aged. -/
theorem key_to (changes : Changes free d d') (mem : key ∈ d.keys) :
    ∃ key' ∈ d'.keys, KeyAges free key key' := by
  obtain ⟨age, added, eq, ages, -⟩ := changes.keys
  refine ⟨age key, ?_, ages key mem⟩
  rw [eq]
  exact mem_append_left _ (mem_map_of_mem mem)

/-- A grant that is locked stays as it is. -/
theorem grant_locked (changes : Changes free d d') {grant : DeviceAuthorization}
    (mem : grant ∈ d.grants) (held : ¬ free (.grant grant.id)) : grant ∈ d'.grants := by
  obtain ⟨age, added, eq, ages, -⟩ := changes.grants
  rw [eq]
  refine mem_append_left _ (mem_filterMap.mpr ⟨grant, mem, ?_⟩)
  have goes := ages grant mem
  cases same : age grant with
  | none =>
      rw [same] at goes
      exact absurd goes held
  | some grant' =>
      rw [same] at goes
      rw [GrantAges.locked goes held]

/-- A key that is locked stays as it is. -/
theorem key_locked (changes : Changes free d d') (mem : key ∈ d.keys)
    (held : ¬ free (.key key.id)) : key ∈ d'.keys := by
  obtain ⟨key', mem', ages⟩ := changes.key_to mem
  rwa [ages.locked held] at mem'

/-- No key of a locked id is added. -/
theorem fresh (changes : Changes free d d') {keyId : Uuid} (held : ¬ free (.key keyId))
    (absent : ∀ key ∈ d.keys, key.id ≠ keyId) : ∀ key ∈ d'.keys, key.id ≠ keyId := by
  intro key' mem' same
  rcases changes.key_from mem' with ⟨key, mem, ages⟩ | ⟨-, added⟩
  · exact absent key mem (ages.id.symm.trans same)
  · rw [same] at added
    exact held added

theorem trans (first : Changes free d d') (second : Changes free d' d'') :
    Changes free d d'' where
  frozenAt userId held := (second.frozenAt userId held).trans (first.frozenAt userId held)
  keys := by
    obtain ⟨age, added, eq, ages, fresh⟩ := first.keys
    obtain ⟨age', added', eq', ages', fresh'⟩ := second.keys
    rw [eq] at eq' ages'
    refine ⟨age' ∘ age, added.map age' ++ added', ?_, ?_, ?_⟩
    · rw [eq', map_append, map_map, append_assoc]
    · intro key mem
      exact (ages key mem).trans
        (ages' _ (mem_append_left _ (mem_map_of_mem mem)))
    · intro key mem
      rcases mem_append.mp mem with mem | mem
      · obtain ⟨before, was, rfl⟩ := mem_map.mp mem
        have aged := ages' before (mem_append_right _ was)
        rw [aged.id, aged.userId]
        exact fresh before was
      · exact fresh' key mem
  grants := by
    obtain ⟨age, added, eq, ages, fresh⟩ := first.grants
    obtain ⟨age', added', eq', ages', fresh'⟩ := second.grants
    rw [eq] at eq' ages'
    refine ⟨fun grant => (age grant).bind age', added.filterMap age' ++ added', ?_, ?_, ?_⟩
    · rw [eq', filterMap_append, filterMap_filterMap, append_assoc]
    · intro grant mem
      have goes := ages grant mem
      show GrantGoes free grant ((age grant).bind age')
      cases same : age grant with
      | none =>
          rw [same] at goes
          exact goes
      | some grant' =>
          rw [same] at goes
          have aged : GrantAges free grant grant' := goes
          have goes' := ages' grant'
            (mem_append_left _ (mem_filterMap.mpr ⟨grant, mem, same⟩))
          show GrantGoes free grant (age' grant')
          cases same' : age' grant' with
          | none =>
              rw [same'] at goes'
              have deleted : free (.grant grant'.id) := goes'
              rwa [aged.id] at deleted
          | some grant'' =>
              rw [same'] at goes'
              exact aged.trans goes'
    · intro grant mem
      rcases mem_append.mp mem with mem | mem
      · obtain ⟨before, mem, same⟩ := mem_filterMap.mp mem
        have goes := ages' before (mem_append_right _ mem)
        rw [same] at goes
        rw [GrantAges.id goes]
        exact fresh before mem
      · exact ⟨(fresh' grant mem).1, fun old => (fresh' grant mem).2 (first.drawn old)⟩
  drawn := List.Subset.trans first.drawn second.drawn
  drew id mem fresh := by
    by_cases old : id ∈ d'.drawn
    · exact first.drew id old fresh
    · exact second.drew id mem old
  sane sane := second.sane (first.sane sane)

/-! ### The changes the handlers make -/

theorem mapKeys {age : KeyRow → KeyRow} (ages : ∀ key ∈ d.keys, KeyAges free key (age key)) :
    Changes free d { d with keys := d.keys.map age } where
  frozenAt _ _ := rfl
  keys := ⟨age, [], by simp, ages, by simp⟩
  grants := (refl d).grants
  drawn := List.Subset.refl _
  drew _ mem fresh := absurd mem fresh
  sane sane := by
    refine { sane with keys := ?_ }
    have ids : (d.keys.map age).map (fun key => key.id) = d.keys.map fun key => key.id := by
      rw [map_map]
      exact map_congr_left fun key mem => (ages key mem).id
    show ((d.keys.map age).map fun key => key.id).Nodup
    rw [ids]
    exact sane.keys

theorem mapGrants {age : DeviceAuthorization → DeviceAuthorization}
    (ages : ∀ grant ∈ d.grants, GrantAges free grant (age grant)) :
    Changes free d { d with grants := d.grants.map age } where
  frozenAt _ _ := rfl
  keys := (refl d).keys
  grants := ⟨some ∘ age, [], by simp, ages, by simp⟩
  drawn := List.Subset.refl _
  drew _ mem fresh := absurd mem fresh
  sane sane := by
    have ids : (d.grants.map age).map (fun grant => grant.id) =
        d.grants.map fun grant => grant.id := by
      rw [map_map]
      exact map_congr_left fun grant mem => (ages grant mem).id
    refine ⟨sane.keys, ?_, ?_⟩
    · show ((d.grants.map age).map fun grant => grant.id).Nodup
      rw [ids]
      exact sane.grants
    · intro grant' mem
      obtain ⟨grant, was, rfl⟩ := mem_map.mp mem
      rw [(ages grant was).id]
      exact sane.drawn grant was

theorem filterGrants {kept : DeviceAuthorization → Bool}
    (deleted : ∀ grant ∈ d.grants, kept grant = false → free (.grant grant.id)) :
    Changes free d { d with grants := d.grants.filter kept } where
  frozenAt _ _ := rfl
  keys := (refl d).keys
  grants := by
    refine ⟨Option.guard kept, [], by simp [filterMap_eq_filter], ?_, by simp⟩
    intro grant mem
    cases keep : kept grant with
    | false =>
        simp only [Option.guard, keep]
        exact deleted grant mem keep
    | true =>
        simp only [Option.guard, keep]
        exact GrantAges.refl grant
  drawn := List.Subset.refl _
  drew _ mem fresh := absurd mem fresh
  sane sane := by
    refine ⟨sane.keys, ?_, fun grant mem => sane.drawn grant (mem_of_mem_filter mem)⟩
    exact sane.grants.sublist (List.Sublist.map _ filter_sublist)

theorem withKey {row : KeyRow} (user : free (.user row.userId)) (key : free (.key row.id))
    (fresh : ∀ key ∈ d.keys, key.id ≠ row.id) :
    Changes free d (d.withKey row) where
  frozenAt _ _ := rfl
  keys := ⟨id, [row], by simp [KeyStore.withKey], fun key _ => .refl key, by simp [user, key]⟩
  grants := (refl d).grants
  drawn := List.Subset.refl _
  drew _ mem fresh := absurd mem fresh
  sane sane := by
    refine { sane with keys := ?_ }
    show ((d.keys ++ [row]).map fun key => key.id).Nodup
    rw [map_append, nodup_append]
    refine ⟨sane.keys, nodup_singleton _, ?_⟩
    intro keyId mem other added
    obtain ⟨key, was, rfl⟩ := mem_map.mp mem
    rw [map_singleton, mem_singleton] at added
    rw [added]
    exact fresh key was

theorem withGrant {row : DeviceAuthorization} (grant : free (.grant row.id))
    (fresh : row.id ∉ d.drawn) : Changes free d (d.withGrant row) where
  frozenAt _ _ := rfl
  keys := (refl d).keys
  grants := ⟨some, [row], by simp [KeyStore.withGrant], fun grant _ => GrantAges.refl grant,
    by simp [grant, fresh]⟩
  drawn := subset_cons_self _ _
  drew id mem fresh := by
    rcases mem_cons.mp mem with rfl | old
    · exact grant
    · exact absurd old fresh
  sane sane := by
    refine ⟨sane.keys, ?_, ?_⟩
    · show ((d.grants ++ [row]).map fun grant => grant.id).Nodup
      rw [map_append, nodup_append]
      refine ⟨sane.grants, nodup_singleton _, ?_⟩
      intro grantId mem other added
      obtain ⟨grant, was, rfl⟩ := mem_map.mp mem
      rw [map_singleton, mem_singleton] at added
      intro same
      rw [← added, ← same] at fresh
      exact fresh (sane.drawn grant was)
    · intro grant' mem
      rcases mem_append.mp mem with mem | mem
      · exact mem_cons_of_mem _ (sane.drawn grant' mem)
      · rw [mem_singleton] at mem
        rw [mem]
        exact mem_cons_self

theorem withFrozen {frozenAt : Option Timestamp} (user : free (.user userId)) :
    Changes free d (d.withFrozen userId frozenAt) where
  frozenAt other held := by
    have ne : other ≠ userId := by
      rintro rfl
      exact held user
    exact Function.update_of_ne ne _ _
  keys := (refl d).keys
  grants := (refl d).grants
  drawn := List.Subset.refl _
  drew _ mem fresh := absurd mem fresh
  sane sane := ⟨sane.keys, sane.grants, sane.drawn⟩

/-! ### What a change does to the counts -/

/-- A user whose row is locked gets no key, and a key of theirs only goes out of use. -/
theorem activeKeys_le (changes : Changes free d d') (held : ¬ free (.user userId)) :
    activeKeys d'.keys userId ≤ activeKeys d.keys userId := by
  obtain ⟨age, added, eq, ages, fresh⟩ := changes.keys
  unfold activeKeys
  rw [eq, countP_append, countP_map]
  have none_ : added.countP (fun key => key.userId = userId ∧ key.disabled = false) = 0 := by
    rw [countP_eq_zero]
    intro key mem live
    simp only [decide_eq_true_eq] at live
    exact held (live.1 ▸ (fresh key mem).1)
  rw [none_, Nat.add_zero]
  apply countP_mono_left
  intro key mem live
  simp only [Function.comp_apply, decide_eq_true_eq] at live ⊢
  have aged := ages key mem
  exact ⟨aged.userId.symm.trans live.1, aged.enabled live.2⟩

/-- … and their keys' dates of creation are what they were. -/
theorem createdKeys_eq (changes : Changes free d d') (held : ¬ free (.user userId))
    (after : Timestamp) :
    createdKeys d'.keys userId after = createdKeys d.keys userId after := by
  obtain ⟨age, added, eq, ages, fresh⟩ := changes.keys
  unfold createdKeys
  rw [eq, countP_append, countP_map]
  have none_ : added.countP (fun key => key.userId = userId ∧ after < key.createdAt) = 0 := by
    rw [countP_eq_zero]
    intro key mem recent
    simp only [decide_eq_true_eq] at recent
    exact held (recent.1 ▸ (fresh key mem).1)
  rw [none_, Nat.add_zero]
  apply countP_congr
  intro key mem
  have aged := ages key mem
  simp only [Function.comp_apply, decide_eq_true_eq, aged.userId, aged.createdAt]

end Changes

end ZeroRouter
