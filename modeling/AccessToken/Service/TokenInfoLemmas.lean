import AccessToken.Service.TokenInfo
import AccessToken.PermissionDataLemmas
/-!
# What the token operations do to the service

One lemma per operation says which tokens, rows, bits and ids it touches; the invariants of the service are proved from
these and never unfold an operation.
-/
namespace AccessToken

open Std.ExtTreeMap (getD_eq_getD_getElem? getElem?_insert_self mem_iff_isSome_getElem?)
open AccessTokenIDManager PermissionDataBrief Function

open Lib (hasAny getElem?_erase getElem?_insert mem_erase mem_insert)

namespace AccessTokenIDManager

theorem mem_releaseTokenId {m : AccessTokenIDManager} {id t : AccessTokenID} :
    t ∈ (m.releaseTokenId id).tokenIdSet ↔ t ≠ id ∧ t ∈ m.tokenIdSet := by
  unfold releaseTokenId
  split
  · exact Lib.mem_set_erase
  · rename_i h
    refine ⟨fun ht => ⟨?_, ht⟩, fun ht => ht.2⟩
    rintro rfl
    exact h ht

@[simp] theorem addReservedTokenId_tokenIdSet (m : AccessTokenIDManager) (id : AccessTokenID) :
    (m.addReservedTokenId id).tokenIdSet = m.tokenIdSet := by
  unfold addReservedTokenId
  split <;> rfl

end AccessTokenIDManager

namespace Database

/-- **The rows after an insert**: a name of the list has a state of the list, another has the row it had. -/
theorem getElem?_insertPermStates (rows : PermStateRows) (states : List PermissionStatus) (n : String) :
    (∃ s ∈ states, s.permissionName = n ∧ (insertPermStates rows states)[n]? = some ⟨s.grantStatus, s.grantFlag⟩) ∨
      n ∉ states.map (·.permissionName) ∧ (insertPermStates rows states)[n]? = rows[n]? := by
  rcases Lib.getElem?_insertAll (states.map fun s => (s.permissionName, ⟨s.grantStatus, s.grantFlag⟩)) rows n with
    ⟨row, hrow, h⟩ | ⟨hno, h⟩
  · obtain ⟨s, hs, heq⟩ := List.mem_map.1 hrow
    cases heq
    exact .inl ⟨s, hs, rfl, h⟩
  · refine .inr ⟨fun hmem => ?_, h⟩
    obtain ⟨s, hs, rfl⟩ := List.mem_map.1 hmem
    exact hno _ (List.mem_map_of_mem hs)

/-- **A row after an insert** is that of a state, or one that was there. -/
theorem insertPermStates_row {rows : PermStateRows} {states : List PermissionStatus} {n : String} {row : PermStateRow}
    (h : (insertPermStates rows states)[n]? = some row) :
    rows[n]? = some row ∨ ∃ s ∈ states, s.permissionName = n ∧ row = ⟨s.grantStatus, s.grantFlag⟩ := by
  rcases getElem?_insertPermStates rows states n with ⟨s, hs, hname, hget⟩ | ⟨-, hget⟩
  · exact .inr ⟨s, hs, hname, Option.some.inj (h.symm.trans hget)⟩
  · exact .inl (hget.symm.trans h)

end Database

namespace UserPolicyManager

def policyFlag (records : UserPolicyRecords) (t : AccessTokenID) (u : Int32) (c : Nat) (flag : Flag) : Flag :=
  if isPermissionRestricted records t u c then flag ||| permissionRestrictedByAdmin
  else getFlagWithoutSpecifiedElement flag permissionRestrictedByAdmin

def withPolicyFlag (records : UserPolicyRecords) (t : AccessTokenID) (u : Int32) (d : BriefPermData) : BriefPermData :=
  { d with flag := policyFlag records t u d.permCode d.flag }

theorem isRestricted_policyFlag (records : UserPolicyRecords) (t : AccessTokenID) (u : Int32) (c : Nat) (flag : Flag) :
    isRestricted (policyFlag records t u c flag) = isPermissionRestricted records t u c := by
  unfold policyFlag
  split
  · rename_i h
    rw [h, isRestricted_or]
    exact Bool.or_true _
  · rename_i h
    simpa using h

/-- **The entries of an adjusted list** are those of the list, with the bit the records ask for. -/
theorem filterMap_adjusted (T : PermissionTable) (records : UserPolicyRecords) (t : AccessTokenID) (u : Int32)
    (tokenType : ATokenTypeEnum) (states : List PermissionStatus) :
    (filterInvalidPermissionState T tokenType true
        (updatePermissionStatusListForUserPolicy T records t u states)).filterMap
        (briefPermDataOf T) =
      ((filterInvalidPermissionState T tokenType true states).filterMap (briefPermDataOf T)).map
        (withPolicyFlag records t u) := by
  unfold updatePermissionStatusListForUserPolicy
  rw [filterInvalidPermissionState_map, List.filterMap_map, ← List.filterMap_eq_map, List.filterMap_filterMap]
  · refine List.filterMap_congr fun st _ => ?_
    -- a state with an entry has a code, so its flag was adjusted
    simp only [comp_apply, briefPermDataOf, PermissionTable.getPermissionBriefDef]
    cases hcode : T.transferPermissionToOpcode st.permissionName with
    | none => simp [hcode]
    | some c =>
      simp only
      cases hdef : T.permList[c]? with
      | none => split <;> simp [hcode, hdef]
      | some briefDef =>
        cases hv : isGrantStatusValid st.grantStatus with
        | false => split <;> simp [hv]
        | true => split <;> rename_i hr <;> simp [hcode, hdef, hr, withPolicyFlag, policyFlag]
  · intro p
    split
    · rfl
    · split <;> rfl
  · intro p
    simp only [isPermissionStateValid]
    split
    · rfl
    · split <;> simp

end UserPolicyManager

namespace Service

variable {T : PermissionTable} {D : DlpPermissionModeMap} {w w' : Service} {info : HapTokenInfoInner}
    (t : AccessTokenID) {isUpdate dbOk held : Bool} {id : AccessTokenID} {db : Database}

/-! ## Loading -/

def restoredBrief (T : PermissionTable) (w : Service) (id : AccessTokenID) : PermissionDataBrief :=
  w.brief.restorePermissionBriefData T id (w.db.findPermissionState id) (w.db.findExtendValue id)

def loadedFrom (T : PermissionTable) (w : Service) (hap : HapTokenInfoInner) (id : AccessTokenID) : Service :=
  { w with brief := w.restoredBrief T id }.publishLoaded hap id

/-- **What looking a token up can do**: answer from memory, find nothing, or load the token from its rows. -/
theorem getHapTokenInfoInner_cases (T : PermissionTable) (w : Service) (findOk : Bool) (id : AccessTokenID) :
    (∃ info, w.hapTokenInfoMap[id]? = some info ∧ getHapTokenInfoInner T w findOk id = (some info, w)) ∨
      (w.hapTokenInfoMap[id]? = none ∧ ∃ m b, (m = w.idManager ∨ m = w.idManager.addReservedTokenId id) ∧
        (b = w.brief ∨ b = (w.brief.deleteBriefPermDataByTokenId id).2) ∧
        getHapTokenInfoInner T w findOk id = (none, { w with idManager := m, brief := b })) ∨
      (w.hapTokenInfoMap[id]? = none ∧ (w.Known id → id ∈ w.tokenIdSet) ∧
        ∃ row hap, w.db.hapTokenInfo[id]? = some row ∧ row.reserved = false ∧
          row.restoreHapTokenBasicInfo id = some hap ∧
          getHapTokenInfoInner T w findOk id = (some hap, w.loadedFrom T hap id)) := by
  unfold getHapTokenInfoInner
  cases hinfo : w.hapTokenInfoMap[id]? with
  | some info => exact .inl ⟨info, rfl, rfl⟩
  | none =>
    right
    simp only
    split
    · exact .inl ⟨trivial, _, _, .inl rfl, .inl rfl, rfl⟩
    · exact .inl ⟨trivial, _, _, .inl rfl, .inl rfl, rfl⟩
    rename_i hreserved huntrusted
    have hactive : w.Known id → id ∈ w.tokenIdSet := by
      intro hknown
      by_contra hactive
      rcases hknown with h1 | h1 | h1
      · exact hactive h1
      · exact hreserved (by simp [getTokenIdStatusLocked, hactive, h1])
      · by_cases h2 : id ∈ w.reservedTokenIdSet
        · exact hreserved (by simp [getTokenIdStatusLocked, hactive, h2])
        · exact huntrusted (by simp [getTokenIdStatusLocked, hactive, h1, h2])
    unfold getHapTokenInfoInnerFromDb
    cases findOk with
    | false => exact .inl ⟨trivial, _, _, .inl rfl, .inl rfl, rfl⟩
    | true =>
      cases hrow : w.db.hapTokenInfo[id]? with
      | none => exact .inl ⟨trivial, _, _, .inl rfl, .inl rfl, rfl⟩
      | some row =>
        simp only [Bool.not_true, Bool.false_eq_true, if_false]
        cases hres : row.reserved with
        | true => exact .inl ⟨trivial, _, _, .inr rfl, .inl rfl, rfl⟩
        | false =>
          cases hhap : row.restoreHapTokenBasicInfo id with
          | none => exact .inl ⟨trivial, _, _, .inl rfl, .inr rfl, by simp; rfl⟩
          | some hap => exact .inr ⟨trivial, hactive, row, hap, rfl, hres, hhap, by simp; rfl⟩

theorem restoreHapTokenBasicInfo_spec {row : HapTokenRow} {hap : HapTokenInfoInner}
    (h : row.restoreHapTokenBasicInfo id = some hap) :
    hap.tokenID = id ∧ hap.isRemote = false ∧ hap.userID = row.userID ∧
      hap.bundleName = row.bundleName ∧ hap.instIndex = row.instIndex := by
  unfold HapTokenRow.restoreHapTokenBasicInfo at h
  split at h
  · cases h; exact ⟨rfl, rfl, rfl, rfl, rfl⟩
  · cases h

/-! ## Removing -/

structure Removed (w : Service) (id : AccessTokenID) (info : HapTokenInfoInner) (held : Bool)
    (w' : Service) : Prop where
  infoMap : w'.hapTokenInfoMap = w.hapTokenInfoMap.erase id
  idMap : w'.hapTokenIdMap =
    if w.hapTokenIdMap[info.getHapUniqueStr]? = some id then w.hapTokenIdMap.erase info.getHapUniqueStr
    else w.hapTokenIdMap
  kernel : w'.kernel = w.kernel.removePermissionFromKernel id
  brief : w'.brief =
    if held then w.brief else (w.brief.deleteBriefPermDataByTokenId info.tokenID).2
  tokenIds : ∀ t, t ∈ w'.tokenIdSet ↔ t ≠ id ∧ t ∈ w.tokenIdSet
  policy : w'.policy = w.policy
  tools : w'.toolTokenInfoMap = w.toolTokenInfoMap
  hapRows : ∀ t, t ∈ w'.db.hapTokenInfo → t ∈ w.db.hapTokenInfo ∨ t = id
  permRows : ∀ t, w'.db.permissionState t = w.db.permissionState t ∨
    (t = info.tokenID ∧ w'.db.permissionState t = ∅)
  otherRows : ∀ t, t ≠ id → t ≠ info.tokenID → w'.db.hapTokenInfo[t]? = w.db.hapTokenInfo[t]?
  wholeRows : w'.db = w.db ∨ w'.db.permissionState info.tokenID = ∅

theorem removeHapTokenInfoFromDb_cases (dbOk : Bool) (info : HapTokenInfoInner) (reserved : Bool)
    (rid : AccessTokenID) :
    ∃ db, (w.removeHapTokenInfoFromDb dbOk info reserved rid).2 = { w with db := db } ∧ (db = w.db ∨
        ((∀ t, t ∈ db.hapTokenInfo → t ∈ w.db.hapTokenInfo ∨ t = rid) ∧
          (∀ t, t ≠ rid → t ≠ info.tokenID → db.hapTokenInfo[t]? = w.db.hapTokenInfo[t]?) ∧
          db.permissionState = update w.db.permissionState info.tokenID ∅)) := by
  have herase : ∀ t, t ∈ (w.db.deleteToken info.tokenID).hapTokenInfo → t ∈ w.db.hapTokenInfo := by
    exact fun t ht => (mem_erase.1 ht).2
  have hother : ∀ t, t ≠ info.tokenID →
      (w.db.deleteToken info.tokenID).hapTokenInfo[t]? = w.db.hapTokenInfo[t]? := by
    exact fun t ht => Lib.getElem?_erase_of_ne ht
  unfold removeHapTokenInfoFromDb
  simp only
  split
  · exact ⟨_, rfl, .inl rfl⟩
  split
  · refine ⟨_, rfl, .inr ⟨fun t ht => ?_, fun t hrid ht => ?_, rfl⟩⟩
    · exact (mem_insert.1 ht).symm.imp_left (herase t)
    · exact (Lib.getElem?_insert_of_ne hrid).trans (hother t ht)
  · exact ⟨_, rfl, .inr ⟨fun t ht => .inl (herase t ht), fun t _ => hother t, rfl⟩⟩

theorem addReservedHapTokenId_cases (u : Int32) (b : String) (i : Int32) (id : AccessTokenID) :
    ∃ r m, w.addReservedHapTokenId u b i id = { w with reservedHapTokenIdMap := r, idManager := m } ∧
      m.tokenIdSet = w.tokenIdSet := by
  unfold addReservedHapTokenId
  simp only
  split
  · exact ⟨_, _, rfl, rfl⟩
  · exact ⟨_, _, rfl, by simp⟩

theorem removeReservedHapTokenId_cases (u : Int32) (b : String) (i : Int32) :
    ∃ r m, w.removeReservedHapTokenId u b i = { w with reservedHapTokenIdMap := r, idManager := m } ∧
      m.tokenIdSet = w.tokenIdSet := by
  unfold removeReservedHapTokenId
  simp only
  split <;> exact ⟨_, _, rfl, rfl⟩

/-- The part of a removal that is done in memory, while the object is still held. -/
theorem removeHapTokenInfoInner_cases (w : Service) (id : AccessTokenID) (reserved : Bool) :
    ((∀ info, w.hapTokenInfoMap[id]? = some info → info.isRemote = true) ∧
        ∃ e, w.removeHapTokenInfoInner id reserved = .error e) ∨
      ∃ info w', w.hapTokenInfoMap[id]? = some info ∧ info.isRemote = false ∧
        w.removeHapTokenInfoInner id reserved = .ok (info, w') ∧ w'.db = w.db ∧ Removed w id info true w' := by
  unfold removeHapTokenInfoInner
  cases hinfo : w.hapTokenInfoMap[id]? with
  | none => exact .inl ⟨by simp, _, rfl⟩
  | some info =>
    cases hrem : info.isRemote with
    | true => exact .inl ⟨by simp [hrem], .errIdentityCheckFailed, by simp [hrem]⟩
    | false =>
      simp only [hrem, Bool.false_eq_true, if_false]
      refine .inr ⟨info, _, rfl, hrem, rfl, ?_⟩
      cases reserved with
      | false =>
        exact ⟨rfl,
          { infoMap := rfl, idMap := rfl, kernel := rfl, brief := rfl, policy := rfl, tools := rfl
            tokenIds := fun t => mem_releaseTokenId
            hapRows := fun _ => .inl
            permRows := fun _ => .inl rfl
            otherRows := fun _ _ _ => rfl
            wholeRows := .inl rfl }⟩
      | true =>
        simp only [if_true]
        obtain ⟨r, m, heq, hm⟩ := addReservedHapTokenId_cases
          info.userID info.bundleName info.instIndex id
        rw [heq]
        exact ⟨rfl,
          { infoMap := rfl, idMap := rfl, kernel := rfl, brief := rfl, policy := rfl, tools := rfl
            tokenIds := fun t => by rw [hm]; exact mem_releaseTokenId
            hapRows := fun _ => .inl
            permRows := fun _ => .inl rfl
            otherRows := fun _ _ _ => rfl
            wholeRows := .inl rfl }⟩

/-- **A removal** fails without a trace unless the id is a registered HAP id of a local token in memory. -/
theorem removeHapTokenInfo_cases (w : Service) (dbOk held : Bool) (id : AccessTokenID) (reserved : Bool) :
    ((w.getTokenIdType id ≠ .tokenHap ∨ ∀ info, w.hapTokenInfoMap[id]? = some info → info.isRemote = true) ∧
        ∃ e, w.removeHapTokenInfo dbOk held id reserved = (.error e, w)) ∨
      ∃ info w', w.hapTokenInfoMap[id]? = some info ∧ info.isRemote = false ∧
        w.removeHapTokenInfo dbOk held id reserved = (.ok (), w') ∧ Removed w id info held w' := by
  unfold removeHapTokenInfo
  by_cases htype : w.getTokenIdType id ≠ .tokenHap
  · exact .inl ⟨.inl htype, _, if_pos htype⟩
  rw [if_neg htype]
  rcases removeHapTokenInfoInner_cases w id reserved with ⟨hrem, e, he⟩ | ⟨info, w₁, hinfo, hrem, he, -, h₁⟩
  · exact .inl ⟨.inr hrem, e, by rw [he]⟩
  rw [he]
  refine .inr ⟨info, _, hinfo, hrem, rfl, ?_⟩
  obtain ⟨db, hdb, hrows⟩ := removeHapTokenInfoFromDb_cases (w := w₁) dbOk info reserved id
  simp only [hdb]
  have hdone : Removed w id info true { w₁ with db := db } := by
    rcases hrows with rfl | ⟨hap, hother, hstate⟩
    · exact h₁
    · exact { h₁ with
        hapRows := fun t ht => (hap t ht).elim (h₁.hapRows t) .inr
        permRows := fun t => by
          rw [hstate, update_apply]
          split
          · rename_i htt
            exact .inr ⟨htt, rfl⟩
          · exact h₁.permRows t
        otherRows := fun t hid ht => (hother t hid ht).trans (h₁.otherRows t hid ht)
        wholeRows := .inr (by rw [hstate, update_self]) }
  cases held with
  | true => exact hdone
  | false =>
    exact { hdone with
      brief := by
        have hb : w₁.brief = w.brief := h₁.brief
        simp only [destroyHap, hb, Bool.false_eq_true, if_false] }

theorem removeHapTokenInfo_parts {reserved : Bool} (h : w.removeHapTokenInfo dbOk held id reserved = (.ok (), w')) :
    w.getTokenIdType id = .tokenHap ∧ ∃ info w₁, w.hapTokenInfoMap[id]? = some info ∧
      w.removeHapTokenInfoInner id reserved = .ok (info, w₁) ∧ w₁.brief = w.brief ∧ w'.idManager = w₁.idManager ∧
      w₁.db = w.db ∧ w'.db = (w₁.removeHapTokenInfoFromDb dbOk info reserved id).2.db := by
  unfold removeHapTokenInfo at h
  split at h
  · cases h
  rename_i htype
  refine ⟨not_not.1 htype, ?_⟩
  rcases removeHapTokenInfoInner_cases w id reserved with ⟨-, e, he⟩ | ⟨info, w₁, hinfo, -, he, hdb₁, hr⟩
  · rw [he] at h
    cases h
  rw [he] at h
  obtain ⟨-, rfl⟩ := Prod.mk.inj h
  obtain ⟨db, hdb, -⟩ := removeHapTokenInfoFromDb_cases dbOk info reserved id
  refine ⟨info, w₁, hinfo, he, hr.brief, ?_, hdb₁, ?_⟩
  · rw [hdb]
    cases held <;> rfl
  · cases held <;> rfl

/-- The rows of a removed token go with it, if the database answers and the id is not kept. -/
theorem removeHapTokenInfo_rows (hinfo : w.hapTokenInfoMap[id]? = some info)
    (h : w.removeHapTokenInfo true held id false = (.ok (), w')) :
    w'.db = w.db.deleteToken info.tokenID := by
  obtain ⟨-, info', w₁, hinfo', -, -, -, hdb, hw'⟩ := removeHapTokenInfo_parts h
  obtain rfl := Option.mem_unique hinfo hinfo'
  rw [hw', ← hdb]
  simp [removeHapTokenInfoFromDb]

/-! ## Creating -/

theorem registerTokenId_eq_ok {rand : Nat → BitVec 32} {info : HapInfoParams} {t : AccessTokenID}
    (h : w.registerTokenId rand info = .ok (t, w')) :
    WellFormedId t .tokenHap ∧ ¬w.Known t ∧
      w' = { w with idManager := w.idManager.addToSet t .active } := by
  unfold registerTokenId at h
  split at h
  · rcases registerTokenId_cases info.tokenID .tokenHap with
      ⟨-, e, he⟩ | ⟨hform, hnew, hok⟩
    · rw [he] at h; cases h
    · rw [hok] at h; cases h
      exact ⟨hform, hnew, rfl⟩
  · simp only [createAndRegisterTokenId] at h
    generalize (if info.dlpType > dlpCommon then (1 : BitVec 32) else 0) = dlpFlag at h
    generalize (if dlpFlag = 0 ∧ info.instIndex % mainCloneIndexBase ≠ 0 then (1 : BitVec 32) else 0) = cloneFlag at h
    rcases createAndRegisterLoop_cases (m := w.idManager) .tokenHap dlpFlag cloneFlag 0 rand
      maxCreateTokenIdRetry 0 with heq | ⟨id, hvalid, hform, hnew, heq⟩
    · simp only [heq, if_true, reduceCtorEq] at h
    · simp only [heq, if_neg hvalid, Except.ok.injEq, Prod.mk.injEq] at h
      obtain ⟨rfl, rfl⟩ := h
      exact ⟨hform, hnew, rfl⟩

def storedStates (T : PermissionTable) (w : Service) (t : AccessTokenID) : List PermissionStatus :=
  clearNonPersistedUserPolicyFlags T w.policy.records ((w.permissionStateValues T t).getD [])

/-- The rows a token is written over: without the row of a reserved id of its key and, in an update, without its own. -/
def clearedDb (w : Service) (info : HapTokenInfoInner) (isUpdate : Bool) : Database :=
  let reserved := w.getReservedHapTokenId info.userID info.bundleName
    info.instIndex
  let db := if reserved ≠ invalidTokenId then { w.db with hapTokenInfo := w.db.hapTokenInfo.erase reserved } else w.db
  if isUpdate then db.deleteToken info.tokenID else db

theorem clearedDb_hapTokenInfo (w : Service) (info : HapTokenInfoInner) (isUpdate : Bool) (t : AccessTokenID) :
    (w.clearedDb info isUpdate).hapTokenInfo[t]? =
      if isUpdate = true ∧ info.tokenID = t ∨
        (w.getReservedHapTokenId info.userID info.bundleName info.instIndex ≠
            invalidTokenId ∧
          w.getReservedHapTokenId info.userID info.bundleName info.instIndex = t)
      then none else w.db.hapTokenInfo[t]? := by
  unfold clearedDb Database.deleteToken
  cases isUpdate <;> dsimp only <;> split <;> simp_all [getElem?_erase] <;> grind

theorem clearedDb_permissionState (w : Service) (info : HapTokenInfoInner) (isUpdate : Bool) :
    (w.clearedDb info isUpdate).permissionState =
      if isUpdate then update w.db.permissionState info.tokenID ∅ else w.db.permissionState := by
  unfold clearedDb Database.deleteToken
  cases isUpdate <;> simp only [Bool.false_eq_true, if_true, if_false] <;> split <;> rfl

theorem clearedDb_extendValue (w : Service) (info : HapTokenInfoInner) (isUpdate : Bool) :
    (w.clearedDb info isUpdate).extendValue =
      if isUpdate then update w.db.extendValue info.tokenID ∅ else w.db.extendValue := by
  unfold clearedDb Database.deleteToken
  cases isUpdate <;> simp only [Bool.false_eq_true, if_true, if_false] <;> split <;> rfl

/-- The rows with the token in them. -/
def insertedDb (T : PermissionTable) (w : Service) (info : HapTokenInfoInner) (isUpdate : Bool) : Database :=
  (w.clearedDb info isUpdate).insertToken info.tokenID info.toRow
    (w.storedStates T info.tokenID) (w.getExtendedValueList T info.tokenID)

/-- **Writing a token to its rows** fails without a trace, or inserts it into the rows that are left. -/
theorem addHapTokenInfoToDb_cases (T : PermissionTable) (w : Service) (dbOk : Bool) (info : HapTokenInfoInner)
    (isUpdate : Bool) :
    (∃ e, addHapTokenInfoToDb T w dbOk info isUpdate = (.error e, w) ∧ (info.isRemote = true ∨ dbOk = false)) ∨
      dbOk = true ∧ addHapTokenInfoToDb T w dbOk info isUpdate =
        (.ok (), { w with db := insertedDb T w info isUpdate }) := by
  unfold addHapTokenInfoToDb
  split
  · rename_i hremote
    exact .inl ⟨_, rfl, .inl hremote⟩
  cases dbOk with
  | false => exact .inl ⟨_, rfl, .inr rfl⟩
  | true => exact .inr ⟨rfl, rfl⟩

section

variable (hok : addHapTokenInfoToDb T w dbOk info isUpdate = (.ok (), { w with db := db }))
include hok

theorem insertedDb_of_stored : dbOk = true ∧ db = insertedDb T w info isUpdate := by
  rcases addHapTokenInfoToDb_cases T w dbOk info isUpdate with ⟨e, he, -⟩ | ⟨hdb, hok'⟩
  · rw [he] at hok
    cases hok
  · exact ⟨hdb, congrArg Service.db (Prod.mk.inj (hok.symm.trans hok')).2⟩

/-- **The rows after a token is stored**: its states, and no other new row. -/
theorem rows_of_stored :
    db.permissionState = update w.db.permissionState info.tokenID
        (Database.insertPermStates (if isUpdate then ∅ else w.db.permissionState info.tokenID)
          (w.storedStates T info.tokenID)) ∧
      ∀ (t : AccessTokenID) row, db.hapTokenInfo[t]? = some row → w.db.hapTokenInfo[t]? = some row ∨
        (t = info.tokenID ∧ row = info.toRow) := by
  obtain ⟨-, rfl⟩ := insertedDb_of_stored hok
  refine ⟨?_, fun t row ht => ?_⟩
  · rw [insertedDb, Database.insertToken, clearedDb_permissionState]
    split <;> simp
  · rw [insertedDb, Database.insertToken, getElem?_insert, clearedDb_hapTokenInfo] at ht
    grind

end

/-- **The token rows after a token is stored**: its own is new, and besides it only the row of a reserved id is lost. -/
theorem hapRows_of_stored {reserved : AccessTokenID}
    (hres : w.getReservedHapTokenId info.userID info.bundleName info.instIndex =
      reserved) (hok : addHapTokenInfoToDb T w dbOk info isUpdate = (.ok (), { w with db := db })) {t : AccessTokenID}
    (ht : t ≠ reserved ∨ reserved = invalidTokenId) :
    db.hapTokenInfo[t]? = if info.tokenID = t then some info.toRow else w.db.hapTokenInfo[t]? := by
  obtain ⟨-, rfl⟩ := insertedDb_of_stored hok
  rw [insertedDb, Database.insertToken, getElem?_insert, clearedDb_hapTokenInfo, hres]
  grind

/-- The two map writes of `AddHapTokenInfo`. -/
def placed (w : Service) (info : HapTokenInfoInner) : Service :=
  { w with
    hapTokenIdMap :=
      if info.isRemote then w.hapTokenIdMap
      else w.hapTokenIdMap.insert info.getHapUniqueStr info.tokenID
    hapTokenInfoMap := w.hapTokenInfoMap.insert info.tokenID info }

/-- The service after the new token is in the maps: the owner its key had, if any, is removed or stays behind. -/
inductive Displaced (w : Service) (removeOk : Bool) (info : HapTokenInfoInner) : Service → Prop where
  | keyFree (h : info.isRemote = true ∨ w.hapTokenIdMap.getD info.getHapUniqueStr invalidTokenId = invalidTokenId) :
      Displaced w removeOk info (w.placed info)
  | kept (o : AccessTokenID) (hkey : w.hapTokenIdMap[info.getHapUniqueStr]? = some o)
      (h : w.getTokenIdType o ≠ .tokenHap ∨
        ∀ old, (w.placed info).hapTokenInfoMap[o]? = some old → old.isRemote = true) :
      Displaced w removeOk info (w.placed info)
  | removed (o : AccessTokenID) (old : HapTokenInfoInner) {w' : Service} (hlocal : info.isRemote = false)
      (hkey : w.hapTokenIdMap[info.getHapUniqueStr]? = some o)
      (hold : (w.placed info).hapTokenInfoMap[o]? = some old)
      (h : Removed (w.placed info) o old (o == info.tokenID) w')
      (hrows : removeOk = true → w'.db = w.db.deleteToken old.tokenID) : Displaced w removeOk info w'

theorem addHapTokenInfo_cases (w : Service) (removeOk : Bool) (info : HapTokenInfoInner) :
    (info.tokenID ∈ w.hapTokenInfoMap ∧
        w.addHapTokenInfo removeOk info = (.error .errTokenidHasExisted, w)) ∨
      (info.tokenID ∉ w.hapTokenInfoMap ∧ ∃ w', Displaced w removeOk info w' ∧
        w.addHapTokenInfo removeOk info = (.ok (), w'.addGrantedHapPermsToKernel info.tokenID)) := by
  unfold addHapTokenInfo
  by_cases hmem : info.tokenID ∈ w.hapTokenInfoMap
  · exact .inl ⟨hmem, if_pos hmem⟩
  refine .inr ⟨hmem, ?_⟩
  simp only [if_neg hmem]
  by_cases hrem : info.isRemote = true
  · exact ⟨w.placed info, .keyFree (.inl hrem), by simp [hrem, placed]⟩
  simp only [hrem, Bool.false_eq_true, if_false]
  by_cases hfree : w.hapTokenIdMap.getD info.getHapUniqueStr invalidTokenId = invalidTokenId
  · exact ⟨w.placed info, .keyFree (.inr hfree), by simp [hrem, hfree, placed]⟩
  obtain ⟨o, hkey⟩ : ∃ o, w.hapTokenIdMap[info.getHapUniqueStr]? = some o := by
    cases hkey : w.hapTokenIdMap[info.getHapUniqueStr]? with
    | none => exact absurd (by rw [getD_eq_getD_getElem?, hkey]; rfl) hfree
    | some o => exact ⟨o, rfl⟩
  have ho : w.hapTokenIdMap.getD info.getHapUniqueStr invalidTokenId = o := by
    rw [getD_eq_getD_getElem?, hkey]; rfl
  have hplaced : w.placed info = { w with
        hapTokenIdMap := w.hapTokenIdMap.insert info.getHapUniqueStr info.tokenID
        hapTokenInfoMap := w.hapTokenInfoMap.insert info.tokenID info } := by
    simp [placed, hrem]
  rw [ho] at hfree ⊢
  rw [if_neg hfree, ← hplaced]
  rcases removeHapTokenInfo_cases (w.placed info) removeOk (o == info.tokenID) o false with
    ⟨hwhy, e, he⟩ | ⟨old, w', hold, -, he, hremoved⟩
  · exact ⟨w.placed info, .kept o hkey hwhy, by rw [he]⟩
  · refine ⟨w', .removed o old (by simpa using hrem) hkey hold hremoved fun hok => ?_, by rw [he]⟩
    rw [hok] at he
    exact removeHapTokenInfo_rows (w := w.placed info) hold he

def registered (T : PermissionTable) (D : DlpPermissionModeMap) (w : Service) (t : AccessTokenID) (info : HapInfoParams)
    (policy : HapPolicy) (db : Database) : Service :=
  { w with
    idManager := w.idManager.addToSet t .active
    brief := w.brief.addPermToBriefPermission T t (initialStates T D w t info policy) policy.aclExtendedMap true
    db := db }

theorem registerTokenId_of_created {t : AccessTokenID} {env : Env} {info : HapInfoParams} {policy : HapPolicy}
    (h : (createHapTokenInfo T D w env info policy).1 = .ok t) :
    t ∈ (w.registerTokenId env.rand info).toOption.map Prod.fst := by
  unfold createHapTokenInfo at h
  split at h
  · cases h
  split at h
  · cases h
  rename_i hreg
  rw [hreg]
  dsimp only at h
  split at h
  · cases h
  split at h <;> cases h
  rfl

/-- **What creating a token can do**: fail before it touches anything, fail and take its own data back, or put a token
with a fresh id into the maps. -/
theorem createHapTokenInfo_cases (T : PermissionTable) (D : DlpPermissionModeMap) (w : Service) (env : Env)
    (info : HapInfoParams) (policy : HapPolicy) :
    (∃ e, createHapTokenInfo T D w env info policy = (.error e, w)) ∨
      ∃ t, WellFormedId t .tokenHap ∧ ¬w.Known t ∧ ((∃ e db, (db = w.db ∨ t ∈ w.hapTokenInfoMap) ∧
            createHapTokenInfo T D w env info policy = (.error e, { registered T D w t info policy db with
                idManager := (w.idManager.addToSet t .active).releaseTokenId t }.destroyHap t)) ∨
          (∃ db w₁ r m, t ∉ w.hapTokenInfoMap ∧
            addHapTokenInfoToDb T (registered T D w t info policy w.db) env.transactionOk (.ofParams t info) false =
              (.ok (), registered T D w t info policy db) ∧
            Displaced (registered T D w t info policy db) env.removeOk (.ofParams t info) w₁ ∧
            m.tokenIdSet = w₁.tokenIdSet ∧
            createHapTokenInfo T D w env info policy = (.ok t,
              if t ∈ w₁.hapTokenInfoMap then
                { w₁.addGrantedHapPermsToKernel t with reservedHapTokenIdMap := r, idManager := m }
              else
                { w₁.addGrantedHapPermsToKernel t with reservedHapTokenIdMap := r, idManager := m }.destroyHap
                t))) := by
  unfold createHapTokenInfo
  split
  · exact .inl ⟨_, rfl⟩
  split
  · exact .inl ⟨_, rfl⟩
  rename_i t w₀ hreg
  obtain ⟨hform, hnew, rfl⟩ := registerTokenId_eq_ok hreg
  refine .inr ⟨t, hform, hnew, ?_⟩
  have hregd : { w with
        idManager := w.idManager.addToSet t .active
        brief := w.brief.addPermToBriefPermission T t
          (initialStates T D { w with idManager := w.idManager.addToSet t .active } t info policy)
          policy.aclExtendedMap true } = registered T D w t info policy w.db := rfl
  simp only [hregd]
  rcases addHapTokenInfoToDb_cases T (registered T D w t info policy w.db) env.transactionOk (.ofParams t info) false
    with ⟨e, he, -⟩ | ⟨-, hok⟩
  · rw [he]
    exact .inl ⟨e, w.db, .inl rfl, rfl⟩
  generalize hdb : insertedDb T (registered T D w t info policy w.db) (.ofParams t info) false = db at hok
  have hregd' : { registered T D w t info policy w.db with db := db } = registered T D w t info policy db := rfl
  rw [hregd'] at hok
  rw [hok]
  simp only
  rcases addHapTokenInfo_cases (registered T D w t info policy db) env.removeOk (.ofParams t info) with
    ⟨hmem, he⟩ | ⟨hmem, w₁, hdisp, he⟩
  · rw [he]
    obtain ⟨db', hdb', -⟩ := removeHapTokenInfoFromDb_cases
      (w := { registered T D w t info policy db with
        idManager :=
          (registered T D w t info policy db).idManager.releaseTokenId t }) env.removeOk (.ofParams t info) true
      (({ registered T D w t info policy db with
        idManager := (registered T D w t info policy db).idManager.releaseTokenId t } : Service).getReservedHapTokenId
          info.userID info.bundleName info.instIndex)
    simp only [hdb']
    exact .inl ⟨_, db', .inr hmem, rfl⟩
  · rw [he]
    obtain ⟨r, m, heq, hm⟩ := removeReservedHapTokenId_cases
      (w := w₁.addGrantedHapPermsToKernel (HapTokenInfoInner.ofParams t info).tokenID)
      info.userID info.bundleName info.instIndex
    simp only [heq]
    exact .inr ⟨db, w₁, r, m, hmem, rfl, hdisp, hm, rfl⟩

/-! ## Updating -/

theorem getHapTokenInfoInner_some {findOk : Bool} {id : AccessTokenID} {info : HapTokenInfoInner}
    (h : (getHapTokenInfoInner T w findOk id).1 = some info) :
    (getHapTokenInfoInner T w findOk id).2.hapTokenInfoMap[id]? = some info := by
  rcases getHapTokenInfoInner_cases T w findOk id with ⟨info', hget, heq⟩ | ⟨-, m, b, -, -, heq⟩ |
    ⟨-, -, row, basic, -, -, -, heq⟩
  · rw [heq] at h ⊢
    exact hget.trans h
  · rw [heq] at h; cases h
  · rw [heq] at h ⊢
    exact (getElem?_insert_self ..).trans h

def adjustedStates (T : PermissionTable) (w : Service) (id : AccessTokenID) (inner : HapTokenInfoInner)
    (states : List PermissionStatus) : List PermissionStatus :=
  UserPolicyManager.updatePermissionStatusListForUserPolicy T w.policy.records id inner.userID states

abbrev updatedFrom (T : PermissionTable) (w : Service) (id : AccessTokenID) (inner : HapTokenInfoInner)
    (info : UpdateHapInfoParams) (states : List PermissionStatus) (policy : HapPolicy) : Service :=
  updateHapInfo T w id inner info (adjustedStates T w id inner states) policy

/-- **What updating a token can do**: fail on its parameters or after the lookup, change the token in memory and fail at
the database, or change it everywhere. -/
theorem updateHapToken_cases (T : PermissionTable) (w : Service) (env : Env) (id : AccessTokenID)
    (info : UpdateHapInfoParams) (states : List PermissionStatus) (policy : HapPolicy) :
    (∃ e, updateHapToken T w env id info states policy = (.error e, w)) ∨
      (∃ e, updateHapToken T w env id info states policy = (.error e, (getHapTokenInfoInner T w env.findOk id).2)) ∨
      ∃ inner, (getHapTokenInfoInner T w env.findOk id).1 = some inner ∧
        (getHapTokenInfoInner T w env.findOk id).2.hapTokenInfoMap[id]? = some inner ∧ inner.isRemote = false ∧
        ∃ w₂, w₂ = updatedFrom T (getHapTokenInfoInner T w env.findOk id).2 id inner info states policy ∧
        ((∃ e, (addHapTokenInfoToDb T w₂ env.transactionOk (updatedInner inner info) true).1 = .error e ∧
            updateHapToken T w env id info states policy = (.error e, w₂)) ∨
          ∃ db, addHapTokenInfoToDb T w₂ env.transactionOk
          (updatedInner inner info) true = (.ok (), { w₂ with db := db }) ∧
            updateHapToken T w env id info states policy =
              (.ok (), { w₂ with db := db }.addGrantedHapPermsToKernel id)) := by
  unfold updateHapToken
  split
  · exact .inl ⟨_, rfl⟩
  right
  cases hget : getHapTokenInfoInner T w env.findOk id with
  | mk found w₁ =>
    have hsome := @getHapTokenInfoInner_some T w env.findOk id
    rw [hget] at hsome
    cases found with
    | none => exact .inl ⟨_, rfl⟩
    | some inner =>
      simp only
      by_cases hrem : inner.isRemote = true
      · exact .inl ⟨_, if_pos hrem⟩
      rw [if_neg hrem]
      by_cases hold : (!env.oldStatesOk) = true
      · exact .inl ⟨_, if_pos hold⟩
      rw [if_neg hold]
      refine .inr ⟨inner, rfl, hsome rfl, by simpa using hrem, _, rfl, ?_⟩
      have hinner : ((updatedFrom T w₁ id inner info states policy).hapTokenInfoMap[id]?).getD inner =
          updatedInner inner info := by
        simp only [updateHapInfo, getElem?_insert_self, Option.getD_some]
      rw [updatedFrom, adjustedStates] at hinner ⊢
      simp only [hinner]
      rcases addHapTokenInfoToDb_cases T (updatedFrom T w₁ id inner info states policy) env.transactionOk
        (updatedInner inner info) true with ⟨e, he, -⟩ | ⟨-, hok⟩
      · rw [updatedFrom, adjustedStates] at he
        rw [he]
        exact .inl ⟨e, rfl, rfl⟩
      · rw [updatedFrom, adjustedStates] at hok
        rw [hok]
        exact .inr ⟨_, rfl, rfl⟩

end Service
end AccessToken
