import AccessToken.Service.EntrySteps
/-!
# What a failing install or update leaves behind

`CreateHapTokenInfo` and `UpdateHapToken` change the id sets, the permission data, the tables and the token maps one
after the other, each with its own way back.  What a call that reports an error has changed is said exactly, store by
store and from any state: a failing install gives everything back unless something was kept under the very id it took, a
failing update nothing.
-/
namespace AccessToken

open Std.ExtTreeMap (ext_getElem? getElem?_eq_none getElem?_insert_self getKey_eq mem_iff_isSome_getElem?
  mem_insert_self)
open AccessTokenIDManager Database HapTokenInfoInner

open Lib (hasAny getElem?_erase getElem?_insert mem_erase mem_insert)
open PermissionDataBrief (freshList hasCode keepsInitializedState mergeOnUpdate)

namespace PermissionDataBrief

variable {T : PermissionTable}

/-! ## Values of one token -/

theorem tokenId_extendedKey {t : AccessTokenID} {c : Nat} (hc : c < 2 ^ 32) :
    (extendedKey t c >>> 32).setWidth 32 = t := by
  refine BitVec.eq_of_getLsbD_eq fun i hi => ?_
  have h64 : 32 + i < 64 := by omega
  have hbit : c.testBit (32 + i) = false := by
    apply Nat.testBit_lt_two_pow
    exact Nat.lt_of_lt_of_le hc (Nat.pow_le_pow_right (by decide) (by omega))
  have hlow : (BitVec.ofNat 64 c)[32 + i] = false := by
    rw [← BitVec.getLsbD_eq_getElem, BitVec.getLsbD_ofNat, hbit, Bool.and_false]
  simp [extendedKey, hi, h64, hlow]

variable (t : AccessTokenID) (ext : ExtendedValueMap)

theorem getElem?_deleteExtendedValue (key : BitVec 64) :
    (deleteExtendedValue t ext)[key]? = if (key >>> 32).setWidth 32 = t then none else ext[key]? := by
  rw [deleteExtendedValue, Std.ExtTreeMap.getElem?_filter]
  simp only [getKey_eq]
  by_cases hkey : (key >>> 32).setWidth 32 = t
  · simp [hkey]
  · cases ext[key]? <;> simp [hkey]

theorem deleteExtendedValue_idem : deleteExtendedValue t (deleteExtendedValue t ext) = deleteExtendedValue t ext := by
  apply ext_getElem?
  intro key
  simp only [getElem?_deleteExtendedValue]
  split <;> rfl

/-- The extended values of a list of states: one for each permission that has one, in the order they are written. -/
def writtenValues (T : PermissionTable) (t : AccessTokenID) (acl : AclExtendedMap) (states : List PermissionStatus) :
    List (BitVec 64 × String) :=
  states.filterMap fun st => (briefPermDataOf T st).bind fun d =>
    if hasAny d.type hasValueBit then some (extendedKey t d.permCode, acl.getD st.permissionName "") else none

theorem briefDataLoop_snd (t : AccessTokenID) (acl : AclExtendedMap) :
    ∀ (states : List PermissionStatus) (ext : ExtendedValueMap),
      (getPermissionBriefDataLoop T t acl states ext).2 = Lib.insertAll ext (writtenValues T t acl states)
  | [], _ => rfl
  | st :: states, ext => by
    rw [getPermissionBriefDataLoop, writtenValues, List.filterMap_cons, getPermissionBriefData]
    cases briefPermDataOf T st with
    | none => exact briefDataLoop_snd t acl states ext
    | some d =>
      dsimp only [Option.bind_some]
      cases hasAny d.type hasValueBit <;> exact briefDataLoop_snd t acl states _

theorem tokenId_of_written {states : List PermissionStatus} {acl : AclExtendedMap} {e : BitVec 64 × String}
    (he : e ∈ writtenValues T t acl states) : (e.1 >>> 32).setWidth 32 = t := by
  obtain ⟨st, -, hst⟩ := List.mem_filterMap.1 he
  obtain ⟨d, hd, heq⟩ := Option.bind_eq_some_iff.1 hst
  have hcode := PermissionTable.code_lt_of_transfer (briefPermDataOf_eq_some hd).2.2.1
  split at heq
  · cases heq
    exact tokenId_extendedKey (Nat.lt_of_lt_of_le hcode T.codes_word)
  · cases heq

/-- **Building the data of a token touches no value of another.** -/
theorem deleteExtendedValue_briefDataLoop (t : AccessTokenID) (acl : AclExtendedMap) (states : List PermissionStatus)
    (ext : ExtendedValueMap) :
    deleteExtendedValue t (getPermissionBriefDataLoop T t acl states ext).2 = deleteExtendedValue t ext := by
  apply ext_getElem?
  intro key
  simp only [briefDataLoop_snd, getElem?_deleteExtendedValue]
  split
  · rfl
  rename_i hkey
  rcases Lib.getElem?_insertAll (writtenValues T t acl states) ext key with ⟨v, hv, -⟩ | ⟨-, heq⟩
  · exact absurd (tokenId_of_written t hv) hkey
  · exact heq

theorem delete_addPermToBriefPermission (s : PermissionDataBrief) (t : AccessTokenID) (states : List PermissionStatus)
    (acl : AclExtendedMap) (defCheck : Bool) :
    ((s.addPermToBriefPermission T t states acl defCheck).deleteBriefPermDataByTokenId t).2 =
      { requestedPermData := s.requestedPermData.erase t
        secCompList := s.secCompList.filter fun c => c.tokenId != t
        extendedValue := deleteExtendedValue t s.extendedValue } := by
  have hmem : t ∈ (s.addPermToBriefPermission T t states acl defCheck).requestedPermData := by
    simp [addPermToBriefPermission, addBriefPermDataByTokenId]
  rw [deleteBriefPermDataByTokenId, if_pos hmem]
  have hreq : (s.addPermToBriefPermission T t states acl defCheck).requestedPermData.erase t =
      s.requestedPermData.erase t := by
    apply ext_getElem?
    intro key
    simp only [addPermToBriefPermission, addBriefPermDataByTokenId, getElem?_erase, getElem?_insert]
    split <;> simp [*]
  have hext : deleteExtendedValue t (s.addPermToBriefPermission T t states acl defCheck).extendedValue =
      deleteExtendedValue t s.extendedValue :=
    (deleteExtendedValue_briefDataLoop t acl _ _).trans (deleteExtendedValue_idem t _)
  rw [hreq, hext]
  rfl

end PermissionDataBrief

namespace AccessTokenIDManager

theorem releaseTokenId_addToSet {m : AccessTokenIDManager} {id : AccessTokenID} (h : ¬m.Known id) :
    (m.addToSet id .active).releaseTokenId id = m := by
  have hmem : id ∈ (m.addToSet id .active).tokenIdSet := by simp [addToSet]
  rw [releaseTokenId, if_pos hmem]
  have hset : (m.addToSet id .active).tokenIdSet.erase id = m.tokenIdSet :=
    Lib.set_erase_insert fun hmem => h (.inl hmem)
  rw [hset]
  rfl

end AccessTokenIDManager

namespace Service

variable {T : PermissionTable} {D : DlpPermissionModeMap} {w w' : Service}

/-- Nothing a caller or a restart could tell the two states apart by. -/
structure SameStores (w w' : Service) : Prop where
  ids : w'.idManager = w.idManager
  infos : w'.hapTokenInfoMap = w.hapTokenInfoMap
  index : w'.hapTokenIdMap = w.hapTokenIdMap
  reserved : w'.reservedHapTokenIdMap = w.reservedHapTokenIdMap
  data : w'.requestedPermData = w.requestedPermData
  values : w'.extendedValue = w.extendedValue
  rows : w'.db = w.db
  kernel : w'.kernel = w.kernel

theorem SameStores.refl : SameStores w w := ⟨rfl, rfl, rfl, rfl, rfl, rfl, rfl, rfl⟩

/-! ## Installing -/

/-- The tables once the rows of the new token `t` are in. -/
def installRows (T : PermissionTable) (D : DlpPermissionModeMap) (w : Service) (t : AccessTokenID)
    (info : HapInfoParams) (policy : HapPolicy) : Database :=
  insertedDb T (registered T D w t info policy w.db) (.ofParams t info) false

def reservedRow (t : AccessTokenID) (info : HapInfoParams) : HapTokenRow :=
  let hap := ofParams t info
  { hap.toRow with tokenAttr := hap.tokenAttr ||| tokenReservedFlag }

/-- The state after the id is released and the object of the failed install is gone, over the tables `db`. -/
def givenBack (T : PermissionTable) (D : DlpPermissionModeMap) (w : Service) (t : AccessTokenID) (info : HapInfoParams)
    (policy : HapPolicy) (db : Database) : Service :=
  { registered T D w t info policy db with
    idManager := (w.idManager.addToSet t .active).releaseTokenId t }.destroyHap t

/-- The tables after `RemoveHapTokenInfoFromDb` took the rows of the refused token out again. -/
def withdrawnRows (t : AccessTokenID) (info : HapInfoParams) (reservedTokenId : AccessTokenID) (db : Database) :
    Database :=
  { db.deleteToken t with
    hapTokenInfo := (db.deleteToken t).hapTokenInfo.insert reservedTokenId (reservedRow t info) }

variable {id t : AccessTokenID} {info : HapInfoParams} {policy : HapPolicy} {states : List PermissionStatus} {env : Env}
    {db : Database} {row : HapTokenRow} {e : AccessTokenError} {inner : HapTokenInfoInner} {w₁ : Service}

/-- **How an install can end once it has its id**: the tables refuse it, the id is in the map already, or it
succeeds. -/
theorem createHapTokenInfo_registered (hcheck : checkHapInfoParam T info policy = true)
    (hreg : w.registerTokenId env.rand info = .ok (t, w₁)) (hremove : env.removeOk = true) :
    (env.transactionOk = false ∧
        createHapTokenInfo T D w env info policy =
        (.error .errDatabaseOperateFailed, givenBack T D w t info policy w.db)) ∨
      (env.transactionOk = true ∧ t ∈ w.hapTokenInfoMap ∧
        createHapTokenInfo T D w env info policy = (.error .errTokenidHasExisted, givenBack T D w t info policy
          (withdrawnRows t info (w.getReservedHapTokenId info.userID info.bundleName info.instIndex)
            (installRows T D w t info policy)))) ∨
      (createHapTokenInfo T D w env info policy).1 = .ok t := by
  obtain ⟨hform, hnew, rfl⟩ := registerTokenId_eq_ok hreg
  have hstart : { w with
        idManager := w.idManager.addToSet t .active
        brief := w.brief.addPermToBriefPermission T t
          (initialStates T D { w with idManager := w.idManager.addToSet t .active } t info policy)
          policy.aclExtendedMap true } = registered T D w t info policy w.db := rfl
  simp only [createHapTokenInfo, hcheck, Bool.not_true, Bool.false_eq_true, if_false, hreg, hstart]
  cases hok : env.transactionOk with
  | false => exact .inl ⟨rfl, rfl⟩
  | true =>
    have hwrite : addHapTokenInfoToDb T (registered T D w t info policy w.db) true (.ofParams t info) false =
        (.ok (), registered T D w t info policy (installRows T D w t info policy)) := rfl
    rw [hwrite]
    dsimp only
    rcases addHapTokenInfo_cases (registered T D w t info policy (installRows T D w t info policy)) env.removeOk
      (.ofParams t info) with ⟨hmem, heq⟩ | ⟨-, w₂, -, heq⟩
    · rw [heq, hremove]
      exact .inr (.inl ⟨rfl, hmem, rfl⟩)
    · rw [heq]
      exact .inr (.inr rfl)

/-- **What a withdrawn install changes is the tables, and what was kept under its id.** -/
theorem sameStores_givenBack (hnew : ¬w.Known t) : SameStores w (givenBack T D w t info policy db) ↔
      t ∉ w.requestedPermData ∧
        PermissionDataBrief.deleteExtendedValue t w.extendedValue = w.extendedValue ∧ db = w.db := by
  have hbrief : (givenBack T D w t info policy db).brief =
      { requestedPermData := w.requestedPermData.erase t
        secCompList := w.secCompList.filter fun c => c.tokenId != t
        extendedValue := PermissionDataBrief.deleteExtendedValue t w.extendedValue } :=
    PermissionDataBrief.delete_addPermToBriefPermission w.brief t _ _ _
  constructor
  · intro h
    have hdata := h.data
    have hvalues := h.values
    rw [hbrief] at hdata hvalues
    refine ⟨fun hmem => ?_, hvalues, h.rows⟩
    rw [← hdata] at hmem
    simp at hmem
  · rintro ⟨hnone, hvalues, rfl⟩
    refine ⟨releaseTokenId_addToSet hnew, rfl, rfl, rfl, ?_, ?_, rfl, rfl⟩
    · rw [hbrief]
      exact Lib.erase_of_not_mem hnone
    · rw [hbrief]
      exact hvalues

/-- The way back puts the tables as they were: the row it writes under the reserved id, 0 if there is none, is there
already, and the new id had no rows of its own. -/
def RowsPutBack (w : Service) (t : AccessTokenID) (info : HapInfoParams) : Prop :=
  let reservedTokenId := w.getReservedHapTokenId info.userID info.bundleName info.instIndex
  w.db.hapTokenInfo[reservedTokenId]? = some (reservedRow t info) ∧ (t ∈ w.db.hapTokenInfo → t = reservedTokenId) ∧
    w.db.permissionState t = ∅ ∧ w.db.extendValue t = ∅

instance (w : Service) (t : AccessTokenID) (info : HapInfoParams) : Decidable (RowsPutBack w t info) :=
  inferInstanceAs (Decidable (_ ∧ (_ → _) ∧ _))

theorem rows_rewritten_iff (row : HapTokenRow) {rows : Std.ExtTreeMap AccessTokenID HapTokenRow} {r : AccessTokenID}
    {v : HapTokenRow} :
    ((rows.insert t row).erase t).insert r v = rows ↔ rows[r]? = some v ∧ (t ∈ rows → t = r) := by
  constructor
  · intro heq
    refine ⟨by rw [← heq, getElem?_insert_self], fun ht => ?_⟩
    rw [← heq, mem_insert] at ht
    exact ht.elim id fun h => absurd rfl (mem_erase.1 h).1
  rintro ⟨hrow, hold⟩
  apply ext_getElem?
  intro key
  simp only [getElem?_insert, getElem?_erase]
  by_cases hkey : key = r
  · rw [if_pos hkey, hkey, hrow]
  rw [if_neg hkey]
  split
  · rename_i ht
    rw [← ht] at hold
    exact (getElem?_eq_none fun h => hkey (hold h)).symm
  · rfl

theorem withdrawnRows_eq_iff :
    withdrawnRows t info (w.getReservedHapTokenId info.userID info.bundleName info.instIndex)
        (installRows T D w t info policy) = w.db ↔ RowsPutBack w t info := by
  unfold RowsPutBack
  dsimp only
  rw [← and_assoc, ← rows_rewritten_iff (ofParams t info).toRow]
  generalize hr : w.getReservedHapTokenId info.userID info.bundleName info.instIndex = r
  have hid : (ofParams t info).tokenID = t := rfl
  have hrows : (withdrawnRows t info r (installRows T D w t info policy)).hapTokenInfo =
      ((w.db.hapTokenInfo.insert t (ofParams t info).toRow).erase t).insert r (reservedRow t info) := by
    apply ext_getElem?
    intro key
    simp only [withdrawnRows, installRows, insertedDb, insertToken, deleteToken, hid, getElem?_insert,
      getElem?_erase]
    by_cases hkey : key = r
    · rw [if_pos hkey, if_pos hkey]
    · have hcleared := clearedDb_hapTokenInfo (registered T D w t info policy w.db) (.ofParams t info) false key
      rw [if_neg (fun h => h.elim (fun h => absurd h.1 (by decide)) fun h => hkey (h.2.symm.trans hr))] at hcleared
      rw [hcleared]
      rfl
  have hstates : (withdrawnRows t info r (installRows T D w t info policy)).permissionState =
      Function.update w.db.permissionState t ∅ := by
    simp [withdrawnRows, installRows, insertedDb, insertToken, deleteToken, hid,
      clearedDb_permissionState, registered]
  have hvalues : (withdrawnRows t info r (installRows T D w t info policy)).extendValue =
      Function.update w.db.extendValue t ∅ := by
    simp [withdrawnRows, installRows, insertedDb, insertToken, deleteToken, hid,
      clearedDb_extendValue, registered]
  constructor
  · intro hback
    rw [hback] at hrows hstates hvalues
    exact ⟨hrows.symm, (congrFun hstates t).trans (Function.update_self ..),
      (congrFun hvalues t).trans (Function.update_self ..)⟩
  · rintro ⟨hrow, hs, hv⟩
    rw [hrow] at hrows
    rw [← hs, Function.update_eq_self] at hstates
    rw [← hv, Function.update_eq_self] at hvalues
    exact Database.ext hrows hstates hvalues

/-- Nothing is kept under the id an install takes; if the id is in the map of tokens although it was free, the way back
rewrites its rows as they were. -/
def NothingKept (w : Service) (env : Env) (info : HapInfoParams) (t : AccessTokenID) : Prop :=
  t ∉ w.requestedPermData ∧
    PermissionDataBrief.deleteExtendedValue t w.extendedValue = w.extendedValue ∧
    (t ∈ w.hapTokenInfoMap → env.transactionOk = true → RowsPutBack w t info)
deriving Decidable

/-- What an install that goes wrong has to find for its way back to lead to where it started. -/
def InstallUndone (T : PermissionTable) (w : Service) (env : Env) (info : HapInfoParams) (policy : HapPolicy) : Prop :=
  checkHapInfoParam T info policy = true →
    ∀ t ∈ (w.registerTokenId env.rand info).toOption.map Prod.fst, NothingKept w env info t

instance (T : PermissionTable) (w : Service) (env : Env) (info : HapInfoParams) (policy : HapPolicy) :
    Decidable (InstallUndone T w env info policy) :=
  have := Option.decidableForallMem (p := NothingKept w env info)
    ((w.registerTokenId env.rand info).toOption.map Prod.fst)
  inferInstanceAs (Decidable (_ → _))

theorem createHapTokenInfo_sameStores_iff (hremove : env.removeOk = true)
    (herror : (createHapTokenInfo T D w env info policy).1 = .error e) :
    SameStores w (createHapTokenInfo T D w env info policy).2 ↔ InstallUndone T w env info policy := by
  unfold InstallUndone NothingKept
  by_cases hcheck : checkHapInfoParam T info policy = true
  case neg =>
    refine iff_of_true ?_ (fun h => absurd h hcheck)
    simp only [createHapTokenInfo, hcheck, Bool.not_false, if_true]
    exact .refl
  rw [imp_iff_right hcheck]
  cases hreg : w.registerTokenId env.rand info with
  | error =>
    refine iff_of_true ?_ (fun t ht => absurd ht (Option.not_mem_none t))
    simp only [createHapTokenInfo, hcheck, Bool.not_true, Bool.false_eq_true, if_false, hreg]
    exact .refl
  | ok =>
    obtain ⟨-, hnew, -⟩ := registerTokenId_eq_ok hreg
    simp only [Except.toOption, Option.map_some, Option.mem_some_iff, forall_eq']
    rcases createHapTokenInfo_registered hcheck hreg hremove with
      ⟨hno, heq⟩ | ⟨hok, hmem, heq⟩ | hdone
    · rw [heq]
      simp [sameStores_givenBack hnew, hno]
    · rw [heq]
      simp only [sameStores_givenBack hnew, withdrawnRows_eq_iff, hmem, hok, true_imp_iff]
    · rw [hdone] at herror
      cases herror

/-! ## Updating -/

/-- What `GetHapTokenInfoInnerFromDb` has to find to leave the stores alone: no row, or one that leads to nothing. -/
def RowsLeadNowhere (w : Service) (id : AccessTokenID) : Prop :=
  ∀ row ∈ w.db.hapTokenInfo[id]?,
    if row.reserved then id ∈ w.tokenIdSet
    else row.restoreHapTokenBasicInfo id = none ∧ id ∉ w.requestedPermData

/-- The lookup of a token that is not in memory leaves the stores alone: it is refused, fails or finds nothing. -/
def LookupUndone (w : Service) (findOk : Bool) (id : AccessTokenID) : Prop :=
  w.getTokenIdStatusLocked id ≠ some .reserved → w.getTokenIdStatusLocked id ≠ some .untrusted →
    findOk = true → RowsLeadNowhere w id

instance (w : Service) (findOk : Bool) (id : AccessTokenID) : Decidable (LookupUndone w findOk id) :=
  have : Decidable (RowsLeadNowhere w id) := Option.decidableForallMem _
  inferInstanceAs (Decidable (_ → _ → _ → _))

theorem addReservedTokenId_eq_self_iff {m : AccessTokenIDManager} (hactive : m.Known id → id ∈ m.tokenIdSet) :
    m.addReservedTokenId id = m ↔ id ∈ m.tokenIdSet := by
  unfold addReservedTokenId
  by_cases hknown : m.Known id
  · rw [if_pos (getTokenIdStatusLocked_isSome.2 hknown)]
    exact iff_of_true rfl (hactive hknown)
  · rw [if_neg (fun h => hknown (getTokenIdStatusLocked_isSome.1 h))]
    refine iff_of_false (fun heq => hknown (.inr (.inl ?_))) (fun h => hknown (.inl h))
    rw [← heq]
    exact Std.ExtTreeSet.mem_insert_self

theorem destroyHap_sameStores_iff : SameStores w (w.destroyHap id) ↔ id ∉ w.requestedPermData := by
  by_cases hmem : id ∈ w.requestedPermData
  · refine iff_of_false (fun h => ?_) (not_not_intro hmem)
    have hdata := h.data
    simp only [destroyHap, PermissionDataBrief.deleteBriefPermDataByTokenId, if_pos hmem] at hdata
    rw [← hdata] at hmem
    simp at hmem
  · refine iff_of_true ?_ hmem
    simp only [destroyHap, PermissionDataBrief.deleteBriefPermDataByTokenId, if_neg hmem]
    exact .refl

section

variable (hnone : w.hapTokenInfoMap[id]? = none)
include hnone

theorem not_sameStores_of_mem (hmem : id ∈ w'.hapTokenInfoMap) : ¬SameStores w w' := by
  intro h
  rw [h.infos, mem_iff_isSome_getElem?, hnone] at hmem
  cases hmem

theorem getHapTokenInfoInnerFromDb_sameStores_iff (hactive : w.Known id → id ∈ w.tokenIdSet) :
    SameStores w (getHapTokenInfoInnerFromDb T w true id).2 ↔ RowsLeadNowhere w id := by
  unfold getHapTokenInfoInnerFromDb RowsLeadNowhere
  cases w.db.hapTokenInfo[id]? with
  | none => exact iff_of_true .refl (fun row hrow => absurd hrow (Option.not_mem_none row))
  | some row =>
    simp only [Option.mem_some_iff, forall_eq']
    by_cases hres : row.reserved = true
    · simp only [hres, if_true]
      rw [← addReservedTokenId_eq_self_iff hactive]
      exact ⟨fun h => h.ids, fun h => ⟨h, rfl, rfl, rfl, rfl, rfl, rfl, rfl⟩⟩
    simp only [hres, Bool.false_eq_true, if_false]
    cases row.restoreHapTokenBasicInfo id with
    | none => simpa using destroyHap_sameStores_iff
    | some =>
      refine iff_of_false (not_sameStores_of_mem hnone ?_) (fun h => Option.some_ne_none _ h.1)
      exact mem_insert_self

theorem getHapTokenInfoInner_sameStores_iff {findOk : Bool} :
    SameStores w (getHapTokenInfoInner T w findOk id).2 ↔ LookupUndone w findOk id := by
  have hdb : (w.Known id → id ∈ w.tokenIdSet) →
      (SameStores w (getHapTokenInfoInnerFromDb T w findOk id).2 ↔ (findOk = true → RowsLeadNowhere w id)) := by
    intro hactive
    cases findOk with
    | false => exact iff_of_true .refl (fun h => absurd h (by decide))
    | true => simpa using getHapTokenInfoInnerFromDb_sameStores_iff hnone hactive
  unfold getHapTokenInfoInner LookupUndone
  rw [hnone]
  cases hstatus : w.getTokenIdStatusLocked id with
  | none => simpa using hdb (fun hk => absurd hk (getTokenIdStatusLocked_eq_none.1 hstatus))
  | some status =>
    cases status with
    | active =>
      refine (hdb (fun _ => ?_)).trans (by simp)
      by_contra hmem
      simp only [getTokenIdStatusLocked, if_neg hmem] at hstatus
      split at hstatus
      · cases hstatus
      · split at hstatus <;> cases hstatus
    | reserved => exact iff_of_true .refl (fun h => absurd rfl h)
    | untrusted => exact iff_of_true .refl (fun _ h => absurd rfl h)

end

/-- The stored entry `o` is what an update makes of the state `n`: the status and flags of `n` where it takes the new
state, of the entry the token has where it keeps the old one; the policy bit is the new one's. -/
def EntryInForce (need : Bool) (stored : List BriefPermData) (n o : BriefPermData) : Prop :=
  o.permCode = n.permCode ∧ o.type = n.type ∧
    o.flag &&& permissionRestrictedByAdmin = n.flag &&& permissionRestrictedByAdmin ∧
    ∀ d ∈ stored.find? (hasCode n.permCode),
      let source := if need && !hasAny d.flag permissionFixedByAdminPolicy || keepsInitializedState d n then n else d
      o.status = source.status ∧
        o.flag &&& ~~~permissionRestrictedByAdmin = source.flag &&& ~~~permissionRestrictedByAdmin

/-- The values kept for the token `t` are those written last under their keys. -/
def ValuesInForce (t : AccessTokenID) (ext : ExtendedValueMap) (written : List (BitVec 64 × String)) : Prop :=
  ∀ key ∈ ext.keys ++ written.map Prod.fst, (key >>> 32).setWidth 32 = t → ext[key]? = written.reverse.lookup key

instance (t : AccessTokenID) (ext : ExtendedValueMap) (written : List (BitVec 64 × String)) :
    Decidable (ValuesInForce t ext written) :=
  List.decidableBAll _ _

/-- The update asks for what is there: the version and the flags of the application, the permissions entry by entry and
the extended values. -/
@[mk_iff] structure NothingToUpdate (T : PermissionTable) (w : Service) (id : AccessTokenID) (inner : HapTokenInfoInner)
    (info : UpdateHapInfoParams) (states : List PermissionStatus) (policy : HapPolicy) : Prop where
  apiVersion : getApiVersion info.apiVersion = inner.apiVersion
  sideload : info.isSideloadApp = inner.isSideloadApp
  system : info.isSystemApp = hasAny inner.tokenAttr systemAppFlag
  atomic : info.isAtomicService = hasAny inner.tokenAttr atomicServiceFlag
  release : info.appProvisionType = "release" → hasAny inner.tokenAttr debugAppFlag = false
  debug : info.appProvisionType = "debug" → hasAny inner.tokenAttr debugAppFlag = true
  known : inner.tokenID ∈ w.requestedPermData
  count : (freshList T (adjustedStates T w id inner states)).length =
    (w.requestedPermData.getD inner.tokenID []).length
  entries : ∀ p ∈ (freshList T (adjustedStates T w id inner states)).zip
      (w.requestedPermData.getD inner.tokenID []),
    EntryInForce (needUpdatePermByProvision info policy (updatedAppAttr info inner.tokenAttr))
      (w.requestedPermData.getD inner.tokenID []) p.1 p.2
  values : ValuesInForce inner.tokenID w.extendedValue
    (PermissionDataBrief.writtenValues T inner.tokenID policy.aclExtendedMap
      (filterInvalidPermissionState T .tokenHap true (adjustedStates T w id inner states)))

instance (need : Bool) (stored : List BriefPermData) (n o : BriefPermData) : Decidable (EntryInForce need stored n o) :=
  have {p : BriefPermData → Prop} [DecidablePred p] : Decidable (∀ d ∈ stored.find? (hasCode n.permCode), p d) :=
    Option.decidableForallMem _
  inferInstanceAs (Decidable (_ ∧ _ ∧ _ ∧ ∀ d ∈ stored.find? (hasCode n.permCode), _ ∧ _))

instance (T : PermissionTable) (w : Service) (id : AccessTokenID) (inner : HapTokenInfoInner)
    (info : UpdateHapInfoParams) (states : List PermissionStatus) (policy : HapPolicy) :
    Decidable (NothingToUpdate T w id inner info states policy) :=
  decidable_of_iff' _ (nothingToUpdate_iff ..)

theorem hasAny_withAttr {i j : Nat} (hj : j < 32) (on : Bool) (x : BitVec 32) :
    hasAny (withAttr on (BitVec.twoPow 32 i) x) (BitVec.twoPow 32 j) =
      if j = i then on else hasAny x (BitVec.twoPow 32 j) := by
  rw [Lib.hasAny_twoPow hj, Lib.hasAny_twoPow hj, withAttr]
  cases on <;> simp [hj] <;> grind

theorem withAttr_hasAny {i : Nat} (hi : i < 32) (x : BitVec 32) :
    withAttr (hasAny x (BitVec.twoPow 32 i)) (BitVec.twoPow 32 i) x = x := by
  cases h : hasAny x (BitVec.twoPow 32 i) with
  | false => exact Lib.clear_of_hasAny_eq_false h
  | true =>
    rw [Lib.hasAny_twoPow hi] at h
    refine BitVec.eq_of_getLsbD_eq fun j hj => ?_
    simp only [withAttr, if_true, BitVec.getLsbD_or, BitVec.getLsbD_twoPow]
    grind

theorem updatedInner_eq_iff {info : UpdateHapInfoParams} : updatedInner inner info = inner ↔
    getApiVersion info.apiVersion = inner.apiVersion ∧ info.isSideloadApp = inner.isSideloadApp ∧
      info.isSystemApp = hasAny inner.tokenAttr systemAppFlag ∧
      info.isAtomicService = hasAny inner.tokenAttr atomicServiceFlag ∧
      (info.appProvisionType = "release" → hasAny inner.tokenAttr debugAppFlag = false) ∧
      (info.appProvisionType = "debug" → hasAny inner.tokenAttr debugAppFlag = true) := by
  have hsys : systemAppFlag = BitVec.twoPow 32 0 := by decide
  have hatomic : atomicServiceFlag = BitVec.twoPow 32 1 := by decide
  have hdebug : debugAppFlag = BitVec.twoPow 32 3 := by decide
  -- the provision type writes the third flag, or leaves it
  have hattr : (updatedInner inner info).tokenAttr =
      (if info.appProvisionType = "release" then withAttr false debugAppFlag
        else if info.appProvisionType = "debug" then withAttr true debugAppFlag else id)
        (updatedAppAttr info inner.tokenAttr) := by
    simp only [updatedInner, beq_iff_eq]
    split
    · rfl
    · split <;> rfl
  have hinner : updatedInner inner info = inner ↔ getApiVersion info.apiVersion = inner.apiVersion ∧
      info.isSideloadApp = inner.isSideloadApp ∧
      (updatedInner inner info).tokenAttr = inner.tokenAttr := by
    obtain ⟨⟨_, _, _, _, _, _, _, _⟩, _, _⟩ := inner
    simp only [updatedInner, HapTokenInfoInner.mk.injEq, HapTokenInfo.mk.injEq, true_and]
    tauto
  rw [hinner, hattr, updatedAppAttr, hsys, hatomic, hdebug]
  refine and_congr_right fun _ => and_congr_right fun _ => ⟨fun heq => ?_, ?_⟩
  · have h0 := congrArg (hasAny · (BitVec.twoPow 32 0)) heq
    have h1 := congrArg (hasAny · (BitVec.twoPow 32 1)) heq
    have h3 := congrArg (hasAny · (BitVec.twoPow 32 3)) heq
    by_cases hrelease : info.appProvisionType = "release"
    · simp [hrelease, hasAny_withAttr] at h0 h1 h3
      simp [hrelease, h0, h1, h3]
    by_cases hdebug : info.appProvisionType = "debug"
    · simp [hdebug, hasAny_withAttr] at h0 h1 h3
      simp [hdebug, h0, h1, h3]
    · simp [hrelease, hdebug, hasAny_withAttr] at h0 h1
      simp [hrelease, hdebug, h0, h1]
  · rintro ⟨h0, h1, h2, h3⟩
    rw [h0, h1, withAttr_hasAny (by decide), withAttr_hasAny (by decide)]
    split
    · rename_i h
      rw [← h2 h, withAttr_hasAny (by decide)]
    · split
      · rename_i h
        rw [← h3 h, withAttr_hasAny (by decide)]
      · rfl

theorem mergeOnUpdate_eq_iff {need : Bool} {stored : List BriefPermData} {n o : BriefPermData} (ho : o ∈ stored) :
    mergeOnUpdate stored need n = o ↔ EntryInForce need stored n o := by
  have hmasks : ∀ a b : Flag, a = b ↔ a &&& permissionRestrictedByAdmin = b &&& permissionRestrictedByAdmin ∧
      a &&& ~~~permissionRestrictedByAdmin = b &&& ~~~permissionRestrictedByAdmin := by
    refine fun a b => ⟨fun h => by rw [h]; exact ⟨rfl, rfl⟩, fun h => BitVec.eq_of_getLsbD_eq fun i hi => ?_⟩
    cases hm : permissionRestrictedByAdmin.getLsbD i with
    | false => exact Lib.clear_eq_iff.1 h.2 i hm
    | true => simpa [hm] using congrArg (BitVec.getLsbD · i) h.1
  by_cases hcode : o.permCode = n.permCode
  case neg =>
    exact iff_of_false (fun h => hcode (h ▸ PermissionDataBrief.mergeOnUpdate_permCode ..)) (fun h => hcode h.1)
  obtain ⟨d, hd⟩ := Option.isSome_iff_exists.1 (List.find?_isSome.2 ⟨o, ho, by simpa [hasCode] using hcode⟩ :
    (stored.find? (hasCode n.permCode)).isSome = true)
  have hmerge : mergeOnUpdate stored need n =
      if need && !hasAny d.flag permissionFixedByAdminPolicy || keepsInitializedState d n then n
      else { n with status := d.status, flag := (d.flag &&& ~~~permissionRestrictedByAdmin) |||
        (n.flag &&& permissionRestrictedByAdmin) } := by
    simp only [mergeOnUpdate, hd, PermissionDataBrief.updatePermStatus]
    cases need && !hasAny d.flag permissionFixedByAdminPolicy <;> cases keepsInitializedState d n <;> rfl
  have heq : ∀ a : BriefPermData, a = o ↔
      o.permCode = a.permCode ∧ o.type = a.type ∧ o.status = a.status ∧ o.flag = a.flag := by
    rintro ⟨_, _, _, _⟩
    obtain ⟨_, _, _, _⟩ := o
    simp only [BriefPermData.mk.injEq]
    grind
  rw [hmerge, EntryInForce, hd, heq]
  simp only [Option.mem_some_iff, forall_eq']
  cases need && !hasAny d.flag permissionFixedByAdminPolicy || keepsInitializedState d n with
  | true =>
    simp only [if_true, hmasks o.flag]
    exact and_congr_right' (and_congr_right' and_left_comm)
  | false =>
    simp only [Bool.false_eq_true, if_false, hmasks o.flag, Lib.merged_and, Lib.merged_clear]
    exact and_congr_right' (and_congr_right' and_left_comm)

theorem map_mergeOnUpdate_eq_iff {need : Bool} {fresh stored : List BriefPermData} :
    fresh.map (mergeOnUpdate stored need) = stored ↔
      fresh.length = stored.length ∧ ∀ p ∈ fresh.zip stored, EntryInForce need stored p.1 p.2 := by
  rw [← List.forall₂_eq_eq_eq, List.forall₂_map_left_iff, List.forall₂_iff_zip]
  refine and_congr_right fun _ => ⟨fun h p hp => ?_, fun h a b hp => ?_⟩
  · exact (mergeOnUpdate_eq_iff (List.of_mem_zip hp).2).1 (h hp)
  · exact (mergeOnUpdate_eq_iff (List.of_mem_zip hp).2).2 (h _ hp)

theorem insertAll_values_eq_iff {ext : ExtendedValueMap} {l : List (BitVec 64 × String)}
    (hl : ∀ e ∈ l, (e.1 >>> 32).setWidth 32 = t) :
    Lib.insertAll (PermissionDataBrief.deleteExtendedValue t ext) l = ext ↔ ValuesInForce t ext l := by
  have hget : ∀ key, (Lib.insertAll (PermissionDataBrief.deleteExtendedValue t ext) l)[key]? =
      (l.reverse.lookup key).or (if (key >>> 32).setWidth 32 = t then none else ext[key]?) := fun key => by
    rw [Lib.getElem?_insertAll_eq, PermissionDataBrief.getElem?_deleteExtendedValue]
  have hlookup : ∀ key, key ∉ l.map Prod.fst → l.reverse.lookup key = none := fun key hkey => by
    rw [List.lookup_eq_none_iff]
    intro e he
    have hne : key ≠ e.1 := by
      rintro rfl
      exact hkey (List.mem_map_of_mem (List.mem_reverse.1 he))
    exact bne_iff_ne.2 hne
  constructor
  · intro heq key _ hkey
    rw [← heq, hget, if_pos hkey, Option.or_none]
  · intro h
    apply ext_getElem?
    intro key
    rw [hget]
    by_cases hkey : (key >>> 32).setWidth 32 = t
    · rw [if_pos hkey, Option.or_none]
      by_cases hmem : key ∈ ext.keys ++ l.map Prod.fst
      · exact (h key hmem hkey).symm
      · rw [List.mem_append, not_or] at hmem
        rw [hlookup key hmem.2, getElem?_eq_none (fun hk => hmem.1 (Std.ExtTreeMap.mem_keys.2 hk))]
    · rw [if_neg hkey, hlookup key ?_, Option.none_or]
      intro hmem
      obtain ⟨e, he, rfl⟩ := List.mem_map.1 hmem
      exact hkey (hl e he)

theorem updateHapInfo_sameStores_iff {info : UpdateHapInfoParams} (hinner : w.hapTokenInfoMap[id]? = some inner) :
    SameStores w (updateHapInfo T w id inner info (adjustedStates T w id inner states) policy) ↔
      NothingToUpdate T w id inner info states policy := by
  have hinfos : w.hapTokenInfoMap.insert id (updatedInner inner info) = w.hapTokenInfoMap ↔
      updatedInner inner info = inner := by
    rw [Lib.insert_eq_self_iff, hinner, Option.some_inj, eq_comm]
  have hdata : (updateHapInfo T w id inner info (adjustedStates T w id inner states) policy).requestedPermData =
      w.requestedPermData ↔ inner.tokenID ∈ w.requestedPermData ∧
        (freshList T (adjustedStates T w id inner states)).map
          (mergeOnUpdate (w.requestedPermData.getD inner.tokenID [])
            (needUpdatePermByProvision info policy (updatedAppAttr info inner.tokenAttr))) =
          w.requestedPermData.getD inner.tokenID [] := by
    refine (Eq.congr_left (PermissionDataBrief.update_eq ..).1).trans ?_
    rw [Lib.insert_eq_self_iff, Std.ExtTreeMap.getD_eq_getD_getElem?, mem_iff_isSome_getElem?]
    cases w.requestedPermData[inner.tokenID]? with
    | none => exact iff_of_false (Option.some_ne_none _).symm fun h => Bool.false_ne_true h.1
    | some l => rw [Option.some_inj, Option.isSome_some, Option.getD_some, and_iff_right rfl, eq_comm]
  have hvalues : (updateHapInfo T w id inner info (adjustedStates T w id inner states) policy).extendedValue =
      w.extendedValue ↔ _ :=
    (Eq.congr_left (PermissionDataBrief.briefDataLoop_snd ..)).trans
      (insertAll_values_eq_iff fun e => PermissionDataBrief.tokenId_of_written _)
  have hstores : SameStores w (updateHapInfo T w id inner info (adjustedStates T w id inner states) policy) ↔ _ ∧ _ ∧
      _ :=
    ⟨fun h => ⟨hinfos.1 h.infos, hdata.1 h.data, hvalues.1 h.values⟩,
      fun h => ⟨rfl, hinfos.2 h.1, rfl, rfl, hdata.2 h.2.1, hvalues.2 h.2.2, rfl, rfl⟩⟩
  rw [hstores, updatedInner_eq_iff, map_mergeOnUpdate_eq_iff, nothingToUpdate_iff]
  simp only [and_assoc]

/-- What an update that fails has to find for its failure to change nothing: the token in memory with the update already
in force, or a lookup that leads nowhere. -/
def UpdateUndone (T : PermissionTable) (w : Service) (env : Env) (id : AccessTokenID) (info : UpdateHapInfoParams)
    (states : List PermissionStatus) (policy : HapPolicy) : Prop :=
  isAppIdDescValid info.appIDDesc = true →
    (w.hapTokenInfoMap[id]? = none → LookupUndone w env.findOk id) ∧
      ∀ inner ∈ w.hapTokenInfoMap[id]?,
        inner.isRemote = true ∨ env.oldStatesOk = false ∨ NothingToUpdate T w id inner info states policy

instance (T : PermissionTable) (w : Service) (env : Env) (id : AccessTokenID) (info : UpdateHapInfoParams)
    (states : List PermissionStatus) (policy : HapPolicy) : Decidable (UpdateUndone T w env id info states policy) :=
  have := Option.decidableForallMem (p := fun inner : HapTokenInfoInner =>
    inner.isRemote = true ∨ env.oldStatesOk = false ∨
      NothingToUpdate T w id inner info states policy) w.hapTokenInfoMap[id]?
  inferInstanceAs (Decidable (_ → _ ∧ _))

/-- Where a failing update of a token that was found ends: right after the lookup, or with the update made in memory. -/
theorem updateHapToken_failed {info : UpdateHapInfoParams} (hvalid : isAppIdDescValid info.appIDDesc = true)
    (hget : getHapTokenInfoInner T w env.findOk id = (some inner, w₁))
    (herror : (updateHapToken T w env id info states policy).1 = .error e) :
    ((inner.isRemote = true ∨ env.oldStatesOk = false) ∧ (updateHapToken T w env id info states policy).2 = w₁) ∨
      (inner.isRemote = false ∧ env.oldStatesOk = true ∧ (updateHapToken T w env id info states policy).2 =
        updateHapInfo T w₁ id inner info (adjustedStates T w₁ id inner states) policy) := by
  unfold updateHapToken at herror ⊢
  simp only [hvalid, Bool.not_true, Bool.false_eq_true, if_false, hget] at herror ⊢
  cases hremote : inner.isRemote with
  | true => exact .inl ⟨.inl rfl, by simp⟩
  | false =>
    cases hold : env.oldStatesOk with
    | false => exact .inl ⟨.inr rfl, by simp⟩
    | true =>
      refine .inr ⟨rfl, rfl, ?_⟩
      simp only [hremote, hold, Bool.not_true, Bool.false_eq_true, if_false] at herror ⊢
      have hadjusted : UserPolicyManager.updatePermissionStatusListForUserPolicy T w₁.policy.records id
          inner.userID states = adjustedStates T w₁ id inner states := rfl
      rw [hadjusted] at herror ⊢
      generalize updateHapInfo T w₁ id inner info (adjustedStates T w₁ id inner states) policy = w₂ at herror ⊢
      rcases addHapTokenInfoToDb_cases T w₂ env.transactionOk ((w₂.hapTokenInfoMap[id]?).getD inner) true with
        ⟨e', heq, -⟩ | ⟨-, heq⟩
      · rw [heq]
      · rw [heq] at herror
        cases herror

theorem updateHapToken_sameStores_iff {info : UpdateHapInfoParams}
    (herror : (updateHapToken T w env id info states policy).1 = .error e) :
    SameStores w (updateHapToken T w env id info states policy).2 ↔ UpdateUndone T w env id info states policy := by
  unfold UpdateUndone
  by_cases hvalid : isAppIdDescValid info.appIDDesc = true
  case neg =>
    refine iff_of_true ?_ (fun h => absurd h hvalid)
    simp only [updateHapToken, hvalid, Bool.not_false, if_true]
    exact .refl
  rw [imp_iff_right hvalid]
  cases hmap : w.hapTokenInfoMap[id]? with
  | none =>
    simp only [true_imp_iff, Option.not_mem_none, false_imp_iff, implies_true, and_true]
    rw [← getHapTokenInfoInner_sameStores_iff hmap]
    cases hget : getHapTokenInfoInner T w env.findOk id with
    | mk found w₁ =>
      cases found with
      | none => simp only [updateHapToken, hvalid, Bool.not_true, Bool.false_eq_true, if_false, hget]
      | some inner =>
        have hsome := getHapTokenInfoInner_some (by rw [hget] : _ = some inner)
        rw [hget] at hsome
        have hloaded : id ∈ w₁.hapTokenInfoMap := mem_iff_isSome_getElem?.2 (by rw [hsome]; rfl)
        rcases updateHapToken_failed hvalid hget herror with ⟨-, heq⟩ | ⟨-, -, heq⟩
        · rw [heq]
        · rw [heq]
          refine iff_of_false (not_sameStores_of_mem hmap ?_) (not_sameStores_of_mem hmap hloaded)
          simp [updateHapInfo]
  | some inner =>
    have hget : getHapTokenInfoInner T w env.findOk id = (some inner, w) := by
      rw [getHapTokenInfoInner, hmap]
    simp only [reduceCtorEq, false_imp_iff, true_and, Option.mem_some_iff, forall_eq']
    rcases updateHapToken_failed hvalid hget herror with ⟨hearly, heq⟩ | ⟨hlocal, hold, heq⟩
    · rw [heq]
      exact iff_of_true .refl (hearly.imp_right .inl)
    · rw [heq, updateHapInfo_sameStores_iff hmap]
      simp [hlocal, hold]

/-- **When a failing install or update leaves everything as it was**: an install exactly when nothing was kept under the
id it took, an update exactly when it asked for what was there. -/
theorem failing_call_leaves_stores_iff (T : PermissionTable) (D : DlpPermissionModeMap) (w : Service) (env : Env) :
    (∀ info policy e, env.removeOk = true → (createHapTokenInfo T D w env info policy).1 = .error e →
      (SameStores w (createHapTokenInfo T D w env info policy).2 ↔ InstallUndone T w env info policy)) ∧
    (∀ id info states policy e, (updateHapToken T w env id info states policy).1 = .error e →
      (SameStores w (updateHapToken T w env id info states policy).2 ↔ UpdateUndone T w env id info states policy)) :=
  ⟨fun _ _ _ hremove herror => createHapTokenInfo_sameStores_iff hremove herror,
    fun _ _ _ _ _ herror => updateHapToken_sameStores_iff herror⟩

def oneToken : Service :=
  (createHapTokenInfo sampleTable ∅ empty .ok sampleParams asksCamera).2

def noTransaction : Env := { Env.ok with transactionOk := false }

/-- An update to another version of the interface alone is enough to leave a trace. -/
theorem failing_calls_leave_one_token :
    SameStores oneToken (createHapTokenInfo sampleTable ∅ oneToken noTransaction { sampleParams with instIndex := 1 }
      samplePolicy).2 ∧
    SameStores oneToken (updateHapToken sampleTable oneToken noTransaction PermissionDataBrief.sampleHap
      ⟨"id", 20, false, false, "release", false⟩ [deniedCamera] samplePolicy).2 ∧
    ¬SameStores oneToken (updateHapToken sampleTable oneToken noTransaction PermissionDataBrief.sampleHap
      ⟨"id", 21, false, false, "release", false⟩ [deniedCamera] samplePolicy).2 :=
  ⟨((failing_call_leaves_stores_iff sampleTable ∅ oneToken noTransaction).1 _ _ .errDatabaseOperateFailed rfl
      (by decide +kernel)).2 (by decide +kernel),
    ((failing_call_leaves_stores_iff sampleTable ∅ oneToken noTransaction).2 _ _ _ _ .errDatabaseOperateFailed
      (by decide +kernel)).2 (by decide +kernel),
    fun h => absurd (((failing_call_leaves_stores_iff sampleTable ∅ oneToken noTransaction).2 _ _ _ _
      .errDatabaseOperateFailed (by decide +kernel)).1 h) (by decide +kernel)⟩

/-- The update reports the failing transaction and leaves the new permission, granted, in memory. -/
theorem failed_update_changes_memory :
    let update := updateHapToken sampleTable oneToken noTransaction PermissionDataBrief.sampleHap
      ⟨"id", 20, true, false, "release", false⟩
      [⟨"ohos.permission.LOCATION", permissionGranted, permissionSystemFixed⟩] samplePolicy
    update.1 = .error .errDatabaseOperateFailed ∧
    oneToken.verifyPermissionStatus PermissionDataBrief.sampleHap 1 = permissionDenied ∧
    update.2.verifyPermissionStatus PermissionDataBrief.sampleHap 1 = permissionGranted ∧
    ¬SameStores oneToken update.2 := by
  refine ⟨by decide +kernel, by decide +kernel, by decide +kernel, fun h => ?_⟩
  exact absurd h.data (by decide +kernel)

end Service
end AccessToken
