import AccessToken.Service.HapCache
import AccessToken.Service.TokenInfoLemmas
import AccessToken.Lib.TwoWay
/-!
# The identity index of the HAP tokens

`hapTokenIdMap_` finds a local token by user, bundle and instance.  The two maps are written one after the other by
twelve operations; the index stays the inverse of the ownership of identities as long as no operation gives an identity
away whose owner it leaves behind (`KeepsIndex`).
-/
namespace AccessToken

open Function (update_apply update_eq_self)
open Std.ExtTreeMap (getElem?_eq_none)
open Lib (Reaches Always AllMeet Inverse getElem?_erase getElem?_insert)

/-! ## The key -/

namespace Service

def ownedKey (info : HapTokenInfoInner) : Option String := if info.isRemote then none else some info.getHapUniqueStr

def ownerKey (w : Service) (id : AccessTokenID) : Option String := (w.hapTokenInfoMap[id]?).bind ownedKey

def indexOf (w : Service) (key : String) : Option AccessTokenID := w.hapTokenIdMap[key]?

/-- **The index and the local tokens are inverse to each other.** -/
def Indexed (w : Service) : Prop := Inverse w.indexOf w.ownerKey

/-! ## The operations -/

inductive IndexOp where
  | createHapTokenInfo (env : Env) (info : HapInfoParams) (policy : HapPolicy)
  | removeHapTokenInfo (env : Env) (id : AccessTokenID) (isTokenReserved : Bool)
  | updateHapToken (env : Env) (tokenID : AccessTokenID) (info : UpdateHapInfoParams)
      (permStateList : List PermissionStatus) (hapPolicy : HapPolicy)
  | createRemoteHapTokenInfo (env : Env) (mapID : AccessTokenID) (hapSync : HapTokenInfoForSync)
  | updateRemoteHapTokenInfo (env : Env) (mapID : AccessTokenID) (hapSync : HapTokenInfoForSync)
  | setRemoteHapTokenInfo (env : Env) (deviceID : String) (hapSync : HapTokenInfoForSync)
  | deleteRemoteToken (deviceID : String) (tokenID : AccessTokenID)
  | restoreHapCache (tokenRestoreDataList : List HapTokenRestoreData)
  | commitCreateHapCache (hapInfo : HapTokenInfo) (briefPermData : List BriefPermData)
      (aclExtendedList : List PermissionWithValue)
  | commitUpdateHapCache (hapInfo : HapTokenInfo) (briefPermData : List BriefPermData)
      (aclExtendedList : List PermissionWithValue)
  | commitDeleteHapCache (tokenID : AccessTokenID)
  | getHapTokenInfoInner (env : Env) (id : AccessTokenID)

def indexStep (T : PermissionTable) (D : DlpPermissionModeMap) (w : Service) : IndexOp → Service
  | .createHapTokenInfo env info policy => (createHapTokenInfo T D w env info policy).2
  | .removeHapTokenInfo env id reserved => (w.removeHapTokenInfo env.removeOk false id reserved).2
  | .updateHapToken env id info states policy => (updateHapToken T w env id info states policy).2
  | .createRemoteHapTokenInfo env mapID hapSync => (createRemoteHapTokenInfo T w env.removeOk mapID hapSync).2
  | .updateRemoteHapTokenInfo env mapID hapSync => (updateRemoteHapTokenInfo T w env.findOk mapID hapSync).2
  | .setRemoteHapTokenInfo env deviceID hapSync => (setRemoteHapTokenInfo T w env deviceID hapSync).2
  | .deleteRemoteToken deviceID tokenID => (w.deleteRemoteToken deviceID tokenID).2
  | .restoreHapCache list => restoreHapCache T w list
  | .commitCreateHapCache hapInfo data acl => commitCreateHapCache T w hapInfo data acl
  | .commitUpdateHapCache hapInfo data acl => commitUpdateHapCache T w hapInfo data acl
  | .commitDeleteHapCache tokenID => w.commitDeleteHapCache tokenID
  | .getHapTokenInfoInner env id => (getHapTokenInfoInner T w env.findOk id).2

/-! ## The condition on a step -/

/-- The key is free or the token's own, and the token owns no other. -/
def CanPut (w : Service) (id : AccessTokenID) (key : String) : Prop :=
  (w.indexOf key = none ∨ w.indexOf key = some id) ∧ (w.ownerKey id = none ∨ w.ownerKey id = some key)
deriving Decidable

/-- A token that is only in the database has an identity no token in memory owns. -/
def CanLoad (w : Service) (id : AccessTokenID) : Prop :=
  ∀ row ∈ w.db.hapTokenInfo[id]?, id ∈ w.hapTokenInfoMap ∨ row.reserved = true ∨
    w.indexOf (getHapUniqueStr row.userID row.bundleName row.instIndex) = none
deriving Decidable

/-- **The condition on a step**: an owner that loses its identity can be removed, and nothing else overwrites the entry
of another token or leaves its own entry behind. -/
def KeepsIndex (T : PermissionTable) (w : Service) : IndexOp → Prop
  | .createHapTokenInfo _ info _ =>
    ∀ o ∈ w.indexOf (getHapUniqueStr info.userID info.bundleName info.instIndex),
      o ≠ invalidTokenId ∧ w.getTokenIdType o = .tokenHap
  | .updateHapToken _ id _ _ _ => w.CanLoad id
  | .updateRemoteHapTokenInfo _ mapID _ => w.CanLoad mapID
  | .setRemoteHapTokenInfo _ deviceID hapSync => w.CanLoad (w.getDeviceMappingTokenID deviceID hapSync.tokenID)
  | .getHapTokenInfoInner _ id => w.CanLoad id
  | .deleteRemoteToken deviceID tokenID => w.ownerKey (w.getDeviceMappingTokenID deviceID tokenID) = none
  | .restoreHapCache list =>
    AllMeet (restoreHapCacheItem T)
      (fun w item => w.CanPut item.hapTokenInfoItem.tokenId
        (HapTokenInfoInner.ofItem item.hapTokenInfoItem).getHapUniqueStr)
      w list
  | .commitCreateHapCache hapInfo _ _ =>
    w.CanPut hapInfo.tokenID (getHapUniqueStr hapInfo.userID hapInfo.bundleName hapInfo.instIndex)
  | .commitUpdateHapCache hapInfo _ _ =>
    w.ownerKey hapInfo.tokenID = none ∨
      w.indexOf (getHapUniqueStr hapInfo.userID hapInfo.bundleName hapInfo.instIndex) = none ∨
      w.indexOf (getHapUniqueStr hapInfo.userID hapInfo.bundleName hapInfo.instIndex) = some hapInfo.tokenID
  | .removeHapTokenInfo _ _ _ => True
  | .createRemoteHapTokenInfo _ _ _ => True
  | .commitDeleteHapCache _ => True

instance (T : PermissionTable) (w : Service) : ∀ op, Decidable (KeepsIndex T w op) := fun op => by
  cases op with
  | createHapTokenInfo _ info =>
    exact Option.decidableForallMem (w.indexOf (getHapUniqueStr info.userID info.bundleName info.instIndex))
  | _ => unfold KeepsIndex; infer_instance

/-! ## Map writes as updates -/

variable {T : PermissionTable} {D : DlpPermissionModeMap} {w w' : Service} {id j : AccessTokenID}
    {info : HapTokenInfoInner} {key deviceID : String} {env : Env} {policy : HapPolicy} {hapSync : HapTokenInfoForSync}

theorem indexOf_insert (h : w'.hapTokenIdMap = w.hapTokenIdMap.insert key id) :
    w'.indexOf = Function.update w.indexOf key (some id) := by
  funext k
  rw [indexOf, h, getElem?_insert, update_apply, indexOf]

theorem indexOf_erase (h : w'.hapTokenIdMap = w.hapTokenIdMap.erase key) :
    w'.indexOf = Function.update w.indexOf key none := by
  funext k
  rw [indexOf, h, getElem?_erase, update_apply, indexOf]

theorem ownerKey_insert (h : w'.hapTokenInfoMap = w.hapTokenInfoMap.insert id info) :
    w'.ownerKey = Function.update w.ownerKey id (ownedKey info) := by
  funext i
  rw [ownerKey, h, getElem?_insert, update_apply]
  split <;> rfl

theorem ownerKey_erase (h : w'.hapTokenInfoMap = w.hapTokenInfoMap.erase id) :
    w'.ownerKey = Function.update w.ownerKey id none := by
  funext i
  rw [ownerKey, h, getElem?_erase, update_apply]
  split <;> rfl

theorem ownerKey_eq_some :
    w.ownerKey id = some key ↔ ∃ info : HapTokenInfoInner, w.hapTokenInfoMap[id]? = some info ∧ info.isRemote = false ∧
      info.getHapUniqueStr = key := by
  rw [ownerKey, Option.bind_eq_some_iff]
  refine exists_congr fun info => and_congr_right fun _ => ?_
  cases hrem : info.isRemote <;> simp [ownedKey, hrem]

theorem ownerKey_of_local (h : w.hapTokenInfoMap[id]? = some info) (hrem : info.isRemote = false) :
    w.ownerKey id = some info.getHapUniqueStr :=
  ownerKey_eq_some.2 ⟨info, h, hrem, rfl⟩

theorem ownerKey_of_remote (h : w.hapTokenInfoMap[id]? = some info) (hrem : info.isRemote = true) :
    w.ownerKey id = none := by
  simp [ownerKey, h, ownedKey, hrem]

theorem ownerKey_of_not_mem (h : w.hapTokenInfoMap[id]? = none) : w.ownerKey id = none := by
  simp [ownerKey, h]

section

variable (h : w.Indexed)
include h

theorem Indexed.of_owner (hid : w'.hapTokenIdMap = w.hapTokenIdMap) (hown : w'.ownerKey = w.ownerKey) :
    w'.Indexed := by
  have hindex : w'.indexOf = w.indexOf := by funext k; rw [indexOf, hid]; rfl
  rw [Indexed, hown, hindex]
  exact h

theorem Indexed.of_maps (hinfo : w'.hapTokenInfoMap = w.hapTokenInfoMap)
    (hid : w'.hapTokenIdMap = w.hapTokenIdMap) : w'.Indexed :=
  h.of_owner hid (by funext i; rw [ownerKey, hinfo]; rfl)

theorem Indexed.put (hlocal : info.isRemote = false) (hput : w.CanPut id info.getHapUniqueStr)
    (hinfo : w'.hapTokenInfoMap = w.hapTokenInfoMap.insert id info)
    (hid : w'.hapTokenIdMap = w.hapTokenIdMap.insert info.getHapUniqueStr id) : w'.Indexed := by
  rw [Indexed, indexOf_insert hid, ownerKey_insert hinfo, ownedKey, hlocal, if_neg Bool.false_ne_true]
  exact Inverse.bind h hput.1 hput.2

/-! ## One step -/

/-- **A local token gone from both maps.** -/
theorem Indexed.unlist (hget : w.hapTokenInfoMap[id]? = some info) (hlocal : info.isRemote = false)
    (hinfo : w'.hapTokenInfoMap = w.hapTokenInfoMap.erase id)
    (hid : w'.hapTokenIdMap = (w.eraseOwnKey info.getHapUniqueStr id).hapTokenIdMap) : w'.Indexed := by
  have hown := ownerKey_of_local hget hlocal
  have hidx : w.hapTokenIdMap[info.getHapUniqueStr]? = some id := (h _ _).2 hown
  have herased : w'.hapTokenIdMap = w.hapTokenIdMap.erase info.getHapUniqueStr := hid.trans (if_pos hidx)
  rw [Indexed, indexOf_erase herased, ownerKey_erase hinfo]
  exact Inverse.release h hown

theorem Indexed.load (findOk : Bool) (hload : w.CanLoad id) :
    (getHapTokenInfoInner T w findOk id).2.Indexed := by
  rcases getHapTokenInfoInner_cases T w findOk id with ⟨info, -, heq⟩ | ⟨-, m, b, -, -, heq⟩ |
    ⟨hnone, -, row, hap, hrow, hres, hhap, heq⟩
  · rw [heq]; exact h
  · rw [heq]; exact h.of_maps rfl rfl
  rw [heq]
  obtain ⟨-, hlocal, huser, hbundle, hinst⟩ := restoreHapTokenBasicInfo_spec hhap
  have hfree : w.indexOf hap.getHapUniqueStr = none := by
    have hnot : id ∉ w.hapTokenInfoMap := by
      rw [Std.ExtTreeMap.mem_iff_isSome_getElem?, hnone]; simp
    rcases hload row hrow with hmem | hres' | hfree
    · exact absurd hmem hnot
    · rw [hres] at hres'; cases hres'
    · rwa [← huser, ← hbundle, ← hinst] at hfree
  exact h.put hlocal ⟨.inl hfree, .inl (ownerKey_of_not_mem hnone)⟩ rfl rfl

end

theorem getTokenIdType_addToSet {m : AccessTokenIDManager} {t o : AccessTokenID}
    (h : m.getTokenIdType o = .tokenHap) : (m.addToSet t .active).getTokenIdType o = .tokenHap := by
  unfold AccessTokenIDManager.getTokenIdType at h ⊢
  split at h
  · rename_i hmem
    rw [if_pos (by simp [AccessTokenIDManager.addToSet, hmem])]
    exact h
  · cases h

/-- **The new token is indexed and the owner its key had is gone**, if that owner was a registered HAP token. -/
theorem Indexed.displaced (h : w.Indexed) {removeOk : Bool} (info : HapTokenInfoInner)
    (hnew : info.tokenID ∉ w.hapTokenInfoMap) (hlocal : info.isRemote = false)
    (hold : ∀ o ∈ w.indexOf info.getHapUniqueStr, o ≠ invalidTokenId ∧ w.getTokenIdType o = .tokenHap)
    (hd : Displaced w removeOk info w') : w'.Indexed := by
  have hfresh : w.ownerKey info.tokenID = none :=
    ownerKey_of_not_mem (getElem?_eq_none hnew)
  have hne : ∀ o, w.indexOf info.getHapUniqueStr = some o → o ≠ info.tokenID := by
    rintro o ho rfl
    rw [(h _ _).1 ho] at hfresh
    cases hfresh
  have hinfo : (w.placed info).hapTokenInfoMap = w.hapTokenInfoMap.insert info.tokenID info := rfl
  have hid : (w.placed info).hapTokenIdMap =
      w.hapTokenIdMap.insert info.getHapUniqueStr info.tokenID := by
    simp [placed, hlocal]
  cases hd with
  | keyFree hfree =>
    have hidx : w.indexOf info.getHapUniqueStr = none := by
      rcases hfree with hrem | hfree
      · rw [hlocal] at hrem; cases hrem
      cases hkey : w.indexOf info.getHapUniqueStr with
      | none => rfl
      | some o =>
        rw [Std.ExtTreeMap.getD_eq_getD_getElem?] at hfree
        rw [indexOf] at hkey
        rw [hkey] at hfree
        exact absurd hfree (hold o hkey).1
    exact h.put hlocal ⟨.inl hidx, .inl hfresh⟩ hinfo hid
  | kept o hkey hwhy =>
    obtain ⟨-, htype⟩ := hold o hkey
    obtain ⟨old, hget, hkeyOld⟩ := Option.bind_eq_some_iff.1 ((h _ _).1 hkey)
    rcases hwhy with hwhy | hwhy
    · exact absurd htype hwhy
    have hrem := hwhy old (by rwa [hinfo, Lib.getElem?_insert_of_ne (hne o hkey)])
    simp [ownedKey, hrem] at hkeyOld
  | removed o old _ hkey hget hr _ =>
    have hget' : w.hapTokenInfoMap[o]? = some old := by
      rwa [hinfo, Lib.getElem?_insert_of_ne (hne o hkey)] at hget
    have hkeyOld := (h _ _).1 hkey
    rw [ownerKey, hget', Option.bind_some, ownedKey] at hkeyOld
    split at hkeyOld
    · cases hkeyOld
    -- the entry of the key is the new token's by now, so the removal leaves it
    have hid' := hr.idMap
    rw [Option.some.inj hkeyOld, if_neg, hid] at hid'
    · rw [Indexed, indexOf_insert hid', ownerKey_erase hr.infoMap, ownerKey_insert hinfo, ownedKey, hlocal,
        if_neg Bool.false_ne_true, Function.update_comm (hne o hkey).symm]
      exact Inverse.takeOver h hkey hfresh
    · rw [hid, Std.ExtTreeMap.getElem?_insert_self]
      exact fun heq => hne o hkey (Option.some.inj heq).symm

theorem Indexed.create (h : w.Indexed) {info : HapInfoParams}
    (hold : KeepsIndex T w (.createHapTokenInfo env info policy)) :
    (createHapTokenInfo T D w env info policy).2.Indexed := by
  rcases createHapTokenInfo_cases T D w env info policy with ⟨e, heq⟩ | ⟨t, -, -, ⟨e, db, -, heq⟩ |
    ⟨db, w₁, r, m, hnew, -, hd, -, heq⟩⟩
  · rw [heq]; exact h
  · rw [heq]; exact h.of_maps rfl rfl
  rw [heq]
  have hreg : (registered T D w t info policy db).Indexed := h.of_maps rfl rfl
  have hd' := hreg.displaced (.ofParams t info) hnew rfl
    (fun o ho => ⟨(hold o ho).1, getTokenIdType_addToSet (hold o ho).2⟩) hd
  split <;> exact hd'.of_maps rfl rfl

theorem Indexed.updateHapToken (h : w.Indexed) {info : UpdateHapInfoParams}
    {states : List PermissionStatus} (hload : w.CanLoad id) :
    (updateHapToken T w env id info states policy).2.Indexed := by
  have h₁ := h.load (T := T) env.findOk hload
  rcases updateHapToken_cases T w env id info states policy with ⟨e, heq⟩ | ⟨e, heq⟩ |
    ⟨inner, -, hget, -, _, rfl, hrest⟩
  · rw [heq]; exact h
  · rw [heq]; exact h₁
  generalize (getHapTokenInfoInner T w env.findOk id).2 = w₁ at hget hrest h₁ ⊢
  -- only the attributes of the token change, so it owns the key it owned
  have hsame : (updateHapInfo T w₁ id inner info (adjustedStates T w₁ id inner states) policy).Indexed := by
    refine h₁.of_owner rfl ?_
    have hown : ownedKey (updatedInner inner info) = w₁.ownerKey id := by rw [ownerKey, hget]; rfl
    rw [ownerKey_insert rfl, hown, update_eq_self]
  rcases hrest with ⟨e, -, heq⟩ | ⟨db, -, heq⟩
  · rw [heq]; exact hsame
  · rw [heq]; exact hsame.of_maps rfl rfl

theorem Indexed.putRemote (h : w.Indexed) (info : HapTokenInfoInner) (hrem : info.isRemote = true)
    (hown : w.ownerKey id = none) (hinfo : w'.hapTokenInfoMap = w.hapTokenInfoMap.insert id info)
    (hid : w'.hapTokenIdMap = w.hapTokenIdMap) : w'.Indexed := by
  refine h.of_owner hid ?_
  have hkey : ownedKey info = w.ownerKey id := by rw [hown, ownedKey, if_pos hrem]
  rw [ownerKey_insert hinfo, hkey, update_eq_self]

theorem Indexed.createRemote (h : w.Indexed) (removeOk : Bool) (mapID : AccessTokenID) (hapSync : HapTokenInfoForSync) :
    (createRemoteHapTokenInfo T w removeOk mapID hapSync).2.Indexed := by
  unfold createRemoteHapTokenInfo
  simp only
  generalize hw₀ : { w with brief := w.brief.addPermToBriefPermission T mapID hapSync.permStateList ∅ false } = w₀
  have h₀ : w₀.Indexed := by rw [← hw₀]; exact h.of_maps rfl rfl
  rcases addHapTokenInfo_cases w₀ removeOk ⟨hapSync.baseInfo, true, false⟩ with ⟨-, heq⟩ | ⟨hnew, w₁, hd, heq⟩
  · rw [heq]; exact h₀.of_maps rfl rfl
  rw [heq]
  have hplaced : (w₀.placed ⟨hapSync.baseInfo, true, false⟩).Indexed :=
    h₀.putRemote ⟨hapSync.baseInfo, true, false⟩ rfl (ownerKey_of_not_mem (getElem?_eq_none hnew)) rfl rfl
  cases hd with
  | keyFree => exact hplaced.of_maps rfl rfl
  | kept => exact hplaced.of_maps rfl rfl
  | removed o old hlocal => cases hlocal

theorem Indexed.updateRemote (h : w.Indexed) {findOk : Bool} {mapID : AccessTokenID}
    (hload : w.CanLoad mapID) : (updateRemoteHapTokenInfo T w findOk mapID hapSync).2.Indexed := by
  have h₁ := h.load (T := T) findOk hload
  have hsome := @getHapTokenInfoInner_some T w findOk mapID
  unfold updateRemoteHapTokenInfo
  generalize getHapTokenInfoInner T w findOk mapID = r at h₁ hsome ⊢
  obtain ⟨found, w₁⟩ := r
  cases found with
  | none => exact h₁
  | some info =>
    simp only
    by_cases hrem : info.isRemote = true
    · rw [if_neg (by simp [hrem])]
      have hlive : w₁.hapTokenInfoMap[mapID]? = some info := hsome rfl
      exact Indexed.putRemote h₁ { info with tokenInfoBasic := hapSync.baseInfo } hrem (ownerKey_of_remote hlive hrem)
        rfl rfl
    · rw [if_pos (by simpa using hrem)]
      exact h₁

theorem mapRemoteDeviceTokenToLocal_maps (rand : Nat → BitVec 32) (deviceID : String) (remoteID : AccessTokenID) :
    (w.mapRemoteDeviceTokenToLocal rand deviceID remoteID).2.hapTokenInfoMap = w.hapTokenInfoMap ∧
      (w.mapRemoteDeviceTokenToLocal rand deviceID remoteID).2.hapTokenIdMap = w.hapTokenIdMap := by
  unfold mapRemoteDeviceTokenToLocal
  split
  · exact ⟨rfl, rfl⟩
  simp only
  split
  · exact ⟨rfl, rfl⟩
  split
  · exact ⟨rfl, rfl⟩
  split <;> exact ⟨rfl, rfl⟩

theorem removeDeviceMappingTokenID_maps (deviceID : String) (remoteID : AccessTokenID) :
    (w.removeDeviceMappingTokenID deviceID remoteID).2.hapTokenInfoMap = w.hapTokenInfoMap ∧
      (w.removeDeviceMappingTokenID deviceID remoteID).2.hapTokenIdMap = w.hapTokenIdMap := by
  unfold removeDeviceMappingTokenID
  split
  · exact ⟨rfl, rfl⟩
  split
  · exact ⟨rfl, rfl⟩
  split <;> exact ⟨rfl, rfl⟩

theorem Indexed.setRemote (h : w.Indexed)
    (hload : w.CanLoad (w.getDeviceMappingTokenID deviceID hapSync.tokenID)) :
    (setRemoteHapTokenInfo T w env deviceID hapSync).2.Indexed := by
  unfold setRemoteHapTokenInfo setRemoteHapTokenInfoBy
  split
  · exact h
  simp only
  split
  · exact h.updateRemote hload
  obtain ⟨hinfo, hid⟩ := mapRemoteDeviceTokenToLocal_maps env.rand deviceID hapSync.tokenID
  generalize w.mapRemoteDeviceTokenToLocal env.rand deviceID hapSync.tokenID = r at hinfo hid ⊢
  obtain ⟨mapID, w₁⟩ := r
  have h₁ : w₁.Indexed := h.of_maps hinfo hid
  split
  · exact h₁
  have h₂ := h₁.createRemote (T := T) env.removeOk mapID
    { hapSync with baseInfo := { hapSync.baseInfo with tokenID := mapID } }
  split
  · rename_i e w₂ heq
    rw [heq] at h₂
    obtain ⟨hinfo', hid'⟩ := removeDeviceMappingTokenID_maps deviceID mapID
    exact h₂.of_maps hinfo' hid'
  · rename_i w₂ heq
    rw [heq] at h₂
    exact h₂

theorem Indexed.deleteRemote (h : w.Indexed) {tokenID : AccessTokenID}
    (hown : w.ownerKey (w.getDeviceMappingTokenID deviceID tokenID) = none) :
    (w.deleteRemoteToken deviceID tokenID).2.Indexed := by
  unfold deleteRemoteToken
  split
  · exact h
  simp only
  split
  · exact h
  have hmapping : ∀ w' : Service, w'.Indexed → (w'.removeDeviceMappingTokenID deviceID tokenID).2.Indexed := by
    intro w' h'
    obtain ⟨hinfo, hid⟩ := removeDeviceMappingTokenID_maps deviceID tokenID
    exact h'.of_maps hinfo hid
  split
  · split
    · exact h
    · refine hmapping _ (h.of_owner rfl ?_)
      refine (ownerKey_erase rfl).trans ?_
      rw [← hown, update_eq_self]
  · split
    · exact hmapping _ (h.of_maps rfl rfl)
    · exact h
  · split
    · exact hmapping _ (h.of_maps rfl rfl)
    · exact h
  · exact hmapping _ h

theorem replaceInfo_maps (id : AccessTokenID) (info : HapTokenInfoInner) :
    (w.replaceInfo id info).hapTokenInfoMap = w.hapTokenInfoMap.insert id info ∧
      (w.replaceInfo id info).hapTokenIdMap = w.hapTokenIdMap := by
  unfold replaceInfo
  split <;> exact ⟨rfl, rfl⟩

theorem Indexed.putHapCache (h : w.Indexed) (data : List BriefPermData) (acl : List PermissionWithValue)
    (hlocal : info.isRemote = false) (hput : w.CanPut id info.getHapUniqueStr) :
    (putHapCache T w id info data acl).Indexed := by
  obtain ⟨hinfo, hid⟩ := replaceInfo_maps id info
  exact h.put hlocal hput hinfo (congrArg (·.insert info.getHapUniqueStr id) hid)

theorem Indexed.restoreHapCache : ∀ (list : List HapTokenRestoreData) (w : Service), w.Indexed →
    KeepsIndex T w (.restoreHapCache list) → (restoreHapCache T w list).Indexed
  | [], _, h, _ => h
  | item :: list, _, h, hk =>
    Indexed.restoreHapCache list _ (h.putHapCache item.requestedPermData item.extendedPermList rfl hk.1) hk.2

/-- **A token that changes its identity in place**: its old entry is erased first, so the new key only has to be free or
its own. -/
theorem Indexed.rename (h : w.Indexed) {old : HapTokenInfoInner}
    (hget : w.hapTokenInfoMap[id]? = some old) (hlocal : old.isRemote = false) (hlocal' : info.isRemote = false)
    (hkey : w.indexOf info.getHapUniqueStr = none ∨ w.indexOf info.getHapUniqueStr = some id)
    (hinfo : w'.hapTokenInfoMap = w.hapTokenInfoMap.insert id info)
    (hid : w'.hapTokenIdMap = (w.eraseOwnKey old.getHapUniqueStr id).hapTokenIdMap.insert info.getHapUniqueStr id) :
    w'.Indexed := by
  have hown := ownerKey_of_local hget hlocal
  have hidx : w.hapTokenIdMap[old.getHapUniqueStr]? = some id := (h _ _).2 hown
  have herased : (w.eraseOwnKey old.getHapUniqueStr id).indexOf = Function.update w.indexOf old.getHapUniqueStr none :=
    indexOf_erase (if_pos hidx)
  have hfree : Function.update w.indexOf old.getHapUniqueStr none info.getHapUniqueStr = none := by
    rw [update_apply]
    split
    · rfl
    rename_i hne
    rcases hkey with hkey | hkey
    · exact hkey
    · rw [(h _ _).1 hkey] at hown
      exact absurd (Option.some.inj hown) hne
  have hbound := (Inverse.release h hown).bind (.inl hfree) (.inl (Function.update_self id none w.ownerKey))
  rw [Function.update_idem] at hbound
  rw [Indexed, indexOf_insert hid, herased, ownerKey_insert hinfo, ownedKey, hlocal', if_neg Bool.false_ne_true]
  exact hbound

theorem Indexed.commitUpdate (h : w.Indexed) {hapInfo : HapTokenInfo} {data : List BriefPermData}
    {acl : List PermissionWithValue} (hk : KeepsIndex T w (.commitUpdateHapCache hapInfo data acl)) :
    (commitUpdateHapCache T w hapInfo data acl).Indexed := by
  unfold commitUpdateHapCache
  simp only
  split
  · exact h
  rename_i old hget
  obtain ⟨basic, remote, sideload⟩ := old
  cases remote with
  | true => exact h.putRemote ⟨hapInfo, true, sideload⟩ rfl (ownerKey_of_remote hget rfl) rfl rfl
  | false =>
    refine h.rename hget rfl rfl ?_ rfl rfl
    rcases hk with hk | hk
    · rw [ownerKey_of_local hget rfl] at hk; cases hk
    · exact hk

theorem Indexed.commitDelete (h : w.Indexed) (id : AccessTokenID) : (w.commitDeleteHapCache id).Indexed := by
  unfold commitDeleteHapCache
  cases hget : w.hapTokenInfoMap[id]? with
  | none =>
    refine h.of_owner rfl ((ownerKey_erase rfl).trans ?_)
    rw [← ownerKey_of_not_mem hget, update_eq_self]
  | some old =>
    obtain ⟨basic, remote, sideload⟩ := old
    cases remote with
    | true =>
      refine h.of_owner rfl ((ownerKey_erase (w := w) rfl).trans ?_)
      rw [← ownerKey_of_remote hget rfl, update_eq_self]
    | false => exact h.unlist hget rfl rfl rfl

theorem Indexed.step (h : w.Indexed) (op : IndexOp) (hk : KeepsIndex T w op) : (indexStep T D w op).Indexed := by
  cases op with
  | createHapTokenInfo => exact h.create hk
  | removeHapTokenInfo env id reserved =>
    rcases removeHapTokenInfo_cases w env.removeOk false id reserved with ⟨-, e, heq⟩ |
      ⟨info, w', hget, hlocal, heq, hr⟩
    · simp only [indexStep, heq]; exact h
    · simp only [indexStep, heq]; exact h.unlist hget hlocal hr.infoMap hr.idMap
  | updateHapToken => exact h.updateHapToken hk
  | createRemoteHapTokenInfo => exact h.createRemote _ _ _
  | updateRemoteHapTokenInfo => exact h.updateRemote hk
  | setRemoteHapTokenInfo => exact h.setRemote hk
  | deleteRemoteToken => exact h.deleteRemote hk
  | restoreHapCache list => exact Indexed.restoreHapCache list w h hk
  | commitCreateHapCache hapInfo data acl =>
    have h₀ : ({ w with brief := w.brief.addPermToBriefPermission T hapInfo.tokenID [] ∅ true } : Service).Indexed :=
      h.of_maps rfl rfl
    exact h₀.putHapCache data acl rfl hk
  | commitUpdateHapCache => exact h.commitUpdate hk
  | commitDeleteHapCache id => exact h.commitDelete id
  | getHapTokenInfoInner => exact h.load _ hk

/-! ## Whole runs -/

theorem indexed_empty : empty.Indexed := by
  intro key id
  simp [indexOf, ownerKey, empty]

def IndexOp.deletes (w : Service) : IndexOp → Option AccessTokenID
  | .removeHapTokenInfo _ id _ => some id
  | .commitDeleteHapCache id => some id
  | .deleteRemoteToken deviceID tokenID => some (w.getDeviceMappingTokenID deviceID tokenID)
  | _ => none

theorem getElem?_erase_of_ne (hne : j ≠ id) (h : w'.hapTokenInfoMap = w.hapTokenInfoMap.erase id) :
    w'.hapTokenInfoMap[j]? = w.hapTokenInfoMap[j]? := by
  rw [h, Lib.getElem?_erase_of_ne hne]

theorem getElem?_of_deletes {op : IndexOp} (hop : op.deletes w = some id) (hne : j ≠ id) :
    (indexStep T D w op).hapTokenInfoMap[j]? = w.hapTokenInfoMap[j]? := by
  cases op with
  | removeHapTokenInfo env id' reserved =>
    cases hop
    rcases removeHapTokenInfo_cases w env.removeOk false id reserved with ⟨-, e, heq⟩ | ⟨info, w', -, -, heq, hr⟩
    · simp only [indexStep, heq]
    · simp only [indexStep, heq]; exact getElem?_erase_of_ne hne hr.infoMap
  | commitDeleteHapCache =>
    cases hop
    refine getElem?_erase_of_ne hne ?_
    simp only [indexStep, commitDeleteHapCache]
    cases w.hapTokenInfoMap[id]? with
    | none => rfl
    | some =>
      dsimp only
      split <;> rfl
  | deleteRemoteToken deviceID tokenID =>
    cases hop
    have hmapping : ∀ w' : Service, (w'.removeDeviceMappingTokenID deviceID tokenID).2.hapTokenInfoMap[j]? =
        w'.hapTokenInfoMap[j]? := fun w' => by rw [(removeDeviceMappingTokenID_maps deviceID tokenID).1]
    simp only [indexStep, deleteRemoteToken]
    split
    · rfl
    split
    · rfl
    split
    · split
      · rfl
      · rw [hmapping]; exact getElem?_erase_of_ne hne rfl
    · split
      · rw [hmapping]
      · rfl
    · split
      · rw [hmapping]
      · rfl
    · rw [hmapping]
  | _ => cases hop

/-- **In every state reached by steps that meet `KeepsIndex` the two maps are inverse to each other**: the index points
exactly to the local tokens under their keys, no two of them have one identity, and a deletion leaves every other token
registered. -/
theorem hapIndex_inverse_of_keepsIndex (T : PermissionTable) (D : DlpPermissionModeMap) (w : Service)
    (hrun : Reaches (indexStep T D) (KeepsIndex T) empty w) :
    (∀ (key : String) (id : AccessTokenID), w.hapTokenIdMap[key]? = some id ↔
      ∃ info : HapTokenInfoInner, w.hapTokenInfoMap[id]? = some info ∧ info.isRemote = false ∧
      info.getHapUniqueStr = key) ∧
    (∀ (i j : AccessTokenID) (a b : HapTokenInfoInner), w.hapTokenInfoMap[i]? = some a →
      w.hapTokenInfoMap[j]? = some b → a.isRemote = false → b.isRemote = false → a.userID = b.userID →
      a.bundleName = b.bundleName →
      a.instIndex = b.instIndex → i = j) ∧
    (∀ (op : IndexOp) (id : AccessTokenID), op.deletes w = some id → KeepsIndex T w op →
      ∀ (j : AccessTokenID) (info : HapTokenInfoInner), j ≠ id → w.hapTokenInfoMap[j]? = some info →
      info.isRemote = false → (indexStep T D w op).hapTokenInfoMap[j]? = some info ∧
        (indexStep T D w op).hapTokenIdMap[info.getHapUniqueStr]? = some j) := by
  have h : w.Indexed := hrun.invariant (fun _ op h hk => h.step op hk) indexed_empty
  refine ⟨fun key id => ?_, fun i j a b ha hb hra hrb huser hbundle hinst => ?_,
    fun op id hop hk j info hne hget hrem => ?_⟩
  · exact (h key id).trans ownerKey_eq_some
  · have hkey : a.getHapUniqueStr = b.getHapUniqueStr := by
      simp only [HapTokenInfoInner.getHapUniqueStr, huser, hbundle, hinst]
    exact Inverse.owner_injective h (ownerKey_of_local ha hra) (hkey ▸ ownerKey_of_local hb hrb)
  · have hget' : (indexStep T D w op).hapTokenInfoMap[j]? = some info := (getElem?_of_deletes hop hne).trans hget
    exact ⟨hget', ((h.step (T := T) (D := D) op hk) _ _).2 (ownerKey_of_local hget' hrem)⟩

/-! ## Runs on a concrete table -/

def reinstalled (env : Env) : List IndexOp :=
  [.createHapTokenInfo .ok sampleParams samplePolicy, .createHapTokenInfo env sampleParams samplePolicy]

theorem hapIndex_inverse_after_reinstall :
    let w := (reinstalled .ok).foldl (indexStep sampleTable ∅) empty
    ∀ (key : String) (id : AccessTokenID), w.hapTokenIdMap[key]? = some id ↔
      ∃ info : HapTokenInfoInner, w.hapTokenInfoMap[id]? = some info ∧ info.isRemote = false ∧
      info.getHapUniqueStr = key :=
  (hapIndex_inverse_of_keepsIndex sampleTable ∅ _ (Lib.reaches_foldl _ _ (by decide +kernel))).1

/-- The run in which the second install cannot delete the rows of the first, and the first token is looked up after. -/
def reloaded : Service :=
  (reinstalled { Env.ok with removeOk := false } ++ [IndexOp.getHapTokenInfoInner .ok 536870913]).foldl
    (indexStep sampleTable ∅) empty

/-- **Two live tokens can share an identity**: the rows of a displaced token stay when their delete fails, a later
lookup of its id loads it again, and the load takes the index entry of the new owner. -/
theorem hapIndex_shared_after_failed_delete :
    ∃ w, Reaches (indexStep sampleTable ∅) Always empty w ∧ ¬w.Indexed ∧
      ∃ a b : HapTokenInfoInner, w.hapTokenInfoMap[(536870913 : AccessTokenID)]? = some a ∧
        w.hapTokenInfoMap[(536870914 : AccessTokenID)]? = some b ∧ a.isRemote = false ∧ b.isRemote = false ∧
        a.getHapUniqueStr = b.getHapUniqueStr ∧ w.hapTokenIdMap[b.getHapUniqueStr]? = some 536870913 := by
  have ha : reloaded.ownerKey 536870913 = some (getHapUniqueStr 100 "app" 0) := by decide +kernel
  have hb : reloaded.ownerKey 536870914 = some (getHapUniqueStr 100 "app" 0) := by decide +kernel
  have hindex : reloaded.indexOf (getHapUniqueStr 100 "app" 0) = some 536870913 := by decide +kernel
  refine ⟨reloaded, Lib.reaches_always _ _, fun h => ?_, ?_⟩
  · exact absurd (Inverse.owner_injective h ha hb) (by decide)
  · obtain ⟨a, hgetA, hremA, hkeyA⟩ := ownerKey_eq_some.1 ha
    obtain ⟨b, hgetB, hremB, hkeyB⟩ := ownerKey_eq_some.1 hb
    exact ⟨a, b, hgetA, hgetB, hremA, hremB, hkeyA.trans hkeyB.symm, by rw [hkeyB]; exact hindex⟩

end Service
end AccessToken
