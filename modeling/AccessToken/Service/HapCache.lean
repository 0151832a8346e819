import AccessToken.Service.TokenInfo
/-!
# The other ways into the token maps

The cache commits of the bundle pipeline (`RestoreHapCache`, `Commit*HapCache`), which write the maps without going
through the id manager or the database, and the tokens synchronised from other devices, which stay out of the index.
-/
namespace AccessToken

open AccessTokenIDInner

/-- The part of `HapTokenInfoItem` a token is rebuilt from. -/
structure HapTokenInfoItem where
  tokenId : AccessTokenID
  userId : BitVec 32
  bundleName : String
  instIndex : BitVec 32
  dlpType : Int32
  tokenAttr : BitVec 32
  apiVersion : Int32
  isSideload : Bool

structure HapTokenRestoreData where
  hapTokenInfoItem : HapTokenInfoItem
  requestedPermData : List BriefPermData
  extendedPermList : List PermissionWithValue

structure HapTokenInfoForSync extends baseInfo : HapTokenInfo where
  permStateList : List PermissionStatus

def HapTokenInfoInner.ofItem (item : HapTokenInfoItem) : HapTokenInfoInner where
  tokenInfoBasic :=
    { ver := defaultTokenVer
      userID := Int32.ofBitVec item.userId
      bundleName := item.bundleName
      apiVersion := item.apiVersion
      instIndex := Int32.ofBitVec item.instIndex
      dlpType := item.dlpType
      tokenID := item.tokenId
      tokenAttr := item.tokenAttr }
  isRemote := false
  isSideloadApp := item.isSideload

namespace Service

variable (T : PermissionTable) (w : Service)

/-! ## Cache commits -/

/-- `hapTokenInfoMap_[id] = info`: the object that was there dies. -/
def replaceInfo (id : AccessTokenID) (info : HapTokenInfoInner) : Service :=
  let w' := { w with hapTokenInfoMap := w.hapTokenInfoMap.insert id info }
  match w.hapTokenInfoMap[id]? with
  | none => w'
  | some old => w'.destroyHap old.tokenID

/-- The two map writes and the permission data of `RestoreHapCache` and `CommitCreateHapCache`. -/
def putHapCache (id : AccessTokenID) (info : HapTokenInfoInner) (data : List BriefPermData)
    (aclExtendedList : List PermissionWithValue) : Service :=
  let w := w.replaceInfo id info
  { w with
    hapTokenIdMap := w.hapTokenIdMap.insert info.getHapUniqueStr id
    brief := w.brief.replaceBriefPermDataByTokenId T id data aclExtendedList }

def restoreHapCacheItem (w : Service) (tokenRestoreData : HapTokenRestoreData) : Service :=
  putHapCache T w tokenRestoreData.hapTokenInfoItem.tokenId (.ofItem tokenRestoreData.hapTokenInfoItem)
    tokenRestoreData.requestedPermData tokenRestoreData.extendedPermList

def restoreHapCache (tokenRestoreDataList : List HapTokenRestoreData) : Service :=
  tokenRestoreDataList.foldl (restoreHapCacheItem T) w

def commitCreateHapCache (hapInfo : HapTokenInfo) (briefPermData : List BriefPermData)
    (aclExtendedList : List PermissionWithValue) : Service :=
  -- the constructor installs an empty list first
  let w := { w with brief := w.brief.addPermToBriefPermission T hapInfo.tokenID [] ∅ true }
  putHapCache T w hapInfo.tokenID ⟨hapInfo, false, false⟩ briefPermData aclExtendedList

def eraseOwnKey (key : String) (tokenID : AccessTokenID) : Service :=
  { w with
    hapTokenIdMap := if w.hapTokenIdMap[key]? = some tokenID then w.hapTokenIdMap.erase key else w.hapTokenIdMap }

def commitUpdateHapCache (hapInfo : HapTokenInfo) (briefPermData : List BriefPermData)
    (aclExtendedList : List PermissionWithValue) : Service :=
  let tokenID := hapInfo.tokenID
  match w.hapTokenInfoMap[tokenID]? with
  | none => w
  | some oldHapInfo =>
    let w := if oldHapInfo.isRemote then w else w.eraseOwnKey oldHapInfo.getHapUniqueStr tokenID
    let newHapInfo : HapTokenInfoInner := { oldHapInfo with tokenInfoBasic := hapInfo }
    { w with
      hapTokenInfoMap := w.hapTokenInfoMap.insert tokenID newHapInfo
      hapTokenIdMap :=
        if oldHapInfo.isRemote then w.hapTokenIdMap else w.hapTokenIdMap.insert newHapInfo.getHapUniqueStr tokenID
      brief := w.brief.replaceBriefPermDataByTokenId T tokenID briefPermData aclExtendedList }

def commitDeleteHapCache (tokenID : AccessTokenID) : Service :=
  let oldHapInfo := w.hapTokenInfoMap[tokenID]?
  let w :=
    match oldHapInfo with
    | some old => if old.isRemote then w else w.eraseOwnKey old.getHapUniqueStr tokenID
    | none => w
  let w := { w with hapTokenInfoMap := w.hapTokenInfoMap.erase tokenID }
  let w := { w with brief := (w.brief.deleteBriefPermDataByTokenId tokenID).2 }
  -- the local pointer keeps the object alive to the end of the call
  match oldHapInfo with
  | some old => w.destroyHap old.tokenID
  | none => w

/-! ## Tokens of other devices -/

def getDeviceMappingTokenID (deviceID : String) (remoteID : AccessTokenID) : AccessTokenID :=
  if !isNameLengthValid deviceID || remoteID == invalidTokenId then 0
  else ((w.remoteDeviceMap[deviceID]?).bind (·[remoteID]?)).getD 0

def mapRemoteDeviceTokenToLocal (rand : Nat → BitVec 32) (deviceID : String) (remoteID : AccessTokenID) :
    AccessTokenID × Service :=
  if !isNameLengthValid deviceID || remoteID == invalidTokenId then (0, w)
  else
    let tokenType := getTokenIdTypeEnum remoteID
    if tokenType = .tokenTypeButt then (0, w)
    else
      let device := w.remoteDeviceMap.getD deviceID ∅
      match device[remoteID]? with
      | some mapID => (mapID, w)
      | none =>
        let (mapID, idManager) := w.idManager.createAndRegisterTokenId tokenType
          ((dlpFlag remoteID).setWidth 32) ((cloneFlag remoteID).setWidth 32)
          ((toolFlag remoteID).setWidth 32) rand
        if mapID = 0 then (0, { w with remoteDeviceMap := w.remoteDeviceMap.insert deviceID device })
        else
          (mapID,
            { w with
              idManager := idManager
              remoteDeviceMap := w.remoteDeviceMap.insert deviceID (device.insert remoteID mapID) })

def removeDeviceMappingTokenID (deviceID : String) (remoteID : AccessTokenID) : Ret × Service :=
  if !isNameLengthValid deviceID || remoteID == invalidTokenId then (.error .errParamInvalid, w)
  else
    match w.remoteDeviceMap[deviceID]? with
    | none => (.error .errTokenMapFailed, w)
    | some device =>
      match device[remoteID]? with
      | none => (.error .errTokenMapFailed, w)
      | some mapID =>
        let device := device.erase remoteID
        (.ok (),
          { w with
            idManager := w.idManager.releaseTokenId mapID
            remoteDeviceMap :=
              if device.isEmpty then w.remoteDeviceMap.erase deviceID else w.remoteDeviceMap.insert deviceID device })

/-- `CreateRemoteHapTokenInfo`: the data goes under `mapID`, the map entry under the id in the base info. -/
def createRemoteHapTokenInfo (removeOk : Bool) (mapID : AccessTokenID) (hapSync : HapTokenInfoForSync) :
    Ret × Service :=
  let hap : HapTokenInfoInner := ⟨hapSync.baseInfo, true, false⟩
  let w := { w with brief := w.brief.addPermToBriefPermission T mapID hapSync.permStateList ∅ false }
  match w.addHapTokenInfo removeOk hap with
  | (.error e, w) => (.error e, w.destroyHap hap.tokenID)
  | (.ok (), w) => (.ok (), w)

def updateRemoteHapTokenInfo (findOk : Bool) (mapID : AccessTokenID) (hapSync : HapTokenInfoForSync) : Ret × Service :=
  match getHapTokenInfoInner T w findOk mapID with
  | (none, w) => (.error .errIdentityCheckFailed, w)
  | (some info, w) =>
    if !info.isRemote then (.error .errIdentityCheckFailed, w)
    else
      (.ok (),
        { w with
          hapTokenInfoMap := w.hapTokenInfoMap.insert mapID { info with tokenInfoBasic := hapSync.baseInfo }
          brief := w.brief.addPermToBriefPermission T hapSync.tokenID hapSync.permStateList ∅ false
        }.addGrantedHapPermsToKernel mapID)

def isRemoteHapTokenValid (deviceID : String) (hapSync : HapTokenInfoForSync) : Bool :=
  isNameLengthValid deviceID && isUserIdValid hapSync.userID &&
    isNameLengthValid hapSync.bundleName && hapSync.tokenID != invalidTokenId &&
    isDlpTypeValid hapSync.dlpType && hapSync.ver == defaultTokenVer &&
    getTokenIdTypeEnum hapSync.tokenID == .tokenHap

/-- `SetRemoteHapTokenInfo` with the creation of the token as a parameter. -/
def setRemoteHapTokenInfoBy (create : Service → AccessTokenID → HapTokenInfoForSync → Ret × Service) (env : Env)
    (deviceID : String) (hapSync : HapTokenInfoForSync) : Ret × Service :=
  if !isRemoteHapTokenValid deviceID hapSync then (.error .errIdentityCheckFailed, w)
  else
    let remoteID := hapSync.tokenID
    let mapID := w.getDeviceMappingTokenID deviceID remoteID
    let mapped (id : AccessTokenID) : HapTokenInfoForSync :=
      { hapSync with baseInfo := { hapSync.baseInfo with tokenID := id } }
    if mapID ≠ 0 then updateRemoteHapTokenInfo T w env.findOk mapID (mapped mapID)
    else
      let (mapID, w) := w.mapRemoteDeviceTokenToLocal env.rand deviceID remoteID
      if mapID = 0 then (.error .errTokenMapFailed, w)
      else
        match create w mapID (mapped mapID) with
        -- the mapping is looked up under the local id here
        | (.error e, w) => (.error e, (w.removeDeviceMappingTokenID deviceID mapID).2)
        | (.ok (), w) => (.ok (), w)

def setRemoteHapTokenInfo (env : Env) (deviceID : String) (hapSync : HapTokenInfoForSync) : Ret × Service :=
  setRemoteHapTokenInfoBy T w (createRemoteHapTokenInfo T · env.removeOk) env deviceID hapSync

/-- `DeleteRemoteToken`; whether the mapped HAP token is a remote one is not checked. -/
def deleteRemoteToken (deviceID : String) (tokenID : AccessTokenID) : Ret × Service :=
  if !isNameLengthValid deviceID then (.error .errParamInvalid, w)
  else
    let mapID := w.getDeviceMappingTokenID deviceID tokenID
    if mapID = 0 then (.error .errTokenMapFailed, w)
    else
      match getTokenIdTypeEnum mapID with
      | .tokenHap =>
        match w.hapTokenInfoMap[mapID]? with
        | none => (.error .errTokenInvalid, w)
        | some info =>
          let w := { w with hapTokenInfoMap := w.hapTokenInfoMap.erase mapID }.destroyHap info.tokenID
          let w :=
            { w with
              kernel := w.kernel.removePermissionFromKernel mapID
              brief := (w.brief.deleteBriefPermDataByTokenId mapID).2 }
          w.removeDeviceMappingTokenID deviceID tokenID
      | .tokenNative | .tokenShell =>
        if mapID ∈ w.nativeTokenInfoMap then
          { w with
            nativeTokenInfoMap := w.nativeTokenInfoMap.erase mapID
            kernel := w.kernel.removePermissionFromKernel mapID }.removeDeviceMappingTokenID deviceID tokenID
        else (.error .errTokenInvalid, w)
      | _ => w.removeDeviceMappingTokenID deviceID tokenID

/-- `DeleteRemoteDeviceTokens`: every token of the device is tried, and the last result is returned. -/
def deleteRemoteDeviceTokens (deviceID : String) : Ret × Service :=
  if !isNameLengthValid deviceID then (.error .errParamInvalid, w)
  else
    match w.remoteDeviceMap[deviceID]? with
    | none => (.error .errDeviceNotExist, w)
    | some device =>
      (device.toList.map (·.1)).foldl (fun st remoteID => st.2.deleteRemoteToken deviceID remoteID) (.ok (), w)

end Service
end AccessToken
