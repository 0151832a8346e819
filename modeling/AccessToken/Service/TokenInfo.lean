import AccessToken.Service.State
/-!
# AccessTokenInfoManager and HapTokenInfoInner — HAP tokens

Creating, loading, updating and removing HAP tokens (`accesstoken_info_manager.cpp`, `hap_token_info_inner.cpp`).  A
`HapTokenInfoInner` owns the permission data of its id: the constructors install it and the destructor deletes it by id,
so each place where the last pointer goes away is a `destroyHap` here.
-/
namespace AccessToken

open UserPolicyManager

open Lib (hasAny)

/-! ## DlpPermissionSetManager -/

def dlpCommon : Int32 := 0
def dlpRead : Int32 := 1
def dlpFullControl : Int32 := 2
def dlpReadPerm : Int32 := 3
def dlpFullPerm : Int32 := 4

def dlpPermAll : Int := 0
def dlpPermFullControl : Int := 1

def isPermDlpModeAvailableToDlpHap (hapDlpType : Int32) (permDlpMode : Int) : Bool :=
  if hapDlpType == dlpCommon || permDlpMode == dlpPermAll then true
  else if hapDlpType == dlpReadPerm then permDlpMode != dlpPermFullControl
  else if hapDlpType == dlpFullPerm then true
  else permDlpMode == dlpPermFullControl && hapDlpType == dlpFullControl

def getPermDlpMode (D : DlpPermissionModeMap) (permissionName : String) : Int := D.getD permissionName dlpPermAll

def updatePermStateWithDlpInfo (D : DlpPermissionModeMap) (hapDlpType : Int32) (permStateList : List PermissionStatus) :
    List PermissionStatus :=
  permStateList.map fun s =>
    if s.grantStatus == permissionDenied then s
    else if isPermDlpModeAvailableToDlpHap hapDlpType (getPermDlpMode D s.permissionName) then s
    else { s with grantStatus := permissionDenied }

/-! ## Parameters and their checks -/

structure HapInfoParams where
  userID : Int32
  bundleName : String
  instIndex : Int32
  dlpType : Int32
  appIDDesc : String
  apiVersion : Int32
  isSystemApp : Bool
  isRestore : Bool
  tokenID : AccessTokenID
  isAtomicService : Bool
  appProvisionType : String
  isSideloadApp : Bool

structure UpdateHapInfoParams where
  appIDDesc : String
  apiVersion : Int32
  isSystemApp : Bool
  isAtomicService : Bool
  appProvisionType : String
  isSideloadApp : Bool

structure HapPolicy where
  apl : ATokenAplEnum
  domain : String
  permStateList : List PermissionStatus
  aclExtendedMap : AclExtendedMap
  isDebugGrant : Bool

def maxAppIdDescLength : Nat := 10240
def maxExtendedMapSize : Nat := 512
def maxValueLength : Nat := 1024

def isNameLengthValid (s : String) : Bool := !s.isEmpty && decide (s.utf8ByteSize ≤ maxLength)

def isAppIdDescValid (appIDDesc : String) : Bool :=
  !appIDDesc.isEmpty && decide (appIDDesc.utf8ByteSize ≤ maxAppIdDescLength)

def isAplNumValid (apl : ATokenAplEnum) : Bool := apl == .aplNormal || apl == .aplSystemBasic || apl == .aplSystemCore

def isDlpTypeValid (dlpType : Int32) : Bool :=
  dlpType == dlpCommon || dlpType == dlpRead || dlpType == dlpFullControl || dlpType == dlpReadPerm ||
    dlpType == dlpFullPerm

def isAppProvisionTypeValid (appProvisionType : String) : Bool :=
  appProvisionType == "release" || appProvisionType == "debug"

def isAclExtendedMapContentValid (permissionName value : String) : Bool :=
  isPermissionNameValid permissionName && !value.isEmpty && decide (value.utf8ByteSize ≤ maxValueLength)

def checkHapInfoParam (T : PermissionTable) (info : HapInfoParams) (policy : HapPolicy) : Bool :=
  isUserIdValid info.userID && isNameLengthValid info.bundleName && isAppIdDescValid info.appIDDesc &&
    isNameLengthValid policy.domain && isAplNumValid policy.apl && isDlpTypeValid info.dlpType &&
    !(info.isRestore && info.tokenID == invalidTokenId) && decide (policy.aclExtendedMap.size ≤ maxExtendedMapSize) &&
    isAppProvisionTypeValid info.appProvisionType &&
    policy.aclExtendedMap.toList.all fun e =>
      !T.isDefinedPermissionInner e.1 || isAclExtendedMapContentValid e.1 e.2

/-- `GetApiVersion`: the last three digits of a longer text. -/
def getApiVersion (apiVersion : Int32) : Int32 :=
  let apiStr := Lib.toDecimal apiVersion.toInt
  if apiStr.length ≤ 3 then apiVersion
  else Int32.ofNat ((Lib.natOfDigits (apiStr.drop (apiStr.length - 3))).getD 0)

/-- The constructor of a local token; `attr` collects the application flags. -/
def HapTokenInfoInner.ofParams (id : AccessTokenID) (info : HapInfoParams) : HapTokenInfoInner where
  tokenInfoBasic :=
    { ver := defaultTokenVer
      userID := info.userID
      bundleName := info.bundleName
      apiVersion := getApiVersion info.apiVersion
      instIndex := info.instIndex
      dlpType := info.dlpType
      tokenID := id
      tokenAttr := (if info.isSystemApp then systemAppFlag else 0) |||
        (if info.isAtomicService then atomicServiceFlag else 0) |||
        (if info.appProvisionType == "debug" then debugAppFlag else 0) }
  isRemote := false
  isSideloadApp := info.isSideloadApp

/-- `TranslationIntoGenericValues`: the row of a token. -/
def HapTokenInfoInner.toRow (inner : HapTokenInfoInner) : HapTokenRow where
  userID := inner.userID
  bundleName := inner.bundleName
  apiVersion := inner.apiVersion
  instIndex := inner.instIndex
  dlpType := inner.dlpType
  tokenVersion := inner.ver
  tokenAttr := inner.tokenAttr
  isSideload := inner.isSideloadApp
  reserved := hasAny inner.tokenAttr tokenReservedFlag

/-- `RestoreHapTokenBasicInfo`, if the row is well formed. -/
def HapTokenRow.restoreHapTokenBasicInfo (row : HapTokenRow) (tokenId : AccessTokenID) : Option HapTokenInfoInner :=
  if isNameLengthValid row.bundleName && row.tokenVersion == defaultTokenVer then
    some
      { tokenInfoBasic := ⟨row.tokenVersion, row.userID, row.bundleName, getApiVersion row.apiVersion, row.instIndex,
          row.dlpType, tokenId, row.tokenAttr⟩
        isRemote := false
        isSideloadApp := row.isSideload }
  else none

namespace PermissionDataBrief

def getExtendedValueList (T : PermissionTable) (s : PermissionDataBrief) (tokenId : AccessTokenID) :
    List PermissionWithValue :=
  (s.extendedValue.toList.filter fun (key, _) => (key >>> 32).setWidth 32 == tokenId).map fun (key, value) =>
    ⟨T.transferOpcodeToPermission (key.setWidth 32).toNat, value⟩

/-- The states `BuildPermissionStateValues` and `GetPermissionStateList` read off the data of a token. -/
def permissionStateValues (T : PermissionTable) (s : PermissionDataBrief) (tokenId : AccessTokenID) :
    Option (List PermissionStatus) :=
  (s.requestedPermData[tokenId]?).map
    (List.map fun d => ⟨T.transferOpcodeToPermission d.permCode, d.status, d.flag⟩)

end PermissionDataBrief

def AccessTokenIDManager.getTokenIdType (m : AccessTokenIDManager) (id : AccessTokenID) : ATokenTypeEnum :=
  if id ∈ m.tokenIdSet then getTokenIdTypeEnum id else .tokenInvalid

def clearNonPersistedUserPolicyFlags (T : PermissionTable) (records : UserPolicyRecords)
    (permStateValues : List PermissionStatus) : List PermissionStatus :=
  permStateValues.map fun s =>
    match T.transferPermissionToOpcode s.permissionName with
    | none => s
    | some permCode =>
      if isPolicyPersisted records permCode then s
      else { s with grantFlag := getFlagWithoutSpecifiedElement s.grantFlag permissionRestrictedByAdmin }

namespace Service

variable (T : PermissionTable) (D : DlpPermissionModeMap) (w : Service)

/-- `~HapTokenInfoInner`. -/
def destroyHap (tokenID : AccessTokenID) : Service :=
  { w with brief := (w.brief.deleteBriefPermDataByTokenId tokenID).2 }

def addGrantedHapPermsToKernel (tokenId : AccessTokenID) : Service :=
  { w with kernel := w.kernel.addPermissionToKernel tokenId (w.getGrantedPermCodeList tokenId) }

/-! ## Reserved ids -/

def getReservedHapTokenId (userID : Int32) (bundleName : String) (instIndex : Int32) : AccessTokenID :=
  w.reservedHapTokenIdMap.getD (getHapUniqueStr userID bundleName instIndex) invalidTokenId

def addReservedHapTokenId (userID : Int32) (bundleName : String) (instIndex : Int32) (tokenID : AccessTokenID) :
    Service :=
  let hapUniqueKey := getHapUniqueStr userID bundleName instIndex
  if hapUniqueKey ∈ w.reservedHapTokenIdMap then w
  else
    { w with
      reservedHapTokenIdMap := w.reservedHapTokenIdMap.insert hapUniqueKey tokenID
      idManager := w.idManager.addReservedTokenId tokenID }

def removeReservedHapTokenId (userID : Int32) (bundleName : String) (instIndex : Int32) : Service :=
  let hapUniqueKey := getHapUniqueStr userID bundleName instIndex
  match w.reservedHapTokenIdMap[hapUniqueKey]? with
  | none => w
  | some tokenID =>
    { w with
      reservedHapTokenIdMap := w.reservedHapTokenIdMap.erase hapUniqueKey
      idManager := w.idManager.removeReservedTokenId tokenID }

/-! ## Rows -/

def addHapTokenInfoToDb (dbOk : Bool) (hapInfo : HapTokenInfoInner) (isUpdate : Bool) : Ret × Service :=
  if hapInfo.isRemote then (.error .errTokenidNotExist, w)
  else
    let info := hapInfo.tokenInfoBasic
    let permStateValues := clearNonPersistedUserPolicyFlags T w.policy.records
      ((w.permissionStateValues T info.tokenID).getD [])
    let reservedTokenId := w.getReservedHapTokenId info.userID info.bundleName info.instIndex
    let db :=
      if reservedTokenId ≠ invalidTokenId then { w.db with hapTokenInfo := w.db.hapTokenInfo.erase reservedTokenId }
      else w.db
    let db := if isUpdate then db.deleteToken info.tokenID else db
    let db := db.insertToken info.tokenID hapInfo.toRow permStateValues (w.getExtendedValueList T info.tokenID)
    if dbOk then (.ok (), { w with db := db }) else (.error .errDatabaseOperateFailed, w)

def removeHapTokenInfoFromDb (dbOk : Bool) (info : HapTokenInfoInner) (isTokenReserved : Bool)
    (reservedTokenId : AccessTokenID) : Ret × Service :=
  let basic := info.tokenInfoBasic
  let db := w.db.deleteToken basic.tokenID
  if !dbOk then (.error .errDatabaseOperateFailed, w)
  else if isTokenReserved && !info.isRemote then
    let row := { info.toRow with tokenAttr := basic.tokenAttr ||| tokenReservedFlag }
    (.ok (), { w with db := { db with hapTokenInfo := db.hapTokenInfo.insert reservedTokenId row } })
  else (.ok (), { w with db := db })

/-! ## Looking a token up -/

/-- The end of a successful load: the token is registered, indexed and pushed to the kernel. -/
def publishLoaded (hap : HapTokenInfoInner) (id : AccessTokenID) : Service :=
  { w with
    idManager := (w.idManager.registerTokenId id .tokenHap).2
    hapTokenIdMap := w.hapTokenIdMap.insert hap.getHapUniqueStr id
    hapTokenInfoMap := w.hapTokenInfoMap.insert id hap }.addGrantedHapPermsToKernel id

def getHapTokenInfoInnerFromDb (findOk : Bool) (id : AccessTokenID) : Option HapTokenInfoInner × Service :=
  if !findOk then (none, w)
  else
    match w.db.hapTokenInfo[id]? with
    | none => (none, w)
    | some row =>
      if row.reserved then (none, { w with idManager := w.idManager.addReservedTokenId id })
      else
        match row.restoreHapTokenBasicInfo id with
        | none => (none, w.destroyHap id)
        | some hap =>
          let brief := w.brief.restorePermissionBriefData T id (w.db.findPermissionState id) (w.db.findExtendValue id)
          (some hap, { w with brief := brief }.publishLoaded hap id)

def getHapTokenInfoInner (findOk : Bool) (id : AccessTokenID) : Option HapTokenInfoInner × Service :=
  match w.hapTokenInfoMap[id]? with
  | some info => (some info, w)
  | none =>
    match w.getTokenIdStatusLocked id with
    | some .reserved => (none, w)
    | some .untrusted => (none, w)
    | _ => getHapTokenInfoInnerFromDb T w findOk id

/-- `ResolveQueryTokenID`: a bin token stands for the parent the kernel names. -/
def resolveQueryTokenID (parent : Option AccessTokenID) (tokenID : AccessTokenID) : Option AccessTokenID :=
  if AccessTokenIDInner.typeExt tokenID ≠ 1 then some tokenID
  else parent.filter (· ≠ invalidTokenId)

def getHapTokenInfo (env : Env) (tokenID : AccessTokenID) : Option HapTokenInfo × Service :=
  match resolveQueryTokenID env.parent tokenID with
  | none => (none, w)
  | some queryTokenID =>
    let (info, w) := getHapTokenInfoInner T w env.findOk queryTokenID
    (info.map (·.tokenInfoBasic), w)

/-! ## Removing -/

def removeHapTokenInfoInner (id : AccessTokenID) (isTokenReserved : Bool) :
    Except AccessTokenError (HapTokenInfoInner × Service) :=
  match w.hapTokenInfoMap[id]? with
  | none => .error .errTokenidNotExist
  | some info =>
    if info.isRemote then .error .errIdentityCheckFailed
    else
      let hapUniqueKey := info.getHapUniqueStr
      let w :=
        { w with
          kernel := w.kernel.removePermissionFromKernel id
          idManager := w.idManager.releaseTokenId id
          hapTokenIdMap :=
            if w.hapTokenIdMap[hapUniqueKey]? = some id then w.hapTokenIdMap.erase hapUniqueKey else w.hapTokenIdMap }
      let basic := info.tokenInfoBasic
      let w := if isTokenReserved then w.addReservedHapTokenId basic.userID basic.bundleName basic.instIndex id else w
      .ok (info, { w with hapTokenInfoMap := w.hapTokenInfoMap.erase id })

/-- `RemoveHapTokenInfo`; a failing delete of the rows is only logged.  `held` says that the caller still holds the
object, so that it is not destroyed here. -/
def removeHapTokenInfo (dbOk held : Bool) (id : AccessTokenID) (isTokenReserved : Bool) : Ret × Service :=
  if w.getTokenIdType id ≠ .tokenHap then (.error .errParamInvalid, w)
  else
    match w.removeHapTokenInfoInner id isTokenReserved with
    | .error e => (.error e, w)
    | .ok (info, w) =>
      let w := (w.removeHapTokenInfoFromDb dbOk info isTokenReserved id).2
      (.ok (), if held then w else w.destroyHap info.tokenID)

/-! ## Creating -/

def addHapTokenInfo (removeOk : Bool) (info : HapTokenInfoInner) : Ret × Service :=
  let id := info.tokenID
  if id ∈ w.hapTokenInfoMap then (.error .errTokenidHasExisted, w)
  else
    let hapUniqueKey := info.getHapUniqueStr
    let idRemoved := if info.isRemote then invalidTokenId else w.hapTokenIdMap.getD hapUniqueKey invalidTokenId
    let w :=
      { w with
        hapTokenIdMap := if info.isRemote then w.hapTokenIdMap else w.hapTokenIdMap.insert hapUniqueKey id
        hapTokenInfoMap := w.hapTokenInfoMap.insert id info }
    let w := if idRemoved = invalidTokenId then w
      else (w.removeHapTokenInfo removeOk (idRemoved == id) idRemoved false).2
    (.ok (), w.addGrantedHapPermsToKernel id)

def mainCloneIndexBase : Int32 := 10000

def registerTokenId (rand : Nat → BitVec 32) (info : HapInfoParams) :
    Except AccessTokenError (AccessTokenID × Service) :=
  if info.isRestore then
    match w.idManager.registerTokenId info.tokenID .tokenHap with
    | (.error e, _) => .error e
    | (.ok (), m) => .ok (info.tokenID, { w with idManager := m })
  else
    let dlpFlag : BitVec 32 := if info.dlpType > dlpCommon then 1 else 0
    let cloneFlag : BitVec 32 := if dlpFlag = 0 ∧ info.instIndex % mainCloneIndexBase ≠ 0 then 1 else 0
    let (tokenId, m) := w.idManager.createAndRegisterTokenId .tokenHap dlpFlag cloneFlag 0 rand
    if tokenId = invalidTokenId then .error .errTokenidCreateFailed else .ok (tokenId, { w with idManager := m })

/-- The states of an installation, limited by the DLP type. -/
def installStates (info : HapInfoParams) (policy : HapPolicy) : List PermissionStatus :=
  if info.dlpType ≠ dlpCommon then updatePermStateWithDlpInfo D info.dlpType policy.permStateList
  else policy.permStateList

/-- The states a new token starts from, with the bit the user policy asks for. -/
def initialStates (tokenId : AccessTokenID) (info : HapInfoParams) (policy : HapPolicy) : List PermissionStatus :=
  updatePermissionStatusListForUserPolicy T w.policy.records tokenId info.userID
    (installStates D info policy)

def createHapTokenInfo (env : Env) (info : HapInfoParams) (policy : HapPolicy) :
    Except AccessTokenError AccessTokenID × Service :=
  if !checkHapInfoParam T info policy then (.error .errParamInvalid, w)
  else
    match w.registerTokenId env.rand info with
    | .error e => (.error e, w)
    | .ok (tokenId, w) =>
      let tokenInfo := HapTokenInfoInner.ofParams tokenId info
      let w :=
        { w with
          brief := w.brief.addPermToBriefPermission T tokenId (initialStates T D w tokenId info policy)
            policy.aclExtendedMap true }
      match addHapTokenInfoToDb T w env.transactionOk tokenInfo false with
      | (.error e, w) =>
        (.error e, { w with idManager := w.idManager.releaseTokenId tokenId }.destroyHap tokenId)
      | (.ok (), w) =>
        match w.addHapTokenInfo env.removeOk tokenInfo with
        | (.error e, w) =>
          let w := { w with idManager := w.idManager.releaseTokenId tokenId }
          let reservedTokenId := w.getReservedHapTokenId info.userID info.bundleName info.instIndex
          let w := (w.removeHapTokenInfoFromDb env.removeOk tokenInfo true reservedTokenId).2
          (.error e, w.destroyHap tokenId)
        | (.ok (), w) =>
          let w := w.removeReservedHapTokenId info.userID info.bundleName info.instIndex
          -- when the displaced id was its own, the object dies with the call
          (.ok tokenId, if tokenId ∈ w.hapTokenInfoMap then w else w.destroyHap tokenId)

/-! ## Updating -/

/-- `attr` with the flag set or cleared. -/
def withAttr (on : Bool) (flag attr : BitVec 32) : BitVec 32 := if on then attr ||| flag else attr &&& ~~~flag

/-- Whether `HapTokenInfoInner::Update` takes the permissions from the new provision; `attr` is the attribute word after
the two application flags are set. -/
def needUpdatePermByProvision (info : UpdateHapInfoParams) (hapPolicy : HapPolicy) (attr : BitVec 32) : Bool :=
  let isDebugProvision := info.appProvisionType == "debug"
  (isDebugProvision && hapPolicy.isDebugGrant) || (!isDebugProvision && hasAny attr debugAppFlag)

def updatedAppAttr (info : UpdateHapInfoParams) (attr : BitVec 32) : BitVec 32 :=
  withAttr info.isAtomicService atomicServiceFlag (withAttr info.isSystemApp systemAppFlag attr)

/-- The object after `HapTokenInfoInner::Update`. -/
def updatedInner (inner : HapTokenInfoInner) (info : UpdateHapInfoParams) : HapTokenInfoInner :=
  let attr := updatedAppAttr info inner.tokenAttr
  let attr :=
    if info.appProvisionType == "release" then attr &&& ~~~debugAppFlag
    else if info.appProvisionType == "debug" then attr ||| debugAppFlag
    else attr
  { inner with
    tokenInfoBasic :=
      { inner.tokenInfoBasic with apiVersion := getApiVersion info.apiVersion, tokenAttr := attr }
    isSideloadApp := info.isSideloadApp }

/-- `HapTokenInfoInner::Update` of the object under the key `id`. -/
def updateHapInfo (id : AccessTokenID) (inner : HapTokenInfoInner) (info : UpdateHapInfoParams)
    (permStateList : List PermissionStatus) (hapPolicy : HapPolicy) : Service :=
  { w with
    brief := w.brief.update T inner.tokenID permStateList hapPolicy.aclExtendedMap
      (needUpdatePermByProvision info hapPolicy (updatedAppAttr info inner.tokenAttr))
    hapTokenInfoMap := w.hapTokenInfoMap.insert id (updatedInner inner info) }

def updateHapToken (env : Env) (tokenID : AccessTokenID) (info : UpdateHapInfoParams)
    (permStateList : List PermissionStatus) (hapPolicy : HapPolicy) : Ret × Service :=
  if !isAppIdDescValid info.appIDDesc then (.error .errParamInvalid, w)
  else
    match getHapTokenInfoInner T w env.findOk tokenID with
    | (none, w) => (.error .errTokenidNotExist, w)
    | (some inner, w) =>
      if inner.isRemote then (.error .errIdentityCheckFailed, w)
      else if !env.oldStatesOk then (.error .errDatabaseOperateFailed, w)
      else
        let adjustedPermStateList := updatePermissionStatusListForUserPolicy T w.policy.records tokenID
          inner.userID permStateList
        let w := updateHapInfo T w tokenID inner info adjustedPermStateList hapPolicy
        match addHapTokenInfoToDb T w env.transactionOk ((w.hapTokenInfoMap[tokenID]?).getD inner) true with
        | (.error e, w) => (.error e, w)
        | (.ok (), w) => (.ok (), w.addGrantedHapPermsToKernel tokenID)

/-! ## Resetting -/

/-- `UpdateStatesToDB`: the first failing row ends it. -/
def updateStatesToDB (failingRows : TokenPerms) (tokenID : AccessTokenID) :
    Database → List PermissionStatus → Bool × Database
  | db, [] => (true, db)
  | db, state :: stateChangeList =>
    if failingRows.contains (tokenID, state.permissionName) then (false, db)
    else updateStatesToDB failingRows tokenID (db.modifyPermissionState tokenID state) stateChangeList

def resetUserGrantPermissionStatus (env : Env) (inner : HapTokenInfoInner) : Ret × Service :=
  let tokenID := inner.tokenID
  match w.brief.resetUserGrantPermissionStatus tokenID with
  | (.error e, _) => (.error e, w)
  | (.ok (), brief) =>
    let permListOfHap := updatePermStateWithDlpInfo D inner.dlpType
      ((brief.permissionStateValues T tokenID).getD [])
    let aclExtendedMap := (brief.getExtendedValueList T tokenID).foldl
      (fun (acl : AclExtendedMap) v => acl.insert v.permissionName v.value) ∅
    let brief := brief.update T tokenID permListOfHap aclExtendedMap false
    match updateStatesToDB env.failingRows tokenID w.db permListOfHap with
    | (false, db) => (.error .errDatabaseOperateFailed, { w with brief := brief, db := db })
    | (true, db) => (.ok (), { w with brief := brief, db := db })

def clearUserGrantedPermission (env : Env) (id : AccessTokenID) : Ret × Service :=
  match getHapTokenInfoInner T w env.findOk id with
  | (none, w) => (.error .errParamInvalid, w)
  | (some inner, w) =>
    if inner.isRemote then (.error .errIdentityCheckFailed, w)
    else
      match resetUserGrantPermissionStatus T D w env inner with
      | (.error e, w) => (.error e, w)
      | (.ok (), w) => (.ok (), w.addGrantedHapPermsToKernel id)

/-- `GetRelatedSandBoxHapList`: the other instances of the bundle and user, without the clones of a common
application. -/
def getRelatedSandBoxHapList (tokenId : AccessTokenID) : List AccessTokenID :=
  match w.hapTokenInfoMap[tokenId]? with
  | none => []
  | some info =>
    let basic := info.tokenInfoBasic
    if basic.dlpType = dlpCommon ∧ basic.instIndex ≠ 0 then []
    else
      ((w.hapTokenInfoMap.toList.map fun e => e.2.tokenInfoBasic).filter fun other =>
        other.bundleName == basic.bundleName && other.userID == basic.userID && other.tokenID != tokenId &&
          !(other.dlpType == dlpCommon && other.instIndex != 0)).map (·.tokenID)

def clearUserGrantedPermissionState (env : Env) (tokenID : AccessTokenID) : Ret × Service :=
  match clearUserGrantedPermission T D w env tokenID with
  | (.error e, w) => (.error e, w)
  | (.ok (), w) =>
    (.ok (), (w.getRelatedSandBoxHapList tokenID).foldl (fun w id => (clearUserGrantedPermission T D w env id).2) w)

def clearAllSecCompGrantedPerm : Service :=
  let (cleared, brief) := w.brief.clearAllSecCompGrantedPerm
  { w with
    brief := brief
    kernel := cleared.foldl (fun k c => k.setPermissionToKernel c.tokenId c.permCode false) w.kernel }

/-! ## A small install, for concrete runs -/

def sampleParams : HapInfoParams where
  userID := 100
  bundleName := "app"
  instIndex := 0
  dlpType := dlpCommon
  appIDDesc := "id"
  apiVersion := 20
  isSystemApp := false
  isRestore := false
  tokenID := 0
  isAtomicService := false
  appProvisionType := "release"
  isSideloadApp := false

def samplePolicy : HapPolicy where
  apl := .aplNormal
  domain := "d"
  permStateList := []
  aclExtendedMap := ∅
  isDebugGrant := false

def asksCamera : HapPolicy := { samplePolicy with permStateList := [deniedCamera] }

def sampleSandbox : AccessTokenID := 603979777

end Service
end AccessToken
