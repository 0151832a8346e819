import AccessToken.PermissionMap
import AccessToken.Lib.ModifyFirst
/-!
# PermissionDataBrief — the permission data of every token

`permission_data_brief.cpp`: the requested permissions of each token with their stored status and flag, the values of
the permissions that carry one, and the list of security-component grants, which is kept apart from the flags.  A
`std::map` is a `Std.ExtTreeMap`, a `std::vector` or `std::list` a list; a mutation returns the new value.
-/
namespace AccessToken

open Lib (hasAny modifyFirst)

structure BriefPermData where
  status : Int
  type : BitVec 8
  permCode : Nat
  flag : Flag
deriving DecidableEq

structure BriefSecCompData where
  permCode : Nat
  tokenId : AccessTokenID
deriving DecidableEq

structure PermissionWithValue where
  permissionName : String
  value : String
deriving DecidableEq

abbrev AclExtendedMap := Std.ExtTreeMap String String

instance transOrdWord64 : Std.TransOrd (BitVec 64) := BitVec.instTransOrd

abbrev ExtendedValueMap := Std.ExtTreeMap (BitVec 64) String

structure PermissionDataBrief where
  requestedPermData : Std.ExtTreeMap AccessTokenID (List BriefPermData)
  extendedValue : ExtendedValueMap
  secCompList : List BriefSecCompData
deriving DecidableEq

namespace PermissionDataBrief

def empty : PermissionDataBrief := ⟨∅, ∅, []⟩

inductive PermissionStatusChangeType where
  | noChange | statusOnly | flagOnly | statusAndFlag
deriving DecidableEq

/-- The status and flag part of `GetEffectivePermissionStatus`. -/
def effectiveStatus (status : Int) (flag : Flag) : Int :=
  if isRestricted flag then permissionDenied
  else if isPermGrantedBySecComp flag then permissionGranted
  else status

def getEffectivePermissionStatus (permData : BriefPermData) : Int := effectiveStatus permData.status permData.flag

/-- The test of the `find_if` searches for one code. -/
def hasCode (code : Nat) (d : BriefPermData) : Bool := d.permCode == code

/-! ## Extended values -/

/-- `(tokenID << TOKEN_ID_SHIFT) | permCode`. -/
def extendedKey (tokenID : AccessTokenID) (permCode : Nat) : BitVec 64 :=
  (tokenID.setWidth 64 <<< 32) ||| BitVec.ofNat 64 permCode

def deleteExtendedValue (tokenID : AccessTokenID) (ext : ExtendedValueMap) : ExtendedValueMap :=
  ext.filter (fun key _ => (key >>> 32).setWidth 32 != tokenID)

def isKernelEffectBit : BitVec 8 := 1#8 <<< 0

def hasValueBit : BitVec 8 := 1#8 <<< 1

/-! ## Building brief data from permission states -/

/-- The entry `GetPermissionBriefData` fills: a valid status of a permission in the table. -/
def briefPermDataOf (T : PermissionTable) (permState : PermissionStatus) : Option BriefPermData :=
  if isGrantStatusValid permState.grantStatus then
    (T.getPermissionBriefDef permState.permissionName).map fun (briefDef, code) =>
      { status := permState.grantStatus
        permCode := code
        flag := permState.grantFlag
        type := (if briefDef.isKernelEffect then isKernelEffectBit else 0) |||
          (if briefDef.hasValue then hasValueBit else 0) }
  else none

/-- `GetPermissionBriefData`: the entry, and the value kept for a permission that has one. -/
def getPermissionBriefData (T : PermissionTable) (tokenID : AccessTokenID) (permState : PermissionStatus)
    (aclExtendedMap : AclExtendedMap) (ext : ExtendedValueMap) : Option BriefPermData × ExtendedValueMap :=
  match briefPermDataOf T permState with
  | none => (none, ext)
  | some d =>
    if hasAny d.type hasValueBit then
      (some d, ext.insert (extendedKey tokenID d.permCode) (aclExtendedMap.getD permState.permissionName ""))
    else (some d, ext)

/-- The loop of `GetPermissionBriefDataList`. -/
def getPermissionBriefDataLoop (T : PermissionTable) (tokenID : AccessTokenID) (aclExtendedMap : AclExtendedMap) :
    List PermissionStatus → ExtendedValueMap → List BriefPermData × ExtendedValueMap
  | [], ext => ([], ext)
  | state :: permStateList, ext =>
    let (data, ext) := getPermissionBriefData T tokenID state aclExtendedMap ext
    let (list, ext) := getPermissionBriefDataLoop T tokenID aclExtendedMap permStateList ext
    (data.toList ++ list, ext)

def getPermissionBriefDataList (T : PermissionTable) (tokenID : AccessTokenID) (permStateList : List PermissionStatus)
    (aclExtendedMap : AclExtendedMap) (ext : ExtendedValueMap) : List BriefPermData × ExtendedValueMap :=
  getPermissionBriefDataLoop T tokenID aclExtendedMap permStateList (deleteExtendedValue tokenID ext)

variable (T : PermissionTable) (s : PermissionDataBrief) (tokenID : AccessTokenID)

def addBriefPermDataByTokenId (listInput : List BriefPermData) : PermissionDataBrief :=
  { s with requestedPermData := s.requestedPermData.insert tokenID listInput }

/-- The states `AddPermToBriefPermission` keeps of its input. -/
def keptPermStates (tokenId : AccessTokenID) (permStateList : List PermissionStatus) (defCheck : Bool) :
    List PermissionStatus :=
  if defCheck then filterInvalidPermissionState T (getTokenIdTypeEnum tokenId) true permStateList else permStateList

def addPermToBriefPermission (tokenId : AccessTokenID) (permStateList : List PermissionStatus)
    (aclExtendedMap : AclExtendedMap) (defCheck : Bool) : PermissionDataBrief :=
  let permStateListRes := keptPermStates T tokenId permStateList defCheck
  let (list, ext) := getPermissionBriefDataList T tokenId permStateListRes aclExtendedMap s.extendedValue
  addBriefPermDataByTokenId { s with extendedValue := ext } tokenId list

/-! ## App update -/

/-- The cases in which `UpdatePermStatus` keeps the newly initialised state. -/
def keepsInitializedState (permOld permNew : BriefPermData) : Bool :=
  ((hasAny permOld.flag permissionFixedByAdminPolicy || hasAny permOld.flag permissionAdminPoliciesCancel) &&
      permNew.flag == permissionSystemFixed) ||
    (hasAny permOld.flag permissionAdminPoliciesCancel && permNew.flag == permissionPreAuthorizedCancelable) ||
    (permOld.flag == permissionDefaultFlag && permOld.status == permissionDenied) ||
    (permOld.flag == permissionSystemFixed || permOld.flag == permissionPreAuthorizedCancelable)

/-- `UpdatePermStatus`: the old state is taken over, the user-policy bit stays the new one's. -/
def updatePermStatus (permOld permNew : BriefPermData) : BriefPermData :=
  if keepsInitializedState permOld permNew then permNew
  else
    { permNew with
      status := permOld.status
      flag := getFlagWithoutSpecifiedElement permOld.flag permissionRestrictedByAdmin |||
        (permNew.flag &&& permissionRestrictedByAdmin) }

/-- One entry of the merge loop of `Update`; `oldList` is what the token requested before. -/
def mergeOnUpdate (oldList : List BriefPermData) (needUpdatePermByProvision : Bool) (newPermData : BriefPermData) :
    BriefPermData :=
  match oldList.find? (hasCode newPermData.permCode) with
  | none => newPermData
  | some old =>
    if needUpdatePermByProvision && !hasAny old.flag permissionFixedByAdminPolicy then newPermData
    else updatePermStatus old newPermData

def update (tokenId : AccessTokenID) (permStateList : List PermissionStatus) (aclExtendedMap : AclExtendedMap)
    (needUpdatePermByProvision : Bool) : PermissionDataBrief :=
  let permStateFilterList := filterInvalidPermissionState T .tokenHap true permStateList
  let (newList, ext) := getPermissionBriefDataList T tokenId permStateFilterList aclExtendedMap s.extendedValue
  let oldList := s.requestedPermData.getD tokenId []
  addBriefPermDataByTokenId { s with extendedValue := ext } tokenId
    (newList.map (mergeOnUpdate oldList needUpdatePermByProvision))

/-! ## Restoring from the database -/

def getFlagWroteToDb (grantFlag : Flag) : Flag := getFlagWithoutSpecifiedElement grantFlag permissionComponentSet

/-- `DataTranslator::TranslationIntoPermissionStatus`: a row of the permission-state table, if it is well formed. -/
def translationIntoPermissionStatus (row : PermissionStatus) : Option PermissionStatus :=
  if isPermissionNameValid row.permissionName && isPermissionFlagValid row.grantFlag &&
      isGrantStatusValid row.grantStatus then
    some { row with
      grantStatus := if hasAny row.grantFlag permissionAllowThisTime then permissionDenied else row.grantStatus }
  else none

/-- `MergePermBriefData`: a repeated code overwrites the earlier status and flag. -/
def mergePermBriefData (permBriefDataList : List BriefPermData) (data : BriefPermData) : List BriefPermData :=
  let data := { data with flag := getFlagWroteToDb data.flag }
  match permBriefDataList.find? (hasCode data.permCode) with
  | some _ =>
    modifyFirst (hasCode data.permCode) (fun d => { d with status := data.status, flag := data.flag }) permBriefDataList
  | none => permBriefDataList ++ [data]

/-- `TranslationIntoAclExtendedMap`: fails on the first value row with a bad name. -/
def translationIntoAclExtendedMap : List PermissionWithValue → AclExtendedMap → Option AclExtendedMap
  | [], acl => some acl
  | row :: rows, acl =>
    if isPermissionNameValid row.permissionName then
      translationIntoAclExtendedMap rows (acl.insert row.permissionName row.value)
    else none

/-- The loop of `RestorePermissionBriefData` over the rows of the token. -/
def restoreLoop (tokenId : AccessTokenID) (aclExtendedMap : AclExtendedMap) :
    List PermissionStatus → List BriefPermData → ExtendedValueMap → List BriefPermData × ExtendedValueMap
  | [], list, ext => (list, ext)
  | row :: rows, list, ext =>
    match translationIntoPermissionStatus row with
    | none => restoreLoop tokenId aclExtendedMap rows list ext
    | some state =>
      match getPermissionBriefData T tokenId state aclExtendedMap ext with
      | (none, ext) => restoreLoop tokenId aclExtendedMap rows list ext
      | (some data, ext) => restoreLoop tokenId aclExtendedMap rows (mergePermBriefData list data) ext

def restorePermissionBriefData (tokenId : AccessTokenID) (permStateRes : List PermissionStatus)
    (extendedPermRes : List PermissionWithValue) : PermissionDataBrief :=
  match translationIntoAclExtendedMap extendedPermRes ∅ with
  | none => s
  | some aclExtendedMap =>
    let (list, ext) := restoreLoop T tokenId aclExtendedMap permStateRes [] s.extendedValue
    addBriefPermDataByTokenId { s with extendedValue := ext } tokenId list

/-! ## Reading -/

/-- `VerifyPermissionStatus` of a code: the first matching entry decides, then the component grants. -/
def verifyPermissionStatus (permCode : Nat) : Int :=
  match s.requestedPermData[tokenID]? with
  | none => permissionDenied
  | some list =>
    match list.find? (hasCode permCode) with
    | some d => getEffectivePermissionStatus d
    | none => if s.secCompList.contains ⟨permCode, tokenID⟩ then permissionGranted else permissionDenied

def getGrantedPermCodeList : List Nat :=
  match s.requestedPermData[tokenID]? with
  | none => []
  | some list =>
    let opCodeList := (list.filter fun d => getEffectivePermissionStatus d == permissionGranted).map (·.permCode)
    if getTokenIdTypeEnum tokenID ≠ .tokenHap then opCodeList
    else opCodeList ++ (s.secCompList.filter fun c => c.tokenId == tokenID).map (·.permCode)

/-- `QueryPermissionStatusAndFlagInner`: the effective status and the flag of a requested permission. -/
def queryPermissionStatusAndFlagInner (permCode : Nat) :
    Except AccessTokenError (Int × Flag) :=
  match s.requestedPermData[tokenID]? with
  | none => .error .errTokenidNotExist
  | some list =>
    match list.find? (hasCode permCode) with
    | none => .error .errPermissionNotExist
    | some d => .ok (getEffectivePermissionStatus d, d.flag)

/-- `QueryStoredPermissionStatusAndFlag`: the stored status and the flag of a requested permission. -/
def queryStoredPermissionStatusAndFlag (permCode : Nat) :
    Except AccessTokenError (Int × Flag) :=
  match s.requestedPermData[tokenID]? with
  | none => .error .errTokenInvalid
  | some list =>
    match list.find? (hasCode permCode) with
    | none => .error .errPermissionNotExist
    | some d => .ok (d.status, d.flag)

/-- The query with the values its callers initialise: a failed one leaves `PERMISSION_DENIED` and 0. -/
def queriedStatusAndFlag (permCode : Nat) : Int × Flag :=
  match s.queryPermissionStatusAndFlagInner tokenID permCode with
  | .ok r => r
  | .error _ => (permissionDenied, 0)

/-! ## Updating one permission -/

def modifyEntry (tokenId : AccessTokenID) (code : Nat) (f : BriefPermData → BriefPermData) : PermissionDataBrief :=
  { s with requestedPermData := s.requestedPermData.modify tokenId (modifyFirst (hasCode code) f) }

def updateWithNewFlag (oldFlag currFlag : Flag) : Flag :=
  currFlag ||| (oldFlag &&& (permissionPreAuthorizedCancelable ||| permissionRestrictedByAdmin))

/-- `IsRestrictedPermission`: a state fixed by the administrator only changes under an administrator or system flag. -/
def isRestrictedPermission (oldFlag newFlag : Flag) : Bool :=
  (oldFlag &&& permissionFixedByAdminPolicy) == permissionFixedByAdminPolicy &&
    (newFlag &&& permissionFixedByAdminPolicy) == 0 && (newFlag &&& permissionSystemFixed) == 0 &&
    (newFlag &&& permissionAdminPoliciesCancel) == 0

/-- The entry `UpdatePermStateList` writes. -/
def updatedPermState (isGranted : Bool) (flag : Flag) (d : BriefPermData) : BriefPermData :=
  { d with
    status :=
      if (flag &&& permissionAdminPoliciesCancel) == 0 then
        if isGranted then permissionGranted else permissionDenied
      else d.status
    flag := updateWithNewFlag d.flag flag }

def updatePermStateList (tokenId : AccessTokenID) (opCode : Nat) (isGranted : Bool) (flag : Flag) :
    Ret × PermissionDataBrief :=
  match s.requestedPermData[tokenId]? with
  | none => (.error .errTokenInvalid, s)
  | some permBriefDatalist =>
    match permBriefDatalist.find? (hasCode opCode) with
    | none => (.error .errParamInvalid, s)
    | some d =>
      if (d.flag &&& permissionSystemFixed) == permissionSystemFixed then (.error .errParamInvalid, s)
      else if isRestrictedPermission d.flag flag then (.error .errPermissionRestricted, s)
      else if (flag &&& permissionAdminPoliciesCancel) == permissionAdminPoliciesCancel &&
          (d.flag &&& permissionFixedByAdminPolicy) == 0 then (.error .errParamInvalid, s)
      else (.ok (), s.modifyEntry tokenId opCode (updatedPermState isGranted flag))

/-- The flag `SecCompGrantedPermListUpdated` writes to a requested permission. -/
def withComponentFlag (isAdded : Bool) (d : BriefPermData) : BriefPermData :=
  { d with flag := if isAdded then d.flag ||| permissionComponentSet else d.flag &&& ~~~permissionComponentSet }

def secCompGrantedPermListUpdated (permissionName : String) (isAdded : Bool) :
    PermissionDataBrief :=
  match T.transferPermissionToOpcode permissionName with
  | none => s
  | some opCode =>
    if tokenID ∈ s.requestedPermData then
      let secCompList :=
        if isAdded then
          if s.secCompList.contains ⟨opCode, tokenID⟩ then s.secCompList else s.secCompList ++ [⟨opCode, tokenID⟩]
        else s.secCompList.erase ⟨opCode, tokenID⟩
      { s with secCompList := secCompList }.modifyEntry tokenID opCode (withComponentFlag isAdded)
    else s

def updateSecCompGrantedPermList (tokenId : AccessTokenID) (opCode : Nat) (isToGrant : Bool) :
    Ret × PermissionDataBrief :=
  let (status, flag) := s.queriedStatusAndFlag tokenId opCode
  if hasAny flag permissionFixedByAdminPolicy then (.error .errPermissionRestricted, s)
  else
    let permissionName := T.transferOpcodeToPermission opCode
    if isPermOperatedByUser flag || isPermOperatedBySystem flag then
      if isToGrant then
        if status == permissionGranted then (.ok (), s) else (.error .errPermissionDenied, s)
      else (.ok (), secCompGrantedPermListUpdated T s tokenId permissionName false)
    else (.ok (), secCompGrantedPermListUpdated T s tokenId permissionName isToGrant)

/-- The `changeType` computed from the verified status and the flag before and after. -/
def changeTypeOf (oldStatus newStatus : Int) (oldFlag newFlag : Flag) : PermissionStatusChangeType :=
  if oldStatus ≠ newStatus then
    if oldFlag ≠ newFlag then .statusAndFlag else .statusOnly
  else if oldFlag ≠ newFlag then .flagOnly
  else .noChange

/-- `UpdatePermissionStatus`; `changeType` is the caller's variable, initialised to `NO_CHANGE`. -/
def updatePermissionStatus (tokenId : AccessTokenID) (permissionName : String) (isGranted : Bool) (flag : Flag) :
    Ret × PermissionStatusChangeType × PermissionDataBrief :=
  match T.transferPermissionToOpcode permissionName with
  | none => (.error .errParamInvalid, .noChange, s)
  | some opCode =>
    let (ret, s') :=
      if !isPermGrantedBySecComp flag then s.updatePermStateList tokenId opCode isGranted flag
      else updateSecCompGrantedPermList T s tokenId opCode isGranted
    (ret, changeTypeOf (s.verifyPermissionStatus tokenId opCode) (s'.verifyPermissionStatus tokenId opCode)
      (s.queriedStatusAndFlag tokenId opCode).2 (s'.queriedStatusAndFlag tokenId opCode).2, s')

/-- The flag `UpdatePermissionFlag` writes. -/
def maskedFlag (flagMask : Flag) (addFlag : Bool) (flag : Flag) : Flag :=
  if addFlag then flag ||| flagMask else flag &&& ~~~flagMask

def updatePermissionFlag (tokenId : AccessTokenID) (permCode : Nat) (flagMask : Flag) (addFlag : Bool) :
    Except AccessTokenError PermissionStatusChangeType × PermissionDataBrief :=
  match s.requestedPermData[tokenId]? with
  | none => (.error .errTokenidNotExist, s)
  | some list =>
    match list.find? (hasCode permCode) with
    | none => (.error .errPermissionNotExist, s)
    | some d =>
      (.ok (if d.flag = maskedFlag flagMask addFlag d.flag then .noChange else .flagOnly),
        s.modifyEntry tokenId permCode fun d => { d with flag := maskedFlag flagMask addFlag d.flag })

/-! ## Resetting, clearing, deleting, replacing -/

/-- One entry of the loop of `ResetUserGrantPermissionStatus`. -/
def resetPermState (perm : BriefPermData) : BriefPermData :=
  let oldFlag := perm.flag
  let adminFlag := oldFlag &&& (permissionFixedByAdminPolicy ||| permissionRestrictedByAdmin)
  if hasAny oldFlag permissionSystemFixed then perm
  else if hasAny oldFlag permissionPreAuthorizedCancelable then
    { perm with status := permissionGranted, flag := permissionPreAuthorizedCancelable ||| adminFlag }
  else if hasAny oldFlag permissionFixedByAdminPolicy then perm
  else if hasAny oldFlag permissionRestrictedByAdmin then perm
  else { perm with status := permissionDenied, flag := permissionDefaultFlag }

def clearAllSecCompGrantedPermById : PermissionDataBrief :=
  { s with secCompList := s.secCompList.filter fun c => !(c.tokenId == tokenID) }

def resetUserGrantPermissionStatus : Ret × PermissionDataBrief :=
  if tokenID ∈ s.requestedPermData then
    (.ok (), { s with requestedPermData := s.requestedPermData.modify tokenID (List.map resetPermState) }
      |>.clearAllSecCompGrantedPermById tokenID)
  else (.error .errTokenidNotExist, s)

def deleteBriefPermDataByTokenId : Ret × PermissionDataBrief :=
  if tokenID ∈ s.requestedPermData then
    (.ok (),
      { requestedPermData := s.requestedPermData.erase tokenID
        secCompList := s.secCompList.filter fun c => c.tokenId != tokenID
        extendedValue := deleteExtendedValue tokenID s.extendedValue })
  else (.error .errTokenInvalid, s)

/-- `ClearAllSecCompGrantedPerm`: only the list is cleared, the flags stay; the cleared grants are returned. -/
def clearAllSecCompGrantedPerm : List BriefSecCompData × PermissionDataBrief :=
  (s.secCompList, { s with secCompList := [] })

/-- `ReplaceExtendedValueByTokenIdLocked`: an empty list keeps the old values. -/
def replaceExtendedValueByTokenIdLocked (data : List PermissionWithValue) :
    PermissionDataBrief :=
  if data.isEmpty then s
  else
    { s with
      extendedValue := data.foldl (fun ext it =>
        match T.getPermissionBriefDef it.permissionName with
        | some (permDef, permCode) =>
          if permDef.isEnable && permDef.hasValue then ext.insert (extendedKey tokenID permCode) it.value else ext
        | none => ext) (deleteExtendedValue tokenID s.extendedValue) }

def replaceBriefPermDataByTokenId (data : List BriefPermData)
    (aclExtendedList : List PermissionWithValue) : PermissionDataBrief :=
  replaceExtendedValueByTokenIdLocked T (s.addBriefPermDataByTokenId tokenID data) tokenID aclExtendedList

def addBriefPermData (permissionName : String) (grantStatus : Int) (grantFlag : Flag)
    (value : String) : Ret × PermissionDataBrief :=
  let status : PermissionStatus := ⟨permissionName, grantStatus, grantFlag⟩
  match getPermissionBriefData T tokenID status (({} : AclExtendedMap).insert permissionName value) s.extendedValue with
  | (none, _) => (.error .errPermissionNotExist, s)
  | (some data, ext) =>
    match s.requestedPermData[tokenID]? with
    | none => (.error .errTokenInvalid, { s with extendedValue := deleteExtendedValue tokenID ext })
    | some list => (.ok (), { s with extendedValue := ext }.addBriefPermDataByTokenId tokenID
        (mergePermBriefData list data))

def sampleHap : AccessTokenID := 536870913

end PermissionDataBrief
end AccessToken
