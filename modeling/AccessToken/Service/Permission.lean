import AccessToken.Service.TokenInfo
import AccessToken.Lib.Loop
/-!
# PermissionManager — granting and revoking

`permission_manager.cpp` with `HapTokenInfoInner::UpdatePermissionStatus`, and the service entry points in front of it.
A change of the verified status is pushed to the kernel as the requested grant, unless the user policy restricts the
permission.
-/
namespace AccessToken

open Lib (hasAny)

namespace Service

variable (T : PermissionTable) (D : DlpPermissionModeMap) (w : Service)

/-- `g_shortGrantPermission`. -/
def shortGrantPermission : List String := ["ohos.permission.SHORT_TERM_WRITE_IMAGEVIDEO"]

def isShortGrantPermission (permissionName : String) : Bool := shortGrantPermission.contains permissionName

/-- The writes of `UpdatePermissionStatus` to the rows of the permission; their failure is not looked at. -/
def writePermissionState (failingRows : TokenPerms) (tokenID : AccessTokenID) (permissionName : String)
    (permStateValues : List PermissionStatus) : Service :=
  if failingRows.contains (tokenID, permissionName) then w
  else
    { w with
      db := (permStateValues.filter (·.permissionName == permissionName)).foldl
        (fun db s => db.modifyPermissionState tokenID s) w.db }

variable (env : Env)

/-- `HapTokenInfoInner::UpdatePermissionStatus`, with the `statusChanged` it reports. -/
def updatePermissionStatus (inner : HapTokenInfoInner) (permissionName : String) (isGranted : Bool)
    (flag : Flag) : Except AccessTokenError Bool × Service :=
  let tokenID := inner.tokenID
  match w.brief.updatePermissionStatus T tokenID permissionName isGranted flag with
  | (.error e, _, brief) => (.error e, { w with brief := brief })
  | (.ok (), changeType, brief) =>
    let w := { w with brief := brief }
    let statusChanged := changeType == .statusOnly || changeType == .statusAndFlag
    if isShortGrantPermission permissionName || inner.isRemote || changeType == .noChange then (.ok statusChanged, w)
    else
      match brief.permissionStateValues T tokenID with
      | none => (.error .errTokenInvalid, w)
      | some values => (.ok statusChanged, w.writePermissionState env.failingRows tokenID permissionName values)

variable (tokenID : AccessTokenID) (permissionName : String)

def setPermToKernel (isGranted : Bool) : Service :=
  match T.transferPermissionToOpcode permissionName with
  | none => w
  | some code => { w with kernel := w.kernel.setPermissionToKernel tokenID code isGranted }

variable (inner : HapTokenInfoInner)

/-- `NotifyWhenPermissionStateUpdated`, as far as it touches the kernel. -/
def notifyWhenPermissionStateUpdated (permissionName : String) (isGranted : Bool) : Service :=
  let tokenID := inner.tokenID
  let permCode := (T.transferPermissionToOpcode permissionName).getD 0
  let isGrantedBefore := w.kernel tokenID permCode
  let isRestricted :=
    UserPolicyManager.isPermissionRestricted w.policy.records tokenID inner.userID permCode
  let effectiveGranted := isGranted && !isRestricted
  if isGrantedBefore != effectiveGranted then w.setPermToKernel T tokenID permissionName effectiveGranted else w

/-- The update of one token and the push of a changed status, common to both `UpdateTokenPermissionState`. -/
def updateAndNotify (permission : String) (isGranted : Bool) (flag : Flag) :
    Ret × Service :=
  match updatePermissionStatus T w env inner permission isGranted flag with
  | (.error e, w) => (.error e, w)
  | (.ok statusChanged, w) =>
    (.ok (), if statusChanged then w.notifyWhenPermissionStateUpdated T inner permission isGranted else w)

def updateTokenPermissionStateCheck (permission : String) (isGranted : Bool)
    (flag : Flag) : Ret :=
  if inner.isRemote then .error .errIdentityCheckFailed
  else if flag == permissionAllowThisTime && isGranted && !env.allowTemp then .error .errIdentityCheckFailed
  else if isPermDlpModeAvailableToDlpHap inner.dlpType (getPermDlpMode D permission) then .ok ()
  else .error .errIdentityCheckFailed

def updateTokenPermissionState (id : AccessTokenID) (permission : String) (isGranted : Bool) (flag : Flag) :
    Ret × Service :=
  match getHapTokenInfoInner T w env.findOk id with
  | (none, w) => (.error .errTokenidNotExist, w)
  | (some inner, w) =>
    match updateTokenPermissionStateCheck D env inner permission isGranted flag with
    | .error e => (.error e, w)
    | .ok () => updateAndNotify T w env inner permission isGranted flag

def updatePermission (isGranted : Bool) (flag : Flag) :
    Ret × Service :=
  match updateTokenPermissionState T D w env tokenID permissionName isGranted flag with
  | (.error e, w) => (.error e, w)
  | (.ok (), w) =>
    (.ok (), (w.getRelatedSandBoxHapList tokenID).foldl
      (fun w id => (updateTokenPermissionState T D w env id permissionName isGranted flag).2) w)

/-! ## Grant and revoke -/

def checkPermissionParams (flag : Flag) : Ret :=
  if !isPermissionNameValid permissionName then .error .errParamInvalid
  else if !T.isDefinedPermissionInner permissionName then .error .errPermissionNotExist
  else if !isPermissionFlagValid flag || isAdminPermissionFlag flag then .error .errParamInvalid
  else .ok ()

def checkAndUpdatePermissionInner (isGranted : Bool)
    (flag : Flag) : Ret × Service :=
  match checkPermissionParams T permissionName flag with
  | .error e => (.error e, w)
  | .ok () =>
    match getHapTokenInfo T w env tokenID with
    | (none, w) => (.error .errTokenidNotExist, w)
    | (some _, w) => updatePermission T D w env tokenID permissionName isGranted flag

/-- `CheckPermissionUpdateParam`; `updateFlag` is `USER_GRANTED_PERM` or `OPERABLE_PERM`. -/
def checkPermissionUpdateParam (flag : Flag) (updateFlag : Int32) :
    Ret :=
  if tokenID == invalidTokenId then .error .errParamInvalid
  else if AccessTokenIDInner.renderFlag tokenID ≠ 0 then .error .errTokenidNotExist
  else if !isPermissionNameValid permissionName then .error .errParamInvalid
  else if !isPermissionFlagValid flag || isAdminPermissionFlag flag then .error .errParamInvalid
  else if updateFlag == 0 || updateFlag == 1 then .ok ()
  else .error .errParamInvalid

/-- `AccessTokenManagerService::GrantPermission` (`isGranted`) and `RevokePermission`: a manual-settings permission
needs `OPERABLE_PERM`. -/
def changePermission (isGranted : Bool) (flag : Flag)
    (updateFlag : Int32) : Ret × Service :=
  match checkPermissionUpdateParam tokenID permissionName flag updateFlag with
  | .error e => (.error e, w)
  | .ok () =>
    match env.caller with
    | .error e => (.error e, w)
    | .ok () =>
      if decide (updateFlag < 1) && (T.getPermissionBriefDef permissionName).any (·.1.grantMode == .manualSettings) then
        (.error .errPermissionNotExist, w)
      else checkAndUpdatePermissionInner T D w env tokenID permissionName isGranted flag

def grantPermission (flag : Flag) (updateFlag : Int32) :
    Ret × Service :=
  changePermission T D w env tokenID permissionName true flag updateFlag

def revokePermission (flag : Flag) (updateFlag : Int32) :
    Ret × Service :=
  changePermission T D w env tokenID permissionName false flag updateFlag

/-! ## Several permissions under an administrator's flag -/

/-- `UpdateMultiTokenPermissionState`: whatever `tokenID` is, the object written is `inner`. -/
def updateMultiTokenPermissionState (tokenID : AccessTokenID)
    (permissionList : List String) (isGranted : Bool) (flag : Flag) : Ret × Service :=
  match getHapTokenInfo T w env tokenID with
  | (none, w) => (.error .errTokenidNotExist, w)
  | (some _, w) =>
    Lib.forUntil (fun w permissionName => updateAndNotify T w env inner permissionName isGranted flag) w permissionList

def updateMultiTokenPermissionStateCheck (permissionList : List String) : Ret :=
  if inner.isRemote then .error .errIdentityCheckFailed
  else if permissionList.all fun p =>
      isPermDlpModeAvailableToDlpHap inner.dlpType (getPermDlpMode D p) then .ok ()
  else .error .errIdentityCheckFailed

def updateMultiPermissionStatus (permissionList : List String) (status : Int)
    (flag : Flag) : Ret × Service :=
  let isGranted := status == permissionGranted
  match getHapTokenInfoInner T w env.findOk tokenID with
  | (none, w) => (.error .errTokenidNotExist, w)
  | (some inner, w) =>
    match updateMultiTokenPermissionStateCheck D inner permissionList with
    | .error e => (.error e, w)
    | .ok () =>
      match updateMultiTokenPermissionState T w env inner tokenID permissionList isGranted flag with
      | (.error e, w) => (.error e, w)
      | (.ok (), w) =>
        (.ok (), (w.getRelatedSandBoxHapList tokenID).foldl
          (fun w id => (updateMultiTokenPermissionState T w env inner id permissionList isGranted flag).2) w)

def checkMultiPermission : Ret :=
  if !isPermissionNameValid permissionName then .error .errParamInvalid
  else if !T.isDefinedPermissionInner permissionName then .error .errPermissionNotExist
  else if !T.isUserGrantPermission permissionName then .error .errParamInvalid
  else .ok ()

def checkMultiPermissionStatus (permissionList : List String) (status : Int) (flag : Flag) : Ret :=
  if !isGrantStatusValid status || !isPermissionFlagValidForAdmin flag then .error .errParamInvalid
  else permissionList.forM (checkMultiPermission T)

def maxListSize : Nat := 1024

def isListSizeValid (size : Nat) : Bool := !(size == 0 || decide (size > maxListSize))

def setPermissionStatusWithPolicy (permissionList : List String) (status : Int)
    (flag : Flag) : Ret × Service :=
  match env.caller with
  | .error e => (.error e, w)
  | .ok () =>
    if tokenID == invalidTokenId || !isListSizeValid permissionList.length then (.error .errParamInvalid, w)
    else
      match checkMultiPermissionStatus T permissionList status flag with
      | .error e => (.error e, w)
      | .ok () => updateMultiPermissionStatus T D w env tokenID permissionList status flag

end Service
end AccessToken
