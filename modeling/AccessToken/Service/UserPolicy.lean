import AccessToken.Service.Permission
import Mathlib.Data.List.Dedup
/-!
# The user policy and the flags of the tokens

A change of the user policy is committed to the policy records first; the restricted bit of every token concerned, its
row and its kernel bit are brought in line afterwards (`accesstoken_manager_service.cpp`,
`accesstoken_info_manager.cpp`, `claw_token_info_manager.cpp`).  `serviceStep` puts the operations on tokens,
permissions and the user policy in one machine.
-/
namespace AccessToken

open UserPolicyManager

namespace Service

variable (T : PermissionTable) (w : Service)

/-! ## One permission of one token -/

/-- `UpdateRestrictedFlagToDb`: the first state under the name of the code is written to its row. -/
def updateRestrictedFlagToDb (failingRows : TokenPerms) (tokenId : AccessTokenID) (permCode : Nat) :
    Ret × Service :=
  let permissionName := T.transferOpcodeToPermission permCode
  match w.permissionStateValues T tokenId with
  | none => (.error .errTokenInvalid, w)
  | some permStateValues =>
    match permStateValues.find? (·.permissionName == permissionName) with
    | none => (.error .errPermissionNotExist, w)
    | some permStateValue =>
      if failingRows.contains (tokenId, permissionName) then (.error .errDatabaseOperateFailed, w)
      else (.ok (), { w with db := w.db.modifyPermissionState tokenId permStateValue })

def rollbackRestrictedFlag (tokenId : AccessTokenID) (permCode : Nat) (isRestricted : Bool) : Service :=
  { w with brief := (w.brief.updatePermissionFlag tokenId permCode permissionRestrictedByAdmin !isRestricted).2 }

/-- `UpdateRestrictedFlag`; only the flag of a persistent policy goes to the row. -/
def updateRestrictedFlag (failingRows : TokenPerms) (tokenId : AccessTokenID) (permCode : Nat)
    (isRestricted isPersist : Bool) : Ret × Service :=
  match w.brief.updatePermissionFlag tokenId permCode permissionRestrictedByAdmin isRestricted with
  | (.error e, brief) => (.error e, { w with brief := brief })
  | (.ok changeType, brief) =>
    let w := { w with brief := brief }
    if changeType == .noChange || !isPersist then (.ok (), w)
    else
      match updateRestrictedFlagToDb T w failingRows tokenId permCode with
      | (.ok (), w) => (.ok (), w)
      | (.error e, w) => (.error e, w.rollbackRestrictedFlag tokenId permCode isRestricted)

def refreshedKernelStatus (status : Int) (isRestricted : Bool) : Bool := !isRestricted && status == permissionGranted

def updateRestrictedFlagAndRefreshKernel (failingRows : TokenPerms) (tokenId : AccessTokenID)
    (permCode : Nat) (isRestricted isPersist : Bool) : Ret × Service :=
  match w.queryStoredPermissionStatusAndFlag tokenId permCode with
  | .error e => (.error e, w)
  | .ok (originalStatus, originalFlag) =>
    match updateRestrictedFlag T w failingRows tokenId permCode isRestricted isPersist with
    | (.error e, w) => (.error e, w)
    | (.ok (), w) =>
      let kernelStatusBefore := refreshedKernelStatus originalStatus (AccessToken.isRestricted originalFlag)
      let kernelStatusAfter := refreshedKernelStatus originalStatus isRestricted
      if kernelStatusBefore != kernelStatusAfter then
        (.ok (), w.setPermToKernel T tokenId (T.transferOpcodeToPermission permCode) kernelStatusAfter)
      else (.ok (), w)

/-! ## All tokens of the changed users -/

/-- `UserPolicyRefreshSnapshot`; HAP and tool snapshots are kept in lists of their own. -/
structure UserPolicyRefreshSnapshot where
  tokenId : AccessTokenID
  permCode : Nat
  originalStatus : Int
  originalFlag : Flag
deriving DecidableEq

/-- One turn of the three nested loops of `RefreshUserPolicyFlag`. -/
structure RefreshVisit where
  policy : UserPolicyChange
  userId : Int32
  tokenId : AccessTokenID

/-- The turns over the changed permissions, their changed users and the tokens of each user; no turn changes the maps
the tokens are read from. -/
def refreshVisits (tokensOf : Int32 → List AccessTokenID) (changedPolicyList : List UserPolicyChange) :
    List RefreshVisit :=
  changedPolicyList.flatMap fun policy =>
    policy.changedUserList.toList.flatMap fun userId => (tokensOf userId).map fun tokenId => ⟨policy, userId, tokenId⟩

/-- `GetTokenIDByUserID` without a sub-profile: a set of the ids the objects hold. -/
def getTokenIDByUserID (order : List AccessTokenID → List AccessTokenID) (userID : Int32) : List AccessTokenID :=
  order (((w.hapTokenInfoMap.toList.map fun e => e.2.tokenInfoBasic).filter (·.userID == userID)).map (·.tokenID)).dedup

def getToolTokenIDByUserID (order : List AccessTokenID → List AccessTokenID) (userId : Int32) : List AccessTokenID :=
  order ((w.toolTokenInfoMap.toList.filter (·.2 == userId)).map (·.1))

abbrev Refreshing := Service × List UserPolicyRefreshSnapshot

/-- One token of `RefreshUserPolicyFlagForUser`. -/
def refreshHapVisit (failingRows : TokenPerms) (st : Refreshing) (v : RefreshVisit) :
    Ret × Refreshing :=
  let (w, appliedSnapshots) := st
  let permCode := v.policy.permCode
  let isRestricted := isPermissionRestricted w.policy.records v.tokenId v.userId permCode
  match w.queryStoredPermissionStatusAndFlag v.tokenId permCode with
  | .error .errPermissionNotExist => (.ok (), st)
  | .error e => (.error e, st)
  | .ok (originalStatus, originalFlag) =>
    match updateRestrictedFlagAndRefreshKernel T w failingRows v.tokenId permCode isRestricted v.policy.isPersist with
    | (.error .errPermissionNotExist, w) => (.ok (), (w, appliedSnapshots))
    | (.error e, w) => (.error e, (w, appliedSnapshots))
    | (.ok (), w) => (.ok (), (w, appliedSnapshots ++ [⟨v.tokenId, permCode, originalStatus, originalFlag⟩]))

variable (env : Env)

def refreshUserPolicyFlag (changedPolicyList : List UserPolicyChange) : Ret × Refreshing :=
  Lib.forUntil (refreshHapVisit T env.failingRows) (w, [])
    (refreshVisits (w.getTokenIDByUserID env.order) changedPolicyList)

/-- One token of `ToolTokenInfoManager::RefreshUserPolicyFlagForUser`; tool tokens have no rows. -/
def refreshToolVisit (st : Refreshing) (v : RefreshVisit) : Ret × Refreshing :=
  let (w, appliedSnapshots) := st
  let permCode := v.policy.permCode
  let isRestricted := isPermissionRestricted w.policy.records v.tokenId v.userId permCode
  match w.queryStoredPermissionStatusAndFlag v.tokenId permCode with
  | .error .errPermissionNotExist => (.ok (), st)
  | .error e => (.error e, st)
  | .ok (originalStatus, originalFlag) =>
    match w.brief.updatePermissionFlag v.tokenId permCode permissionRestrictedByAdmin isRestricted with
    | (.error e, brief) => (.error e, ({ w with brief := brief }, appliedSnapshots))
    | (.ok _, brief) =>
      let w := { w with brief := brief }
      let kernelStatusBefore := refreshedKernelStatus originalStatus (AccessToken.isRestricted originalFlag)
      let kernelStatusAfter := refreshedKernelStatus originalStatus isRestricted
      let w :=
        if kernelStatusBefore != kernelStatusAfter then
          w.setPermToKernel T v.tokenId (T.transferOpcodeToPermission permCode) kernelStatusAfter
        else w
      (.ok (), (w, appliedSnapshots ++ [⟨v.tokenId, permCode, originalStatus, originalFlag⟩]))

def refreshToolUserPolicyFlag (changedPolicyList : List UserPolicyChange) : Ret × Refreshing :=
  Lib.forUntil (refreshToolVisit T) (w, []) (refreshVisits (w.getToolTokenIDByUserID env.order) changedPolicyList)

/-! ## Rolling back -/

/-- `RestoreRestrictedFlag` and `RestoreRestrictedFlagForToolToken`. -/
def restoreRestrictedFlag (snapshot : UserPolicyRefreshSnapshot) : Ret × Service :=
  match w.queryStoredPermissionStatusAndFlag snapshot.tokenId snapshot.permCode with
  | .error e => (.error e, w)
  | .ok (_, currentFlag) =>
    let originalRestricted := AccessToken.isRestricted snapshot.originalFlag
    if AccessToken.isRestricted currentFlag = originalRestricted then (.ok (), w)
    else
      match w.brief.updatePermissionFlag snapshot.tokenId snapshot.permCode permissionRestrictedByAdmin
          originalRestricted with
      | (.error e, brief) => (.error e, { w with brief := brief })
      | (.ok _, brief) => (.ok (), { w with brief := brief })

/-- `RestoreKernelPermissionState` and `RestoreToolKernelPermissionState`. -/
def restoreKernelPermissionState (snapshot : UserPolicyRefreshSnapshot) : Service :=
  w.setPermToKernel T snapshot.tokenId (T.transferOpcodeToPermission snapshot.permCode)
    (refreshedKernelStatus snapshot.originalStatus (AccessToken.isRestricted snapshot.originalFlag))

/-- One turn of `RollbackUserPolicyFlag`; the row is written whether or not the policy is persistent. -/
def rollbackHapSnapshot (rollbackFailingRows : TokenPerms) (w : Service)
    (snapshot : UserPolicyRefreshSnapshot) : Service :=
  let w := (w.restoreRestrictedFlag snapshot).2
  let w := (updateRestrictedFlagToDb T w rollbackFailingRows snapshot.tokenId snapshot.permCode).2
  restoreKernelPermissionState T w snapshot

def rollbackUserPolicyFlag (appliedSnapshots : List UserPolicyRefreshSnapshot) : Service :=
  appliedSnapshots.reverse.foldl (rollbackHapSnapshot T env.rollbackFailingRows) w

/-- One turn of `ToolTokenInfoManager::RollbackUserPolicyFlag`. -/
def rollbackToolSnapshot (w : Service) (snapshot : UserPolicyRefreshSnapshot) : Service :=
  match w.restoreRestrictedFlag snapshot with
  | (.error _, w) => w
  | (.ok (), w) => restoreKernelPermissionState T w snapshot

def rollbackToolUserPolicyFlag (appliedSnapshots : List UserPolicyRefreshSnapshot) : Service :=
  appliedSnapshots.reverse.foldl (rollbackToolSnapshot T) w

/-- `RefreshUserPolicyPermState`; the policy records are not part of the rollback. -/
def refreshUserPolicyPermState (changedPolicyList : List UserPolicyChange) : Ret × Service :=
  if changedPolicyList.isEmpty then (.ok (), w)
  else
    match refreshUserPolicyFlag T w env changedPolicyList with
    | (.error e, (w, hapSnapshots)) => (.error e, rollbackUserPolicyFlag T w env hapSnapshots)
    | (.ok (), (w, hapSnapshots)) =>
      match refreshToolUserPolicyFlag T w env changedPolicyList with
      | (.error e, (w, toolSnapshots)) =>
        (.error e, rollbackUserPolicyFlag T (rollbackToolUserPolicyFlag T w toolSnapshots) env hapSnapshots)
      | (.ok (), (w, _)) => (.ok (), w)

/-! ## Service entry points -/

def maxSetUserPolicySize : Nat := 200

def commitUserPolicy (update : Except AccessTokenError (List UserPolicyChange) × Store) :
    Ret × Service :=
  match update with
  | (.error e, policy) => (.error e, { w with policy := policy })
  | (.ok changedPolicyList, policy) => refreshUserPolicyPermState T { w with policy := policy } env changedPolicyList

def setUserPolicy (userPermissionList : List UserPermissionPolicy) (callingToken : AccessTokenID) :
    Ret × Service :=
  match env.caller with
  | .error e => (.error e, w)
  | .ok () =>
    if userPermissionList.isEmpty || decide (userPermissionList.length > maxSetUserPolicySize) then
      (.error .errParamInvalid, w)
    else commitUserPolicy T w env
      (UserPolicyManager.setUserPolicy T w.policy env.policyOk userPermissionList callingToken)

def clearUserPolicy (permissionList : List String) (callingToken : AccessTokenID) : Ret × Service :=
  match env.caller with
  | .error e => (.error e, w)
  | .ok () =>
    if permissionList.isEmpty then (.error .errParamInvalid, w)
    else if !isListSizeValid permissionList.length then (.error .errOversize, w)
    else commitUserPolicy T w env
      (UserPolicyManager.clearUserPolicy T w.policy env.policyOk permissionList callingToken)

/-- `RollbackPolicyWhiteList`: the opposite update, with a failure only logged. -/
def rollbackPolicyWhiteList (context : PolicyWhiteListUpdateInfo) : Service :=
  let type : UpdateWhiteListType := if context.type = .add then .delete else .add
  { w with
    policy := (updatePolicyWhiteList T w.policy env.rollbackPolicyOk { context with type := type }).2 }

def handlePolicyWhiteListUpdate (policyContext : PolicyWhiteListUpdateInfo) : Ret × Service :=
  match updatePolicyWhiteList T w.policy env.policyOk policyContext with
  | (.error e, policy) => (.error e, { w with policy := policy })
  | (.ok isPersist, policy) =>
    match updateRestrictedFlagAndRefreshKernel T { w with policy := policy } env.failingRows policyContext.tokenId
        policyContext.permCode (policyContext.type == .delete) isPersist with
    | (.error e, w) => (.error e, rollbackPolicyWhiteList T w env policyContext)
    | (.ok (), w) => (.ok (), w)

/-- `UpdatePolicyWhiteList`; a `type` that is no `UpdateWhiteListType` is `none`. -/
def updatePolicyWhiteList (tokenId : AccessTokenID) (permCode : Nat) (type : Option UpdateWhiteListType)
    (callingToken : AccessTokenID) : Ret × Service :=
  match env.caller with
  | .error e => (.error e, w)
  | .ok () =>
    match type with
    | none => (.error .errParamInvalid, w)
    | some updateType =>
      if tokenId == invalidTokenId || w.getTokenIdType tokenId != .tokenHap then (.error .errParamInvalid, w)
      else if (T.transferOpcodeToPermission permCode).isEmpty then (.error .errParamInvalid, w)
      else
        match getHapTokenInfo T w env tokenId with
        | (none, w) => (.error .errParamInvalid, w)
        | (some hapInfo, w) =>
          handlePolicyWhiteListUpdate T w env ⟨tokenId, hapInfo.userID, permCode, updateType, callingToken⟩

/-! ## The operations -/

inductive ServiceOp where
  | createHapTokenInfo (env : Env) (info : HapInfoParams) (policy : HapPolicy)
  | updateHapToken (env : Env) (tokenID : AccessTokenID) (info : UpdateHapInfoParams)
      (permStateList : List PermissionStatus) (hapPolicy : HapPolicy)
  | removeHapTokenInfo (env : Env) (id : AccessTokenID) (isTokenReserved : Bool)
  | getHapTokenInfo (env : Env) (tokenID : AccessTokenID)
  | grantPermission (env : Env) (tokenID : AccessTokenID) (permissionName : String) (flag : Flag) (updateFlag : Int32)
  | revokePermission (env : Env) (tokenID : AccessTokenID) (permissionName : String) (flag : Flag) (updateFlag : Int32)
  | setPermissionStatusWithPolicy (env : Env) (tokenID : AccessTokenID) (permissionList : List String) (status : Int)
      (flag : Flag)
  | clearUserGrantedPermissionState (env : Env) (tokenID : AccessTokenID)
  | clearAllSecCompGrantedPerm
  | setUserPolicy (env : Env) (userPermissionList : List UserPermissionPolicy) (callingToken : AccessTokenID)
  | clearUserPolicy (env : Env) (permissionList : List String) (callingToken : AccessTokenID)
  | updatePolicyWhiteList (env : Env) (tokenId : AccessTokenID) (permCode : Nat) (type : Option UpdateWhiteListType)
      (callingToken : AccessTokenID)

def serviceStep (T : PermissionTable) (D : DlpPermissionModeMap) (w : Service) : ServiceOp → Service
  | .createHapTokenInfo env info policy => (createHapTokenInfo T D w env info policy).2
  | .updateHapToken env id info states policy => (updateHapToken T w env id info states policy).2
  | .removeHapTokenInfo env id reserved => (w.removeHapTokenInfo env.removeOk false id reserved).2
  | .getHapTokenInfo env id => (getHapTokenInfo T w env id).2
  | .grantPermission env id n fl updateFlag => (grantPermission T D w env id n fl updateFlag).2
  | .revokePermission env id n fl updateFlag => (revokePermission T D w env id n fl updateFlag).2
  | .setPermissionStatusWithPolicy env id perms status fl =>
    (setPermissionStatusWithPolicy T D w env id perms status fl).2
  | .clearUserGrantedPermissionState env id => (clearUserGrantedPermissionState T D w env id).2
  | .clearAllSecCompGrantedPerm => w.clearAllSecCompGrantedPerm
  | .setUserPolicy env list caller => (setUserPolicy T w env list caller).2
  | .clearUserPolicy env list caller => (clearUserPolicy T w env list caller).2
  | .updatePolicyWhiteList env id c type caller => (updatePolicyWhiteList T w env id c type caller).2

end Service
end AccessToken
