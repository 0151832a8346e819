import AccessToken.TempPermission.Observer
import AccessToken.Service.Permission
/-!
# The observer and the permission manager

A temporary grant asks the observer, which records it, before the permission is written; the delayed tasks and the end
of an app go the other way, from the observer to `PermissionManager::UpdatePermission`.
-/
namespace AccessToken

open Lib (hasAny)

namespace TempPermission

structure World where
  service : Service
  observer : TempPermissionObserver

/-- What a call meets: the environment of the service, the answers of the managers, and the revocations that fail. -/
structure Surroundings where
  env : Env
  live : LiveState
  failing : TokenPerms

section

variable (T : PermissionTable) (D : DlpPermissionModeMap) (cameraMic : Bool) (sur : Surroundings) (s : World)

/-! ## Granting -/

variable (tokenID : AccessTokenID) (permissionName : String)

def isAllowGrantTempPermission : Bool × World :=
  match s.service.getHapTokenInfo T sur.env tokenID with
  | (none, w) => (false, { s with service := w })
  | (some tokenInfo, w) =>
    if !tempPermission.contains permissionName then (false, { s with service := w })
    else
      let (allowed, o) := s.observer.checkPermissionState cameraMic sur.live tokenID permissionName tokenInfo.bundleName
      (allowed, ⟨w, o⟩)

/-- `UpdateTokenPermissionState`: the check of a temporary grant asks the observer. -/
def updateTokenPermissionState (id : AccessTokenID) (permission : String) (isGranted : Bool) (flag : Flag) :
    Ret × World :=
  match s.service.getHapTokenInfoInner T sur.env.findOk id with
  | (none, w) => (.error .errTokenidNotExist, { s with service := w })
  | (some inner, w) =>
    let s := { s with service := w }
    if inner.isRemote then (.error .errIdentityCheckFailed, s)
    else
      let (allowTemp, s) :=
        if flag == permissionAllowThisTime && isGranted then isAllowGrantTempPermission T cameraMic sur s id permission
        else (true, s)
      let (ret, w) :=
        Service.updateTokenPermissionState T D s.service { sur.env with allowTemp := allowTemp } id permission
        isGranted flag
      (ret, { s with service := w })

def updatePermission (isGranted : Bool) (flag : Flag) : Ret × World :=
  match updateTokenPermissionState T D cameraMic sur s tokenID permissionName isGranted flag with
  | (.error e, s) => (.error e, s)
  | (.ok (), s) =>
    (.ok (), (s.service.getRelatedSandBoxHapList tokenID).foldl
      (fun s id => (updateTokenPermissionState T D cameraMic sur s id permissionName isGranted flag).2) s)

/-- A manual-settings permission needs `OPERABLE_PERM`. -/
def isManualOnly (updateFlag : Int32) : Bool :=
  decide (updateFlag < 1) && (T.getPermissionBriefDef permissionName).any (·.1.grantMode == .manualSettings)

def grantPermission (flag : Flag) (updateFlag : Int32) : Ret × World :=
  if isManualOnly T permissionName updateFlag then (.error .errPermissionNotExist, s)
  else
    match Service.checkPermissionParams T permissionName flag with
    | .error e => (.error e, s)
    | .ok () =>
      match s.service.getHapTokenInfo T sur.env tokenID with
      | (none, w) => (.error .errTokenidNotExist, { s with service := w })
      | (some _, w) => updatePermission T D cameraMic sur { s with service := w } tokenID permissionName true flag

/-! ## Revoking -/

def getPermissionState (w : Service) (tokenID : AccessTokenID) : Option (List PermissionStatus) × Service :=
  match w.getHapTokenInfoInner T sur.env.findOk tokenID with
  | (none, w) => (none, w)
  | (some inner, w) =>
    if inner.isRemote then (none, w) else (w.permissionStateValues T inner.tokenInfoBasic.tokenID, w)

/-- `UpdatePermission` as the observer calls it; a call may fail. -/
def updateRevoked (w : Service) (tokenID : AccessTokenID) (permissionName : String) : Ret × Service :=
  if sur.failing.contains (tokenID, permissionName) then (.error .errServiceAbnormal, w)
  else Service.updatePermission T D w sur.env tokenID permissionName false permissionAllowThisTime

/-- The body of the loop of `RevokeAllTempPermission`, for a state with the flag. -/
def revokeState (s : World) (permissionState : PermissionStatus) : Ret × World :=
  match updateRevoked T D sur s.service tokenID permissionState.permissionName with
  | (.error e, w) => (.error e, { s with service := w })
  | (.ok (), w) =>
    (.ok (), ⟨w, s.observer.cancelTaskOfPermissionRevoking
      (getTempPermissionTaskName tokenID permissionState.permissionName)⟩)

/-- `RevokeAllTempPermission`, with the result of its revocations. -/
def revokeAllTempPermission : Ret × World :=
  match s.observer.getAppStateListByTokenID tokenID with
  | none => (.ok (), s)
  | some _ =>
    match getPermissionState T sur s.service tokenID with
    | (none, w) => (.ok (), { s with service := w })
    | (some tmpList, w) =>
      match Lib.forUntil (revokeState T D sur tokenID) { s with service := w }
          (tmpList.filter fun st => hasAny st.grantFlag permissionAllowThisTime) with
      | (.error e, s) => (.error e, s)
      | (.ok (), s) => (.ok (), { s with observer := s.observer.forgetToken tokenID })

/-- `RevokeTempPermission`, with the result of its revocation. -/
def revokeTempPermission : Ret × World :=
  match getPermissionState T sur s.service tokenID with
  | (none, w) => (.ok (), { s with service := w })
  | (some tmpList, w) =>
    let s := { s with service := w }
    match tmpList.find? (·.permissionName == permissionName) with
    | none => (.ok (), s)
    | some permissionState =>
      if !hasAny permissionState.grantFlag permissionAllowThisTime then (.ok (), s)
      else
        match updateRevoked T D sur s.service tokenID permissionName with
        | (.error e, w) => (.error e, { s with service := w })
        | (.ok (), w) =>
          (.ok (), ⟨w, (s.observer.removeTempPermissionRecord tokenID permissionName).cancelTaskOfPermissionRevoking
            (getTempPermissionTaskName tokenID permissionName)⟩)

/-- `OnAppStopped` of a terminated app, and `OnAppCacheStateChanged`. -/
def onAppStopped : Ret × World :=
  revokeAllTempPermission T D sur { s with observer := s.observer.cancelDelayedTasks tokenID } tokenID

/-- `PermissionManager::RevokePermission` as the observer calls it, for user-granted permissions; a call may fail. -/
def revokePermission (w : Service) (tokenID : AccessTokenID) (permissionName : String) : Ret × Service :=
  if sur.failing.contains (tokenID, permissionName) then (.error .errServiceAbnormal, w)
  else if isManualOnly T permissionName 0 then (.error .errPermissionNotExist, w)
  else Service.checkAndUpdatePermissionInner T D w sur.env tokenID permissionName false permissionAllowThisTime

/-- The revocations of one token in `OnAppMgrRemoteDiedHandle`; a failure is only logged. -/
def revokeStates (acc : Ret × Service) (states : List PermissionStatus) : Ret × Service :=
  states.foldl (fun acc st =>
    let (ret, w) := revokePermission T D sur acc.2 tokenID st.permissionName
    (acc.1.bind fun _ => ret, w)) acc

def revokeAfterDeath (acc : Ret × World) (tokenID : AccessTokenID) : Ret × World :=
  let (states, w) := getPermissionState T sur acc.2.service tokenID
  let (ret, w) := revokeStates T D sur tokenID (acc.1, w)
    ((states.getD []).filter fun st => hasAny st.grantFlag permissionAllowThisTime)
  (ret, ⟨w, acc.2.observer.cancelDelayedTasks tokenID⟩)

/-- `OnAppMgrRemoteDiedHandle`, with the result of its revocations. -/
def onAppMgrRemoteDiedHandle : Ret × World :=
  let (ret, s) := s.observer.tempPermTokenMap.keys.foldl (revokeAfterDeath T D sur) (.ok (), s)
  (ret, { s with
    observer := { s.observer with tempPermTokenMap := ∅, tempPermPermissionMap := ∅, continuousTaskIdMap := ∅ } })

def fireTask : Ret × World :=
  if (tokenID, permissionName) ∈ s.observer.delayedTasks then
    revokeTempPermission T D sur
      { s with
        observer := { s.observer with delayedTasks := s.observer.delayedTasks.erase (tokenID, permissionName) } }
      tokenID permissionName
  else (.ok (), s)

end

/-! ## Runs -/

inductive TempOp where
  | grantPermission (sur : Surroundings) (tokenID : AccessTokenID) (permissionName : String) (flag : Flag)
      (updateFlag : Int32)
  | onAppStateChanged (tokenID : AccessTokenID) (state : TempPermissionObserver.ApplicationState)
  | notifyWhetherFormsVisible (formInstances : List TempPermissionObserver.FormInstance)
  | onContinuousTaskStart (info : ContinuousTaskCallbackInfo)
  | onContinuousTaskUpdate (info : ContinuousTaskCallbackInfo)
  | onContinuousTaskStop (info : ContinuousTaskCallbackInfo)
  | onAppStopped (sur : Surroundings) (tokenID : AccessTokenID)
  | onAppMgrRemoteDiedHandle (sur : Surroundings)
  | fireTask (sur : Surroundings) (tokenID : AccessTokenID) (permissionName : String)

def handle (T : PermissionTable) (D : DlpPermissionModeMap) (cameraMic : Bool) (s : World) : TempOp → Ret × World
  | .grantPermission sur t p flag updateFlag => (.ok (), (grantPermission T D cameraMic sur s t p flag updateFlag).2)
  | .onAppStateChanged t state => (.ok (), { s with observer := s.observer.onAppStateChanged cameraMic t state })
  | .notifyWhetherFormsVisible forms =>
    (.ok (), { s with observer := s.observer.notifyWhetherFormsVisible cameraMic forms })
  | .onContinuousTaskStart info => (.ok (), { s with observer := s.observer.onContinuousTaskStart cameraMic info })
  | .onContinuousTaskUpdate info => (.ok (), { s with observer := s.observer.onContinuousTaskUpdate cameraMic info })
  | .onContinuousTaskStop info => (.ok (), { s with observer := s.observer.onContinuousTaskStop cameraMic info })
  | .onAppStopped sur t => onAppStopped T D sur s t
  | .onAppMgrRemoteDiedHandle sur => onAppMgrRemoteDiedHandle T D sur s
  | .fireTask sur t p => fireTask T D sur s t p

def tempStep (T : PermissionTable) (D : DlpPermissionModeMap) (cameraMic : Bool) (s : World) (op : TempOp) : World :=
  (handle T D cameraMic s op).2

end TempPermission
end AccessToken
