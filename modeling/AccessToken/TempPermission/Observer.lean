import AccessToken.Basic
import AccessToken.Lib.Decimal
/-!
# TempPermissionObserver — permissions granted for this time

`temp_permission_observer.cpp`.  A permission granted with `PERMISSION_ALLOW_THIS_TIME` is recorded for its token, with
whether the app is in the foreground, whether one of its forms is visible, and the continuous tasks that matter for it.
Each type of permission is kept under a condition on these; an event that ends it posts a delayed task that revokes the
permission, and one that restores it cancels the task.
-/
namespace AccessToken

inductive TempPermissionType where
  | invalidType | locationType | pasteboardType | cameraType | microphoneType | screenCaptureType
deriving DecidableEq

namespace TempPermission

/-- `g_permissionTypeMap`; its keys are the list `g_tempPermission`. -/
def permissionTypeMap : List (String × TempPermissionType) :=
  [("ohos.permission.READ_PASTEBOARD", .pasteboardType),
    ("ohos.permission.APPROXIMATELY_LOCATION", .locationType),
    ("ohos.permission.LOCATION", .locationType),
    ("ohos.permission.LOCATION_IN_BACKGROUND", .locationType),
    ("ohos.permission.CAMERA", .cameraType),
    ("ohos.permission.MICROPHONE", .microphoneType),
    ("ohos.permission.CUSTOM_SCREEN_CAPTURE", .screenCaptureType)]

/-- `g_tempPermission`. -/
def tempPermission : List String := permissionTypeMap.map (·.1)

def getPermissionType (permissionName : String) : TempPermissionType :=
  (permissionTypeMap.lookup permissionName).getD .invalidType

def taskNameTempPermission : List Char := "atm_permission_manager_temp_permission".toList

def getTempPermissionTaskName (tokenID : AccessTokenID) (permissionName : String) : List Char :=
  taskNameTempPermission ++ (Lib.toDecimal tokenID.toNat ++ '#' :: permissionName.toList)

/-! ## Continuous tasks -/

/-- The values of `BackgroundMode` that are looked for. -/
def BackgroundMode.audioRecording : BitVec 32 := 3
def BackgroundMode.location : BitVec 32 := 4
def BackgroundMode.voip : BitVec 32 := 8

def containsTypeId (typeIds : List (BitVec 32)) (type : BitVec 32) : Bool := typeIds.contains type

def hasAudioTaskType (typeIds : List (BitVec 32)) : Bool :=
  containsTypeId typeIds BackgroundMode.audioRecording || containsTypeId typeIds BackgroundMode.voip

/-- `IsMatchedTaskType`; `cameraMic` is the build flag `TEMP_PERMISSION_BACKGROUND_REVOKE_CAMERA_MIC_ENABLE`. -/
def isMatchedTaskType (cameraMic : Bool) (permissionType : TempPermissionType) (typeIds : List (BitVec 32)) : Bool :=
  if permissionType = .locationType then containsTypeId typeIds BackgroundMode.location
  else if cameraMic = true ∧ permissionType = .microphoneType then hasAudioTaskType typeIds
  else false

/-- `ContinuousTaskCallbackInfo`, with the fields the observer reads. -/
structure ContinuousTaskCallbackInfo where
  fullTokenId : BitVec 64
  continuousTaskId : Int32
  typeIds : List (BitVec 32)
deriving DecidableEq

def ContinuousTaskCallbackInfo.tokenID (info : ContinuousTaskCallbackInfo) : AccessTokenID :=
  info.fullTokenId.setWidth 32

/-! ## The keep conditions -/

structure PermissionCheckContext where
  isForeground : Bool
  isFormVisible : Bool
  hasLocationTask : Bool
  hasAudioTask : Bool
deriving DecidableEq

def checkTempPermissionByType (permissionName : String) (context : PermissionCheckContext) : Bool :=
  match getPermissionType permissionName with
  | .cameraType => context.isForeground
  | .microphoneType => context.isForeground || context.hasAudioTask
  | .screenCaptureType => true
  | .pasteboardType => context.isForeground || context.isFormVisible
  | .locationType => context.isForeground || context.isFormVisible || context.hasLocationTask
  | .invalidType => false

/-- The two places of the `std::vector<bool>` of a token. -/
structure AppState where
  foreground : Bool
  forms : Bool
deriving DecidableEq

/-- What the app manager, the form manager and the background-task manager answer, and whether the caller has the
background privilege. -/
structure LiveState where
  foregroundApplications : List AccessTokenID
  hasFormVisible : AccessTokenID → Bool
  continuousTaskApps : List ContinuousTaskCallbackInfo
  isPrivilegedCalling : Bool

end TempPermission

open TempPermission

/-- `TempPermissionObserver`; a delayed task is kept with the token and permission it revokes. -/
structure TempPermissionObserver where
  tempPermTokenMap : Std.ExtTreeMap AccessTokenID AppState
  tempPermPermissionMap : Std.ExtTreeMap AccessTokenID (Std.ExtTreeSet String)
  continuousTaskIdMap : Std.ExtTreeMap AccessTokenID (Std.ExtTreeMap Int32 (List (BitVec 32)))
  formTokenMap : Std.ExtTreeMap String AccessTokenID
  delayedTasks : TokenPerms

namespace TempPermissionObserver

def empty : TempPermissionObserver := ⟨∅, ∅, ∅, ∅, []⟩

variable (cameraMic : Bool) (o : TempPermissionObserver) (tokenID : AccessTokenID)

def getAppStateListByTokenID : Option AppState := o.tempPermTokenMap[tokenID]?

/-- `ModifyAppState`, with the assignment to the place. -/
def modifyAppState (assign : AppState → AppState) : TempPermissionObserver :=
  match o.tempPermTokenMap[tokenID]? with
  | none => o
  | some list => { o with tempPermTokenMap := o.tempPermTokenMap.insert tokenID (assign list) }

def getTokenIDByBundle (bundleName : String) : Option AccessTokenID := o.formTokenMap[bundleName]?

/-- `GetTempPermissionNames`; a token without a record has none. -/
def getTempPermissionNames : List String :=
  match o.tempPermPermissionMap[tokenID]? with
  | none => []
  | some names => names.toList

variable (type : TempPermissionType)

def hasTempPermissionType : Bool :=
  (o.getTempPermissionNames tokenID).any fun p => getPermissionType p == type

/-! ## The records of the continuous tasks -/

def getContinuousTaskTypeIds (continuousTaskId : Int32) : Option (List (BitVec 32)) :=
  (o.continuousTaskIdMap[tokenID]?).bind fun tasks => tasks[continuousTaskId]?

def findContinuousTask : Bool :=
  (o.continuousTaskIdMap[tokenID]?).any fun tasks => tasks.toList.any fun item =>
    isMatchedTaskType cameraMic type item.2

def upsertContinuousTask (continuousTaskId : Int32) (typeIds : List (BitVec 32)) :
    TempPermissionObserver :=
  { o with
    continuousTaskIdMap := o.continuousTaskIdMap.insert tokenID
      ((o.continuousTaskIdMap.getD tokenID ∅).insert continuousTaskId typeIds) }

def removeContinuousTask (continuousTaskId : Int32) : TempPermissionObserver :=
  match o.continuousTaskIdMap[tokenID]? with
  | none => o
  | some tasks =>
    let tasks := tasks.erase continuousTaskId
    { o with
      continuousTaskIdMap :=
        if tasks.isEmpty then o.continuousTaskIdMap.erase tokenID else o.continuousTaskIdMap.insert tokenID tasks }

def associateContinuousTaskIfNeeded (continuousTaskId : Int32) (typeIds : List (BitVec 32)) :
    Bool × TempPermissionObserver :=
  let shouldAssociate :=
    containsTypeId typeIds BackgroundMode.location && o.hasTempPermissionType tokenID .locationType ||
      cameraMic && (hasAudioTaskType typeIds && o.hasTempPermissionType tokenID .microphoneType)
  if shouldAssociate then (true, o.upsertContinuousTask tokenID continuousTaskId typeIds) else (false, o)

/-! ## Delayed tasks -/

def cancelTaskOfPermissionRevoking (taskName : List Char) : TempPermissionObserver :=
  { o with delayedTasks := o.delayedTasks.filter fun x => getTempPermissionTaskName x.1 x.2 != taskName }

def delayRevokePermission (permissionName : String) : TempPermissionObserver :=
  { o with delayedTasks := o.delayedTasks ++ [(tokenID, permissionName)] }

/-- `CancelDelayedTasks(tokenID)`. -/
def cancelDelayedTasks : TempPermissionObserver :=
  (o.getTempPermissionNames tokenID).foldl
    (fun o p => o.cancelTaskOfPermissionRevoking (getTempPermissionTaskName tokenID p)) o

/-- `CancelDelayedTasks(tokenID, type)`. -/
def cancelDelayedTasksByType : TempPermissionObserver :=
  ((o.getTempPermissionNames tokenID).filter fun p => getPermissionType p == type).foldl
    (fun o p => o.cancelTaskOfPermissionRevoking (getTempPermissionTaskName tokenID p)) o

def delayRevokePermissionsByType : TempPermissionObserver :=
  ((o.getTempPermissionNames tokenID).filter fun p => getPermissionType p == type).foldl
    (fun o p => o.delayRevokePermission tokenID p) o

def onlyIf (b : Bool) (f : TempPermissionObserver → TempPermissionObserver) : TempPermissionObserver :=
  if b then f o else o

def handleBackgroundState (list : AppState) : TempPermissionObserver :=
  let o := o.onlyIf cameraMic (·.delayRevokePermissionsByType tokenID .cameraType)
  let o := o.onlyIf (cameraMic && !o.findContinuousTask cameraMic tokenID .microphoneType)
    (·.delayRevokePermissionsByType tokenID .microphoneType)
  let o := o.onlyIf (!list.forms) (·.delayRevokePermissionsByType tokenID .pasteboardType)
  o.onlyIf (!list.forms && !o.findContinuousTask cameraMic tokenID .locationType)
    (·.delayRevokePermissionsByType tokenID .locationType)

def handleFormInvisibleState (list : AppState) : TempPermissionObserver :=
  if list.foreground then o
  else
    let o := o.delayRevokePermissionsByType tokenID .pasteboardType
    if o.findContinuousTask cameraMic tokenID .locationType then o
    else o.delayRevokePermissionsByType tokenID .locationType

def handleContinuousTaskStop (list : AppState) :
    TempPermissionObserver :=
  match type with
  | .locationType =>
    if o.findContinuousTask cameraMic tokenID type then o
    else if list.foreground || list.forms then o
    else o.delayRevokePermissionsByType tokenID type
  | .microphoneType =>
    if o.findContinuousTask cameraMic tokenID type || list.foreground then o
    else o.delayRevokePermissionsByType tokenID type
  | _ => o

/-! ## The events -/

/-- `ApplicationState`, as far as `OnAppStateChanged` tells its values apart. -/
inductive ApplicationState where
  | appStateForeground | appStateBackground | other
deriving DecidableEq

def onAppStateChanged (state : ApplicationState) : TempPermissionObserver :=
  match o.getAppStateListByTokenID tokenID with
  | none => o
  | some list =>
    match state with
    | .appStateForeground => (o.modifyAppState tokenID ({ · with foreground := true })).cancelDelayedTasks tokenID
    | .appStateBackground =>
      (o.modifyAppState tokenID ({ · with foreground := false })).handleBackgroundState cameraMic tokenID list
    | .other => o

inductive FormVisibilityType where
  | unknown | visible | invisible
deriving DecidableEq

/-- `FormInstance`, with the name its visibility is looked up by and what says whose form it is. -/
structure FormInstance where
  bundleName : String
  appIndex : Int32
  userId : Int32
  formVisibility : FormVisibilityType
deriving DecidableEq

/-- The body of the loop of `NotifyWhetherFormsVisible`. -/
def notifyFormInstance (form : FormInstance) : TempPermissionObserver :=
  match o.getTokenIDByBundle form.bundleName with
  | none => o
  | some tokenID =>
    match o.getAppStateListByTokenID tokenID with
    | none => o
    | some list =>
      match form.formVisibility with
      | .visible =>
        (o.modifyAppState tokenID ({ · with forms := true })).cancelDelayedTasksByType tokenID .locationType
      | .invisible =>
        (o.modifyAppState tokenID ({ · with forms := false })).handleFormInvisibleState cameraMic tokenID list
      | .unknown => o

def notifyWhetherFormsVisible (formInstances : List FormInstance) : TempPermissionObserver :=
  formInstances.foldl (notifyFormInstance cameraMic) o

variable (info : ContinuousTaskCallbackInfo)

def onContinuousTaskStart : TempPermissionObserver :=
  match o.getAppStateListByTokenID info.tokenID with
  | none => o
  | some _ =>
    match o.associateContinuousTaskIfNeeded cameraMic info.tokenID info.continuousTaskId info.typeIds with
    | (false, o) => o
    | (true, o) =>
      let o := o.onlyIf (containsTypeId info.typeIds BackgroundMode.location)
        (·.cancelDelayedTasksByType info.tokenID .locationType)
      o.onlyIf (cameraMic && hasAudioTaskType info.typeIds) (·.cancelDelayedTasksByType info.tokenID .microphoneType)

/-- What `OnContinuousTaskUpdate` does for one type of task, from whether the task had and has it. -/
def handleContinuousTaskUpdate (list : AppState) (had has : Bool) :
    TempPermissionObserver :=
  if has then o.cancelDelayedTasksByType tokenID type
  else if had then o.handleContinuousTaskStop cameraMic tokenID type list
  else o

/-- The record `OnContinuousTaskUpdate` writes: a task that is associated is written whatever its types are now. -/
def associateUpdatedTask : Bool × TempPermissionObserver :=
  match o.getContinuousTaskTypeIds info.tokenID info.continuousTaskId with
  | some _ => (true, o.upsertContinuousTask info.tokenID info.continuousTaskId info.typeIds)
  | none => o.associateContinuousTaskIfNeeded cameraMic info.tokenID info.continuousTaskId info.typeIds

def onContinuousTaskUpdate : TempPermissionObserver :=
  match o.getAppStateListByTokenID info.tokenID with
  | none => o
  | some list =>
    let oldTypeIds := (o.getContinuousTaskTypeIds info.tokenID info.continuousTaskId).getD []
    match o.associateUpdatedTask cameraMic info with
    | (false, o) => o
    | (true, o) =>
      let o := o.handleContinuousTaskUpdate cameraMic info.tokenID .locationType list
        (containsTypeId oldTypeIds BackgroundMode.location) (containsTypeId info.typeIds BackgroundMode.location)
      o.onlyIf cameraMic (·.handleContinuousTaskUpdate cameraMic info.tokenID .microphoneType list
        (hasAudioTaskType oldTypeIds) (hasAudioTaskType info.typeIds))

def onContinuousTaskStop : TempPermissionObserver :=
  match o.getAppStateListByTokenID info.tokenID with
  | none => o
  | some list =>
    match o.getContinuousTaskTypeIds info.tokenID info.continuousTaskId with
    | none => o.removeContinuousTask info.tokenID info.continuousTaskId
    | some oldTypeIds =>
      let o := o.removeContinuousTask info.tokenID info.continuousTaskId
      let o := o.onlyIf (containsTypeId oldTypeIds BackgroundMode.location)
        (·.handleContinuousTaskStop cameraMic info.tokenID .locationType list)
      o.onlyIf (cameraMic && hasAudioTaskType oldTypeIds)
        (·.handleContinuousTaskStop cameraMic info.tokenID .microphoneType list)

/-! ## Recording and forgetting -/

def addTempPermTokenToList (bundleName permissionName : String) (list : AppState) :
    TempPermissionObserver :=
  { o with
    tempPermTokenMap := o.tempPermTokenMap.insert tokenID list
    tempPermPermissionMap := o.tempPermPermissionMap.insert tokenID
      ((o.tempPermPermissionMap.getD tokenID ∅).insert permissionName)
    formTokenMap := o.formTokenMap.insert bundleName tokenID }

def associateGrantedPermissionTasks (permissionType : TempPermissionType)
    (continuousTaskList : List ContinuousTaskCallbackInfo) : TempPermissionObserver :=
  (continuousTaskList.filter fun info =>
      info.tokenID == tokenID && isMatchedTaskType cameraMic permissionType info.typeIds).foldl
    (fun o info => (o.associateContinuousTaskIfNeeded cameraMic tokenID info.continuousTaskId info.typeIds).2) o

/-- The context `CheckPermissionState` collects. -/
def collectContext (live : LiveState) (tokenID : AccessTokenID) : PermissionCheckContext where
  isForeground := live.foregroundApplications.contains tokenID
  isFormVisible := live.hasFormVisible tokenID
  hasLocationTask := live.continuousTaskApps.any fun info =>
    info.tokenID == tokenID && containsTypeId info.typeIds BackgroundMode.location
  hasAudioTask := cameraMic && live.continuousTaskApps.any fun info =>
    info.tokenID == tokenID && hasAudioTaskType info.typeIds

def checkPermissionState (live : LiveState) (tokenID : AccessTokenID) (permissionName bundleName : String) :
    Bool × TempPermissionObserver :=
  let context := collectContext cameraMic live tokenID
  let list : AppState := ⟨context.isForeground, context.isFormVisible⟩
  if live.isPrivilegedCalling then (true, o.addTempPermTokenToList tokenID bundleName permissionName list)
  else if !checkTempPermissionByType permissionName context then (false, o)
  else
    (true, (o.addTempPermTokenToList tokenID bundleName permissionName list).associateGrantedPermissionTasks cameraMic
      tokenID (getPermissionType permissionName) live.continuousTaskApps)

/-- The part of `RevokeAllTempPermission` that forgets the token. -/
def forgetToken : TempPermissionObserver :=
  { o with
    continuousTaskIdMap := o.continuousTaskIdMap.erase tokenID
    tempPermTokenMap := o.tempPermTokenMap.erase tokenID
    tempPermPermissionMap := o.tempPermPermissionMap.erase tokenID }

/-- `RemoveTempPermissionRecord`, with the tasks of a token whose last record it was. -/
def removeTempPermissionRecord (permissionName : String) : TempPermissionObserver :=
  match o.tempPermPermissionMap[tokenID]? with
  | none => o
  | some names =>
    let names := names.erase permissionName
    if names.isEmpty then o.forgetToken tokenID
    else { o with tempPermPermissionMap := o.tempPermPermissionMap.insert tokenID names }

end TempPermissionObserver
end AccessToken
