import AccessToken.PermissionMap
/-!
# ClawPermissionDecisionEngine — which command needs a dialog

`claw_permission_metadata_provider.cpp`, `claw_permission_status_helper.cpp`, `claw_permission_decision_engine.cpp` and
the part of `accesstoken_manager_service.cpp` that asks for the tickets of the commands that need no dialog.  The agent
fence and the ticket manager are parameters; the host token enters as its permission-status map.
-/
namespace AccessToken.Claw

open Lib (hasAny)

structure CliInfo where
  cliName : String
  subCliName : String
deriving DecidableEq

inductive PermissionDecisionStatus where
  | needPermissionDialog | noDialogDenied | noDialogRestricted | noDialogGranted | noDialogNotDeclared
  | noDialogCliPermissionResolved
deriving DecidableEq

structure PermissionDialogDetail where
  needPermissionDialog : Bool := false
  permissionNameList : List String := []
  statusList : List PermissionDecisionStatus := []
  authResult : String := ""
deriving DecidableEq

structure CliPermissionDetail where
  requiredCliPermission : String
  cliPermissionStatus : PermissionDecisionStatus
  usedPermissions : List String
deriving DecidableEq

structure CliAuthInfo where
  cliInfo : CliInfo
  permissionNames : List String
  authorizationResults : List Bool
deriving DecidableEq

abbrev PermissionStatusMap := Std.ExtTreeMap String PermissionStatus

/-! ## The metadata -/

/-- What the metadata provider asks: the agent fence for the permissions of a command (its errors as the service hands
them on), and the table of the permissions behind a CLI permission. -/
structure ClawPermissionMetadata where
  queryCommandPermission : CliInfo → Except AccessTokenError (List String)
  cliPermissionMap : String → Option (List String)

/-- One value of the loop of `StableUnique`; the values kept are the values seen. -/
def keepUnique (uniqueValues : List String) (value : String) : List String :=
  if uniqueValues.contains value then uniqueValues else uniqueValues ++ [value]

def stableUnique (values : List String) : List String := values.foldl keepUnique []

section Metadata

variable (T : PermissionTable) (M : ClawPermissionMetadata)

def getRequiredCliPermissions (cliInfo : CliInfo) : Except AccessTokenError (List String) :=
  match M.queryCommandPermission cliInfo with
  | .error e => .error e
  | .ok permissions => .ok (stableUnique permissions)

/-- `GetUsedPermissionsByCliPermission`: a permission without a mapping stands for itself. -/
def getUsedPermissionsByCliPermission (requiredCliPermission : String) : Except AccessTokenError (List String) :=
  if requiredCliPermission.isEmpty then .error .errParamInvalid
  else
    match M.cliPermissionMap requiredCliPermission with
    | some usedPermissions => .ok (stableUnique usedPermissions)
    | none =>
      if T.isDefinedPermissionInner requiredCliPermission then .ok [requiredCliPermission]
      else .error .errPermissionNotExist

end Metadata

/-! ## The status of one permission -/

def isUserDeniedFlag (flag : Flag) : Bool := hasAny flag permissionUserFixed

def isRestrictedFlag (flag : Flag) : Bool :=
  hasAny flag (permissionSystemFixed ||| permissionFixedForSecurityPolicy ||| permissionFixedByAdminPolicy)

def isAllowThisTimeFlag (flag : Flag) : Bool := hasAny flag permissionAllowThisTime

def isGrantedWithoutDialog (status : PermissionStatus) : Bool :=
  status.grantStatus == permissionGranted && !isAllowThisTimeFlag status.grantFlag &&
    status.grantFlag != permissionDefaultFlag

def resolveCliGrantedPermission (permissionStatusMap : PermissionStatusMap) (permissionName : String)
    (cliAuthorizationResult : Bool) : Bool :=
  match permissionStatusMap[permissionName]? with
  | none => cliAuthorizationResult
  | some status =>
    if isGrantedWithoutDialog status then true
    else if isRestrictedFlag status.grantFlag || isUserDeniedFlag status.grantFlag then false
    else cliAuthorizationResult

def decisionOf (status : PermissionStatus) : PermissionDecisionStatus :=
  if isGrantedWithoutDialog status then .noDialogGranted
  else if status.grantStatus == permissionGranted && isAllowThisTimeFlag status.grantFlag then .needPermissionDialog
  else if isRestrictedFlag status.grantFlag then .noDialogRestricted
  else if isUserDeniedFlag status.grantFlag then .noDialogDenied
  else .needPermissionDialog

def getPermissionDecisionStatus (context : PermissionStatusMap) (permissionName : String)
    (notDeclaredStatus : PermissionDecisionStatus) : PermissionDecisionStatus :=
  match context[permissionName]? with
  | none => notDeclaredStatus
  | some status => decisionOf status

/-! ## The detail of one command -/

def appendDialogDetailStatus (detail : PermissionDialogDetail) (permissionName : String)
    (status : PermissionDecisionStatus) : PermissionDialogDetail :=
  if detail.permissionNameList.contains permissionName then detail
  else
    { detail with
      permissionNameList := detail.permissionNameList ++ [permissionName]
      statusList := detail.statusList ++ [status] }

def shouldReturnDialogDetailStatus (status : PermissionDecisionStatus) : Bool :=
  status == .noDialogDenied || status == .noDialogRestricted || status == .noDialogNotDeclared

def hasNotDeclaredStatus (detail : PermissionDialogDetail) : Bool :=
  detail.statusList.any (· == .noDialogNotDeclared)

section Engine

variable (T : PermissionTable) (M : ClawPermissionMetadata) (context : PermissionStatusMap)

def getCliPermissionResolvedStatus (usedPermissions : List String) : PermissionDecisionStatus :=
  if usedPermissions.any fun p => getPermissionDecisionStatus context p .needPermissionDialog ==
    .needPermissionDialog then
    .needPermissionDialog
  else .noDialogCliPermissionResolved

/-- One used permission in the loop of `BuildCliDialogDetailByRequiredPermission`. -/
def appendUsedPermission (detail : PermissionDialogDetail) (usedPermission : String) : PermissionDialogDetail :=
  let usedPermissionStatus := getPermissionDecisionStatus context usedPermission .needPermissionDialog
  if usedPermissionStatus == .needPermissionDialog then detail
  else if shouldReturnDialogDetailStatus usedPermissionStatus then
    appendDialogDetailStatus detail usedPermission usedPermissionStatus
  else detail

def buildCliDialogDetailByRequiredPermission (requiredCliPermission : String) (detail : PermissionDialogDetail) :
    Except AccessTokenError PermissionDialogDetail := do
  let usedPermissions ← getUsedPermissionsByCliPermission T M requiredCliPermission
  let cliPermissionStatus := getPermissionDecisionStatus context requiredCliPermission .noDialogNotDeclared
  let detail :=
    if cliPermissionStatus == .needPermissionDialog then
      { detail with
        needPermissionDialog := getCliPermissionResolvedStatus context usedPermissions == .needPermissionDialog }
    else detail
  let detail :=
    if shouldReturnDialogDetailStatus cliPermissionStatus then
      appendDialogDetailStatus detail requiredCliPermission cliPermissionStatus
    else detail
  if cliPermissionStatus == .noDialogNotDeclared then .ok detail
  else .ok (usedPermissions.foldl (appendUsedPermission context) detail)

/-- One required permission in the loop of `BuildCliPermissionDialogDetail`, with `hasNotDeclaredRequiredPermission`. -/
def dialogDetailStep (st : Bool × PermissionDialogDetail) (requiredCliPermission : String) :
    Except AccessTokenError (Bool × PermissionDialogDetail) := do
  let _ ← getUsedPermissionsByCliPermission T M requiredCliPermission
  let cliPermissionStatus := getPermissionDecisionStatus context requiredCliPermission .noDialogNotDeclared
  if cliPermissionStatus == .noDialogNotDeclared then
    .ok (true, appendDialogDetailStatus { st.2 with needPermissionDialog := false } requiredCliPermission
      cliPermissionStatus)
  else if st.1 then .ok st
  else
    let detail ← buildCliDialogDetailByRequiredPermission T M context requiredCliPermission st.2
    .ok (false, detail)

def buildCliPermissionDialogDetail (cliInfo : CliInfo) (detail : PermissionDialogDetail) :
    Except AccessTokenError PermissionDialogDetail := do
  let requiredCliPermissions ← getRequiredCliPermissions M cliInfo
  let (hasNotDeclaredRequiredPermission, detail) ←
    requiredCliPermissions.foldlM (dialogDetailStep T M context) (false, detail)
  if hasNotDeclaredRequiredPermission && hasNotDeclaredStatus detail then
    .ok { detail with needPermissionDialog := false }
  else .ok detail

def buildCliPermissionDetailByRequiredPermission (requiredCliPermission : String) :
    Except AccessTokenError CliPermissionDetail := do
  let usedPermissions ← getUsedPermissionsByCliPermission T M requiredCliPermission
  let cliPermissionStatus := getPermissionDecisionStatus context requiredCliPermission .noDialogNotDeclared
  if cliPermissionStatus == .noDialogNotDeclared then .ok ⟨requiredCliPermission, cliPermissionStatus, []⟩
  else if cliPermissionStatus == .needPermissionDialog then
    .ok ⟨requiredCliPermission, getCliPermissionResolvedStatus context usedPermissions, usedPermissions⟩
  else .ok ⟨requiredCliPermission, cliPermissionStatus, usedPermissions⟩

/-- `BuildCliPermissionDialogInfo` after the status map of the host is built. -/
def buildCliPermissionDialogInfo (cliInfoList : List CliInfo) : Except AccessTokenError (List PermissionDialogDetail) :=
  cliInfoList.mapM fun cliInfo => buildCliPermissionDialogDetail T M context cliInfo {}

end Engine

/-! ## The tickets of the commands without a dialog -/

def hasDetailWithoutDialog (detailList : List PermissionDialogDetail) : Bool :=
  detailList.any fun detail => !detail.needPermissionDialog

def findPermissionStatusInDetail (detail : PermissionDialogDetail) (permissionName : String) :
    Option PermissionDecisionStatus :=
  ((detail.permissionNameList.zip detail.statusList).find? (·.1 == permissionName)).map (·.2)

def buildCliAuthorizationResults (permissionNames : List String) (detail : PermissionDialogDetail) : List Bool :=
  permissionNames.map fun permissionName => (findPermissionStatusInDetail detail permissionName).isNone

/-- `AppendResolvedPermission`: a repeated permission is authorised when one of its uses is. -/
def appendResolvedPermission (authInfo : CliAuthInfo) (permissionName : String) (authorizationResult : Bool) :
    CliAuthInfo :=
  match authInfo.permissionNames.findIdx? (· == permissionName) with
  | some index =>
    { authInfo with authorizationResults := authInfo.authorizationResults.modify index (· || authorizationResult) }
  | none =>
    { authInfo with
      permissionNames := authInfo.permissionNames ++ [permissionName]
      authorizationResults := authInfo.authorizationResults ++ [authorizationResult] }

section Tickets

variable (T : PermissionTable) (M : ClawPermissionMetadata)

/-- One raw permission in the inner loop of `BuildCliTicketAuthInfos`. -/
def resolvePermission (permissionStatusMap : PermissionStatusMap) (resolved : CliAuthInfo) (raw : String × Bool) :
    Except AccessTokenError CliAuthInfo := do
  let usedPermissions ← getUsedPermissionsByCliPermission T M raw.1
  .ok (usedPermissions.foldl (fun resolved p =>
    appendResolvedPermission resolved p (resolveCliGrantedPermission permissionStatusMap p raw.2)) resolved)

def resolveAuthInfo (permissionStatusMap : PermissionStatusMap) (raw : CliAuthInfo) :
    Except AccessTokenError CliAuthInfo :=
  (raw.permissionNames.zip raw.authorizationResults).foldlM (resolvePermission T M permissionStatusMap)
    ⟨raw.cliInfo, [], []⟩

variable (permissionStatusMap : Except AccessTokenError PermissionStatusMap)

/-- `BuildCliTicketAuthInfos`; `permissionStatusMap` is the answer of `BuildPermissionStatusMap` for the host. -/
def buildCliTicketAuthInfos
    (rawAuthInfoList : List CliAuthInfo) : Except AccessTokenError (List CliAuthInfo) := do
  let permissionStatusMap ← permissionStatusMap
  rawAuthInfoList.mapM (resolveAuthInfo T M permissionStatusMap)

/-- One detail in the loop of `FillCliDialogAuthResultsIfNoDialog`, with `detailIndexes` and `rawAuthInfoList`. -/
def collectRawAuthInfo (acc : List (Nat × CliAuthInfo)) (item : (PermissionDialogDetail × CliInfo) × Nat) :
    Except AccessTokenError (List (Nat × CliAuthInfo)) :=
  let ((detail, cliInfo), index) := item
  if detail.needPermissionDialog then .ok acc
  else if hasNotDeclaredStatus detail then .ok acc
  else do
    let permissionNames ← getRequiredCliPermissions M cliInfo
    .ok (acc ++ [(index, ⟨cliInfo, permissionNames, buildCliAuthorizationResults permissionNames detail⟩)])

/-- The part of `FillCliDialogAuthResultsIfNoDialog` before the ticket manager is asked: the indexes of the details and
the list handed to `GenerateCliTicket`, both empty where it is not called. -/
def cliTicketAuthInfos (cliInfos : List CliInfo)
    (detailList : List PermissionDialogDetail) : Except AccessTokenError (List Nat × List CliAuthInfo) := do
  if !hasDetailWithoutDialog detailList then return ([], [])
  let raw ← (detailList.zip cliInfos).zipIdx.foldlM (collectRawAuthInfo M) []
  if raw.isEmpty then return ([], [])
  let authInfoList ← buildCliTicketAuthInfos T M permissionStatusMap (raw.map (·.2))
  return (raw.map (·.1), authInfoList)

/-- `FillCliDialogAuthResultsIfNoDialog`; `generateCliTicket` is the ticket manager for the host. -/
def fillCliDialogAuthResultsIfNoDialog
    (generateCliTicket : List CliAuthInfo → Except AccessTokenError (List String)) (cliInfos : List CliInfo)
    (detailList : List PermissionDialogDetail) : Except AccessTokenError (List PermissionDialogDetail) := do
  let (detailIndexes, authInfoList) ← cliTicketAuthInfos T M permissionStatusMap cliInfos detailList
  if detailIndexes.isEmpty then return detailList
  let authResults ← generateCliTicket authInfoList
  return (detailIndexes.zip authResults).foldl
    (fun details p => details.modify p.1 fun detail => { detail with authResult := p.2 }) detailList

end Tickets

end AccessToken.Claw
