import AccessToken.Claw.DecisionEngine
import AccessToken.Service.UserPolicy
/-!
# ToolTokenInfoManager — the tokens of command-line tools

`claw_token_info_manager.cpp`, `claw_token_info_inner_base.cpp` and the part of `claw_ticket_manager.cpp` that uses
tickets. A command started for a host app presents a challenge; if its ticket is accepted the process gets a token with
the permissions of the ticket, kept under its id, its host and its pid, with its permissions in the permission data and
the granted ones in the kernel.
-/
namespace AccessToken.Claw

/-! ## Tickets -/

structure ClawTicket where
  callerTokenId : AccessTokenID
  message : String
  ticket : String
deriving DecidableEq

abbrev ClawTicketMap := Std.ExtTreeMap String ClawTicket

def legacyChallengePrefix : List Char := "legacy:".toList

def isLegacyChallenge (challenge : String) : Bool := legacyChallengePrefix.isPrefixOf challenge.toList

/-- `NormalizeLegacyChallenge` and `NormalizeChallengeForValidation`. -/
def normalizeLegacyChallenge (challenge : String) : String :=
  if isLegacyChallenge challenge then String.ofList (challenge.toList.drop legacyChallengePrefix.length) else challenge

/-- `SAF::CliInfo`, what the agent fence returns of a verified command. -/
structure VerifiedCli where
  callerTokenId : String
  cliCmdName : String
  subCliCmdName : String
  permissionList : List String

/-- What the verification of a ticket asks: the user of the host (negative if there is none), and the agent fence. -/
structure TicketAnswers where
  userId : Int32
  verifyRes : Except AccessTokenError (List Int)
  verifiedCliInfos : Except AccessTokenError (List VerifiedCli)

section Tickets

variable (T : PermissionTable) (M : ClawPermissionMetadata) (parse : String → Option CliAuthInfo)

/-- `DeserializeCliAuthInfo` over a JSON reader; the names are C strings there. -/
def deserializeCliAuthInfo (json : String) : Option CliAuthInfo :=
  if json.isEmpty then none
  else
    match parse json with
    | none => none
    | some cliAuth =>
      if cliAuth.permissionNames.length ≠ cliAuth.authorizationResults.length then none
      else some { cliAuth with permissionNames := cliAuth.permissionNames.map cStr }

def ticketStates (ticketValid : Bool) (cliAuth : CliAuthInfo) : List PermissionStatus :=
  (cliAuth.permissionNames.zip cliAuth.authorizationResults).map fun (permissionName, authorizationResult) =>
    { permissionName := permissionName
      grantStatus := if ticketValid && authorizationResult then permissionGranted else permissionDenied
      grantFlag := permissionDefaultFlag }

/-- `VerifyCliClawTicketLegacy` with `PrepareVerifiedTicketInfo`; one ticket is verified. -/
def verifyCliClawTicketLegacy (ticketMap : ClawTicketMap) (answers : TicketAnswers) (hostTokenId : AccessTokenID)
    (challenge : String) (cliInfo : CliInfo) : Except AccessTokenError (List PermissionStatus) :=
  match ticketMap[challenge]? with
  | none => .error .errParamInvalid
  | some ticket =>
    if answers.userId < 0 then .error .errTokenidNotExist
    else
      match answers.verifyRes with
      | .error e => .error e
      | .ok [verifyRes] =>
        if hostTokenId ≠ ticket.callerTokenId then .error .errParamInvalid
        else
          match deserializeCliAuthInfo parse ticket.message with
          | none => .error .errParamInvalid
          | some cliAuth =>
            if cliInfo ≠ cliAuth.cliInfo then .error .errParamInvalid
            else .ok (ticketStates (verifyRes == 0) cliAuth)
      | .ok _ => .error .errParamInvalid

def isReturnedCliInfoMatched (hostTokenId : AccessTokenID) (cliInfo : CliInfo) (verified : VerifiedCli) : Bool :=
  verified.callerTokenId == String.ofList (Lib.toDecimal hostTokenId.toNat) && verified.cliCmdName == cliInfo.cliName &&
    verified.subCliCmdName == cliInfo.subCliName

/-- One name of `AppendGrantedPermissionsByCliPermission`; the set of granted names holds those of the list. -/
def appendGranted (permList : List PermissionStatus) (permissionName : String) : List PermissionStatus :=
  if permList.any (·.permissionName == permissionName) then permList
  else permList ++ [⟨permissionName, permissionGranted, permissionDefaultFlag⟩]

def appendGrantedPermissionsByCliPermission (permList : List PermissionStatus) (requiredCliPermission : String) :
    Except AccessTokenError (List PermissionStatus) := do
  let usedPermissions ← getUsedPermissionsByCliPermission T M requiredCliPermission
  return usedPermissions.foldl appendGranted permList

def verifyCliClawTicketByVerifyInfo (answers : TicketAnswers) (hostTokenId : AccessTokenID) (cliInfo : CliInfo) :
    Except AccessTokenError (List PermissionStatus) :=
  if answers.userId < 0 then .error .errTokenidNotExist
  else
    match answers.verifiedCliInfos with
    | .error e => .error e
    | .ok verifiedCliInfos =>
      let matched := verifiedCliInfos.filter (isReturnedCliInfoMatched hostTokenId cliInfo)
      if matched.isEmpty then .error .errParamInvalid
      else (stableUnique (matched.flatMap (·.permissionList))).foldlM (appendGrantedPermissionsByCliPermission T M) []

/-- `VerifyCliClawTicket`; `enhance` is the build flag `ENHANCE_CAPABILITY`. -/
def verifyCliClawTicket (enhance : Bool) (ticketMap : ClawTicketMap) (answers : TicketAnswers)
    (hostTokenId : AccessTokenID) (challenge : String) (cliInfo : CliInfo) :
    Except AccessTokenError (List PermissionStatus) :=
  let rawChallenge := normalizeLegacyChallenge challenge
  if !enhance && rawChallenge.isEmpty then .ok []
  else if isLegacyChallenge challenge || ticketMap.contains rawChallenge then
    verifyCliClawTicketLegacy parse ticketMap answers hostTokenId rawChallenge cliInfo
  else verifyCliClawTicketByVerifyInfo T M answers hostTokenId cliInfo

/-- `DeleteClawTicket`, whose result is not used. -/
def deleteClawTicket (ticketMap : ClawTicketMap) (challenge : String) : ClawTicketMap :=
  let rawChallenge := normalizeLegacyChallenge challenge
  if rawChallenge.isEmpty then ticketMap else ticketMap.erase rawChallenge

end Tickets

/-! ## The maps of the tokens -/

/-- `ClawTokenBaseInfo` of a CLI token. -/
structure ClawTokenBaseInfo where
  hostTokenId : AccessTokenID
  userId : Int32
  callerPid : Int32
  tokenId : AccessTokenID
  challenge : String
deriving DecidableEq

structure ToolTokenInfoManager where
  toolTokenInfoMap : Std.ExtTreeMap AccessTokenID ClawTokenBaseInfo
  hostToolTokenMap : Std.ExtTreeMap AccessTokenID (Std.ExtTreeSet AccessTokenID)
  pidToolTokenMap : Std.ExtTreeMap Int32 AccessTokenID
  deletingToolTokenIdSet : Std.ExtTreeSet AccessTokenID

namespace ToolTokenInfoManager

def empty : ToolTokenInfoManager := ⟨∅, ∅, ∅, ∅⟩

variable (m : ToolTokenInfoManager)

def addToolTokenInfoLocked (inner : ClawTokenBaseInfo) : Ret × ToolTokenInfoManager :=
  if inner.callerPid < 0 then (.error .errParamInvalid, m)
  else if inner.callerPid ∈ m.pidToolTokenMap then (.error .errToolTokenAlreadyExist, m)
  else
    (.ok (), { m with
      toolTokenInfoMap := m.toolTokenInfoMap.insert inner.tokenId inner
      hostToolTokenMap := m.hostToolTokenMap.insert inner.hostTokenId
        ((m.hostToolTokenMap.getD inner.hostTokenId ∅).insert inner.tokenId)
      pidToolTokenMap := m.pidToolTokenMap.insert inner.callerPid inner.tokenId })

def removeFromHost (hostTokenId tokenId : AccessTokenID) :
    Std.ExtTreeMap AccessTokenID (Std.ExtTreeSet AccessTokenID) :=
  match m.hostToolTokenMap[hostTokenId]? with
  | none => m.hostToolTokenMap
  | some owned =>
    if (owned.erase tokenId).isEmpty then m.hostToolTokenMap.erase hostTokenId
    else m.hostToolTokenMap.insert hostTokenId (owned.erase tokenId)

def removeToolTokenInfoLocked (tokenId : AccessTokenID) : Option ClawTokenBaseInfo × ToolTokenInfoManager :=
  match m.toolTokenInfoMap[tokenId]? with
  | none => (none, m)
  | some inner =>
    (some inner, { m with
      toolTokenInfoMap := m.toolTokenInfoMap.erase tokenId
      hostToolTokenMap := m.removeFromHost inner.hostTokenId tokenId
      pidToolTokenMap :=
        if m.pidToolTokenMap[inner.callerPid]? = some tokenId then m.pidToolTokenMap.erase inner.callerPid
        else m.pidToolTokenMap })

/-- `GetToolTokenIDByUserID`: a set, iterated in some order. -/
def getToolTokenIDByUserID (order : List AccessTokenID → List AccessTokenID) (userId : Int32) : List AccessTokenID :=
  order ((m.toolTokenInfoMap.toList.filter (·.2.userId == userId)).map (·.1))

end ToolTokenInfoManager

structure ToolWorld
    extends tools : ToolTokenInfoManager, idManager : AccessTokenIDManager, brief : PermissionDataBrief where
  tickets : ClawTicketMap
  kernel : KernelPerms

/-- `CliInitInfo` with the pid of the caller. -/
structure CliInit where
  hostTokenId : AccessTokenID
  challenge : String
  cliInfo : CliInfo
  callerPid : Int32

/-- What `InitCliToken` asks others: the tickets, the token of the host, the random words, the policy records, and
whether the kernel takes the permissions and gives them back. -/
structure InitAnswers where
  ticket : TicketAnswers
  hostUser : Except AccessTokenError Int32
  rand : Nat → BitVec 32
  records : UserPolicyRecords
  addKernelOk : Bool
  removeKernelOk : Bool

def maxClawSubCliNameLen : Nat := 256

def maxChallengeLength : Nat := 40960

def checkCliInfo (info : CliInfo) : Bool :=
  !info.cliName.isEmpty && decide (info.cliName.utf8ByteSize ≤ maxLength) &&
    decide (info.subCliName.utf8ByteSize ≤ maxClawSubCliNameLen)

def checkToolInitCommonInput (hostTokenId : AccessTokenID) (challenge : String) : Bool :=
  hostTokenId != invalidTokenId && decide ((normalizeLegacyChallenge challenge).utf8ByteSize ≤ maxChallengeLength)

namespace ToolWorld

variable (T : PermissionTable) (w : ToolWorld)

/-! ## Parts of a state -/

def isEffective (permState : PermissionStatus) : Bool :=
  permState.grantStatus == permissionGranted && !isRestricted permState.grantFlag

def buildGrantedKernelPermList (permStateList : List PermissionStatus) : List String :=
  ((filterInvalidPermissionState T .tokenShell true permStateList).filter fun permState =>
    isEffective permState && (T.getPermissionBriefDef permState.permissionName).any (·.1.isKernelEffect)).map
      (·.permissionName)

/-- `BuildPermStatusList` with the selection of `AddNativePermToKernel`: the op codes of the states that grant. -/
def grantedOpCodes (permStateList : List PermissionStatus) : List Nat :=
  ((filterInvalidPermissionState T .tokenShell true permStateList).filter isEffective).filterMap fun permState =>
    T.transferPermissionToOpcode permState.permissionName

/-- The destructor of `ClawTokenInfoInnerBase`. -/
def destroy (tokenId : AccessTokenID) : ToolWorld :=
  if tokenId ≠ invalidTokenId then { w with brief := (w.brief.deleteBriefPermDataByTokenId tokenId).2 } else w

def release (tokenId : AccessTokenID) : ToolWorld := { w with idManager := w.idManager.releaseTokenId tokenId }

def removePermFromKernel (tokenId : AccessTokenID) : ToolWorld :=
  { w with kernel := w.kernel.removePermissionFromKernel tokenId }

/-- `SetPermToKernel`; `ok` is whether the kernel does it, which is only logged. -/
def setPermToKernel (ok : Bool) (tokenId : AccessTokenID) (permissionName : String) (isGranted : Bool) : ToolWorld :=
  match T.transferPermissionToOpcode permissionName with
  | none => w
  | some code => if ok then { w with kernel := w.kernel.setPermissionToKernel tokenId code isGranted } else w

/-! ## A new token -/

section Init

variable (M : ClawPermissionMetadata) (parse : String → Option CliAuthInfo) (enhance : Bool) (info : CliInit)
  (answers : InitAnswers)

def verifyCliInitInputAndTicket : Except AccessTokenError (List PermissionStatus) :=
  if !checkCliInfo info.cliInfo || !checkToolInitCommonInput info.hostTokenId info.challenge then
    .error .errParamInvalid
  else verifyCliClawTicket T M parse enhance w.tickets answers.ticket info.hostTokenId info.challenge info.cliInfo

/-- The id and object data of a new token, `BuildToolTokenBaseInfo` after the user of the host is known. -/
def createToolTokenId : AccessTokenID × ToolWorld :=
  let (tokenId, idManager) := w.idManager.createAndRegisterTokenId .tokenShell 0 0 1 answers.rand
  (tokenId, { w with idManager := idManager })

/-- `CliTokenInfoInner::Init`. -/
def initPermissionData (tokenId : AccessTokenID) (permStateList : List PermissionStatus) : ToolWorld :=
  { w with brief := w.brief.addPermToBriefPermission T tokenId permStateList ∅ true }

def addNativePermToKernel (tokenId : AccessTokenID) (permStateList : List PermissionStatus) : ToolWorld :=
  { w with kernel := w.kernel.addPermissionToKernel tokenId (grantedOpCodes T permStateList) }

def addToolTokenInfo (inner : ClawTokenBaseInfo) : Ret × ToolWorld :=
  let (ret, tools) := w.tools.addToolTokenInfoLocked inner
  (ret, { w with tools := tools })

/-- `FinalizeToolTokenInit`, and the end of the object if it fails. -/
def finalizeToolTokenInit (base : ClawTokenBaseInfo) (permStateList : List PermissionStatus) :
    Except AccessTokenError (AccessTokenID × List String) × ToolWorld :=
  if !answers.addKernelOk then (.error .errKernelOperationFailed, (w.release base.tokenId).destroy base.tokenId)
  else
    match (w.addNativePermToKernel T base.tokenId permStateList).addToolTokenInfo base with
    | (.error e, w) =>
      -- if the kernel keeps the permissions, the id stays registered
      if !answers.removeKernelOk then (.error .errKernelOperationFailed, w.destroy base.tokenId)
      else (.error e, ((w.removePermFromKernel base.tokenId).release base.tokenId).destroy base.tokenId)
    | (.ok (), w) =>
      (.ok (base.tokenId, buildGrantedKernelPermList T permStateList),
        { w with tickets := deleteClawTicket w.tickets base.challenge })

def initCliToken : Except AccessTokenError (AccessTokenID × List String) × ToolWorld :=
  match w.verifyCliInitInputAndTicket T M parse enhance info answers with
  | .error e => (.error e, w)
  | .ok permStateList =>
    match answers.hostUser with
    | .error e => (.error e, w)
    | .ok userId =>
      let (tokenId, w) := w.createToolTokenId answers
      if tokenId = invalidTokenId then (.error .errTokenidCreateFailed, w)
      else
        let permStateList :=
          UserPolicyManager.updatePermissionStatusListForUserPolicy T answers.records tokenId userId permStateList
        (w.initPermissionData T tokenId permStateList).finalizeToolTokenInit T answers
          ⟨info.hostTokenId, userId, info.callerPid, tokenId, info.challenge⟩ permStateList

end Init

/-! ## The end of a token -/

/-- **`DeleteToolTokenByPid`** running alone. -/
def deleteToolTokenByPid (removeKernelOk : Bool) (pid : Int32) : Ret × ToolWorld :=
  match w.pidToolTokenMap[pid]? with
  | none => (.error .errTokenidNotExist, w)
  | some tokenId =>
    if tokenId ∈ w.deletingToolTokenIdSet then (.error .errTokenidNotExist, w)
    else if !removeKernelOk then (.error .errKernelOperationFailed, w)
    else
      let w := w.removePermFromKernel tokenId
      match w.tools.removeToolTokenInfoLocked tokenId with
      | (none, tools) => (.ok (), { w with tools := tools })
      | (some _, tools) => (.ok (), (({ w with tools := tools }).release tokenId).destroy tokenId)

/-! ## The user policy -/

open Service (UserPolicyRefreshSnapshot RefreshVisit refreshVisits refreshedKernelStatus)

def updateRestrictedFlag (toolTokenId : AccessTokenID) (permCode : Nat) (isRestricted : Bool) : Ret × ToolWorld :=
  if toolTokenId ∈ w.toolTokenInfoMap then
    match w.brief.updatePermissionFlag toolTokenId permCode permissionRestrictedByAdmin isRestricted with
    | (.error e, brief) => (.error e, { w with brief := brief })
    | (.ok _, brief) => (.ok (), { w with brief := brief })
  else (.error .errTokenidNotExist, w)

/-- One token of `RefreshUserPolicyFlagForUser`; `failing` are the bits the kernel fails to set. -/
def refreshVisit (records : UserPolicyRecords) (failing : List (AccessTokenID × Nat))
    (st : ToolWorld × List UserPolicyRefreshSnapshot) (v : RefreshVisit) :
    Ret × (ToolWorld × List UserPolicyRefreshSnapshot) :=
  let (w, appliedSnapshots) := st
  let permCode := v.policy.permCode
  let isRestricted := UserPolicyManager.isPermissionRestricted records v.tokenId v.userId permCode
  match w.queryStoredPermissionStatusAndFlag v.tokenId permCode with
  | .error .errPermissionNotExist => (.ok (), st)
  | .error e => (.error e, st)
  | .ok (originalStatus, originalFlag) =>
    match w.updateRestrictedFlag v.tokenId permCode isRestricted with
    | (.error e, w) => (.error e, (w, appliedSnapshots))
    | (.ok (), w) =>
      let kernelStatusBefore := refreshedKernelStatus originalStatus (AccessToken.isRestricted originalFlag)
      let kernelStatusAfter := refreshedKernelStatus originalStatus isRestricted
      let w :=
        if kernelStatusBefore != kernelStatusAfter then
          w.setPermToKernel T (!failing.contains (v.tokenId, permCode)) v.tokenId
            (T.transferOpcodeToPermission permCode) kernelStatusAfter
        else w
      (.ok (), (w, appliedSnapshots ++ [⟨v.tokenId, permCode, originalStatus, originalFlag⟩]))

def restoreRestrictedFlagForToolToken (snapshot : UserPolicyRefreshSnapshot) : Ret × ToolWorld :=
  match w.queryStoredPermissionStatusAndFlag snapshot.tokenId snapshot.permCode with
  | .error e => (.error e, w)
  | .ok (_, currentFlag) =>
    let originalRestricted := AccessToken.isRestricted snapshot.originalFlag
    if AccessToken.isRestricted currentFlag = originalRestricted then (.ok (), w)
    else
      match w.brief.updatePermissionFlag snapshot.tokenId snapshot.permCode permissionRestrictedByAdmin
          originalRestricted with
      | (.error e, brief) => (.error e, { w with brief := brief })
      | (.ok _, brief) => (.ok (), { w with brief := brief })

/-- One turn of `RollbackUserPolicyFlag`. -/
def rollbackSnapshot (failing : List (AccessTokenID × Nat)) (w : ToolWorld) (snapshot : UserPolicyRefreshSnapshot) :
    ToolWorld :=
  match w.restoreRestrictedFlagForToolToken snapshot with
  | (.error _, w) => w
  | (.ok (), w) =>
    w.setPermToKernel T (!failing.contains (snapshot.tokenId, snapshot.permCode)) snapshot.tokenId
      (T.transferOpcodeToPermission snapshot.permCode)
      (refreshedKernelStatus snapshot.originalStatus (AccessToken.isRestricted snapshot.originalFlag))

/-- **A refresh of the tool tokens by the user policy**: `RefreshUserPolicyFlag`, rolled back if it fails. -/
def refreshUserPolicyFlag (records : UserPolicyRecords) (failing rollbackFailing : List (AccessTokenID × Nat))
    (order : List AccessTokenID → List AccessTokenID) (changedPolicyList : List UserPolicyChange) : Ret × ToolWorld :=
  match Lib.forUntil (refreshVisit T records failing) (w, [])
      (refreshVisits (w.tools.getToolTokenIDByUserID order) changedPolicyList) with
  | (.error e, (w, appliedSnapshots)) =>
    (.error e, appliedSnapshots.reverse.foldl (rollbackSnapshot T rollbackFailing) w)
  | (.ok (), (w, _)) => (.ok (), w)

end ToolWorld

end AccessToken.Claw
