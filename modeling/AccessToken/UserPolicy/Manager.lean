import AccessToken.PermissionMap
import AccessToken.Lib.Decimal
/-!
# UserPolicyManager — which users are cut off from which permissions

`user_policy_manager.cpp`: one record per permission, with the restricted users, the controller that set the policy, the
whitelisted tokens and whether the policy is persisted.  Persisted records have a row in `user_policy_table`, whose
primary key is the permission name.  A database call takes the verdict `dbOk`; a failing call changes nothing.
-/
namespace AccessToken

structure UserPolicyRecord where
  userList : List Int32
  controllerToken : AccessTokenID
  whiteList : Std.ExtTreeSet AccessTokenID
  isPersist : Bool
deriving DecidableEq

/-- A row of `user_policy_table` without its key. -/
structure UserPolicyRow where
  controllerTokenid : Int
  restrictedUser : String
  whitelist : String
deriving DecidableEq

abbrev UserPolicyRecords := Std.ExtTreeMap Nat UserPolicyRecord

abbrev UserPolicyTable := Std.ExtTreeMap String UserPolicyRow

structure UserPolicyItem where
  userId : Int32
  isRestricted : Bool
deriving DecidableEq

structure UserPermissionPolicy where
  permissionName : String
  userPolicyList : List UserPolicyItem
  isPersist : Bool
deriving DecidableEq

structure UserPolicyChange where
  permCode : Nat
  isPersist : Bool
  changedUserList : Std.ExtTreeSet Int32
deriving DecidableEq

inductive UpdateWhiteListType where
  | add | delete
deriving DecidableEq

structure PolicyWhiteListUpdateInfo where
  tokenId : AccessTokenID
  userId : Int32
  permCode : Nat
  type : UpdateWhiteListType
  callerToken : AccessTokenID

namespace UserPolicyManager

/-! ## Text form of the lists -/

def userPolicySeparator : Char := ','

def userPolicyMaxListSize : Nat := 1024

def parseInt32Value (cs : List Char) : Option Int32 :=
  (Lib.fromCharsSigned (-2147483648) 2147483647 cs).map Int32.ofInt

def parseTokenIdValue (cs : List Char) : Option AccessTokenID :=
  (Lib.fromCharsUnsigned 4294967295 cs).map (BitVec.ofNat 32)

def parseUserList (value : String) : Option (List Int32) :=
  Lib.parseList parseInt32Value userPolicySeparator userPolicyMaxListSize value.toList

def parseWhiteTokenList (value : String) : Option (Std.ExtTreeSet AccessTokenID) :=
  (Lib.parseList parseTokenIdValue userPolicySeparator userPolicyMaxListSize value.toList).map
    fun ids => ids.foldl (fun whiteList id => whiteList.insert id) ∅

def serializeUserList (userList : List Int32) : String :=
  String.ofList (Lib.joinFrom userPolicySeparator [] (userList.map fun u => Lib.toDecimal u.toInt))

/-- `SerializeWhiteTokenList`: the ids in ascending order. -/
def serializeWhiteTokenList (whiteList : Std.ExtTreeSet AccessTokenID) : String :=
  String.ofList (Lib.joinFrom userPolicySeparator [] (whiteList.toList.map fun t => Lib.toDecimal (t.toNat : Int)))

/-- `BuildUserPolicyValue`; the controller is stored as an `int32_t`. -/
def buildUserPolicyValue (record : UserPolicyRecord) : UserPolicyRow where
  controllerTokenid := record.controllerToken.toInt
  restrictedUser := serializeUserList record.userList
  whitelist := serializeWhiteTokenList record.whiteList

/-! ## The table -/

/-- `DeleteAndInsertValues`: one transaction, all deletes and then all inserts.  `dbOk` is what the database answers,
also to an insert under a taken key: a refusal, or the row is replaced. -/
def deleteAndInsertValues (dbOk : Bool) (table : UserPolicyTable) (dels : List String)
    (adds : List (String × UserPolicyRow)) : Option UserPolicyTable :=
  if dbOk then some (Lib.insertAll (dels.foldl (fun t name => t.erase name) table) adds) else none

/-! ## Setting and clearing -/

def isSupportedPolicyApl (apl : ATokenAplEnum) : Bool := apl == .aplNormal || apl == .aplSystemBasic

/-- The loop of `UpdateRestrictedUserList`: the new list and the users whose restriction changed. -/
def updateRestrictedUserList : List UserPolicyItem → List Int32 → Std.ExtTreeSet Int32 →
    List Int32 × Std.ExtTreeSet Int32
  | [], restricted, changed => (restricted, changed)
  | item :: items, restricted, changed =>
    if restricted.contains item.userId && !item.isRestricted then
      updateRestrictedUserList items (restricted.erase item.userId) (changed.insert item.userId)
    else if !restricted.contains item.userId && item.isRestricted then
      updateRestrictedUserList items (restricted ++ [item.userId]) (changed.insert item.userId)
    else updateRestrictedUserList items restricted changed

def isUserPolicyRecordSizeValid (record : UserPolicyRecord) : Bool :=
  !record.userList.isEmpty && decide (record.userList.length ≤ userPolicyMaxListSize) &&
    decide (record.whiteList.size ≤ userPolicyMaxListSize)

def isUserPolicyRecordsSizeValid (records : UserPolicyRecords) : Bool :=
  decide (records.size ≤ userPolicyMaxListSize) && records.toList.all fun e => isUserPolicyRecordSizeValid e.2

/-- The loop of `ValidateSetUserPolicy`; `batch` is `batchPolicyPersistFlags`. -/
def validateSetUserPolicyFrom (T : PermissionTable) (records : UserPolicyRecords) (callerToken : AccessTokenID) :
    Std.ExtTreeMap Nat Bool → List UserPermissionPolicy → Except AccessTokenError (List Nat)
  | _, [] => .ok []
  | batch, policy :: userPermissionList =>
    match T.getPermissionBriefDef policy.permissionName with
    | none => .error .errParamInvalid
    | some (briefDef, code) =>
      if !isSupportedPolicyApl briefDef.availableLevel then .error .errParamInvalid
      else if policy.userPolicyList.isEmpty then .error .errParamInvalid
      else
        match batch[code]? with
        | some isPersist =>
          if isPersist ≠ policy.isPersist then .error .errPermPolicyPersistenceFlagNotMatch else .error .errParamInvalid
        | none =>
          if (records[code]?).any fun r => r.controllerToken != callerToken then .error .errPermPolicyAlreadySetByOther
          else if (records[code]?).any fun r => r.isPersist != policy.isPersist then
            .error .errPermPolicyPersistenceFlagNotMatch
          else if policy.userPolicyList.any fun item => !isUserIdValid item.userId then .error .errParamInvalid
          else
            (validateSetUserPolicyFrom T records callerToken (batch.insert code policy.isPersist)
              userPermissionList).map (code :: ·)

def validateSetUserPolicy (T : PermissionTable) (records : UserPolicyRecords)
    (userPermissionList : List UserPermissionPolicy) (callerToken : AccessTokenID) :
    Except AccessTokenError (List Nat) :=
  validateSetUserPolicyFrom T records callerToken ∅ userPermissionList

/-- One permission of `UpdateUserPolicyCache`. -/
def updateUserPolicyCacheStep (callerToken : AccessTokenID)
    (st : UserPolicyRecords × List UserPolicyChange) (e : UserPermissionPolicy × Nat) :
    UserPolicyRecords × List UserPolicyChange :=
  let (next, changes) := st
  let (policy, permCode) := e
  let oldRecord := (next[permCode]?).getD ⟨[], invalidTokenId, ∅, policy.isPersist⟩
  let (userList, changedUserList) := updateRestrictedUserList policy.userPolicyList oldRecord.userList ∅
  -- an empty user list leaves no record for the permission
  let next' :=
    if userList.isEmpty then next.erase permCode
    else next.insert permCode { oldRecord with userList := userList, controllerToken := callerToken }
  (next', if changedUserList.isEmpty then changes else changes ++ [⟨permCode, oldRecord.isPersist, changedUserList⟩])

def updateUserPolicyCache (records : UserPolicyRecords) (userPermissionList : List UserPermissionPolicy)
    (permCodeList : List Nat) (callerToken : AccessTokenID) : UserPolicyRecords × List UserPolicyChange :=
  (userPermissionList.zip permCodeList).foldl (updateUserPolicyCacheStep callerToken) (records, [])

/-- The names whose current row is deleted and the rows that are inserted for the changed permissions. -/
def databaseUpdate (T : PermissionTable) (records next : UserPolicyRecords) (changes : List UserPolicyChange) :
    List String × List (String × UserPolicyRow) :=
  ((changes.filter fun ch => (records[ch.permCode]?).any (·.isPersist)).map fun ch =>
      T.transferOpcodeToPermission ch.permCode,
    changes.filterMap fun ch =>
      ((next[ch.permCode]?).filter (·.isPersist)).map fun r =>
        (T.transferOpcodeToPermission ch.permCode, buildUserPolicyValue r))

/-- `UpdateUserPolicyDatabase`: nothing to write is no database call. -/
def updateUserPolicyDatabase (T : PermissionTable) (dbOk : Bool) (table : UserPolicyTable)
    (records next : UserPolicyRecords) (changes : List UserPolicyChange) : Option UserPolicyTable :=
  let (dels, adds) := databaseUpdate T records next changes
  if dels.isEmpty && adds.isEmpty then some table else deleteAndInsertValues dbOk table dels adds

structure Store where
  records : UserPolicyRecords
  table : UserPolicyTable
deriving DecidableEq

def Store.empty : Store := ⟨∅, ∅⟩

variable (T : PermissionTable) (st : Store)

def setUserPolicy (dbOk : Bool) (userPermissionList : List UserPermissionPolicy) (callerToken : AccessTokenID) :
    Except AccessTokenError (List UserPolicyChange) × Store :=
  match validateSetUserPolicy T st.records userPermissionList callerToken with
  | .error e => (.error e, st)
  | .ok permCodeList =>
    let (next, changes) := updateUserPolicyCache st.records userPermissionList permCodeList callerToken
    if !next.isEmpty && !isUserPolicyRecordsSizeValid next then (.error .errOversize, st)
    else
      match updateUserPolicyDatabase T dbOk st.table st.records next changes with
      | none => (.error .errDatabaseOperateFailed, st)
      | some table => (.ok changes, ⟨next, table⟩)

def validateClearUserPolicy (records : UserPolicyRecords) (callerToken : AccessTokenID) :
    List String → Except AccessTokenError (List Nat)
  | [] => .ok []
  | permission :: permissionList =>
    match T.transferPermissionToOpcode permission with
    | none => .error .errParamInvalid
    | some permCode =>
      match records[permCode]? with
      | none => .error .errPermPolicyNotSet
      | some record =>
        if record.controllerToken ≠ callerToken then .error .errPermPolicyAlreadySetByOther
        else (validateClearUserPolicy records callerToken permissionList).map (permCode :: ·)

/-- What `ClearUserPolicy` stages: the records left, the changes and the names to delete. -/
structure StagedClear where
  records : UserPolicyRecords
  changes : List UserPolicyChange
  dels : List String

def clearUserPolicyStep (staged : StagedClear) (permCode : Nat) : StagedClear :=
  match staged.records[permCode]? with
  | none => staged
  | some record =>
    { records := staged.records.erase permCode
      changes := staged.changes ++
        [⟨permCode, record.isPersist, record.userList.foldl (fun users u => users.insert u) ∅⟩]
      dels := if record.isPersist then staged.dels ++ [T.transferOpcodeToPermission permCode] else staged.dels }

def clearUserPolicy (dbOk : Bool) (permissionList : List String) (callerToken : AccessTokenID) :
    Except AccessTokenError (List UserPolicyChange) × Store :=
  match validateClearUserPolicy T st.records callerToken permissionList with
  | .error e => (.error e, st)
  | .ok permCodeList =>
    let staged := permCodeList.foldl (clearUserPolicyStep T) ⟨st.records, [], []⟩
    let written := if staged.dels.isEmpty then some st.table else deleteAndInsertValues dbOk st.table staged.dels []
    match written with
    | none => (.error .errDatabaseOperateFailed, st)
    | some table => (.ok staged.changes, ⟨staged.records, table⟩)

/-! ## The whitelist -/

def validatePolicyWhiteListUpdateLocked (records : UserPolicyRecords) (context : PolicyWhiteListUpdateInfo) :
    Except AccessTokenError UserPolicyRecord :=
  match records[context.permCode]? with
  | none => .error .errPermPolicyNotSet
  | some record =>
    if record.controllerToken ≠ context.callerToken then .error .errPermPolicyAlreadySetByOther
    else if !record.userList.contains context.userId then .error .errTokenidNotInPolicyUserlist
    else
      match context.type with
      | .add =>
        if context.tokenId ∈ record.whiteList then .error .errTokenidAlreadyInPolicyWhitelist
        else if record.whiteList.size + 1 > userPolicyMaxListSize then .error .errOversize
        else .ok record
      | .delete =>
        if context.tokenId ∈ record.whiteList then .ok record else .error .errTokenidNotInPolicyWhitelist

def updatedWhiteList (context : PolicyWhiteListUpdateInfo) (whiteList : Std.ExtTreeSet AccessTokenID) :
    Std.ExtTreeSet AccessTokenID :=
  match context.type with
  | .add => whiteList.insert context.tokenId
  | .delete => whiteList.erase context.tokenId

/-- `UpdatePolicyWhiteList`; on success it reports whether the policy is persisted.  `Modify` writes the whitelist
column of the row with the name. -/
def updatePolicyWhiteList (dbOk : Bool) (context : PolicyWhiteListUpdateInfo) : Except AccessTokenError Bool × Store :=
  let permission := T.transferOpcodeToPermission context.permCode
  if permission.isEmpty then (.error .errParamInvalid, st)
  else
    match validatePolicyWhiteListUpdateLocked st.records context with
    | .error e => (.error e, st)
    | .ok record =>
      let whiteList := updatedWhiteList context record.whiteList
      let records := st.records.insert context.permCode { record with whiteList := whiteList }
      if record.isPersist then
        if dbOk then
          (.ok true, ⟨records,
            st.table.modify permission fun row => { row with whitelist := serializeWhiteTokenList whiteList }⟩)
        else (.error .errDatabaseOperateFailed, st)
      else (.ok false, ⟨records, st.table⟩)

def removeTokenFromPolicyWhiteList (dbOk : Bool) (tokenId : AccessTokenID) : Ret × Store :=
  let staged := st.records.map fun _ r => { r with whiteList := r.whiteList.erase tokenId }
  let changed := st.records.toList.filter fun e => decide (tokenId ∈ e.2.whiteList)
  let persisted := changed.filter fun e => e.2.isPersist
  let dels := persisted.map fun e => T.transferOpcodeToPermission e.1
  let adds := persisted.map fun e =>
    (T.transferOpcodeToPermission e.1, buildUserPolicyValue { e.2 with whiteList := e.2.whiteList.erase tokenId })
  if changed.isEmpty then (.ok (), st)
  else
    match (if dels.isEmpty && adds.isEmpty then some st.table else deleteAndInsertValues dbOk st.table dels adds) with
    | none => (.error .errDatabaseOperateFailed, st)
    | some table => (.ok (), ⟨staged, table⟩)

/-! ## Reading -/

def isPermissionRestricted (records : UserPolicyRecords) (tokenId : AccessTokenID) (userId : Int32) (permCode : Nat) :
    Bool :=
  match records[permCode]? with
  | none => false
  | some record => !decide (tokenId ∈ record.whiteList) && record.userList.contains userId

def isPolicyPersisted (records : UserPolicyRecords) (permCode : Nat) : Bool := (records[permCode]?).any (·.isPersist)

/-- `UpdatePermissionStatusListForUserPolicy`: the user-policy bit of each state is set to what the records say. -/
def updatePermissionStatusListForUserPolicy (records : UserPolicyRecords) (tokenId : AccessTokenID) (userId : Int32)
    (permStateList : List PermissionStatus) : List PermissionStatus :=
  permStateList.map fun permState =>
    match T.transferPermissionToOpcode permState.permissionName with
    | none => permState
    | some permCode =>
      if isPermissionRestricted records tokenId userId permCode then
        { permState with grantFlag := permState.grantFlag ||| permissionRestrictedByAdmin }
      else
        { permState with
          grantFlag := getFlagWithoutSpecifiedElement permState.grantFlag permissionRestrictedByAdmin }

/-! ## Loading after a restart -/

def recordOfRow (row : UserPolicyRow) : Option UserPolicyRecord :=
  match parseUserList row.restrictedUser, parseWhiteTokenList row.whitelist with
  | some userList, some whiteList =>
    if userList.isEmpty then none else some ⟨userList, BitVec.ofInt 32 row.controllerTokenid, whiteList, true⟩
  | _, _ => none

def loadStep (records : UserPolicyRecords) (e : String × UserPolicyRow) : UserPolicyRecords :=
  match T.transferPermissionToOpcode e.1, recordOfRow e.2 with
  | some permCode, some record => records.insert permCode record
  | _, _ => records

/-- `LoadPersistedPolicies`, on the rows the query found. -/
def loadPersistedPolicies (records : UserPolicyRecords) (results : List (String × UserPolicyRow)) : UserPolicyRecords :=
  results.foldl (loadStep T) (records.filter fun _ r => !r.isPersist)

end UserPolicyManager
end AccessToken
