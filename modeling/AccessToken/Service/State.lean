import AccessToken.PermissionDataBrief
import AccessToken.TokenIdManager
import AccessToken.UserPolicy.Manager
import Mathlib.Logic.Function.Basic
/-!
# The state of the token service

What the singletons of the service hold between two calls, with the two stores outside the process: the kernel's
permission bits and the tables of the database.  A failing database call changes nothing; whether it fails, and whatever
else the outside decides during a call, is the `Env` of that call.
-/
namespace AccessToken

open Function

/-! ## HAP tokens -/

structure HapTokenInfo where
  ver : BitVec 8
  userID : Int32
  bundleName : String
  apiVersion : Int32
  instIndex : Int32
  dlpType : Int32
  tokenID : AccessTokenID
  tokenAttr : BitVec 32
deriving DecidableEq

structure HapTokenInfoInner extends tokenInfoBasic : HapTokenInfo where
  isRemote : Bool
  isSideloadApp : Bool
deriving DecidableEq

def getHapUniqueStr (userID : Int32) (bundleName : String) (instIndex : Int32) : String :=
  String.ofList (bundleName.toList ++ '&' :: Lib.toDecimal userID.toInt ++ '&' :: Lib.toDecimal instIndex.toInt)

def HapTokenInfoInner.getHapUniqueStr (info : HapTokenInfoInner) : String :=
  AccessToken.getHapUniqueStr info.userID info.bundleName info.instIndex

/-- `DEFAULT_TOKEN_VERSION` as the `char` kept with a token. -/
def defaultTokenVer : BitVec 8 := 1

def systemAppFlag : BitVec 32 := 0x0001
def atomicServiceFlag : BitVec 32 := 0x0002
def tokenReservedFlag : BitVec 32 := 0x0004
def debugAppFlag : BitVec 32 := 0x0008

/-! ## The kernel's permission bits -/

abbrev KernelPerms := AccessTokenID → Nat → Bool

namespace KernelPerms

variable (k : KernelPerms)

def empty : KernelPerms := fun _ _ => false

/-- `AddPermissionToKernel`: the codes replace what the token had. -/
def addPermissionToKernel (tokenID : AccessTokenID) (opCodeList : List Nat) : KernelPerms :=
  update k tokenID fun code => opCodeList.contains code

def setPermissionToKernel (tokenID : AccessTokenID) (code : Nat) (status : Bool) : KernelPerms :=
  update k tokenID (update (k tokenID) code status)

def removePermissionFromKernel (tokenID : AccessTokenID) : KernelPerms := update k tokenID fun _ => false

theorem addPermissionToKernel_apply (t t' : AccessTokenID) (l : List Nat) (c : Nat) :
    k.addPermissionToKernel t l t' c = if t' = t then l.contains c else k t' c := by
  unfold addPermissionToKernel
  rw [update_apply]
  split <;> rfl

theorem setPermissionToKernel_apply (t t' : AccessTokenID) (c c' : Nat) (b : Bool) :
    k.setPermissionToKernel t c b t' c' = if t' = t ∧ c' = c then b else k t' c' := by
  unfold setPermissionToKernel
  rw [update_apply]
  by_cases ht : t' = t
  · subst ht
    rw [if_pos rfl, update_apply]
    simp
  · simp [ht]

theorem removePermissionFromKernel_apply (t t' : AccessTokenID) (c : Nat) :
    k.removePermissionFromKernel t t' c = if t' = t then false else k t' c := by
  unfold removePermissionFromKernel
  rw [update_apply]
  split <;> rfl

end KernelPerms

/-! ## The tables -/

/-- A row of `hap_token_info_table` without its key; `reserved` is written under `SPM_DATA_ENABLE`. -/
structure HapTokenRow where
  userID : Int32
  bundleName : String
  apiVersion : Int32
  instIndex : Int32
  dlpType : Int32
  tokenVersion : BitVec 8
  tokenAttr : BitVec 32
  isSideload : Bool
  reserved : Bool
deriving DecidableEq

/-- The state and flag of a row of `permission_state_table`. -/
structure PermStateRow where
  grantState : Int
  grantFlag : Flag
deriving DecidableEq

abbrev PermStateRows := Std.ExtTreeMap String PermStateRow

@[ext] structure Database where
  hapTokenInfo : Std.ExtTreeMap AccessTokenID HapTokenRow
  permissionState : AccessTokenID → PermStateRows
  extendValue : AccessTokenID → Std.ExtTreeMap String String

namespace Database

def empty : Database := ⟨∅, fun _ => ∅, fun _ => ∅⟩

/-- The rows of one token after the inserts of a transaction that succeeds: the row of a taken name is replaced. -/
def insertPermStates (rows : PermStateRows) (states : List PermissionStatus) : PermStateRows :=
  Lib.insertAll rows (states.map fun s => (s.permissionName, ⟨s.grantStatus, s.grantFlag⟩))

def insertExtendValues (rows : Std.ExtTreeMap String String) (values : List PermissionWithValue) :
    Std.ExtTreeMap String String :=
  Lib.insertAll rows (values.map fun v => (v.permissionName, v.value))

variable (db : Database) (tokenID : AccessTokenID)

/-- `Modify` of the permission-state table for one token and permission; without a row it writes none. -/
def modifyPermissionState (s : PermissionStatus) : Database :=
  { db with
    permissionState := update db.permissionState tokenID
      ((db.permissionState tokenID).modify s.permissionName fun _ => ⟨s.grantStatus, s.grantFlag⟩) }

/-- `Find` of the permission-state table by token, along the primary key. -/
def findPermissionState : List PermissionStatus :=
  (db.permissionState tokenID).toList.map fun e => ⟨e.1, e.2.grantState, e.2.grantFlag⟩

def findExtendValue : List PermissionWithValue :=
  (db.extendValue tokenID).toList.map fun e => ⟨e.1, e.2⟩

def deleteToken : Database where
  hapTokenInfo := db.hapTokenInfo.erase tokenID
  permissionState := update db.permissionState tokenID ∅
  extendValue := update db.extendValue tokenID ∅

def insertToken (row : HapTokenRow) (states : List PermissionStatus)
    (values : List PermissionWithValue) : Database where
  hapTokenInfo := db.hapTokenInfo.insert tokenID row
  permissionState := update db.permissionState tokenID (insertPermStates (db.permissionState tokenID) states)
  extendValue := update db.extendValue tokenID (insertExtendValues (db.extendValue tokenID) values)

end Database

/-! ## Everything -/

/-- `dlpPermissionModeMap_`, from the permission configuration. -/
abbrev DlpPermissionModeMap := Std.ExtTreeMap String Int

/-- The singletons; of the native tokens only the ids, of the tool tokens the user. -/
structure Service extends brief : PermissionDataBrief, idManager : AccessTokenIDManager where
  hapTokenInfoMap : Std.ExtTreeMap AccessTokenID HapTokenInfoInner
  hapTokenIdMap : Std.ExtTreeMap String AccessTokenID
  reservedHapTokenIdMap : Std.ExtTreeMap String AccessTokenID
  remoteDeviceMap : Std.ExtTreeMap String (Std.ExtTreeMap AccessTokenID AccessTokenID)
  nativeTokenInfoMap : Std.ExtTreeSet AccessTokenID
  toolTokenInfoMap : Std.ExtTreeMap AccessTokenID Int32
  policy : UserPolicyManager.Store
  kernel : KernelPerms
  db : Database

def Service.empty : Service where
  brief := .empty
  hapTokenInfoMap := ∅
  hapTokenIdMap := ∅
  reservedHapTokenIdMap := ∅
  remoteDeviceMap := ∅
  nativeTokenInfoMap := ∅
  toolTokenInfoMap := ∅
  idManager := .empty
  policy := .empty
  kernel := .empty
  db := .empty

/-- What the outside decides during one call: whether its database calls succeed (one that inserts under a taken key is
refused, or replaces the row), what the check of the caller answers, the random draws, the parent the kernel names for a
bin token, whether a temporary grant is allowed, and the order a hash set is walked in. -/
structure Env where
  findOk : Bool
  oldStatesOk : Bool
  transactionOk : Bool
  removeOk : Bool
  failingRows : TokenPerms
  rollbackFailingRows : TokenPerms
  policyOk : Bool
  rollbackPolicyOk : Bool
  caller : Ret
  rand : Nat → BitVec 32
  parent : Option AccessTokenID
  allowTemp : Bool
  order : List AccessTokenID → List AccessTokenID
  order_perm : ∀ l, (order l).Perm l

def Env.ok : Env where
  findOk := true
  oldStatesOk := true
  transactionOk := true
  removeOk := true
  failingRows := []
  rollbackFailingRows := []
  policyOk := true
  rollbackPolicyOk := true
  caller := .ok ()
  rand := fun i => BitVec.ofNat 32 (i + 1)
  parent := none
  allowTemp := true
  order := id
  order_perm := fun _ => List.Perm.refl _

end AccessToken
