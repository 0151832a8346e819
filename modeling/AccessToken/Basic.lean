import AccessToken.Lib.Mask
import AccessToken.Lib.OrderedMap
/-!
# Token ids, permission states and permission flags

The fixed-width words the whole service is built on: the 32-bit `AccessTokenID` with its bit fields
(`access_token_basic_type.h`), the grant states, and the permission flags (`access_token.h`) with the tests
`ConstantCommon` makes of them.
-/
namespace AccessToken

open Lib (hasAny)

/-- `AccessTokenID`, an `unsigned int` read through the bit fields of `AccessTokenIDInner`. -/
abbrev AccessTokenID := BitVec 32

-- the laws that maps and lists keyed by an id rest on, as constants of their own
instance : Std.TransOrd AccessTokenID := BitVec.instTransOrd

instance : Std.LawfulEqOrd AccessTokenID := inferInstance

instance : LawfulBEq (AccessTokenID × String) := inferInstance

/-- Permissions of tokens, by name. -/
abbrev TokenPerms := List (AccessTokenID × String)

def invalidTokenId : AccessTokenID := 0

def defaultTokenVersion : BitVec 3 := 1

/-- `ATokenTypeEnum`; a two-bit field can also hold `TOKEN_TYPE_BUTT`. -/
inductive ATokenTypeEnum where
  | tokenInvalid | tokenHap | tokenNative | tokenShell | tokenTypeButt
deriving DecidableEq

namespace AccessTokenIDInner

variable (id : AccessTokenID)

def tokenUniqueID : BitVec 20 := id.extractLsb' 0 20
def toolFlag : BitVec 1 := id.extractLsb' 20 1
def res : BitVec 2 := id.extractLsb' 21 2
def typeExt : BitVec 1 := id.extractLsb' 23 1
def cloneFlag : BitVec 1 := id.extractLsb' 24 1
def renderFlag : BitVec 1 := id.extractLsb' 25 1
def dlpFlag : BitVec 1 := id.extractLsb' 26 1
def type : BitVec 2 := id.extractLsb' 27 2
def version : BitVec 3 := id.extractLsb' 29 3

def pack (version : BitVec 3) (type : BitVec 2) (dlpFlag renderFlag cloneFlag typeExt : BitVec 1) (res : BitVec 2)
    (toolFlag : BitVec 1) (tokenUniqueID : BitVec 20) : AccessTokenID :=
  version ++ type ++ dlpFlag ++ renderFlag ++ cloneFlag ++ typeExt ++ res ++ toolFlag ++ tokenUniqueID

end AccessTokenIDInner

def ATokenTypeEnum.toInt : ATokenTypeEnum → Int
  | .tokenInvalid => -1
  | .tokenHap => 0
  | .tokenNative => 1
  | .tokenShell => 2
  | .tokenTypeButt => 3

/-- The value stored in the two-bit `type` field, truncated as a bit field truncates it. -/
def ATokenTypeEnum.toField (t : ATokenTypeEnum) : BitVec 2 := BitVec.ofInt 2 t.toInt

def ATokenTypeEnum.ofField (f : BitVec 2) : ATokenTypeEnum :=
  if f = 0 then .tokenHap else if f = 1 then .tokenNative else if f = 2 then .tokenShell else .tokenTypeButt

theorem ATokenTypeEnum.ofField_of_toInt {f : BitVec 2} {t : ATokenTypeEnum} (h : (f.toNat : Int) = t.toInt) :
    ofField f = t := by
  revert f
  cases t <;> decide

def getTokenIdTypeEnum (id : AccessTokenID) : ATokenTypeEnum :=
  ATokenTypeEnum.ofField (AccessTokenIDInner.type id)

/-! ## Permission states -/

/-- `PERMISSION_GRANTED`. Grant states are kept as `int8_t` or `int32_t`; only equality with the two states is used. -/
def permissionGranted : Int := 0

def permissionDenied : Int := -1

/-! ## Permission flags -/

abbrev Flag := BitVec 32

def permissionDefaultFlag : Flag := 0
def permissionUserSet : Flag := 1#32 <<< 0
def permissionUserFixed : Flag := 1#32 <<< 1
def permissionSystemFixed : Flag := 1#32 <<< 2
def permissionPreAuthorizedCancelable : Flag := 1#32 <<< 3
def permissionComponentSet : Flag := 1#32 <<< 4
def permissionFixedForSecurityPolicy : Flag := 1#32 <<< 5
def permissionAllowThisTime : Flag := 1#32 <<< 6
def permissionFixedByAdminPolicy : Flag := 1#32 <<< 7
def permissionAdminPoliciesCancel : Flag := 1#32 <<< 8
def permissionRestrictedByAdmin : Flag := 1#32 <<< 9

def isPermOperatedByUser (flag : Flag) : Bool := hasAny flag permissionUserFixed || hasAny flag permissionUserSet

def isPermOperatedBySystem (flag : Flag) : Bool :=
  hasAny flag permissionSystemFixed || hasAny flag permissionPreAuthorizedCancelable

def isPermGrantedBySecComp (flag : Flag) : Bool := hasAny flag permissionComponentSet

def getFlagWithoutSpecifiedElement (fullFlag removedFlag : Flag) : Flag := fullFlag &&& ~~~removedFlag

/-- The test `(flag & PERMISSION_RESTRICTED_BY_ADMIN) != 0` made throughout the service. -/
def isRestricted (flag : Flag) : Bool := hasAny flag permissionRestrictedByAdmin

@[simp] theorem isRestricted_or (a b : Flag) : isRestricted (a ||| b) = (isRestricted a || isRestricted b) := by
  simp [isRestricted]

@[simp] theorem isPermGrantedBySecComp_or (a b : Flag) :
    isPermGrantedBySecComp (a ||| b) = (isPermGrantedBySecComp a || isPermGrantedBySecComp b) := by
  simp [isPermGrantedBySecComp]

@[simp] theorem isRestricted_without_restricted (f : Flag) :
    isRestricted (getFlagWithoutSpecifiedElement f permissionRestrictedByAdmin) = false :=
  Lib.hasAny_clear_self _ _

@[simp] theorem isRestricted_without_component (f : Flag) :
    isRestricted (getFlagWithoutSpecifiedElement f permissionComponentSet) = isRestricted f := by
  simp only [isRestricted, getFlagWithoutSpecifiedElement, Lib.hasAny_and]; rfl

@[simp] theorem isPermGrantedBySecComp_without_restricted {f : Flag} :
    isPermGrantedBySecComp (getFlagWithoutSpecifiedElement f permissionRestrictedByAdmin) =
      isPermGrantedBySecComp f := by
  simp only [isPermGrantedBySecComp, getFlagWithoutSpecifiedElement, Lib.hasAny_and]; rfl

@[simp] theorem isPermGrantedBySecComp_without_component (f : Flag) :
    isPermGrantedBySecComp (getFlagWithoutSpecifiedElement f permissionComponentSet) = false :=
  Lib.hasAny_clear_self _ _

@[simp] theorem isRestricted_and_restricted (f : Flag) :
    isRestricted (f &&& permissionRestrictedByAdmin) = isRestricted f := by
  simp only [isRestricted, Lib.hasAny_and]; rfl

@[simp] theorem isPermGrantedBySecComp_and_restricted (f : Flag) :
    isPermGrantedBySecComp (f &&& permissionRestrictedByAdmin) = false := by
  simp only [isPermGrantedBySecComp, Lib.hasAny_and]
  exact Lib.hasAny_zero f

/-! ## Return codes -/

/-- The `AccessTokenError` values the modelled functions return; success is `Except.ok`. -/
inductive AccessTokenError where
  | errPermissionDenied | errParamInvalid | errTokenInvalid | errTokenidNotExist | errTokenidHasExisted
  | errTokenidCreateFailed | errPermissionNotExist | errIdentityCheckFailed | errServiceAbnormal | errOversize
  | errDatabaseOperateFailed | errPermissionWithoutValue | errPermissionRestricted | errTokenMapFailed
  | errPermPolicyAlreadySetByOther | errPermPolicyNotSet | errTokenidAlreadyInPolicyWhitelist
  | errTokenidNotInPolicyWhitelist | errTokenidNotInPolicyUserlist | errPermPolicyPersistenceFlagNotMatch
  | errKernelOperationFailed | errKernelCommonFailed | errIoctlUnsupport | errDataConflictWithKernel
  | errNoDataFromKernel | errExpectedPermissionType | errDeviceNotExist | errPermissionRequestToggleSubprofileNotExist
  | errPermissionRequestToggleStorageModeConflict | errToolTokenAlreadyExist
deriving DecidableEq

/-- An `int32_t` return code: `RET_SUCCESS` is `.ok ()`. -/
abbrev Ret := Except AccessTokenError Unit

end AccessToken
