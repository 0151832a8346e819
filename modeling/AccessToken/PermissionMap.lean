import AccessToken.Basic
import Mathlib.Data.List.Nodup
import Mathlib.Data.List.TakeWhile
/-!
# The permission definition table and the validators

`g_permList` is generated from `permission_definitions.json`; an op code is an index into it.  The table is a parameter
of everything below, with what the generated one guarantees as fields: names are distinct, non-empty C strings that pass
the name check, and every code is a `uint32_t`.
-/
namespace AccessToken

open Lib (hasAny)

inductive GrantMode where
  | userGrant | systemGrant | manualSettings
deriving DecidableEq

/-- `ATokenAvailableTypeEnum`, as far as a definition can carry it. -/
inductive ATokenAvailableTypeEnum where
  | normal | system | mdm | systemAndMdm | service | enterpriseNormal
deriving DecidableEq

inductive ATokenAplEnum where
  | aplInvalid | aplNormal | aplSystemBasic | aplSystemCore
deriving DecidableEq

/-- `PermissionBriefDef`, with the fields the modelled functions read. -/
structure PermissionBriefDef where
  permissionName : String
  grantMode : GrantMode
  availableLevel : ATokenAplEnum
  availableType : ATokenAvailableTypeEnum
  provisionEnable : Bool
  isKernelEffect : Bool
  hasValue : Bool
  isEnable : Bool
  provisionBypassForSideload : Bool
deriving DecidableEq

/-- The bytes `c_str()` shows: up to the first NUL. -/
def cStr (s : String) : String := String.ofList (s.toList.takeWhile (· ≠ '\x00'))

theorem cStr_cStr {s : String} : cStr (cStr s) = cStr s := by
  unfold cStr
  rw [String.toList_ofList, List.takeWhile_idem]

def maxLength : Nat := 256

def isPermissionNameValid (permissionName : String) : Bool :=
  !(permissionName.isEmpty || decide (permissionName.utf8ByteSize > maxLength))

/-- The table `g_permList`, a list indexed by op code. -/
structure PermissionTable where
  permList : List PermissionBriefDef
  names_nodup : (permList.map PermissionBriefDef.permissionName).Nodup
  names_cStr : ∀ d ∈ permList, cStr d.permissionName = d.permissionName
  names_valid : ∀ d ∈ permList, isPermissionNameValid d.permissionName = true
  codes_word : permList.length ≤ 2 ^ 32

namespace PermissionTable

variable (T : PermissionTable)

/-- `TransferPermissionToOpcode`: the map is searched with `strcmp` on `c_str()`. -/
def transferPermissionToOpcode (permission : String) : Option Nat :=
  T.permList.findIdx? (fun d => d.permissionName == cStr permission)

/-- `TransferOpcodeToPermission`: the empty string for a code outside the table. -/
def transferOpcodeToPermission (opCode : Nat) : String :=
  match T.permList[opCode]? with
  | none => ""
  | some d => d.permissionName

/-- `GetPermissionBriefDef` of a permission name, with its code. -/
def getPermissionBriefDef (permission : String) : Option (PermissionBriefDef × Nat) :=
  (T.transferPermissionToOpcode permission).bind fun code => (T.permList[code]?).map fun d => (d, code)

def isDefinedPermissionInner (permission : String) : Bool :=
  match T.getPermissionBriefDef permission with
  | none => false
  | some (d, _) => d.isEnable

def isUserGrantPermission (permission : String) : Bool :=
  match T.getPermissionBriefDef permission with
  | none => false
  | some (d, _) => d.isEnable && d.grantMode == .userGrant

def isOperablePermission (permission : String) : Bool :=
  match T.getPermissionBriefDef permission with
  | none => false
  | some (d, _) => d.isEnable && (d.grantMode == .userGrant || d.grantMode == .manualSettings)

def isPermissionValidForHap (permission : String) : Bool :=
  match T.getPermissionBriefDef permission with
  | none => false
  | some (d, _) => d.isEnable && d.availableType != .service

variable {T}

variable {permission : String} {code : Nat} {d : PermissionBriefDef}

theorem transferPermissionToOpcode_eq_some : T.transferPermissionToOpcode permission = some code ↔
      ∃ d, T.permList[code]? = some d ∧ d.permissionName = cStr permission := by
  unfold transferPermissionToOpcode
  rw [List.findIdx?_eq_some_iff_getElem]
  constructor
  · rintro ⟨hlt, hname, -⟩
    exact ⟨T.permList[code], List.getElem?_eq_getElem hlt, by simpa using hname⟩
  rintro ⟨d, hd, hname⟩
  obtain ⟨hlt, rfl⟩ := List.getElem?_eq_some_iff.1 hd
  refine ⟨hlt, by simpa using hname, fun j hj heq => ?_⟩
  -- names are distinct, so an earlier match would be the same index
  have hne := List.nodup_iff_getElem?_ne_getElem?.1 T.names_nodup j code hj (by simpa using hlt)
  have hname' : T.permList[j].permissionName = T.permList[code].permissionName := by
    rw [hname]; simpa using heq
  simp only [List.getElem?_map, List.getElem?_eq_getElem hlt, List.getElem?_eq_getElem (Nat.lt_trans hj hlt),
    Option.map_some, hname', ne_eq, not_true_eq_false] at hne

/-- **Names and codes of the table correspond**: the name of a code in the table leads back to the code. -/
theorem transferPermissionToOpcode_transferOpcode (h : code < T.permList.length) :
    T.transferPermissionToOpcode (T.transferOpcodeToPermission code) = some code := by
  rw [transferPermissionToOpcode_eq_some]
  refine ⟨T.permList[code], List.getElem?_eq_getElem h, ?_⟩
  rw [transferOpcodeToPermission, List.getElem?_eq_getElem h]
  exact (T.names_cStr _ (List.getElem_mem h)).symm

theorem transferPermissionToOpcode_transferOpcode_of_ge (h : T.permList.length ≤ code) :
    T.transferPermissionToOpcode (T.transferOpcodeToPermission code) = none := by
  rw [transferOpcodeToPermission, List.getElem?_eq_none h]
  cases hc : T.transferPermissionToOpcode "" with
  | none => rfl
  | some =>
    obtain ⟨d, hd, hname⟩ := transferPermissionToOpcode_eq_some.1 hc
    have hvalid := T.names_valid d (List.mem_of_getElem? hd)
    have hempty : cStr "" = "" := by decide
    rw [hname, hempty] at hvalid
    exact absurd hvalid (by decide)

theorem transferOpcode_inj {c c' : Nat} (hc : c < T.permList.length)
    (h : T.transferOpcodeToPermission c' = T.transferOpcodeToPermission c) : c' = c := by
  have hback := transferPermissionToOpcode_transferOpcode hc
  rw [← h] at hback
  by_cases hc' : c' < T.permList.length
  · rw [transferPermissionToOpcode_transferOpcode hc'] at hback
    exact Option.some.inj hback
  · rw [transferPermissionToOpcode_transferOpcode_of_ge (Nat.le_of_not_lt hc')] at hback
    cases hback

theorem code_lt_of_transfer (h : T.transferPermissionToOpcode permission = some code) : code < T.permList.length := by
  obtain ⟨d, hd, -⟩ := transferPermissionToOpcode_eq_some.1 h
  exact (List.getElem?_eq_some_iff.1 hd).1

section

variable (h : T.getPermissionBriefDef permission = some (d, code))
include h

theorem getPermissionBriefDef_eq_some :
    T.transferPermissionToOpcode permission = some code ∧ T.permList[code]? = some d := by
  obtain ⟨c, hc, hmap⟩ := Option.bind_eq_some_iff.1 h
  obtain ⟨d', hd, heq⟩ := Option.map_eq_some_iff.1 hmap
  cases heq
  exact ⟨hc, hd⟩

theorem code_lt_of_getPermissionBriefDef : code < T.permList.length :=
  code_lt_of_transfer (getPermissionBriefDef_eq_some h).1

end

theorem transferOpcode_of_transfer (h : T.transferPermissionToOpcode permission = some code) :
    T.transferOpcodeToPermission code = cStr permission := by
  obtain ⟨d, hd, hname⟩ := transferPermissionToOpcode_eq_some.1 h
  rw [transferOpcodeToPermission, hd]
  exact hname

end PermissionTable

def camera : String := "ohos.permission.CAMERA"

def sampleTable : PermissionTable where
  permList := [⟨camera, .userGrant, .aplNormal, .normal, true, false, false, true, false⟩,
    ⟨"ohos.permission.LOCATION", .userGrant, .aplNormal, .normal, true, false, false, true, false⟩]
  names_nodup := by decide
  names_cStr := by decide
  names_valid := by decide
  codes_word := by decide

/-! ## Validators -/

/-- `PermissionStatus`; the timestamp of a status is never compared and is left out. -/
structure PermissionStatus where
  permissionName : String
  grantStatus : Int
  grantFlag : Flag
deriving DecidableEq

def deniedCamera : PermissionStatus := ⟨camera, permissionDenied, permissionDefaultFlag⟩

def isGrantStatusValid (grantStatus : Int) : Bool :=
  grantStatus == permissionGranted || grantStatus == permissionDenied

/-- `DataValidator::IsPermissionFlagValid`: one base flag, with any of the additive flags. -/
def isPermissionFlagValid (flag : Flag) : Bool :=
  let additiveMask := permissionPreAuthorizedCancelable ||| permissionComponentSet ||| permissionRestrictedByAdmin
  let baseFlag := flag &&& ~~~additiveMask
  baseFlag == permissionDefaultFlag || baseFlag == permissionUserSet || baseFlag == permissionUserFixed ||
    baseFlag == permissionSystemFixed || baseFlag == permissionFixedForSecurityPolicy ||
    baseFlag == permissionAllowThisTime || baseFlag == permissionFixedByAdminPolicy ||
    baseFlag == permissionAdminPoliciesCancel

def isPermissionFlagValidForAdmin (flag : Flag) : Bool :=
  flag == permissionFixedByAdminPolicy || flag == permissionAdminPoliciesCancel

def isAdminPermissionFlag (flag : Flag) : Bool :=
  hasAny flag (permissionFixedByAdminPolicy ||| permissionAdminPoliciesCancel)

def isUserIdValid (userId : Int32) : Bool := decide (0 ≤ userId)

def isPermissionAvailable (T : PermissionTable) (tokenType : ATokenTypeEnum) (permissionName : String) : Bool :=
  if tokenType = .tokenHap then T.isPermissionValidForHap permissionName else true

def isPermissionStateValid (permState : PermissionStatus) : Bool :=
  isPermissionNameValid permState.permissionName &&
    (isGrantStatusValid permState.grantStatus && isPermissionFlagValid permState.grantFlag)

/-- The loop of `FilterInvalidPermissionState`; `seen` is `permStateSet`. -/
def filterInvalidPermissionStateFrom (T : PermissionTable) (tokenType : ATokenTypeEnum) (doPermAvailableCheck : Bool) :
    List String → List PermissionStatus → List PermissionStatus
  | _, [] => []
  | seen, p :: permList =>
    if !isPermissionStateValid p || seen.contains p.permissionName then
      filterInvalidPermissionStateFrom T tokenType doPermAvailableCheck seen permList
    else if doPermAvailableCheck && !isPermissionAvailable T tokenType p.permissionName then
      filterInvalidPermissionStateFrom T tokenType doPermAvailableCheck seen permList
    else
      p :: filterInvalidPermissionStateFrom T tokenType doPermAvailableCheck (p.permissionName :: seen) permList

def filterInvalidPermissionState (T : PermissionTable) (tokenType : ATokenTypeEnum) (doPermAvailableCheck : Bool)
    (permList : List PermissionStatus) : List PermissionStatus :=
  filterInvalidPermissionStateFrom T tokenType doPermAvailableCheck [] permList

variable {T : PermissionTable} {permList : List PermissionStatus} {f g : Flag}

/-- A map that keeps the names and the validity of the states commutes with the filter. -/
theorem filterInvalidPermissionState_map {f : PermissionStatus → PermissionStatus}
    (hname : ∀ p, (f p).permissionName = p.permissionName)
    (hvalid : ∀ p, isPermissionStateValid (f p) = isPermissionStateValid p) (tokenType : ATokenTypeEnum)
    (check : Bool) (permList : List PermissionStatus) :
    filterInvalidPermissionState T tokenType check (permList.map f) =
      (filterInvalidPermissionState T tokenType check permList).map f := by
  unfold filterInvalidPermissionState
  generalize ([] : List String) = seen
  induction permList generalizing seen with
  | nil => rfl
  | cons p permList ih =>
    simp only [List.map_cons, filterInvalidPermissionStateFrom, hname, hvalid, ih]
    split
    · rfl
    · split <;> simp

def additiveFlags : Flag := permissionPreAuthorizedCancelable ||| permissionComponentSet ||| permissionRestrictedByAdmin

theorem isPermissionFlagValid_eq (h : f &&& ~~~additiveFlags = g &&& ~~~additiveFlags) :
    isPermissionFlagValid f = isPermissionFlagValid g := by
  unfold additiveFlags at h
  simp only [isPermissionFlagValid, h]

theorem isPermissionFlagValid_or (hg : g &&& ~~~additiveFlags = 0) :
    isPermissionFlagValid (f ||| g) = isPermissionFlagValid f := by
  refine isPermissionFlagValid_eq (BitVec.eq_of_getLsbD_eq fun i hi => ?_)
  have hbit : (g.getLsbD i && (~~~additiveFlags).getLsbD i) = false := by
    rw [← BitVec.getLsbD_and, hg]
    exact BitVec.getLsbD_zero
  rw [BitVec.getLsbD_and, BitVec.getLsbD_and, BitVec.getLsbD_or, Bool.and_or_distrib_right, hbit, Bool.or_false]

theorem isPermissionFlagValid_without (hg : g &&& ~~~additiveFlags = 0) :
    isPermissionFlagValid (getFlagWithoutSpecifiedElement f g) = isPermissionFlagValid f := by
  refine isPermissionFlagValid_eq (BitVec.eq_of_getLsbD_eq fun i hi => ?_)
  have hbit : (g.getLsbD i && (~~~additiveFlags).getLsbD i) = false := by
    rw [← BitVec.getLsbD_and, hg]
    exact BitVec.getLsbD_zero
  rw [getFlagWithoutSpecifiedElement, BitVec.getLsbD_and, BitVec.getLsbD_and, BitVec.getLsbD_and, BitVec.getLsbD_not]
  cases hgi : g.getLsbD i with
  | false => simp [hi]
  | true =>
    rw [hgi, Bool.true_and] at hbit
    rw [hbit, Bool.and_false, Bool.and_false]

@[simp] theorem isPermissionFlagValid_or_restricted :
    isPermissionFlagValid (f ||| permissionRestrictedByAdmin) = isPermissionFlagValid f :=
  isPermissionFlagValid_or (by decide)

@[simp] theorem isPermissionFlagValid_without_restricted (f : Flag) :
    isPermissionFlagValid (getFlagWithoutSpecifiedElement f permissionRestrictedByAdmin) = isPermissionFlagValid f :=
  isPermissionFlagValid_without (by decide)

theorem mem_filterInvalidPermissionState {tokenType : ATokenTypeEnum} {p : PermissionStatus}
    (h : p ∈ filterInvalidPermissionState T tokenType true permList) :
    isPermissionStateValid p = true ∧ isPermissionAvailable T tokenType p.permissionName = true := by
  unfold filterInvalidPermissionState at h
  revert h
  generalize ([] : List String) = seen
  induction permList generalizing seen with
  | nil => simp [filterInvalidPermissionStateFrom]
  | cons q permList ih =>
    rw [filterInvalidPermissionStateFrom]
    split
    · exact ih seen
    rename_i hvalid
    split
    · exact ih seen
    rename_i havailable
    intro h
    rcases List.mem_cons.1 h with rfl | h
    · simp only [Bool.or_eq_true, Bool.not_eq_true', not_or, Bool.not_eq_false] at hvalid
      exact ⟨hvalid.1, by simpa using havailable⟩
    · exact ih _ h

end AccessToken
