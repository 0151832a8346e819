import AccessToken.GrantedList
import AccessToken.Service.TokenInfo
import AccessToken.Lib.ExceptLoop
/-!
# Readers of one permission

`VerifyPermissionStatus` derives the effective status from the stored status and the flags; `GetPermissionUsedType`
reads the component bit and the stored status; `QueryStatusByTokenID` copies the stored status and flag when it is not
asked for timestamps, and derives them again when it is.  They agree on the entries whose flags do not override the
stored status.
-/
namespace AccessToken

open Std.ExtTreeMap (getD_eq_getD_getElem? getElem?_eq_some_getElem)

namespace PermissionDataBrief

open Lib (hasAny)

inductive PermUsedTypeEnum where
  | invalidUsedType | normalType | secComponentType
deriving DecidableEq

variable (T : PermissionTable) (s : PermissionDataBrief) (t : AccessTokenID)

/-! ## The used type -/

def getPermissionUsedType (opCode : Nat) : PermUsedTypeEnum :=
  match s.requestedPermData[t]? with
  | none => .invalidUsedType
  | some list =>
    match list.find? (hasCode opCode) with
    | some d =>
      if isPermGrantedBySecComp d.flag then .secComponentType
      else if d.status == permissionDenied then .invalidUsedType
      else .normalType
    | none => if s.secCompList.contains ⟨opCode, t⟩ then .secComponentType else .invalidUsedType

/-- `IsPermissionGrantedWithSecComp` of a permission with an op code. -/
def isPermissionGrantedWithSecComp (opCode : Nat) : Bool :=
  match s.requestedPermData[t]? with
  | none => false
  | some list =>
    match list.find? (hasCode opCode) with
    | none => s.secCompList.contains ⟨opCode, t⟩
    | some d => isPermGrantedBySecComp d.flag

/-- The two readers agree on the permission; a name without an op code is refused by both. -/
def UsedTypeAgrees (p : String) : Prop :=
  let usedType := ((T.transferPermissionToOpcode p).map (s.getPermissionUsedType t)).getD .invalidUsedType
  let verified := ((T.transferPermissionToOpcode p).map (s.verifyPermissionStatus t)).getD permissionDenied
  (usedType ≠ .invalidUsedType ↔ verified = permissionGranted) ∧
    (usedType = .secComponentType →
      ((T.transferPermissionToOpcode p).map (s.isPermissionGrantedWithSecComp t)).getD false = true)

/-- **No flag overrides the stored status against the used type**: an entry restricted by a user policy is stored denied
and has no component grant, and the stored status is one of the two. -/
def UsedAsVerified (d : BriefPermData) : Prop :=
  (isRestricted d.flag = true → d.status = permissionDenied ∧ isPermGrantedBySecComp d.flag = false) ∧
    (isPermGrantedBySecComp d.flag = true ∨ isGrantStatusValid d.status = true)
deriving Decidable

theorem usedAsVerified_iff (d : BriefPermData) :
    UsedAsVerified d ↔ ((isPermGrantedBySecComp d.flag = true ∨ d.status ≠ permissionDenied) ↔
      getEffectivePermissionStatus d = permissionGranted) := by
  have hne : permissionDenied ≠ permissionGranted := by decide
  have hvalid : isGrantStatusValid d.status = true ↔ d.status = permissionGranted ∨ d.status = permissionDenied := by
    simp [isGrantStatusValid]
  unfold UsedAsVerified getEffectivePermissionStatus effectiveStatus
  rw [hvalid]
  cases isRestricted d.flag <;> cases isPermGrantedBySecComp d.flag <;> simp <;> grind

/-- **The used type agrees with verification** exactly where no flag overrides the stored status. -/
theorem used_type_agrees_iff (p : String) :
    UsedTypeAgrees T s t p ↔ ∀ c ∈ T.transferPermissionToOpcode p, ∀ d ∈ s.entry t c, UsedAsVerified d := by
  have hne : permissionDenied ≠ permissionGranted := by decide
  unfold UsedTypeAgrees
  cases T.transferPermissionToOpcode p with
  | none => simp [hne]
  | some c =>
    simp only [Option.map_some, Option.getD_some, Option.mem_def, Option.some.injEq, forall_eq']
    unfold getPermissionUsedType verifyPermissionStatus isPermissionGrantedWithSecComp entry
    cases s.requestedPermData[t]? with
    | none => simp [hne]
    | some l =>
      simp only [Option.bind_some]
      cases l.find? (hasCode c) with
      | none =>
        dsimp only
        split <;> simp_all
      | some d =>
        simp only [Option.some.injEq, forall_eq', usedAsVerified_iff]
        cases isPermGrantedBySecComp d.flag with
        | true => simp
        | false =>
          simp only [Bool.false_eq_true, if_false, false_or]
          split <;> simp_all

/-- The permission is granted by the user, and then restricted by a policy: verification denies it, and its use is
normal. -/
theorem restricted_use_is_normal :
    let s := [Op.addPermToBriefPermission sampleHap [deniedCamera] ∅ true,
      .updatePermissionStatus sampleHap camera true permissionUserFixed,
      .updatePermissionFlag sampleHap 0 permissionRestrictedByAdmin true].foldl (step sampleTable) .empty
    s.verifyPermissionStatus sampleHap 0 = permissionDenied ∧ s.getPermissionUsedType sampleHap 0 = .normalType := by
  decide +kernel

/-! ## The query by token -/

/-- `QueryEffectivePermissionStatusAndFlag`. -/
def queryEffectivePermissionStatusAndFlag (permCode : Nat) : Except AccessTokenError (Int × Flag) :=
  (s.queryPermissionStatusAndFlagInner t permCode).map fun r =>
    (r.1, getFlagWithoutSpecifiedElement r.2 permissionPreAuthorizedCancelable)

end PermissionDataBrief

namespace Service

open Lib (hasAny)
open PermissionDataBrief PermissionTable

/-- `PermissionStatusIdl` without its timestamp. -/
structure PermissionStatusIdl where
  tokenID : AccessTokenID
  permCode : Nat
  grantStatus : Int
  grantFlag : Flag
deriving DecidableEq

section Query

variable (T : PermissionTable) (w : Service)

/-- The loop of `ValidateQueryTokenIdList`; `unique` is `uniqueTokenIDs`. -/
def validateQueryTokenIdList : List AccessTokenID → List AccessTokenID → Except AccessTokenError (List AccessTokenID)
  | [], unique => .ok unique
  | t :: ids, unique =>
    if unique.contains t then validateQueryTokenIdList ids unique
    else if t = 0 then .error .errParamInvalid
    else if ¬ (t ∈ w.hapTokenInfoMap ∨ t ∈ w.nativeTokenInfoMap) then .error .errTokenidNotExist
    else if getTokenIdTypeEnum t ≠ .tokenHap then .error .errParamInvalid
    else validateQueryTokenIdList ids (unique ++ [t])

def getHapPermissionsFromCache (permStateList : List PermissionStatus) (tokenID : AccessTokenID) :
    List PermissionStatusIdl :=
  permStateList.filterMap fun permState =>
    (T.transferPermissionToOpcode permState.permissionName).map fun permCode =>
      ⟨tokenID, permCode, permState.grantStatus, permState.grantFlag⟩

/-- An object of `hapInfoList` with the token it was found for; only its id is read. -/
def findHapInfo (tokenID : AccessTokenID) : Except AccessTokenError (AccessTokenID × AccessTokenID) :=
  match w.hapTokenInfoMap[tokenID]? with
  | none => .error .errTokenidNotExist
  | some inner => .ok (tokenID, inner.tokenID)

def readHapInfo (info : AccessTokenID × AccessTokenID) : Except AccessTokenError (List PermissionStatusIdl) :=
  match w.permissionStateValues T info.2 with
  | none => .error .errTokenInvalid
  | some permStateList => .ok (getHapPermissionsFromCache T permStateList info.1)

def queryStatusByTokenIdFromCache (uniqueTokenIDs : List AccessTokenID) :
    Except AccessTokenError (List PermissionStatusIdl) := do
  let hapInfoList ← uniqueTokenIDs.mapM (findHapInfo w)
  let lists ← hapInfoList.mapM (readHapInfo T w)
  return lists.flatten

/-- The body of the loop of `QueryStatusByTokenID` over the rows; a failing query leaves what was initialised. -/
def queryRow (tokenID : AccessTokenID) (permissionName : String) : Option PermissionStatusIdl :=
  (T.transferPermissionToOpcode permissionName).map fun permCode =>
    match w.brief.queryEffectivePermissionStatusAndFlag tokenID permCode with
    | .ok (status, flag) => ⟨tokenID, permCode, status, flag⟩
    | .error _ => ⟨tokenID, permCode, permissionDenied, 0⟩

/-- The tokens whose rows `Find` of a list of ids returns: an empty list puts no condition on the query. -/
def queriedTokenIds (uniqueTokenIDs : List AccessTokenID) : List AccessTokenID :=
  if uniqueTokenIDs.isEmpty then (List.finRange (2 ^ 32)).map BitVec.ofFin else uniqueTokenIDs

/-- `QueryStatusByTokenID`; the rows are found token by token, in some order in the source. -/
def queryStatusByTokenID (findOk : Bool) (tokenIDList : List AccessTokenID) (needTimestamp : Bool) :
    Except AccessTokenError (List PermissionStatusIdl) := do
  let uniqueTokenIDs ← validateQueryTokenIdList w tokenIDList []
  if !needTimestamp then queryStatusByTokenIdFromCache T w uniqueTokenIDs
  else if !findOk then .error .errDatabaseOperateFailed
  else return (queriedTokenIds uniqueTokenIDs).flatMap fun t =>
    (w.db.findPermissionState t).filterMap fun row => queryRow T w t row.permissionName

/-- A token in memory with one row for each permission of its list. -/
def OneRowEach (t : AccessTokenID) : Prop :=
  (t ≠ 0 ∧ getTokenIdTypeEnum t = .tokenHap) ∧
    (w.hapTokenInfoMap[t]?).map (·.tokenID) = some t ∧ t ∈ w.requestedPermData ∧
    ((w.requestedPermData.getD t []).map BriefPermData.permCode).Nodup ∧
    (∀ d ∈ w.requestedPermData.getD t [], d.permCode < T.permList.length) ∧
    ((w.db.findPermissionState t).map (·.permissionName)).Perm
      ((w.requestedPermData.getD t []).map fun d => T.transferOpcodeToPermission d.permCode)
deriving Decidable

end Query

/-- **No flag changes what is read**: the effective status is the stored one, and the flag has no bit that is masked. -/
def ReadAsStored (d : BriefPermData) : Prop :=
  (isRestricted d.flag = true → d.status = permissionDenied) ∧
    (isRestricted d.flag = false → isPermGrantedBySecComp d.flag = true → d.status = permissionGranted) ∧
    hasAny d.flag permissionPreAuthorizedCancelable = false
deriving Decidable

/-- What the two ways report of an entry. -/
def storedIdl (t : AccessTokenID) (d : BriefPermData) : PermissionStatusIdl := ⟨t, d.permCode, d.status, d.flag⟩

def effectiveIdl (t : AccessTokenID) (d : BriefPermData) : PermissionStatusIdl :=
  ⟨t, d.permCode, getEffectivePermissionStatus d,
    getFlagWithoutSpecifiedElement d.flag permissionPreAuthorizedCancelable⟩

theorem storedIdl_eq_effectiveIdl_iff {t : AccessTokenID} {d : BriefPermData} :
    storedIdl t d = effectiveIdl t d ↔ ReadAsStored d := by
  have hmask : d.flag = getFlagWithoutSpecifiedElement d.flag permissionPreAuthorizedCancelable ↔
      hasAny d.flag permissionPreAuthorizedCancelable = false := by
    refine ⟨fun h => ?_, fun h => (Lib.clear_of_hasAny_eq_false h).symm⟩
    rw [h]
    exact Lib.hasAny_clear_self ..
  have hstatus : d.status = getEffectivePermissionStatus d ↔
      (isRestricted d.flag = true → d.status = permissionDenied) ∧
        (isRestricted d.flag = false → isPermGrantedBySecComp d.flag = true → d.status = permissionGranted) := by
    unfold getEffectivePermissionStatus effectiveStatus
    cases isRestricted d.flag <;> cases isPermGrantedBySecComp d.flag <;> simp
  simp only [storedIdl, effectiveIdl, PermissionStatusIdl.mk.injEq, true_and, hmask, hstatus, ReadAsStored, and_assoc]

variable {T : PermissionTable} {w : Service} {t : AccessTokenID} {ids unique : List AccessTokenID}

theorem validateQueryTokenIdList_ok (hids : ∀ t ∈ ids, OneRowEach T w t) (hnodup : unique.Nodup) :
    ∃ found, validateQueryTokenIdList w ids unique = .ok found ∧ found.Nodup ∧ ∀ t, t ∈ found ↔
    t ∈ unique ∨ t ∈ ids := by
  induction ids generalizing unique with
  | nil => exact ⟨unique, rfl, hnodup, fun t => by simp⟩
  | cons t ids ih =>
    have ih := fun {unique} => @ih unique (fun t ht => hids t (List.mem_cons_of_mem _ ht))
    obtain ⟨⟨hzero, htype⟩, hinfo, -⟩ := hids t List.mem_cons_self
    have hmap : t ∈ w.hapTokenInfoMap := by
      rw [Std.ExtTreeMap.mem_iff_isSome_getElem?]
      cases hget : w.hapTokenInfoMap[t]? with
      | none => rw [hget] at hinfo; cases hinfo
      | some => rfl
    rw [validateQueryTokenIdList]
    by_cases hmem : t ∈ unique
    · rw [if_pos (List.contains_iff_mem.2 hmem)]
      obtain ⟨found, hok, hnd, hfound⟩ := ih hnodup
      refine ⟨found, hok, hnd, fun x => ?_⟩
      rw [hfound, List.mem_cons]
      grind
    · rw [if_neg (mt List.contains_iff_mem.1 hmem), if_neg hzero, if_neg (not_not.2 (.inl hmap)),
        if_neg (not_not.2 htype)]
      have hnodup : (unique ++ [t]).Nodup := by grind
      obtain ⟨found, hok, hnd, hfound⟩ := ih hnodup
      refine ⟨found, hok, hnd, fun x => ?_⟩
      rw [hfound, List.mem_append, List.mem_singleton, List.mem_cons, or_assoc]

theorem opcode_of_mem (h : OneRowEach T w t) {d : BriefPermData} (hd : d ∈ w.requestedPermData.getD t []) :
    T.transferPermissionToOpcode (T.transferOpcodeToPermission d.permCode) = some d.permCode :=
  transferPermissionToOpcode_transferOpcode (h.2.2.2.2.1 d hd)

theorem getElem?_of_oneRowEach (h : OneRowEach T w t) :
    w.requestedPermData[t]? = some (w.requestedPermData.getD t []) := by
  rw [getD_eq_getD_getElem?, getElem?_eq_some_getElem h.2.2.1, Option.getD_some]

theorem queryStatusByTokenIdFromCache_eq (hids : ∀ t ∈ ids, OneRowEach T w t) : queryStatusByTokenIdFromCache T w ids =
      .ok (ids.flatMap fun t => (w.requestedPermData.getD t []).map (storedIdl t)) := by
  have hinfos : ids.mapM (findHapInfo w) = .ok (ids.map fun t => (t, t)) := by
    refine Lib.mapM_eq_map fun t ht => ?_
    obtain ⟨inner, hget, hid⟩ := Option.map_eq_some_iff.1 (hids t ht).2.1
    rw [findHapInfo, hget, ← hid]
  have hlists : (ids.map fun t => (t, t)).mapM (readHapInfo T w) = .ok ((ids.map fun t => (t, t)).map fun info =>
      (w.requestedPermData.getD info.1 []).map (storedIdl info.1)) := by
    refine Lib.mapM_eq_map fun info hinfo => ?_
    obtain ⟨t, ht, rfl⟩ := List.mem_map.1 hinfo
    unfold readHapInfo permissionStateValues
    rw [getElem?_of_oneRowEach (hids t ht)]
    simp only [Option.map_some, getHapPermissionsFromCache, List.filterMap_map]
    rw [← List.filterMap_eq_map]
    refine congrArg _ (List.filterMap_congr fun d hd => ?_)
    simp only [Function.comp_apply, opcode_of_mem (hids t ht) hd]
    rfl
  unfold queryStatusByTokenIdFromCache
  rw [hinfos]
  simp only [bind, Except.bind, hlists]
  simp [List.flatMap_def, Function.comp_def, pure, Except.pure]

theorem queryRows_perm (h : OneRowEach T w t) :
    ((w.db.findPermissionState t).filterMap fun row => queryRow T w t row.permissionName).Perm
      ((w.requestedPermData.getD t []).map (effectiveIdl t)) := by
  obtain ⟨-, -, -, hnodup, -, hrows⟩ := id h
  have hnames := hrows.filterMap (queryRow T w t)
  rw [List.filterMap_map, List.filterMap_map] at hnames
  refine hnames.trans (.of_eq ?_)
  rw [← List.filterMap_eq_map]
  refine List.filterMap_congr fun d hd => ?_
  have hentry := entry_of_mem (getElem?_of_oneRowEach h) hnodup hd
  rw [entry, getElem?_of_oneRowEach h, Option.bind_some] at hentry
  simp only [Function.comp_apply, queryRow, opcode_of_mem h hd, Option.map_some, queryEffectivePermissionStatusAndFlag,
    queryPermissionStatusAndFlagInner, getElem?_of_oneRowEach h, hentry]
  rfl

/-- Without an id the rows of every token are queried. -/
theorem queryRows_all_eq_nil_iff :
    (((queriedTokenIds []).flatMap fun t =>
      (w.db.findPermissionState t).filterMap fun row => queryRow T w t row.permissionName) = []) ↔
      ∀ t, ∀ row ∈ w.db.findPermissionState t, T.transferPermissionToOpcode row.permissionName = none := by
  have hall : ∀ t, t ∈ queriedTokenIds [] := fun t => List.mem_map.2 ⟨t.toFin, List.mem_finRange _, rfl⟩
  rw [List.flatMap_eq_nil_iff]
  refine ⟨fun h t row hrow => ?_, fun h t _ => List.filterMap_eq_nil_iff.2 fun row hrow => ?_⟩
  · exact Option.map_eq_none_iff.1 (List.filterMap_eq_nil_iff.1 (h t (hall t)) row hrow)
  · rw [queryRow, h t row hrow, Option.map_none]

/-- **Asking for timestamps does not change the answer** if and only if the entries of the tokens are read as they are
stored; without a token, if and only if no row is of a permission of the table. -/
theorem query_same_with_timestamps_iff (hids : ∀ t ∈ ids, OneRowEach T w t) :
    ∃ plain stamped, queryStatusByTokenID T w true ids false = .ok plain ∧
      queryStatusByTokenID T w true ids true = .ok stamped ∧
      (plain.Perm stamped ↔ (∀ t ∈ ids, ∀ d ∈ w.requestedPermData.getD t [], ReadAsStored d) ∧
        (ids = [] → ∀ t, ∀ row ∈ w.db.findPermissionState t,
          T.transferPermissionToOpcode row.permissionName = none)) := by
  obtain ⟨found, hok, hnodup, hfound⟩ := validateQueryTokenIdList_ok hids List.nodup_nil
  have hmem : ∀ t, t ∈ found ↔ t ∈ ids := fun t => by simpa using hfound t
  have hrows : ∀ t ∈ found, OneRowEach T w t := fun t ht => hids t ((hmem t).1 ht)
  refine ⟨found.flatMap fun t => (w.requestedPermData.getD t []).map (storedIdl t),
    (queriedTokenIds found).flatMap fun t =>
      (w.db.findPermissionState t).filterMap fun row => queryRow T w t row.permissionName, ?_, ?_, ?_⟩
  · rw [queryStatusByTokenID, hok]
    exact queryStatusByTokenIdFromCache_eq hrows
  · rw [queryStatusByTokenID, hok]
    rfl
  by_cases hnone : ids = []
  · obtain rfl : found = [] := List.eq_nil_iff_forall_not_mem.2 fun t ht => by simpa [hnone] using (hmem t).1 ht
    rw [← queryRows_all_eq_nil_iff, List.flatMap_nil, List.nil_perm]
    simp [hnone]
  obtain ⟨t₀, ht₀⟩ := List.exists_mem_of_ne_nil ids hnone
  have hqueried : queriedTokenIds found = found := by
    rw [queriedTokenIds, if_neg]
    rw [List.isEmpty_iff]
    exact List.ne_nil_of_mem ((hmem t₀).2 ht₀)
  rw [hqueried, and_iff_left fun h => absurd h hnone]
  have hstamped := List.Perm.flatMap_left found fun t ht => queryRows_perm (hrows t ht)
  constructor
  · intro hperm t ht d hd
    -- the report of an entry is found in the other list under its token and code
    have hmem := (hperm.trans hstamped).mem_iff.1 (List.mem_flatMap.2 ⟨t, (hmem t).2 ht, List.mem_map.2 ⟨d, hd, rfl⟩⟩)
    obtain ⟨t', ht', hmem⟩ := List.mem_flatMap.1 hmem
    obtain ⟨d', hd', heq⟩ := List.mem_map.1 hmem
    obtain ⟨rfl, hcode, -⟩ := PermissionStatusIdl.mk.inj heq
    have hentry := entry_of_mem (getElem?_of_oneRowEach (hids t' ht)) (hids t' ht).2.2.2.1 hd
    rw [← hcode, entry_of_mem (getElem?_of_oneRowEach (hids t' ht)) (hids t' ht).2.2.2.1 hd'] at hentry
    cases hentry
    exact storedIdl_eq_effectiveIdl_iff.1 heq.symm
  · intro hplain
    refine .trans (.of_eq ?_) hstamped.symm
    refine List.flatMap_congr fun t ht => List.map_congr_left fun d hd => ?_
    exact storedIdl_eq_effectiveIdl_iff.2 (hplain t ((hmem t).1 ht) d hd)

/-- The sample application installed with the camera in the given state. -/
def cameraIn (status : Int) (flag : Flag) : Service :=
  (createHapTokenInfo sampleTable ∅ .empty .ok sampleParams
    { samplePolicy with permStateList := [⟨camera, status, flag⟩] }).2

/-- The camera is pre-authorised and may be cancelled: only one of the two answers shows that bit. -/
theorem timestamps_change_flag :
    queryStatusByTokenID sampleTable (cameraIn permissionGranted permissionPreAuthorizedCancelable) true
        [sampleHap] false = .ok [⟨sampleHap, 0, permissionGranted, permissionPreAuthorizedCancelable⟩] ∧
      queryStatusByTokenID sampleTable (cameraIn permissionGranted permissionPreAuthorizedCancelable) true
        [sampleHap] true = .ok [⟨sampleHap, 0, permissionGranted, 0⟩] := by
  decide +kernel

theorem camera_same_with_timestamps :
    ∃ plain stamped,
      queryStatusByTokenID sampleTable (cameraIn permissionGranted permissionUserFixed) true
      [sampleHap] false = .ok plain ∧
        queryStatusByTokenID sampleTable (cameraIn permissionGranted permissionUserFixed) true
        [sampleHap] true = .ok stamped ∧ plain.Perm stamped := by
  have hrows : ∀ t ∈ [sampleHap], OneRowEach sampleTable (cameraIn permissionGranted permissionUserFixed) t :=
    List.forall_mem_singleton.2 (by decide +kernel)
  obtain ⟨plain, stamped, hplain, hstamped, hiff⟩ := query_same_with_timestamps_iff hrows
  exact ⟨plain, stamped, hplain, hstamped, hiff.2 ⟨List.forall_mem_singleton.2 (by decide +kernel), nofun⟩⟩

end Service
end AccessToken
