import AccessToken.Service.TokenInfo
/-!
# The checks of an installation

What an app may request: a permission above the app's level needs an entry in the provisioning profile, and some
permissions are only for certain distribution types.  A permission without a definition is recorded for later, with what
the profile said about it.
-/
namespace AccessToken

/-- The value of `ATokenAplEnum`. -/
def ATokenAplEnum.toInt : ATokenAplEnum → Int
  | .aplInvalid => -1
  | .aplNormal => 1
  | .aplSystemBasic => 2
  | .aplSystemCore => 3

/-- `Verify::AppDistType`, as far as the checks tell its values apart. -/
inductive AppDistType where
  | enterpriseMdm | enterpriseNormal | other
deriving DecidableEq

/-- `BundleParam`, with the fields the checks read. -/
structure BundleParam where
  distributionType : AppDistType
  isSystem : Bool
  isDebug : Bool
  isSideloadApp : Bool

structure PreAuthorizationInfo where
  permissionName : String
  userCancelable : Bool

/-- `HapPolicy`, with the fields only the installation reads. -/
structure InstallPolicy extends HapPolicy where
  aclRequestedList : List String
  preAuthorizationInfo : List PreAuthorizationInfo

inductive PermissionRulesEnum where
  | permissionAclRule | permissionEdmRule | permissionEnterpriseNormalRule
deriving DecidableEq

structure PermissionInfoCheckResult where
  permissionName : String
  rule : PermissionRulesEnum
deriving DecidableEq

namespace PermissionConstraintCheck

def isSideloadAclExempt (isSideloadApp : Bool) (briefDef : PermissionBriefDef) : Bool :=
  isSideloadApp && briefDef.provisionEnable && briefDef.provisionBypassForSideload

def isAclSatisfied (isSideloadApp : Bool) (briefDef : PermissionBriefDef) (policy : InstallPolicy) : Bool :=
  if policy.apl.toInt < briefDef.availableLevel.toInt then
    if !briefDef.provisionEnable then false
    else if isSideloadAclExempt isSideloadApp briefDef then true
    else if briefDef.hasValue then decide (briefDef.permissionName ∈ policy.aclExtendedMap)
    else policy.aclRequestedList.contains briefDef.permissionName
  else true

/-- `IsPermAvailableRangeSatisfied`, with the rule that is not met; `isEnterpriseNormal` is the system parameter
`accesstoken.enterprise_normal_check`. -/
def isPermAvailableRangeSatisfied (isEnterpriseNormal : Bool) (param : BundleParam) (briefDef : PermissionBriefDef) :
    Option PermissionRulesEnum :=
  match briefDef.availableType with
  | .mdm =>
    if param.isDebug then none
    else if param.distributionType ≠ .enterpriseMdm then some .permissionEdmRule
    else none
  | .enterpriseNormal =>
    if param.distributionType = .enterpriseMdm ∨ param.distributionType = .enterpriseNormal ∨ param.isSystem = true ∨
        param.isDebug = true then none
    else if isEnterpriseNormal then some .permissionEnterpriseNormalRule
    else none
  | _ => none

/-- `AclAndEdmCheck`, with what is reported of a permission that is refused. -/
def aclAndEdmCheck (isEnterpriseNormal : Bool) (param : BundleParam) (briefDef : PermissionBriefDef)
    (policy : InstallPolicy) : Option PermissionInfoCheckResult :=
  if !isAclSatisfied param.isSideloadApp briefDef policy then some ⟨briefDef.permissionName, .permissionAclRule⟩
  else (isPermAvailableRangeSatisfied isEnterpriseNormal param briefDef).map (⟨briefDef.permissionName, ·⟩)

end PermissionConstraintCheck

/-! ## The initial states -/

def initPermState (policy : InstallPolicy) (briefDef : PermissionBriefDef) (needGrantForDebug : Bool)
    (state : PermissionStatus) : PermissionStatus :=
  if briefDef.grantMode = .systemGrant then
    { state with grantFlag := permissionSystemFixed, grantStatus := permissionGranted }
  else if policy.preAuthorizationInfo.isEmpty && !needGrantForDebug then state
  else
    match policy.preAuthorizationInfo.find? (·.permissionName == state.permissionName) with
    | some info =>
      { state with
        grantFlag := if info.userCancelable then permissionPreAuthorizedCancelable else permissionSystemFixed
        grantStatus := permissionGranted }
    | none =>
      if needGrantForDebug then { state with grantFlag := permissionUserFixed, grantStatus := permissionGranted }
      else state

/-- A row of `hap_undefine_info_table` without its token; `acl` is stored as 0 or 1, and a value that was never put
reads as the empty string. -/
structure UndefinedRow where
  permissionName : String
  appDistributionType : String
  acl : Bool
  value : String
deriving DecidableEq

def fillUndefinedPermVector (permissionName appDistributionType : String) (policy : InstallPolicy) : UndefinedRow where
  permissionName := permissionName
  appDistributionType := appDistributionType
  acl := policy.aclRequestedList.contains permissionName
  value := policy.aclExtendedMap.getD permissionName ""

/-- The loop of `InitPermissionList`, with the states it initialises and the rows it records; `appDistTypeToString`
writes a distribution type as text. -/
def initPermissionList (T : PermissionTable) (appDistTypeToString : AppDistType → String) (isEnterpriseNormal : Bool)
    (param : BundleParam) (policy : InstallPolicy) (dataRefresh : Bool) :
    List PermissionStatus → Except PermissionInfoCheckResult (List PermissionStatus × List UndefinedRow)
  | [] => .ok ([], [])
  | status :: permStateList =>
    let undefined := fillUndefinedPermVector status.permissionName (appDistTypeToString param.distributionType) policy
    let rest := initPermissionList T appDistTypeToString isEnterpriseNormal param policy dataRefresh permStateList
    match (T.getPermissionBriefDef status.permissionName).filter (·.1.isEnable) with
    | none => rest.map fun r => (r.1, undefined :: r.2)
    | some (briefDef, _) =>
      match PermissionConstraintCheck.aclAndEdmCheck isEnterpriseNormal param briefDef policy with
      | some result => if dataRefresh then rest.map fun r => (r.1, undefined :: r.2) else .error result
      | none =>
        let state := initPermState policy briefDef (param.isDebug && policy.isDebugGrant)
          { status with grantFlag := permissionDefaultFlag, grantStatus := permissionDenied }
        rest.map fun r => (state :: r.1, r.2)

theorem initPermState_permissionName (policy : InstallPolicy) (briefDef : PermissionBriefDef) (needGrantForDebug : Bool)
    (state : PermissionStatus) :
    (initPermState policy briefDef needGrantForDebug state).permissionName = state.permissionName := by
  unfold initPermState
  split
  · rfl
  split
  · rfl
  · split
    · rfl
    · split <;> rfl

theorem map_eq_ok {ε α β : Type} {x : Except ε α} {f : α → β} {b : β} (h : x.map f = .ok b) :
    ∃ a, x = .ok a ∧ f a = b := by
  cases x with
  | error => cases h
  | ok a => exact ⟨a, rfl, Except.ok.inj h⟩

section
variable {T : PermissionTable} {appDistTypeToString : AppDistType → String} {isEnterpriseNormal dataRefresh : Bool}
    {param : BundleParam} {policy : InstallPolicy}

/-- The two lists hold the requested permissions, each once, in the order of the request. -/
def SplitsRequest (list : List PermissionStatus) (r : List PermissionStatus × List UndefinedRow) : Prop :=
  (r.1.map (·.permissionName) ++ r.2.map (·.permissionName)).Perm (list.map (·.permissionName)) ∧
    (r.1.map (·.permissionName)).Sublist (list.map (·.permissionName)) ∧
    (r.2.map (·.permissionName)).Sublist (list.map (·.permissionName))

/-- **Every requested permission is initialised or recorded**, and none is both. -/
theorem initPermissionList_split : ∀ {list : List PermissionStatus} {r : List PermissionStatus × List UndefinedRow},
    initPermissionList T appDistTypeToString isEnterpriseNormal param policy dataRefresh list = .ok r →
    SplitsRequest list r
  | [], r, h => by
    cases h
    exact ⟨.refl _, .slnil, .slnil⟩
  | status :: list, r, h => by
    have hrecorded : ∀ {row : UndefinedRow}, row.permissionName = status.permissionName →
        (initPermissionList T appDistTypeToString isEnterpriseNormal param policy dataRefresh list).map
          (fun r => (r.1, row :: r.2)) = .ok r → SplitsRequest (status :: list) r := by
      intro row hname hmap
      obtain ⟨r', hrest, rfl⟩ := map_eq_ok hmap
      obtain ⟨hperm, hfirst, hsecond⟩ := initPermissionList_split hrest
      rw [SplitsRequest, List.map_cons, List.map_cons, hname]
      exact ⟨List.perm_middle.trans (hperm.cons _), hfirst.cons _, hsecond.cons_cons _⟩
    rw [initPermissionList] at h
    split at h
    · exact hrecorded rfl h
    split at h
    · split at h
      · exact hrecorded rfl h
      · cases h
    · obtain ⟨r', hrest, rfl⟩ := map_eq_ok h
      obtain ⟨hperm, hfirst, hsecond⟩ := initPermissionList_split hrest
      rw [SplitsRequest, List.map_cons, List.map_cons, initPermState_permissionName]
      exact ⟨hperm.cons _, hfirst.cons_cons _, hsecond.cons _⟩

/-- **The second installation asks for the same and is at least as privileged as the first.** -/
structure AtLeastAsPrivileged (param param' : BundleParam) (policy policy' : InstallPolicy) : Prop where
  requests : policy'.permStateList = policy.permStateList
  preAuthorization : policy'.preAuthorizationInfo = policy.preAuthorizationInfo
  debugGrant : policy'.isDebugGrant = policy.isDebugGrant
  apl : policy.apl.toInt ≤ policy'.apl.toInt
  acl : policy.aclRequestedList ⊆ policy'.aclRequestedList
  extended : ∀ p, p ∈ policy.aclExtendedMap → p ∈ policy'.aclExtendedMap
  sideload : param' = { param with isSideloadApp := param'.isSideloadApp }
  sideloaded : param.isSideloadApp = true → param'.isSideloadApp = true

variable {param' : BundleParam} {policy' : InstallPolicy} {d : PermissionBriefDef}

section

variable (h : AtLeastAsPrivileged param param' policy policy')
include h

theorem AtLeastAsPrivileged.isAclSatisfied
    (hok : PermissionConstraintCheck.isAclSatisfied param.isSideloadApp d policy = true) :
    PermissionConstraintCheck.isAclSatisfied param'.isSideloadApp d policy' = true := by
  have hapl := h.apl
  unfold PermissionConstraintCheck.isAclSatisfied at hok ⊢
  by_cases hlow : policy'.apl.toInt < d.availableLevel.toInt
  · rw [if_pos (by omega)] at hok
    unfold PermissionConstraintCheck.isSideloadAclExempt at hok ⊢
    cases hp : d.provisionEnable with
    | false => simp [hp] at hok
    | true =>
      by_cases hexempt : param'.isSideloadApp = true ∧ d.provisionBypassForSideload = true
      · simp [hexempt.1, hexempt.2]
      have hexempt' : ¬(param.isSideloadApp = true ∧ d.provisionBypassForSideload = true) :=
        fun hh => hexempt ⟨h.sideloaded hh.1, hh.2⟩
      cases hv : d.hasValue with
      | true =>
        simp [hp, hv, hexempt'] at hok
        simp [hexempt, h.extended _ hok]
      | false =>
        simp [hp, hv, hexempt'] at hok
        simp [hexempt, h.acl hok]
  · rw [if_neg hlow]

theorem AtLeastAsPrivileged.aclAndEdmCheck
    (hok : PermissionConstraintCheck.aclAndEdmCheck isEnterpriseNormal param d policy = none) :
    PermissionConstraintCheck.aclAndEdmCheck isEnterpriseNormal param' d policy' = none := by
  unfold PermissionConstraintCheck.aclAndEdmCheck at hok ⊢
  cases hacl : PermissionConstraintCheck.isAclSatisfied param.isSideloadApp d policy with
  | false => simp [hacl] at hok
  | true =>
    have hrange : PermissionConstraintCheck.isPermAvailableRangeSatisfied isEnterpriseNormal param' d =
        PermissionConstraintCheck.isPermAvailableRangeSatisfied isEnterpriseNormal param d := by
      rw [h.sideload]
      rfl
    rw [h.isAclSatisfied hacl, hrange]
    simpa [hacl] using hok

end

/-- One loop over both: what the first initialises the second initialises, what the second records the first records. -/
theorem AtLeastAsPrivileged.initPermissionList (h : AtLeastAsPrivileged param param' policy policy') :
    ∀ {list : List PermissionStatus} {r : List PermissionStatus × List UndefinedRow},
      initPermissionList T appDistTypeToString isEnterpriseNormal param policy dataRefresh list = .ok r →
      ∃ r', AccessToken.initPermissionList T appDistTypeToString isEnterpriseNormal param' policy' dataRefresh list =
        .ok r' ∧ r.1.Sublist r'.1 ∧ (r'.2.map (·.permissionName)).Sublist (r.2.map (·.permissionName))
  | [], r, hok => by
    cases hok
    exact ⟨_, rfl, .slnil, .slnil⟩
  | status :: list, r, hok => by
    rw [AccessToken.initPermissionList] at hok ⊢
    cases hdef : (T.getPermissionBriefDef status.permissionName).filter (·.1.isEnable) with
    | none =>
      rw [hdef] at hok
      obtain ⟨r₁, hrest, rfl⟩ := map_eq_ok hok
      obtain ⟨r', hrest', hinit, hundef⟩ := h.initPermissionList hrest
      rw [hrest']
      exact ⟨_, rfl, hinit, hundef.cons_cons _⟩
    | some d =>
      obtain ⟨d, c⟩ := d
      simp only [hdef] at hok ⊢
      cases hcheck : PermissionConstraintCheck.aclAndEdmCheck isEnterpriseNormal param d policy with
      | none =>
        rw [hcheck] at hok
        obtain ⟨r₁, hrest, rfl⟩ := map_eq_ok hok
        obtain ⟨r', hrest', hinit, hundef⟩ := h.initPermissionList hrest
        rw [h.aclAndEdmCheck hcheck, hrest', h.sideload, h.debugGrant]
        simp only [initPermState, h.preAuthorization]
        exact ⟨_, rfl, hinit.cons_cons _, hundef⟩
      | some res =>
        simp only [hcheck] at hok
        split at hok
        · rename_i hrefresh
          obtain ⟨r₁, hrest, rfl⟩ := map_eq_ok hok
          obtain ⟨r', hrest', hinit, hundef⟩ := h.initPermissionList hrest
          simp only [if_pos hrefresh, hrest']
          split
          · exact ⟨_, rfl, hinit, hundef.cons_cons _⟩
          · exact ⟨_, rfl, hinit.cons _, hundef.cons _⟩
        · cases hok

/-- **An installation loses no permission and gains with its privileges.** -/
theorem initPermissionList_complete_and_monotone (h : AtLeastAsPrivileged param param' policy policy')
    {r : List PermissionStatus × List UndefinedRow}
    (hok : initPermissionList T appDistTypeToString isEnterpriseNormal param policy dataRefresh policy.permStateList =
      .ok r) :
    SplitsRequest policy.permStateList r ∧
    ∃ r', initPermissionList T appDistTypeToString isEnterpriseNormal param' policy' dataRefresh policy'.permStateList =
      .ok r' ∧ r.1.Sublist r'.1 ∧ (r'.2.map (·.permissionName)).Sublist (r.2.map (·.permissionName)) := by
  rw [h.requests]
  exact ⟨initPermissionList_split hok, h.initPermissionList hok⟩

end

/-- A table with a permission for the system core. -/
def coreTable : PermissionTable where
  permList := [⟨"ohos.permission.CAMERA", .userGrant, .aplNormal, .normal, true, false, false, true, false⟩,
    ⟨"ohos.permission.INSTALL_BUNDLE", .systemGrant, .aplSystemCore, .normal, true, false, false, true, false⟩]
  names_nodup := by decide
  names_cStr := by decide
  names_valid := by decide
  codes_word := by decide

def sampleInstall : InstallPolicy :=
  ⟨{ Service.samplePolicy with
      permStateList := [⟨"ohos.permission.CAMERA", permissionDenied, permissionDefaultFlag⟩,
        ⟨"ohos.permission.INSTALL_BUNDLE", permissionDenied, permissionDefaultFlag⟩] }, [], []⟩

/-- The second permission is recorded, and initialised for the system core. -/
theorem initPermissionList_core :
    ∃ r', initPermissionList coreTable (fun _ => "none") true ⟨.other, false, false, true⟩
        { sampleInstall with apl := .aplSystemCore } true sampleInstall.permStateList = .ok r' ∧
      List.Sublist [⟨"ohos.permission.CAMERA", permissionDenied, permissionDefaultFlag⟩] r'.1 ∧
      (r'.2.map (·.permissionName)).Sublist ["ohos.permission.INSTALL_BUNDLE"] ∧
      r' = ([⟨"ohos.permission.CAMERA", permissionDenied, permissionDefaultFlag⟩,
        ⟨"ohos.permission.INSTALL_BUNDLE", permissionGranted, permissionSystemFixed⟩], []) := by
  have h : AtLeastAsPrivileged ⟨.other, false, false, false⟩ ⟨.other, false, false, true⟩ sampleInstall
      { sampleInstall with apl := .aplSystemCore } :=
    ⟨rfl, rfl, rfl, by decide, fun _ h => h, fun _ h => h, rfl, fun _ => rfl⟩
  have hok : initPermissionList coreTable (fun _ => "none") true ⟨.other, false, false, false⟩ sampleInstall true
      sampleInstall.permStateList = .ok ([⟨"ohos.permission.CAMERA", permissionDenied, permissionDefaultFlag⟩],
        [⟨"ohos.permission.INSTALL_BUNDLE", "none", false, ""⟩]) := by
    decide +kernel
  obtain ⟨r', hr', hinit, hundef⟩ := (initPermissionList_complete_and_monotone h hok).2
  refine ⟨r', hr', hinit, hundef, Except.ok.inj (hr'.symm.trans ?_)⟩
  decide +kernel

end AccessToken
