import AccessToken.PermissionConstraint
import AccessToken.Service.Permission
import AccessToken.PermissionDataLemmas
/-!
# Permissions that get a definition later

A permission without a definition is recorded in a table of its own when an app is installed.  When the definitions
change, `HandleHapUndefinedInfo` checks the rows again: a row that is valid now becomes an entry, a kernel bit and a row
of the permission-state table.  Its rule is that of the installation written a second time, over the recorded row;
`promotion_as_installed_iff` says where the two agree.
-/
namespace AccessToken.Service

open PermissionDataBrief PermissionConstraintCheck UserPolicyManager Std.ExtTreeMap PermissionTable KernelPerms

structure TokenIdInfo where
  apl : ATokenAplEnum
  isSystemApp : Bool
deriving DecidableEq

/-- What the recheck reads beside the rows: the tokens found at the start, how a distribution type is read, the sideload
state of a token (its lookup changes nothing, the tokens of the map are in memory), and the system parameter. -/
structure DefUpdate where
  tokenIdAplMap : Std.ExtTreeMap AccessTokenID TokenIdInfo
  parseAppDistType : String → AppDistType
  isSideloadApp : AccessTokenID → Bool
  isEnterpriseNormal : Bool

section Model

variable (T : PermissionTable) (C : DefUpdate)

/-! ## Checking the rows again -/

def isPermissionValid (isSideloadApp : Bool) (hapApl : ATokenAplEnum) (data : PermissionBriefDef) (value : String)
    (isAcl : Bool) : Bool :=
  if hapApl.toInt ≥ data.availableLevel.toInt then true
  else if isAcl || isSideloadAclExempt isSideloadApp data then true
  else if data.hasValue then !value.isEmpty
  else false

/-- The `BundleParam` of a row: only a debug app has the distribution type `none`. -/
def bundleParamOf (tokenId : AccessTokenID) (info : TokenIdInfo) (row : UndefinedRow) : BundleParam where
  distributionType := C.parseAppDistType row.appDistributionType
  isSystem := info.isSystemApp
  isDebug := row.appDistributionType == "none"
  isSideloadApp := C.isSideloadApp tokenId

/-- The body of the loop of `RecheckUndefinedPerms`. -/
def isPromotable (e : AccessTokenID × UndefinedRow) : Bool :=
  match C.tokenIdAplMap[e.1]? with
  | none => false
  | some info =>
    match T.getPermissionBriefDef e.2.permissionName with
    | none => false
    | some (data, _) =>
      let bundleParam := bundleParamOf C e.1 info e.2
      data.isEnable &&
        (isPermAvailableRangeSatisfied C.isEnterpriseNormal bundleParam data).isNone &&
        isPermissionValid bundleParam.isSideloadApp info.apl data e.2.value e.2.acl

def recheckUndefinedPerms (results : List (AccessTokenID × UndefinedRow)) : List (AccessTokenID × UndefinedRow) :=
  results.filter (isPromotable T C)

/-! ## Taking them over -/

/-- The service with the rows collected for the permission-state and the extended-value table. -/
structure Promotion where
  service : Service
  stateValues : List (AccessTokenID × PermissionStatus)
  extendValues : List (AccessTokenID × PermissionWithValue)

def promotedState (data : PermissionBriefDef) : Int × Flag :=
  if data.grantMode = .userGrant ∨ data.grantMode = .manualSettings then (permissionDenied, permissionDefaultFlag)
  else (permissionGranted, permissionSystemFixed)

/-- The body of the loop of `UpdateUndefinedInfoCache`. -/
def promote (st : Promotion) (e : AccessTokenID × UndefinedRow) : Promotion :=
  match T.getPermissionBriefDef e.2.permissionName with
  | none => st
  | some (data, _) =>
    if !data.isEnable then st
    else
      let (grantStatus, grantFlag) := promotedState data
      match addBriefPermData T st.service.brief e.1 e.2.permissionName grantStatus grantFlag e.2.value with
      | (.error _, brief) => { st with service := { st.service with brief := brief } }
      | (.ok (), brief) =>
        { service := { st.service with brief := brief }.setPermToKernel T e.1 e.2.permissionName
            (grantStatus == permissionGranted)
          stateValues := st.stateValues ++ [(e.1, ⟨e.2.permissionName, grantStatus, grantFlag⟩)]
          extendValues :=
            if data.hasValue && !e.2.value.isEmpty then st.extendValues ++ [(e.1, ⟨e.2.permissionName, e.2.value⟩)]
            else st.extendValues }

def updateUndefinedInfoCache (w : Service) (validValueList : List (AccessTokenID × UndefinedRow)) : Promotion :=
  validValueList.foldl (promote T) ⟨w, [], []⟩

/-- `HandleHapUndefinedInfo` of the rows it finds; the rows to delete are the ones rechecked. -/
def handleHapUndefinedInfo (w : Service) (results : List (AccessTokenID × UndefinedRow)) :
    Promotion × List (AccessTokenID × UndefinedRow) :=
  let validValueList := recheckUndefinedPerms T C results
  (updateUndefinedInfoCache T w validValueList, validValueList)

end Model

/-! ## The transaction -/

def insertStateValues (rows : AccessTokenID → PermStateRows) (values : List (AccessTokenID × PermissionStatus)) :
    AccessTokenID → PermStateRows :=
  values.foldl (fun rows v =>
    Function.update rows v.1 ((rows v.1).insert v.2.permissionName ⟨v.2.grantStatus, v.2.grantFlag⟩)) rows

def insertValues (rows : AccessTokenID → Std.ExtTreeMap String String)
    (values : List (AccessTokenID × PermissionWithValue)) : AccessTokenID → Std.ExtTreeMap String String :=
  values.foldl (fun rows v => Function.update rows v.1 ((rows v.1).insert v.2.permissionName v.2.value)) rows

/-- `DeleteAndInsertValues` of what was collected, when it goes through: the undefined table and the database. -/
def deleteAndInsertValues (results : List (AccessTokenID × UndefinedRow)) (db : Database)
    (collected : Promotion × List (AccessTokenID × UndefinedRow)) : List (AccessTokenID × UndefinedRow) × Database :=
  (results.filter (!collected.2.contains ·),
    { db with
      permissionState := insertStateValues db.permissionState collected.1.stateValues
      extendValue := insertValues db.extendValue collected.1.extendValues })

/-- The user policies on the device.  The service promotes before it has loaded the persisted ones, which are then in
the table only. -/
def policiesInForce (T : PermissionTable) (w : Service) : UserPolicyRecords :=
  loadPersistedPolicies T w.policy.records w.policy.table.toList

/-! ## The two rules -/

def Recorded (policy : InstallPolicy) (row : UndefinedRow) : Prop :=
  row = fillUndefinedPermVector row.permissionName row.appDistributionType policy

/-- An installation with the policy data of the row would accept the permission. -/
def InstallAccepts (C : DefUpdate) (e : AccessTokenID × UndefinedRow) (info : TokenIdInfo) (data : PermissionBriefDef) :
    Prop :=
  ∀ policy : InstallPolicy, policy.apl = info.apl → Recorded policy e.2 →
    aclAndEdmCheck C.isEnterpriseNormal (bundleParamOf C e.1 info e.2) data policy = none

/-- What the installation asks for a permission above the app's level and the recheck does not. -/
def Provisioned (C : DefUpdate) (e : AccessTokenID × UndefinedRow) (info : TokenIdInfo) (data : PermissionBriefDef) :
    Prop :=
  info.apl.toInt < data.availableLevel.toInt →
    data.provisionEnable = true ∧
      (isSideloadAclExempt (C.isSideloadApp e.1) data = true ∨
        data.permissionName = e.2.permissionName ∧ (data.hasValue = true → e.2.value ≠ ""))
deriving Decidable

/-- The policy that says of the row's permission what the row does, and nothing else. -/
def policyOf (apl : ATokenAplEnum) (row : UndefinedRow) : InstallPolicy where
  apl := apl
  domain := ""
  permStateList := []
  aclExtendedMap := if row.value = "" then ∅ else (∅ : AclExtendedMap).insert row.permissionName row.value
  isDebugGrant := false
  aclRequestedList := if row.acl then [row.permissionName] else []
  preAuthorizationInfo := []

theorem recorded_policyOf {apl : ATokenAplEnum} {row : UndefinedRow} : Recorded (policyOf apl row) row := by
  unfold Recorded fillUndefinedPermVector policyOf
  cases row with
  | mk name dist acl value =>
    congr 1
    · cases acl <;> simp
    · by_cases hv : value = ""
      · simp [hv]
      · simp [hv]

section Rule

variable {T : PermissionTable} {C : DefUpdate} {e : AccessTokenID × UndefinedRow} {info : TokenIdInfo}
  {data : PermissionBriefDef} {c : Nat}

theorem isPromotable_iff : isPromotable T C e = true ↔
      ∃ info data c, C.tokenIdAplMap[e.1]? = some info ∧ T.getPermissionBriefDef e.2.permissionName = some (data, c) ∧
        data.isEnable = true ∧
        isPermAvailableRangeSatisfied C.isEnterpriseNormal (bundleParamOf C e.1 info e.2) data = none ∧
        isPermissionValid (C.isSideloadApp e.1) info.apl data e.2.value e.2.acl = true := by
  unfold isPromotable
  cases C.tokenIdAplMap[e.1]? with
  | none => simp
  | some =>
    rcases T.getPermissionBriefDef e.2.permissionName with _ | ⟨data, c⟩
    · simp
    · simp [Option.isNone_iff_eq_none, bundleParamOf, and_assoc]

variable (he : isPromotable T C e = true) (hinfo : C.tokenIdAplMap[e.1]? = some info)
  (hdef : T.getPermissionBriefDef e.2.permissionName = some (data, c))
include he hinfo hdef

theorem aclAndEdmCheck_of_promotable (policy : InstallPolicy) :
    aclAndEdmCheck C.isEnterpriseNormal (bundleParamOf C e.1 info e.2) data policy = none ↔
      isAclSatisfied (C.isSideloadApp e.1) data policy = true := by
  obtain ⟨info', data', c', hinfo', hdef', -, hrange, -⟩ := isPromotable_iff.1 he
  rw [hinfo] at hinfo'
  cases hinfo'
  rw [hdef] at hdef'
  cases hdef'
  unfold aclAndEdmCheck
  rw [hrange]
  cases h : isAclSatisfied (C.isSideloadApp e.1) data policy <;>
    simp [bundleParamOf, h]

/-- **Where the two rules agree**: a row the recheck takes is accepted by every installation that recorded it, exactly
when the definition lets a profile name the permission and the profile did. -/
theorem installAccepts_iff : InstallAccepts C e info data ↔ Provisioned C e info data := by
  have hvalid : isPermissionValid (C.isSideloadApp e.1) info.apl data e.2.value e.2.acl = true := by
    obtain ⟨info', data', c', hinfo', hdef', -, -, hvalid⟩ := isPromotable_iff.1 he
    rw [hinfo] at hinfo'
    cases hinfo'
    rw [hdef] at hdef'
    cases hdef'
    exact hvalid
  unfold InstallAccepts Provisioned
  simp only [aclAndEdmCheck_of_promotable he hinfo hdef]
  constructor
  · intro hacc hlevel
    have h := hacc (policyOf info.apl e.2) rfl recorded_policyOf
    unfold isAclSatisfied at h
    rw [if_pos (show (policyOf info.apl e.2).apl.toInt < _ from hlevel)] at h
    cases hprov : data.provisionEnable with
    | false =>
      rw [hprov] at h
      cases h
    | true =>
      refine ⟨rfl, ?_⟩
      cases hex : isSideloadAclExempt (C.isSideloadApp e.1) data with
      | true => exact .inl rfl
      | false =>
        refine .inr ?_
        simp only [hprov, hex, Bool.not_true, Bool.false_eq_true, if_false, policyOf] at h
        cases hval : data.hasValue with
        | true =>
          rw [hval, if_pos rfl] at h
          by_cases hv : e.2.value = ""
          · simp [hv] at h
          · simp only [hv, if_false, Lib.mem_insert, decide_eq_true_eq] at h
            exact ⟨by simpa using h, fun _ => hv⟩
        | false =>
          rw [hval, if_neg (by decide)] at h
          cases hacl : e.2.acl with
          | false => simp [hacl] at h
          | true =>
            rw [hacl, if_pos rfl] at h
            exact ⟨by simpa using h, fun hf => by cases hf⟩
  · intro hprov policy hapl hrec
    unfold isAclSatisfied
    rw [hapl]
    split
    · rename_i hlevel
      obtain ⟨hen, hcase⟩ := hprov hlevel
      rw [hen]
      simp only [Bool.not_true, Bool.false_eq_true, if_false]
      cases hex : isSideloadAclExempt (C.isSideloadApp e.1) data with
      | true => rfl
      | false =>
        rw [hex] at hcase
        obtain ⟨hname, hval⟩ := hcase.resolve_left (by decide)
        have hacl : e.2.acl = policy.aclRequestedList.contains e.2.permissionName := congrArg UndefinedRow.acl hrec
        have hvalue : e.2.value = policy.aclExtendedMap.getD e.2.permissionName "" :=
          congrArg UndefinedRow.value hrec
        simp only [Bool.false_eq_true, if_false, hname]
        split
        · rename_i hhas
          -- a value that is not empty comes from the profile
          by_contra hmem
          refine hval hhas ?_
          rw [hvalue]
          exact getD_eq_fallback (by simpa using hmem)
        · rename_i hhas
          unfold isPermissionValid at hvalid
          rw [if_neg (by omega), hex, Bool.or_false] at hvalid
          rw [← hacl]
          by_contra hf
          simp [hf, hhas] at hvalid
    · rfl

end Rule

/-! ## The loop -/

def Taken (w : Service) (t : AccessTokenID) (c : Nat) (data : PermissionBriefDef) : Prop :=
  (∃ d, w.entry t c = some d ∧ d.status = (promotedState data).1 ∧
      d.flag = getFlagWroteToDb (promotedState data).2) ∧
    w.kernel t c = ((promotedState data).1 == permissionGranted)

def Defined (T : PermissionTable) (e : AccessTokenID × UndefinedRow) : Prop :=
  ∃ data c, T.getPermissionBriefDef e.2.permissionName = some (data, c) ∧ data.isEnable = true

section Loop

variable {T : PermissionTable} {C : DefUpdate} {e : AccessTokenID × UndefinedRow} {data : PermissionBriefDef} {c : Nat}
    {st : Promotion}

theorem defined_of_isPromotable (h : isPromotable T C e = true) : Defined T e := by
  obtain ⟨-, data, c, -, hdef, hen, -, -⟩ := isPromotable_iff.1 h
  exact ⟨data, c, hdef, hen⟩

theorem promote_of_absent (h : e.1 ∉ st.service.requestedPermData) : ∃ ext, promote T st e =
      { st with service := { st.service with brief := { st.service.brief with extendedValue := ext } } } := by
  unfold promote
  split
  · exact ⟨st.service.extendedValue, rfl⟩
  split
  · exact ⟨st.service.extendedValue, rfl⟩
  rename_i data c _ _
  obtain ⟨err, ext, hadd⟩ | ⟨d, l, ext, -, hl, -⟩ := addBriefPermData_cases
    (T := T) (s := st.service.brief) e.1 e.2.permissionName (promotedState data).1 (promotedState data).2 e.2.value
  · refine ⟨ext, ?_⟩
    simp only [hadd]
  · exact absurd (mem_iff_isSome_getElem?.2 (by rw [hl]; rfl)) h

/-- A row taken over: the entry is merged in, the kernel bit is written, the row is collected. -/
theorem promote_of_present (hdef : T.getPermissionBriefDef e.2.permissionName = some (data, c))
    (hen : data.isEnable = true) (h : e.1 ∈ st.service.requestedPermData) :
    ∃ l d ext ev, st.service.requestedPermData[e.1]? = some l ∧ d.permCode = c ∧
      d.status = (promotedState data).1 ∧ d.flag = (promotedState data).2 ∧
      promote T st e = ⟨{ st.service with
            brief :=
              { st.service.brief with
                requestedPermData := st.service.requestedPermData.insert e.1 (mergePermBriefData l d)
                extendedValue := ext }
            kernel := st.service.kernel.setPermissionToKernel e.1 c ((promotedState data).1 == permissionGranted) },
          st.stateValues ++ [(e.1, ⟨e.2.permissionName, (promotedState data).1, (promotedState data).2⟩)], ev⟩ := by
  have hcode := (getPermissionBriefDef_eq_some hdef).1
  obtain ⟨l, hl⟩ := Lib.mem_iff_exists.1 h
  have hvalid : isGrantStatusValid (promotedState data).1 = true := by
    unfold promotedState
    split <;> rfl
  cases hd : briefPermDataOf T ⟨e.2.permissionName, (promotedState data).1, (promotedState data).2⟩ with
  | none => simp [briefPermDataOf, hvalid, hdef] at hd
  | some d =>
    obtain ⟨hst, hfl, hdc, -⟩ := briefPermDataOf_eq_some hd
    have hdc : some c = some d.permCode := hcode.symm.trans hdc
    cases hdc
    obtain ⟨ext, hadd⟩ := addBriefPermData_of_mem hd hl e.2.value
    refine ⟨l, d, ext, (promote T st e).extendValues, hl, rfl, hst, hfl, ?_⟩
    unfold promote
    simp only [hdef, hen, hadd, Bool.not_true, Bool.false_eq_true, if_false, setPermToKernel, hcode]

theorem promote_spec (st : Promotion) (he : Defined T e) :
    (∀ t, t ∈ (promote T st e).service.requestedPermData ↔ t ∈ st.service.requestedPermData) ∧
      (e.1 ∈ st.service.requestedPermData →
        ∀ data c, T.getPermissionBriefDef e.2.permissionName = some (data, c) →
        Taken (promote T st e).service e.1 c data) ∧
      (∀ t c data, T.permList[c]? = some data → Taken st.service t c data → Taken (promote T st e).service t c data) ∧
      (promote T st e).stateValues.map (fun v => (v.1, v.2.permissionName)) =
        st.stateValues.map (fun v => (v.1, v.2.permissionName)) ++
          if e.1 ∈ st.service.requestedPermData then [(e.1, e.2.permissionName)] else [] := by
  by_cases hmem : e.1 ∈ st.service.requestedPermData
  · obtain ⟨data, c, hdef, hen⟩ := he
    obtain ⟨l, d, ext, ev, hl, rfl, hst, hfl, heq⟩ := promote_of_present hdef hen hmem
    rw [heq, if_pos hmem]
    obtain ⟨d', hd', hst', hfl'⟩ := (find?_mergePermBriefData l d d.permCode).1 rfl
    have hnew : Taken (promote T st e).service e.1 d.permCode data := by
      rw [heq]
      refine ⟨⟨d', ?_, hst'.trans hst, by rw [hfl', hfl]⟩, ?_⟩
      · show ((_ : Std.ExtTreeMap AccessTokenID (List BriefPermData)).insert e.1 _)[e.1]?.bind _ = _
        rw [getElem?_insert_self]
        exact hd'
      · show setPermissionToKernel _ _ _ _ _ _ = _
        rw [setPermissionToKernel_apply, if_pos ⟨rfl, rfl⟩]
    rw [heq] at hnew
    refine ⟨fun t => ?_, fun _ data' c' hdef' => ?_, fun t c' data' hc' htaken => ?_, by simp⟩
    · show t ∈ (_ : Std.ExtTreeMap AccessTokenID (List BriefPermData)).insert e.1 _ ↔ _
      refine Lib.mem_insert.trans (or_iff_right_of_imp ?_)
      rintro rfl
      assumption
    · rw [hdef] at hdef'
      cases hdef'
      exact hnew
    by_cases hkey : t = e.1 ∧ c' = d.permCode
    · obtain ⟨rfl, rfl⟩ := hkey
      rw [(getPermissionBriefDef_eq_some hdef).2] at hc'
      cases hc'
      exact hnew
    obtain ⟨⟨dt, hdt, hs, hf⟩, hk⟩ := htaken
    refine ⟨⟨dt, ?_, hs, hf⟩, ?_⟩
    · rw [← hdt]
      show ((_ : Std.ExtTreeMap AccessTokenID (List BriefPermData)).insert e.1 _)[t]?.bind _ =
        (st.service.requestedPermData[t]?).bind _
      rw [Lib.getElem?_insert]
      split
      · subst t
        rw [hl]
        exact (find?_mergePermBriefData l d c').2 fun hc => hkey ⟨rfl, hc⟩
      · rfl
    · show setPermissionToKernel _ _ _ _ _ _ = _
      rw [setPermissionToKernel_apply, if_neg hkey]
      exact hk
  · obtain ⟨ext, heq⟩ := promote_of_absent hmem
    rw [heq, if_neg hmem]
    exact ⟨fun t => Iff.rfl, fun h => absurd h hmem, fun t c data _ htaken => htaken, by simp⟩

/-- **All rows**: each row of a token with permission data is taken over, and its key is collected. -/
theorem promotions (T : PermissionTable) :
    ∀ (es : List (AccessTokenID × UndefinedRow)) (st : Promotion), (∀ e ∈ es, Defined T e) →
      (∀ t, t ∈ (es.foldl (promote T) st).service.requestedPermData ↔ t ∈ st.service.requestedPermData) ∧
      (∀ e ∈ es, e.1 ∈ st.service.requestedPermData → ∀ data c,
        T.getPermissionBriefDef e.2.permissionName = some (data, c) →
        Taken (es.foldl (promote T) st).service e.1 c data) ∧
      (∀ t c data, T.permList[c]? = some data → Taken st.service t c data →
        Taken (es.foldl (promote T) st).service t c data) ∧
      (es.foldl (promote T) st).stateValues.map (fun v => (v.1, v.2.permissionName)) =
        st.stateValues.map (fun v => (v.1, v.2.permissionName)) ++
          (es.filter (fun e => decide (e.1 ∈ st.service.requestedPermData))).map
            (fun e => (e.1, e.2.permissionName))
  | [], st, _ => ⟨fun t => Iff.rfl, by simp, fun t c data _ h => h, by simp⟩
  | e :: es, st, hes => by
    obtain ⟨hmem, hnew, hkeep, hvals⟩ := promote_spec st (hes e List.mem_cons_self)
    obtain ⟨hmem', hnew', hkeep', hvals'⟩ := promotions T es (promote T st e) fun x hx =>
      hes x (List.mem_cons_of_mem _ hx)
    rw [List.foldl_cons]
    refine ⟨fun t => (hmem' t).trans (hmem t), ?_, fun t c data hc h => hkeep' t c data hc (hkeep t c data hc h), ?_⟩
    · intro x hx hpresent data c hdef
      obtain rfl | hx := List.mem_cons.1 hx
      · exact hkeep' _ _ _ (getPermissionBriefDef_eq_some hdef).2 (hnew hpresent data c hdef)
      · exact hnew' x hx ((hmem x.1).2 hpresent) data c hdef
    · rw [hvals', hvals, List.filter_cons, List.append_assoc]
      split
      · simp_all
      · simp_all

end Loop

/-! ## The tables -/

theorem mem_insertStateValues (values : List (AccessTokenID × PermissionStatus)) (rows : AccessTokenID → PermStateRows)
    (t : AccessTokenID) (n : String) : n ∈ insertStateValues rows values t ↔
      n ∈ rows t ∨ (t, n) ∈ values.map fun v => (v.1, v.2.permissionName) := by
  induction values generalizing rows with
  | nil => simp [insertStateValues]
  | cons v values ih =>
    rw [insertStateValues, List.foldl_cons, ← insertStateValues, ih, Function.update_apply]
    by_cases ht : t = v.1
    · subst ht
      rw [if_pos rfl, Lib.mem_insert]
      simp only [List.map_cons, List.mem_cons, Prod.mk.injEq, true_and, or_assoc, or_left_comm]
    · simp [ht]

/-! ## The result -/

/-- What is asked of a promoted row: an installation accepts the permission and grants it if it is granted now, a user
policy shows in its flag, and the kernel has its effective status. -/
def AsInstalled (T : PermissionTable) (C : DefUpdate) (w w' : Service) (e : AccessTokenID × UndefinedRow) : Prop :=
  ∀ info data c, C.tokenIdAplMap[e.1]? = some info → T.getPermissionBriefDef e.2.permissionName = some (data, c) →
    InstallAccepts C e info data ∧
      ∃ d, w'.entry e.1 c = some d ∧
        (d.status = permissionGranted → ∀ policy needGrantForDebug, Recorded policy e.2 →
          (initPermState policy data needGrantForDebug
            ⟨e.2.permissionName, permissionDenied, permissionDefaultFlag⟩).grantStatus = permissionGranted) ∧
        (∀ hap, w.hapTokenInfoMap[e.1]? = some hap →
          isPermissionRestricted (policiesInForce T w) e.1 hap.userID c = true →
          isRestricted d.flag = true) ∧
        (w'.kernel e.1 c = true ↔ getEffectivePermissionStatus d = permissionGranted)

/-- The row's permission has a row in the permission-state table and an entry in memory. -/
def InState (T : PermissionTable) (w' : Service) (db' : Database) (e : AccessTokenID × UndefinedRow) : Prop :=
  e.2.permissionName ∈ db'.permissionState e.1 ∧
    ∃ c, T.transferPermissionToOpcode e.2.permissionName = some c ∧ (w'.entry e.1 c).isSome = true

/-- The definition is enabled and open to the app, and the app's level reaches it or its profile says something of
it. -/
def Eligible (C : DefUpdate) (e : AccessTokenID × UndefinedRow) (info : TokenIdInfo) (data : PermissionBriefDef) :
    Prop :=
  data.isEnable = true ∧
    isPermAvailableRangeSatisfied C.isEnterpriseNormal (bundleParamOf C e.1 info e.2) data = none ∧
    (data.availableLevel.toInt ≤ info.apl.toInt ∨ e.2.acl = true ∨
      isSideloadAclExempt (C.isSideloadApp e.1) data = true ∨
      data.hasValue = true ∧ e.2.value ≠ "")

/-- What a row that becomes valid needs: the profile an installation asks for, a token with permission data, and no user
policy on the permission. -/
def MayPromote (T : PermissionTable) (C : DefUpdate) (w : Service) (e : AccessTokenID × UndefinedRow) : Prop :=
  ∀ info data c, C.tokenIdAplMap[e.1]? = some info → T.getPermissionBriefDef e.2.permissionName = some (data, c) →
    Eligible C e info data →
    Provisioned C e info data ∧ e.1 ∈ w.requestedPermData ∧
      ∀ hap, w.hapTokenInfoMap[e.1]? = some hap →
        isPermissionRestricted (policiesInForce T w) e.1 hap.userID c = false

section Result

variable {T : PermissionTable} {C : DefUpdate} {e : AccessTokenID × UndefinedRow} {data : PermissionBriefDef} {c : Nat}
    {info : TokenIdInfo}

/-- What an entry taken over says: its flag has no policy bit, and it is granted only for a system-granted
permission. -/
theorem promotedState_spec (data : PermissionBriefDef) :
    isRestricted (getFlagWroteToDb (promotedState data).2) = false ∧
      isPermGrantedBySecComp (getFlagWroteToDb (promotedState data).2) = false ∧
      ((promotedState data).1 = permissionGranted → data.grantMode = .systemGrant) := by
  unfold promotedState
  cases data.grantMode <;> refine ⟨by decide, by decide, by decide⟩

variable (hinfo : C.tokenIdAplMap[e.1]? = some info)
  (hdef : T.getPermissionBriefDef e.2.permissionName = some (data, c))
include hinfo hdef

theorem isPromotable_iff_eligible : isPromotable T C e = true ↔ Eligible C e info data := by
  have hvalid : isPermissionValid (C.isSideloadApp e.1) info.apl data e.2.value e.2.acl = true ↔
      data.availableLevel.toInt ≤ info.apl.toInt ∨ e.2.acl = true ∨
        isSideloadAclExempt (C.isSideloadApp e.1) data = true ∨
        data.hasValue = true ∧ e.2.value ≠ "" := by
    unfold isPermissionValid
    split
    · rename_i hlevel
      exact ⟨fun _ => .inl hlevel, fun _ => rfl⟩
    rename_i hlevel
    split
    · rename_i hacl
      rw [Bool.or_eq_true] at hacl
      exact ⟨fun _ => .inr (or_assoc.1 (.inl hacl)), fun _ => rfl⟩
    · rename_i hacl
      rw [Bool.or_eq_true, not_or] at hacl
      cases hhas : data.hasValue <;> simp [hlevel, hacl]
  rw [isPromotable_iff]
  simp only [hinfo, hdef, Option.some.injEq, Prod.mk.injEq, ↓existsAndEq, true_and, hvalid]
  rfl

theorem Taken.asInstalled {w w' : Service} (htaken : Taken w' e.1 c data)
    (hacc : InstallAccepts C e info data) (hpol : ∀ hap, w.hapTokenInfoMap[e.1]? = some hap →
      isPermissionRestricted (policiesInForce T w) e.1 hap.userID c = false) :
    AsInstalled T C w w' e := by
  intro info' data' c' hinfo' hdef'
  rw [hinfo] at hinfo'
  cases hinfo'
  rw [hdef] at hdef'
  cases hdef'
  obtain ⟨⟨d, hd, hst, hfl⟩, hk⟩ := htaken
  obtain ⟨hres, hsec, hsys⟩ := promotedState_spec data
  refine ⟨hacc, d, hd, ?_, ?_, ?_⟩
  · intro hgranted policy dbg _
    rw [initPermState, if_pos (hsys (hst ▸ hgranted))]
  · intro hap hhap hrestr
    rw [hpol hap hhap] at hrestr
    cases hrestr
  · unfold getEffectivePermissionStatus
    rw [hk, beq_iff_eq, effectiveStatus_eq_granted, hfl, hst]
    simp [hres, hsec]

end Result

section Handle

variable {T : PermissionTable} {C : DefUpdate} {w : Service} {results : List (AccessTokenID × UndefinedRow)}
  {e : AccessTokenID × UndefinedRow}

theorem mem_recheckUndefinedPerms : e ∈ recheckUndefinedPerms T C results ↔ e ∈ results ∧ isPromotable T C e = true :=
  List.mem_filter

theorem handleHapUndefinedInfo_spec (T : PermissionTable) (C : DefUpdate) (w : Service)
    (results : List (AccessTokenID × UndefinedRow)) :
    (∀ t, t ∈ (handleHapUndefinedInfo T C w results).1.service.requestedPermData ↔ t ∈ w.requestedPermData) ∧
      (∀ e ∈ recheckUndefinedPerms T C results, e.1 ∈ w.requestedPermData → ∀ data c,
        T.getPermissionBriefDef e.2.permissionName = some (data, c) →
        Taken (handleHapUndefinedInfo T C w results).1.service e.1 c data) ∧
      (handleHapUndefinedInfo T C w results).1.stateValues.map (fun v => (v.1, v.2.permissionName)) =
        ((recheckUndefinedPerms T C results).filter fun e => decide (e.1 ∈ w.requestedPermData)).map
          fun e => (e.1, e.2.permissionName) := by
  obtain ⟨hmem, hnew, -, hvals⟩ := promotions T (recheckUndefinedPerms T C results) ⟨w, [], []⟩ fun e he =>
    defined_of_isPromotable (mem_recheckUndefinedPerms.1 he).2
  exact ⟨hmem, hnew, hvals.trans (List.nil_append _)⟩

theorem AsInstalled.mayPromote (he : e ∈ results)
    (h : isPromotable T C e = true → AsInstalled T C w (handleHapUndefinedInfo T C w results).1.service e) :
    MayPromote T C w e := by
  obtain ⟨hmem, hnew, -⟩ := handleHapUndefinedInfo_spec T C w results
  intro info data c hinfo hdef helig
  have hprom := (isPromotable_iff_eligible hinfo hdef).2 helig
  obtain ⟨hacc, d, hd, -, hpol, -⟩ := h hprom info data c hinfo hdef
  have hpresent : e.1 ∈ w.requestedPermData := by
    obtain ⟨l, hl, -⟩ := mem_of_entry hd
    rw [← hmem, mem_iff_isSome_getElem?, hl]
    rfl
  refine ⟨(installAccepts_iff hprom hinfo hdef).1 hacc, hpresent, ?_⟩
  intro hap hhap
  -- the flag written has no policy bit
  obtain ⟨⟨d', hd', -, hfl⟩, -⟩ := hnew e (mem_recheckUndefinedPerms.2 ⟨he, hprom⟩) hpresent data c hdef
  by_contra hrestr
  have hflag := hpol hap hhap (by simpa using hrestr)
  have heq : d = d' := Option.mem_unique hd hd'
  rw [heq, hfl, (promotedState_spec data).1] at hflag
  cases hflag

theorem MayPromote.asInstalled (he : e ∈ results) (hprom : isPromotable T C e = true) (h : MayPromote T C w e) :
    e.1 ∈ w.requestedPermData ∧ AsInstalled T C w (handleHapUndefinedInfo T C w results).1.service e := by
  obtain ⟨-, hnew, -⟩ := handleHapUndefinedInfo_spec T C w results
  obtain ⟨info, data, c, hinfo, hdef, -⟩ := isPromotable_iff.1 hprom
  obtain ⟨hprov, hpresent, hpol⟩ := h info data c hinfo hdef ((isPromotable_iff_eligible hinfo hdef).1 hprom)
  have htaken := hnew e (mem_recheckUndefinedPerms.2 ⟨he, hprom⟩) hpresent data c hdef
  exact ⟨hpresent, htaken.asInstalled hinfo hdef ((installAccepts_iff hprom hinfo hdef).2 hprov) hpol⟩

theorem mem_rows_iff (he : e ∈ results) :
    e ∈ (deleteAndInsertValues results w.db (handleHapUndefinedInfo T C w results)).1 ↔ ¬isPromotable T C e = true := by
  rw [deleteAndInsertValues, List.mem_filter]
  simp [handleHapUndefinedInfo, mem_recheckUndefinedPerms, he]

/-- The permissions with a row in the permission-state table are the ones promoted. -/
theorem mem_permissionState_iff (hkeys : (results.map fun e => (e.1, e.2.permissionName)).Nodup)
    (hapart : ∀ e ∈ results, e.2.permissionName ∉ w.db.permissionState e.1)
    (hpresent : ∀ e ∈ results, isPromotable T C e = true → e.1 ∈ w.requestedPermData)
    (he : e ∈ results) :
    e.2.permissionName ∈
        (deleteAndInsertValues results w.db (handleHapUndefinedInfo T C w results)).2.permissionState e.1 ↔
      isPromotable T C e = true := by
  rw [deleteAndInsertValues, mem_insertStateValues, (handleHapUndefinedInfo_spec T C w results).2.2,
    List.mem_map]
  constructor
  · rintro (hold | ⟨x, hx, hkey⟩)
    · exact absurd hold (hapart e he)
    · -- a row of the same key is the row itself
      obtain ⟨hxr, hxp⟩ := mem_recheckUndefinedPerms.1 (List.mem_filter.1 hx).1
      rwa [← List.inj_on_of_nodup_map hkeys hxr he hkey]
  · intro hprom
    refine .inr ⟨e, List.mem_filter.2 ⟨mem_recheckUndefinedPerms.2 ⟨he, hprom⟩, ?_⟩, rfl⟩
    simpa using hpresent e he hprom

end Handle

/-- **Promoting is installing afresh**, and every row stays in exactly one place, exactly when each row that becomes
valid meets `MayPromote`.  The rows have their primary key, and a permission is recorded as undefined or has a state,
not both. -/
theorem promotion_as_installed_iff (T : PermissionTable) (C : DefUpdate) (w : Service)
    (results : List (AccessTokenID × UndefinedRow)) (hkeys : (results.map fun e => (e.1, e.2.permissionName)).Nodup)
    (hapart : ∀ e ∈ results, e.2.permissionName ∉ w.db.permissionState e.1) :
    ((∀ e ∈ recheckUndefinedPerms T C results, AsInstalled T C w (handleHapUndefinedInfo T C w results).1.service e) ∧
      let after := deleteAndInsertValues results w.db (handleHapUndefinedInfo T C w results)
      ∀ e ∈ results, Xor (e ∈ after.1) (InState T (handleHapUndefinedInfo T C w results).1.service after.2 e)) ↔
      ∀ e ∈ results, MayPromote T C w e := by
  constructor
  · rintro ⟨hall, -⟩ e he
    exact AsInstalled.mayPromote he fun hprom => hall e (mem_recheckUndefinedPerms.2 ⟨he, hprom⟩)
  intro hmay
  have hinst : ∀ e ∈ results, isPromotable T C e = true → e.1 ∈ w.requestedPermData ∧
      AsInstalled T C w (handleHapUndefinedInfo T C w results).1.service e :=
    fun e he hprom => (hmay e he).asInstalled he hprom
  constructor
  · intro e hin
    obtain ⟨he, hprom⟩ := mem_recheckUndefinedPerms.1 hin
    exact (hinst e he hprom).2
  intro after e he
  have hstay := mem_rows_iff (T := T) (C := C) (w := w) he
  have hrow := mem_permissionState_iff hkeys hapart (fun e he hprom => (hinst e he hprom).1) he
  by_cases hprom : isPromotable T C e = true
  · refine .inr ⟨⟨hrow.2 hprom, ?_⟩, fun h => hstay.1 h hprom⟩
    obtain ⟨info, data, c, hinfo, hdef, -⟩ := isPromotable_iff.1 hprom
    obtain ⟨-, d, hd, -⟩ := (hinst e he hprom).2 info data c hinfo hdef
    exact ⟨c, (getPermissionBriefDef_eq_some hdef).1, by rw [hd]; rfl⟩
  · exact .inl ⟨hstay.2 hprom, fun h => hprom (hrow.1 h.1)⟩

/-- One system-granted permission above the level of an ordinary app, which a profile can bring or not. -/
def basicTable (provisionEnable : Bool) : PermissionTable where
  permList :=
    [⟨"ohos.permission.BASIC", .systemGrant, .aplSystemBasic, .normal, provisionEnable, false, false, true, false⟩]
  names_nodup := by cases provisionEnable <;> decide
  names_cStr := by cases provisionEnable <;> decide
  names_valid := by cases provisionEnable <;> decide
  codes_word := by cases provisionEnable <;> decide

def basicRow : AccessTokenID × UndefinedRow := (sampleHap, ⟨"ohos.permission.BASIC", "app_gallery", true, ""⟩)

def basicUpdate : DefUpdate where
  tokenIdAplMap := (∅ : Std.ExtTreeMap AccessTokenID TokenIdInfo).insert sampleHap ⟨.aplNormal, false⟩
  parseAppDistType := fun _ => .other
  isSideloadApp := fun _ => false
  isEnterpriseNormal := false

def basicInstalled (provisionEnable : Bool) : Service :=
  (createHapTokenInfo (basicTable provisionEnable) ∅ empty .ok sampleParams samplePolicy).2

/-- The service as it starts: the app is there, and its one permission is under a persisted policy of the user
`user`. -/
def basicStarting (user : String) : Service :=
  { basicInstalled true with
    policy := ⟨∅, (∅ : UserPolicyTable).insert "ohos.permission.BASIC" ⟨7, user, ""⟩⟩ }

theorem basic_promoted_as_installed :
    AsInstalled (basicTable true) basicUpdate (basicStarting "101")
      (handleHapUndefinedInfo (basicTable true) basicUpdate (basicStarting "101") [basicRow]).1.service basicRow ∧
    (handleHapUndefinedInfo (basicTable true) basicUpdate (basicStarting "101") [basicRow]).1.service.kernel
      sampleHap 0 = true := by
  have hmay : ∀ e ∈ [basicRow], MayPromote (basicTable true) basicUpdate (basicStarting "101") e := by
    intro e he info data c hinfo hdef _
    cases List.mem_singleton.1 he
    have hinfo : some info = some ⟨.aplNormal, false⟩ := hinfo.symm.trans (by decide +kernel)
    cases hinfo
    cases hdef
    refine ⟨by decide +kernel, by decide +kernel, fun hap hhap => ?_⟩
    have hhap : some hap = some (.ofParams sampleHap sampleParams) := hhap.symm.trans (by decide +kernel)
    cases hhap
    decide +kernel
  refine ⟨?_, by decide +kernel⟩
  exact ((promotion_as_installed_iff (basicTable true) basicUpdate (basicStarting "101") [basicRow] (by decide)
    (by decide +kernel)).2 hmay).1 basicRow (by decide +kernel)

/-- A permission no profile can bring is granted to an app an installation refuses it to; a permission under a user
policy is granted without the policy's flag, as the policy is not loaded yet; and the row of a token without permission
data is lost. -/
theorem promotion_beyond_installation :
    (recheckUndefinedPerms (basicTable false) basicUpdate [basicRow] = [basicRow] ∧
      (handleHapUndefinedInfo (basicTable false) basicUpdate (basicInstalled false) [basicRow]).1.service.kernel
        sampleHap 0 = true ∧
      Recorded (policyOf .aplNormal basicRow.2) basicRow.2 ∧
      ((basicTable false).getPermissionBriefDef "ohos.permission.BASIC").map (fun p =>
        aclAndEdmCheck false (bundleParamOf basicUpdate basicRow.1 ⟨.aplNormal, false⟩ basicRow.2)
          p.1 (policyOf .aplNormal basicRow.2)) = some (some ⟨"ohos.permission.BASIC", .permissionAclRule⟩)) ∧
    (isPermissionRestricted (policiesInForce (basicTable true) (basicStarting "100"))
        sampleHap 100 0 = true ∧
      (handleHapUndefinedInfo (basicTable true) basicUpdate (basicStarting "100") [basicRow]).1.service.entry
        sampleHap 0 = some ⟨permissionGranted, 0, 0, permissionSystemFixed⟩) ∧
    let after := deleteAndInsertValues [basicRow] Database.empty
      (handleHapUndefinedInfo (basicTable true) basicUpdate empty [basicRow])
    after.1 = [] ∧ "ohos.permission.BASIC" ∉ after.2.permissionState sampleHap := by
  refine ⟨⟨by decide +kernel, by decide +kernel, recorded_policyOf, by decide +kernel⟩,
    ⟨by decide +kernel, by decide +kernel⟩, by decide +kernel⟩

end AccessToken.Service
