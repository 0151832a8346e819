import AccessToken.PermissionDataBrief
/-!
# What each PermissionDataBrief operation does to an entry

`entry s t c` is the entry every `find_if` of the source stops at.  One lemma per operation says what it does to the
entries, the component grants and the set of tokens; nothing after this module unfolds an operation.
-/
namespace AccessToken

open BriefPermData PermissionTable

open Std.ExtTreeMap (getElem?_eq_none mem_iff_isSome_getElem? mem_modify)

namespace PermissionDataBrief

open Lib (hasAny modifyFirst)

/-- The entry the searches for code `c` of token `t` find. -/
def entry (s : PermissionDataBrief) (t : AccessTokenID) (c : Nat) : Option BriefPermData :=
  (s.requestedPermData[t]?).bind (List.find? (hasCode c))

def HasSecComp (s : PermissionDataBrief) (t : AccessTokenID) (c : Nat) : Prop := ⟨c, t⟩ ∈ s.secCompList
deriving Decidable

variable {T : PermissionTable} {s s' : PermissionDataBrief} {t t' : AccessTokenID} {l : List BriefPermData} {c : Nat}
    {d : BriefPermData}

theorem permCode_of_entry (h : s.entry t c = some d) : d.permCode = c := by
  obtain ⟨l, -, hl⟩ := Option.bind_eq_some_iff.1 h
  simpa [hasCode] using List.find?_some hl

theorem mem_of_entry (h : s.entry t c = some d) : ∃ l, s.requestedPermData[t]? = some l ∧ d ∈ l := by
  obtain ⟨l, hl, hd⟩ := Option.bind_eq_some_iff.1 h
  exact ⟨l, hl, List.mem_of_find?_eq_some hd⟩

theorem entry_of_mem (hl : s.requestedPermData[t]? = some l) (hnd : (l.map permCode).Nodup) (hd : d ∈ l) :
    s.entry t d.permCode = some d := by
  rw [entry, hl]
  exact Lib.find?_key_of_mem hnd hd

theorem entry_eq_none_of_not_mem (h : t ∉ s.requestedPermData) : s.entry t c = none := by
  rw [entry, getElem?_eq_none h]; rfl

/-! ## Effective status -/

theorem effectiveStatus_eq_granted {status : Int} {flag : Flag} : effectiveStatus status flag = permissionGranted ↔
      isRestricted flag = false ∧ (isPermGrantedBySecComp flag = true ∨ status = permissionGranted) := by
  unfold effectiveStatus
  cases isRestricted flag <;> cases isPermGrantedBySecComp flag <;> simp [permissionDenied, permissionGranted]

/-! ## Reading -/

theorem verifyPermissionStatus_of_entry (h : s.entry t c = some d) :
    s.verifyPermissionStatus t c = getEffectivePermissionStatus d := by
  obtain ⟨l, hl, hd⟩ := Option.bind_eq_some_iff.1 h
  simp only [verifyPermissionStatus, hl, hd]

theorem verifyPermissionStatus_of_no_entry (ht : t ∈ s.requestedPermData) (h : s.entry t c = none) :
    s.verifyPermissionStatus t c = permissionGranted ↔ s.HasSecComp t c := by
  obtain ⟨l, hl⟩ := Lib.mem_iff_exists.1 ht
  have hd : l.find? (hasCode c) = none := by simpa [entry, hl] using h
  simp only [verifyPermissionStatus, hl, hd, HasSecComp]
  by_cases hc : (⟨c, t⟩ : BriefSecCompData) ∈ s.secCompList <;> simp [hc, permissionDenied, permissionGranted]

theorem verifyPermissionStatus_of_not_mem (h : t ∉ s.requestedPermData) (c : Nat) :
    s.verifyPermissionStatus t c = permissionDenied := by
  rw [verifyPermissionStatus, getElem?_eq_none h]

/-- **What verification answers**, from the entry and the component grants. -/
theorem verifyPermissionStatus_eq_granted : s.verifyPermissionStatus t c = permissionGranted ↔ t ∈ s.requestedPermData ∧
        ((∃ d, s.entry t c = some d ∧ getEffectivePermissionStatus d = permissionGranted) ∨
          (s.entry t c = none ∧ s.HasSecComp t c)) := by
  by_cases ht : t ∈ s.requestedPermData
  · cases he : s.entry t c with
    | none => simp [verifyPermissionStatus_of_no_entry ht he, ht]
    | some => simp [verifyPermissionStatus_of_entry he, ht]
  · simp [verifyPermissionStatus_of_not_mem ht, ht, permissionDenied, permissionGranted]

/-- Verification of a code looks at the entry and the component grant of the code only. -/
theorem verifyPermissionStatus_granted_congr
    (hmem : t ∈ s'.requestedPermData ↔ t ∈ s.requestedPermData) (hentry : s'.entry t c = s.entry t c)
    (hsec : s'.HasSecComp t c ↔ s.HasSecComp t c) :
    s'.verifyPermissionStatus t c = permissionGranted ↔ s.verifyPermissionStatus t c = permissionGranted := by
  rw [verifyPermissionStatus_eq_granted, verifyPermissionStatus_eq_granted, hmem, hentry, hsec]

theorem verifyPermissionStatus_granted_congr_list (hlist : s'.requestedPermData[t]? = s.requestedPermData[t]?) (c : Nat)
    (hsec : s'.HasSecComp t c ↔ s.HasSecComp t c) :
    s'.verifyPermissionStatus t c = permissionGranted ↔ s.verifyPermissionStatus t c = permissionGranted := by
  refine verifyPermissionStatus_granted_congr ?_ ?_ hsec
  · rw [mem_iff_isSome_getElem?, mem_iff_isSome_getElem?, hlist]
  · rw [entry, entry, hlist]

/-! ## Building entries from states -/

theorem getPermissionBriefData_fst (t : AccessTokenID) (st : PermissionStatus) (acl : AclExtendedMap)
    (ext : ExtendedValueMap) : (getPermissionBriefData T t st acl ext).1 = briefPermDataOf T st := by
  unfold getPermissionBriefData
  split
  · rename_i h; exact h.symm
  · rename_i d h
    split <;> exact h.symm

theorem getPermissionBriefDataLoop_fst (t : AccessTokenID) (acl : AclExtendedMap) :
    ∀ (states : List PermissionStatus) (ext : ExtendedValueMap),
      (getPermissionBriefDataLoop T t acl states ext).1 = states.filterMap (briefPermDataOf T)
  | [], _ => rfl
  | st :: states, ext => by
    simp only [getPermissionBriefDataLoop, getPermissionBriefData_fst, getPermissionBriefDataLoop_fst t acl states]
    cases h : briefPermDataOf T st <;> simp [h]

theorem getPermissionBriefDataList_fst (t : AccessTokenID) (states : List PermissionStatus) (acl : AclExtendedMap)
    (ext : ExtendedValueMap) :
    (getPermissionBriefDataList T t states acl ext).1 = states.filterMap (briefPermDataOf T) :=
  getPermissionBriefDataLoop_fst t acl states _

/-- **The entry of a state** carries its status and flag under the code of its name. -/
theorem briefPermDataOf_eq_some {st : PermissionStatus} (h : briefPermDataOf T st = some d) :
    d.status = st.grantStatus ∧ d.flag = st.grantFlag ∧
      T.transferPermissionToOpcode st.permissionName = some d.permCode ∧ isGrantStatusValid st.grantStatus = true := by
  unfold briefPermDataOf at h
  split at h
  · rename_i hv
    obtain ⟨⟨briefDef, code⟩, hdef, rfl⟩ := Option.map_eq_some_iff.1 h
    exact ⟨rfl, rfl, (getPermissionBriefDef_eq_some hdef).1, hv⟩
  · cases h

/-! ## Lists installed as a whole -/

@[simp] theorem addBriefPermDataByTokenId_requested (t : AccessTokenID) (l : List BriefPermData) :
    (s.addBriefPermDataByTokenId t l).requestedPermData = s.requestedPermData.insert t l := rfl

/-- The list `AddPermToBriefPermission` installs. -/
def addedList (T : PermissionTable) (t : AccessTokenID) (states : List PermissionStatus) (defCheck : Bool) :
    List BriefPermData :=
  (keptPermStates T t states defCheck).filterMap (briefPermDataOf T)

/-- The freshly initialised list of `Update`, before the merge. -/
def freshList (T : PermissionTable) (states : List PermissionStatus) : List BriefPermData :=
  (filterInvalidPermissionState T .tokenHap true states).filterMap (briefPermDataOf T)

theorem addPermToBriefPermission_eq (t : AccessTokenID) (states : List PermissionStatus) (acl : AclExtendedMap)
    (defCheck : Bool) :
    (addPermToBriefPermission T s t states acl defCheck).requestedPermData =
        s.requestedPermData.insert t (addedList T t states defCheck) ∧
      (addPermToBriefPermission T s t states acl defCheck).secCompList = s.secCompList := by
  refine ⟨?_, rfl⟩
  simp only [addPermToBriefPermission, addBriefPermDataByTokenId_requested, getPermissionBriefDataList_fst, addedList]

theorem update_eq (t : AccessTokenID) (states : List PermissionStatus) (acl : AclExtendedMap) (need : Bool) :
    (update T s t states acl need).requestedPermData =
        s.requestedPermData.insert t ((freshList T states).map (mergeOnUpdate (s.requestedPermData.getD t []) need)) ∧
      (update T s t states acl need).secCompList = s.secCompList := by
  refine ⟨?_, rfl⟩
  simp only [update, addBriefPermDataByTokenId_requested, getPermissionBriefDataList_fst, freshList]

theorem replaceBriefPermDataByTokenId_eq (t : AccessTokenID) (data : List BriefPermData)
    (acl : List PermissionWithValue) :
    (replaceBriefPermDataByTokenId T s t data acl).requestedPermData = s.requestedPermData.insert t data ∧
      (replaceBriefPermDataByTokenId T s t data acl).secCompList = s.secCompList := by
  unfold replaceBriefPermDataByTokenId replaceExtendedValueByTokenIdLocked
  split <;> exact ⟨rfl, rfl⟩

@[simp] theorem mergeOnUpdate_permCode (old : List BriefPermData) (need : Bool) (d : BriefPermData) :
    (mergeOnUpdate old need d).permCode = d.permCode := by
  unfold mergeOnUpdate updatePermStatus
  split
  · rfl
  · split
    · rfl
    · split <;> rfl

theorem isRestricted_updateWithNewFlag (old curr : Flag) :
    isRestricted (updateWithNewFlag old curr) = (isRestricted curr || isRestricted old) := by
  simp only [updateWithNewFlag, isRestricted, Lib.hasAny_or, Lib.hasAny_and]
  rfl

theorem isPermGrantedBySecComp_updateWithNewFlag (old curr : Flag) :
    isPermGrantedBySecComp (updateWithNewFlag old curr) = isPermGrantedBySecComp curr := by
  have hmask : hasAny (old &&& (permissionPreAuthorizedCancelable ||| permissionRestrictedByAdmin))
      permissionComponentSet = false := by
    rw [Lib.hasAny_and]; exact Lib.hasAny_zero old
  simp only [updateWithNewFlag, isPermGrantedBySecComp, Lib.hasAny_or, hmask, Bool.or_false]

/-! ## Writes to one entry -/

@[simp] theorem modifyEntry_secCompList (t : AccessTokenID) (c : Nat) (f : BriefPermData → BriefPermData) :
    (s.modifyEntry t c f).secCompList = s.secCompList := rfl

variable {f : BriefPermData → BriefPermData} {c' : Nat} {isAdded : Bool} (g : Bool) (fl : Flag) {name : String}
    {data : BriefPermData}

@[simp] theorem mem_modifyEntry : t' ∈ (s.modifyEntry t c f).requestedPermData ↔ t' ∈ s.requestedPermData := by
  simp [modifyEntry, mem_modify]

theorem requested_modifyEntry (t t' : AccessTokenID) (c : Nat) (f : BriefPermData → BriefPermData) :
    (s.modifyEntry t c f).requestedPermData[t']? =
      if t = t' then (s.requestedPermData[t]?).map (modifyFirst (hasCode c) f) else s.requestedPermData[t']? := by
  simp [modifyEntry, Std.ExtTreeMap.getElem?_modify]

/-- **A write to one entry changes that entry only.** -/
theorem entry_modifyEntry (hf : ∀ d, (f d).permCode = d.permCode) :
    (s.modifyEntry t c f).entry t' c' = if t = t' ∧ c = c' then (s.entry t' c').map f else s.entry t' c' := by
  unfold entry
  rw [requested_modifyEntry]
  by_cases ht : t = t'
  · subst ht
    rw [if_pos rfl, Option.bind_map]
    by_cases hc : c = c'
    · subst hc
      rw [if_pos ⟨rfl, rfl⟩, Option.map_bind]
      congr 1; funext l
      exact Lib.find?_modifyFirst (fun a ha => by simpa [hasCode, hf] using ha) l
    · rw [if_neg (fun h => hc h.2)]
      congr 1; funext l
      refine Lib.find?_modifyFirst_of_ne (fun a ha => ?_) l
      have ha : a.permCode = c := by simpa [hasCode] using ha
      simp [hasCode, hf, ha, hc]
  · rw [if_neg ht, if_neg (fun h => ht h.1)]

@[simp] theorem updatedPermState_permCode (d : BriefPermData) :
    (updatedPermState g fl d).permCode = d.permCode := rfl

@[simp] theorem withComponentFlag_permCode (d : BriefPermData) :
    (withComponentFlag isAdded d).permCode = d.permCode := rfl

/-- The guards of `UpdatePermStateList` on the entry it would write. -/
def acceptsFlag (flag : Flag) (d : BriefPermData) : Prop :=
  (d.flag &&& permissionSystemFixed) ≠ permissionSystemFixed ∧ isRestrictedPermission d.flag flag = false ∧
    ((flag &&& permissionAdminPoliciesCancel) = permissionAdminPoliciesCancel →
      (d.flag &&& permissionFixedByAdminPolicy) ≠ 0)
deriving Decidable

theorem updatePermStateList_cases (t : AccessTokenID) (c : Nat) (g : Bool) (fl : Flag) :
    (∃ e, s.updatePermStateList t c g fl = (.error e, s)) ∨ ∃ d, s.entry t c = some d ∧ acceptsFlag fl d ∧
        s.updatePermStateList t c g fl = (.ok (), s.modifyEntry t c (updatedPermState g fl)) := by
  unfold updatePermStateList entry
  cases hl : s.requestedPermData[t]? with
  | none => exact .inl ⟨_, rfl⟩
  | some l =>
    cases hd : l.find? (hasCode c) with
    | none => simp only [hd]; exact .inl ⟨_, rfl⟩
    | some d =>
      simp only [hd, Option.bind_some]
      by_cases h1 : ((d.flag &&& permissionSystemFixed) == permissionSystemFixed) = true
      · exact .inl ⟨_, if_pos h1⟩
      rw [if_neg h1]
      by_cases h2 : isRestrictedPermission d.flag fl = true
      · exact .inl ⟨_, if_pos h2⟩
      rw [if_neg h2]
      by_cases h3 : ((fl &&& permissionAdminPoliciesCancel) == permissionAdminPoliciesCancel &&
          (d.flag &&& permissionFixedByAdminPolicy) == 0) = true
      · exact .inl ⟨_, if_pos h3⟩
      rw [if_neg h3]
      refine .inr ⟨d, rfl, ⟨by simpa using h1, by simpa using h2, fun ha hb => h3 ?_⟩, rfl⟩
      simp [ha, hb]

theorem updatePermStateList_of_accepts {g : Bool} {fl : Flag} (hd : s.entry t c = some d) (hacc : acceptsFlag fl d) :
    s.updatePermStateList t c g fl = (.ok (), s.modifyEntry t c (updatedPermState g fl)) := by
  obtain ⟨hfixed, hrestricted, hcancel⟩ := hacc
  obtain ⟨l, hl, hfind⟩ := Option.bind_eq_some_iff.1 hd
  have h3 : ¬ ((fl &&& permissionAdminPoliciesCancel) == permissionAdminPoliciesCancel &&
      (d.flag &&& permissionFixedByAdminPolicy) == 0) = true := by
    rw [Bool.and_eq_true, beq_iff_eq, beq_iff_eq]
    exact fun h => hcancel h.1 h.2
  simp only [updatePermStateList, hl, hfind]
  rw [if_neg (by simpa using hfixed), if_neg (by simp [hrestricted]), if_neg h3]

def setSecComp (s : PermissionDataBrief) (t : AccessTokenID) (c : Nat) (isAdded : Bool) : PermissionDataBrief :=
  { s with
    secCompList :=
      if isAdded then if s.secCompList.contains ⟨c, t⟩ then s.secCompList
        else s.secCompList ++ [(⟨c, t⟩ : BriefSecCompData)]
      else s.secCompList.erase ⟨c, t⟩ }.modifyEntry t c (withComponentFlag isAdded)

theorem entry_setSecComp : (s.setSecComp t c isAdded).entry t' c' =
      if t = t' ∧ c = c' then (s.entry t' c').map (withComponentFlag isAdded) else s.entry t' c' :=
  entry_modifyEntry withComponentFlag_permCode

@[simp] theorem mem_setSecComp :
    t' ∈ (s.setSecComp t c isAdded).requestedPermData ↔ t' ∈ s.requestedPermData := mem_modifyEntry

theorem hasSecComp_setSecComp_true :
    (s.setSecComp t c true).HasSecComp t' c' ↔ (t = t' ∧ c = c') ∨ s.HasSecComp t' c' := by
  simp only [HasSecComp, setSecComp, modifyEntry_secCompList, if_true]
  split
  · rename_i h
    have h : (⟨c, t⟩ : BriefSecCompData) ∈ s.secCompList := by simpa using h
    constructor
    · exact .inr
    · rintro (⟨rfl, rfl⟩ | h')
      · exact h
      · exact h'
  · simp only [List.mem_append, List.mem_singleton, BriefSecCompData.mk.injEq]
    constructor
    · rintro (h' | ⟨rfl, rfl⟩)
      · exact .inr h'
      · exact .inl ⟨rfl, rfl⟩
    · rintro (⟨rfl, rfl⟩ | h')
      · exact .inr ⟨rfl, rfl⟩
      · exact .inl h'

theorem hasSecComp_setSecComp_false (hnd : s.secCompList.Nodup) :
    (s.setSecComp t c false).HasSecComp t' c' ↔ ¬(t = t' ∧ c = c') ∧ s.HasSecComp t' c' := by
  simp only [HasSecComp, setSecComp, modifyEntry_secCompList, Bool.false_eq_true, if_false, hnd.mem_erase_iff, ne_eq,
    BriefSecCompData.mk.injEq]
  constructor
  · rintro ⟨hne, h⟩
    exact ⟨fun ⟨h1, h2⟩ => hne ⟨h2.symm, h1.symm⟩, h⟩
  · rintro ⟨hne, h⟩
    exact ⟨fun ⟨h1, h2⟩ => hne ⟨h2.symm, h1.symm⟩, h⟩

theorem secCompList_setSecComp_nodup (hnd : s.secCompList.Nodup) : (s.setSecComp t c isAdded).secCompList.Nodup := by
  simp only [setSecComp, modifyEntry_secCompList]
  cases isAdded with
  | false => simpa using hnd.erase _
  | true =>
    simp only [if_true]
    split
    · exact hnd
    rename_i h
    rw [List.nodup_append]
    refine ⟨hnd, by simp, fun a ha b hb => ?_⟩
    rintro rfl
    exact h (by simpa [← List.mem_singleton.1 hb] using ha)

theorem secCompGrantedPermListUpdated_of_code (hc : c < T.permList.length) :
    secCompGrantedPermListUpdated T s t (T.transferOpcodeToPermission c) isAdded =
      if t ∈ s.requestedPermData then s.setSecComp t c isAdded else s := by
  simp only [secCompGrantedPermListUpdated, transferPermissionToOpcode_transferOpcode hc, setSecComp]

theorem queriedStatusAndFlag_of_entry (h : s.entry t c = some d) :
    s.queriedStatusAndFlag t c = (getEffectivePermissionStatus d, d.flag) := by
  obtain ⟨l, hl, hd⟩ := Option.bind_eq_some_iff.1 h
  simp only [queriedStatusAndFlag, queryPermissionStatusAndFlagInner, hl, hd]

/-- **What a component update can do**: nothing, or record the grant or revoke of a permission not fixed by the
administrator; a grant only of one neither the user nor the system has operated. -/
theorem updateSecCompGrantedPermList_cases (hc : c < T.permList.length) (g : Bool) :
    (updateSecCompGrantedPermList T s t c g).2 = s ∨
      (t ∈ s.requestedPermData ∧ hasAny (s.queriedStatusAndFlag t c).2 permissionFixedByAdminPolicy = false ∧
        (g = true → (isPermOperatedByUser (s.queriedStatusAndFlag t c).2 ||
          isPermOperatedBySystem (s.queriedStatusAndFlag t c).2) = false) ∧
        updateSecCompGrantedPermList T s t c g = (.ok (), s.setSecComp t c g)) := by
  unfold updateSecCompGrantedPermList
  obtain ⟨status, flag⟩ := s.queriedStatusAndFlag t c
  simp only [secCompGrantedPermListUpdated_of_code hc]
  by_cases hfix : hasAny flag permissionFixedByAdminPolicy = true
  · exact .inl (by rw [if_pos hfix])
  rw [if_neg hfix]
  by_cases hop : (isPermOperatedByUser flag || isPermOperatedBySystem flag) = true
  · rw [if_pos hop]
    cases g with
    | true => left; simp only [if_true]; split <;> rfl
    | false =>
      by_cases ht : t ∈ s.requestedPermData
      · exact .inr ⟨ht, by simpa using hfix, by simp, by simp [ht]⟩
      · exact .inl (by simp [ht])
  · rw [if_neg hop]
    by_cases ht : t ∈ s.requestedPermData
    · exact .inr ⟨ht, by simpa using hfix, fun _ => by simpa using hop, by simp [ht]⟩
    · exact .inl (by simp [ht])

/-- **What `UpdatePermissionStatus` can do** to the data: nothing, write one entry under a flag without the component
bit, or record a component grant or revoke. -/
theorem updatePermissionStatus_cases (t : AccessTokenID) (name : String) (g : Bool) (fl : Flag) :
    (updatePermissionStatus T s t name g fl).2.2 = s ∨ ∃ c, T.transferPermissionToOpcode name = some c ∧
        ((isPermGrantedBySecComp fl = false ∧ ∃ d, s.entry t c = some d ∧ acceptsFlag fl d ∧
            (updatePermissionStatus T s t name g fl).1 = .ok () ∧
            (updatePermissionStatus T s t name g fl).2.2 = s.modifyEntry t c (updatedPermState g fl)) ∨
          (isPermGrantedBySecComp fl = true ∧ t ∈ s.requestedPermData ∧
            hasAny (s.queriedStatusAndFlag t c).2 permissionFixedByAdminPolicy = false ∧
            (g = true → (isPermOperatedByUser (s.queriedStatusAndFlag t c).2 ||
              isPermOperatedBySystem (s.queriedStatusAndFlag t c).2) = false) ∧
            (updatePermissionStatus T s t name g fl).1 = .ok () ∧
            (updatePermissionStatus T s t name g fl).2.2 = s.setSecComp t c g)) := by
  unfold updatePermissionStatus
  cases hc : T.transferPermissionToOpcode name with
  | none => exact .inl rfl
  | some c =>
    cases hcomp : isPermGrantedBySecComp fl with
    | false =>
      simp only [Bool.not_false, if_true]
      rcases updatePermStateList_cases t c g fl with ⟨e, he⟩ | ⟨d, hd, hacc, hok⟩
      · rw [he]; exact .inl rfl
      · rw [hok]
        exact .inr ⟨c, rfl, .inl ⟨trivial, d, hd, hacc, rfl, rfl⟩⟩
    | true =>
      simp only [Bool.not_true, Bool.false_eq_true, if_false]
      rcases updateSecCompGrantedPermList_cases (code_lt_of_transfer hc) g with
        hsame | ⟨ht, hfix, hop, hok⟩
      · rw [hsame]; exact .inl rfl
      · rw [hok]
        exact .inr ⟨c, rfl, .inr ⟨trivial, ht, hfix, hop, rfl, rfl⟩⟩

/-- What `UpdatePermissionStatus` makes of the entry of its permission. -/
def grantedEntry (g : Bool) (fl : Flag) (d : BriefPermData) : BriefPermData :=
  if isPermGrantedBySecComp fl then
    if hasAny d.flag permissionFixedByAdminPolicy then d
    else if isPermOperatedByUser d.flag || isPermOperatedBySystem d.flag then
      if g then d else withComponentFlag false d
    else withComponentFlag g d
  else if acceptsFlag fl d then updatedPermState g fl d
  else d

@[simp] theorem grantedEntry_permCode (d : BriefPermData) : (grantedEntry g fl d).permCode = d.permCode := by
  unfold grantedEntry
  split_ifs <;> rfl

/-- **The entry of an updated permission.** -/
theorem entry_updatePermissionStatus (hc : T.transferPermissionToOpcode name = some c) (hd : s.entry t c = some d) :
    (updatePermissionStatus T s t name g fl).2.2.entry t c = some (grantedEntry g fl d) := by
  have hmem : t ∈ s.requestedPermData := by
    obtain ⟨l, hl, -⟩ := Option.bind_eq_some_iff.1 hd
    rw [mem_iff_isSome_getElem?, hl]
    rfl
  have hset : ∀ b, (s.setSecComp t c b).entry t c = some (withComponentFlag b d) := by
    intro b
    rw [entry_setSecComp, if_pos ⟨rfl, rfl⟩, hd]
    rfl
  unfold updatePermissionStatus grantedEntry
  rw [hc]
  cases hcomp : isPermGrantedBySecComp fl with
  | false =>
    simp only [Bool.not_false, if_true, Bool.false_eq_true, if_false]
    by_cases hacc : acceptsFlag fl d
    · rw [updatePermStateList_of_accepts hd hacc, if_pos hacc, entry_modifyEntry (updatedPermState_permCode g fl),
        if_pos ⟨rfl, rfl⟩, hd]
      rfl
    · rw [if_neg hacc]
      rcases updatePermStateList_cases t c g fl with ⟨e, he⟩ | ⟨d', hd', hacc', -⟩
      · rw [he]
        exact hd
      · exact absurd (Option.mem_unique hd' hd ▸ hacc') hacc
  | true =>
    simp only [Bool.not_true, Bool.false_eq_true, if_false, if_true, updateSecCompGrantedPermList,
      queriedStatusAndFlag_of_entry hd, secCompGrantedPermListUpdated_of_code (code_lt_of_transfer hc),
      if_pos hmem]
    split
    · exact hd
    split
    · cases g with
      | true =>
        simp only [if_true]
        split <;> exact hd
      | false => exact hset false
    · exact hset g

theorem updatePermissionFlag_cases (t : AccessTokenID) (c : Nat) (mask : Flag) (add : Bool) :
    (s.entry t c = none ∧ (∃ e, s.updatePermissionFlag t c mask add = (.error e, s))) ∨ ∃ d, s.entry t c = some d ∧
        s.updatePermissionFlag t c mask add =
          (.ok (if d.flag = maskedFlag mask add d.flag then .noChange else .flagOnly),
            s.modifyEntry t c fun d => { d with flag := maskedFlag mask add d.flag }) := by
  unfold updatePermissionFlag entry
  cases hl : s.requestedPermData[t]? with
  | none => exact .inl ⟨rfl, _, rfl⟩
  | some l =>
    cases hd : l.find? (hasCode c) with
    | none => simp only [hd]; exact .inl ⟨hd, _, rfl⟩
    | some d => simp only [hd]; exact .inr ⟨d, hd, rfl⟩

/-! ## Resetting, deleting, adding -/

@[simp] theorem resetPermState_permCode (d : BriefPermData) : (resetPermState d).permCode = d.permCode := by
  unfold resetPermState
  simp only
  split_ifs <;> rfl

theorem resetUserGrantPermissionStatus_cases (t : AccessTokenID) :
    (t ∉ s.requestedPermData ∧ s.resetUserGrantPermissionStatus t = (.error .errTokenidNotExist, s)) ∨
      (t ∈ s.requestedPermData ∧ s.resetUserGrantPermissionStatus t = (.ok (), { s with
          requestedPermData := s.requestedPermData.modify t (List.map resetPermState)
          secCompList := s.secCompList.filter fun c => !(c.tokenId == t) })) := by
  unfold resetUserGrantPermissionStatus
  by_cases ht : t ∈ s.requestedPermData
  · exact .inr ⟨ht, by rw [if_pos ht]; rfl⟩
  · exact .inl ⟨ht, if_neg ht⟩

theorem deleteBriefPermDataByTokenId_cases (t : AccessTokenID) :
    (t ∉ s.requestedPermData ∧ s.deleteBriefPermDataByTokenId t = (.error .errTokenInvalid, s)) ∨
      (t ∈ s.requestedPermData ∧ s.deleteBriefPermDataByTokenId t = (.ok (),
          { requestedPermData := s.requestedPermData.erase t
            secCompList := s.secCompList.filter fun c => c.tokenId != t
            extendedValue := deleteExtendedValue t s.extendedValue })) := by
  by_cases ht : t ∈ s.requestedPermData
  · exact .inr ⟨ht, if_pos ht⟩
  · exact .inl ⟨ht, if_neg ht⟩

theorem delete_of_not_mem (h : t ∉ s.requestedPermData) : (s.deleteBriefPermDataByTokenId t).2 = s := by
  rcases deleteBriefPermDataByTokenId_cases t with ⟨-, heq⟩ | ⟨hmem, -⟩
  · rw [heq]
  · exact absurd hmem h

theorem mem_mergePermBriefData {x : BriefPermData} (h : x ∈ mergePermBriefData l data) :
    x ∈ l ∨ (x.permCode = data.permCode ∧ x.status = data.status ∧ x.flag = getFlagWroteToDb data.flag) := by
  unfold mergePermBriefData at h
  simp only at h
  split at h
  · rcases Lib.mem_modifyFirst h with h | ⟨a, ha, rfl⟩
    · exact .inl h
    · exact .inr ⟨by simpa [hasCode] using List.find?_some ha, rfl, rfl⟩
  · rcases List.mem_append.1 h with h | h
    · exact .inl h
    · rw [List.mem_singleton.1 h]
      exact .inr ⟨rfl, rfl, rfl⟩

theorem mergePermBriefData_codes_nodup (hnd : (l.map permCode).Nodup) :
    ((mergePermBriefData l data).map permCode).Nodup := by
  unfold mergePermBriefData
  simp only
  split
  · rw [Lib.map_modifyFirst]
    · exact hnd
    · intro a _; rfl
  rename_i hnone
  rw [List.map_append, List.nodup_append]
  refine ⟨hnd, by simp, fun a ha b hb => ?_⟩
  obtain ⟨x, hx, rfl⟩ := List.mem_map.1 ha
  have hb : b = data.permCode := by simpa using hb
  have := List.find?_eq_none.1 hnone x hx
  simpa [hasCode, hb] using this

theorem addBriefPermData_cases (t : AccessTokenID) (name : String) (st : Int) (fl : Flag) (v : String) :
    (∃ e ext, addBriefPermData T s t name st fl v = (.error e, { s with extendedValue := ext })) ∨
      ∃ d l ext, briefPermDataOf T ⟨name, st, fl⟩ = some d ∧ s.requestedPermData[t]? = some l ∧
        addBriefPermData T s t name st fl v = (.ok (), { s with
            requestedPermData := s.requestedPermData.insert t (mergePermBriefData l d)
            extendedValue := ext }) := by
  unfold addBriefPermData
  have hfst := getPermissionBriefData_fst (T := T) t ⟨name, st, fl⟩ (({} : AclExtendedMap).insert name v)
    s.extendedValue
  simp only
  split
  · exact .inl ⟨_, s.extendedValue, rfl⟩
  rename_i d ext hd
  rw [hd] at hfst
  cases hl : s.requestedPermData[t]? with
  | none => exact .inl ⟨_, deleteExtendedValue t ext, rfl⟩
  | some l => exact .inr ⟨d, l, ext, hfst.symm, rfl, rfl⟩

/-- `AddBriefPermData` of a permission with a definition, for a token with permission data. -/
theorem addBriefPermData_of_mem {st : Int} {fl : Flag}
    (hd : briefPermDataOf T ⟨name, st, fl⟩ = some d) (hl : s.requestedPermData[t]? = some l) (v : String) :
    ∃ ext, addBriefPermData T s t name st fl v = (.ok (), { s with
        requestedPermData := s.requestedPermData.insert t (mergePermBriefData l d)
        extendedValue := ext }) := by
  have hfst := getPermissionBriefData_fst (T := T) t ⟨name, st, fl⟩ (({} : AclExtendedMap).insert name v)
    s.extendedValue
  rw [hd] at hfst
  unfold addBriefPermData
  simp only
  split
  · rename_i hnone
    rw [hnone] at hfst
    cases hfst
  rename_i d' ext hd'
  rw [hd'] at hfst
  cases hfst
  refine ⟨ext, ?_⟩
  rw [hl]
  rfl

/-- A merged list has the new status and flag under the code merged in, and what it had under every other. -/
theorem find?_mergePermBriefData (l : List BriefPermData) (data : BriefPermData) (c : Nat) : (c = data.permCode →
      ∃ d, (mergePermBriefData l data).find? (hasCode c) = some d ∧ d.status = data.status ∧
        d.flag = getFlagWroteToDb data.flag) ∧
      (c ≠ data.permCode → (mergePermBriefData l data).find? (hasCode c) = l.find? (hasCode c)) := by
  unfold mergePermBriefData
  simp only
  split
  · rename_i d₀ hfind
    constructor
    · intro hc
      subst hc
      refine ⟨{ d₀ with status := data.status, flag := getFlagWroteToDb data.flag }, ?_, rfl, rfl⟩
      rw [Lib.find?_modifyFirst]
      · rw [hfind]
        rfl
      · intro a ha
        exact ha
    · intro hc
      refine Lib.find?_modifyFirst_of_ne (fun a ha => ?_) l
      have ha : a.permCode = data.permCode := by simpa [hasCode] using ha
      simp [hasCode, ha, Ne.symm hc]
  · rename_i hnone
    rw [List.find?_append]
    constructor
    · intro hc
      subst hc
      rw [hnone]
      exact ⟨{ data with flag := getFlagWroteToDb data.flag }, by simp [hasCode], rfl, rfl⟩
    · intro hc
      simp [hasCode, Ne.symm hc]

/-! ## A predicate on every entry -/

def AllEntries (P : BriefPermData → Prop) (s : PermissionDataBrief) : Prop :=
  ∀ (t : AccessTokenID) l, s.requestedPermData[t]? = some l → ∀ d ∈ l, P d

variable {P : BriefPermData → Prop} {s' : PermissionDataBrief} {x : AccessTokenID}

theorem AllEntries.of_requested (h : AllEntries P s) (hreq : s'.requestedPermData = s.requestedPermData) :
    AllEntries P s' := by
  intro t l hl
  rw [hreq] at hl
  exact h t l hl

theorem AllEntries.modifyEntry (h : AllEntries P s) (hf : ∀ d, P d → P (f d)) : AllEntries P (s.modifyEntry t c f) := by
  intro x l hl d hd
  rw [requested_modifyEntry] at hl
  split at hl
  · obtain ⟨l₀, hl₀, rfl⟩ := Option.map_eq_some_iff.1 hl
    rcases Lib.mem_modifyFirst hd with hd | ⟨d₀, hd₀, rfl⟩
    · exact h t l₀ hl₀ d hd
    · exact hf d₀ (h t l₀ hl₀ d₀ (List.mem_of_find?_eq_some hd₀))
  · exact h x l hl d hd

theorem AllEntries.insert (h : AllEntries P s)
    (hreq : s'.requestedPermData = s.requestedPermData.insert t l) (hl : ∀ d ∈ l, P d) : AllEntries P s' := by
  intro x l' hl'
  rw [hreq] at hl'
  rcases Lib.getElem?_insert_eq_some.1 hl' with ⟨-, rfl⟩ | ⟨-, hl'⟩
  · exact hl
  · exact h x l' hl'

theorem requested_of_delete
    (hl : (s.deleteBriefPermDataByTokenId t).2.requestedPermData[x]? = some l) : s.requestedPermData[x]? = some l := by
  rcases deleteBriefPermDataByTokenId_cases t with ⟨-, heq⟩ | ⟨-, heq⟩
  · rwa [heq] at hl
  rw [heq] at hl
  exact (Lib.getElem?_erase_eq_some.1 hl).2

theorem AllEntries.delete (h : AllEntries P s) :
    AllEntries P (s.deleteBriefPermDataByTokenId t).2 := fun x l hl => h x l (requested_of_delete hl)

theorem AllEntries.updatePermissionStatus (h : AllEntries P s) {n : String} {g : Bool} {fl : Flag}
    (hupdated : isPermGrantedBySecComp fl = false → ∀ d, P d → P (updatedPermState g fl d))
    (hcomp : ∀ d, P d → P (withComponentFlag g d)) : AllEntries P (updatePermissionStatus T s t n g fl).2.2 := by
  rcases updatePermissionStatus_cases t n g fl with
    hsame | ⟨c, -, ⟨hfl, d, -, -, -, hs'⟩ | ⟨-, -, -, -, -, hs'⟩⟩
  · rw [hsame]
    exact h
  · rw [hs']
    exact h.modifyEntry (hupdated hfl)
  · rw [hs']
    have hlists : AllEntries P { s with secCompList := _ } := h.of_requested rfl
    exact hlists.modifyEntry hcomp

theorem mem_delete (h : x ∈ (s.deleteBriefPermDataByTokenId t).2.requestedPermData) :
    x ≠ t ∧ x ∈ s.requestedPermData := by
  rcases deleteBriefPermDataByTokenId_cases t with ⟨hno, heq⟩ | ⟨-, heq⟩
  · rw [heq] at h
    exact ⟨fun hx => hno (hx ▸ h), h⟩
  · rw [heq] at h
    exact Lib.mem_erase.1 h

end PermissionDataBrief
end AccessToken
