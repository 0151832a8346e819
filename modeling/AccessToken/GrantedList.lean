import AccessToken.PermissionDataLemmas
import AccessToken.Lib.Run
/-!
# The granted list and verification

`GetGrantedPermCodeList` is what install and update push to the kernel, `VerifyPermissionStatus` is what a check
answers. The first adds every component grant of the token to the effectively granted entries; the second asks the
component grants only for a permission the token does not request.  They agree as long as a component grant stands only
beside an entry that is effectively granted (`Coherent`), which a step must not break (`KeepsCoherent`).
-/
namespace AccessToken.PermissionDataBrief

open Std.ExtTreeMap BriefPermData

open Lib (hasAny modifyFirst Reaches Always)

inductive Op where
  | addPermToBriefPermission (tokenId : AccessTokenID) (permStateList : List PermissionStatus)
      (aclExtendedMap : AclExtendedMap) (defCheck : Bool)
  | update (tokenId : AccessTokenID) (permStateList : List PermissionStatus) (aclExtendedMap : AclExtendedMap)
      (needUpdatePermByProvision : Bool)
  | updatePermissionStatus (tokenId : AccessTokenID) (permissionName : String) (isGranted : Bool) (flag : Flag)
  | updatePermissionFlag (tokenId : AccessTokenID) (permCode : Nat) (flagMask : Flag) (addFlag : Bool)
  | resetUserGrantPermissionStatus (tokenID : AccessTokenID)
  | clearAllSecCompGrantedPerm
  | deleteBriefPermDataByTokenId (tokenID : AccessTokenID)
  | replaceBriefPermDataByTokenId (tokenID : AccessTokenID) (data : List BriefPermData)
      (aclExtendedList : List PermissionWithValue)
  | addBriefPermData (tokenID : AccessTokenID) (permissionName : String) (grantStatus : Int) (grantFlag : Flag)
      (value : String)

def step (T : PermissionTable) (s : PermissionDataBrief) : Op → PermissionDataBrief
  | .addPermToBriefPermission t states acl defCheck => addPermToBriefPermission T s t states acl defCheck
  | .update t states acl need => update T s t states acl need
  | .updatePermissionStatus t name g fl => (updatePermissionStatus T s t name g fl).2.2
  | .updatePermissionFlag t c mask add => (s.updatePermissionFlag t c mask add).2
  | .resetUserGrantPermissionStatus t => (s.resetUserGrantPermissionStatus t).2
  | .clearAllSecCompGrantedPerm => s.clearAllSecCompGrantedPerm.2
  | .deleteBriefPermDataByTokenId t => (s.deleteBriefPermDataByTokenId t).2
  | .replaceBriefPermDataByTokenId t data acl => replaceBriefPermDataByTokenId T s t data acl
  | .addBriefPermData t name st fl v => (addBriefPermData T s t name st fl v).2

/-- **The two readings of a token agree on every code.** -/
def GrantedListAgrees (s : PermissionDataBrief) (t : AccessTokenID) : Prop :=
  ∀ p, p ∈ s.getGrantedPermCodeList t ↔ s.verifyPermissionStatus t p = permissionGranted

/-! ## The invariant -/

/-- A list of a token beside the recorded component grants: no code twice, and a code that has a component grant is
effectively granted. -/
def Installable (s : PermissionDataBrief) (t : AccessTokenID) (l : List BriefPermData) : Prop :=
  (l.map permCode).Nodup ∧
    ∀ d ∈ l, s.HasSecComp t d.permCode → getEffectivePermissionStatus d = permissionGranted
deriving Decidable

variable {t : AccessTokenID} {l : List BriefPermData} {s : PermissionDataBrief}

theorem Installable.of_secCompList {s' : PermissionDataBrief} (h : s.Installable t l)
    (hsec : s'.secCompList = s.secCompList) : s'.Installable t l := by
  unfold Installable HasSecComp
  rw [hsec]
  exact h

structure Coherent (s : PermissionDataBrief) : Prop where
  secCompNodup : s.secCompList.Nodup
  lists : ∀ t l, getTokenIdTypeEnum t = .tokenHap → s.requestedPermData[t]? = some l → s.Installable t l

theorem coherent_empty : Coherent empty where
  secCompNodup := by simp [empty]
  lists := by intro t l _ h; simp [empty] at h

/-- **A HAP token with an installable list reads the same both ways.** -/
theorem Installable.grantedListAgrees (h : s.Installable t l)
    (hap : getTokenIdTypeEnum t = .tokenHap) (hl : s.requestedPermData[t]? = some l) : s.GrantedListAgrees t := by
  intro p
  obtain ⟨hnd, hlive⟩ := h
  have ht : t ∈ s.requestedPermData := Lib.mem_iff_exists.2 ⟨_, hl⟩
  have hlist : p ∈ s.getGrantedPermCodeList t ↔
      (∃ d ∈ l, getEffectivePermissionStatus d = permissionGranted ∧ d.permCode = p) ∨ s.HasSecComp t p := by
    simp only [getGrantedPermCodeList, hl, hap, ne_eq, not_true_eq_false, if_false, List.mem_append, List.mem_map,
      List.mem_filter, beq_iff_eq, HasSecComp]
    constructor
    · rintro (⟨d, ⟨hd, hg⟩, rfl⟩ | ⟨c, ⟨hc, rfl⟩, rfl⟩)
      · exact .inl ⟨d, hd, hg, rfl⟩
      · exact .inr hc
    · rintro (⟨d, hd, hg, rfl⟩ | hc)
      · exact .inl ⟨d, ⟨hd, hg⟩, rfl⟩
      · exact .inr ⟨⟨p, t⟩, ⟨hc, rfl⟩, rfl⟩
  rw [hlist, verifyPermissionStatus_eq_granted]
  constructor
  · rintro (⟨d, hd, hg, rfl⟩ | hc)
    · exact ⟨ht, .inl ⟨d, entry_of_mem hl hnd hd, hg⟩⟩
    cases he : s.entry t p with
    | none => exact ⟨ht, .inr ⟨rfl, hc⟩⟩
    | some d =>
      obtain ⟨l', hl', hd⟩ := mem_of_entry he
      obtain rfl : l' = l := Option.mem_unique hl' hl
      have hcode := permCode_of_entry he
      exact ⟨ht, .inl ⟨d, rfl, hlive d hd (by rw [hcode]; exact hc)⟩⟩
  · rintro ⟨-, ⟨d, he, hg⟩ | ⟨-, hc⟩⟩
    · obtain ⟨l', hl', hd⟩ := mem_of_entry he
      obtain rfl : l' = l := Option.mem_unique hl' hl
      exact .inl ⟨d, hd, hg, permCode_of_entry he⟩
    · exact .inr hc

theorem Coherent.grantedListAgrees (h : s.Coherent) (hap : getTokenIdTypeEnum t = .tokenHap)
    (ht : t ∈ s.requestedPermData) : s.GrantedListAgrees t := by
  have hl := getElem?_eq_some_getElem ht
  exact (h.lists t _ hap hl).grantedListAgrees hap hl

theorem grantedListAgrees_of_not_mem (ht : t ∉ s.requestedPermData) : s.GrantedListAgrees t := by
  intro p
  simp [getGrantedPermCodeList, verifyPermissionStatus, getElem?_eq_none ht, permissionDenied,
    permissionGranted]

/-! ## What a step must not do -/

def takesOver (s : PermissionDataBrief) (t : AccessTokenID) (need : Bool) (fresh : BriefPermData) : Bool :=
  match s.entry t fresh.permCode with
  | none => false
  | some old =>
    !(need && !hasAny old.flag permissionFixedByAdminPolicy) && !keepsInitializedState old fresh

/-- **The condition on a step**: it writes no effectively denied state for a permission whose component grant is
recorded, grants no component permission on a restricted entry, and installs no list with a code twice. -/
def KeepsCoherent (T : PermissionTable) (s : PermissionDataBrief) : Op → Prop
  | .addPermToBriefPermission t states _ defCheck =>
    getTokenIdTypeEnum t = .tokenHap → s.Installable t (addedList T t states defCheck)
  | .update t states _ need =>
    getTokenIdTypeEnum t = .tokenHap → ((freshList T states).map permCode).Nodup ∧
      ∀ d ∈ freshList T states, s.HasSecComp t d.permCode →
        if s.takesOver t need d then isRestricted d.flag = false
        else getEffectivePermissionStatus d = permissionGranted
  | .updatePermissionStatus t name g fl =>
    getTokenIdTypeEnum t = .tokenHap → ∀ c ∈ T.transferPermissionToOpcode name, ∀ d ∈ s.entry t c,
      if isPermGrantedBySecComp fl then g = true → isRestricted d.flag = false
      else s.HasSecComp t c → isRestricted fl = false ∧
        if (fl &&& permissionAdminPoliciesCancel) = 0 then g = true else d.status = permissionGranted
  | .updatePermissionFlag t c mask add =>
    getTokenIdTypeEnum t = .tokenHap → ∀ d ∈ s.entry t c, s.HasSecComp t c →
      effectiveStatus d.status (maskedFlag mask add d.flag) = permissionGranted
  | .replaceBriefPermDataByTokenId t data _ => getTokenIdTypeEnum t = .tokenHap → s.Installable t data
  | .addBriefPermData t name st fl _ =>
    getTokenIdTypeEnum t = .tokenHap → ∀ c ∈ T.transferPermissionToOpcode name, s.HasSecComp t c →
      effectiveStatus st (getFlagWroteToDb fl) = permissionGranted
  | .resetUserGrantPermissionStatus _ => True
  | .clearAllSecCompGrantedPerm => True
  | .deleteBriefPermDataByTokenId _ => True

instance (T : PermissionTable) (s : PermissionDataBrief) (op : Op) : Decidable (KeepsCoherent T s op) := by
  cases op <;> unfold KeepsCoherent <;> infer_instance

/-! ## One step -/

variable {T : PermissionTable} {s s' : PermissionDataBrief} {c : Nat} {name : String} {fl : Flag}

theorem Coherent.install (h : s.Coherent) (hreq : s'.requestedPermData = s.requestedPermData.insert t l)
    (hsec : s'.secCompList = s.secCompList) (hl : getTokenIdTypeEnum t = .tokenHap → s.Installable t l) :
    s'.Coherent where
  secCompNodup := hsec ▸ h.secCompNodup
  lists := by
    intro t' l' hap' hl'
    rw [hreq] at hl'
    unfold Installable HasSecComp
    rw [hsec]
    rcases Lib.getElem?_insert_eq_some.1 hl' with ⟨rfl, rfl⟩ | ⟨-, hl'⟩
    · exact hl hap'
    · exact h.lists t' l' hap' hl'

/-- Writing one entry and the component grants of its code keeps the rest as it is. -/
theorem Coherent.write (h : s.Coherent) {f : BriefPermData → BriefPermData}
    (hf : ∀ d, (f d).permCode = d.permCode) (hreq : s'.requestedPermData = (s.modifyEntry t c f).requestedPermData)
    (hnd : s'.secCompList.Nodup) (hother : ∀ t' c', ¬(t = t' ∧ c = c') → s'.HasSecComp t' c' → s.HasSecComp t' c')
    (hthis : getTokenIdTypeEnum t = .tokenHap → ∀ d, s.entry t c = some d → s'.HasSecComp t c →
      getEffectivePermissionStatus (f d) = permissionGranted) : s'.Coherent where
  secCompNodup := hnd
  lists := by
    intro t' l' hap' hl'
    rw [hreq, requested_modifyEntry] at hl'
    by_cases htt : t = t'
    · subst htt
      rw [if_pos rfl] at hl'
      obtain ⟨l, hl, rfl⟩ := Option.map_eq_some_iff.1 hl'
      obtain ⟨hcodes, hlive⟩ := h.lists t l hap' hl
      refine ⟨by rw [Lib.map_modifyFirst (fun a _ => hf a)]; exact hcodes, fun d hd hc => ?_⟩
      by_cases hdc : d.permCode = c
      · -- the codes stay distinct, so the only entry with this code is the written one
        have hcodes' : ((modifyFirst (hasCode c) f l).map permCode).Nodup := by
          rw [Lib.map_modifyFirst (fun a _ => hf a)]; exact hcodes
        have hfound := Lib.find?_key_of_mem hcodes' hd
        rw [hdc] at hfound
        have hwritten : (modifyFirst (hasCode c) f l).find? (hasCode c) = (l.find? (hasCode c)).map f :=
          Lib.find?_modifyFirst (fun a ha => by simpa [hasCode, hf] using ha) l
        obtain ⟨a, ha, rfl⟩ := Option.map_eq_some_iff.1 (hwritten.symm.trans hfound)
        exact hthis hap' a (by rw [entry, hl]; exact ha) (hdc ▸ hc)
      · rcases Lib.mem_modifyFirst hd with hd | ⟨a, ha, rfl⟩
        · exact hlive d hd (hother _ _ (fun hne => hdc hne.2.symm) hc)
        · exact absurd (by simpa [hasCode, hf] using List.find?_some ha) hdc
    · rw [if_neg htt] at hl'
      obtain ⟨hcodes, hlive⟩ := h.lists t' l' hap' hl'
      exact ⟨hcodes, fun d hd hc => hlive d hd (hother _ _ (fun hne => htt hne.1) hc)⟩

theorem Coherent.of_sublist (h : s.Coherent) (hsub : s'.secCompList.Sublist s.secCompList)
    (hreq : ∀ (t : AccessTokenID) l, s'.requestedPermData[t]? = some l → s.requestedPermData[t]? = some l) :
    s'.Coherent where
  secCompNodup := h.secCompNodup.sublist hsub
  lists := by
    intro t l hap hl
    obtain ⟨hcodes, hlive⟩ := h.lists t l hap (hreq t l hl)
    exact ⟨hcodes, fun d hd hc => hlive d hd (hsub.subset hc)⟩

theorem Coherent.effective_of_entry (h : s.Coherent) {d : BriefPermData}
    (hap : getTokenIdTypeEnum t = .tokenHap) (he : s.entry t c = some d) (hc : s.HasSecComp t c) :
    getEffectivePermissionStatus d = permissionGranted := by
  obtain ⟨l, hl, hd⟩ := mem_of_entry he
  exact (h.lists t l hap hl).2 d hd (by rw [permCode_of_entry he]; exact hc)

theorem mergeOnUpdate_eq (t : AccessTokenID) (need : Bool) (d : BriefPermData) :
    (s.takesOver t need d = false ∧ mergeOnUpdate (s.requestedPermData.getD t []) need d = d) ∨
      ∃ old, s.entry t d.permCode = some old ∧ s.takesOver t need d = true ∧
        mergeOnUpdate (s.requestedPermData.getD t []) need d = { d with
            status := old.status
            flag := getFlagWithoutSpecifiedElement old.flag permissionRestrictedByAdmin |||
              (d.flag &&& permissionRestrictedByAdmin) } := by
  have hfind : (s.requestedPermData.getD t []).find? (hasCode d.permCode) = s.entry t d.permCode := by
    rw [entry, getD_eq_getD_getElem?]
    cases s.requestedPermData[t]? <;> rfl
  unfold mergeOnUpdate takesOver
  rw [hfind]
  cases he : s.entry t d.permCode with
  | none => exact .inl ⟨rfl, rfl⟩
  | some old =>
    simp only
    by_cases hprov : (need && !hasAny old.flag permissionFixedByAdminPolicy) = true
    · exact .inl ⟨by simp [hprov], by rw [if_pos hprov]⟩
    · rw [if_neg hprov, updatePermStatus]
      by_cases hkeep : keepsInitializedState old d = true
      · exact .inl ⟨by simp [hkeep], by rw [if_pos hkeep]⟩
      · exact .inr ⟨old, rfl, by simp [hprov, hkeep], by rw [if_neg hkeep]⟩

theorem Coherent.update (h : s.Coherent) {states : List PermissionStatus} {acl : AclExtendedMap} {need : Bool}
    (hk : KeepsCoherent T s (.update t states acl need)) :
    (update T s t states acl need).Coherent := by
  obtain ⟨hreq, hsec⟩ := update_eq t states acl need
  refine h.install hreq hsec fun hap => ?_
  obtain ⟨hcodes, hfresh⟩ := hk hap
  refine ⟨?_, fun d' hd' hc => ?_⟩
  · simpa [List.map_map, Function.comp_def] using hcodes
  obtain ⟨d, hd, rfl⟩ := List.mem_map.1 hd'
  rw [mergeOnUpdate_permCode] at hc
  have hcond := hfresh d hd hc
  rcases mergeOnUpdate_eq t need d with ⟨hto, heq⟩ | ⟨old, he, hto, heq⟩
  · rw [heq]
    simpa [hto] using hcond
  rw [if_pos hto] at hcond
  have hold := effectiveStatus_eq_granted.1 (h.effective_of_entry hap he hc)
  rw [heq, getEffectivePermissionStatus, effectiveStatus_eq_granted]
  refine ⟨by simp [hcond], ?_⟩
  simpa using hold.2

theorem Coherent.updatePermissionStatus (h : s.Coherent) {g : Bool}
    (hk : KeepsCoherent T s (.updatePermissionStatus t name g fl)) :
    (updatePermissionStatus T s t name g fl).2.2.Coherent := by
  rcases updatePermissionStatus_cases t name g fl with
    hsame | ⟨c, hc, ⟨hcomp, d, he, -, -, hs'⟩ | ⟨hcomp, -, -, -, -, hs'⟩⟩
  · rw [hsame]; exact h
  · rw [hs']
    refine h.write (updatedPermState_permCode g fl) rfl h.secCompNodup (fun _ _ _ h => h) fun hap d' he' hlive => ?_
    obtain rfl : d = d' := Option.mem_unique he he'
    have hcond := hk hap c hc d he
    rw [hcomp, if_neg Bool.false_ne_true] at hcond
    obtain ⟨hfl, hstatus⟩ := hcond hlive
    have hold := (effectiveStatus_eq_granted.1 (h.effective_of_entry hap he hlive)).1
    rw [getEffectivePermissionStatus, effectiveStatus_eq_granted]
    refine ⟨by simp [updatedPermState, isRestricted_updateWithNewFlag, hfl, hold], .inr ?_⟩
    by_cases hcancel : (fl &&& permissionAdminPoliciesCancel) = 0
    · rw [if_pos hcancel] at hstatus
      simp [updatedPermState, hcancel, hstatus]
    · rw [if_neg hcancel] at hstatus
      exact (if_neg (by simpa using hcancel)).trans hstatus
  · rw [hs']
    cases g with
    | true =>
      refine h.write withComponentFlag_permCode rfl (secCompList_setSecComp_nodup h.secCompNodup)
        (fun t' c' hne hlive => ?_) fun hap d he _ => ?_
      · exact (hasSecComp_setSecComp_true.1 hlive).resolve_left hne
      · have hcond := hk hap c hc d he
        rw [hcomp, if_pos rfl] at hcond
        rw [getEffectivePermissionStatus, effectiveStatus_eq_granted]
        refine ⟨by simp [withComponentFlag, hcond rfl]; rfl, .inl (by simp [withComponentFlag]; right; rfl)⟩
    | false =>
      refine h.write withComponentFlag_permCode rfl (secCompList_setSecComp_nodup h.secCompNodup)
        (fun t' c' _ hlive => ?_) fun _ d _ hlive => ?_
      · exact ((hasSecComp_setSecComp_false h.secCompNodup).1 hlive).2
      · exact absurd ⟨rfl, rfl⟩ ((hasSecComp_setSecComp_false h.secCompNodup).1 hlive).1

theorem Coherent.addBriefPermData (h : s.Coherent) {st : Int} {v : String}
    (hk : KeepsCoherent T s (.addBriefPermData t name st fl v)) : (addBriefPermData T s t name st fl v).2.Coherent := by
  rcases addBriefPermData_cases t name st fl v with ⟨e, ext, heq⟩ | ⟨d, l, ext, hd, hl, heq⟩
  · rw [heq]
    exact h.of_sublist (List.Sublist.refl _) (fun _ _ h => h)
  rw [heq]
  refine h.install rfl rfl fun hap => ?_
  obtain ⟨hcodes, hlive⟩ := h.lists t l hap hl
  obtain ⟨hst, hfl, hcode, -⟩ := briefPermDataOf_eq_some hd
  refine ⟨mergePermBriefData_codes_nodup hcodes, fun x hx hc => ?_⟩
  rcases mem_mergePermBriefData hx with hx | ⟨hxc, hxs, hxf⟩
  · exact hlive x hx hc
  · rw [getEffectivePermissionStatus, hxs, hxf, hst, hfl]
    exact hk hap d.permCode hcode (hxc ▸ hc)

/-- **A step that meets the condition keeps the data coherent.** -/
theorem Coherent.step (h : s.Coherent) {op : Op} (hk : KeepsCoherent T s op) : (step T s op).Coherent := by
  cases op with
  | addPermToBriefPermission t states acl defCheck =>
    obtain ⟨hreq, hsec⟩ := addPermToBriefPermission_eq t states acl defCheck
    exact h.install hreq hsec hk
  | update => exact h.update hk
  | updatePermissionStatus => exact h.updatePermissionStatus hk
  | updatePermissionFlag t c mask add =>
    rcases updatePermissionFlag_cases (s := s) t c mask add with ⟨-, e, heq⟩ | ⟨d, he, heq⟩
    · simp only [PermissionDataBrief.step, heq]; exact h
    · simp only [PermissionDataBrief.step, heq]
      have hf : ∀ d : BriefPermData, { d with flag := maskedFlag mask add d.flag }.permCode = d.permCode :=
        fun _ => rfl
      exact h.write hf rfl h.secCompNodup (fun _ _ _ h => h) hk
  | resetUserGrantPermissionStatus t =>
    rcases resetUserGrantPermissionStatus_cases (s := s) t with ⟨-, heq⟩ | ⟨-, heq⟩
    · simp only [PermissionDataBrief.step, heq]; exact h
    simp only [PermissionDataBrief.step, heq]
    refine ⟨h.secCompNodup.filter _, fun t' l' hap hl' => ?_⟩
    rw [Lib.getElem?_modify] at hl'
    split at hl'
    · subst t'
      obtain ⟨l, hl, rfl⟩ := Option.map_eq_some_iff.1 hl'
      refine ⟨?_, fun d _ hc => by simp [HasSecComp] at hc⟩
      simpa [List.map_map, Function.comp_def] using (h.lists t l hap hl).1
    · obtain ⟨hcodes, hlive⟩ := h.lists t' l' hap hl'
      exact ⟨hcodes, fun d hd hc => hlive d hd (List.mem_of_mem_filter hc)⟩
  | clearAllSecCompGrantedPerm => exact h.of_sublist (List.nil_sublist _) (fun _ _ h => h)
  | deleteBriefPermDataByTokenId t =>
    rcases deleteBriefPermDataByTokenId_cases (s := s) t with ⟨-, heq⟩ | ⟨-, heq⟩
    · simp only [PermissionDataBrief.step, heq]; exact h
    simp only [PermissionDataBrief.step, heq]
    exact h.of_sublist List.filter_sublist fun t' l' hl' => (Lib.getElem?_erase_eq_some.1 hl').2
  | replaceBriefPermDataByTokenId t data acl =>
    obtain ⟨hreq, hsec⟩ := replaceBriefPermDataByTokenId_eq t data acl
    exact h.install hreq hsec hk
  | addBriefPermData => exact h.addBriefPermData hk

/-! ## Whole runs -/

/-- **The granted list agrees with verification in every state reached** by steps that meet `KeepsCoherent`. -/
theorem grantedList_agrees_of_keepsCoherent (T : PermissionTable) (s : PermissionDataBrief)
    (hrun : Reaches (step T) (KeepsCoherent T) empty s) (t : AccessTokenID)
    (hap : getTokenIdTypeEnum t = .tokenHap) (ht : t ∈ s.requestedPermData) : s.GrantedListAgrees t :=
  (hrun.invariant (fun _ _ h hk => h.step hk) coherent_empty).grantedListAgrees hap ht

/-- An app requests a permission, is granted it through a security component, and the user then revokes it. -/
def revokedAfterComponentGrant : List Op :=
  [.addPermToBriefPermission sampleHap [deniedCamera] ∅ true,
    .updatePermissionStatus sampleHap camera true permissionComponentSet,
    .updatePermissionStatus sampleHap camera false permissionUserFixed]

/-- **The two readings can disagree**: the revoke drops the component bit of the entry, but the component grant stays
in the list and is pushed as granted. -/
theorem grantedList_disagrees_after_revoke :
    ∃ s, Reaches (step sampleTable) Always empty s ∧ getTokenIdTypeEnum sampleHap = .tokenHap ∧
      sampleHap ∈ s.requestedPermData ∧ 0 ∈ s.getGrantedPermCodeList sampleHap ∧
      s.verifyPermissionStatus sampleHap 0 = permissionDenied ∧ ¬s.GrantedListAgrees sampleHap := by
  refine ⟨revokedAfterComponentGrant.foldl (step sampleTable) empty, Lib.reaches_always _ _, by decide, by decide,
    by decide, by decide, fun h => ?_⟩
  have hgranted := (h 0).1 (by decide)
  exact absurd hgranted (by decide)

/-- The same run with the revoke made through the component first meets the condition at every step. -/
theorem grantedList_agrees_after_component_revoke :
    (([.addPermToBriefPermission sampleHap [deniedCamera] ∅ true,
      .updatePermissionStatus sampleHap camera true permissionComponentSet,
      .updatePermissionStatus sampleHap camera false permissionComponentSet,
      .updatePermissionStatus sampleHap camera false permissionUserFixed] : List Op).foldl
        (step sampleTable) empty).GrantedListAgrees sampleHap := by
  exact grantedList_agrees_of_keepsCoherent sampleTable _ (Lib.reaches_foldl _ _ (by decide)) sampleHap (by decide)
    (by decide)

end AccessToken.PermissionDataBrief
