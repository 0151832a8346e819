import AccessToken.Kernel.SpmData
import AccessToken.GrantedList
/-!
# Two ways of writing a token's permissions to the kernel

The tasks write a token's bits from its permission list with `AddHapPermToKernel`, which keeps the entries whose stored
status is granted; a direct update writes `GetGrantedPermCodeList`, which goes by the effective status and adds the
component grants.  They agree exactly on the lists in which no flag overrides the stored status (`StatusesFit`).
-/
namespace AccessToken.PermissionDataBrief

open BriefPermData

open Lib (Reaches Always)

/-- **What the kernel is given for a requested permission is its effective status**, whichever way it is written. -/
def KernelWriteAgrees (s : PermissionDataBrief) (t : AccessTokenID) (list : List BriefPermData) : Prop :=
  ∀ (k : KernelPerms) (c : Nat),
    (Kernel.addHapPermToKernel t list k t c = true ↔
      ∃ d, s.entry t c = some d ∧ getEffectivePermissionStatus d = permissionGranted) ∧
    (c ∈ list.map permCode →
      Kernel.addHapPermToKernel t list k t c = k.addPermissionToKernel t (s.getGrantedPermCodeList t) t c)

def StoredGranted (list : List BriefPermData) (c : Nat) : Prop :=
  ∃ d ∈ list, d.permCode = c ∧ d.status = permissionGranted

/-- **No flag overrides the stored status**: a restricted entry is stored denied, a component-granted one is stored
granted, and a recorded component grant of a requested permission is in effect.  The last two fields only matter for a
list that holds a code twice. -/
structure StatusesFit (s : PermissionDataBrief) (t : AccessTokenID) (list : List BriefPermData) : Prop where
  restricted : ∀ c d, s.entry t c = some d → isRestricted d.flag = true → ¬ StoredGranted list c
  component : ∀ c d, s.entry t c = some d → isRestricted d.flag = false → isPermGrantedBySecComp d.flag = true →
    StoredGranted list c
  recorded : getTokenIdTypeEnum t = .tokenHap → ∀ c d, s.entry t c = some d → s.HasSecComp t c →
    getEffectivePermissionStatus d = permissionGranted
  later : ∀ c d, s.entry t c = some d → isPermGrantedBySecComp d.flag = false → d.status ≠ permissionGranted →
    ¬ StoredGranted list c
  laterEffective : ∀ c d, s.entry t c = some d → ∀ d' ∈ list, d'.permCode = c →
    getEffectivePermissionStatus d' = permissionGranted → getEffectivePermissionStatus d = permissionGranted

variable {s : PermissionDataBrief} {t : AccessTokenID} {list : List BriefPermData} {c : Nat}

theorem addHapPermToKernel_self (k : KernelPerms) (c : Nat) :
    Kernel.addHapPermToKernel t list k t c = true ↔ StoredGranted list c := by
  unfold Kernel.addHapPermToKernel Kernel.grantedOpCodeList StoredGranted
  rw [KernelPerms.addPermissionToKernel_apply, if_pos rfl, List.contains_iff_mem, List.mem_map]
  constructor
  · rintro ⟨d, hd, hc⟩
    obtain ⟨hd, hst⟩ := List.mem_filter.mp hd
    exact ⟨d, hd, hc, beq_iff_eq.mp hst⟩
  · rintro ⟨d, hd, hc, hst⟩
    exact ⟨d, List.mem_filter.mpr ⟨hd, beq_iff_eq.mpr hst⟩, hc⟩

theorem mem_getGrantedPermCodeList (hl : s.requestedPermData[t]? = some list) (c : Nat) :
    c ∈ s.getGrantedPermCodeList t ↔ (∃ d ∈ list, d.permCode = c ∧ getEffectivePermissionStatus d = permissionGranted) ∨
        (getTokenIdTypeEnum t = .tokenHap ∧ s.HasSecComp t c) := by
  have heff : c ∈ (list.filter fun d => getEffectivePermissionStatus d == permissionGranted).map (·.permCode) ↔
      ∃ d ∈ list, d.permCode = c ∧ getEffectivePermissionStatus d = permissionGranted := by
    simp only [List.mem_map, List.mem_filter, beq_iff_eq]
    constructor
    · rintro ⟨d, ⟨hd, hg⟩, hc⟩
      exact ⟨d, hd, hc, hg⟩
    · rintro ⟨d, hd, hc, hg⟩
      exact ⟨d, ⟨hd, hg⟩, hc⟩
  have hsec : c ∈ (s.secCompList.filter fun x => x.tokenId == t).map (·.permCode) ↔ s.HasSecComp t c := by
    simp only [List.mem_map, List.mem_filter, beq_iff_eq, HasSecComp]
    constructor
    · rintro ⟨x, ⟨hx, rfl⟩, rfl⟩
      exact hx
    · intro hx
      exact ⟨_, ⟨hx, rfl⟩, rfl⟩
  simp only [getGrantedPermCodeList, hl]
  by_cases hap : getTokenIdTypeEnum t = .tokenHap
  · rw [if_neg (not_not_intro hap), List.mem_append, heff, hsec]
    exact or_congr_right ⟨fun h => ⟨hap, h⟩, fun h => h.2⟩
  · rw [if_pos hap, heff]
    exact ⟨.inl, fun h => h.resolve_right (fun h' => hap h'.1)⟩

theorem exists_entry (hl : s.requestedPermData[t]? = some list) (hc : c ∈ list.map permCode) :
    ∃ d, s.entry t c = some d := by
  obtain ⟨d, hd, rfl⟩ := List.mem_map.mp hc
  rw [entry, hl]
  exact Option.isSome_iff_exists.mp (List.find?_isSome.mpr ⟨d, hd, by simp [hasCode]⟩)

theorem StoredGranted.mem (h : StoredGranted list c) : c ∈ list.map permCode := by
  obtain ⟨d, hd, rfl, _⟩ := h
  exact List.mem_map_of_mem hd

/-- With fitting statuses, the stored statuses of a code speak for its first entry. -/
theorem StatusesFit.storedGranted_iff (h : s.StatusesFit t list) (hl : s.requestedPermData[t]? = some list)
    {d : BriefPermData} (he : s.entry t c = some d) :
    StoredGranted list c ↔ getEffectivePermissionStatus d = permissionGranted := by
  rw [getEffectivePermissionStatus, effectiveStatus_eq_granted]
  constructor
  · intro hst
    have hnr : isRestricted d.flag = false := by
      cases hr : isRestricted d.flag with
      | false => rfl
      | true => exact absurd hst (h.restricted c d he hr)
    refine ⟨hnr, ?_⟩
    cases hcomp : isPermGrantedBySecComp d.flag with
    | true => exact .inl rfl
    | false =>
      refine .inr ?_
      by_contra hne
      exact h.later c d he hcomp hne hst
  · rintro ⟨hnr, hcomp | hgranted⟩
    · exact h.component c d he hnr hcomp
    · obtain ⟨l, hl', hd⟩ := mem_of_entry he
      obtain rfl : l = list := Option.mem_unique hl' hl
      exact ⟨d, hd, permCode_of_entry he, hgranted⟩

/-- **The two writes agree exactly when no flag of the list overrides a stored status.** -/
theorem kernelWrite_agrees_iff (s : PermissionDataBrief) (t : AccessTokenID) (list : List BriefPermData)
    (hl : s.requestedPermData[t]? = some list) : s.KernelWriteAgrees t list ↔ s.StatusesFit t list := by
  constructor
  · intro h
    have hfirst : ∀ c d, s.entry t c = some d →
        (StoredGranted list c ↔ getEffectivePermissionStatus d = permissionGranted) := by
      intro c d he
      have hc := (h .empty c).1
      rw [addHapPermToKernel_self, he] at hc
      exact hc.trans ⟨fun ⟨d', hd', hg⟩ => Option.some.inj hd' ▸ hg, fun hg => ⟨d, rfl, hg⟩⟩
    have hlist : ∀ c d, s.entry t c = some d →
        (c ∈ s.getGrantedPermCodeList t ↔ getEffectivePermissionStatus d = permissionGranted) := by
      intro c d he
      obtain ⟨l, hl', hd⟩ := mem_of_entry he
      obtain rfl : l = list := Option.mem_unique hl' hl
      have hboth := (h .empty c).2 (List.mem_map.mpr ⟨d, hd, permCode_of_entry he⟩)
      rw [KernelPerms.addPermissionToKernel_apply, if_pos rfl] at hboth
      rw [← hfirst c d he, ← addHapPermToKernel_self .empty c, hboth, List.contains_iff_mem]
    constructor
    · intro c d he hr hst
      have hg := (hfirst c d he).mp hst
      rw [getEffectivePermissionStatus, effectiveStatus_eq_granted, hr] at hg
      exact absurd hg.1 (by decide)
    · intro c d he hr hcomp
      refine (hfirst c d he).mpr ?_
      rw [getEffectivePermissionStatus, effectiveStatus_eq_granted]
      exact ⟨hr, .inl hcomp⟩
    · intro hap c d he hsec
      exact (hlist c d he).mp ((mem_getGrantedPermCodeList hl c).mpr (.inr ⟨hap, hsec⟩))
    · intro c d he hcomp hne hst
      have hg := (hfirst c d he).mp hst
      rw [getEffectivePermissionStatus, effectiveStatus_eq_granted, hcomp] at hg
      exact hg.2.elim (by decide) hne
    · intro c d he d' hd' hc hg
      exact (hlist c d he).mp ((mem_getGrantedPermCodeList hl c).mpr (.inl ⟨d', hd', hc, hg⟩))
  · intro h k c
    rw [addHapPermToKernel_self]
    constructor
    · constructor
      · intro hst
        obtain ⟨d, he⟩ := exists_entry hl hst.mem
        exact ⟨d, he, (h.storedGranted_iff hl he).mp hst⟩
      · rintro ⟨d, he, hg⟩
        exact (h.storedGranted_iff hl he).mpr hg
    intro hc
    obtain ⟨d, he⟩ := exists_entry hl hc
    have hgranted : c ∈ s.getGrantedPermCodeList t ↔ getEffectivePermissionStatus d = permissionGranted := by
      rw [mem_getGrantedPermCodeList hl]
      constructor
      · rintro (⟨d', hd', hc', hg⟩ | ⟨hap, hsec⟩)
        · exact h.laterEffective c d he d' hd' hc' hg
        · exact h.recorded hap c d he hsec
      · intro hg
        obtain ⟨l, hl', hd⟩ := mem_of_entry he
        obtain rfl : l = list := Option.mem_unique hl' hl
        exact .inl ⟨d, hd, permCode_of_entry he, hg⟩
    rw [Bool.eq_iff_iff, addHapPermToKernel_self, h.storedGranted_iff hl he,
      KernelPerms.addPermissionToKernel_apply, if_pos rfl, List.contains_iff_mem, hgranted]

def userGranted : PermissionDataBrief :=
  step sampleTable empty (.addPermToBriefPermission sampleHap
    [⟨camera, permissionGranted, permissionUserSet⟩] ∅ true)

def userGrantedCamera : BriefPermData := ⟨permissionGranted, 0, 0, permissionUserSet⟩

theorem kernelWrite_agrees_userGranted :
    userGranted.requestedPermData[sampleHap]? = some [userGrantedCamera] ∧
      userGranted.KernelWriteAgrees sampleHap [userGrantedCamera] := by
  have hl : userGranted.requestedPermData[sampleHap]? = some [userGrantedCamera] := by decide
  have hentry : ∀ c d, userGranted.entry sampleHap c = some d → d = userGrantedCamera := by
    intro c d he
    obtain ⟨l, hl', hd⟩ := mem_of_entry he
    rw [hl] at hl'
    cases hl'
    exact List.mem_singleton.mp hd
  have hgranted : getEffectivePermissionStatus userGrantedCamera = permissionGranted := by decide
  refine ⟨hl, (kernelWrite_agrees_iff userGranted sampleHap _ hl).mpr ⟨?_, ?_, ?_, ?_, ?_⟩⟩
  · intro c d he hr
    rw [hentry c d he] at hr
    exact absurd hr (by decide)
  · intro c d he _ hcomp
    rw [hentry c d he] at hcomp
    exact absurd hcomp (by decide)
  · intro _ c d he _
    rw [hentry c d he]
    exact hgranted
  · intro c d he _ hne
    rw [hentry c d he] at hne
    exact absurd rfl hne
  · intro c d he _ _ _ _
    rw [hentry c d he]
    exact hgranted

/-- **A restricted permission is written to the kernel as granted** when the bits come from the permission list. -/
theorem restricted_permission_written_granted :
    ∃ s list, Reaches (step sampleTable) Always empty s ∧ s.requestedPermData[sampleHap]? = some list ∧
      Kernel.addHapPermToKernel sampleHap list .empty sampleHap 0 = true ∧
      s.verifyPermissionStatus sampleHap 0 = permissionDenied ∧ 0 ∉ s.getGrantedPermCodeList sampleHap := by
  refine ⟨[.addPermToBriefPermission sampleHap
      [⟨camera, permissionGranted, permissionUserSet⟩] ∅ true,
    .updatePermissionFlag sampleHap 0 permissionRestrictedByAdmin true].foldl (step sampleTable) empty,
    [⟨permissionGranted, 0, 0, permissionUserSet ||| permissionRestrictedByAdmin⟩], Lib.reaches_always _ _,
      ?_, ?_, ?_, ?_⟩
  all_goals decide

end AccessToken.PermissionDataBrief
