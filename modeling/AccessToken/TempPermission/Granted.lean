import AccessToken.TempPermission.Manager
import AccessToken.Service.EntrySteps
import Mathlib.Data.List.Find
/-!
# Permissions granted for this time

Which entries carry a temporary grant, and what the parts of a grant or revoke make of them: a load never brings one
back, a write makes one only for the permission it grants, and a revoke that succeeds takes it away.
-/
namespace AccessToken

open Lib (hasAny)

namespace Service

open PermissionDataBrief PermissionTable

variable {T : PermissionTable} {D : DlpPermissionModeMap} {w : Service} {t : AccessTokenID} {p n : String} {env : Env}

/-- The entry is granted with `PERMISSION_ALLOW_THIS_TIME`. -/
def AllowedThisTime (d : BriefPermData) : Prop :=
  d.status = permissionGranted ∧ hasAny d.flag permissionAllowThisTime = true
deriving Decidable

/-- The permission is granted to the token with `PERMISSION_ALLOW_THIS_TIME`. -/
def TempGranted (T : PermissionTable) (w : Service) (t : AccessTokenID) (p : String) : Prop :=
  ∃ c d, w.entry t c = some d ∧ AllowedThisTime d ∧ T.transferOpcodeToPermission c = p

/-! ## Loading -/

theorem hasAny_wroteToDb (f : Flag) :
    hasAny (getFlagWroteToDb f) permissionAllowThisTime = hasAny f permissionAllowThisTime := by
  unfold getFlagWroteToDb getFlagWithoutSpecifiedElement
  rw [Lib.hasAny_and]
  rfl

theorem not_allowed_of_restored {row : PermissionStatus} {d : BriefPermData} (h : Restored T row d) :
    ¬AllowedThisTime d := by
  rintro ⟨hgranted, hallow⟩
  rw [h.flag, hasAny_wroteToDb] at hallow
  rw [h.status, if_pos hallow] at hgranted
  exact absurd (show permissionDenied = permissionGranted from hgranted) (by decide)

theorem tempGranted_load {findOk : Bool} {id : AccessTokenID}
    (hg : TempGranted T (getHapTokenInfoInner T w findOk id).2 t p) : TempGranted T w t p := by
  obtain ⟨c, d, hd, hallow, hname⟩ := hg
  refine ⟨c, d, ?_, hallow, hname⟩
  obtain ⟨l, hl, hfind⟩ := Option.bind_eq_some_iff.1 hd
  obtain hl | ⟨-, -, hrows⟩ := requested_load hl
  · exact Option.bind_eq_some_iff.2 ⟨l, hl, hfind⟩
  · obtain ⟨row, -, hfrom⟩ := hrows d (List.mem_of_find?_eq_some hfind)
    exact absurd hallow (not_allowed_of_restored hfrom)

/-! ## Writing -/

variable {fl : Flag} {g : Bool} {d : BriefPermData} {inner : HapTokenInfoInner} {c : Nat} {w₁ : Service}

theorem updatedPermState_status (hfl : isAdminPermissionFlag fl = false) (g : Bool) (d : BriefPermData) :
    (updatedPermState g fl d).status = if g then permissionGranted else permissionDenied := by
  unfold isAdminPermissionFlag at hfl
  rw [Lib.hasAny_or_right, Bool.or_eq_false_iff] at hfl
  unfold updatedPermState
  rw [if_pos (by simpa [hasAny] using hfl.2)]

theorem updatedPermState_allow (g : Bool) (fl : Flag) (d : BriefPermData) :
    hasAny (updatedPermState g fl d).flag permissionAllowThisTime = hasAny fl permissionAllowThisTime := by
  unfold updatedPermState updateWithNewFlag
  have hmask : (permissionPreAuthorizedCancelable ||| permissionRestrictedByAdmin) &&& permissionAllowThisTime =
    0 := by decide
  rw [Lib.hasAny_or, Lib.hasAny_and, hmask]
  simp

theorem withComponentFlag_allowed : AllowedThisTime (withComponentFlag g d) ↔ AllowedThisTime d := by
  have hset : hasAny permissionComponentSet permissionAllowThisTime = false := by decide
  have hclear : ~~~permissionComponentSet &&& permissionAllowThisTime = permissionAllowThisTime := by decide
  unfold AllowedThisTime withComponentFlag
  cases g with
  | true => simp [hset]
  | false => simp [Lib.hasAny_and, hclear]

/-- **What a write makes a temporary grant**: one that was, or a grant with the flag. -/
theorem allowed_grantedEntry (hfl : isAdminPermissionFlag fl = false) (h : AllowedThisTime (grantedEntry g fl d)) :
    AllowedThisTime d ∨ g = true ∧ hasAny fl permissionAllowThisTime = true := by
  unfold grantedEntry at h
  split_ifs at h with _ _ _ _ hacc
  all_goals first
    | exact .inl h
    | exact .inl (withComponentFlag_allowed.1 h)
    | skip
  obtain ⟨hstatus, hflag⟩ := h
  rw [updatedPermState_status hfl] at hstatus
  rw [updatedPermState_allow] at hflag
  refine .inr ⟨?_, hflag⟩
  by_contra hg
  rw [if_neg hg] at hstatus
  exact absurd hstatus (by decide)

theorem accepts_of_updated {s : PermissionDataBrief} (hc : T.transferPermissionToOpcode n = some c)
    (hfl : isPermGrantedBySecComp fl = false)
    (h : (PermissionDataBrief.updatePermissionStatus T s t n g fl).1 = .ok ()) :
    ∃ d, s.entry t c = some d ∧ acceptsFlag fl d := by
  unfold PermissionDataBrief.updatePermissionStatus at h
  rw [hc] at h
  simp only [hfl, Bool.not_false, if_true] at h
  obtain ⟨e, he⟩ | ⟨d, hd, hacc, -⟩ := updatePermStateList_cases t c g fl
  · rw [he] at h
    cases h
  · exact ⟨d, hd, hacc⟩

theorem entry_updateAndNotify_eq (env : Env) (inner : HapTokenInfoInner) (n : String) (g : Bool) (fl : Flag)
    (t : AccessTokenID) (c : Nat) :
    (updateAndNotify T w env inner n g fl).2.entry t c = w.entry t c ∨
      inner.tokenID = t ∧ T.transferPermissionToOpcode n = some c ∧
        (updateAndNotify T w env inner n g fl).2.entry t c = (w.entry t c).map (grantedEntry g fl) := by
  by_cases hid : inner.tokenID = t
  · cases hd : w.entry t c with
    | none =>
      left
      rw [(updateAndNotify_stores ..).1, grantedBrief, hid]
      rcases PermissionDataBrief.updatePermissionStatus_cases t n g fl with
        hsame | ⟨c', -, ⟨-, d', -, -, -, hnew⟩ | ⟨-, -, -, -, -, hnew⟩⟩
      · rw [hsame, hd]
      · rw [hnew, entry_modifyEntry (updatedPermState_permCode g fl), hd]
        simp
      · rw [hnew, entry_setSecComp, hd]
        simp
    | some =>
      by_cases hc : T.transferPermissionToOpcode n = some c
      · exact .inr ⟨hid, hc, entry_updateAndNotify env g fl hid hc hd⟩
      left
      rw [(updateAndNotify_stores ..).1, grantedBrief, hid, ← hd]
      rcases PermissionDataBrief.updatePermissionStatus_cases t n g fl with
        hsame | ⟨c', hc', ⟨-, d', -, -, -, hnew⟩ | ⟨-, -, -, -, -, hnew⟩⟩
      · rw [hsame]
      all_goals
        have hne : ¬(t = t ∧ c' = c) := fun h => hc (h.2 ▸ hc')
      · rw [hnew, entry_modifyEntry (updatedPermState_permCode g fl), if_neg hne]
      · rw [hnew, entry_setSecComp, if_neg hne]
  · exact .inl (entry_updateAndNotify_of_ne hid)

/-- **A write makes a temporary grant only of what it grants.** -/
theorem tempGranted_updateAndNotify (hfl : isAdminPermissionFlag fl = false)
    (hg : TempGranted T (updateAndNotify T w env inner n g fl).2 t p) :
    TempGranted T w t p ∨ g = true ∧ hasAny fl permissionAllowThisTime = true ∧ inner.tokenID = t ∧
      p = cStr n := by
  obtain ⟨c, d, hd, hallow, hname⟩ := hg
  obtain hsame | ⟨hid, hc, hnew⟩ := entry_updateAndNotify_eq env inner n g fl t c
  · exact .inl ⟨c, d, hsame ▸ hd, hallow, hname⟩
  · obtain ⟨d₀, hd₀, rfl⟩ := Option.map_eq_some_iff.1 (hnew.symm.trans hd)
    obtain hbefore | ⟨hg, hflag⟩ := allowed_grantedEntry hfl hallow
    · exact .inl ⟨c, d₀, hd₀, hbefore, hname⟩
    · exact .inr ⟨hg, hflag, hid, by rw [← hname, transferOpcode_of_transfer hc]⟩

theorem brief_ok_of_updateAndNotify (h : (updateAndNotify T w env inner n g fl).1 = .ok ()) :
    (w.brief.updatePermissionStatus T inner.tokenID n g fl).1 = .ok () := by
  unfold updateAndNotify updatePermissionStatus at h
  revert h
  dsimp only
  generalize w.brief.updatePermissionStatus T inner.tokenID n g fl = res
  obtain ⟨ret, type, brief⟩ := res
  cases ret with
  | error => exact fun h => absurd h (by simp)
  | ok => exact fun _ => rfl

/-- **A revoke that succeeds leaves no temporary grant.** -/
theorem not_tempGranted_of_revoked (hsound : w.Lasting T)
    (h : (updateAndNotify T w env inner n false permissionAllowThisTime).1 = .ok ()) :
    ¬TempGranted T (updateAndNotify T w env inner n false permissionAllowThisTime).2 inner.tokenID
      (cStr n) := by
  rintro ⟨c, d, hd, hallow, hname⟩
  have hok := brief_ok_of_updateAndNotify h
  -- the entry whose write succeeded is the entry of this name
  have hlt : c < T.permList.length := by
    obtain ⟨l, hl, hmem⟩ := mem_of_entry hd
    have hcode := permCode_of_entry hd
    rw [← hcode]
    exact ((hsound.updateAndNotify env inner n false (by decide)).entries _ l hl d hmem).code
  have hc : T.transferPermissionToOpcode n = some c := by
    cases hc : T.transferPermissionToOpcode n with
    | none =>
      unfold PermissionDataBrief.updatePermissionStatus at hok
      rw [hc] at hok
      cases hok
    | some c' =>
      have hsame : T.transferOpcodeToPermission c' = T.transferOpcodeToPermission c := by
        rw [transferOpcode_of_transfer hc, hname]
      rw [transferOpcode_inj hlt hsame]
  obtain ⟨d₀, hd₀, hacc⟩ := accepts_of_updated hc (by decide) hok
  rw [entry_updateAndNotify env false permissionAllowThisTime rfl hc hd₀] at hd
  cases hd
  have hnew : grantedEntry false permissionAllowThisTime d₀ = updatedPermState false permissionAllowThisTime d₀ := by
    unfold grantedEntry
    rw [if_neg (by decide), if_pos hacc]
  rw [hnew] at hallow
  exact absurd ((updatedPermState_status (by decide) false d₀).symm.trans hallow.1) (by decide)

/-! ## Calls -/

def NoNewGrants (T : PermissionTable) (w w' : Service) : Prop :=
  w'.Lasting T ∧ ∀ t p, TempGranted T w' t p → TempGranted T w t p

theorem NoNewGrants.refl (h : w.Lasting T) : NoNewGrants T w w := ⟨h, fun _ _ => id⟩

theorem NoNewGrants.trans {w₂ : Service} (h₁ : NoNewGrants T w w₁) (h₂ : NoNewGrants T w₁ w₂) : NoNewGrants T w w₂ :=
  ⟨h₂.1, fun t p h => h₁.2 t p (h₂.2 t p h)⟩

theorem NoNewGrants.load (h : NoNewGrants T w w₁) (findOk : Bool) (id : AccessTokenID) :
    NoNewGrants T w (getHapTokenInfoInner T w₁ findOk id).2 :=
  h.trans ⟨h.1.load findOk id, fun _ _ => tempGranted_load⟩

theorem noNewGrants_getHapTokenInfo (h : w.Lasting T) (env : Env) (id : AccessTokenID) :
    NoNewGrants T w (getHapTokenInfo T w env id).2 :=
  getHapTokenInfo_invariant (NoNewGrants T w) (fun _ id hw => hw.load env.findOk id) (.refl h) id

/-- **What updating one token makes a temporary grant**: the permission it grants, if the observer allows it. -/
theorem tempGranted_updateTokenPermissionState (h : w.Lasting T) (D : DlpPermissionModeMap) {fl : Flag}
    (hvalid : isPermissionFlagValid fl = true) (hfl : isAdminPermissionFlag fl = false) (g : Bool)
    (id : AccessTokenID) :
    (updateTokenPermissionState T D w env id n g fl).2.Lasting T ∧
      ∀ t p, TempGranted T (updateTokenPermissionState T D w env id n g fl).2 t p →
        TempGranted T w t p ∨ g = true ∧ hasAny fl permissionAllowThisTime = true ∧ t = id ∧ p = cStr n ∧
          (fl = permissionAllowThisTime → env.allowTemp = true) := by
  have hload := (NoNewGrants.refl h).load env.findOk id
  have hsome := @getHapTokenInfoInner_some T w env.findOk id
  unfold updateTokenPermissionState
  generalize getHapTokenInfoInner T w env.findOk id = res at hload hsome ⊢
  obtain ⟨found, w₁⟩ := res
  cases found with
  | none => exact ⟨hload.1, fun t p hg => .inl (hload.2 t p hg)⟩
  | some inner =>
    dsimp only
    split
    · exact ⟨hload.1, fun t p hg => .inl (hload.2 t p hg)⟩
    rename_i hcheck
    refine ⟨hload.1.updateAndNotify env inner n g hvalid, fun t p hg => ?_⟩
    obtain hbefore | ⟨hg, hallow, hid, hp⟩ := tempGranted_updateAndNotify hfl hg
    · exact .inl (hload.2 t p hbefore)
    refine .inr ⟨hg, hallow, ?_, hp, fun hexact => ?_⟩
    · rw [← hid, hload.1.keyed id inner (hsome rfl)]
    · unfold updateTokenPermissionStateCheck at hcheck
      split_ifs at hcheck with _ htemp _
      simpa [hexact, hg] using htemp

/-! ## Revoking -/

theorem noNewGrants_revoke (h : w.Lasting T) :
    NoNewGrants T w (updatePermission T D w env t n false permissionAllowThisTime).2 := by
  refine updatePermission_invariant (NoNewGrants T w) (fun _ id hw => hw.load env.findOk id)
    (fun w₁ _ inner n hw _ _ (_ : True) =>
    hw.trans ⟨hw.1.updateAndNotify env inner n false (by decide), fun t p hg => ?_⟩)
    (.refl h) (updatePermissionMeets_of_forall T D env false _ (fun _ _ => trivial))
  obtain hbefore | ⟨hfalse, -⟩ := tempGranted_updateAndNotify (by decide) hg
  · exact hbefore
  · cases hfalse

theorem not_tempGranted_of_updatePermission (h : w.Lasting T)
    (hok : (updatePermission T D w env t n false permissionAllowThisTime).1 = .ok ()) :
    ¬TempGranted T (updatePermission T D w env t n false permissionAllowThisTime).2 t (cStr n) := by
  have hload := (NoNewGrants.refl h).load env.findOk t
  have hsome := @getHapTokenInfoInner_some T w env.findOk t
  have hfirst : (updateTokenPermissionState T D w env t n false permissionAllowThisTime).1 = .ok () →
      ¬TempGranted T (updateTokenPermissionState T D w env t n false permissionAllowThisTime).2 t (cStr n) := by
    unfold updateTokenPermissionState
    generalize getHapTokenInfoInner T w env.findOk t = res at hload hsome ⊢
    obtain ⟨found, w₁⟩ := res
    cases found with
    | none => exact fun h => absurd h (by simp)
    | some inner =>
      dsimp only
      split
      · exact fun h => absurd h (by simp)
      · intro hok
        have hnot := not_tempGranted_of_revoked hload.1 hok
        rwa [hload.1.keyed t inner (hsome rfl)] at hnot
  have hlast :=
    (@tempGranted_updateTokenPermissionState T w n env h D permissionAllowThisTime (by decide) (by decide) false t).1
  unfold updatePermission at hok ⊢
  revert hok hfirst hlast
  generalize updateTokenPermissionState T D w env t n false permissionAllowThisTime = res
  obtain ⟨ret, w₁⟩ := res
  cases ret with
  | error => exact fun h _ _ => absurd h (by simp)
  | ok =>
    intro _ hfirst hlast hg
    refine hfirst rfl ?_
    -- the related tokens are only revoked from
    have hfold : NoNewGrants T w₁ ((w₁.getRelatedSandBoxHapList t).foldl
        (fun w id => (updateTokenPermissionState T D w env id n false permissionAllowThisTime).2) w₁) := by
      refine List.foldlRecOn (motive := NoNewGrants T w₁) _ _ (.refl hlast) fun w₂ hw id _ => ?_
      obtain ⟨hl, hg⟩ := @tempGranted_updateTokenPermissionState T w₂ n env hw.1 D permissionAllowThisTime
        (by decide) (by decide) false id
      refine hw.trans ⟨hl, fun x q hxq => ?_⟩
      obtain hbefore | ⟨hfalse, -⟩ := hg x q hxq
      · exact hbefore
      · cases hfalse
    exact hfold.2 t _ hg

/-! ## Revocations that pass -/

/-- The written flag has no other base flag, so the entry accepts the next revocation as well. -/
theorem accepts_revoked (h : acceptsFlag permissionAllowThisTime d) :
    acceptsFlag permissionAllowThisTime (grantedEntry false permissionAllowThisTime d) := by
  unfold grantedEntry
  rw [if_neg (by decide), if_pos h]
  have hflag : ∀ m : Flag, permissionAllowThisTime &&& m = 0 →
      (permissionPreAuthorizedCancelable ||| permissionRestrictedByAdmin) &&& m = 0 →
      (updatedPermState false permissionAllowThisTime d).flag &&& m = 0 := fun m ha hm => by
    have hnot : hasAny (updatedPermState false permissionAllowThisTime d).flag m = false := by
      unfold updatedPermState updateWithNewFlag
      rw [Lib.hasAny_or, Lib.hasAny_and, hm]
      simp [hasAny, ha]
    exact Lib.hasAny_eq_false.1 hnot
  unfold acceptsFlag isRestrictedPermission
  rw [hflag permissionSystemFixed (by decide) (by decide), hflag permissionFixedByAdminPolicy (by decide) (by decide)]
  decide

theorem updateAndNotify_ok (hc : T.transferPermissionToOpcode n = some c)
    (hd : w.entry inner.tokenID c = some d) (hfl : isPermGrantedBySecComp fl = false)
    (hacc : acceptsFlag fl d) : (updateAndNotify T w env inner n g fl).1 = .ok () := by
  have hmem : (w.brief.modifyEntry inner.tokenID c (updatedPermState g fl)).requestedPermData[
      inner.tokenID]?.isSome = true := by
    obtain ⟨l, hl, -⟩ := mem_of_entry hd
    rw [← Std.ExtTreeMap.mem_iff_isSome_getElem?, mem_modifyEntry, Std.ExtTreeMap.mem_iff_isSome_getElem?, hl]
    rfl
  obtain ⟨l, hl⟩ := Option.isSome_iff_exists.1 hmem
  unfold updateAndNotify updatePermissionStatus PermissionDataBrief.updatePermissionStatus
  simp only [hc, hfl, Bool.not_false, if_true, updatePermStateList_of_accepts hd hacc,
    permissionStateValues, hl, Option.map_some]
  generalize changeTypeOf _ _ _ _ = type
  cases isShortGrantPermission n || inner.isRemote || type == .noChange <;> rfl

structure Ready (T : PermissionTable) (t : AccessTokenID) (inner : HapTokenInfoInner) (c : Nat)
    (w : Service) : Prop where
  lasting : w.Lasting T
  live : w.hapTokenInfoMap[t]? = some inner
  accepts : ∃ d, w.entry t c = some d ∧ acceptsFlag permissionAllowThisTime d

theorem Ready.load (h : Ready T t inner c w) (findOk : Bool) (id : AccessTokenID) :
    Ready T t inner c (getHapTokenInfoInner T w findOk id).2 := by
  obtain ⟨d, hd, hacc⟩ := h.accepts
  refine ⟨h.lasting.load findOk id, load_keeps h.live, d, ?_, hacc⟩
  rw [entry_load (mem_of_getElem? h.live)]
  exact hd

theorem Ready.revoke (h : Ready T t inner c w) {x : AccessTokenID} :
    Ready T t inner c (updatePermission T D w env x n false permissionAllowThisTime).2 := by
  refine updatePermission_invariant (Ready T t inner c) (fun _ id hw => hw.load env.findOk id)
    (fun w₁ _ inner' n hw _ _ (_ : True) => ?_) h (updatePermissionMeets_of_forall T D env false _ (fun _ _ => trivial))
  obtain ⟨d, hd, hacc⟩ := hw.accepts
  refine ⟨hw.lasting.updateAndNotify env inner' n false (by decide), ?_, ?_⟩
  · exact (SameTokens.refl.updateAndNotify).1 t inner hw.live
  · obtain hsame | ⟨-, -, hnew⟩ := entry_updateAndNotify_eq env inner' n false permissionAllowThisTime t c
    · exact ⟨d, hsame.trans hd, hacc⟩
    · exact ⟨_, by rw [hnew, hd, Option.map_some], accepts_revoked hacc⟩

/-- **A revocation that the entry accepts succeeds**, in the DLP range of its token. -/
theorem Ready.revoke_ok (hready : Ready T t inner c w) (hrange : InDlpRange D inner n)
    (hc : T.transferPermissionToOpcode n = some c) :
    (updatePermission T D w env t n false permissionAllowThisTime).1 = .ok () := by
  obtain ⟨h, hget, d, hd, hacc⟩ := hready
  have hupdate : (updateAndNotify T w env inner n false permissionAllowThisTime).1 = .ok () :=
    updateAndNotify_ok hc (by rw [h.keyed t inner hget]; exact hd) (by decide) hacc
  have hcheck : updateTokenPermissionStateCheck D env inner n false permissionAllowThisTime = .ok () := by
    unfold updateTokenPermissionStateCheck
    simp only [h.localOnly t inner hget, Bool.and_false, Bool.false_and, Bool.false_eq_true, if_false]
    exact if_pos hrange
  unfold updatePermission
  rw [updateTokenPermissionState_of_live hget hcheck]
  revert hupdate
  generalize updateAndNotify T w env inner n false permissionAllowThisTime = res
  obtain ⟨ret, w₁⟩ := res
  rintro ⟨⟩
  rfl

theorem TempGranted.cStr_eq (h : w.Lasting T) (hg : TempGranted T w t p) : cStr p = p := by
  obtain ⟨c, d, hd, -, rfl⟩ := hg
  obtain ⟨l, hl, hmem⟩ := mem_of_entry hd
  have hlt := (h.entries t l hl d hmem).code
  rw [permCode_of_entry hd] at hlt
  have hcode := transferPermissionToOpcode_transferOpcode hlt
  exact (transferOpcode_of_transfer hcode).symm

end Service

namespace TempPermission

open Service (TempGranted NoNewGrants)

variable {T : PermissionTable} {D : DlpPermissionModeMap} {sur : Surroundings} {w : Service} {t : AccessTokenID}
    {p : String}

theorem getPermissionState_noNewGrants (h : w.Lasting T) (sur : Surroundings) (t : AccessTokenID) :
    NoNewGrants T w (getPermissionState T sur w t).2 := by
  have hload := (NoNewGrants.refl h).load sur.env.findOk t
  unfold getPermissionState
  split
  · rename_i heq
    rwa [heq] at hload
  · rename_i heq
    rw [heq] at hload
    split <;> exact hload

theorem getPermissionState_of_entries (h : w.Lasting T) {l : List BriefPermData}
    (hl : w.requestedPermData[t]? = some l) :
    getPermissionState T sur w t =
    (some (l.map fun d => ⟨T.transferOpcodeToPermission d.permCode, d.status, d.flag⟩), w) := by
  have hmem : t ∈ w.requestedPermData := Lib.mem_iff_exists.2 ⟨_, hl⟩
  obtain ⟨inner, hget⟩ := Lib.mem_iff_exists.1 (h.owned t hmem)
  unfold getPermissionState
  rw [Service.getHapTokenInfoInner_of_live hget]
  simp only [h.localOnly t inner hget, Bool.false_eq_true, if_false, h.keyed t inner hget,
    PermissionDataBrief.permissionStateValues, hl, Option.map_some]

/-- The state of a permission granted for this time is found by its name, with the flag. -/
theorem exists_state (h : w.Lasting T) (hg : TempGranted T w t p) :
    ∃ states st, getPermissionState T sur w t = (some states, w) ∧
      states.find? (·.permissionName == p) = some st ∧ hasAny st.grantFlag permissionAllowThisTime = true := by
  obtain ⟨c, d, hd, hallow, hname⟩ := hg
  obtain ⟨l, hl, hfind⟩ := Option.bind_eq_some_iff.1 hd
  refine ⟨_, ⟨T.transferOpcodeToPermission d.permCode, d.status, d.flag⟩,
    getPermissionState_of_entries h hl, ?_, hallow.2⟩
  have hcode := PermissionDataBrief.permCode_of_entry hd
  have hlt := (h.entries t l hl d (List.mem_of_find?_eq_some hfind)).code
  have hsame : ∀ d' ∈ l, (T.transferOpcodeToPermission d'.permCode == p) = PermissionDataBrief.hasCode c d' :=
      fun d' _ => by
    rw [Bool.eq_iff_iff, beq_iff_eq]
    unfold PermissionDataBrief.hasCode
    rw [beq_iff_eq, ← hname, ← hcode]
    exact ⟨PermissionTable.transferOpcode_inj hlt, fun h => by rw [h]⟩
  rw [List.find?_map]
  have hcongr : l.find? ((fun st : PermissionStatus => st.permissionName == p) ∘
      fun d => ⟨T.transferOpcodeToPermission d.permCode, d.status, d.flag⟩) = l.find? (PermissionDataBrief.hasCode c) :=
    List.find?_congr hsame
  rw [hcongr, hfind]
  rfl

theorem updateRevoked_noNewGrants (h : w.Lasting T) (D : DlpPermissionModeMap) (sur : Surroundings) (t : AccessTokenID)
    (p : String) : NoNewGrants T w (updateRevoked T D sur w t p).2 := by
  unfold updateRevoked
  split
  · exact .refl h
  · exact Service.noNewGrants_revoke h

theorem not_tempGranted_of_updateRevoked (h : w.Lasting T) (hok : (updateRevoked T D sur w t p).1 = .ok ()) :
    ¬TempGranted T (updateRevoked T D sur w t p).2 t (cStr p) := by
  unfold updateRevoked at hok ⊢
  split at hok
  · cases hok
  · rename_i hpass
    rw [if_neg hpass]
    exact Service.not_tempGranted_of_updatePermission h hok

end TempPermission
end AccessToken
