import AccessToken.Service.EntrySteps
/-!
# What happens underneath a user policy

A user policy sets one bit of the flag of a permission.  Grants and revokes read the other bits only, so they act under
the policy as they would without it.  The merge of an update compares whole flags: under a policy it never takes the
newly initialised state, and the two runs part where the one without a policy does.
-/
namespace AccessToken.Service

open Lib (Reaches Always AllMeet hasAny)
open PermissionDataBrief Std.ExtTreeMap
open UserPolicyManager

variable {T : PermissionTable} {D : DlpPermissionModeMap} {w : Service} {t caller : AccessTokenID} {c : Nat}
    {s : Service × Service} {d o n : BriefPermData} {inner : HapTokenInfoInner} {g r : Bool} {fl : Flag} {env : Env}

/-! ## Two entries -/

def underFlag (fl : Flag) : Flag := getFlagWithoutSpecifiedElement fl permissionRestrictedByAdmin

/-- Two entries with the same status, and the same flag but for the bit of the user policy. -/
structure SameUnderneath (a b : BriefPermData) : Prop where
  status : a.status = b.status
  flag : underFlag a.flag = underFlag b.flag

instance (a b : BriefPermData) : Decidable (SameUnderneath a b) :=
  decidable_of_iff (a.status = b.status ∧ underFlag a.flag = underFlag b.flag)
    ⟨fun h => ⟨h.1, h.2⟩, fun h => ⟨h.status, h.flag⟩⟩

namespace SameUnderneath

variable {a b x : BriefPermData} {fl m : Flag} {g : Bool}

section

variable (h : SameUnderneath a b)
include h

theorem symm : SameUnderneath b a := ⟨h.status.symm, h.flag.symm⟩

theorem trans (h' : SameUnderneath b x) : SameUnderneath a x :=
  ⟨h.status.trans h'.status, h.flag.trans h'.flag⟩

theorem hasAny_eq (hm : m &&& permissionRestrictedByAdmin = 0) :
    hasAny a.flag m = hasAny b.flag m := Lib.hasAny_eq_of_clear_eq h.flag hm

theorem and_eq (hm : m &&& permissionRestrictedByAdmin = 0) :
    a.flag &&& m = b.flag &&& m := Lib.and_eq_of_clear_eq h.flag hm

theorem acceptsFlag_iff : acceptsFlag fl a ↔ acceptsFlag fl b := by
  unfold acceptsFlag isRestrictedPermission
  rw [h.and_eq (by decide), h.and_eq (by decide)]

theorem updated : SameUnderneath (updatedPermState g fl a) (updatedPermState g fl b) := by
  refine ⟨?_, ?_⟩
  · simp only [updatedPermState, h.status]
  · refine Lib.clear_eq_iff.2 fun i hi => ?_
    have hbit := Lib.clear_eq_iff.1 h.flag i hi
    simp only [updatedPermState, updateWithNewFlag, BitVec.getLsbD_or, BitVec.getLsbD_and, hbit]

theorem component : SameUnderneath (withComponentFlag g a) (withComponentFlag g b) := by
  refine ⟨h.status, Lib.clear_eq_iff.2 fun i hi => ?_⟩
  have hbit := Lib.clear_eq_iff.1 h.flag i hi
  cases g <;> simp [withComponentFlag, hbit]

/-- **A grant or revoke acts on both alike.** -/
theorem granted : SameUnderneath (grantedEntry g fl a) (grantedEntry g fl b) := by
  unfold grantedEntry isPermOperatedByUser isPermOperatedBySystem
  simp only [h.acceptsFlag_iff, h.hasAny_eq (m := permissionFixedByAdminPolicy) (by decide),
    h.hasAny_eq (m := permissionUserFixed) (by decide), h.hasAny_eq (m := permissionUserSet) (by decide),
    h.hasAny_eq (m := permissionSystemFixed) (by decide),
    h.hasAny_eq (m := permissionPreAuthorizedCancelable) (by decide)]
  split_ifs
  · exact h
  · exact h
  · exact h.component
  · exact h.component
  · exact h.updated
  · exact h

end

end SameUnderneath

theorem isRestricted_grantedEntry (h : isRestricted d.flag = true) :
    isRestricted (grantedEntry g fl d).flag = true := by
  unfold grantedEntry
  split_ifs
  · exact h
  · exact h
  · rw [isRestricted_withComponentFlag, h]
  · rw [isRestricted_withComponentFlag, h]
  · have hmask : (permissionPreAuthorizedCancelable ||| permissionRestrictedByAdmin) &&& permissionRestrictedByAdmin =
        permissionRestrictedByAdmin := by decide
    have hkept : isRestricted (d.flag &&& (permissionPreAuthorizedCancelable ||| permissionRestrictedByAdmin)) =
        true := by
      rw [isRestricted, Lib.hasAny_and, hmask]
      exact h
    simp only [updatedPermState, updateWithNewFlag, isRestricted_or, hkept, Bool.or_true]
  · exact h

/-- **Under a policy the merge never takes the newly initialised state**: no whole flag it compares has the bit. -/
theorem keepsInitializedState_of_restricted (ho : isRestricted o.flag = true)
    (hn : isRestricted n.flag = true) : keepsInitializedState o n = false := by
  have hne : ∀ {f g : Flag}, isRestricted f = true → isRestricted g = false → (f == g) = false := by
    intro f g hf hg
    rw [beq_eq_false_iff_ne]
    rintro rfl
    rw [hf] at hg
    cases hg
  unfold keepsInitializedState
  rw [hne hn (by decide), hne hn (by decide), hne ho (by decide), hne ho (by decide), hne ho (by decide)]
  simp

theorem sameUnderneath_updatePermStatus (h : keepsInitializedState o n = false) :
    SameUnderneath (updatePermStatus o n) o := by
  unfold updatePermStatus
  rw [h, if_neg Bool.false_ne_true]
  refine ⟨rfl, Lib.clear_eq_iff.2 fun i hi => ?_⟩
  simp only [getFlagWithoutSpecifiedElement, BitVec.getLsbD_or, BitVec.getLsbD_and, BitVec.getLsbD_not, hi,
    Bool.and_false, Bool.or_false, Bool.not_false, Bool.and_true]
  by_cases hw : i < 32
  · simp [hw]
  · rw [BitVec.getLsbD_of_ge _ _ (Nat.le_of_not_lt hw), Bool.false_and]

/-- **The merges of two entries that agree underneath agree** exactly where the one without the bit takes the state over
by provision, keeps the old state or is initialised to it. -/
theorem sameUnderneath_mergedEntry_iff {a b x y : BriefPermData} (h : SameUnderneath a b) (hnew : SameUnderneath x y)
    (ha : isRestricted a.flag = true) (hx : isRestricted x.flag = true) (need : Bool) :
    SameUnderneath (mergedEntry need a x) (mergedEntry need b y) ↔
      ((need && !hasAny b.flag permissionFixedByAdminPolicy) = true ∨ keepsInitializedState b y = false ∨
        SameUnderneath y b) := by
  unfold mergedEntry
  rw [h.hasAny_eq (by decide)]
  cases need && !hasAny b.flag permissionFixedByAdminPolicy with
  | true => simp [hnew]
  | false =>
    have hleft := sameUnderneath_updatePermStatus (keepsInitializedState_of_restricted ha hx)
    simp only [Bool.false_eq_true, if_false, false_or]
    cases hkeeps : keepsInitializedState b y with
    | false => simp [hleft.trans (h.trans (sameUnderneath_updatePermStatus hkeeps).symm)]
    | true =>
      have hright : updatePermStatus b y = y := by
        unfold updatePermStatus
        rw [hkeeps, if_pos rfl]
      rw [hright]
      simp only [Bool.true_eq_false, false_or]
      constructor
      · intro hsame
        exact hsame.symm.trans (hleft.trans h)
      · intro hsame
        exact (hleft.trans h).trans hsame.symm

/-! ## Setting and clearing the policy -/

def HoldsUnderneath (t : AccessTokenID) (c : Nat) (inner : HapTokenInfoInner) (d₀ : BriefPermData)
    (w : Service) : Prop :=
  w.hapTokenInfoMap[t]? = some inner ∧ ∃ d, w.entry t c = some d ∧ SameUnderneath d d₀

theorem sameUnderneath_restrict : SameUnderneath (restrictEntry r d) d := by
  refine ⟨rfl, ?_⟩
  cases r with
  | true =>
    refine Lib.clear_eq_iff.2 fun i hi => ?_
    simp [restrictEntry, maskedFlag, hi]
  | false =>
    show (d.flag &&& ~~~permissionRestrictedByAdmin) &&& ~~~permissionRestrictedByAdmin = _
    rw [BitVec.and_assoc, BitVec.and_self]
    rfl

/-- **A policy operation changes nothing underneath.** -/
theorem keptByParts_holdsUnderneath (T : PermissionTable) (t : AccessTokenID) (c : Nat) (inner : HapTokenInfoInner)
    (d₀ : BriefPermData) : KeptByParts T (HoldsUnderneath t c inner d₀) where
  load w findOk id hw := by
    obtain ⟨hget, d, hd, hsame⟩ := hw
    exact ⟨load_keeps hget, d, (entry_load (mem_of_getElem? hget) c).trans hd, hsame⟩
  flag w x c' r hw := by
    obtain ⟨hget, d, hd, hsame⟩ := hw
    rcases updatePermissionFlag_cases x c' permissionRestrictedByAdmin r with
      ⟨-, e, heq⟩ | ⟨d', -, heq⟩
    · rw [heq]
      exact ⟨hget, d, hd, hsame⟩
    rw [heq]
    refine ⟨hget, ?_⟩
    have hentry : (w.brief.modifyEntry x c' (restrictEntry r)).entry t c = _ := entry_restrict _
    rw [hd] at hentry
    split at hentry
    · exact ⟨_, hentry, sameUnderneath_restrict.trans hsame⟩
    · exact ⟨d, hentry, hsame⟩
  row _ _ _ _ hw _ _ := hw
  kernel _ _ hw := hw
  policy _ _ hw := hw

def Restricts (t : AccessTokenID) (c : Nat) (w : Service) : Prop :=
  ∃ d, w.entry t c = some d ∧ isRestricted d.flag = true

theorem restricts_of_restrict {x : AccessTokenID} {c' : Nat} {b : PermissionDataBrief}
    (hd : b.entry t c = some d) (hr : x = t ∧ c' = c → r = true)
    (hd' : ¬(x = t ∧ c' = c) → isRestricted d.flag = true) :
    ∃ d', (b.modifyEntry x c' (restrictEntry r)).entry t c = some d' ∧ isRestricted d'.flag = true := by
  rw [entry_restrict]
  split
  · rename_i hhere
    refine ⟨_, by rw [hd]; rfl, ?_⟩
    rw [isRestricted_restrictEntry, hr hhere]
  · rename_i helse
    exact ⟨d, hd, hd' helse⟩

/-- The loop over the applications sets the bit where it visits the entry of a token the policy restricts. -/
theorem Lasting.refreshUserPolicyFlag_restricts (h : w.Lasting T) (env : Env) {changes : List UserPolicyChange}
    (hget : w.hapTokenInfoMap[t]? = some inner) (hd : w.entry t c = some d)
    (hyes : isPermissionRestricted w.policy.records t inner.userID c = true)
    {ch : UserPolicyChange} (hch : ch ∈ changes) (hcode : ch.permCode = c)
    (huser : inner.userID ∈ ch.changedUserList)
    (hok : (refreshUserPolicyFlag T w env changes).1 = .ok ()) :
    (refreshUserPolicyFlag T w env changes).2.1.toolTokenInfoMap = w.toolTokenInfoMap ∧
      Restricts t c (refreshUserPolicyFlag T w env changes).2.1 := by
  let Inv : Refreshing → Prop := fun st => st.1.policy = w.policy ∧ st.1.toolTokenInfoMap = w.toolTokenInfoMap ∧
    ∃ d, st.1.entry t c = some d
  let Done : AccessTokenID × Nat → Refreshing → Prop := fun k st => k = (t, c) → Restricts t c st.1
  have hloop := Lib.forUntil_of_ok Inv Done (fun v : RefreshVisit => (v.tokenId, v.policy.permCode))
    (refreshVisits (w.getTokenIDByUserID env.order) changes) (w, []) ?_ ⟨rfl, rfl, d, hd⟩ hok
  · obtain ⟨⟨-, htools, -⟩, -, hall⟩ := hloop
    refine ⟨htools, hall ⟨ch, inner.userID, t⟩ ?_ (by rw [hcode])⟩
    exact mem_refreshVisits.2 ⟨hch, huser, (h.toTokensSound.mem_getTokenIDByUserID env).2 ⟨inner, hget, rfl⟩⟩
  rintro ⟨w₁, snapshots⟩ v hv ⟨hpolicy, htools, d₁, hd₁⟩ hok₁
  obtain ⟨info, hinfo, hvuser⟩ := (h.toTokensSound.mem_getTokenIDByUserID env).1 (mem_refreshVisits.1 hv).2.2
  -- a visit of the entry reads the policy of the token's own user
  have hr : v.tokenId = t ∧ v.policy.permCode = c →
      isPermissionRestricted w₁.policy.records v.tokenId v.userId v.policy.permCode = true := by
    rintro ⟨htoken, hperm⟩
    rw [htoken] at hinfo
    obtain rfl : inner = info := Option.mem_unique hget hinfo
    rw [hpolicy, htoken, hperm, ← hvuser]
    exact hyes
  rcases refreshHapVisit_cases T env.failingRows snapshots rfl with ⟨-, heq⟩ | ⟨-, hnone, heq⟩ |
    ⟨d₂, hd₂, ⟨-, heq⟩ | ⟨-, db, -, heq⟩⟩
  · rw [heq] at hok₁
    cases hok₁
  · rw [heq]
    refine ⟨⟨hpolicy, htools, d₁, hd₁⟩, fun hk => ?_, fun k hk => hk⟩
    obtain ⟨htoken, hperm⟩ := Prod.mk.inj hk
    rw [htoken, hperm, hd₁] at hnone
    cases hnone
  · rw [heq] at hok₁
    cases hok₁
  · rw [heq]
    refine ⟨⟨hpolicy, htools, ?_⟩, fun hk => ?_, fun k hk hkey => ?_⟩
    · show ∃ d, (w₁.brief.modifyEntry _ _ (restrictEntry _)).entry t c = some d
      rw [entry_restrict, hd₁]
      split <;> exact ⟨_, rfl⟩
    · exact restricts_of_restrict hd₁ hr fun hno => absurd (Prod.mk.inj hk) hno
    · obtain ⟨d₃, hd₃, hset⟩ := hk hkey
      exact restricts_of_restrict hd₃ hr fun _ => hset

theorem entry_refreshToolVisit_of_ne {st : Refreshing} {v : RefreshVisit} (hne : v.tokenId ≠ t) :
    (refreshToolVisit T st v).2.1.entry t c = st.1.entry t c := by
  obtain ⟨w, snapshots⟩ := st
  unfold refreshToolVisit
  dsimp only
  generalize isPermissionRestricted w.policy.records v.tokenId v.userId v.policy.permCode = r
  have hflag : (w.brief.updatePermissionFlag v.tokenId v.policy.permCode permissionRestrictedByAdmin r).2.entry t c =
      w.entry t c := by
    rcases updatePermissionFlag_cases v.tokenId v.policy.permCode
      permissionRestrictedByAdmin r with ⟨-, e, heq⟩ | ⟨d', -, heq⟩
    · rw [heq]
    · rw [heq]
      show (w.brief.modifyEntry v.tokenId v.policy.permCode (restrictEntry r)).entry t c = _
      rw [entry_restrict, if_neg (fun h => hne h.1)]
  split
  · rfl
  · rfl
  split <;> rename_i heq <;> rw [heq] at hflag
  · exact hflag
  · split
    · unfold setPermToKernel
      split <;> exact hflag
    · exact hflag

theorem Lasting.refreshToolUserPolicyFlag_restricts {w₁ : Service} (h : w.Lasting T) (env : Env)
    (changes : List UserPolicyChange) (ht : t ∈ w.hapTokenInfoMap) (htools : w₁.toolTokenInfoMap = w.toolTokenInfoMap)
    (hset : Restricts t c w₁) : Restricts t c (refreshToolUserPolicyFlag T w₁ env changes).2.1 := by
  let Kept : Refreshing → Prop := fun st => Restricts t c st.1
  have hvisit : ∀ (st : Refreshing) v, v ∈ refreshVisits (w₁.getToolTokenIDByUserID env.order) changes → Kept st →
      Kept (refreshToolVisit T st v).2 := by
    intro st v hv hst
    have hne : v.tokenId ≠ t := by
      rintro rfl
      have hmem := (mem_refreshVisits.1 hv).2.2
      unfold getToolTokenIDByUserID at hmem
      rw [(env.order_perm _).mem_iff, List.mem_map] at hmem
      obtain ⟨⟨x, u⟩, hx, hxt⟩ := hmem
      have hx := mem_toList_iff_getElem?_eq_some.1 (List.mem_filter.1 hx).1
      refine h.ids.tools v.tokenId ?_ (h.hapId v.tokenId ht)
      rw [← htools, ← hxt, mem_iff_isSome_getElem?, hx]
      rfl
    obtain ⟨d, hd, hbit⟩ := hst
    exact ⟨d, (entry_refreshToolVisit_of_ne hne).trans hd, hbit⟩
  exact (Lib.forUntil_invariant _ (w₁, []) hvisit hset : Kept (refreshToolUserPolicyFlag T w₁ env changes).2)

theorem keptByRefresh_policy (T : PermissionTable) (p : Store) : KeptByRefresh T (fun w => w.policy = p) where
  flag _ _ _ _ hw := hw
  row _ _ _ _ hw _ _ := hw
  kernel _ _ hw := hw

/-- **A policy that is set restricts the entry it is about.** -/
theorem Lasting.setUserPolicy_restricts (h : w.Lasting T) {list : List UserPermissionPolicy}
    (hget : w.hapTokenInfoMap[t]? = some inner) (hd : w.entry t c = some d)
    (hno : isPermissionRestricted w.policy.records t inner.userID c = false)
    (hok : (setUserPolicy T w env list caller).1 = .ok ())
    (hyes : isPermissionRestricted (setUserPolicy T w env list caller).2.policy.records t
      inner.userID c = true) : Restricts t c (setUserPolicy T w env list caller).2 := by
  unfold setUserPolicy at hok hyes ⊢
  cases hcaller : env.caller with
  | error => rw [hcaller] at hok; cases hok
  | ok =>
  rw [hcaller] at hok hyes
  dsimp only at hok hyes ⊢
  split at hok
  · cases hok
  rename_i hsize
  rw [if_neg hsize] at hyes ⊢
  rcases setUserPolicy_cases T w.policy env.policyOk list caller with ⟨e, heq⟩ | ⟨changes, policy, heq, hcover⟩
  · rw [heq] at hok
    cases hok
  rw [heq] at hok hyes ⊢
  unfold commitUserPolicy at hok hyes ⊢
  dsimp only at hok hyes ⊢
  have hw₀ : ({ w with policy := policy } : Service).Lasting T := (keptByParts_lasting T).policy w policy h
  have hpolicy :=
    (keptByRefresh_policy T policy).refreshUserPolicyPermState (w := { w with policy := policy }) rfl env changes
  rw [hpolicy] at hyes
  obtain ⟨ch, hch, hcode, huser⟩ := hcover.restricts t inner.userID c (by rw [hyes, hno]; decide)
  have hnonempty : changes.isEmpty = false := by
    cases changes with
    | nil => cases hch
    | cons => rfl
  unfold refreshUserPolicyPermState at hok ⊢
  rw [hnonempty, if_neg Bool.false_ne_true] at hok ⊢
  have hhap := hw₀.refreshUserPolicyFlag_restricts env hget hd hyes hch hcode huser
  generalize refreshUserPolicyFlag T { w with policy := policy } env changes = res at hhap hok ⊢
  obtain ⟨ret, w₁, snapshots⟩ := res
  cases ret with
  | error => cases hok
  | ok _ =>
    obtain ⟨htools, hset⟩ := hhap rfl
    have htool := hw₀.refreshToolUserPolicyFlag_restricts env changes (mem_of_getElem? hget) htools hset
    dsimp only at hok ⊢
    generalize refreshToolUserPolicyFlag T w₁ env changes = res at htool hok ⊢
    obtain ⟨ret, w₂, toolSnapshots⟩ := res
    cases ret with
    | error => cases hok
    | ok => exact htool

/-! ## Two runs -/

/-- Updates of `t` that keep the permission, and the grants and revokes of it. -/
def OnPermission (T : PermissionTable) (t : AccessTokenID) (c : Nat) : ServiceOp → Prop
  | .updateHapToken _ id _ states _ => id = t ∧ ((freshList T states).find? (hasCode c)).isSome = true
  | .grantPermission _ id n _ _ => id = t ∧ T.transferPermissionToOpcode n = some c
  | .revokePermission _ id n _ _ => id = t ∧ T.transferPermissionToOpcode n = some c
  | _ => False

/-- **The condition on a step of the run without a policy**: an update that gets past its checks takes the permission
over by provision, keeps its old state, or initialises it to the state it has. -/
def KeepsUnderneath (T : PermissionTable) (t : AccessTokenID) (c : Nat) (w : Service) : ServiceOp → Prop
  | .updateHapToken env _ info states policy =>
    ∀ inner ∈ w.hapTokenInfoMap[t]?, ∀ d ∈ w.entry t c, ∀ n ∈ (freshList T states).find? (hasCode c),
      updateReaches env info = true →
        (needUpdatePermByProvision info policy (updatedAppAttr info inner.tokenAttr) &&
            !hasAny d.flag permissionFixedByAdminPolicy) = true ∨
          keepsInitializedState d { n with flag := underFlag n.flag } = false ∨ SameUnderneath n d
  | _ => True

instance (T : PermissionTable) (t : AccessTokenID) (c : Nat) (w : Service) :
    ∀ op, Decidable (KeepsUnderneath T t c w op) := fun op => by
  apply op.casesOn (motive := (Decidable <| KeepsUnderneath T t c w ·)) <;> intros <;> unfold KeepsUnderneath <;>
    infer_instance

def AgreeUnderneath (t : AccessTokenID) (c : Nat) (s : Service × Service) : Prop :=
  ∃ a b, s.1.entry t c = some a ∧ s.2.entry t c = some b ∧ SameUnderneath a b

/-- The first service has a policy that restricts the permission of the token, the second has none. -/
structure UnderPolicy (T : PermissionTable) (t : AccessTokenID) (c : Nat) (s : Service × Service) : Prop where
  left : s.1.Lasting T
  right : s.2.Lasting T
  policies : ∃ inner, s.1.hapTokenInfoMap[t]? = some inner ∧ s.2.hapTokenInfoMap[t]? = some inner ∧
    isPermissionRestricted s.1.policy.records t inner.userID c = true ∧
    isPermissionRestricted s.2.policy.records t inner.userID c = false
  restricted : Restricts t c s.1

/-- **A grant or revoke** leaves the two services in step. -/
theorem UnderPolicy.changePermission (h : UnderPolicy T t c s) (hagree : AgreeUnderneath t c s)
    (env : Env) {n : String} (g : Bool) (fl : Flag) (updateFlag : Int32)
    (hc : T.transferPermissionToOpcode n = some c) :
    UnderPolicy T t c
    ((changePermission T D s.1 env t n g fl updateFlag).2, (changePermission T D s.2 env t n g fl updateFlag).2) ∧
      AgreeUnderneath t c
        ((changePermission T D s.1 env t n g fl updateFlag).2,
          (changePermission T D s.2 env t n g fl updateFlag).2) := by
  obtain ⟨a, b, ha, hb, hsame⟩ := hagree
  obtain ⟨inner, hget₁, hget₂, hyes, hno⟩ := h.policies
  obtain ⟨reaches, hentry⟩ := exists_changePermission D env inner t g fl updateFlag hc
  have ha' := hentry s.1 a h.left hget₁ ha
  have hb' := hentry s.2 b h.right hget₂ hb
  have hsame₁ := sameTokens_changePermission T D s.1 env t n g fl updateFlag
  have hsame₂ := sameTokens_changePermission T D s.2 env t n g fl updateFlag
  have hlasting := fun (w : Service) (hw : w.Lasting T) =>
    (keptByOps_lasting D).changePermission hw env t n g fl updateFlag
  have hbit : isRestricted a.flag = true := by
    obtain ⟨a₀, ha₀, hbit⟩ := h.restricted
    obtain rfl : a = a₀ := Option.mem_unique ha ha₀
    exact hbit
  refine ⟨⟨hlasting _ h.left, hlasting _ h.right, ?_, ?_⟩, _, _, ha', hb', ?_⟩
  · refine ⟨inner, hsame₁.1 t inner hget₁, hsame₂.1 t inner hget₂, ?_, ?_⟩
    · rw [hsame₁.2]; exact hyes
    · rw [hsame₂.2]; exact hno
  · refine ⟨_, ha', ?_⟩
    cases reaches with
    | false => exact hbit
    | true => exact isRestricted_grantedEntry hbit
  · cases reaches with
    | false => exact hsame
    | true => exact hsame.granted

theorem sameUnderneath_withPolicyFlag (records : UserPolicyRecords) (u : Int32) (n : BriefPermData) :
    SameUnderneath (withPolicyFlag records t u n) n := by
  unfold withPolicyFlag policyFlag
  cases isPermissionRestricted records t u n.permCode with
  | true => exact sameUnderneath_restrict
  | false => exact sameUnderneath_restrict

/-- **An update** leaves the first service under its policy, and the two agree exactly where the second meets the
condition. -/
theorem UnderPolicy.updateHapToken (h : UnderPolicy T t c s) (hagree : AgreeUnderneath t c s)
    {info : UpdateHapInfoParams} {states : List PermissionStatus} {policy : HapPolicy}
    (hkeep : ((freshList T states).find? (hasCode c)).isSome = true) :
    UnderPolicy T t c
    ((updateHapToken T s.1 env t info states policy).2, (updateHapToken T s.2 env t info states policy).2) ∧
      (AgreeUnderneath t c
          ((updateHapToken T s.1 env t info states policy).2, (updateHapToken T s.2 env t info states policy).2) ↔
        KeepsUnderneath T t c s.2 (.updateHapToken env t info states policy)) := by
  obtain ⟨a, b, ha, hb, hsame⟩ := id hagree
  obtain ⟨inner, hget₁, hget₂, hyes, hno⟩ := h.policies
  obtain ⟨n, hn⟩ := Option.isSome_iff_exists.1 hkeep
  have hcode : n.permCode = c := by simpa [hasCode] using List.find?_some hn
  have hbit : isRestricted a.flag = true := by
    obtain ⟨a₀, ha₀, hbit⟩ := h.restricted
    obtain rfl : a = a₀ := Option.mem_unique ha ha₀
    exact hbit
  have hlasting := fun (w : Service) (hw : w.Lasting T) => hw.updateHapToken env t info states policy
  have hleft := hlasting s.1 h.left
  have hright := hlasting s.2 h.right
  have hcond : KeepsUnderneath T t c s.2 (.updateHapToken env t info states policy) ↔ (updateReaches env info = true →
        (needUpdatePermByProvision info policy (updatedAppAttr info inner.tokenAttr) &&
            !hasAny b.flag permissionFixedByAdminPolicy) = true ∨
          keepsInitializedState b { n with flag := underFlag n.flag } = false ∨ SameUnderneath n b) := by
    simp only [KeepsUnderneath, hget₂, hb, hn, Option.mem_def, Option.some.injEq, forall_eq']
  rw [hcond]
  rcases h.left.updateHapToken_of_live hget₁ env info states policy with ⟨hreach, heq₁⟩ | ⟨hreach, db₁, k₁, heq₁⟩ <;>
    rcases h.right.updateHapToken_of_live hget₂ env info states policy with ⟨hreach', heq₂⟩ | ⟨hreach', db₂, k₂, heq₂⟩
  · rw [heq₁, heq₂, hreach]
    exact ⟨h, iff_of_true hagree (fun hno => absurd hno Bool.false_ne_true)⟩
  · rw [hreach] at hreach'; cases hreach'
  · rw [hreach] at hreach'; cases hreach'
  · rw [heq₁] at hleft ⊢
    rw [heq₂] at hright ⊢
    have ha' := h.left.entry_updatedFrom hget₁ info policy hn ha
    have hb' := h.right.entry_updatedFrom hget₂ info policy hn hb
    have hx : isRestricted (withPolicyFlag s.1.policy.records t inner.userID n).flag = true := by
      rw [withPolicyFlag, isRestricted_policyFlag, hcode]
      exact hyes
    have hy : withPolicyFlag s.2.policy.records t inner.userID n = { n with flag := underFlag n.flag } := by
      rw [withPolicyFlag, policyFlag, hcode, hno, if_neg Bool.false_ne_true]
      rfl
    have hsame_xn := sameUnderneath_withPolicyFlag (t := t) s.1.policy.records inner.userID n
    have hsame_yn := sameUnderneath_withPolicyFlag (t := t) s.2.policy.records inner.userID n
    have hmerge := sameUnderneath_mergedEntry_iff hsame (hsame_xn.trans hsame_yn.symm) hbit hx
      (needUpdatePermByProvision info policy (updatedAppAttr info inner.tokenAttr))
    have hmap : ∀ w : Service, w.hapTokenInfoMap[t]? = some inner →
        (updatedFrom T w t inner info states policy).hapTokenInfoMap[t]? = some (updatedInner inner info) :=
      fun w _ => getElem?_insert_self
    refine ⟨⟨hleft, hright, ⟨updatedInner inner info, hmap _ hget₁, hmap _ hget₂, hyes, hno⟩, _, ha', ?_⟩, ?_⟩
    · unfold mergedEntry
      split
      · exact hx
      · rw [isRestricted_updatePermStatus]
        exact hx
    · rw [hy] at hmerge hb' hsame_yn
      constructor
      · rintro ⟨a', b', ha'', hb'', hagree'⟩ _
        obtain rfl : _ = a' := Option.mem_unique ha' ha''
        obtain rfl : _ = b' := Option.mem_unique hb' hb''
        exact (hmerge.1 hagree').imp_right (Or.imp_right hsame_yn.symm.trans)
      · intro hkeeps
        exact ⟨_, _, ha', hb', hmerge.2 ((hkeeps hreach).imp_right (Or.imp_right hsame_yn.trans))⟩

theorem UnderPolicy.step (h : UnderPolicy T t c s) (hagree : AgreeUnderneath t c s) (op : ServiceOp)
    (hop : OnPermission T t c op) :
    UnderPolicy T t c (Lib.both (serviceStep T D) s op) ∧
      (AgreeUnderneath t c (Lib.both (serviceStep T D) s op) ↔ KeepsUnderneath T t c s.2 op) := by
  cases op with
  | updateHapToken =>
    obtain ⟨rfl, hkeep⟩ := hop
    exact h.updateHapToken hagree hkeep
  | grantPermission env id n fl updateFlag =>
    obtain ⟨rfl, hc⟩ := hop
    obtain ⟨hunder, hagree'⟩ := h.changePermission hagree env true fl updateFlag hc
    exact ⟨hunder, iff_of_true hagree' trivial⟩
  | revokePermission env id n fl updateFlag =>
    obtain ⟨rfl, hc⟩ := hop
    obtain ⟨hunder, hagree'⟩ := h.changePermission hagree env false fl updateFlag hc
    exact ⟨hunder, iff_of_true hagree' trivial⟩
  | _ => exact hop.elim

theorem UnderPolicy.agree_cleared (h : UnderPolicy T t c s) {perms : List String} :
    AgreeUnderneath t c ((clearUserPolicy T s.1 env perms caller).2, s.2) ↔ AgreeUnderneath t c s := by
  obtain ⟨inner, hget, -⟩ := h.policies
  obtain ⟨a, ha, -⟩ := h.restricted
  have hholds : HoldsUnderneath t c inner a s.1 := ⟨hget, a, ha, rfl, rfl⟩
  obtain ⟨-, a', ha', hsame⟩ := (keptByParts_holdsUnderneath T t c inner a).clearUserPolicy hholds
  constructor
  · rintro ⟨x, b, hx, hb, hxb⟩
    obtain rfl : a' = x := Option.mem_unique ha' hx
    exact ⟨a, b, ha, hb, hsame.symm.trans hxb⟩
  · rintro ⟨x, b, hx, hb, hxb⟩
    obtain rfl : a = x := Option.mem_unique ha hx
    exact ⟨a', b, ha', hb, hsame.trans hxb⟩

/-- **A user policy is transparent exactly as long as no update re-initialises the permission.**  The run with the
policy, which is cleared at the end, and the run without it agree on the permission after every prefix of the
operations, but for the bit of the policy, if and only if every update of the run without a policy meets the
condition. -/
theorem policy_transparent_iff (T : PermissionTable) (D : DlpPermissionModeMap) {w : Service}
    {t : AccessTokenID} {c : Nat}
    {d : BriefPermData} {inner : HapTokenInfoInner} (hrun : Reaches (serviceStep T D) Always empty w)
    (hget : w.hapTokenInfoMap[t]? = some inner) (hd : w.entry t c = some d)
    (hno : isPermissionRestricted w.policy.records t inner.userID c = false) (env : Env)
    (list : List UserPermissionPolicy) (caller : AccessTokenID) (hok : (setUserPolicy T w env list caller).1 = .ok ())
    (hyes : isPermissionRestricted (setUserPolicy T w env list caller).2.policy.records t inner.userID c = true)
    (ops : List ServiceOp) (hops : ∀ op ∈ ops, OnPermission T t c op) (env' : Env) (perms : List String)
    (caller' : AccessTokenID) :
    (∀ p, p <+: ops → AgreeUnderneath t c
        ((clearUserPolicy T (p.foldl (serviceStep T D) (setUserPolicy T w env list caller).2) env' perms caller').2,
          p.foldl (serviceStep T D) w)) ↔
      AllMeet (serviceStep T D) (KeepsUnderneath T t c) w ops := by
  have hw := lasting_of_reaches hrun
  have hset := hw.setUserPolicy_restricts hget hd hno hok hyes
  have hholds : HoldsUnderneath t c inner d w := ⟨hget, d, hd, rfl, rfl⟩
  obtain ⟨hget', a, ha, hsame⟩ := (keptByParts_holdsUnderneath T t c inner d).setUserPolicy hholds
  have hstart : UnderPolicy T t c ((setUserPolicy T w env list caller).2, w) :=
    ⟨(keptByParts_lasting T).setUserPolicy hw, hw, ⟨inner, hget', hget, hyes, hno⟩, hset⟩
  let cleared : Service × Service → Prop := fun s =>
    AgreeUnderneath t c ((clearUserPolicy T s.1 env' perms caller').2, s.2)
  have hJ : ∀ s op, UnderPolicy T t c s → cleared s → OnPermission T t c op →
      UnderPolicy T t c (Lib.both (serviceStep T D) s op) := fun s op hj hg hop =>
    (hj.step (hj.agree_cleared.1 hg) op hop).1
  have hG : ∀ s op, UnderPolicy T t c s → cleared s → OnPermission T t c op →
      (cleared (Lib.both (serviceStep T D) s op) ↔ KeepsUnderneath T t c s.2 op) := by
    intro s op hj hg hop
    obtain ⟨hj', hstep⟩ := hj.step (D := D) (hj.agree_cleared.1 hg) op hop
    exact hj'.agree_cleared.trans hstep
  have hprefix := Lib.forall_prefix_iff_allMeet hJ hG ops ((setUserPolicy T w env list caller).2, w) hstart
    (hstart.agree_cleared.2 ⟨a, d, ha, hd, hsame⟩) hops
  rw [Lib.allMeet_both] at hprefix
  rw [← hprefix]
  refine forall_congr' fun p => imp_congr_right fun _ => ?_
  rw [Lib.foldl_both]

def cameraInstalled : Service :=
  serviceStep sampleTable ∅ empty (.createHapTokenInfo .ok sampleParams asksCamera)

def preAuthorizingUpdate : ServiceOp :=
  .updateHapToken .ok sampleHap ⟨"id", 20, false, false, "release", false⟩
    [⟨camera, permissionGranted, permissionPreAuthorizedCancelable⟩] samplePolicy

theorem policy_transparent_after_user_choice :
    AgreeUnderneath sampleHap 0
      ((clearUserPolicy sampleTable
          ([ServiceOp.grantPermission .ok sampleHap camera permissionUserFixed 0,
            preAuthorizingUpdate].foldl (serviceStep sampleTable ∅)
              (setUserPolicy sampleTable cameraInstalled .ok (cameraPolicy true) 7).2) .ok [camera] 7).2,
        [ServiceOp.grantPermission .ok sampleHap camera permissionUserFixed 0,
          preAuthorizingUpdate].foldl (serviceStep sampleTable ∅) cameraInstalled) := by
  have hentry : cameraInstalled.entry sampleHap 0 =
      some ⟨permissionDenied, 0, 0, permissionDefaultFlag⟩ := by decide +kernel
  have hops : ∀ op ∈ [ServiceOp.grantPermission .ok sampleHap camera
      permissionUserFixed 0, preAuthorizingUpdate], OnPermission sampleTable sampleHap 0 op := by
    intro op hop
    rcases List.mem_cons.1 hop with rfl | hop
    · exact ⟨rfl, by decide⟩
    · cases List.mem_singleton.1 hop
      exact ⟨rfl, by decide⟩
  have hinfo : cameraInstalled.hapTokenInfoMap[sampleHap]? = some (.ofParams sampleHap sampleParams) := by
    decide +kernel
  exact (policy_transparent_iff sampleTable ∅ (w := cameraInstalled)
    (d := ⟨permissionDenied, 0, 0, permissionDefaultFlag⟩)
    (t := sampleHap) (c := 0) (Lib.reaches_always [_] _) hinfo hentry (by decide +kernel)
    .ok (cameraPolicy true) 7 (by decide +kernel) (by decide +kernel) _ hops .ok [camera] 7).2
    (by decide +kernel) _ (List.prefix_refl _)

/-- **A pre-authorisation is lost under a policy**: the updated application is pre-authorised for the camera, and after
the policy is cleared the permission is still denied, while without the policy it is granted. -/
theorem preAuthorization_lost_under_policy :
    ∃ a b, Reaches (serviceStep sampleTable ∅) Always empty cameraInstalled ∧
      (setUserPolicy sampleTable cameraInstalled .ok (cameraPolicy true) 7).1 = .ok () ∧
      (clearUserPolicy sampleTable (serviceStep sampleTable ∅
        (setUserPolicy sampleTable cameraInstalled .ok (cameraPolicy true) 7).2 preAuthorizingUpdate) .ok
        [camera] 7).1 = .ok () ∧
      (clearUserPolicy sampleTable (serviceStep sampleTable ∅
        (setUserPolicy sampleTable cameraInstalled .ok (cameraPolicy true) 7).2 preAuthorizingUpdate) .ok
        [camera] 7).2.entry sampleHap 0 = some a ∧
      (serviceStep sampleTable ∅ cameraInstalled preAuthorizingUpdate).entry sampleHap 0 = some b ∧
      a.status = permissionDenied ∧ underFlag a.flag = permissionDefaultFlag ∧ b.status = permissionGranted ∧
      underFlag b.flag = permissionPreAuthorizedCancelable :=
  ⟨⟨permissionDenied, 0, 0, permissionDefaultFlag⟩, ⟨permissionGranted, 0, 0, permissionPreAuthorizedCancelable⟩,
    Lib.reaches_always [_] _, by decide +kernel, by decide +kernel, by decide +kernel, by decide +kernel,
    rfl, by decide, rfl, by decide⟩

end AccessToken.Service
