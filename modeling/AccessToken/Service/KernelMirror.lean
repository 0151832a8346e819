import AccessToken.Service.RestrictedFlag
import AccessToken.GrantedList
/-!
# The kernel bits and verification

The kernel holds a bit per token and permission, pushed by each operation in its own way: installs, loads, updates and
resets push the granted list, a grant or revoke pushes the requested state when the verified status changed, a policy
refresh pushes what the stored status says.  `MirrorsAt` is the agreement with `VerifyPermissionStatus` for one token;
`KeepsMirror` says when a step keeps it for every live token.
-/
namespace AccessToken.Service

open Lib (hasAny Reaches Always)
open PermissionDataBrief KernelPerms UserPolicyManager

variable {T : PermissionTable} {D : DlpPermissionModeMap} {w w' : Service} {inner : HapTokenInfoInner}
    {t x : AccessTokenID} {fl : Flag} {n : String} {env : Env} {c : Nat} {d : BriefPermData} {g : Bool}

/-- **The kernel bits of the token are what verification answers.** -/
def MirrorsAt (w : Service) (t : AccessTokenID) : Prop :=
  ∀ c, w.kernel t c = true ↔ w.verifyPermissionStatus t c = permissionGranted

structure Mirrored (T : PermissionTable) (w : Service) : Prop extends Sound T w where
  mirrors : ∀ t, t ∈ w.hapTokenInfoMap → w.MirrorsAt t

/-! ## Pushing the granted list, and leaving a token alone -/

theorem MirrorsAt.of_eq (h : w.MirrorsAt t) (hk : w'.kernel t = w.kernel t)
    (hlist : w'.requestedPermData[t]? = w.requestedPermData[t]?)
    (hsec : ∀ c, w'.HasSecComp t c ↔ w.HasSecComp t c) : w'.MirrorsAt t := fun c => by
  rw [hk, verifyPermissionStatus_granted_congr_list hlist c (hsec c)]
  exact h c

theorem mirrorsAt_addGranted (h : w.brief.GrantedListAgrees t) :
    (w.addGrantedHapPermsToKernel t).MirrorsAt t := fun c => by
  change _ ↔ w.verifyPermissionStatus t c = _
  rw [← h c]
  simp only [addGrantedHapPermsToKernel, addPermissionToKernel_apply, if_true, List.contains_iff_mem]

theorem addGranted_kernel_of_ne (h : x ≠ t) : (w.addGrantedHapPermsToKernel t).kernel x = w.kernel x := by
  funext c
  simp only [addGrantedHapPermsToKernel, addPermissionToKernel_apply, if_neg h]

/-- **A new list of one token, pushed to the kernel**, while the other tokens keep theirs. -/
theorem Mirrored.push (h : w.Mirrored T) {l : List BriefPermData} (hs' : w'.Sound T)
    (hlive : ∀ x, x ∈ w'.hapTokenInfoMap → x ≠ t → x ∈ w.hapTokenInfoMap) (hap : getTokenIdTypeEnum t = .tokenHap)
    (hkernel : ∀ x, x ≠ t → w'.kernel x = w.kernel x)
    (hlist : ∀ x : AccessTokenID, x ≠ t → w'.requestedPermData[x]? = w.requestedPermData[x]?)
    (hsec : ∀ x c, x ≠ t → (w'.HasSecComp x c ↔ w.HasSecComp x c))
    (hnew : w'.requestedPermData[t]? = some l) (hl : w'.brief.Installable t l) :
    (w'.addGrantedHapPermsToKernel t).Mirrored T := by
  refine { hs'.addGranted with mirrors := fun x hx => ?_ }
  by_cases hxt : x = t
  · subst hxt
    exact mirrorsAt_addGranted (hl.grantedListAgrees hap hnew)
  · refine (h.mirrors x (hlive x hx hxt)).of_eq ?_ (hlist x hxt) fun c => hsec x c hxt
    rw [addGranted_kernel_of_ne hxt, hkernel x hxt]

/-! ## Looking up, removing, creating -/

theorem Mirrored.load (h : w.Mirrored T) (findOk : Bool) (id : AccessTokenID) :
    (getHapTokenInfoInner T w findOk id).2.Mirrored T := by
  have hs' := h.toSound.load findOk id
  rcases getHapTokenInfoInner_cases T w findOk id with ⟨info, -, heq⟩ | ⟨hnone, m, b, -, hb, heq⟩ |
    ⟨hnone, -, row, basic, hrow, -, hbasic, heq⟩
  · rw [heq]; exact h
  · rw [heq] at hs' ⊢
    have hb : b = w.brief := by rwa [delete_of_not_mem (h.not_requested (not_mem_of_getElem? hnone)), or_self] at hb
    refine { hs' with mirrors := fun t ht => (h.mirrors t ht).of_eq rfl (by rw [hb]) fun c => by rw [hb] }
  rw [heq] at hs' ⊢
  have hnew := not_mem_of_getElem? hnone
  have hlive : ∀ x, x ∈ (w.loadedFrom T basic id).hapTokenInfoMap → x ≠ id → x ∈ w.hapTokenInfoMap := by
    exact fun x hx => (Lib.mem_insert.1 hx).resolve_left
  have hbrief : (w.loadedFrom T basic id).brief = w.restoredBrief T id := rfl
  refine { hs' with mirrors := fun x hx => ?_ }
  by_cases hxt : x = id
  · subst hxt
    refine mirrorsAt_addGranted ?_
    unfold restoredBrief
    rcases restorePermissionBriefData_cases x (w.db.findPermissionState x)
      (w.db.findExtendValue x) with hsame | ⟨l, ext, hins, -, hgood, -⟩
    · rw [hsame]
      exact grantedListAgrees_of_not_mem (h.not_requested hnew)
    rw [hins]
    have hinst : Installable
        { w.brief with requestedPermData := w.requestedPermData.insert x l, extendedValue := ext } x l :=
      ⟨hgood.nodup, fun d _ hc => absurd hc (h.no_secComp hnew)⟩
    exact hinst.grantedListAgrees (hs'.hapId x hx) Std.ExtTreeMap.getElem?_insert_self
  · refine (h.mirrors x (hlive x hx hxt)).of_eq (addGranted_kernel_of_ne hxt) (restoredBrief_of_ne hxt) fun c => ?_
    rw [hbrief, HasSecComp, restoredBrief_secCompList]
    exact Iff.rfl

theorem Mirrored.removeHapTokenInfo (h : w.Mirrored T) (dbOk : Bool) (id : AccessTokenID) (reserved : Bool) :
    (w.removeHapTokenInfo dbOk false id reserved).2.Mirrored T := by
  rcases removeHapTokenInfo_cases w dbOk false id reserved with ⟨-, e, heq⟩ | ⟨info, w', hget, -, heq, hr⟩
  · rw [heq]; exact h
  rw [heq]
  refine { h.toSound.removed hget hr with mirrors := fun x hx => ?_ }
  obtain ⟨hne, hx⟩ := hr.mem hx
  obtain ⟨hk, hlist, hsec⟩ := hr.of_ne (h.keyed id info hget) hne
  exact (h.mirrors x hx).of_eq hk hlist hsec

theorem Mirrored.createHapTokenInfo (h : w.Mirrored T) {info : HapInfoParams} {policy : HapPolicy}
    (honce : InstallsOnce T D info policy) : (createHapTokenInfo T D w env info policy).2.Mirrored T := by
  have hs' := h.toSound.create env info policy honce
  rcases h.toSound.createHapTokenInfo_cases env info policy honce with ⟨r, m, b, -, hreq, hsec, -, heq⟩ |
    ⟨t, db, w₁, r, m, hnew, -, -, hc, -, heq⟩
  · rw [heq] at hs' ⊢
    refine { hs' with mirrors := fun x hx => (h.mirrors x hx).of_eq rfl (by rw [hreq]) fun c => ?_ }
    rw [HasSecComp, hsec]; exact Iff.rfl
  rw [heq] at hs' ⊢
  refine { hs' with mirrors := fun x hx => ?_ }
  obtain ⟨-, hk, hlist, hsec₁⟩ := hc.kept x hx
  by_cases hxt : x = t
  · subst hxt
    rw [if_pos rfl] at hlist
    have hinstallable : w₁.brief.Installable x _ :=
      ⟨(hc.sound.brief.lists x _ hlist).nodup, fun d _ hsc => absurd ((hsec₁ _).1 hsc) (h.no_secComp hnew)⟩
    exact mirrorsAt_addGranted (hinstallable.grantedListAgrees (hc.sound.hapId x hc.mem) hlist)
  · rw [if_neg hxt] at hlist
    exact (h.mirrors x (hc.mem_old hx hxt)).of_eq ((addGranted_kernel_of_ne hxt).trans hk) hlist hsec₁

/-! ## Updating and resetting -/

theorem Mirrored.updateHapToken (h : w.Mirrored T) {id : AccessTokenID} {info : UpdateHapInfoParams}
    {states : List PermissionStatus} {policy : HapPolicy} (htx : env.transactionOk = true)
    (hinst : ∀ inner, (getHapTokenInfoInner T w env.findOk id).1 = some inner →
      (getHapTokenInfoInner T w env.findOk id).2.brief.Installable id
        (mergedList T (getHapTokenInfoInner T w env.findOk id).2 id inner info states policy)) :
    (updateHapToken T w env id info states policy).2.Mirrored T := by
  have h₁ := h.load env.findOk id
  rcases h.toSound.updateHapToken_cases info policy rfl (fun inner hinner => by
    rw [← mergedList_codes id inner info states policy]; exact (hinst inner hinner).1) with
    ⟨e, heq⟩ | ⟨e, heq⟩ | ⟨inner, hget, hfound, -, ⟨hno, -⟩ | ⟨-, db, -, -, hs', heq⟩⟩
  · rw [heq]; exact h
  · rw [heq]; exact h₁
  · rw [htx] at hno; cases hno
  rw [heq]
  obtain ⟨hreq, hsec⟩ := h₁.toSound.updatedFrom_brief T hget info states policy
  have hinst := hinst inner hfound
  generalize (getHapTokenInfoInner T w env.findOk id).2 = w₁ at h₁ hget hs' hreq hsec hinst ⊢
  refine h₁.push hs' (fun x hx hne => ?_) (h₁.hapId id (mem_of_getElem? hget)) (fun _ _ => rfl) (fun x hne => ?_)
    (fun x c _ => ?_) ?_ (hinst.of_secCompList hsec)
  · exact (Lib.mem_insert.1 hx).resolve_left hne
  · rw [hreq, Lib.getElem?_insert_of_ne hne]
  · rw [HasSecComp, hsec]; exact Iff.rfl
  · rw [hreq, Std.ExtTreeMap.getElem?_insert_self]

theorem Mirrored.clearUserGrantedPermission (h : w.Mirrored T) (env : Env) (hrows : env.failingRows = [])
    (id : AccessTokenID) : (clearUserGrantedPermission T D w env id).2.Mirrored T := by
  have h₁ := h.load env.findOk id
  obtain ⟨w₁, hw₁, heq | ⟨inner, db, k, hget, hmem, hdb, hk, heq⟩⟩ := clearUserGrantedPermission_cases T D w env id
  all_goals rw [hw₁] at h₁; rw [heq]
  · exact h₁
  have hid := h₁.keyed id inner hget
  obtain ⟨l, hold⟩ := Lib.mem_iff_exists.1 hmem
  obtain ⟨hl, hlist, hsec⟩ := resetBrief_eq T D hold
  have hs' : ({ w₁ with brief := resetBrief T D w₁ inner, db := db } : Service).Sound T :=
    h₁.toSound.of_brief rfl rfl rfl hdb.hapTokenInfo (h₁.toSound.resetBrief D hmem)
  rw [hid] at hl hlist hsec
  rw [hk hrows]
  refine h₁.push hs' (fun x hx _ => hx) (h₁.hapId id (mem_of_getElem? hget)) (fun _ _ => rfl) hlist
    (fun x c hne => ?_) hl ⟨(hs'.brief.lists id _ hl).nodup, fun d _ hc => absurd rfl ((hsec id _).1 hc).1⟩
  rw [hsec x c]
  exact ⟨fun hc => hc.2, fun hc => ⟨hne, hc⟩⟩

theorem Mirrored.clearUserGrantedPermissionState (h : w.Mirrored T) (hrows : env.failingRows = [])
    {id : AccessTokenID} : (clearUserGrantedPermissionState T D w env id).2.Mirrored T :=
  clearUserGrantedPermissionState_keeps (fun _ id hw => hw.clearUserGrantedPermission env hrows id) h id

/-! ## Granting and revoking -/

def entryOnceGranted (fl : Flag) (d : BriefPermData) : BriefPermData :=
  if isPermGrantedBySecComp fl then withComponentFlag true d else updatedPermState true fl d

/-- **Where a grant changes what verification answers, the policy agrees with the new answer**: the bit pushed is the
grant, cut off by the policy. -/
def GrantFollowsPolicy (T : PermissionTable) (g : Bool) (fl : Flag) (w : Service) (inner : HapTokenInfoInner)
    (n : String) : Prop :=
  g = true → ∀ c ∈ T.transferPermissionToOpcode n,
    (∀ d ∈ w.entry inner.tokenID c,
      getEffectivePermissionStatus (entryOnceGranted fl d) ≠ getEffectivePermissionStatus d →
      (getEffectivePermissionStatus (entryOnceGranted fl d) = permissionGranted ↔
        isPermissionRestricted w.policy.records inner.tokenID
          inner.userID c = false)) ∧
    (w.entry inner.tokenID c = none → isPermGrantedBySecComp fl = true →
      ¬w.HasSecComp inner.tokenID c →
      isPermissionRestricted w.policy.records inner.tokenID inner.userID
        c = false)
deriving Decidable

theorem effective_of_revoked (hcomp : isPermGrantedBySecComp fl = false)
    (h : getEffectivePermissionStatus (updatedPermState false fl d) = permissionGranted) :
    getEffectivePermissionStatus d = permissionGranted := by
  obtain ⟨hr, hgranted⟩ := effectiveStatus_eq_granted.1 h
  have hr : isRestricted d.flag = false := by
    simp only [updatedPermState, isRestricted_updateWithNewFlag, Bool.or_eq_false_iff] at hr
    exact hr.2
  have hcomp' : isPermGrantedBySecComp (updatedPermState false fl d).flag = false :=
    (isPermGrantedBySecComp_updateWithNewFlag d.flag fl).trans hcomp
  rw [hcomp'] at hgranted
  have hstatus : (updatedPermState false fl d).status = permissionGranted := hgranted.resolve_left (by simp)
  refine effectiveStatus_eq_granted.2 ⟨hr, .inr ?_⟩
  simp only [updatedPermState, Bool.false_eq_true, if_false] at hstatus
  split at hstatus
  · cases hstatus
  · exact hstatus

theorem effective_of_component_revoked
    (h : getEffectivePermissionStatus (withComponentFlag false d) = permissionGranted) :
    getEffectivePermissionStatus d = permissionGranted := by
  obtain ⟨hr, hgranted⟩ := effectiveStatus_eq_granted.1 h
  have hflag : (withComponentFlag false d).flag = getFlagWithoutSpecifiedElement d.flag permissionComponentSet := rfl
  rw [hflag, isRestricted_without_component] at hr
  rw [hflag, isPermGrantedBySecComp_without_component] at hgranted
  exact effectiveStatus_eq_granted.2 ⟨hr, .inr (hgranted.resolve_left (by simp))⟩

theorem grantedBrief_of_ne (h : w.Sound T) (hc : T.transferPermissionToOpcode n = some c) {c' : Nat}
    (hne : ¬(inner.tokenID = x ∧ c = c')) :
    (w.grantedBrief T inner n g fl).verifyPermissionStatus x c' = permissionGranted ↔
      w.verifyPermissionStatus x c' = permissionGranted := by
  unfold grantedBrief
  rcases PermissionDataBrief.updatePermissionStatus_cases inner.tokenID n g fl with
    hsame | ⟨c₁, hc₁, ⟨-, d, -, -, -, hs'⟩ | ⟨-, -, -, -, -, hs'⟩⟩
  · rw [hsame]
  · obtain rfl : c = c₁ := Option.mem_unique hc hc₁
    rw [hs']
    refine verifyPermissionStatus_granted_congr mem_modifyEntry ?_ Iff.rfl
    rw [entry_modifyEntry (updatedPermState_permCode g fl), if_neg hne]
  obtain rfl : c = c₁ := Option.mem_unique hc hc₁
  rw [hs']
  refine verifyPermissionStatus_granted_congr mem_setSecComp ?_ ?_
  · rw [entry_setSecComp, if_neg hne]
  cases g with
  | true => rw [hasSecComp_setSecComp_true]; exact or_iff_right hne
  | false =>
    rw [hasSecComp_setSecComp_false h.brief.grantedNodup]
    exact and_iff_right hne

/-- **Where the answer changes, the bit pushed is the new answer.** -/
theorem pushed_of_changed (h : w.Sound T) (hc : T.transferPermissionToOpcode n = some c)
    (hpolicy : GrantFollowsPolicy T g fl w inner n)
    (hchanged : w.verifyPermissionStatus inner.tokenID c ≠
      (w.grantedBrief T inner n g fl).verifyPermissionStatus inner.tokenID c) :
    (g && !isPermissionRestricted w.policy.records inner.tokenID
        inner.userID c) = true ↔
      (w.grantedBrief T inner n g fl).verifyPermissionStatus inner.tokenID c = permissionGranted := by
  unfold grantedBrief at hchanged ⊢
  rcases PermissionDataBrief.updatePermissionStatus_cases inner.tokenID n g fl with
    hsame | ⟨c₁, hc₁, ⟨hcomp, d, he, -, -, hs'⟩ | ⟨hcomp, ht, -, -, -, hs'⟩⟩
  · exact absurd (by rw [hsame]) hchanged
  · -- one entry is written under a flag without the component bit
    obtain rfl : c = c₁ := Option.mem_unique hc hc₁
    have he' : (w.brief.modifyEntry inner.tokenID c (updatedPermState g fl)).entry
        inner.tokenID c = some (updatedPermState g fl d) := by
      rw [entry_modifyEntry (updatedPermState_permCode g fl), if_pos ⟨rfl, rfl⟩, he]
      rfl
    rw [hs', verifyPermissionStatus_of_entry he'] at hchanged ⊢
    rw [verifyPermissionStatus_of_entry he] at hchanged
    cases g with
    | false =>
      simp only [Bool.false_and, Bool.false_eq_true, false_iff]
      exact fun hg => hchanged ((effective_of_revoked hcomp hg).trans hg.symm)
    | true =>
      have hentry : entryOnceGranted fl d = updatedPermState true fl d := if_neg (by simp [hcomp])
      have hfollows := (hpolicy rfl c hc).1 d he
      rw [hentry] at hfollows
      rw [hfollows hchanged.symm]
      simp
  · -- a component grant or revoke is recorded
    obtain rfl : c = c₁ := Option.mem_unique hc hc₁
    rw [hs'] at hchanged ⊢
    have ht' : inner.tokenID ∈
        (w.brief.setSecComp inner.tokenID c g).requestedPermData := mem_setSecComp.2 ht
    cases he : w.entry inner.tokenID c with
    | some d =>
      have he' : (w.brief.setSecComp inner.tokenID c g).entry inner.tokenID c =
          some (withComponentFlag g d) := by
        rw [entry_setSecComp, if_pos ⟨rfl, rfl⟩, he]
        rfl
      rw [verifyPermissionStatus_of_entry he'] at hchanged ⊢
      rw [verifyPermissionStatus_of_entry he] at hchanged
      cases g with
      | false =>
        simp only [Bool.false_and, Bool.false_eq_true, false_iff]
        exact fun hg => hchanged ((effective_of_component_revoked hg).trans hg.symm)
      | true =>
        have hentry : entryOnceGranted fl d = withComponentFlag true d := if_pos hcomp
        have hfollows := (hpolicy rfl c hc).1 d he
        rw [hentry] at hfollows
        rw [hfollows hchanged.symm]
        simp
    | none =>
      have he' : (w.brief.setSecComp inner.tokenID c g).entry inner.tokenID c = none := by
        rw [entry_setSecComp, if_pos ⟨rfl, rfl⟩, he]
        rfl
      have hafter := verifyPermissionStatus_of_no_entry ht' he'
      cases g with
      | false =>
        simp only [Bool.false_and, Bool.false_eq_true, false_iff, hafter,
          hasSecComp_setSecComp_false h.brief.grantedNodup]
        exact fun hsec => hsec.1 ⟨trivial, trivial⟩
      | true =>
        have hgranted := hafter.2 (hasSecComp_setSecComp_true.2 (.inl ⟨rfl, rfl⟩))
        have hnew : ¬w.HasSecComp inner.tokenID c := fun hsec =>
          hchanged (((verifyPermissionStatus_of_no_entry ht he).2 hsec).trans hgranted.symm)
        simp only [hgranted, (hpolicy rfl c hc).2 he hcomp hnew, Bool.not_false, Bool.and_true]

theorem Mirrored.updateAndNotify (h : w.Mirrored T) (hpolicy : GrantFollowsPolicy T g fl w inner n) :
    (updateAndNotify T w env inner n g fl).2.Mirrored T := by
  have hs' := h.toSound.updateAndNotify env inner n g fl
  rcases updateAndNotify_cases T w env inner n g fl with ⟨e, heq⟩ | ⟨c, db, hc, -, heq⟩
  · rw [heq]; exact h
  rw [heq] at hs' ⊢
  refine { hs' with mirrors := fun x hx c' => ?_ }
  have hx' := h.mirrors x hx c'
  dsimp only
  unfold grantedKernel
  by_cases hxc : inner.tokenID = x ∧ c = c'
  · obtain ⟨rfl, rfl⟩ := hxc
    split
    · rename_i hsame
      rw [← hsame]; exact hx'
    · rename_i hchanged
      rw [setPermissionToKernel_apply, if_pos ⟨rfl, rfl⟩]
      exact pushed_of_changed h.toSound hc hpolicy hchanged
  · rw [grantedBrief_of_ne h.toSound hc hxc, ← hx']
    split
    · exact Iff.rfl
    · rw [setPermissionToKernel_apply, if_neg (fun hk => hxc ⟨hk.1.symm, hk.2.symm⟩)]

/-! ## Component grants and the restricted bit -/

theorem foldl_clear_kernel {l : List BriefSecCompData} (k : KernelPerms) :
    l.foldl (fun k g => k.setPermissionToKernel g.tokenId g.permCode false) k t c =
      if (⟨c, t⟩ : BriefSecCompData) ∈ l then false else k t c := by
  induction l generalizing k with
  | nil => simp
  | cons g l ih =>
    rw [List.foldl_cons, ih, setPermissionToKernel_apply]
    by_cases hg : t = g.tokenId ∧ c = g.permCode
    · obtain ⟨rfl, rfl⟩ := hg
      simp
    · have hne : (⟨c, t⟩ : BriefSecCompData) ≠ g := by
        rintro rfl
        exact hg ⟨rfl, rfl⟩
      simp [hne, hg]

theorem Mirrored.clearAllSecCompGrantedPerm (h : w.Mirrored T)
    (hok : ∀ g ∈ w.secCompList, ∀ d ∈ w.entry g.tokenId g.permCode,
      getEffectivePermissionStatus d ≠ permissionGranted) : w.clearAllSecCompGrantedPerm.Mirrored T := by
  have hs' : w.clearAllSecCompGrantedPerm.Sound T := h.toSound.of_brief rfl rfl rfl rfl h.brief.clearAllSecComp
  refine { hs' with mirrors := fun x hx c => ?_ }
  have hx' := h.mirrors x hx c
  rw [verifyPermissionStatus_eq_granted] at hx' ⊢
  have hkernel : w.clearAllSecCompGrantedPerm.kernel x c = _ := foldl_clear_kernel w.kernel
  have hno : ¬w.clearAllSecCompGrantedPerm.HasSecComp x c := List.not_mem_nil
  have hentry : w.clearAllSecCompGrantedPerm.entry x c = w.entry x c := rfl
  have hmem : x ∈ w.clearAllSecCompGrantedPerm.requestedPermData ↔ x ∈ w.requestedPermData := Iff.rfl
  rw [hkernel, hentry, hmem]
  split
  · rename_i hg
    simp only [Bool.false_eq_true, hno, and_false, or_false, false_iff, not_and, not_exists]
    exact fun _ d he heff => hok ⟨c, x⟩ hg d he heff
  · rename_i hg
    rw [hx']
    have hno' : ¬w.HasSecComp x c := hg
    simp only [hno, hno']

theorem Mirrored.updateRestrictedFlagAndRefreshKernel (h : w.Mirrored T) {failing : TokenPerms} {r persist : Bool}
    (hok : ∀ d ∈ w.entry t c, isPermGrantedBySecComp d.flag = true → d.status ≠ permissionGranted →
      isRestricted d.flag = r) : (updateRestrictedFlagAndRefreshKernel T w failing t c r persist).2.Mirrored T := by
  have hs' := h.toSound.updateRestrictedFlagAndRefreshKernel failing t c r persist
  rcases h.toSound.updateRestrictedFlagAndRefreshKernel_cases failing t c r persist with ⟨e, heq, -⟩ | ⟨d, he, heq⟩
  · rw [heq]; exact h
  rw [heq] at hs' ⊢
  refine { hs' with mirrors := fun x hx c' => ?_ }
  have hx' := h.mirrors x hx c'
  dsimp only
  unfold restrictedKernel
  by_cases hxc : t = x ∧ c = c'
  · obtain ⟨rfl, rfl⟩ := hxc
    have he' : (w.brief.modifyEntry t c (restrictEntry r)).entry t c = some (restrictEntry r d) := by
      rw [entry_restrict, if_pos ⟨rfl, rfl⟩, he]; rfl
    rw [verifyPermissionStatus_of_entry he', getEffectivePermissionStatus,
      effectiveStatus_eq_granted, isRestricted_restrictEntry, isPermGrantedBySecComp_restrictEntry]
    rw [verifyPermissionStatus_of_entry he, getEffectivePermissionStatus, effectiveStatus_eq_granted] at hx'
    have hstatus : (restrictEntry r d).status = d.status := rfl
    rw [hstatus]
    split
    · rename_i hcond
      rw [setPermissionToKernel_apply, if_pos ⟨rfl, rfl⟩]
      simp [hcond.1]
    rename_i hcond
    rw [hx']
    by_cases hg : d.status = permissionGranted
    · have hr : isRestricted d.flag = r := by
        by_contra hr
        exact hcond ⟨hg, hr⟩
      rw [hr]
    · have hr := hok d he
      simp only [hg, or_false]
      constructor
      · rintro ⟨hr₀, hcomp⟩
        exact ⟨(hr hcomp hg) ▸ hr₀, hcomp⟩
      · rintro ⟨hr₀, hcomp⟩
        exact ⟨(hr hcomp hg).trans hr₀, hcomp⟩
  · rw [verifyPermissionStatus_granted_congr mem_modifyEntry (by rw [entry_restrict, if_neg hxc]) Iff.rfl, ← hx']
    split
    · rw [setPermissionToKernel_apply, if_neg (fun hk => hxc ⟨hk.1.symm, hk.2.symm⟩)]
    · exact Iff.rfl

/-! ## Whole runs -/

/-- The operations that touch the permission data or the kernel bits, and any change of the user policy. -/
inductive MirrorOp where
  | createHapTokenInfo (env : Env) (info : HapInfoParams) (policy : HapPolicy)
  | updateHapToken (env : Env) (tokenID : AccessTokenID) (info : UpdateHapInfoParams)
      (permStateList : List PermissionStatus) (hapPolicy : HapPolicy)
  | removeHapTokenInfo (env : Env) (id : AccessTokenID) (isTokenReserved : Bool)
  | updatePermission (env : Env) (tokenID : AccessTokenID) (permissionName : String) (isGranted : Bool) (flag : Flag)
  | setPermissionStatusWithPolicy (env : Env) (tokenID : AccessTokenID) (permissionList : List String) (status : Int)
      (flag : Flag)
  | clearUserGrantedPermissionState (env : Env) (tokenID : AccessTokenID)
  | clearAllSecCompGrantedPerm
  | updateRestrictedFlagAndRefreshKernel (env : Env) (tokenId : AccessTokenID) (permCode : Nat)
      (isRestricted isPersist : Bool)
  | setPolicy (policy : Store)

def mirrorStep (T : PermissionTable) (D : DlpPermissionModeMap) (w : Service) : MirrorOp → Service
  | .createHapTokenInfo env info policy => (createHapTokenInfo T D w env info policy).2
  | .updateHapToken env id info states policy => (updateHapToken T w env id info states policy).2
  | .removeHapTokenInfo env id reserved => (w.removeHapTokenInfo env.removeOk false id reserved).2
  | .updatePermission env id n g fl => (updatePermission T D w env id n g fl).2
  | .setPermissionStatusWithPolicy env id perms status fl =>
    (setPermissionStatusWithPolicy T D w env id perms status fl).2
  | .clearUserGrantedPermissionState env id => (clearUserGrantedPermissionState T D w env id).2
  | .clearAllSecCompGrantedPerm => w.clearAllSecCompGrantedPerm
  | .updateRestrictedFlagAndRefreshKernel env id c r persist =>
    (updateRestrictedFlagAndRefreshKernel T w env.failingRows id c r persist).2
  | .setPolicy policy => { w with policy := policy }

/-- **The condition on a step.**  The states of an installation name each permission once; an app update is stored and
its list denies no permission with a recorded component
grant; a reset is stored; a grant, update by update, changes the verified answer only to what the policy allows; the
component grants are cleared only where no requested permission rests on them; a refresh does not change the restricted
bit of a permission that only its component flag grants. -/
def KeepsMirror (T : PermissionTable) (D : DlpPermissionModeMap) (w : Service) : MirrorOp → Prop
  | .createHapTokenInfo _ info policy => InstallsOnce T D info policy
  | .updateHapToken env id info states policy => env.transactionOk = true ∧
    ∀ inner ∈ (getHapTokenInfoInner T w env.findOk id).1,
      (getHapTokenInfoInner T w env.findOk id).2.brief.Installable id
        (mergedList T (getHapTokenInfoInner T w env.findOk id).2 id inner info states policy)
  | .removeHapTokenInfo _ _ _ => True
  | .updatePermission env id n g fl =>
    UpdatePermissionMeets T D env g fl (GrantFollowsPolicy T g fl) w id n
  | .setPermissionStatusWithPolicy env id perms status fl =>
    UpdateMultiMeets T env (status == permissionGranted) fl (GrantFollowsPolicy T (status == permissionGranted) fl) w id
      perms
  | .clearUserGrantedPermissionState env _ => env.failingRows = []
  | .clearAllSecCompGrantedPerm => ∀ g ∈ w.secCompList, ∀ d ∈ w.entry g.tokenId g.permCode,
    getEffectivePermissionStatus d ≠ permissionGranted
  | .updateRestrictedFlagAndRefreshKernel _ id c r _ => ∀ d ∈ w.entry id c,
    isPermGrantedBySecComp d.flag = true → d.status ≠ permissionGranted → isRestricted d.flag = r
  | .setPolicy _ => True

instance (T : PermissionTable) (D : DlpPermissionModeMap) (w : Service) : ∀ op, Decidable (KeepsMirror T D w op) :=
  fun op => by
  cases op <;> unfold KeepsMirror <;> infer_instance

theorem mirrored_empty : empty.Mirrored T :=
  { sound_empty with mirrors := by simp [empty] }

/-- **A step that meets the condition keeps the bits in line.** -/
theorem Mirrored.step (h : w.Mirrored T) (op : MirrorOp) (hk : KeepsMirror T D w op) :
    (mirrorStep T D w op).Mirrored T := by
  cases op with
  | createHapTokenInfo => exact h.createHapTokenInfo hk
  | updateHapToken env id info states policy =>
    exact h.updateHapToken hk.1 fun inner hinner => hk.2 inner hinner
  | removeHapTokenInfo env id reserved => exact h.removeHapTokenInfo env.removeOk id reserved
  | updatePermission env id n =>
    exact updatePermission_invariant (Mirrored T) (fun w id hw => hw.load env.findOk id)
      (fun w _ inner n hw _ _ hok => hw.updateAndNotify hok) h hk
  | setPermissionStatusWithPolicy env id =>
    exact setPermissionStatusWithPolicy_invariant (Mirrored T) (fun w id hw => hw.load env.findOk id)
      (fun _ w _ inner n hw _ _ hok => hw.updateAndNotify hok) h hk
  | clearUserGrantedPermissionState => exact h.clearUserGrantedPermissionState hk
  | clearAllSecCompGrantedPerm => exact h.clearAllSecCompGrantedPerm hk
  | updateRestrictedFlagAndRefreshKernel =>
    exact h.updateRestrictedFlagAndRefreshKernel hk
  | setPolicy policy =>
    have hs' : ({ w with policy := policy } : Service).Sound T := h.toSound.of_brief rfl rfl rfl rfl h.brief
    exact { hs' with mirrors := h.mirrors }

/-- **The kernel bits are what verification answers**, for every live token in every state reached by steps that meet
`KeepsMirror`; none of the steps makes a remote token. -/
theorem kernel_mirrors_verification (T : PermissionTable) (D : DlpPermissionModeMap) (w : Service)
    (hrun : Reaches (mirrorStep T D) (KeepsMirror T D) empty w) (t : AccessTokenID) (info : HapTokenInfoInner)
    (hlive : w.hapTokenInfoMap[t]? = some info) (p : Nat) :
    w.kernel t p = true ↔ w.verifyPermissionStatus t p = permissionGranted :=
  (hrun.invariant (fun _ op h hk => h.step op hk) mirrored_empty).mirrors t (mem_of_getElem? hlive) p

/-- An application that requests the camera, and is granted it through a security component. -/
def componentGranted : List MirrorOp :=
  [.createHapTokenInfo .ok sampleParams asksCamera,
    .updatePermission .ok sampleHap camera true permissionComponentSet]

/-- The grant taken back through the component, then made by the user, then cut off and given back by the policy. -/
theorem kernel_mirrors_after_user_grant :
    let w := (componentGranted ++
      ([.updatePermission .ok sampleHap camera false permissionComponentSet,
        .updatePermission .ok sampleHap camera true permissionUserFixed,
        .updateRestrictedFlagAndRefreshKernel .ok sampleHap 0 true false,
        .updateRestrictedFlagAndRefreshKernel .ok sampleHap 0 false false] : List MirrorOp)).foldl
      (mirrorStep sampleTable ∅) empty
    w.kernel sampleHap 0 = true ↔
      w.verifyPermissionStatus sampleHap 0 = permissionGranted :=
  kernel_mirrors_verification sampleTable ∅ _ (Lib.reaches_foldl _ _ (by decide +kernel)) sampleHap
    (.ofParams sampleHap sampleParams) (by decide +kernel) 0

/-- **The bits and verification can disagree, both ways**: clearing the component grants clears the bit and leaves the
component flag that verification grants on; restricting a component grant leaves the bit that verification denies. -/
theorem kernel_disagrees_after_component_grant :
    (∃ w, Reaches (mirrorStep sampleTable ∅) Always empty w ∧
        w.hapTokenInfoMap[sampleHap]? = some (.ofParams sampleHap sampleParams) ∧
        w.kernel sampleHap 0 = false ∧
        w.verifyPermissionStatus sampleHap 0 = permissionGranted) ∧
      ∃ w, Reaches (mirrorStep sampleTable ∅) Always empty w ∧
        w.hapTokenInfoMap[sampleHap]? = some (.ofParams sampleHap sampleParams) ∧
        w.kernel sampleHap 0 = true ∧
        w.verifyPermissionStatus sampleHap 0 = permissionDenied := by
  refine ⟨⟨(componentGranted ++ [MirrorOp.clearAllSecCompGrantedPerm]).foldl (mirrorStep sampleTable ∅) empty,
      Lib.reaches_always _ _, ?_, ?_, ?_⟩,
    ⟨(componentGranted ++
      [MirrorOp.updateRestrictedFlagAndRefreshKernel .ok sampleHap 0 true false]).foldl (mirrorStep sampleTable ∅)
      empty, Lib.reaches_always _ _, ?_, ?_, ?_⟩⟩
  all_goals decide +kernel

end AccessToken.Service
