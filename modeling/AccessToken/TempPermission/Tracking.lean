import AccessToken.TempPermission.Events
import AccessToken.TempPermission.Granted
/-!
# The observer follows the temporary grants

Every permission granted for this time is recorded and covered: it is still to be kept, or a task is pending that
revokes it.  The events keep this by what they do to the tasks, a grant by what it records, and the revocations by
taking away the grant before the record.
-/
namespace AccessToken

open Lib (hasAny)

namespace TempPermission

open TempPermissionObserver Std.ExtTreeSet
open Service (TempGranted NoNewGrants)

variable {T : PermissionTable} {D : DlpPermissionModeMap} {cameraMic : Bool} {settles : Prop} {s : World}

/-- **What holds of the service and the observer together.**  Where `settles` holds, a pending task is also due. -/
structure Tracked (T : PermissionTable) (cameraMic : Bool) (settles : Prop) (s : World) : Prop where
  lasting : s.service.Lasting T
  synced : ∀ t q, Recorded s.observer t q → t ∈ s.observer.tempPermTokenMap
  names : ∀ t q, Recorded s.observer t q → q ∈ tempPermission
  recorded : ∀ t q, TempGranted T s.service t q → Recorded s.observer t q
  covered : ∀ t q, TempGranted T s.service t q → Covered cameraMic s.observer t q
  due : settles → ∀ t q, Pending s.observer t q → Recorded s.observer t q ∧ ¬Keeps cameraMic s.observer t q

variable {w : Service} {o : TempPermissionObserver} {t : AccessTokenID} {sur : Surroundings} {flag : Flag}
  {gone : AccessTokenID → String → Prop} {p : String}

section

variable (h : Tracked T cameraMic settles s)
include h

theorem Tracked.of_noNewGrants (hw : NoNewGrants T s.service w) :
    Tracked T cameraMic settles { s with service := w } where
  lasting := hw.1
  synced := h.synced
  names := h.names
  recorded t q hg := h.recorded t q (hw.2 t q hg)
  covered t q hg := h.covered t q (hw.2 t q hg)
  due := h.due

theorem Tracked.handled {settles' : Prop}
    (ho : Handled cameraMic settles' s.observer o) (hsettles : settles → settles') :
    Tracked T cameraMic settles { s with observer := o } := by
  have hrec : ∀ t q, Recorded o t q ↔ Recorded s.observer t q := fun t q => recorded_congr ho.names
  have hvalid : ∀ t q, Recorded s.observer t q → getPermissionType q ≠ .invalidType := fun t q hq =>
    getPermissionType_of_mem (h.names t q hq)
  refine ⟨h.lasting, fun t q hq => ?_, fun t q hq => ?_, fun t q hg => ?_, fun t q hg => ?_, fun hs t q hp => ?_⟩
  · exact (ho.tokens t).2 (h.synced t q ((hrec t q).1 hq))
  · exact h.names t q ((hrec t q).1 hq)
  · exact (hrec t q).2 (h.recorded t q hg)
  · have hq := h.recorded t q hg
    exact ho.covered t q hq (hvalid t q hq) (h.covered t q hg)
  have hq : Recorded s.observer t q := by
    obtain hold | hq := ho.pending t q hp
    · exact (h.due hs t q hold).1
    · exact hq
  refine ⟨(hrec t q).2 hq, ?_⟩
  exact ho.due (hsettles hs) t q hq (hvalid t q hq) (fun hold => (h.due hs t q hold).2) hp

/-! ## Grants -/

theorem Tracked.grantRecorded {live : LiveState}
    (ho : GrantRecorded cameraMic live t p s.observer o) (hp : p ∈ tempPermission) (hw : w.Lasting T)
    (hnew : ∀ x q, TempGranted T w x q → TempGranted T s.service x q ∨ x = t ∧ q = p) :
    Tracked T cameraMic settles ⟨w, o⟩ := by
  have hpending : ∀ x q, Pending o x q ↔ Pending s.observer x q := fun x q => by rw [Pending, ho.tasks, Pending]
  have hkeeps : ∀ x q, Recorded s.observer x q → (Keeps cameraMic o x q ↔ Keeps cameraMic s.observer x q) :=
      fun x q hq => by
    by_cases hx : x = t
    · subst hx
      exact ho.same q hq
    · rw [Keeps, ho.other x hx, Keeps]
  refine ⟨hw, fun x q hq => ?_, fun x q hq => ?_, fun x q hg => ?_, fun x q hg => ?_, fun hs x q hq => ?_⟩
  · obtain hq | ⟨rfl, -⟩ := (ho.recorded x q).1 hq
    · exact (ho.tokens x).2 (.inr (h.synced x q hq))
    · exact (ho.tokens x).2 (.inl rfl)
  · obtain hq | ⟨-, rfl⟩ := (ho.recorded x q).1 hq
    · exact h.names x q hq
    · exact hp
  · obtain hg | hnew := hnew x q hg
    · exact (ho.recorded x q).2 (.inl (h.recorded x q hg))
    · exact (ho.recorded x q).2 (.inr hnew)
  · obtain hg | ⟨rfl, rfl⟩ := hnew x q hg
    · intro hk
      exact (hpending x q).2 (h.covered x q hg fun hkeep => hk ((hkeeps x q (h.recorded x q hg)).2 hkeep))
    · exact fun hk => absurd ho.kept hk
  · obtain ⟨hrec, hk⟩ := h.due hs x q ((hpending x q).1 hq)
    exact ⟨(ho.recorded x q).2 (.inl hrec), fun hkeep => hk ((hkeeps x q hrec).1 hkeep)⟩

end

/-- **What asking the observer does**: nothing but a load, or it records the grant it allows. -/
theorem isAllowGrant_cases (hlast : s.service.Lasting T) (hpriv : sur.live.isPrivilegedCalling = false)
    (hsync : ∀ q, Recorded s.observer t q → t ∈ s.observer.tempPermTokenMap)
    (hagree : AnswersAgree cameraMic s.observer sur.live t) (p : String) :
    ∃ w, NoNewGrants T s.service w ∧
      (isAllowGrantTempPermission T cameraMic sur s t p = (false, { s with service := w }) ∨
        ∃ o, GrantRecorded cameraMic sur.live t p s.observer o ∧ p ∈ tempPermission ∧
          isAllowGrantTempPermission T cameraMic sur s t p = (true, ⟨w, o⟩)) := by
  have hload := Service.noNewGrants_getHapTokenInfo hlast sur.env t
  unfold isAllowGrantTempPermission
  generalize s.service.getHapTokenInfo T sur.env t = res at hload ⊢
  obtain ⟨found, w⟩ := res
  refine ⟨w, hload, ?_⟩
  cases found with
  | none => exact .inl rfl
  | some info =>
    dsimp only
    by_cases hp : p ∈ tempPermission
    · rw [if_neg (by simp [hp])]
      unfold checkPermissionState
      simp only [hpriv, Bool.false_eq_true, if_false]
      cases hcheck : checkTempPermissionByType p (collectContext cameraMic sur.live t) with
      | false => exact .inl (by simp)
      | true =>
        right
        exact ⟨_, grantRecorded hsync hagree hcheck info.bundleName, hp, by simp [collectContext]⟩
    · rw [if_pos (by simp [hp])]
      exact .inl rfl

/-- The grant is made by an unprivileged caller, and a temporary one with the bare flag. -/
structure PlainGrant (sur : Surroundings) (flag : Flag) : Prop where
  unprivileged : sur.live.isPrivilegedCalling = false
  bare : hasAny flag permissionAllowThisTime = true → flag = permissionAllowThisTime

theorem cStr_of_mem_tempPermission (h : p ∈ tempPermission) : cStr p = p := by
  revert p
  decide

theorem Tracked.updateTokenPermissionState (h : Tracked T cameraMic settles s) (D : DlpPermissionModeMap)
    (hplain : PlainGrant sur flag) (hvalid : isPermissionFlagValid flag = true)
    (hadmin : isAdminPermissionFlag flag = false) (hagree : AnswersAgree cameraMic s.observer sur.live t) (p : String)
    (g : Bool) :
    Tracked T cameraMic settles (updateTokenPermissionState T D cameraMic sur s t p g flag).2 ∧
      ∀ x, x ≠ t → AnswersAgree cameraMic s.observer sur.live x →
        AnswersAgree cameraMic (updateTokenPermissionState T D cameraMic sur s t p g flag).2.observer sur.live x := by
  have hload := (NoNewGrants.refl h.lasting).load sur.env.findOk t
  unfold TempPermission.updateTokenPermissionState
  generalize s.service.getHapTokenInfoInner T sur.env.findOk t = res at hload ⊢
  obtain ⟨found, w⟩ := res
  have htracked := h.of_noNewGrants hload
  cases found with
  | none => exact ⟨htracked, fun _ _ => id⟩
  | some =>
    dsimp only
    split
    · exact ⟨htracked, fun _ _ => id⟩
    -- a write that makes no temporary grant
    have hwrite : ∀ (s' : World) (env : Env), Tracked T cameraMic settles s' →
        (g = true → flag = permissionAllowThisTime → env.allowTemp = false) →
        Tracked T cameraMic settles
          { s' with service := (Service.updateTokenPermissionState T D s'.service env t p g flag).2 } := by
      intro s' env hs' hnot
      obtain ⟨hl, hg⟩ := @Service.tempGranted_updateTokenPermissionState T _ p env hs'.lasting D _ hvalid hadmin g t
      refine hs'.of_noNewGrants ⟨hl, fun x q hxq => ?_⟩
      obtain hbefore | ⟨hgrant, hallow, -, -, htemp⟩ := hg x q hxq
      · exact hbefore
      · have hflag := hplain.bare hallow
        rw [hnot hgrant hflag] at htemp
        exact absurd (htemp hflag) (by simp)
    by_cases htemp : flag = permissionAllowThisTime ∧ g = true
    · obtain ⟨rfl, rfl⟩ := htemp
      obtain ⟨w', hw', heq | ⟨o, ho, hp, heq⟩⟩ := isAllowGrant_cases htracked.lasting
        hplain.unprivileged (htracked.synced t) hagree p
      · rw [heq]
        exact ⟨hwrite _ _ (htracked.of_noNewGrants hw') fun _ _ => rfl, fun _ _ => id⟩
      rw [heq]
      obtain ⟨hl, hg⟩ := @Service.tempGranted_updateTokenPermissionState T _ p
        { sur.env with allowTemp := true } hw'.1 D _ hvalid hadmin true t
      refine ⟨htracked.grantRecorded ho hp hl fun x q hxq => ?_, ho.agree⟩
      obtain hbefore | ⟨-, -, hx, hq, -⟩ := hg x q hxq
      · exact .inl (hw'.2 x q hbefore)
      · exact .inr ⟨hx, hq.trans (cStr_of_mem_tempPermission hp)⟩
    · have hno : (flag == permissionAllowThisTime && g) = false := by
        rw [Bool.eq_false_iff]
        intro hb
        simp only [Bool.and_eq_true, beq_iff_eq] at hb
        exact htemp hb
      simp only [hno, Bool.false_eq_true, if_false]
      refine ⟨hwrite { s with service := w } _ htracked fun hg hflag => absurd ⟨hflag, hg⟩ htemp, fun _ _ => id⟩

theorem Tracked.foldl_update (D : DlpPermissionModeMap) (hplain : PlainGrant sur flag)
    (hvalid : isPermissionFlagValid flag = true) (hadmin : isAdminPermissionFlag flag = false) (p : String) (g : Bool) :
    ∀ (l : List AccessTokenID) (s : World), l.Nodup → Tracked T cameraMic settles s →
      (∀ x ∈ l, AnswersAgree cameraMic s.observer sur.live x) →
      Tracked T cameraMic settles
        (l.foldl (fun s id => (TempPermission.updateTokenPermissionState T D cameraMic sur s id p g flag).2) s)
  | [], _, _, h, _ => h
  | x :: l, s, hnd, h, hagree => by
    obtain ⟨hx, hnd⟩ := List.nodup_cons.1 hnd
    obtain ⟨h', hkeep⟩ := h.updateTokenPermissionState D hplain hvalid hadmin (hagree x List.mem_cons_self) p g
    refine Tracked.foldl_update D hplain hvalid hadmin p g l _ hnd h' fun y hy => ?_
    exact hkeep y (fun heq => hx (heq ▸ hy)) (hagree y (List.mem_cons_of_mem _ hy))

theorem Tracked.updatePermission (h : Tracked T cameraMic settles s)
    (hplain : PlainGrant sur flag) (hvalid : isPermissionFlagValid flag = true)
    (hadmin : isAdminPermissionFlag flag = false) (hagree : ∀ x, AnswersAgree cameraMic s.observer sur.live x)
    {g : Bool} :
    Tracked T cameraMic settles (TempPermission.updatePermission T D cameraMic sur s t p g flag).2 := by
  obtain ⟨h', hkeep⟩ := h.updateTokenPermissionState D hplain hvalid hadmin (hagree t) p g
  unfold TempPermission.updatePermission
  generalize TempPermission.updateTokenPermissionState T D cameraMic sur s t p g flag = res at h' hkeep ⊢
  obtain ⟨ret, s'⟩ := res
  cases ret with
  | error => exact h'
  | ok =>
    refine Tracked.foldl_update D hplain hvalid hadmin p g _ _ h'.lasting.related_nodup h' fun x hx => ?_
    exact hkeep x (Service.mem_of_related h'.lasting.toTokensSound hx).1 (hagree x)

theorem Tracked.grantPermission (h : Tracked T cameraMic settles s)
    (hplain : PlainGrant sur flag) (hagree : ∀ x, AnswersAgree cameraMic s.observer sur.live x) {updateFlag : Int32} :
    Tracked T cameraMic settles (grantPermission T D cameraMic sur s t p flag updateFlag).2 := by
  unfold TempPermission.grantPermission
  split
  · exact h
  split
  · exact h
  rename_i hcheck
  have hvalid := Service.isPermissionFlagValid_of_checked hcheck
  have hadmin : isAdminPermissionFlag flag = false := by
    unfold Service.checkPermissionParams at hcheck
    split_ifs at hcheck with _ _ hbad
    simpa [hvalid] using hbad
  have hload := Service.noNewGrants_getHapTokenInfo h.lasting sur.env t
  generalize s.service.getHapTokenInfo T sur.env t = res at hload ⊢
  obtain ⟨found, w⟩ := res
  cases found with
  | none => exact h.of_noNewGrants hload
  | some => exact (h.of_noNewGrants hload).updatePermission hplain hvalid hadmin hagree

/-! ## Revocations -/

/-- The observer forgets the pairs in `gone`, and cancels no task but theirs. -/
structure Forgets (cameraMic : Bool) (gone : AccessTokenID → String → Prop) (o o' : TempPermissionObserver) : Prop where
  recorded : ∀ x q, Recorded o' x q ↔ Recorded o x q ∧ ¬gone x q
  tokens : ∀ x q, Recorded o' x q → x ∈ o.tempPermTokenMap → x ∈ o'.tempPermTokenMap
  context : ∀ x q, Recorded o' x q → recordedContext cameraMic o' x = recordedContext cameraMic o x
  fewer : ∀ x q, Pending o' x q → Pending o x q
  pending : ∀ x q, ¬gone x q → Pending o x q → Pending o' x q

theorem Tracked.forgets (h : Tracked T cameraMic settles s) (ho : Forgets cameraMic gone s.observer o)
    (hw : NoNewGrants T s.service w) (hgone : ∀ x q, gone x q → ¬TempGranted T w x q)
    (hidle : settles → ∀ x q, gone x q → ¬Pending o x q) : Tracked T cameraMic settles ⟨w, o⟩ := by
  have hrec : ∀ x q, TempGranted T w x q → Recorded o x q := fun x q hg =>
    (ho.recorded x q).2 ⟨h.recorded x q (hw.2 x q hg), fun hx => hgone x q hx hg⟩
  have hkeeps : ∀ x q, Recorded o x q → (Keeps cameraMic o x q ↔ Keeps cameraMic s.observer x q) := fun x q hq => by
    rw [Keeps, ho.context x q hq, Keeps]
  refine ⟨hw.1, fun x q hq => ?_, fun x q hq => ?_, hrec, fun x q hg hk => ?_, fun hs x q hp => ?_⟩
  · exact ho.tokens x q hq (h.synced x q ((ho.recorded x q).1 hq).1)
  · exact h.names x q ((ho.recorded x q).1 hq).1
  · refine ho.pending x q (fun hx => hgone x q hx hg) ?_
    exact h.covered x q (hw.2 x q hg) fun hkeep => hk ((hkeeps x q (hrec x q hg)).2 hkeep)
  · obtain ⟨hold, hk⟩ := h.due hs x q (ho.fewer x q hp)
    have hq : Recorded o x q := (ho.recorded x q).2 ⟨hold, fun hx => hidle hs x q hx hp⟩
    exact ⟨hq, fun hkeep => hk ((hkeeps x q hq).1 hkeep)⟩

/-- Only tasks are taken away, and none but of the pairs in `gone`. -/
structure FewerTasks (gone : AccessTokenID → String → Prop) (o o' : TempPermissionObserver) : Prop where
  same : ∃ l, o' = { o with delayedTasks := l }
  fewer : ∀ x q, Pending o' x q → Pending o x q
  pending : ∀ x q, ¬gone x q → Pending o x q → Pending o' x q

section Forget

variable {gone : AccessTokenID → String → Prop} {o o₁ o₂ : TempPermissionObserver} {t : AccessTokenID} {p : String}

theorem FewerTasks.refl : FewerTasks gone o o :=
  ⟨⟨o.delayedTasks, rfl⟩, fun _ _ => id, fun _ _ _ => id⟩

theorem FewerTasks.trans (h₁ : FewerTasks gone o o₁) (h₂ : FewerTasks gone o₁ o₂) : FewerTasks gone o o₂ := by
  obtain ⟨l, rfl⟩ := h₁.same
  obtain ⟨l', rfl⟩ := h₂.same
  exact ⟨⟨l', rfl⟩, fun x q h => h₁.fewer x q (h₂.fewer x q h), fun x q hx h => h₂.pending x q hx (h₁.pending x q hx h)⟩

theorem FewerTasks.cancel (hgone : gone t p) :
    FewerTasks gone o (o.cancelTaskOfPermissionRevoking (getTempPermissionTaskName t p)) := by
  refine ⟨⟨_, rfl⟩, fun x q h => (mem_cancelTask.1 h).1, fun x q hx h => mem_cancelTask.2 ⟨h, ?_⟩⟩
  rintro ⟨⟩
  exact hx hgone

theorem FewerTasks.cancelDelayedTasks (o : TempPermissionObserver) (hgone : ∀ q, gone t q) :
    FewerTasks gone o (o.cancelDelayedTasks t) := by
  have hre := cancelDelayedTasks_retasked o t
  refine ⟨hre.same, fun x q h => ?_, fun x q hx h => ?_⟩
  · by_cases hq : x = t ∧ Recorded o t q
    · obtain ⟨rfl, hq⟩ := hq
      exact absurd h ((hre.own q hq).not.2 not_false)
    · exact (hre.other x q hq).1 h
  · exact (hre.other x q fun hq => hx (hq.1 ▸ hgone q)).2 h

theorem FewerTasks.erase (o : TempPermissionObserver) (hgone : gone t p) :
    FewerTasks gone o { o with delayedTasks := o.delayedTasks.erase (t, p) } := by
  refine ⟨⟨_, rfl⟩, fun x q h => List.mem_of_mem_erase h, fun x q hx h => (List.mem_erase_of_ne ?_).2 h⟩
  rintro ⟨⟩
  exact hx hgone

theorem Forgets.after_fewer (h₂ : Forgets cameraMic gone o₁ o₂) (h₁ : FewerTasks gone o o₁) :
    Forgets cameraMic gone o o₂ := by
  obtain ⟨l, rfl⟩ := h₁.same
  exact ⟨h₂.recorded, h₂.tokens, h₂.context, fun x q h => h₁.fewer x q (h₂.fewer x q h),
    fun x q hx h => h₂.pending x q hx (h₁.pending x q hx h)⟩

theorem Forgets.fewer_after (h₁ : Forgets cameraMic gone o o₁) (h₂ : FewerTasks gone o₁ o₂) :
    Forgets cameraMic gone o o₂ := by
  obtain ⟨l, rfl⟩ := h₂.same
  exact ⟨h₁.recorded, h₁.tokens, h₁.context, fun x q h => h₁.fewer x q (h₂.fewer x q h),
    fun x q hx h => h₂.pending x q hx (h₁.pending x q hx h)⟩

theorem recorded_forgetToken (o : TempPermissionObserver) (t x : AccessTokenID) (q : String) :
    Recorded (o.forgetToken t) x q ↔ Recorded o x q ∧ x ≠ t := by
  rw [recorded_iff, recorded_iff]
  unfold forgetToken
  rw [Lib.getElem?_erase]
  split <;> simp [*]

theorem forgetToken_forgets (cameraMic : Bool) (o : TempPermissionObserver) (t : AccessTokenID) :
    Forgets cameraMic (fun x _ => x = t) o (o.forgetToken t) := by
  refine ⟨recorded_forgetToken o t, fun x q hq hx => ?_, fun x q hq => ?_, fun _ _ => id, fun _ _ _ => id⟩
  all_goals have hne := ((recorded_forgetToken o t x q).1 hq).2
  · exact Lib.mem_erase.2 ⟨hne, hx⟩
  · unfold recordedContext findContinuousTask forgetToken
    rw [Lib.getElem?_erase_of_ne hne, Lib.getElem?_erase_of_ne hne]

/-- `RemoveTempPermissionRecord` forgets the pair; the token is forgotten with its last record. -/
theorem remove_forgets (cameraMic : Bool) (o : TempPermissionObserver) (t : AccessTokenID) (p : String) :
    Forgets cameraMic (fun x q => x = t ∧ q = p) o (o.removeTempPermissionRecord t p) := by
  unfold removeTempPermissionRecord
  cases hnames : o.tempPermPermissionMap[t]? with
  | none =>
    refine ⟨fun x q => ⟨fun hq => ⟨hq, ?_⟩, And.left⟩, fun _ _ _ => id, fun _ _ _ => rfl, fun _ _ =>
      id, fun _ _ _ => id⟩
    rintro ⟨rfl, rfl⟩
    obtain ⟨names, hget, -⟩ := recorded_iff.1 hq
    rw [hnames] at hget
    cases hget
  | some names =>
    dsimp only
    have hown : ∀ q, Recorded o t q ↔ q ∈ names := fun q => by
      rw [recorded_iff, hnames]
      simp
    split
    · -- the last record
      rename_i hempty
      have hlast : ∀ q, Recorded o t q → q = p := fun q hq => by
        by_contra hne
        have hmem : q ∈ names.erase p := Lib.mem_set_erase.2 ⟨hne, (hown q).1 hq⟩
        rw [Std.ExtTreeSet.isEmpty_iff] at hempty
        rw [hempty] at hmem
        exact not_mem_empty hmem
      obtain ⟨hrec, htokens, hcontext, hfewer, -⟩ := forgetToken_forgets cameraMic o t
      refine ⟨fun x q => ?_, htokens, hcontext, hfewer, fun _ _ _ => id⟩
      rw [hrec]
      refine and_congr_right fun hq => ⟨fun hx h => hx h.1, fun h hx => h ⟨hx, hlast q (hx ▸ hq)⟩⟩
    · refine ⟨fun x q => ?_, fun _ _ _ => id, fun _ _ _ => rfl, fun _ _ => id, fun _ _ _ => id⟩
      rw [recorded_iff]
      rw [Lib.getElem?_insert]
      by_cases hx : x = t
      · subst hx
        rw [if_pos rfl, hown]
        simp [Lib.mem_set_erase, and_comm, -mem_erase]
      · rw [if_neg hx, ← recorded_iff]
        simp [hx]

end Forget

theorem Tracked.fewerTasks (h : Tracked T cameraMic settles s) (ho : FewerTasks gone s.observer o)
    (hw : NoNewGrants T s.service w) (hgone : ∀ x q, gone x q → TempGranted T w x q → Keeps cameraMic s.observer x q) :
    Tracked T cameraMic settles ⟨w, o⟩ := by
  obtain ⟨l, rfl⟩ := ho.same
  refine ⟨hw.1, h.synced, h.names, fun x q hg => h.recorded x q (hw.2 x q hg), fun x q hg hk => ?_, fun hs x q hp => ?_⟩
  · exact ho.pending x q (fun hx => hk (hgone x q hx hg)) (h.covered x q (hw.2 x q hg) hk)
  · exact h.due hs x q (ho.fewer x q hp)

end TempPermission
end AccessToken
