import AccessToken.Service.Run
/-!
# The administrator's write and the sandboxes of an application

`UpdateMultiPermissionStatus` writes the token it is called for and then walks the related sandboxes, as the
single-permission path does.  The walk still writes the first token's object: the entries of the sandboxes stay what
they were, and the first token takes the same write again, which changes nothing.
-/
namespace AccessToken

open Std.ExtTreeMap

namespace PermissionDataBrief

variable {T : PermissionTable} {s : PermissionDataBrief}

theorem updateWithNewFlag_idem (old fl : Flag) :
    updateWithNewFlag (updateWithNewFlag old fl) fl = updateWithNewFlag old fl := by
  unfold updateWithNewFlag
  generalize permissionPreAuthorizedCancelable ||| permissionRestrictedByAdmin = mask
  apply BitVec.eq_of_getLsbD_eq
  intro i _
  simp only [BitVec.getLsbD_or, BitVec.getLsbD_and]
  cases fl.getLsbD i <;> cases old.getLsbD i <;> cases mask.getLsbD i <;> rfl

/-- **Writing the same state twice is writing it once.** -/
theorem updatedPermState_idem (g : Bool) (fl : Flag) (d : BriefPermData) :
    updatedPermState g fl (updatedPermState g fl d) = updatedPermState g fl d := by
  simp only [updatedPermState, updateWithNewFlag_idem]
  split <;> rfl

/-- **Under a flag without the component bit** an update succeeds exactly where the entry takes the flag, and then
writes that entry. -/
theorem updatePermissionStatus_plain {fl : Flag} (hcomp : isPermGrantedBySecComp fl = false) (t : AccessTokenID)
    (name : String) (g : Bool) :
    (∃ e, (updatePermissionStatus T s t name g fl).1 = .error e ∧
        ∀ c, T.transferPermissionToOpcode name = some c → ∀ d, s.entry t c = some d → ¬ acceptsFlag fl d) ∨
      ∃ c d, T.transferPermissionToOpcode name = some c ∧ s.entry t c = some d ∧ acceptsFlag fl d ∧
        (updatePermissionStatus T s t name g fl).1 = .ok () ∧
        (updatePermissionStatus T s t name g fl).2.2 = s.modifyEntry t c (updatedPermState g fl) := by
  unfold updatePermissionStatus
  cases hc : T.transferPermissionToOpcode name with
  | none => exact .inl ⟨_, rfl, fun c hc' => by cases hc'⟩
  | some c =>
    simp only [hcomp, Bool.not_false, if_true, Option.some.injEq]
    rcases updatePermStateList_cases t c g fl with ⟨e, he⟩ | ⟨d, hd, hacc, hok⟩
    · refine .inl ⟨e, by rw [he], ?_⟩
      rintro c rfl d hd hacc
      rw [updatePermStateList_of_accepts hd hacc] at he
      cases he
    · exact .inr ⟨c, d, rfl, hd, hacc, by rw [hok], by rw [hok]⟩

end PermissionDataBrief

namespace Service

open Lib (Reaches Always)
open PermissionDataBrief

variable {T : PermissionTable} {D : DlpPermissionModeMap} {w w' w₀ : Service} {g : Bool} {fl : Flag} {env : Env}
    {inner : HapTokenInfoInner} {n : String}

theorem updateAndNotify_of_error (env : Env) {e : AccessTokenError}
    (h : (w.brief.updatePermissionStatus T inner.tokenID n g fl).1 = .error e) :
    (updateAndNotify T w env inner n g fl).1 = .error e := by
  unfold updateAndNotify updatePermissionStatus
  dsimp only
  revert h
  generalize w.brief.updatePermissionStatus T inner.tokenID n g fl = res
  obtain ⟨ret, change, brief⟩ := res
  rintro rfl
  rfl

theorem updateAndNotify_of_ok (env : Env)
    (hok : (w.brief.updatePermissionStatus T inner.tokenID n g fl).1 = .ok ())
    (hmem : inner.tokenID ∈ (w.grantedBrief T inner n g fl).requestedPermData) :
    (updateAndNotify T w env inner n g fl).1 = .ok () := by
  unfold grantedBrief at hmem
  unfold updateAndNotify updatePermissionStatus
  dsimp only
  revert hok hmem
  generalize w.brief.updatePermissionStatus T inner.tokenID n g fl = res
  obtain ⟨ret, change, brief⟩ := res
  rintro rfl hmem
  have hvalues : ∃ values, brief.permissionStateValues T inner.tokenID = some values := by
    rw [permissionStateValues, getElem?_eq_some_getElem hmem]
    exact ⟨_, rfl⟩
  obtain ⟨values, hvalues⟩ := hvalues
  simp only [hvalues]
  split
  · rename_i heq
    split at heq <;> cases heq
  · rfl

/-- **Under a flag without the component bit** granting or revoking succeeds exactly where the entry takes the flag. -/
theorem updateAndNotify_plain (T : PermissionTable) (w : Service) (env : Env) (g : Bool)
    (hcomp : isPermGrantedBySecComp fl = false) (inner : HapTokenInfoInner) (n : String) :
    (∃ e, updateAndNotify T w env inner n g fl = (.error e, w) ∧ ∀ c, T.transferPermissionToOpcode n = some c →
        ∀ d, w.entry inner.tokenID c = some d → ¬ acceptsFlag fl d) ∨
      ∃ c d db, T.transferPermissionToOpcode n = some c ∧ w.entry inner.tokenID c = some d ∧
        acceptsFlag fl d ∧ Database.RowsFrom w.db inner.tokenID (w.grantedStates T inner n g fl) db ∧
        updateAndNotify T w env inner n g fl = (.ok (), { w with
            brief := w.brief.modifyEntry inner.tokenID c (updatedPermState g fl)
            db := db
            kernel := w.grantedKernel T inner n c g fl }) := by
  rcases updatePermissionStatus_plain (s := w.brief) hcomp inner.tokenID n g with
    ⟨e, he, hnot⟩ | ⟨c, d, hc, hd, hacc, hok, hmod⟩
  · have herr := updateAndNotify_of_error env he
    rcases updateAndNotify_cases T w env inner n g fl with ⟨e', heq⟩ | ⟨c, db, -, -, heq⟩
    · exact .inl ⟨e', heq, hnot⟩
    · rw [heq] at herr; cases herr
  have hmem : inner.tokenID ∈ (w.grantedBrief T inner n g fl).requestedPermData := by
    obtain ⟨l, hl, -⟩ := mem_of_entry hd
    rw [mem_grantedBrief, mem_iff_isSome_getElem?, hl]
    rfl
  have hret := updateAndNotify_of_ok env hok hmem
  have hbrief : w.grantedBrief T inner n g fl =
      w.brief.modifyEntry inner.tokenID c (updatedPermState g fl) := hmod
  rcases updateAndNotify_cases T w env inner n g fl with ⟨e', heq⟩ | ⟨c', db, hc', hrows, heq⟩
  · rw [heq] at hret; cases hret
  · cases hc.symm.trans hc'
    exact .inr ⟨c, d, db, hc, hd, hacc, hrows, by rw [heq, hbrief]⟩

/-! ## What the walk writes -/

/-- The entry of `t` under the code `c` took the flag in `w₀` and is in `w` as one write leaves it. -/
def WrittenOnce (g : Bool) (fl : Flag) (t : AccessTokenID) (w₀ : Service) (c : Nat) (w : Service) : Prop :=
  ∃ d, w₀.entry t c = some d ∧ acceptsFlag fl d ∧ w.entry t c = some (updatedPermState g fl d)

/-- From `w₀` to `w` no live token has lost its place, no entry of a live token other than `t` has changed, and an entry
of `t` is as it was or as one write leaves it. -/
structure WritesOnly (g : Bool) (fl : Flag) (t : AccessTokenID) (w₀ w : Service) : Prop where
  live : ∀ (s : AccessTokenID) info, w₀.hapTokenInfoMap[s]? = some info → w.hapTokenInfoMap[s]? = some info
  others : ∀ s ∈ w₀.hapTokenInfoMap, s ≠ t → ∀ c, w.entry s c = w₀.entry s c
  own : ∀ c, w.entry t c = w₀.entry t c ∨ WrittenOnce g fl t w₀ c w

/-- The permission `n` has a code, and its entry is written once. -/
def Written (T : PermissionTable) (g : Bool) (fl : Flag) (t : AccessTokenID) (w₀ : Service) (n : String) (w : Service) :
    Prop :=
  ∃ c, T.transferPermissionToOpcode n = some c ∧ WrittenOnce g fl t w₀ c w

variable {t id s : AccessTokenID} {c : Nat} {findOk : Bool} {d : BriefPermData}

theorem WritesOnly.refl : WritesOnly g fl t w w where
  live _ _ := id
  others _ _ _ _ := rfl
  own _ := .inl rfl

theorem WritesOnly.mem (h : WritesOnly g fl t w₀ w) (hs : s ∈ w₀.hapTokenInfoMap) : s ∈ w.hapTokenInfoMap := by
  rw [mem_iff_isSome_getElem?, h.live s _ (getElem?_eq_some_getElem hs)]
  rfl

theorem WrittenOnce.of_entry (h : WrittenOnce g fl t w₀ c w)
    (he : w'.entry t c = w.entry t c) : WrittenOnce g fl t w₀ c w' := by
  obtain ⟨d, hd, hacc, hentry⟩ := h
  exact ⟨d, hd, hacc, he.trans hentry⟩

theorem WritesOnly.load (h : WritesOnly g fl t w₀ w) (ht : t ∈ w₀.hapTokenInfoMap) :
    WritesOnly g fl t w₀ (getHapTokenInfoInner T w findOk id).2 where
  live s info hs := load_keeps (h.live s info hs)
  others s hs hne c := (entry_load (h.mem hs) c).trans (h.others s hs hne c)
  own c := (h.own c).imp ((entry_load (h.mem ht) c).trans) fun hc => hc.of_entry (entry_load (h.mem ht) c)

theorem Written.load (h : Written T g fl t w₀ n w) (hw : WritesOnly g fl t w₀ w) (ht : t ∈ w₀.hapTokenInfoMap) :
    Written T g fl t w₀ n (getHapTokenInfoInner T w findOk id).2 := by
  obtain ⟨c, hc, hwritten⟩ := h
  exact ⟨c, hc, hwritten.of_entry (entry_load (hw.mem ht) c)⟩

/-- **A second write of the same state does not show.** -/
theorem WrittenOnce.modifyEntry (h : WrittenOnce g fl t w₀ c w) {c' : Nat}
    (hbrief : w'.brief = w.brief.modifyEntry t c' (updatedPermState g fl)) : WrittenOnce g fl t w₀ c w' := by
  obtain ⟨d, hd, hacc, hentry⟩ := h
  refine ⟨d, hd, hacc, ?_⟩
  rw [hbrief, entry_modifyEntry (updatedPermState_permCode g fl)]
  split
  · rw [hentry, Option.map_some, updatedPermState_idem]
  · exact hentry

theorem writtenOnce_of_modifyEntry
    (h : w.entry t c = w₀.entry t c ∨ WrittenOnce g fl t w₀ c w) (hd : w.entry t c = some d)
    (hacc : acceptsFlag fl d) (hbrief : w'.brief = w.brief.modifyEntry t c (updatedPermState g fl)) :
    WrittenOnce g fl t w₀ c w' := by
  rcases h with hsame | hwritten
  · refine ⟨d, hsame.symm.trans hd, hacc, ?_⟩
    rw [hbrief, entry_modifyEntry (updatedPermState_permCode g fl), if_pos ⟨rfl, rfl⟩, hd]
    rfl
  · exact hwritten.modifyEntry hbrief

theorem WritesOnly.getHapTokenInfo (h : WritesOnly g fl t w₀ w) (ht : t ∈ w₀.hapTokenInfoMap) (env : Env)
    (id : AccessTokenID) : WritesOnly g fl t w₀ (getHapTokenInfo T w env id).2 := by
  unfold Service.getHapTokenInfo
  split
  · exact h
  · exact h.load ht

theorem Written.getHapTokenInfo (h : Written T g fl t w₀ n w) (hw : WritesOnly g fl t w₀ w)
    (ht : t ∈ w₀.hapTokenInfoMap) (env : Env) (id : AccessTokenID) :
    Written T g fl t w₀ n (getHapTokenInfo T w env id).2 := by
  unfold Service.getHapTokenInfo
  split
  · exact h
  · exact h.load hw ht

section Walk

variable (hcomp : isPermGrantedBySecComp fl = false) (hinner : inner.tokenID = t)
include hcomp hinner

/-- **One write of `t`** keeps to the entries of `t`. -/
theorem WritesOnly.updateAndNotify (h : WritesOnly g fl t w₀ w) :
    WritesOnly g fl t w₀ (updateAndNotify T w env inner n g fl).2 := by
  subst hinner
  rcases updateAndNotify_plain T w env g hcomp inner n with ⟨e, heq, -⟩ | ⟨c, d, db, -, hd, hacc, -, heq⟩
  · rw [heq]; exact h
  rw [heq]
  refine ⟨h.live, ?_, ?_⟩
  · intro s hs hne c'
    rw [entry_modifyEntry (updatedPermState_permCode g fl),
      if_neg (fun hsame => hne hsame.1.symm)]
    exact h.others s hs hne c'
  · intro c'
    by_cases hc : c = c'
    · subst hc
      exact .inr (writtenOnce_of_modifyEntry (h.own c) hd hacc rfl)
    · refine (h.own c').imp (fun hsame => ?_) (fun hwritten => hwritten.modifyEntry rfl)
      rw [entry_modifyEntry (updatedPermState_permCode g fl), if_neg (fun h => hc h.2)]
      exact hsame

theorem Written.updateAndNotify (h : Written T g fl t w₀ n w) {m : String} :
    Written T g fl t w₀ n (updateAndNotify T w env inner m g fl).2 := by
  subst hinner
  obtain ⟨c, hc, hwritten⟩ := h
  refine ⟨c, hc, ?_⟩
  rcases updateAndNotify_plain T w env g hcomp inner m with ⟨e, heq, -⟩ | ⟨c', d', db, -, -, -, -, heq⟩
  · rw [heq]; exact hwritten
  · rw [heq]; exact hwritten.modifyEntry rfl

theorem written_of_updateAndNotify (h : WritesOnly g fl t w₀ w)
    (hok : (updateAndNotify T w env inner n g fl).1 = .ok ()) :
    Written T g fl t w₀ n (updateAndNotify T w env inner n g fl).2 := by
  subst hinner
  rcases updateAndNotify_plain T w env g hcomp inner n with ⟨e, heq, -⟩ | ⟨c, d, db, hc, hd, hacc, -, heq⟩
  · rw [heq] at hok; cases hok
  · rw [heq]
    exact ⟨c, hc, writtenOnce_of_modifyEntry (h.own c) hd hacc rfl⟩

variable (ht : t ∈ w₀.hapTokenInfoMap) {perms : List String}
include ht

/-- **One round of the walk**, whatever token it is for, writes the entries of `t`. -/
theorem WritesOnly.updateMultiTokenPermissionState (h : WritesOnly g fl t w₀ w) :
    WritesOnly g fl t w₀ (updateMultiTokenPermissionState T w env inner id perms g fl).2 := by
  have hload := h.getHapTokenInfo (T := T) ht env id
  unfold Service.updateMultiTokenPermissionState
  split <;> rename_i heq <;> rw [heq] at hload
  · exact hload
  · exact Lib.forUntil_invariant perms _ (fun w n _ hw => hw.updateAndNotify hcomp hinner) hload

theorem Written.updateMultiTokenPermissionState (h : Written T g fl t w₀ n w) (hw : WritesOnly g fl t w₀ w) :
    Written T g fl t w₀ n (updateMultiTokenPermissionState T w env inner id perms g fl).2 := by
  have hload := h.getHapTokenInfo hw ht env id
  unfold Service.updateMultiTokenPermissionState
  split <;> rename_i heq <;> rw [heq] at hload
  · exact hload
  · exact Lib.forUntil_invariant perms _ (fun w m _ hw => hw.updateAndNotify hcomp hinner) hload

theorem written_of_updateMultiTokenPermissionState {perms : List String} {id : AccessTokenID}
    (h : WritesOnly g fl t w₀ w)
    (hok : (updateMultiTokenPermissionState T w env inner id perms g fl).1 = .ok ()) :
    ∀ n ∈ perms, Written T g fl t w₀ n (updateMultiTokenPermissionState T w env inner id perms g fl).2 := by
  have hload := h.getHapTokenInfo (T := T) ht env id
  unfold updateMultiTokenPermissionState at hok ⊢
  split at hok <;> rename_i heq <;> rw [heq] at hload
  · cases hok
  · refine (Lib.forUntil_of_ok (WritesOnly g fl t w₀) (Written T g fl t w₀) (fun n => n) perms _ ?_ hload hok).2.2
    intro w n _ hw hn
    exact ⟨hw.updateAndNotify hcomp hinner, written_of_updateAndNotify hcomp hinner hw hn,
      fun m hm => hm.updateAndNotify hcomp hinner⟩

end Walk

/-- **The whole operation, where it succeeds**: every named entry of the token is as one write leaves it, and no entry
of another live token has changed. -/
theorem updateMultiPermissionStatus_ok (hcomp : isPermGrantedBySecComp fl = false) (hsound : w.TokensSound)
    {status : Int} {perms : List String} (hok : (updateMultiPermissionStatus T D w env t perms status fl).1 = .ok ()) :
    let w₀ := (getHapTokenInfoInner T w env.findOk t).2
    let w' := (updateMultiPermissionStatus T D w env t perms status fl).2
    WritesOnly (status == permissionGranted) fl t w₀ w' ∧
      ∀ n ∈ perms, Written T (status == permissionGranted) fl t w₀ n w' := by
  have hsound₀ := hsound.load (T := T) env.findOk t
  have hsome := @getHapTokenInfoInner_some T w env.findOk t
  unfold updateMultiPermissionStatus at hok ⊢
  generalize getHapTokenInfoInner T w env.findOk t = res at hok hsound₀ hsome ⊢
  obtain ⟨found, w₀⟩ := res
  cases found with
  | none => cases hok
  | some inner =>
    have hget := hsome rfl
    have ht : t ∈ w₀.hapTokenInfoMap := mem_of_getElem? hget
    have hinner : inner.tokenID = t := hsound₀.keyed t inner hget
    have hfirst : WritesOnly (status == permissionGranted) fl t w₀
        (updateMultiTokenPermissionState T w₀ env inner t perms (status == permissionGranted) fl).2 :=
      WritesOnly.refl.updateMultiTokenPermissionState hcomp hinner ht
    have hwritten := @written_of_updateMultiTokenPermissionState T w₀ w₀ (status == permissionGranted) fl env inner
      t hcomp hinner ht perms t WritesOnly.refl
    dsimp only at hok ⊢
    split at hok
    · cases hok
    revert hfirst hwritten hok
    generalize updateMultiTokenPermissionState T w₀ env inner t perms (status == permissionGranted) fl = res
    obtain ⟨ret, w₁⟩ := res
    intro hfirst hwritten hok
    cases ret with
    | error => cases hok
    | ok =>
      -- the walk repeats the writes of `t`
      refine List.foldlRecOn (motive := fun w => WritesOnly (status == permissionGranted) fl t w₀ w ∧
        ∀ n ∈ perms, Written T (status == permissionGranted) fl t w₀ n w) _ _ ⟨hfirst, hwritten rfl⟩ ?_
      intro w hw x _
      exact ⟨hw.1.updateMultiTokenPermissionState hcomp hinner ht,
        fun n hn => (hw.2 n hn).updateMultiTokenPermissionState hcomp hinner ht hw.1⟩

/-! ## The sandboxes -/

/-- What the administrator's write owes: on every sandbox of `t` what the write of that token alone does where it is not
refused, and on `t` one write.  `w₀` is the state before, `w'` the state after. -/
structure ReachesSandboxes (T : PermissionTable) (D : DlpPermissionModeMap) (env : Env) (t : AccessTokenID)
    (perms : List String) (g : Bool) (fl : Flag) (w₀ w' : Service) : Prop where
  sandbox : ∀ s ∈ w₀.getRelatedSandBoxHapList t, ∀ n ∈ perms, ∀ c, T.transferPermissionToOpcode n = some c →
    (w₀.entry s c).isSome = true → (updateTokenPermissionState T D w₀ env s n g fl).1 = .ok () →
    w'.entry s c = (updateTokenPermissionState T D w₀ env s n g fl).2.entry s c
  own : ∀ n ∈ perms, ∀ c, T.transferPermissionToOpcode n = some c →
    w'.entry t c = (w₀.brief.updatePermissionStatus T t n g fl).2.2.entry t c

/-- Every entry of a sandbox that would take the write holds already what the write would store. -/
def SandboxesHoldAlready (T : PermissionTable) (D : DlpPermissionModeMap) (t : AccessTokenID) (perms : List String)
    (g : Bool) (fl : Flag) (w₀ : Service) : Prop :=
  ∀ s ∈ w₀.getRelatedSandBoxHapList t, ∀ info, w₀.hapTokenInfoMap[s]? = some info → info.isRemote = false →
    ∀ n ∈ perms, isPermDlpModeAvailableToDlpHap info.dlpType (getPermDlpMode D n) = true →
      ∀ c, T.transferPermissionToOpcode n = some c → ∀ d, w₀.entry s c = some d → acceptsFlag fl d →
        updatedPermState g fl d = d

theorem isPermGrantedBySecComp_of_admin (h : isPermissionFlagValidForAdmin fl = true) :
    isPermGrantedBySecComp fl = false := by
  unfold isPermissionFlagValidForAdmin at h
  rw [Bool.or_eq_true, beq_iff_eq, beq_iff_eq] at h
  rcases h with rfl | rfl <;> decide

theorem ne_allowThisTime_of_admin (h : isPermissionFlagValidForAdmin fl = true) : fl ≠ permissionAllowThisTime := by
  rintro rfl
  exact absurd h (by decide)

/-- **The write of a sandbox alone** succeeds exactly where its entry takes the flag and its DLP type allows the
permission. -/
theorem updateTokenPermissionState_admin (D : DlpPermissionModeMap) (env : Env) (g : Bool)
    (hfl : isPermissionFlagValidForAdmin fl = true) {info : HapTokenInfoInner}
    (hget : w.hapTokenInfoMap[s]? = some info) (hid : info.tokenID = s)
    (hc : T.transferPermissionToOpcode n = some c) (hd : w.entry s c = some d) :
    ((updateTokenPermissionState T D w env s n g fl).1 = .ok () ↔
        info.isRemote = false ∧ isPermDlpModeAvailableToDlpHap info.dlpType (getPermDlpMode D n) = true ∧
          acceptsFlag fl d) ∧
      ((updateTokenPermissionState T D w env s n g fl).1 = .ok () →
        (updateTokenPermissionState T D w env s n g fl).2.entry s c = some (updatedPermState g fl d)) := by
  subst hid
  have hload : getHapTokenInfoInner T w env.findOk info.tokenID = (some info, w) := by
    rw [getHapTokenInfoInner, hget]
  have htemp : (fl == permissionAllowThisTime && g && !env.allowTemp) = false := by
    rw [beq_eq_false_iff_ne.2 (ne_allowThisTime_of_admin hfl)]
    rfl
  simp only [updateTokenPermissionState, hload, updateTokenPermissionStateCheck, htemp, Bool.false_eq_true, if_false]
  cases hremote : info.isRemote with
  | true => simp
  | false =>
    cases hdlp : isPermDlpModeAvailableToDlpHap info.dlpType (getPermDlpMode D n) with
    | false => simp
    | true =>
      simp only [Bool.false_eq_true, if_false, if_true, true_and]
      rcases updateAndNotify_plain T w env g (isPermGrantedBySecComp_of_admin hfl) info n with
        ⟨e, heq, hnot⟩ | ⟨c', d', db, hc', hd', hacc, -, heq⟩
      · rw [heq]
        have hnot := hnot c hc d hd
        simp [hnot]
      cases hc.symm.trans hc'
      cases hd.symm.trans hd'
      rw [heq]
      refine ⟨⟨fun _ => hacc, fun _ => rfl⟩, fun _ => ?_⟩
      rw [entry_modifyEntry (updatedPermState_permCode g fl), if_pos ⟨rfl, rfl⟩, hd]
      rfl

/-- **The administrator's write reaches the sandboxes exactly where there is nothing to write**: in every state of the
service, whenever `UpdateMultiPermissionStatus` succeeds. -/
theorem sandboxes_reached_iff (T : PermissionTable) (D : DlpPermissionModeMap) (w : Service)
    (hrun : Reaches (serviceStep T D) Always empty w) (env : Env) (t : AccessTokenID) (perms : List String)
    (status : Int) (fl : Flag) (hfl : isPermissionFlagValidForAdmin fl = true)
    (hok : (updateMultiPermissionStatus T D w env t perms status fl).1 = .ok ()) :
    ReachesSandboxes T D env t perms (status == permissionGranted) fl (getHapTokenInfoInner T w env.findOk t).2
        (updateMultiPermissionStatus T D w env t perms status fl).2 ↔
      SandboxesHoldAlready T D t perms (status == permissionGranted) fl (getHapTokenInfoInner T w env.findOk t).2 := by
  have hcomp := isPermGrantedBySecComp_of_admin hfl
  have hsound := tokensSound_of_reaches hrun
  have hsound₀ := hsound.load (T := T) env.findOk t
  obtain ⟨hwrites, hwritten⟩ := updateMultiPermissionStatus_ok hcomp hsound hok
  revert hsound₀ hwrites hwritten
  generalize (getHapTokenInfoInner T w env.findOk t).2 = w₀
  generalize (updateMultiPermissionStatus T D w env t perms status fl).2 = w'
  generalize (status == permissionGranted) = g
  intro hsound₀ hwrites hwritten
  constructor
  · intro hreach s hs info hget hremote n hn hdlp c hc d hd hacc
    have hne := (mem_of_related hsound₀ hs).1
    obtain ⟨hiff, hentry⟩ := updateTokenPermissionState_admin D env g hfl hget (hsound₀.keyed s info hget) hc hd
    have hsok := hiff.2 ⟨hremote, hdlp, hacc⟩
    have hs' := hreach.sandbox s hs n hn c hc (by rw [hd]; rfl) hsok
    rw [hwrites.others s (mem_of_getElem? hget) hne c, hd, hentry hsok] at hs'
    exact (Option.some.inj hs').symm
  intro hhold
  refine ⟨?_, ?_⟩
  · intro s hs n hn c hc hsome hsok
    obtain ⟨hne, info, hget⟩ := mem_of_related hsound₀ hs
    obtain ⟨d, hd⟩ := Option.isSome_iff_exists.1 hsome
    obtain ⟨hiff, hentry⟩ := updateTokenPermissionState_admin D env g hfl hget (hsound₀.keyed s info hget) hc hd
    obtain ⟨hremote, hdlp, hacc⟩ := hiff.1 hsok
    rw [hwrites.others s (mem_of_getElem? hget) hne c, hd, hentry hsok,
      hhold s hs info hget hremote n hn hdlp c hc d hd hacc]
  · intro n hn c hc
    obtain ⟨c', hc', d, hd, hacc, hentry⟩ := hwritten n hn
    cases hc.symm.trans hc'
    rcases updatePermissionStatus_plain (T := T) (s := w₀.brief) hcomp t n g with
      ⟨e, -, hnot⟩ | ⟨c'', d', hc'', -, -, -, hmod⟩
    · exact absurd hacc (hnot c hc d hd)
    · cases hc.symm.trans hc''
      rw [hentry, hmod, entry_modifyEntry (updatedPermState_permCode g fl), if_pos ⟨rfl, rfl⟩, hd]
      rfl

/-- An application with a full-control DLP instance, both requesting the camera; the second token has the DLP bit. -/
def sandboxed : List ServiceOp :=
  [.createHapTokenInfo .ok sampleParams asksCamera,
    .createHapTokenInfo .ok { sampleParams with instIndex := 1, dlpType := dlpFullControl } asksCamera]

def sandboxFixed : Service :=
  (sandboxed ++ [ServiceOp.setPermissionStatusWithPolicy .ok sampleSandbox [camera] permissionGranted
    permissionFixedByAdminPolicy]).foldl (serviceStep sampleTable ∅) empty

theorem sandboxes_reached_when_fixed_before :
    ReachesSandboxes sampleTable ∅ .ok sampleHap [camera] true
      permissionFixedByAdminPolicy (getHapTokenInfoInner sampleTable sandboxFixed true sampleHap).2
      (updateMultiPermissionStatus sampleTable ∅ sandboxFixed .ok sampleHap
        [camera] permissionGranted permissionFixedByAdminPolicy).2 := by
  refine (sandboxes_reached_iff sampleTable ∅ sandboxFixed (Lib.reaches_always _ _) .ok sampleHap
    [camera] permissionGranted permissionFixedByAdminPolicy (by decide) (by decide +kernel)).2 ?_
  have hrelated : (getHapTokenInfoInner sampleTable sandboxFixed true
      sampleHap).2.getRelatedSandBoxHapList sampleHap = [sampleSandbox] := by
    decide +kernel
  have hentry : (getHapTokenInfoInner sampleTable sandboxFixed true sampleHap).2.entry
      sampleSandbox 0 = some ⟨permissionGranted, 0, 0, permissionFixedByAdminPolicy⟩ := by decide +kernel
  intro s hs info _ _ n hn _ c hc d hd _
  cases List.mem_singleton.1 (hrelated ▸ hs)
  cases List.mem_singleton.1 hn
  cases (show sampleTable.transferPermissionToOpcode camera = some 0 by decide).symm.trans hc
  cases hentry.symm.trans hd
  decide

/-- **The sandboxes are left out**: the administrator grants the camera to the application, the DLP instance would take
the same grant, and its entry stays denied. -/
theorem sandbox_left_out :
    ∃ w, Reaches (serviceStep sampleTable ∅) Always empty w ∧
      (setPermissionStatusWithPolicy sampleTable ∅ w .ok sampleHap [camera]
        permissionGranted permissionFixedByAdminPolicy).1 = .ok () ∧
      sampleSandbox ∈ w.getRelatedSandBoxHapList sampleHap ∧
      (updateTokenPermissionState sampleTable ∅ w .ok sampleSandbox camera true
        permissionFixedByAdminPolicy).1 = .ok () ∧
      (updateTokenPermissionState sampleTable ∅ w .ok sampleSandbox camera true
        permissionFixedByAdminPolicy).2.entry sampleSandbox 0 =
          some ⟨permissionGranted, 0, 0, permissionFixedByAdminPolicy⟩ ∧
      (setPermissionStatusWithPolicy sampleTable ∅ w .ok sampleHap [camera]
        permissionGranted permissionFixedByAdminPolicy).2.entry sampleSandbox 0 =
          some ⟨permissionDenied, 0, 0, permissionDefaultFlag⟩ :=
  ⟨sandboxed.foldl (serviceStep sampleTable ∅) empty, Lib.reaches_always _ _, by decide +kernel,
    by decide +kernel, by decide +kernel, by decide +kernel, by decide +kernel⟩

end Service
end AccessToken
