import AccessToken.TempPermission.Tracking
/-!
# Revoking what is no longer kept

A fired task, the end of an app and the death of the app manager revoke permissions and then forget them.
-/
namespace AccessToken

open Lib (hasAny)

namespace TempPermission

open TempPermissionObserver PermissionDataBrief
open Service

variable {T : PermissionTable} {D : DlpPermissionModeMap} {cameraMic : Bool} {settles : Prop} {s : World}
    {sur : Surroundings} {t : AccessTokenID} {p : String} {w : Service} {inner : HapTokenInfoInner}
    {l : List BriefPermData}

/-! ## A fired task -/

/-- **What firing a task does**, if its revocation succeeds or its permission is to be kept. -/
theorem Tracked.fireTask (h : Tracked T cameraMic settles s) (hok : (fireTask T D sur s t p).1 = .ok () ∨
      (TempGranted T s.service t p → Keeps cameraMic s.observer t p)) :
    Tracked T cameraMic settles (fireTask T D sur s t p).2 := by
  unfold TempPermission.fireTask at hok ⊢
  split
  case isFalse => exact h
  rename_i hpend
  rw [if_pos hpend] at hok
  have herase := @FewerTasks.erase (fun x q => x = t ∧ q = p) t p s.observer ⟨rfl, rfl⟩
  -- the task is consumed and nothing is revoked
  have hkeep : ∀ w, NoNewGrants T s.service w → (TempGranted T w t p → Keeps cameraMic s.observer t p) →
      Tracked T cameraMic settles
        ⟨w, { s.observer with delayedTasks := s.observer.delayedTasks.erase (t, p) }⟩ := fun w hw hk =>
    h.fewerTasks herase hw (by rintro x q ⟨rfl, rfl⟩; exact hk)
  have hstate := getPermissionState_noNewGrants h.lasting sur t
  have hfound := @exists_state T sur s.service t p h.lasting
  unfold revokeTempPermission at hok ⊢
  generalize getPermissionState T sur s.service t = res at hok hstate hfound ⊢
  obtain ⟨states, w⟩ := res
  cases states with
  | none =>
    refine hkeep w hstate fun hg => ?_
    obtain ⟨_, _, heq, -⟩ := hfound (hstate.2 t p hg)
    cases heq
  | some states =>
    dsimp only at hok ⊢
    cases hfind : states.find? (·.permissionName == p) with
    | none =>
      refine hkeep w hstate fun hg => ?_
      obtain ⟨_, st, heq, hst, -⟩ := hfound (hstate.2 t p hg)
      cases heq
      rw [hfind] at hst
      cases hst
    | some st =>
      rw [hfind] at hok
      dsimp only at hok ⊢
      by_cases hflag : hasAny st.grantFlag permissionAllowThisTime = true
      case neg =>
        rw [if_pos (by simpa using hflag)]
        refine hkeep w hstate fun hg => ?_
        obtain ⟨_, st', heq, hst, hflag'⟩ := hfound (hstate.2 t p hg)
        cases heq
        rw [hfind] at hst
        cases hst
        exact absurd hflag' hflag
      rw [if_neg (by simpa using hflag)] at hok ⊢
      have hrevoke := updateRevoked_noNewGrants hstate.1 D sur t p
      have hgone := @not_tempGranted_of_updateRevoked T D sur w t p hstate.1
      generalize updateRevoked T D sur w t p = res at hok hrevoke hgone ⊢
      obtain ⟨ret, w'⟩ := res
      cases ret with
      | error =>
        obtain hok | hk := hok
        · cases hok
        · exact hkeep w' (hstate.trans hrevoke) fun hg => hk (hstate.2 t p (hrevoke.2 t p hg))
      | ok =>
        have hforget := ((remove_forgets cameraMic _ t p).after_fewer herase).fewer_after (FewerTasks.cancel ⟨rfl, rfl⟩)
        refine h.forgets hforget (hstate.trans hrevoke) ?_ ?_
        · rintro x q ⟨rfl, rfl⟩ hg
          rw [← hg.cStr_eq hrevoke.1] at hg
          exact hgone rfl hg
        · rintro - x q ⟨rfl, rfl⟩ hp
          exact (mem_cancelTask.1 hp).2 rfl

/-! ## Revocations that pass -/

/-- The call of `UpdatePermission` does not fail, and what it checks holds. -/
def RevocationPasses (T : PermissionTable) (D : DlpPermissionModeMap) (sur : Surroundings) (w : Service)
    (t : AccessTokenID) (p : String) : Prop :=
  (t, p) ∉ sur.failing ∧ (∀ inner ∈ w.hapTokenInfoMap[t]?, InDlpRange D inner p) ∧
    ∀ c ∈ T.transferPermissionToOpcode p, ∀ d ∈ w.entry t c,
      acceptsFlag permissionAllowThisTime d

instance (w : Service) : Decidable (RevocationPasses T D sur w t p) :=
  inferInstanceAs (Decidable (_ ∧ (∀ inner ∈ _, _ = true) ∧ ∀ c ∈ _, ∀ d ∈ _, _))

theorem updateRevoked_ok {c : Nat} (h : Ready T t inner c w)
    (hnot : (t, p) ∉ sur.failing) (hrange : InDlpRange D inner p) (hc : T.transferPermissionToOpcode p = some c) :
    (updateRevoked T D sur w t p).1 = .ok () := by
  unfold updateRevoked
  rw [if_neg (by simpa using hnot)]
  exact h.revoke_ok hrange hc

theorem ready_updateRevoked {c : Nat} (h : Ready T t inner c w)
    (D : DlpPermissionModeMap) (sur : Surroundings) (x : AccessTokenID) (q : String) :
    Ready T t inner c (updateRevoked T D sur w x q).2 := by
  unfold updateRevoked
  split
  · exact h
  · exact h.revoke

theorem entry_of_mem_states (h : s.service.Lasting T)
    (hl : s.service.requestedPermData[t]? = some l) {d : BriefPermData} (hd : d ∈ l) :
    T.transferPermissionToOpcode (T.transferOpcodeToPermission d.permCode) = some d.permCode ∧
      ∃ d₀, s.service.entry t d.permCode = some d₀ := by
  refine ⟨PermissionTable.transferPermissionToOpcode_transferOpcode (h.entries t l hl d hd).code, ?_⟩
  have hsome : (l.find? (hasCode d.permCode)).isSome = true :=
    List.find?_isSome.2 ⟨d, hd, by simp [hasCode]⟩
  obtain ⟨d₀, hd₀⟩ := Option.isSome_iff_exists.1 hsome
  exact ⟨d₀, Option.bind_eq_some_iff.2 ⟨l, hl, hd₀⟩⟩

theorem live_of_entries (h : s.service.Lasting T)
    (hl : s.service.requestedPermData[t]? = some l) : ∃ inner, s.service.hapTokenInfoMap[t]? = some inner := by
  have hmem : t ∈ s.service.requestedPermData := Lib.mem_iff_exists.2 ⟨_, hl⟩
  exact Lib.mem_iff_exists.1 (h.owned t hmem)

/-- **The loop of `RevokeAllTempPermission` does not stop**, if each of its calls passes. -/
theorem revokeLoop_ok (h : s.service.Lasting T) {l : List BriefPermData}
    (hl : s.service.requestedPermData[t]? = some l) {states : List PermissionStatus}
    (hsub : ∀ st ∈ states, ∃ d ∈ l, st.permissionName = T.transferOpcodeToPermission d.permCode)
    (hpass : ∀ st ∈ states, RevocationPasses T D sur s.service t st.permissionName) (o : TempPermissionObserver) :
    (Lib.forUntil (revokeState T D sur t) { s with observer := o } states).1 = .ok () := by
  obtain ⟨inner, hget⟩ := live_of_entries h hl
  have hready : ∀ st ∈ states, ∃ c, T.transferPermissionToOpcode st.permissionName = some c ∧
      Ready T t inner c s.service := fun st hst => by
    obtain ⟨d, hd, hname⟩ := hsub st hst
    obtain ⟨hcode, d₀, hd₀⟩ := entry_of_mem_states h hl hd
    rw [← hname] at hcode
    exact ⟨d.permCode, hcode, h, hget, d₀, hd₀, (hpass st hst).2.2 _ hcode d₀ hd₀⟩
  refine (Lib.forUntil_establishes (fun cur : World => ∀ c, Ready T t inner c s.service →
    Ready T t inner c cur.service) (fun (_ : Unit) _ => True) (fun _ => ()) states
    { s with observer := o } ?_ (fun _ => id)).1
  intro cur st hst hcur
  obtain ⟨c, hcode, hst₀⟩ := hready st hst
  have hok := updateRevoked_ok (hcur c hst₀) (hpass st hst).1 ((hpass st hst).2.1 inner hget) hcode
  have hnext := fun c' (hc' : Ready T t inner c' s.service) =>
    ready_updateRevoked (hcur c' hc') D sur t st.permissionName
  unfold revokeState
  revert hok hnext
  generalize updateRevoked T D sur cur.service t st.permissionName = res
  obtain ⟨ret, w⟩ := res
  rintro ⟨⟩ hnext
  exact ⟨rfl, hnext, trivial, fun _ => id⟩

/-! ## The end of an app -/

/-- What the loop leaves: no new grants, fewer tasks of the token; if it does not stop, nothing it went through is
granted. -/
theorem revokeLoop_spec (h : s.service.Lasting T) (states : List PermissionStatus) :
    (NoNewGrants T s.service (Lib.forUntil (revokeState T D sur t) s states).2.service ∧
      FewerTasks (fun x _ => x = t) s.observer (Lib.forUntil (revokeState T D sur t) s states).2.observer) ∧
    ((Lib.forUntil (revokeState T D sur t) s states).1 = .ok () → ∀ st ∈ states,
      ¬TempGranted T (Lib.forUntil (revokeState T D sur t) s states).2.service t (cStr st.permissionName)) := by
  have hstep : ∀ (cur : World) (st : PermissionStatus), cur.service.Lasting T →
      NoNewGrants T cur.service (revokeState T D sur t cur st).2.service ∧
        FewerTasks (fun x _ => x = t) cur.observer (revokeState T D sur t cur st).2.observer ∧
        ((revokeState T D sur t cur st).1 = .ok () →
          ¬TempGranted T (revokeState T D sur t cur st).2.service t (cStr st.permissionName)) := by
    intro cur st hcur
    have hrevoke := updateRevoked_noNewGrants hcur D sur t st.permissionName
    have hgone := @not_tempGranted_of_updateRevoked T D sur cur.service t st.permissionName hcur
    unfold revokeState
    generalize updateRevoked T D sur cur.service t st.permissionName = res at hrevoke hgone ⊢
    obtain ⟨ret, w⟩ := res
    cases ret with
    | error => exact ⟨hrevoke, .refl, fun hok => by cases hok⟩
    | ok => exact ⟨hrevoke, .cancel rfl, hgone⟩
  constructor
  · refine @Lib.forUntil_invariant _ _ _ _ (fun cur : World => NoNewGrants T s.service cur.service ∧
      FewerTasks (fun x _ => x = t) s.observer cur.observer) states s (fun cur st _ hcur => ?_) ⟨.refl h, .refl⟩
    obtain ⟨hgrants, htasks, -⟩ := hstep cur st hcur.1.1
    exact ⟨hcur.1.trans hgrants, hcur.2.trans htasks⟩
  · intro hok
    refine (Lib.forUntil_of_ok (fun cur : World => cur.service.Lasting T)
      (fun q (cur : World) => ¬TempGranted T cur.service t (cStr q)) (·.permissionName) states s ?_ h hok).2.2
    intro cur st _ hcur hst
    obtain ⟨hgrants, -, hgone⟩ := hstep cur st hcur
    exact ⟨hgrants.1, hgone hst, fun q hq hg => hq (hgrants.2 t _ hg)⟩

/-- **What the end of an app does**, if each revocation succeeds or what is granted is to be kept. -/
theorem Tracked.onAppStopped (h : Tracked T cameraMic settles s)
    (hok : (onAppStopped T D sur s t).1 = .ok () ∨
      ∀ q, TempGranted T s.service t q → Keeps cameraMic s.observer t q) :
    Tracked T cameraMic settles (onAppStopped T D sur s t).2 := by
  have hcancel := @FewerTasks.cancelDelayedTasks (fun x _ => x = t) t s.observer fun _ => rfl
  have hown := cancelDelayedTasks_retasked s.observer t
  have hmap : (s.observer.cancelDelayedTasks t).tempPermTokenMap = s.observer.tempPermTokenMap := by
    obtain ⟨l, hl⟩ := hcancel.same
    rw [hl]
  unfold TempPermission.onAppStopped revokeAllTempPermission at hok ⊢
  generalize s.observer.cancelDelayedTasks t = o at hok hcancel hown hmap ⊢
  unfold getAppStateListByTokenID at hok ⊢
  rw [hmap] at hok ⊢
  cases hlist : s.observer.tempPermTokenMap[t]? with
  | none =>
    refine h.fewerTasks hcancel (.refl h.lasting) ?_
    rintro x q rfl hg
    have hmem := h.synced x q (h.recorded x q hg)
    rw [Std.ExtTreeMap.mem_iff_isSome_getElem?, hlist] at hmem
    cases hmem
  | some =>
    rw [hlist] at hok
    have hstate := getPermissionState_noNewGrants h.lasting sur t
    have hfound := fun q => @exists_state T sur s.service t q h.lasting
    generalize getPermissionState T sur s.service t = res at hok hstate hfound ⊢
    obtain ⟨states, w⟩ := res
    cases states with
    | none =>
      refine h.fewerTasks hcancel hstate ?_
      rintro x q rfl hg
      obtain ⟨_, _, heq, -⟩ := hfound q (hstate.2 x q hg)
      cases heq
    | some states =>
      dsimp only at hok ⊢
      obtain ⟨⟨hgrants, htasks⟩, hall⟩ := @revokeLoop_spec T D ⟨w, o⟩ sur t hstate.1
        (states.filter fun st => hasAny st.grantFlag permissionAllowThisTime)
      generalize Lib.forUntil (revokeState T D sur t) _ _ = res at hok hgrants htasks hall ⊢
      obtain ⟨ret, s'⟩ := res
      cases ret with
      | error =>
        refine h.fewerTasks (hcancel.trans htasks) (hstate.trans hgrants) ?_
        rintro x q rfl hg
        obtain hok | hkeep := hok
        · cases hok
        · exact hkeep q (hstate.2 x q (hgrants.2 x q hg))
      | ok =>
        refine h.forgets ((forgetToken_forgets cameraMic _ t).after_fewer (hcancel.trans htasks))
          (hstate.trans hgrants) ?_ ?_
        · rintro x q rfl hg
          have hw := hgrants.2 x q hg
          obtain ⟨_, st, heq, hst, hflag⟩ := hfound q (hstate.2 x q hw)
          cases heq
          have hname : st.permissionName = q := by simpa using List.find?_some hst
          have hgone := hall rfl st (List.mem_filter.2 ⟨List.mem_of_find?_eq_some hst, hflag⟩)
          rw [hname, hw.cStr_eq hstate.1] at hgone
          exact hgone hg
        · rintro hs x q rfl hp
          have hp : Pending o x q := htasks.fewer x q hp
          obtain ⟨hrec, -⟩ := h.due hs x q (hcancel.fewer x q hp)
          exact (hown.own q hrec).1 hp

def RevocationsPass (T : PermissionTable) (D : DlpPermissionModeMap) (sur : Surroundings) (w : Service)
    (t : AccessTokenID) : Prop :=
  ∀ st ∈ (w.permissionStateValues T t).getD [], hasAny st.grantFlag permissionAllowThisTime = true →
    RevocationPasses T D sur w t st.permissionName
deriving Decidable

theorem onAppStopped_ok (h : s.service.Lasting T) (hpass : RevocationsPass T D sur s.service t) :
    (onAppStopped T D sur s t).1 = .ok () ∨ ∀ q, ¬TempGranted T s.service t q := by
  cases hl : s.service.requestedPermData[t]? with
  | none =>
    right
    rintro q ⟨c, d, hd, -⟩
    obtain ⟨l, hl', -⟩ := mem_of_entry hd
    rw [hl] at hl'
    cases hl'
  | some l =>
    left
    have hloop := @revokeLoop_ok T D s sur t h l hl
      ((l.map fun d => ⟨T.transferOpcodeToPermission d.permCode, d.status, d.flag⟩).filter
        fun st => hasAny st.grantFlag permissionAllowThisTime) (fun st hst => ?_) (fun st hst => ?_)
      (s.observer.cancelDelayedTasks t)
    · unfold onAppStopped revokeAllTempPermission
      split
      · rfl
      rw [getPermissionState_of_entries h hl]
      dsimp only
      revert hloop
      generalize Lib.forUntil (revokeState T D sur t) _ _ = res
      obtain ⟨ret, s'⟩ := res
      rintro ⟨⟩
      rfl
    · obtain ⟨d, hd, rfl⟩ := List.mem_map.1 (List.mem_filter.1 hst).1
      exact ⟨d, hd, rfl⟩
    · refine hpass st ?_ (List.mem_filter.1 hst).2
      rw [permissionStateValues, hl]
      exact (List.mem_filter.1 hst).1

theorem fireTask_ok (h : s.service.Lasting T) (hpass : RevocationPasses T D sur s.service t p) :
    (fireTask T D sur s t p).1 = .ok () ∨ ¬TempGranted T s.service t p := by
  by_cases hg : TempGranted T s.service t p
  case neg => exact .inr hg
  left
  obtain ⟨states, st, hstate, hfind, hflag⟩ := @exists_state T sur _ _ _ h hg
  obtain ⟨c, d, hd, -, hname⟩ := hg
  obtain ⟨l, hl, hmem⟩ := mem_of_entry hd
  obtain ⟨inner, hget⟩ := live_of_entries h hl
  obtain ⟨hcode, -⟩ := entry_of_mem_states h hl hmem
  rw [permCode_of_entry hd, hname] at hcode
  have hok := @updateRevoked_ok T D sur _ _ _ _ _ ⟨h, hget, d, hd, hpass.2.2 c hcode d hd⟩ hpass.1
    (hpass.2.1 inner hget) hcode
  unfold fireTask revokeTempPermission
  split
  case isFalse => rfl
  rw [hstate]
  dsimp only
  rw [hfind]
  dsimp only
  rw [if_neg (by simpa using hflag)]
  revert hok
  generalize updateRevoked T D sur s.service t p = res
  obtain ⟨ret, w⟩ := res
  rintro ⟨⟩
  rfl

/-! ## The death of the app manager -/

/-- The revocation that follows the death of the app manager also checks its parameters. -/
def DeathRevocationPasses (T : PermissionTable) (D : DlpPermissionModeMap) (sur : Surroundings) (w : Service)
    (t : AccessTokenID) (p : String) : Prop :=
  RevocationPasses T D sur w t p ∧ isManualOnly T p 0 = false ∧
    checkPermissionParams T p permissionAllowThisTime = .ok ()

def Revocable (T : PermissionTable) (D : DlpPermissionModeMap) (sur : Surroundings) (t : AccessTokenID) (p : String)
    (w : Service) : Prop :=
  ∃ inner c, Ready T t inner c w ∧ InDlpRange D inner p ∧ T.transferPermissionToOpcode p = some c ∧
    (t, p) ∉ sur.failing ∧ isManualOnly T p 0 = false ∧
    checkPermissionParams T p permissionAllowThisTime = .ok ()

def Revoking (T : PermissionTable) (D : DlpPermissionModeMap) (sur : Surroundings) (w w' : Service) : Prop :=
  NoNewGrants T w w' ∧ ∀ x q, Revocable T D sur x q w → Revocable T D sur x q w'

theorem Revoking.refl (h : w.Lasting T) : Revoking T D sur w w := ⟨.refl h, fun _ _ => id⟩

theorem Revoking.trans {w₁ w₂ : Service} (h₁ : Revoking T D sur w w₁) (h₂ : Revoking T D sur w₁ w₂) :
    Revoking T D sur w w₂ := ⟨h₁.1.trans h₂.1, fun x q h => h₂.2 x q (h₁.2 x q h)⟩

theorem Revoking.of_ready {w' : Service} (h : NoNewGrants T w w')
    (hready : ∀ x inner c, Ready T x inner c w → Ready T x inner c w') : Revoking T D sur w w' := by
  refine ⟨h, fun x q ⟨inner, c, hw, hrest⟩ => ⟨inner, c, hready x inner c hw, hrest⟩⟩

theorem revoking_getPermissionState (h : w.Lasting T) (t : AccessTokenID) :
    Revoking T D sur w (getPermissionState T sur w t).2 := by
  refine .of_ready (getPermissionState_noNewGrants h sur t) fun x inner c hw => ?_
  have hload := hw.load sur.env.findOk t
  unfold getPermissionState
  split
  · rename_i heq
    rwa [heq] at hload
  · rename_i heq
    rw [heq] at hload
    split <;> exact hload

theorem revoking_revokePermission (h : w.Lasting T) (t : AccessTokenID) (p : String) :
    Revoking T D sur w (revokePermission T D sur w t p).2 := by
  have hload : Revoking T D sur w (getHapTokenInfo T w sur.env t).2 :=
    .of_ready (noNewGrants_getHapTokenInfo h sur.env t) fun x inner c hw =>
      @getHapTokenInfo_invariant T _ sur.env (Ready T x inner c) (fun _ id hw => hw.load sur.env.findOk id) hw t
  unfold revokePermission checkAndUpdatePermissionInner
  split
  · exact .refl h
  split
  · exact .refl h
  split
  · exact .refl h
  generalize getHapTokenInfo T w sur.env t = res at hload ⊢
  obtain ⟨found, w₁⟩ := res
  cases found with
  | none => exact hload
  | some =>
    exact hload.trans (.of_ready (noNewGrants_revoke hload.1.1) fun x inner c hw => hw.revoke)

theorem not_tempGranted_of_revokePermission (h : Revocable T D sur t p w) :
    ¬TempGranted T (revokePermission T D sur w t p).2 t (cStr p) := by
  obtain ⟨inner, c, hready, hrange, hc, hnot, hmanual, hcheck⟩ := h
  unfold revokePermission checkAndUpdatePermissionInner
  rw [if_neg (by simpa using hnot), if_neg (by simp [hmanual]), hcheck]
  rw [hready.lasting.getHapTokenInfo_of_live hready.live]
  exact not_tempGranted_of_updatePermission hready.lasting (hready.revoke_ok hrange hc)

theorem revokeStates_spec (D : DlpPermissionModeMap) (sur : Surroundings) (t : AccessTokenID) :
    ∀ (states : List PermissionStatus) (acc : Ret × Service), acc.2.Lasting T →
      Revoking T D sur acc.2 (revokeStates T D sur t acc states).2 ∧
        ∀ st ∈ states, Revocable T D sur t st.permissionName acc.2 →
          ¬TempGranted T (revokeStates T D sur t acc states).2 t (cStr st.permissionName)
  | [], acc, h => ⟨.refl h, by simp⟩
  | st :: states, acc, h => by
    have hone := @revoking_revokePermission T D sur _ h t st.permissionName
    obtain ⟨hrest, hall⟩ := revokeStates_spec D sur t states
      (acc.1.bind fun _ => (revokePermission T D sur acc.2 t st.permissionName).1,
        (revokePermission T D sur acc.2 t st.permissionName).2) hone.1.1
    refine ⟨hone.trans hrest, fun st' hst' hw hg => ?_⟩
    obtain rfl | hst' := List.mem_cons.1 hst'
    · exact not_tempGranted_of_revokePermission hw (hrest.1.2 t _ hg)
    · exact hall st' hst' (hone.2 t _ hw) hg

theorem revokeAll_spec (D : DlpPermissionModeMap) (sur : Surroundings) :
    ∀ (ids : List AccessTokenID) (acc : Ret × World), acc.2.service.Lasting T →
      Revoking T D sur acc.2.service (ids.foldl (revokeAfterDeath T D sur) acc).2.service ∧
        FewerTasks (fun _ _ => True) acc.2.observer (ids.foldl (revokeAfterDeath T D sur) acc).2.observer ∧
        ∀ x ∈ ids, ∀ q,
          (Recorded acc.2.observer x q → ¬Pending (ids.foldl (revokeAfterDeath T D sur) acc).2.observer x q) ∧
            ((TempGranted T acc.2.service x q → Revocable T D sur x q acc.2.service) →
              ¬TempGranted T (ids.foldl (revokeAfterDeath T D sur) acc).2.service x q)
  | [], acc, h => ⟨.refl h, .refl, by simp⟩
  | t :: ids, acc, h => by
    have hstate := @revoking_getPermissionState T D sur _ h t
    have hfound := fun q => @exists_state T sur acc.2.service t q h
    have hone : Revoking T D sur acc.2.service (revokeAfterDeath T D sur acc t).2.service ∧
        (revokeAfterDeath T D sur acc t).2.observer = acc.2.observer.cancelDelayedTasks t ∧
        ∀ q, Revocable T D sur t q acc.2.service → ¬TempGranted T (revokeAfterDeath T D sur acc t).2.service t q := by
      unfold revokeAfterDeath
      generalize getPermissionState T sur acc.2.service t = res at hstate hfound ⊢
      obtain ⟨states, w⟩ := res
      obtain ⟨hrevoke, hall⟩ := revokeStates_spec D sur t ((states.getD []).filter fun st =>
        hasAny st.grantFlag permissionAllowThisTime) (acc.1, w) hstate.1.1
      refine ⟨hstate.trans hrevoke, rfl, fun q hq hg => ?_⟩
      have hw := hrevoke.1.2 t q hg
      obtain ⟨l, st, heq, hst, hflag⟩ := hfound q (hstate.1.2 t q hw)
      cases heq
      have hname : st.permissionName = q := by simpa using List.find?_some hst
      have hgone := hall st (List.mem_filter.2 ⟨List.mem_of_find?_eq_some hst, hflag⟩) (hname ▸ hstate.2 t q hq)
      rw [hname, hw.cStr_eq hstate.1.1] at hgone
      exact hgone hg
    obtain ⟨hrevoke, hobs, hgone⟩ := hone
    obtain ⟨hrest, htasks, hall⟩ := revokeAll_spec D sur ids (revokeAfterDeath T D sur acc t) hrevoke.1.1
    have hcancel := @FewerTasks.cancelDelayedTasks (fun _ _ => True) t acc.2.observer fun _ => trivial
    rw [← hobs] at hcancel
    have hrec : ∀ x q, Recorded (revokeAfterDeath T D sur acc t).2.observer x q ↔ Recorded acc.2.observer x q := by
      intro x q
      obtain ⟨l, hl⟩ := hcancel.same
      rw [hl]
      exact recorded_congr rfl
    rw [List.foldl_cons]
    refine ⟨hrevoke.trans hrest, hcancel.trans htasks, fun x hx q => ?_⟩
    obtain rfl | hx := List.mem_cons.1 hx
    · refine ⟨fun hq hp => ?_, fun hrevocable hg => ?_⟩
      · have hp := htasks.fewer x q hp
        exact ((cancelDelayedTasks_retasked acc.2.observer x).own q hq).1 hp
      · have hw := hrest.1.2 x q hg
        exact hgone q (hrevocable (hrevoke.1.2 x q hw)) hw
    · obtain ⟨hidle, hgone'⟩ := hall x hx q
      exact ⟨fun hq => hidle ((hrec x q).2 hq),
        fun hrevocable => hgone' fun hw => hrevoke.2 x q (hrevocable (hrevoke.1.2 x q hw))⟩

theorem revocable_of_passes (h : s.service.Lasting T) (hg : TempGranted T s.service t p)
    (hpass : DeathRevocationPasses T D sur s.service t p) : Revocable T D sur t p s.service := by
  obtain ⟨c, d, hd, -, hname⟩ := hg
  obtain ⟨l, hl, hmem⟩ := mem_of_entry hd
  obtain ⟨inner, hget⟩ := live_of_entries h hl
  obtain ⟨hcode, -⟩ := entry_of_mem_states h hl hmem
  rw [permCode_of_entry hd, hname] at hcode
  obtain ⟨⟨hnot, hrange, hacc⟩, hmanual, hcheck⟩ := hpass
  exact ⟨inner, c, ⟨h, hget, d, hd, hacc c hcode d hd⟩, hrange inner hget, hcode, hnot, hmanual, hcheck⟩

/-- **What the death of the app manager does**, if everything granted for this time can be revoked. -/
theorem Tracked.onAppMgrRemoteDiedHandle (h : Tracked T cameraMic settles s)
    (hpass : ∀ t q, TempGranted T s.service t q → DeathRevocationPasses T D sur s.service t q) :
    Tracked T cameraMic settles (onAppMgrRemoteDiedHandle T D sur s).2 := by
  obtain ⟨hrevoke, htasks, hall⟩ := revokeAll_spec D sur s.observer.tempPermTokenMap.keys (.ok (), s) h.lasting
  have hkeys : ∀ x q, Recorded s.observer x q → x ∈ s.observer.tempPermTokenMap.keys := fun x q hq =>
    Std.ExtTreeMap.mem_keys.2 (h.synced x q hq)
  have hforget : Forgets cameraMic (fun _ _ => True) s.observer
      { (s.observer.tempPermTokenMap.keys.foldl (revokeAfterDeath T D sur) (.ok (), s)).2.observer with
        tempPermTokenMap := ∅, tempPermPermissionMap := ∅, continuousTaskIdMap := ∅ } := by
    have hnone : ∀ (o : TempPermissionObserver) x q, ¬Recorded { o with
        tempPermTokenMap := ∅, tempPermPermissionMap := ∅, continuousTaskIdMap := ∅ } x q := fun o x q hq => by
      obtain ⟨names, hget, -⟩ := recorded_iff.1 hq
      simp at hget
    refine ⟨fun x q => ?_, fun x q hq => absurd hq (hnone _ x q), fun x q hq => absurd hq (hnone _ x q), ?_, by simp⟩
    · simpa using hnone _ x q
    · exact fun x q hp => htasks.fewer x q hp
  refine h.forgets hforget hrevoke.1 (fun x q _ hg => ?_) (fun hs x q _ hp => ?_)
  · have hold := hrevoke.1.2 x q hg
    exact (hall x (hkeys x q (h.recorded x q hold)) q).2 (fun hold =>
      revocable_of_passes h.lasting hold (hpass x q hold)) hg
  · have hrec := (h.due hs x q (htasks.fewer x q hp)).1
    exact (hall x (hkeys x q hrec) q).1 hrec hp

end TempPermission
end AccessToken
