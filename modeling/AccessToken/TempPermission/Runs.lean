import AccessToken.TempPermission.Revocation
/-!
# Temporary permissions over whole runs

In every run whose events are followed by the observer, a permission granted for this time is recorded, and a task that
revokes it is pending exactly while it is no longer to be kept; and where revocations may fail, such a permission can
still be revoked later as long as no task is spent on a revocation that fails.
-/
namespace AccessToken

open Lib (hasAny Reaches)

namespace TempPermission

open TempPermissionObserver PermissionDataBrief Std.ExtTreeMap
open Service

variable {T : PermissionTable} {D : DlpPermissionModeMap} {cameraMic : Bool} {settles : Prop} {s : World}
    {t : AccessTokenID}

/-! ## The events -/

theorem Tracked.onAppStateChanged (h : Tracked T cameraMic settles s) {state : ApplicationState}
    (hleft : state = .appStateBackground → ¬LeftInBackground cameraMic s.observer t) :
    Tracked T cameraMic settles { s with observer := s.observer.onAppStateChanged cameraMic t state } := by
  unfold TempPermissionObserver.onAppStateChanged
  cases hlist : s.observer.getAppStateListByTokenID t with
  | none => exact h
  | some =>
    cases state with
    | appStateForeground => exact h.handled (handled_foreground hlist) id
    | appStateBackground => exact h.handled (handled_background hlist (hleft rfl)) id
    | other => exact h

/-- A form that becomes visible finds no pasteboard permission about to be revoked. -/
def FormSettles (o : TempPermissionObserver) (form : FormInstance) : Prop :=
  form.formVisibility = .visible → ∀ t ∈ o.getTokenIDByBundle form.bundleName, ¬PasteboardPending o t
deriving Decidable

theorem Tracked.notifyFormInstance (h : Tracked T cameraMic settles s) {form : FormInstance}
    (hform : settles → FormSettles s.observer form) :
    Tracked T cameraMic settles { s with observer := s.observer.notifyFormInstance cameraMic form } := by
  unfold TempPermissionObserver.notifyFormInstance
  cases htoken : s.observer.getTokenIDByBundle form.bundleName with
  | none => exact h
  | some t =>
    dsimp only
    cases hlist : s.observer.getAppStateListByTokenID t with
    | none => exact h
    | some =>
      cases hvisible : form.formVisibility with
      | visible => exact h.handled (handled_formVisible hlist) fun hs => hform hs hvisible t htoken
      | invisible => exact h.handled (handled_formInvisible hlist) id
      | unknown => exact h

theorem Tracked.notifyWhetherFormsVisible (h : Tracked T cameraMic settles s) {forms : List FormInstance}
    (hforms : settles →
      Lib.AllMeet (TempPermissionObserver.notifyFormInstance cameraMic) FormSettles s.observer forms) :
    Tracked T cameraMic settles { s with observer := s.observer.notifyWhetherFormsVisible cameraMic forms } := by
  induction forms generalizing s with
  | nil => exact h
  | cons form forms ih =>
    exact ih (h.notifyFormInstance fun hs => (hforms hs).1) fun hs => (hforms hs).2

/-! ## What a step asks -/

def AllAgree (cameraMic : Bool) (o : TempPermissionObserver) (live : LiveState) : Prop :=
  ∀ x, AnswersAgree cameraMic o live x

theorem allAgree_iff {o : TempPermissionObserver} {live : LiveState} :
    AllAgree cameraMic o live ↔ ∀ x ∈ o.tempPermTokenMap.keys, AnswersAgree cameraMic o live x := by
  refine ⟨fun h x _ => h x, fun h x => ?_⟩
  by_cases hx : x ∈ o.tempPermTokenMap.keys
  · exact h x hx
  · intro list hlist
    refine absurd (mem_keys.2 ?_) hx
    rw [mem_iff_isSome_getElem?, Option.mem_def.1 hlist]
    rfl

-- the quantifier runs over the list, not over all ids
instance (o : TempPermissionObserver) (live : LiveState) : Decidable (AllAgree cameraMic o live) :=
  have := List.decidableBAll (fun x => AnswersAgree cameraMic o live x) o.tempPermTokenMap.keys
  decidable_of_iff _ allAgree_iff.symm

instance (o : TempPermissionObserver) (t : AccessTokenID) : Decidable (LeftInBackground cameraMic o t) :=
  inferInstanceAs (Decidable (_ ∧ _))

/-- The event finds what it has to change: a temporary grant has the bare flag and agrees with what is recorded, an app
that leaves the foreground has no permission whose revocation is not built in, a started task keeps its types. -/
def Followed (cameraMic : Bool) (s : World) : TempOp → Prop
  | .grantPermission sur _ _ flag _ =>
    (hasAny flag permissionAllowThisTime = true → flag = permissionAllowThisTime) ∧
    AllAgree cameraMic s.observer sur.live
  | .onAppStateChanged t state => state = .appStateBackground → ¬LeftInBackground cameraMic s.observer t
  | .onContinuousTaskStart info => TypesKept cameraMic s.observer info
  | _ => True

instance decidableFollowed (s : World) : ∀ op, Decidable (Followed cameraMic s op) := fun op => by
  cases op <;> unfold Followed <;> infer_instance

def Unprivileged : TempOp → Prop
  | .grantPermission sur .. => sur.live.isPrivilegedCalling = false
  | _ => True

instance decidableUnprivileged : ∀ op, Decidable (Unprivileged op) := fun op => by
  cases op <;> unfold Unprivileged <;> infer_instance

structure Initial (T : PermissionTable) (s : World) : Prop where
  lasting : s.service.Lasting T
  empty : s.observer = .empty
  none : ∀ t p, ¬TempGranted T s.service t p

theorem Initial.tracked (h : Initial T s) : Tracked T cameraMic settles s := by
  have hrec : ∀ t q, ¬Recorded s.observer t q := fun t q hq => by
    obtain ⟨names, hget, -⟩ := recorded_iff.1 hq
    rw [h.empty] at hget
    simp [TempPermissionObserver.empty] at hget
  refine ⟨h.lasting, fun t q hq => absurd hq (hrec t q), fun t q hq => absurd hq (hrec t q),
    fun t q hg => absurd hg (h.none t q), fun t q hg => absurd hg (h.none t q), fun _ t q hp => ?_⟩
  rw [TempPermissionObserver.Pending, h.empty] at hp
  cases hp

def Revokes : TempOp → Prop
  | .onAppStopped .. | .onAppMgrRemoteDiedHandle _ | .fireTask .. => True
  | _ => False

def FormsSettle (cameraMic : Bool) (s : World) : TempOp → Prop
  | .notifyWhetherFormsVisible forms =>
    Lib.AllMeet (notifyFormInstance cameraMic) FormSettles s.observer forms
  | _ => True

instance decidableFormsSettle (s : World) : ∀ op, Decidable (FormsSettle cameraMic s op) := fun op => by
  cases op <;> unfold FormsSettle <;> infer_instance

theorem Tracked.step (h : Tracked T cameraMic settles s) {op : TempOp} (hu : Unprivileged op)
    (hf : Followed cameraMic s op) (hforms : settles → FormsSettle cameraMic s op)
    (hrevoke : Revokes op → Tracked T cameraMic settles (tempStep T D cameraMic s op)) :
    Tracked T cameraMic settles (tempStep T D cameraMic s op) := by
  cases op with
  | grantPermission => exact h.grantPermission ⟨hu, hf.1⟩ hf.2
  | onAppStateChanged => exact h.onAppStateChanged hf
  | notifyWhetherFormsVisible => exact h.notifyWhetherFormsVisible hforms
  | onContinuousTaskStart => exact h.handled (handled_taskStart hf) id
  | onContinuousTaskUpdate => exact h.handled handled_taskUpdate id
  | onContinuousTaskStop => exact h.handled handled_taskStop id
  | onAppStopped => exact hrevoke trivial
  | onAppMgrRemoteDiedHandle => exact hrevoke trivial
  | fireTask => exact hrevoke trivial

/-! ## Kept exactly while the keep condition holds -/

def AppManagerLives : TempOp → Prop
  | .onAppMgrRemoteDiedHandle _ => False
  | _ => True

instance decidableAppManagerLives : ∀ op, Decidable (AppManagerLives op) := fun op => by
  cases op <;> unfold AppManagerLives <;> infer_instance

/-- The caller has no background privilege, the app manager lives, and every revocation succeeds. -/
def AllSucceed (T : PermissionTable) (D : DlpPermissionModeMap) (cameraMic : Bool) (s : World) (op : TempOp) : Prop :=
  Unprivileged op ∧ AppManagerLives op ∧ (handle T D cameraMic s op).1 = .ok ()
deriving Decidable

/-- **A temporary permission is recorded, and a task to revoke it is pending exactly while it is not to be kept**, in
every run whose events are followed. -/
theorem temp_permissions_kept_exactly (T : PermissionTable) (D : DlpPermissionModeMap) (cameraMic : Bool) {s₀ s : World}
    (hinit : Initial T s₀)
    (hrun : Reaches (tempStep T D cameraMic)
      (fun s op => AllSucceed T D cameraMic s op ∧ Followed cameraMic s op ∧ FormsSettle cameraMic s op) s₀ s)
    (t : AccessTokenID) (p : String) (hg : TempGranted T s.service t p) :
    Recorded s.observer t p ∧ (Pending s.observer t p ↔ ¬Keeps cameraMic s.observer t p) := by
  have hstep : ∀ s op, Tracked T cameraMic True s →
      (AllSucceed T D cameraMic s op ∧ Followed cameraMic s op ∧ FormsSettle cameraMic s op) →
      Tracked T cameraMic True (tempStep T D cameraMic s op) := by
    rintro s op h ⟨⟨hu, hdied, hok⟩, hf, hforms⟩
    refine h.step hu hf (fun _ => hforms) fun hrevokes => ?_
    cases op with
    | onAppStopped => exact h.onAppStopped (.inl hok)
    | fireTask => exact h.fireTask (.inl hok)
    | onAppMgrRemoteDiedHandle => exact hdied.elim
    | _ => exact hrevokes.elim
  have h := hrun.invariant hstep hinit.tracked
  exact ⟨h.recorded t p hg, fun hp => (h.due trivial t p hp).2, h.covered t p hg⟩

theorem initial_of_entries {w : Service} (h : w.Lasting T)
    (hnone : ∀ x ∈ w.requestedPermData.toList, ∀ d ∈ x.2, ¬AllowedThisTime d) : Initial T ⟨w, .empty⟩ := by
  refine ⟨h, rfl, ?_⟩
  rintro t p ⟨c, d, hd, hallow, -⟩
  obtain ⟨l, hl, hmem⟩ := mem_of_entry hd
  exact hnone (t, l) (mem_toList_iff_getElem?_eq_some.2 hl) d hmem hallow

def pasteboardTable : PermissionTable where
  permList := [⟨"ohos.permission.READ_PASTEBOARD", .userGrant, .aplNormal, .normal, true, false, false, true, false⟩,
    ⟨"ohos.permission.LOCATION", .userGrant, .aplNormal, .normal, true, false, false, true, false⟩]
  names_nodup := by decide
  names_cStr := by decide
  names_valid := by decide
  codes_word := by decide

def installPasteboardApp : ServiceOp :=
  .createHapTokenInfo .ok sampleParams { samplePolicy with
    permStateList := [⟨"ohos.permission.READ_PASTEBOARD", permissionDenied, permissionDefaultFlag⟩,
      ⟨"ohos.permission.LOCATION", permissionDenied, permissionDefaultFlag⟩] }

def pasteboardApp : World := ⟨serviceStep pasteboardTable ∅ empty installPasteboardApp, .empty⟩

theorem initial_pasteboardApp : Initial pasteboardTable pasteboardApp :=
  initial_of_entries (lasting_of_reaches (Lib.reaches_always [installPasteboardApp] Service.empty)) (by decide +kernel)

/-- The app is in the foreground, without forms and tasks; the calls for the given permissions fail. -/
def inForeground (failing : TokenPerms) : Surroundings :=
  ⟨.ok, ⟨[sampleHap], fun _ => false, [], false⟩, failing⟩

def allowThisTime (p : String) : TempOp :=
  .grantPermission (inForeground []) sampleHap p permissionAllowThisTime 0

def toBackground : TempOp := .onAppStateChanged sampleHap .appStateBackground

/-- A form of the app becomes visible while its pasteboard permission is about to be revoked. -/
def formShown : List TempOp :=
  [allowThisTime "ohos.permission.READ_PASTEBOARD", toBackground,
    .notifyWhetherFormsVisible [⟨"app", 0, 100, .visible⟩]]

/-- **The task of a pasteboard permission outlives the return of its keep condition**: a visible form takes back the
tasks of the location permissions only. -/
theorem pasteboard_task_outlives_form :
    Initial pasteboardTable pasteboardApp ∧
      Lib.AllMeet (tempStep pasteboardTable ∅ false) (AllSucceed pasteboardTable ∅ false) pasteboardApp formShown ∧
      TempGranted pasteboardTable (formShown.foldl (tempStep pasteboardTable ∅ false) pasteboardApp).service
        sampleHap "ohos.permission.READ_PASTEBOARD" ∧
      Pending (formShown.foldl (tempStep pasteboardTable ∅ false) pasteboardApp).observer
        sampleHap "ohos.permission.READ_PASTEBOARD" ∧
      Keeps false (formShown.foldl (tempStep pasteboardTable ∅ false) pasteboardApp).observer
        sampleHap "ohos.permission.READ_PASTEBOARD" :=
  ⟨initial_pasteboardApp, by decide +kernel,
    ⟨0, ⟨permissionGranted, 0, 0, permissionAllowThisTime⟩, by decide +kernel, by decide, by decide⟩, by decide +kernel,
    by decide +kernel⟩

def backAndForth : List TempOp :=
  [allowThisTime "ohos.permission.LOCATION", toBackground,
    .onAppStateChanged sampleHap .appStateForeground]

theorem location_kept_in_foreground :
    Recorded (backAndForth.foldl (tempStep pasteboardTable ∅ false) pasteboardApp).observer
        sampleHap "ohos.permission.LOCATION" ∧
      (Pending (backAndForth.foldl (tempStep pasteboardTable ∅ false) pasteboardApp).observer
          sampleHap "ohos.permission.LOCATION" ↔
        ¬Keeps false (backAndForth.foldl (tempStep pasteboardTable ∅ false) pasteboardApp).observer
          sampleHap "ohos.permission.LOCATION") :=
  temp_permissions_kept_exactly pasteboardTable ∅ false initial_pasteboardApp
    (Lib.reaches_foldl backAndForth pasteboardApp (by decide +kernel)) sampleHap
    "ohos.permission.LOCATION"
      ⟨1, ⟨permissionGranted, 0, 1, permissionAllowThisTime⟩, by decide +kernel, by decide, by decide⟩

/-! ## Never orphaned -/

def DeathRevocationsPass (T : PermissionTable) (D : DlpPermissionModeMap) (sur : Surroundings) (s : World) : Prop :=
  ∀ t ∈ s.observer.tempPermTokenMap.keys, ∀ st ∈ (s.service.permissionStateValues T t).getD [],
    hasAny st.grantFlag permissionAllowThisTime = true → DeathRevocationPasses T D sur s.service t st.permissionName

instance (sur : Surroundings) (t : AccessTokenID) (p : String) :
    Decidable (DeathRevocationPasses T D sur s.service t p) :=
  inferInstanceAs (Decidable (_ ∧ _ ∧ _))

instance (sur : Surroundings) : Decidable (DeathRevocationsPass T D sur s) := List.decidableBAll _ _

/-- What the operation revokes can be revoked, or is still to be kept. -/
def RevocationsSafe (T : PermissionTable) (D : DlpPermissionModeMap) (cameraMic : Bool) (s : World) : TempOp → Prop
  | .onAppStopped sur t => RevocationsPass T D sur s.service t ∨
      ∀ q ∈ s.observer.getTempPermissionNames t, Keeps cameraMic s.observer t q
  | .onAppMgrRemoteDiedHandle sur => DeathRevocationsPass T D sur s
  | .fireTask sur t p => RevocationPasses T D sur s.service t p ∨ Keeps cameraMic s.observer t p
  | _ => True

instance decidableRevocationsSafe (s : World) : ∀ op, Decidable (RevocationsSafe T D cameraMic s op) := fun op => by
  cases op <;> unfold RevocationsSafe <;> infer_instance

theorem Tracked.deathPasses (h : Tracked T cameraMic settles s) {sur : Surroundings}
    (hpass : DeathRevocationsPass T D sur s) {q : String} (hg : TempGranted T s.service t q) :
    DeathRevocationPasses T D sur s.service t q := by
  have hkey := mem_keys.2 (h.synced t q (h.recorded t q hg))
  obtain ⟨c, d, hd, hallow, rfl⟩ := hg
  obtain ⟨l, hl, hmem⟩ := mem_of_entry hd
  have hcode := permCode_of_entry hd
  refine hpass t hkey ⟨T.transferOpcodeToPermission c, d.status, d.flag⟩ ?_ hallow.2
  rw [permissionStateValues, hl]
  exact List.mem_map.2 ⟨d, hmem, by rw [hcode]⟩

/-- **A temporary permission is never orphaned**, in every run that spends no task on a revocation that fails. -/
theorem temp_permissions_never_orphaned (T : PermissionTable) (D : DlpPermissionModeMap) (cameraMic : Bool)
    {s₀ s : World} (hinit : Initial T s₀)
    (hrun : Reaches (tempStep T D cameraMic)
      (fun s op => Unprivileged op ∧ Followed cameraMic s op ∧ RevocationsSafe T D cameraMic s op) s₀ s)
    (t : AccessTokenID) (p : String) (hg : TempGranted T s.service t p) :
    Pending s.observer t p ∨ Recorded s.observer t p ∧ Keeps cameraMic s.observer t p := by
  have hstep : ∀ s op, Tracked T cameraMic False s →
      (Unprivileged op ∧ Followed cameraMic s op ∧ RevocationsSafe T D cameraMic s op) →
      Tracked T cameraMic False (tempStep T D cameraMic s op) := by
    rintro s op h ⟨hu, hf, hsafe⟩
    refine h.step hu hf False.elim fun hrevokes => ?_
    cases op with
    | onAppStopped sur t =>
      refine h.onAppStopped ?_
      obtain hpass | hkeep := hsafe
      · exact (onAppStopped_ok h.lasting hpass).imp_right fun hnone q hg => absurd hg (hnone q)
      · exact .inr fun q hg => hkeep q (h.recorded t q hg)
    | fireTask =>
      refine h.fireTask ?_
      obtain hpass | hkeep := hsafe
      · exact (fireTask_ok h.lasting hpass).imp_right fun hnone hg => absurd hg hnone
      · exact .inr fun _ => hkeep
    | onAppMgrRemoteDiedHandle => exact h.onAppMgrRemoteDiedHandle fun t q hg => h.deathPasses hsafe hg
    | _ => exact hrevokes.elim
  have h := hrun.invariant hstep hinit.tracked
  by_cases hk : Keeps cameraMic s.observer t p
  · exact .inr ⟨h.recorded t p hg, hk⟩
  · exact .inl (h.covered t p hg hk)

def stoppedInBackground : List TempOp :=
  [allowThisTime "ohos.permission.LOCATION", toBackground,
    .onAppStopped (inForeground [(sampleHap, "ohos.permission.LOCATION")])
      sampleHap]

/-- **A failed revocation orphans the permission**: the task is cancelled before it. -/
theorem location_orphaned_by_failed_revocation :
    Initial pasteboardTable pasteboardApp ∧
      TempGranted pasteboardTable (stoppedInBackground.foldl (tempStep pasteboardTable ∅ false) pasteboardApp).service
        sampleHap "ohos.permission.LOCATION" ∧
      ¬Pending (stoppedInBackground.foldl (tempStep pasteboardTable ∅ false) pasteboardApp).observer
        sampleHap "ohos.permission.LOCATION" ∧
      ¬Keeps false (stoppedInBackground.foldl (tempStep pasteboardTable ∅ false) pasteboardApp).observer
        sampleHap "ohos.permission.LOCATION" :=
  ⟨initial_pasteboardApp,
    ⟨1, ⟨permissionGranted, 0, 1, permissionAllowThisTime⟩, by decide +kernel, by decide, by decide⟩,
    by decide +kernel, by decide +kernel⟩

/-- Both permissions are granted, the app goes to the background, and the task of the pasteboard fires. -/
def pasteboardFired : List TempOp :=
  [allowThisTime "ohos.permission.LOCATION", allowThisTime "ohos.permission.READ_PASTEBOARD", toBackground,
    .fireTask (inForeground []) sampleHap "ohos.permission.READ_PASTEBOARD"]

theorem location_not_orphaned_by_pasteboard :
    Pending (pasteboardFired.foldl (tempStep pasteboardTable ∅ false) pasteboardApp).observer
        sampleHap "ohos.permission.LOCATION" ∨
      Recorded (pasteboardFired.foldl (tempStep pasteboardTable ∅ false) pasteboardApp).observer
          sampleHap "ohos.permission.LOCATION" ∧
        Keeps false (pasteboardFired.foldl (tempStep pasteboardTable ∅ false) pasteboardApp).observer
          sampleHap "ohos.permission.LOCATION" :=
  temp_permissions_never_orphaned pasteboardTable ∅ false initial_pasteboardApp
    (Lib.reaches_foldl pasteboardFired pasteboardApp (by decide +kernel)) sampleHap
    "ohos.permission.LOCATION"
      ⟨1, ⟨permissionGranted, 0, 1, permissionAllowThisTime⟩, by decide +kernel, by decide, by decide⟩

end TempPermission
end AccessToken
