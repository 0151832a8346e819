import AccessToken.Service.EntrySteps
/-!
# Decisions fixed by the administrator

A permission fixed by the administrator refuses every grant and revoke that is not an administrator's, of the list and
of the components alike.  A reset keeps it too, unless the application is pre-authorised for it: that branch is tried
first and grants the permission, whatever the administrator decided.
-/
namespace AccessToken
namespace Service

open Lib (Reaches Always hasAny)
open PermissionDataBrief

variable {T : PermissionTable} {D : DlpPermissionModeMap} {w w' : Service} {fl fl₀ : Flag} {d : BriefPermData}
    {t : AccessTokenID} {c : Nat} {st : Int}

/-- The flags of a decision of the administrator: alone, pre-authorised, under a user policy, or both. -/
def adminFixedFlags : List Flag :=
  [permissionFixedByAdminPolicy,
    permissionFixedByAdminPolicy ||| permissionPreAuthorizedCancelable,
    permissionFixedByAdminPolicy ||| permissionRestrictedByAdmin,
    permissionFixedByAdminPolicy ||| permissionPreAuthorizedCancelable ||| permissionRestrictedByAdmin]

def AdminFixed (fl : Flag) : Prop := fl ∈ adminFixedFlags
deriving Decidable

theorem AdminFixed.elim (h : AdminFixed fl) {P : Flag → Prop} (hall : adminFixedFlags.Forall P) : P fl :=
  List.forall_iff_forall_mem.1 hall fl h

def NonAdminFlag (fl : Flag) : Prop :=
  hasAny fl (permissionFixedByAdminPolicy ||| permissionAdminPoliciesCancel ||| permissionSystemFixed) = false
deriving Decidable

/-! ## One entry -/

theorem AdminFixed.hasFixed (h : AdminFixed fl) : hasAny fl permissionFixedByAdminPolicy = true := by
  exact h.elim (P := fun fl => hasAny fl permissionFixedByAdminPolicy = true) (by decide)

theorem AdminFixed.masked (h : AdminFixed fl) : fl &&& permissionFixedByAdminPolicy = permissionFixedByAdminPolicy := by
  exact h.elim (P := fun fl => fl &&& permissionFixedByAdminPolicy = permissionFixedByAdminPolicy) (by decide)

/-- **The list refuses** a change of an entry fixed by the administrator. -/
theorem AdminFixed.not_acceptsFlag (h : AdminFixed d.flag) (hfl : NonAdminFlag fl) : ¬acceptsFlag fl d := by
  rintro ⟨-, hrestricted, -⟩
  unfold NonAdminFlag at hfl
  rw [Lib.hasAny_or_right, Lib.hasAny_or_right, Bool.or_eq_false_iff, Bool.or_eq_false_iff] at hfl
  obtain ⟨⟨hfixed, hcancel⟩, hsystem⟩ := hfl
  unfold isRestrictedPermission at hrestricted
  rw [h.masked, Lib.hasAny_eq_false.1 hfixed, Lib.hasAny_eq_false.1 hcancel,
    Lib.hasAny_eq_false.1 hsystem] at hrestricted
  exact absurd hrestricted (by decide)

/-- **A reset keeps the decision, except that it grants what is pre-authorised.** -/
theorem AdminFixed.reset (h : AdminFixed d.flag) : resetPermState d =
      { d with status := if hasAny d.flag permissionPreAuthorizedCancelable then permissionGranted else d.status } := by
  obtain ⟨hsystem, hpre⟩ := h.elim (P := fun fl => hasAny fl permissionSystemFixed = false ∧
    (hasAny fl permissionPreAuthorizedCancelable = true → permissionPreAuthorizedCancelable |||
        (fl &&& (permissionFixedByAdminPolicy ||| permissionRestrictedByAdmin)) = fl)) (by decide)
  unfold resetPermState
  dsimp only
  rw [hsystem, if_neg Bool.false_ne_true]
  split
  · rename_i hyes
    rw [hpre hyes]
  · rw [if_pos h.hasFixed]

/-- **The merge takes the decision over**: it is neither a default nor cancelled, and the new flag is the same. -/
theorem AdminFixed.merge (h : AdminFixed fl) {o n : BriefPermData} (ho : o.flag = fl) (hn : n.flag = fl) :
    updatePermStatus o n = { n with status := o.status, flag := fl } := by
  obtain ⟨hcancel, hsystem, hdefault, hpre, hflag⟩ := h.elim (P := fun fl =>
    hasAny fl permissionAdminPoliciesCancel = false ∧ (fl == permissionSystemFixed) = false ∧
      (fl == permissionDefaultFlag) = false ∧ (fl == permissionPreAuthorizedCancelable) = false ∧
      getFlagWithoutSpecifiedElement fl permissionRestrictedByAdmin ||| (fl &&& permissionRestrictedByAdmin) = fl)
    (by decide)
  have hkeeps : keepsInitializedState o n = false := by
    unfold keepsInitializedState
    rw [ho, hn, hcancel, hsystem, hdefault, hpre]
    simp
  unfold updatePermStatus
  rw [hkeeps, if_neg Bool.false_ne_true, ho, hn, hflag]

/-! ## The service -/

def Decided (t : AccessTokenID) (c : Nat) (st : Int) (fl : Flag) (w : Service) : Prop :=
  ∃ d, w.entry t c = some d ∧ d.status = st ∧ d.flag = fl

section

variable {t x : AccessTokenID} {c : Nat} {st : Int} {fl₀ : Flag} {env : Env} {n : String} {g : Bool}

theorem Decided.of_entry (h : w.Decided t c st fl₀) (heq : w'.entry t c = w.entry t c) :
    w'.Decided t c st fl₀ := by
  obtain ⟨d, hd, hst⟩ := h
  exact ⟨d, heq.trans hd, hst⟩

theorem Decided.load (h : w.Decided t c st fl₀) (hw : w.Lasting T) {findOk : Bool} :
    (getHapTokenInfoInner T w findOk x).2.Decided t c st fl₀ := by
  obtain ⟨d, hd, -⟩ := id h
  exact h.of_entry (entry_load (hw.live hd) c)

/-- **A grant or revoke that is not an administrator's** does not reach the decision. -/
theorem Decided.updateAndNotify (h : w.Decided t c st fl₀) (hfixed : AdminFixed fl₀)
    {inner : HapTokenInfoInner} (hfl : NonAdminFlag fl) :
    (updateAndNotify T w env inner n g fl).2.Decided t c st fl₀ := by
  obtain ⟨d, hd, hst, rfl⟩ := id h
  rcases updateAndNotify_cases T w env inner n g fl with ⟨e, heq⟩ | ⟨c', db, _, _, heq⟩
  · rw [heq]
    exact h
  rw [heq]
  refine h.of_entry ?_
  unfold grantedBrief
  rcases PermissionDataBrief.updatePermissionStatus_cases inner.tokenID n g fl with
    hsame | ⟨c', -, ⟨-, d', hd', hacc, -, hbrief⟩ | ⟨-, -, hno, -, -, hbrief⟩⟩
  · rw [hsame]
  · rw [hbrief, entry_modifyEntry (updatedPermState_permCode g fl), if_neg]
    rintro ⟨rfl, rfl⟩
    obtain rfl : d' = d := Option.mem_unique hd' hd
    exact hfixed.not_acceptsFlag hfl hacc
  · rw [hbrief, entry_setSecComp, if_neg]
    rintro ⟨rfl, rfl⟩
    rw [queriedStatusAndFlag_of_entry hd, hfixed.hasFixed] at hno
    cases hno

/-- **A reset of the token** grants the permission if it is pre-authorised and keeps the decision otherwise; the reset
of another token does not touch it. -/
theorem Decided.clearUserGrantedPermission (h : w.Decided t c st fl₀) (hw : w.Lasting T) (hfixed : AdminFixed fl₀)
    (D : DlpPermissionModeMap) (env : Env) (x : AccessTokenID) :
    (clearUserGrantedPermission T D w env x).2.Decided t c
      (if x = t ∧ hasAny fl₀ permissionPreAuthorizedCancelable = true then permissionGranted else st) fl₀ := by
  obtain ⟨d, hd, rfl, rfl⟩ := id h
  by_cases hx : x = t
  · subst hx
    obtain ⟨inner, hget⟩ := Lib.mem_iff_exists.1 (hw.live hd)
    have hid := hw.keyed x inner hget
    obtain ⟨l, hl, -⟩ := mem_of_entry hd
    obtain ⟨k, heq⟩ := clearUserGrantedPermission_of_live (T := T) D env hget (hw.localOnly x inner hget)
      (by rw [hid, Std.ExtTreeMap.mem_iff_isSome_getElem?, hl]; rfl)
    rw [← hid] at hd
    obtain ⟨d₀, hflag, hentry⟩ := entry_resetBrief hw.entries D hd
    have hkept : (resetPermState d).flag = d.flag := by rw [hfixed.reset]
    rw [hid, hfixed.merge hkept (hflag.trans hkept), hfixed.reset] at hentry
    rw [heq]
    refine ⟨_, hentry, ?_, rfl⟩
    simp only [true_and]
  · rw [if_neg (fun hand => hx hand.1)]
    exact h.of_entry (hw.entry_clear_of_ne (hw.live hd) hx)

theorem Decided.changePermission (h : w.Decided t c st fl₀) (hw : w.Lasting T) (hfixed : AdminFixed fl₀)
    (hfl : NonAdminFlag fl) {updateFlag : Int32} :
    (changePermission T D w env x n g fl updateFlag).2.Decided t c st fl₀ := by
  let Kept : Service → Prop := fun w => w.Lasting T ∧ w.Decided t c st fl₀
  have hboth : Kept (Service.changePermission T D w env x n g fl updateFlag).2 := changePermission_invariant Kept
    (fun w x hw => ⟨hw.1.load env.findOk x, hw.2.load hw.1⟩)
    (fun hvalid w _ inner n hw _ _ (_ : True) =>
      ⟨hw.1.updateAndNotify env inner n g hvalid, hw.2.updateAndNotify hfixed hfl⟩)
    ⟨hw, h⟩ (updatePermissionMeets_of_forall T D env g fl (fun _ _ => trivial))
  exact hboth.2

theorem Decided.clear_of_granted (h : w.Decided t c st fl₀) (hw : w.Lasting T) (hfixed : AdminFixed fl₀)
    (hpre : hasAny fl₀ permissionPreAuthorizedCancelable = true → st = permissionGranted) :
    (Service.clearUserGrantedPermission T D w env x).2.Decided t c st fl₀ := by
  have hreset := h.clearUserGrantedPermission hw hfixed D env x
  split at hreset
  · rename_i hand
    rw [hpre hand.2]
    exact hreset
  · exact hreset

theorem Decided.clearUserGrantedPermissionState
    (h : (Service.clearUserGrantedPermission T D w env x).2.Decided t c st fl₀) (hw : w.Lasting T)
    (hfixed : AdminFixed fl₀) (hpre : hasAny fl₀ permissionPreAuthorizedCancelable = true → st = permissionGranted) :
    (clearUserGrantedPermissionState T D w env x).2.Decided t c st fl₀ := by
  have hw₁ := hw.clearUserGrantedPermission (D := D) env x
  unfold Service.clearUserGrantedPermissionState
  split <;> rename_i heq <;> rw [heq] at h hw₁
  · exact h
  · exact (List.foldlRecOn (motive := fun (w : Service) => w.Lasting T ∧ w.Decided t c st fl₀) _ _ ⟨hw₁, h⟩
      (fun w hw x _ => ⟨hw.1.clearUserGrantedPermission env x, hw.2.clear_of_granted hw.1 hfixed hpre⟩)).2

end

/-! ## Whole runs -/

/-- The operations on `t` that are not an administrator's. -/
def NonAdminOn (t : AccessTokenID) : ServiceOp → Prop
  | .grantPermission _ id _ fl _ => id = t ∧ NonAdminFlag fl
  | .revokePermission _ id _ fl _ => id = t ∧ NonAdminFlag fl
  | .clearUserGrantedPermissionState _ id => id = t
  | .clearAllSecCompGrantedPerm => True
  | _ => False

theorem Decided.step (h : w.Decided t c st fl₀) (hw : w.Lasting T)
    (hfixed : AdminFixed fl₀) (hpre : hasAny fl₀ permissionPreAuthorizedCancelable = true → st = permissionGranted)
    {op : ServiceOp} (hop : NonAdminOn t op) : (serviceStep T D w op).Decided t c st fl₀ := by
  cases op with
  | grantPermission => exact h.changePermission hw hfixed hop.2
  | revokePermission => exact h.changePermission hw hfixed hop.2
  | clearUserGrantedPermissionState =>
    exact (h.clear_of_granted hw hfixed hpre).clearUserGrantedPermissionState hw hfixed hpre
  | clearAllSecCompGrantedPerm => exact h.of_entry rfl
  | _ => exact hop.elim

/-- **A run of such operations** keeps the decision. -/
theorem Decided.run (hfixed : AdminFixed fl₀)
    (hpre : hasAny fl₀ permissionPreAuthorizedCancelable = true → st = permissionGranted) :
    ∀ (ops : List ServiceOp) (w : Service), w.Decided t c st fl₀ → w.Lasting T → (∀ op ∈ ops, NonAdminOn t op) →
      (ops.foldl (serviceStep T D) w).Decided t c st fl₀
  | [], _, h, _, _ => h
  | op :: ops, w, h, hw, hops =>
    Decided.run hfixed hpre ops (serviceStep T D w op) (h.step hw hfixed hpre (hops op List.mem_cons_self))
      ((keptByOps_lasting D).step hw) (fun o ho => hops o (List.mem_cons_of_mem _ ho))

/-- The stored status, the administrator's bit and the verified status of the permission are what they were. -/
def SameDecision (w w' : Service) (t : AccessTokenID) (c : Nat) : Prop :=
  ∃ d d', w.entry t c = some d ∧ w'.entry t c = some d' ∧ d'.status = d.status ∧
    hasAny d'.flag permissionFixedByAdminPolicy = hasAny d.flag permissionFixedByAdminPolicy ∧
    w'.verifyPermissionStatus t c = w.verifyPermissionStatus t c

theorem sameDecision_of_decided (hd : w.entry t c = some d)
    (h : w'.Decided t c d.status d.flag) : SameDecision w w' t c := by
  obtain ⟨d', hd', hst, hfl⟩ := h
  refine ⟨d, d', hd, hd', hst, by rw [hfl], ?_⟩
  rw [verifyPermissionStatus_of_entry hd, verifyPermissionStatus_of_entry hd', getEffectivePermissionStatus, hst, hfl]
  rfl

/-- **When a decision of the administrator survives every operation that is not an administrator's**: exactly when the
permission is not pre-authorised or the decision is to grant it.  Otherwise a reset grants it. -/
theorem admin_decision_survives_iff (T : PermissionTable) (D : DlpPermissionModeMap) {w : Service} {t : AccessTokenID}
    {c : Nat} {d : BriefPermData} (hrun : Reaches (serviceStep T D) Always Service.empty w)
    (hd : w.entry t c = some d) (hfixed : AdminFixed d.flag) :
    (∀ ops : List ServiceOp, (∀ op ∈ ops, NonAdminOn t op) → SameDecision w (ops.foldl (serviceStep T D) w) t c) ↔
      (hasAny d.flag permissionPreAuthorizedCancelable = true → d.status = permissionGranted) := by
  have hw := lasting_of_reaches hrun
  have hdecided : w.Decided t c d.status d.flag := ⟨d, hd, rfl, rfl⟩
  constructor
  · intro hall hpre
    -- the first reset grants the permission, and the resets of the sandboxes leave it
    have hreset := hdecided.clearUserGrantedPermission hw hfixed D Env.ok t
    rw [if_pos ⟨rfl, hpre⟩] at hreset
    have hgranted := hreset.clearUserGrantedPermissionState hw hfixed (fun _ => rfl)
    obtain ⟨d₀, d', hd₀, hd', hst, -⟩ := hall [.clearUserGrantedPermissionState Env.ok t] (by simp [NonAdminOn])
    obtain ⟨d'', hd'', hst', -⟩ := hgranted
    obtain rfl : d = d₀ := Option.mem_unique hd hd₀
    obtain rfl : d' = d'' := Option.mem_unique hd' hd''
    exact hst.symm.trans hst'
  · intro hpre ops hops
    exact sameDecision_of_decided hd (Decided.run hfixed hpre ops w hdecided hw hops)

/-- The administrator decides on the camera of an application that is pre-authorised for it. -/
def preAuthorizedDecided (status : Int) : List ServiceOp :=
  [.createHapTokenInfo .ok sampleParams { samplePolicy with
      permStateList := [⟨camera, permissionGranted, permissionPreAuthorizedCancelable⟩] },
    .setPermissionStatusWithPolicy .ok sampleHap [camera] status
      permissionFixedByAdminPolicy]

theorem admin_decision_survives_granted :
    SameDecision ((preAuthorizedDecided permissionGranted).foldl (serviceStep sampleTable ∅) empty)
      ([ServiceOp.clearUserGrantedPermissionState .ok sampleHap].foldl (serviceStep sampleTable ∅)
        ((preAuthorizedDecided permissionGranted).foldl (serviceStep sampleTable ∅) empty))
      sampleHap 0 := by
  have hentry : ((preAuthorizedDecided permissionGranted).foldl (serviceStep sampleTable ∅)
      empty).entry sampleHap 0 =
        some ⟨permissionGranted, 0, 0, permissionFixedByAdminPolicy ||| permissionPreAuthorizedCancelable⟩ := by
    decide +kernel
  exact (admin_decision_survives_iff sampleTable ∅ (Lib.reaches_always _ _) hentry (by decide)).2 (fun _ => rfl) _
    (by simp [NonAdminOn])

/-- **A reset overturns the administrator**: the camera denied by the administrator is granted by clearing the user's
grants, and its flag still says that the administrator fixed it. -/
theorem admin_denial_lost_in_reset :
    ∃ w d d', Reaches (serviceStep sampleTable ∅) Always empty w ∧
      w.entry sampleHap 0 = some d ∧ AdminFixed d.flag ∧ d.status = permissionDenied ∧
      w.verifyPermissionStatus sampleHap 0 = permissionDenied ∧
      (clearUserGrantedPermissionState sampleTable ∅ w .ok sampleHap).2.entry
        sampleHap 0 = some d' ∧ d'.flag = d.flag ∧ d'.status = permissionGranted ∧
      (clearUserGrantedPermissionState sampleTable ∅ w .ok
        sampleHap).2.verifyPermissionStatus sampleHap 0 =
          permissionGranted :=
  ⟨(preAuthorizedDecided permissionDenied).foldl (serviceStep sampleTable ∅) empty,
    ⟨permissionDenied, 0, 0, permissionFixedByAdminPolicy ||| permissionPreAuthorizedCancelable⟩,
    ⟨permissionGranted, 0, 0, permissionFixedByAdminPolicy ||| permissionPreAuthorizedCancelable⟩,
    Lib.reaches_always _ _, by decide +kernel, by decide, rfl, by decide +kernel, by decide +kernel, rfl, rfl,
    by decide +kernel⟩

end Service
end AccessToken
