import AccessToken.Service.PermissionLemmas
import AccessToken.Lib.Trace
/-!
# What a change of a permission tells the outside

`CallbackManager`, `PermissionChangeNotifier` and `TokenModifyNotifier` as one list of notifications for each call of
`PermissionManager`, in the order they are sent.  With it `SetPermissionStatusWithPolicy` is followed up to the first
permission it refuses: what came before stays done and told.
-/
namespace AccessToken

open PermissionDataBrief

open Lib (hasAny)

inductive Notification where
  /-- `ExecuteCallbackAsync` with `STATE_CHANGE_GRANTED` or `STATE_CHANGE_REVOKED`. -/
  | stateChange (tokenID : AccessTokenID) (permName : String) (isGranted : Bool)
  /-- A new value of the parameter the client caches watch. -/
  | paramUpdate
  | paramFlagUpdate
  | tokenModify (tokenID : AccessTokenID)
  | tokenDelete (tokenID : AccessTokenID)
deriving DecidableEq

namespace Service

variable (T : PermissionTable) (D : DlpPermissionModeMap) (w : Service)

def paramUpdate (permissionName : String) (flag : Flag) (filtered : Bool) : List Notification :=
  if filtered || (T.isOperablePermission permissionName &&
      (flag != permissionPreAuthorizedCancelable && flag != permissionSystemFixed)) then [.paramUpdate]
  else []

/-- What `NotifyWhenPermissionStateUpdated` sends; the callback goes with the write to the kernel. -/
def stateUpdatedNotes (inner : HapTokenInfoInner) (permissionName : String) (isGranted : Bool) (flag : Flag) :
    List Notification :=
  let tokenID := inner.tokenID
  let permCode := (T.transferPermissionToOpcode permissionName).getD 0
  let isGrantedBefore := w.kernel tokenID permCode
  let isRestricted :=
    UserPolicyManager.isPermissionRestricted w.policy.records tokenID inner.userID permCode
  let effectiveGranted := isGranted && !isRestricted
  (if isGrantedBefore != effectiveGranted then [.stateChange tokenID permissionName effectiveGranted] else []) ++
    paramUpdate T permissionName flag false

/-- What `updateAndNotify` sends. -/
def updateNotes (env : Env) (inner : HapTokenInfoInner) (permission : String) (isGranted : Bool) (flag : Flag) :
    List Notification :=
  match updatePermissionStatus T w env inner permission isGranted flag with
  | (.error _, _) => []
  | (.ok statusChanged, w) => if statusChanged then stateUpdatedNotes T w inner permission isGranted flag else []

def updateMultiTokenPermissionStateNotes (env : Env) (inner : HapTokenInfoInner) (tokenID : AccessTokenID)
    (permissionList : List String) (isGranted : Bool) (flag : Flag) : List Notification :=
  match getHapTokenInfo T w env tokenID with
  | (none, _) => []
  | (some _, w) =>
    let update := fun (w : Service) permissionName => updateAndNotify T w env inner permissionName isGranted flag
    let isUpdateSuccess := !(Lib.passedUntil update w permissionList).isEmpty
    Lib.traceUntil update (fun w permissionName => updateNotes T w env inner permissionName isGranted flag) w
        permissionList ++
      (if isUpdateSuccess then [.paramFlagUpdate, .tokenModify tokenID] else [])

def updateMultiPermissionStatusNotes (env : Env) (tokenID : AccessTokenID) (permissionList : List String) (status : Int)
    (flag : Flag) : List Notification :=
  let isGranted := status == permissionGranted
  match getHapTokenInfoInner T w env.findOk tokenID with
  | (none, _) => []
  | (some inner, w) =>
    match updateMultiTokenPermissionStateCheck D inner permissionList with
    | .error _ => []
    | .ok () =>
      updateMultiTokenPermissionStateNotes T w env inner tokenID permissionList isGranted flag ++
        match updateMultiTokenPermissionState T w env inner tokenID permissionList isGranted flag with
        | (.error _, _) => []
        | (.ok (), w) =>
          Lib.traceFoldl (fun w id =>
            (updateMultiTokenPermissionState T w env inner id permissionList isGranted flag).2)
            (fun w id => updateMultiTokenPermissionStateNotes T w env inner id permissionList isGranted flag) w
            (w.getRelatedSandBoxHapList tokenID)

def setPermissionStatusWithPolicyNotes (env : Env) (tokenID : AccessTokenID) (permissionList : List String)
    (status : Int) (flag : Flag) : List Notification :=
  match env.caller with
  | .error _ => []
  | .ok () =>
    if tokenID == invalidTokenId || !isListSizeValid permissionList.length then []
    else
      match checkMultiPermissionStatus T permissionList status flag with
      | .error _ => []
      | .ok () => updateMultiPermissionStatusNotes T D w env tokenID permissionList status flag

variable {T D w}

/-! ## Refusals -/

def Refuses (T : PermissionTable) (w : Service) (inner : HapTokenInfoInner) (flag : Flag)
    (permission : String) : Prop :=
  ∀ c ∈ T.transferPermissionToOpcode permission, ∀ d ∈ w.entry inner.tokenID c,
    ¬acceptsFlag flag d
deriving Decidable

variable {env : Env} {inner : HapTokenInfoInner} {fl : Flag} {n : String} {g : Bool} {t : AccessTokenID}
    {perms : List String} {status : Int}

theorem updatePermissionStatus_of_refuses (hflag : isPermGrantedBySecComp fl = false)
    (h : Refuses T w inner fl n) : ∃ e, updatePermissionStatus T w env inner n g fl = (.error e, w) := by
  have hbrief : ∃ e ct, w.brief.updatePermissionStatus T inner.tokenID n g fl = (.error e, ct, w.brief) := by
    unfold PermissionDataBrief.updatePermissionStatus
    cases hc : T.transferPermissionToOpcode n with
    | none => exact ⟨_, _, rfl⟩
    | some c =>
      simp only [hflag, Bool.not_false, if_true]
      rcases updatePermStateList_cases inner.tokenID c g fl with
        ⟨e, he⟩ | ⟨d, hd, hacc, -⟩
      · rw [he]
        exact ⟨_, _, rfl⟩
      · exact absurd hacc (h c hc d hd)
  obtain ⟨e, ct, heq⟩ := hbrief
  exact ⟨e, by simp only [updatePermissionStatus, heq]⟩

theorem updateAndNotify_of_not_refuses (hflag : isPermGrantedBySecComp fl = false)
    (h : ¬Refuses T w inner fl n) : (updateAndNotify T w env inner n g fl).1 = .ok () := by
  simp only [Refuses, not_forall, not_not] at h
  obtain ⟨c, hc, d, hd, hacc⟩ := h
  obtain ⟨l, hl, -⟩ := Option.bind_eq_some_iff.1 hd
  have hok := updatePermStateList_of_accepts (g := g) hd hacc
  have hvalues : ∃ values, (w.brief.modifyEntry inner.tokenID c
      (updatedPermState g fl)).permissionStateValues T inner.tokenID = some values := by
    simp [permissionStateValues, PermissionDataBrief.modifyEntry, hl]
  obtain ⟨values, hvalues⟩ := hvalues
  rw [Option.mem_def] at hc
  simp only [updateAndNotify, updatePermissionStatus, PermissionDataBrief.updatePermissionStatus, hc, hflag,
    Bool.not_false, if_true, hok, hvalues]
  split <;> rename_i heq
  · split at heq <;> cases heq
  · rfl

/-! ## Up to the first refusal -/

/-- The state a call on `t` works on: after it has looked the token up. -/
def lookedUp (T : PermissionTable) (w : Service) (env : Env) (t : AccessTokenID) : Service :=
  (getHapTokenInfo T (getHapTokenInfoInner T w env.findOk t).2 env t).2

/-- A call of `SetPermissionStatusWithPolicy` that gets to the permissions: caller, parameters and token pass. -/
structure PassesChecks (T : PermissionTable) (D : DlpPermissionModeMap) (w : Service) (env : Env) (t : AccessTokenID)
    (permissionList : List String) (status : Int) (flag : Flag) (inner : HapTokenInfoInner) : Prop where
  caller : env.caller = .ok ()
  token : t ≠ invalidTokenId
  size : isListSizeValid permissionList.length = true
  params : checkMultiPermissionStatus T permissionList status flag = .ok ()
  found : (getHapTokenInfoInner T w env.findOk t).1 = some inner
  range : updateMultiTokenPermissionStateCheck D inner permissionList = .ok ()
  queried : (getHapTokenInfo T (getHapTokenInfoInner T w env.findOk t).2 env t).1.isSome = true

theorem PassesChecks.flag (h : PassesChecks T D w env t perms status fl inner) : isPermGrantedBySecComp fl = false := by
  have hparams := h.params
  unfold checkMultiPermissionStatus at hparams
  split at hparams
  · cases hparams
  rename_i hvalid
  have hfl : isPermissionFlagValidForAdmin fl = true := by
    by_contra hne
    simp [hne] at hvalid
  simp only [isPermissionFlagValidForAdmin, Bool.or_eq_true, beq_iff_eq] at hfl
  rcases hfl with rfl | rfl <;> decide

theorem PassesChecks.eq_loop {e : AccessTokenError} (h : PassesChecks T D w env t perms status fl inner)
    (herror : (setPermissionStatusWithPolicy T D w env t perms status fl).1 = .error e) :
    let update := fun (w : Service) n => updateAndNotify T w env inner n (status == permissionGranted) fl
    setPermissionStatusWithPolicy T D w env t perms status fl = Lib.forUntil update (lookedUp T w env t) perms ∧
      setPermissionStatusWithPolicyNotes T D w env t perms status fl =
        Lib.traceUntil update (fun w n => updateNotes T w env inner n (status == permissionGranted) fl)
            (lookedUp T w env t) perms ++
          (if !(Lib.passedUntil update (lookedUp T w env t) perms).isEmpty then [.paramFlagUpdate, .tokenModify t]
            else []) := by
  intro update
  have hsize : ¬(t == invalidTokenId || !isListSizeValid perms.length) = true := by simp [h.token, h.size]
  have hget : getHapTokenInfoInner T w env.findOk t = (some inner, (getHapTokenInfoInner T w env.findOk t).2) :=
    Prod.ext h.found rfl
  obtain ⟨hap, hhap⟩ := Option.isSome_iff_exists.1 h.queried
  have hquery : getHapTokenInfo T (getHapTokenInfoInner T w env.findOk t).2 env t = (some hap, lookedUp T w env t) :=
    Prod.ext hhap rfl
  have hmulti : updateMultiTokenPermissionState T (getHapTokenInfoInner T w env.findOk t).2 env inner t perms
      (status == permissionGranted) fl = Lib.forUntil update (lookedUp T w env t) perms := by
    rw [updateMultiTokenPermissionState, hquery]
  generalize (getHapTokenInfoInner T w env.findOk t).2 = w₁ at hget hquery hmulti
  have hcall : setPermissionStatusWithPolicy T D w env t perms status fl =
      match Lib.forUntil update (lookedUp T w env t) perms with
      | (.error e, w) => (.error e, w)
      | (.ok (), w) => (.ok (), (w.getRelatedSandBoxHapList t).foldl (fun w id =>
          (updateMultiTokenPermissionState T w env inner id perms (status == permissionGranted) fl).2) w) := by
    simp only [setPermissionStatusWithPolicy, h.caller, if_neg hsize, h.params, updateMultiPermissionStatus,
      hget, h.range, hmulti]
    rfl
  rw [hcall] at herror ⊢
  cases hloop : Lib.forUntil update (lookedUp T w env t) perms with
  | mk r =>
    cases r with
    | ok =>
      rw [hloop] at herror
      cases herror
    | error =>
      refine ⟨rfl, ?_⟩
      rw [hloop] at hmulti
      simp only [setPermissionStatusWithPolicyNotes, h.caller, if_neg hsize, h.params, updateMultiPermissionStatusNotes,
        hget, h.range, hmulti, updateMultiTokenPermissionStateNotes, hquery, List.append_nil]
      rfl

/-- The stored states, the kernel and the outside are as if the call had not been made. -/
structure AsIfNotMade (w w' : Service) (notes : List Notification) : Prop where
  data : w'.requestedPermData = w.requestedPermData
  kernel : w'.kernel = w.kernel
  silent : notes = []

/-- **A refused `SetPermissionStatusWithPolicy` leaves nothing behind exactly if it is the first permission of the list
that is refused**: whatever comes before a refusal is applied, and told to the clients and the other devices. -/
theorem refused_call_leaves_nothing_iff (T : PermissionTable) (D : DlpPermissionModeMap) (w : Service) (env : Env)
    (t : AccessTokenID) (perms : List String) (status : Int) (fl : Flag) (inner : HapTokenInfoInner)
    (e : AccessTokenError)
    (hchecks : PassesChecks T D w env t perms status fl inner)
    (herror : (setPermissionStatusWithPolicy T D w env t perms status fl).1 = .error e) :
    AsIfNotMade (lookedUp T w env t) (setPermissionStatusWithPolicy T D w env t perms status fl).2
        (setPermissionStatusWithPolicyNotes T D w env t perms status fl) ↔
      ∃ p ∈ perms.head?, Refuses T (lookedUp T w env t) inner fl p := by
  obtain ⟨hcall, hnotes⟩ := hchecks.eq_loop herror
  cases perms with
  | nil => exact absurd hchecks.size (by decide)
  | cons p =>
    simp only [List.head?_cons, Option.mem_some_iff, exists_eq_left']
    by_cases hrefused : Refuses T (lookedUp T w env t) inner fl p
    · refine iff_of_true ?_ hrefused
      obtain ⟨e', heq⟩ : ∃ e',
        updatePermissionStatus T (lookedUp T w env t) env inner p (status == permissionGranted) fl =
          (.error e', lookedUp T w env t) := updatePermissionStatus_of_refuses hchecks.flag hrefused
      rw [hcall, hnotes]
      simp only [Lib.forUntil, Lib.traceUntil, Lib.passedUntil, updateAndNotify, updateNotes, heq]
      exact ⟨rfl, rfl, rfl⟩
    · refine iff_of_false (fun h => ?_) hrefused
      have hok : (updateAndNotify T (lookedUp T w env t) env inner p (status == permissionGranted) fl).1 = .ok () :=
        updateAndNotify_of_not_refuses hchecks.flag hrefused
      have hsilent := h.silent
      rw [hnotes] at hsilent
      cases hstep : updateAndNotify T (lookedUp T w env t) env inner p (status == permissionGranted) fl with
      | mk =>
        rw [hstep] at hok
        cases hok
        simp [Lib.passedUntil, hstep] at hsilent

/-- The sample application with the camera fixed by the system and the location open. -/
def cameraFixed : Service :=
  (createHapTokenInfo sampleTable ∅ empty .ok sampleParams
    { samplePolicy with permStateList := [⟨camera, permissionGranted, permissionSystemFixed⟩,
        ⟨"ohos.permission.LOCATION", permissionDenied, permissionDefaultFlag⟩] }).2

theorem refused_at_once_leaves_nothing :
    AsIfNotMade (lookedUp sampleTable cameraFixed .ok sampleHap)
      (setPermissionStatusWithPolicy sampleTable ∅ cameraFixed .ok sampleHap
        [camera, "ohos.permission.LOCATION"] permissionGranted permissionFixedByAdminPolicy).2
      (setPermissionStatusWithPolicyNotes sampleTable ∅ cameraFixed .ok sampleHap
        [camera, "ohos.permission.LOCATION"] permissionGranted permissionFixedByAdminPolicy) :=
  (refused_call_leaves_nothing_iff sampleTable ∅ cameraFixed .ok sampleHap
    [camera, "ohos.permission.LOCATION"] permissionGranted permissionFixedByAdminPolicy
    (.ofParams sampleHap sampleParams) .errParamInvalid
    ⟨rfl, by decide, by decide, by decide +kernel, by decide +kernel, by decide +kernel, by decide +kernel⟩
    (by decide +kernel)).2 ⟨camera, rfl, by decide +kernel⟩

/-- The camera is refused after the location has been granted, pushed to the kernel and announced. -/
theorem refused_list_partly_applied :
    let call := setPermissionStatusWithPolicy sampleTable ∅ cameraFixed .ok sampleHap
      ["ohos.permission.LOCATION", camera] permissionGranted permissionFixedByAdminPolicy
    call.1 = .error .errParamInvalid ∧
      cameraFixed.entry sampleHap 1 = some ⟨permissionDenied, 0, 1, permissionDefaultFlag⟩ ∧
      call.2.entry sampleHap 1 =
        some ⟨permissionGranted, 0, 1, permissionFixedByAdminPolicy⟩ ∧
      cameraFixed.kernel sampleHap 1 = false ∧ call.2.kernel sampleHap 1 = true ∧
      setPermissionStatusWithPolicyNotes sampleTable ∅ cameraFixed .ok sampleHap
          ["ohos.permission.LOCATION", camera] permissionGranted permissionFixedByAdminPolicy =
        [.stateChange sampleHap "ohos.permission.LOCATION" true, .paramUpdate, .paramFlagUpdate,
          .tokenModify sampleHap] := by
  intro call
  refine ⟨by decide +kernel, by decide +kernel, by decide +kernel, by decide +kernel, by decide +kernel, ?_⟩
  decide +kernel

end Service
end AccessToken
