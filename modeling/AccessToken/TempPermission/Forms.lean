import AccessToken.TempPermission.Events
import AccessToken.Service.State
/-!
# Whose form it is

A form notification names the bundle, the clone and the user of the form, and is routed by the bundle name alone, to the
token of that bundle that was granted a temporary permission last.  It reaches the owner of the form, and no other
token, as long as no two tokens of one bundle are recorded and the forms of a recorded bundle belong to the recorded
token.
-/
namespace AccessToken

open Std.ExtTreeMap (mem_iff_isSome_getElem? mem_keys not_mem_empty)
open Lib (Reaches getElem?_insert mem_erase mem_insert)

namespace TempPermission

open TempPermissionObserver

inductive FormOp where
  | isAllowGrantTempPermission (live : LiveState) (tokenID : AccessTokenID) (permissionName : String)
  | removeTempPermissionRecord (tokenID : AccessTokenID) (permissionName : String)
  | revokeAllTempPermission (tokenID : AccessTokenID)
  | onAppMgrRemoteDiedHandle
  | notifyFormInstance (form : FormInstance)

/-- One of them; `haps` are the HAP infos of the tokens. -/
def formStep (haps : AccessTokenID → Option HapTokenInfo) (cameraMic : Bool) (o : TempPermissionObserver) :
    FormOp → TempPermissionObserver
  | .isAllowGrantTempPermission live t p =>
    match haps t with
    | none => o
    | some info =>
      if !tempPermission.contains p then o else (o.checkPermissionState cameraMic live t p info.bundleName).2
  | .removeTempPermissionRecord t p => o.removeTempPermissionRecord t p
  | .revokeAllTempPermission t => o.forgetToken t
  | .onAppMgrRemoteDiedHandle => { o with tempPermTokenMap := ∅, tempPermPermissionMap := ∅, continuousTaskIdMap := ∅ }
  | .notifyFormInstance form => o.notifyFormInstance cameraMic form

variable {haps : AccessTokenID → Option HapTokenInfo} {cameraMic : Bool} {o o' : TempPermissionObserver}
    {t x : AccessTokenID}

def Owns (haps : AccessTokenID → Option HapTokenInfo) (form : FormInstance) (t : AccessTokenID) : Prop :=
  ∃ info ∈ haps t, info.bundleName = form.bundleName ∧ info.instIndex = form.appIndex ∧ info.userID = form.userId
deriving Decidable

def withVisibility (form : FormInstance) (list : AppState) : AppState :=
  match form.formVisibility with
  | .visible => { list with forms := true }
  | .invisible => { list with forms := false }
  | .unknown => list

/-- **The notification changes the form state of the owner, if it is recorded, and of no other token.** -/
def ReachesOwner (haps : AccessTokenID → Option HapTokenInfo) (form : FormInstance) (o o' : TempPermissionObserver) :
    Prop :=
  ∀ x : AccessTokenID, o'.tempPermTokenMap[x]? =
    (o.tempPermTokenMap[x]?).map fun list => if Owns haps form x then withVisibility form list else list

/-! ## What a notification changes -/

theorem tempPermTokenMap_of_retasked {f : String → Prop → Prop} (h : Retasked t f o o') :
    o'.tempPermTokenMap = o.tempPermTokenMap := by
  obtain ⟨l, rfl⟩ := h.same
  rfl

theorem notifyFormInstance_states (cameraMic : Bool) (o : TempPermissionObserver) (form : FormInstance)
    (x : AccessTokenID) :
    (o.notifyFormInstance cameraMic form).tempPermTokenMap[x]? = (o.tempPermTokenMap[x]?).map fun list =>
      if o.formTokenMap[form.bundleName]? = some x then withVisibility form list else list := by
  unfold notifyFormInstance getTokenIDByBundle
  cases hroute : o.formTokenMap[form.bundleName]? with
  | none => simp
  | some t =>
    dsimp only
    unfold getAppStateListByTokenID
    cases hlist : o.tempPermTokenMap[t]? with
    | none =>
      by_cases hx : x = t
      · subst hx
        rw [hlist]
        rfl
      · simp [Ne.symm hx]
    | some list =>
      have hmodify : ∀ assign : AppState → AppState, (o.modifyAppState t assign).tempPermTokenMap[x]? =
          (o.tempPermTokenMap[x]?).map fun list => if some t = some x then assign list else list := fun assign => by
        rw [modifyAppState_of_some hlist, getElem?_insert]
        by_cases hx : x = t
        · subst hx
          simp [hlist]
        · simp [hx, Ne.symm hx]
      cases hform : form.formVisibility with
      | visible =>
        rw [tempPermTokenMap_of_retasked (cancelDelayedTasksByType_retasked _ t .locationType), hmodify]
        simp [withVisibility, hform]
      | invisible =>
        rw [tempPermTokenMap_of_retasked (handleFormInvisibleState_retasked cameraMic _ t list), hmodify]
        simp [withVisibility, hform]
      | unknown => simp [withVisibility, hform]

theorem notifyFormInstance_formTokenMap {form : FormInstance} :
    (o.notifyFormInstance cameraMic form).formTokenMap = o.formTokenMap := by
  have hmodify : ∀ t (assign : AppState → AppState), (o.modifyAppState t assign).formTokenMap = o.formTokenMap := by
    intro t assign
    unfold modifyAppState
    split <;> rfl
  unfold notifyFormInstance
  split
  · rfl
  rename_i t _
  split
  · rfl
  rename_i list _
  split
  · obtain ⟨l, hl⟩ := (cancelDelayedTasksByType_retasked (o.modifyAppState t ({ · with forms := true })) t
      .locationType).same
    rw [hl]
    exact hmodify t _
  · obtain ⟨l, hl⟩ := (handleFormInvisibleState_retasked cameraMic (o.modifyAppState t ({ · with forms := false })) t
      list).same
    rw [hl]
    exact hmodify t _
  · rfl

/-! ## The routing over a run -/

/-- A recorded token is what its bundle is routed to, and a bundle is routed to a token of its own. -/
structure Routed (haps : AccessTokenID → Option HapTokenInfo) (o : TempPermissionObserver) : Prop where
  recorded : ∀ x, x ∈ o.tempPermTokenMap → ∃ info ∈ haps x, o.formTokenMap[info.bundleName]? = some x
  bundles : ∀ (b : String) x, o.formTokenMap[b]? = some x → ∃ info ∈ haps x, info.bundleName = b

theorem Routed.of_fewer (h : Routed haps o)
    (hfewer : ∀ x, x ∈ o'.tempPermTokenMap → x ∈ o.tempPermTokenMap) (hforms : o'.formTokenMap = o.formTokenMap) :
    Routed haps o' := by
  refine ⟨fun x hx => ?_, fun b x hb => ?_⟩
  · rw [hforms]
    exact h.recorded x (hfewer x hx)
  · rw [hforms] at hb
    exact h.bundles b x hb

theorem associate_fold_maps (cameraMic : Bool) (t : AccessTokenID) (l : List ContinuousTaskCallbackInfo)
    (o : TempPermissionObserver) :
    ∃ k, l.foldl
    (fun o info => (o.associateContinuousTaskIfNeeded cameraMic t info.continuousTaskId info.typeIds).2) o =
      { o with continuousTaskIdMap := k } := by
  induction l generalizing o with
  | nil => exact ⟨o.continuousTaskIdMap, rfl⟩
  | cons info l ih =>
    rw [List.foldl_cons]
    obtain heq | heq := associate_cases cameraMic o t info.continuousTaskId info.typeIds
    · rw [heq]
      exact ih o
    · rw [heq]
      obtain ⟨k, hk⟩ := ih (o.upsertContinuousTask t info.continuousTaskId info.typeIds)
      exact ⟨k, hk⟩

theorem checkPermissionState_maps (cameraMic : Bool) (o : TempPermissionObserver) (live : LiveState) (t : AccessTokenID)
    (p b : String) :
    (o.checkPermissionState cameraMic live t p b).2 = o ∨
      ∃ list, (o.checkPermissionState cameraMic live t p b).2.tempPermTokenMap = o.tempPermTokenMap.insert t list ∧
        (o.checkPermissionState cameraMic live t p b).2.formTokenMap = o.formTokenMap.insert b t := by
  unfold checkPermissionState
  dsimp only
  split
  · exact .inr ⟨_, rfl, rfl⟩
  split
  · exact .inl rfl
  right
  unfold associateGrantedPermissionTasks
  obtain ⟨k, hk⟩ := associate_fold_maps cameraMic t _ (o.addTempPermTokenToList t b p
    ⟨(collectContext cameraMic live t).isForeground, (collectContext cameraMic live t).isFormVisible⟩)
  rw [hk]
  exact ⟨_, rfl, rfl⟩

def SameBundle (haps : AccessTokenID → Option HapTokenInfo) (x t : AccessTokenID) : Prop :=
  ∃ i ∈ haps x, ∃ j ∈ haps t, i.bundleName = j.bundleName
deriving Decidable

/-- No other token of the bundle is recorded when one is added, and a notification of a bundle with a recorded token is
of that token. -/
def RoutesApart (haps : AccessTokenID → Option HapTokenInfo) (o : TempPermissionObserver) : FormOp → Prop
  | .isAllowGrantTempPermission _ t _ => ∀ x ∈ o.tempPermTokenMap.keys, x ≠ t → ¬SameBundle haps x t
  | .notifyFormInstance form => ∀ x ∈ o.tempPermTokenMap.keys, ∀ info ∈ haps x, info.bundleName = form.bundleName →
      Owns haps form x
  | _ => True

instance decidableRoutesApart (o : TempPermissionObserver) : ∀ op, Decidable (RoutesApart haps o op) := fun op => by
  cases op with
  | isAllowGrantTempPermission => exact List.decidableBAll _ _
  | notifyFormInstance => exact List.decidableBAll _ _
  | _ => unfold RoutesApart; infer_instance

theorem Routed.add (h : Routed haps o) {info : HapTokenInfo} (hinfo : haps t = some info)
    (hapart : ∀ x ∈ o.tempPermTokenMap.keys, x ≠ t → ¬SameBundle haps x t) {list : AppState}
    (htokens : o'.tempPermTokenMap = o.tempPermTokenMap.insert t list)
    (hforms : o'.formTokenMap = o.formTokenMap.insert info.bundleName t) : Routed haps o' := by
  refine ⟨fun x hx => ?_, fun b x hb => ?_⟩
  · rw [hforms]
    by_cases hxt : x = t
    · subst hxt
      exact ⟨info, hinfo, Std.ExtTreeMap.getElem?_insert_self ..⟩
    rw [htokens, mem_insert] at hx
    have hx : x ∈ o.tempPermTokenMap := hx.resolve_left hxt
    obtain ⟨i, hi, hroute⟩ := h.recorded x hx
    refine ⟨i, hi, ?_⟩
    rwa [Lib.getElem?_insert_of_ne fun hc => hapart x (mem_keys.2 hx) hxt ⟨i, hi, info, hinfo, hc⟩]
  · rw [hforms] at hb
    rcases Lib.getElem?_insert_eq_some.1 hb with ⟨rfl, rfl⟩ | ⟨-, hb⟩
    · exact ⟨info, hinfo, rfl⟩
    · exact h.bundles b x hb

theorem Routed.step (h : Routed haps o) {op : FormOp} (hop : RoutesApart haps o op) :
    Routed haps (formStep haps cameraMic o op) := by
  cases op with
  | isAllowGrantTempPermission live t p =>
    unfold formStep
    dsimp only
    cases hinfo : haps t with
    | none => exact h
    | some info =>
      dsimp only
      split
      · exact h
      · obtain heq | ⟨list, htokens, hforms⟩ := checkPermissionState_maps cameraMic o live t p info.bundleName
        · rw [heq]
          exact h
        · exact h.add hinfo hop htokens hforms
  | removeTempPermissionRecord t =>
    have hmem : ∀ x, x ∈ (o.forgetToken t).tempPermTokenMap → x ∈ o.tempPermTokenMap := fun x hx =>
      (mem_erase.1 hx).2
    unfold formStep removeTempPermissionRecord
    dsimp only
    split
    · exact h
    split
    · exact h.of_fewer hmem rfl
    · exact h.of_fewer (fun _ => id) rfl
  | revokeAllTempPermission => exact h.of_fewer (fun x hx => (mem_erase.1 hx).2) rfl
  | onAppMgrRemoteDiedHandle => exact h.of_fewer (fun x hx => absurd hx not_mem_empty) rfl
  | notifyFormInstance =>
    refine h.of_fewer (fun x hx => ?_) ?_
    · rw [mem_iff_isSome_getElem?, formStep, notifyFormInstance_states, Option.isSome_map,
        ← mem_iff_isSome_getElem?] at hx
      exact hx
    · exact notifyFormInstance_formTokenMap

/-- **Form notifications reach the right token**, in every run that keeps the tokens of a bundle apart. -/
theorem form_notifications_reach_owner (haps : AccessTokenID → Option HapTokenInfo) (cameraMic : Bool)
    {o : TempPermissionObserver}
    (hrun : Reaches (formStep haps cameraMic) (RoutesApart haps) .empty o) (form : FormInstance)
    (hform : RoutesApart haps o (.notifyFormInstance form)) :
    ReachesOwner haps form o (formStep haps cameraMic o (.notifyFormInstance form)) := by
  have hempty : Routed haps .empty :=
    ⟨fun x hx => absurd hx not_mem_empty, fun b x hb => by simp [empty] at hb⟩
  have h := hrun.invariant (fun _ _ h hop => h.step hop) hempty
  intro x
  rw [formStep, notifyFormInstance_states]
  cases hlist : o.tempPermTokenMap[x]? with
  | none => rfl
  | some =>
    have hmem : x ∈ o.tempPermTokenMap := Lib.mem_iff_exists.2 ⟨_, hlist⟩
    -- the token the bundle is routed to is the recorded token that owns the form
    have hroute : o.formTokenMap[form.bundleName]? = some x ↔ Owns haps form x := by
      constructor
      · intro hroute
        obtain ⟨info, hinfo, hname⟩ := h.bundles form.bundleName x hroute
        exact hform x (mem_keys.2 hmem) info hinfo hname
      · rintro ⟨info, hinfo, hname, -, -⟩
        obtain ⟨info', hinfo', hroute⟩ := h.recorded x hmem
        cases (Option.mem_def.1 hinfo).symm.trans (Option.mem_def.1 hinfo')
        rw [← hname]
        exact hroute
    simp only [Option.map_some, hroute]

def twoUsers : AccessTokenID → Option HapTokenInfo := fun t =>
  if t = 1 then some ⟨1, 100, "app", 20, 0, 0, 1, 0⟩ else if t = 2 then some ⟨1, 101, "app", 20, 0, 0, 2, 0⟩ else none

def bothInForeground : LiveState := ⟨[1, 2], fun _ => false, [], false⟩

def grantLocation (t : AccessTokenID) : FormOp :=
  .isAllowGrantTempPermission bothInForeground t "ohos.permission.LOCATION"

/-- **A form of one user changes the state of the other**: the grant of the second user took over the bundle. -/
theorem form_reaches_other_user :
    ¬ReachesOwner twoUsers ⟨"app", 0, 100, .visible⟩
      ([grantLocation 1, grantLocation 2].foldl (formStep twoUsers false) .empty)
      (formStep twoUsers false ([grantLocation 1, grantLocation 2].foldl (formStep twoUsers false) .empty)
        (.notifyFormInstance ⟨"app", 0, 100, .visible⟩)) := by
  intro h
  exact absurd (h 1) (by decide +kernel)

theorem form_reaches_only_user :
    ReachesOwner twoUsers ⟨"app", 0, 101, .visible⟩
      ([grantLocation 1, .revokeAllTempPermission 1, grantLocation 2].foldl (formStep twoUsers false) .empty)
      (formStep twoUsers false
        ([grantLocation 1, .revokeAllTempPermission 1, grantLocation 2].foldl (formStep twoUsers false) .empty)
        (.notifyFormInstance ⟨"app", 0, 101, .visible⟩)) :=
  form_notifications_reach_owner twoUsers false (Lib.reaches_foldl _ _ (by decide +kernel)) _ (by decide +kernel)

end TempPermission
end AccessToken
