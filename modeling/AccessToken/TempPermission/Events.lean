import AccessToken.TempPermission.ObserverLemmas
/-!
# The events keep the permissions covered

A change of the app state, of the visibility of a form or of a continuous task keeps every recorded permission covered,
and settled where the handler takes back the tasks it should: the handlers are compared with the keep conditions type by
type.
-/
namespace AccessToken

open Std.ExtTreeMap (getElem?_insert_self)
open Lib (getElem?_insert mem_insert)
open TempPermission BackgroundMode TempPermissionType

namespace TempPermissionObserver

variable {cameraMic : Bool} {o o₁ o' : TempPermissionObserver} {t x : AccessTokenID} {p q : String} {list : AppState}
    {type : TempPermissionType} {info : ContinuousTaskCallbackInfo} {f : String → Prop → Prop}
    {ids : Option (List (BitVec 32))} {assign : AppState → AppState} {settles : Prop} {id : Int32}

/-! ## The app state -/

theorem mem_modifyAppState : x ∈ (o.modifyAppState t assign).tempPermTokenMap ↔ x ∈ o.tempPermTokenMap := by
  unfold modifyAppState
  split
  · exact Iff.rfl
  rename_i list h
  refine mem_insert.trans (or_iff_right_of_imp ?_)
  rintro rfl
  exact Lib.mem_iff_exists.2 ⟨_, h⟩

theorem recordedContext_modify_of_ne (hx : x ≠ t) :
    recordedContext cameraMic (o.modifyAppState t assign) x = recordedContext cameraMic o x := by
  unfold modifyAppState
  split
  · rfl
  · unfold recordedContext
    rw [Lib.getElem?_insert_of_ne hx]
    rfl

theorem find_modifyAppState (cameraMic : Bool) (assign : AppState → AppState) (t x : AccessTokenID)
    (type : TempPermissionType) :
    (o.modifyAppState t assign).findContinuousTask cameraMic x type = o.findContinuousTask cameraMic x type := by
  unfold modifyAppState
  split <;> rfl

theorem keeps_of_foreground {context : PermissionCheckContext} (h : context.isForeground = true)
    (hv : getPermissionType q ≠ .invalidType) : checkTempPermissionByType q context = true := by
  unfold checkTempPermissionByType
  cases hq : getPermissionType q <;> simp_all

def LeftInBackground (cameraMic : Bool) (o : TempPermissionObserver) (t : AccessTokenID) : Prop :=
  cameraMic = false ∧
    (o.hasTempPermissionType t .cameraType = true ∨ o.hasTempPermissionType t .microphoneType = true)

theorem not_leftInBackground (h : ¬LeftInBackground cameraMic o t) (hq : Recorded o t q)
    (htype : getPermissionType q = .cameraType ∨ getPermissionType q = .microphoneType) : cameraMic = true := by
  by_contra hoff
  refine h ⟨by simpa using hoff, ?_⟩
  obtain htype | htype := htype
  · exact .inl (hasTempPermissionType_iff.2 ⟨q, hq, htype⟩)
  · exact .inr (hasTempPermissionType_iff.2 ⟨q, hq, htype⟩)

def PasteboardPending (o : TempPermissionObserver) (t : AccessTokenID) : Prop :=
  ∃ q ∈ o.getTempPermissionNames t, getPermissionType q = .pasteboardType ∧ Pending o t q
deriving Decidable

section

variable (h : o.tempPermTokenMap[t]? = some list)
include h

theorem modifyAppState_of_some :
    o.modifyAppState t assign = { o with tempPermTokenMap := o.tempPermTokenMap.insert t (assign list) } := by
  unfold modifyAppState
  rw [h]

theorem recordedContext_of_some :
    recordedContext cameraMic o t = contextOf cameraMic o t list := by
  unfold recordedContext
  rw [h]
  rfl

theorem recordedContext_modify :
    recordedContext cameraMic (o.modifyAppState t assign) t = contextOf cameraMic o t (assign list) := by
  rw [modifyAppState_of_some h]
  exact recordedContext_of_some (getElem?_insert_self ..)

theorem Handled.of_modify (hre : Retasked t f (o.modifyAppState t assign) o')
    (htask : TasksFollow settles f o t (contextOf cameraMic o t list) (contextOf cameraMic o t (assign list))) :
    Handled cameraMic settles o o' := by
  refine Handled.of_token hre (recordedContext_of_some h) (recordedContext_modify h)
    (fun x => mem_modifyAppState) ?_ ?_ (fun x hx => recordedContext_modify_of_ne hx) htask
  all_goals
    unfold modifyAppState
    split <;> rfl

theorem handled_foreground :
    Handled cameraMic settles o ((o.modifyAppState t ({ · with foreground := true })).cancelDelayedTasks t) := by
  refine Handled.of_modify h (cancelDelayedTasks_retasked _ t) ⟨fun q _ hv _ hk => ?_, fun _ _ _ _ _ => False.elim⟩
  rw [keeps_of_foreground rfl hv] at hk
  cases hk

theorem handled_background (hleft : ¬LeftInBackground cameraMic o t) :
    Handled cameraMic settles o
      ((o.modifyAppState t ({ · with foreground := false })).handleBackgroundState cameraMic t list) := by
  refine Handled.of_modify h handleBackgroundState_retasked ⟨fun q hq hv => ?_, fun _ q hq hv => ?_⟩
  all_goals
    have hon := @not_leftInBackground cameraMic o t q hleft hq
    revert hon
    unfold checkTempPermissionByType
    cases htype : getPermissionType q <;> simp [DueInBackground, find_modifyAppState] <;> grind

/-! ## Forms -/

theorem handled_formVisible : Handled cameraMic (¬PasteboardPending o t) o
      ((o.modifyAppState t ({ · with forms := true })).cancelDelayedTasksByType t .locationType) := by
  refine Handled.of_modify h (cancelDelayedTasksByType_retasked _ t .locationType) ⟨fun q hq hv => ?_,
    fun hpaste q hq hv => ?_⟩
  · unfold checkTempPermissionByType
    cases htype : getPermissionType q <;> simp
  have hidle : getPermissionType q = .pasteboardType → ¬Pending o t q := fun htype hp => hpaste ⟨q, hq, htype, hp⟩
  revert hidle
  unfold checkTempPermissionByType
  cases htype : getPermissionType q <;> simp
  exact fun hidle _ => hidle

theorem handled_formInvisible : Handled cameraMic settles o
      ((o.modifyAppState t ({ · with forms := false })).handleFormInvisibleState cameraMic t list) := by
  refine Handled.of_modify h (handleFormInvisibleState_retasked cameraMic _ t list) ⟨fun q hq hv => ?_,
    fun _ q hq hv => ?_⟩
  all_goals
    unfold checkTempPermissionByType
    cases htype : getPermissionType q <;> simp [find_modifyAppState] <;> grind

/-! ## Continuous tasks -/

/-- An event that changes the record of one continuous task of a token and then the delayed tasks. -/
theorem Handled.of_task (hmaps : ∃ k, o₁ = { o with continuousTaskIdMap := k })
    (htypes : ∀ x id', o₁.getContinuousTaskTypeIds x id' = if x = t ∧ id' = id then ids
      else o.getContinuousTaskTypeIds x id')
    (hre : Retasked t f o₁ o')
    (htask : TasksFollow settles f o t (contextOf cameraMic o t list) (contextOf cameraMic o₁ t list)) :
    Handled cameraMic settles o o' := by
  obtain ⟨k, rfl⟩ := hmaps
  refine Handled.of_token hre (recordedContext_of_some h) ?_ (fun x => ?_) ?_ ?_ (fun x hx => ?_) htask
  · exact recordedContext_of_some h
  · exact Iff.rfl
  · rfl
  · rfl
  have hfind : ∀ type, findContinuousTask cameraMic { o with continuousTaskIdMap := k } x type =
      o.findContinuousTask cameraMic x type := fun type => by
    rw [Bool.eq_iff_iff, findContinuousTask_iff, findContinuousTask_iff]
    simp only [htypes, hx, false_and, if_false]
  unfold recordedContext
  rw [hfind, hfind]

end

section

variable (cameraMic)

theorem find_of_task
    (htypes : ∀ x id', o₁.getContinuousTaskTypeIds x id' = if x = t ∧ id' = id then ids
      else o.getContinuousTaskTypeIds x id')
    (type : TempPermissionType) : o₁.findContinuousTask cameraMic t type = true ↔
      ids.any (isMatchedTaskType cameraMic type) = true ∨ OtherTask cameraMic o t id type := by
  rw [find_iff_otherTask id, htypes]
  unfold OtherTask
  simp only [and_self, if_true, htypes, true_and]
  constructor
  · rintro (⟨ids', rfl, hm⟩ | ⟨id', ids', hne, hids, hm⟩)
    · exact .inl hm
    · rw [if_neg hne] at hids
      exact .inr ⟨id', ids', hne, hids, hm⟩
  · rintro (h | ⟨id', ids', hne, hids, hm⟩)
    · obtain ⟨ids', rfl, hm⟩ := (Option.any_eq_true _ _).1 h
      exact .inl ⟨ids', rfl, hm⟩
    · exact .inr ⟨id', ids', hne, by rw [if_neg hne]; exact hids, hm⟩

theorem find_eq (o : TempPermissionObserver) (t : AccessTokenID) (id : Int32)
    (type : TempPermissionType) :
    o.findContinuousTask cameraMic t type = true ↔
      (o.getContinuousTaskTypeIds t id).any (isMatchedTaskType cameraMic type) = true ∨
      OtherTask cameraMic o t id type :=
  find_of_task cameraMic (fun x id' => by split <;> simp_all) type

theorem isMatchedTaskType_location (ids : List (BitVec 32)) :
    isMatchedTaskType cameraMic .locationType ids = containsTypeId ids location := rfl

theorem isMatchedTaskType_microphone (ids : List (BitVec 32)) :
    isMatchedTaskType cameraMic .microphoneType ids = (cameraMic && hasAudioTaskType ids) := by
  cases cameraMic <;> rfl

end

theorem upsertContinuousTask_maps (o : TempPermissionObserver) (t : AccessTokenID) (id : Int32)
    (ids : List (BitVec 32)) : ∃ k, o.upsertContinuousTask t id ids = { o with continuousTaskIdMap := k } := ⟨_, rfl⟩

theorem removeContinuousTask_maps (o : TempPermissionObserver) (t : AccessTokenID) (id : Int32) :
    ∃ k, o.removeContinuousTask t id = { o with continuousTaskIdMap := k } := by
  unfold removeContinuousTask
  split
  · exact ⟨o.continuousTaskIdMap, rfl⟩
  · exact ⟨_, rfl⟩

theorem associate_cases (cameraMic : Bool) (o : TempPermissionObserver) (t : AccessTokenID) (id : Int32)
    (ids : List (BitVec 32)) :
    o.associateContinuousTaskIfNeeded cameraMic t id ids = (false, o) ∨
      o.associateContinuousTaskIfNeeded cameraMic t id ids = (true, o.upsertContinuousTask t id ids) := by
  unfold associateContinuousTaskIfNeeded
  dsimp only
  split
  · exact .inr rfl
  · exact .inl rfl

/-- A task that is announced as started keeps the types it is recorded with. -/
def TypesKept (cameraMic : Bool) (o : TempPermissionObserver) (info : ContinuousTaskCallbackInfo) : Prop :=
  ∀ old ∈ o.getContinuousTaskTypeIds info.tokenID info.continuousTaskId,
    (isMatchedTaskType cameraMic .locationType old = true →
      isMatchedTaskType cameraMic .locationType info.typeIds = true) ∧
      (isMatchedTaskType cameraMic .microphoneType old = true →
        isMatchedTaskType cameraMic .microphoneType info.typeIds = true)
deriving Decidable

theorem handled_taskStart (hkept : TypesKept cameraMic o info) :
    Handled cameraMic settles o (o.onContinuousTaskStart cameraMic info) := by
  unfold onContinuousTaskStart
  split
  · exact Handled.refl cameraMic settles o
  rename_i list h
  obtain heq | heq := associate_cases cameraMic o info.tokenID info.continuousTaskId info.typeIds
  · rw [heq]
    exact Handled.refl cameraMic settles o
  rw [heq]
  have hre := (Retasked.onlyIf (containsTypeId info.typeIds location)
      (·.cancelDelayedTasksByType info.tokenID .locationType)
      (cancelDelayedTasksByType_retasked (o.upsertContinuousTask info.tokenID info.continuousTaskId info.typeIds)
        info.tokenID .locationType)).trans
    (Retasked.onlyIf (cameraMic && hasAudioTaskType info.typeIds)
      (·.cancelDelayedTasksByType info.tokenID .microphoneType)
      (cancelDelayedTasksByType_retasked _ info.tokenID .microphoneType))
  have htypes := fun x id => getContinuousTaskTypeIds_upsert o info.tokenID x info.continuousTaskId id info.typeIds
  -- what is found before and after, without the task itself
  have hloc := find_of_task cameraMic htypes .locationType
  have hmic := find_of_task cameraMic htypes .microphoneType
  have hloc₀ := find_eq cameraMic o info.tokenID info.continuousTaskId .locationType
  have hmic₀ := find_eq cameraMic o info.tokenID info.continuousTaskId .microphoneType
  rw [Option.any_eq_true] at hloc₀ hmic₀
  simp only [Option.any_some, isMatchedTaskType_location, isMatchedTaskType_microphone] at hloc hmic
  simp only [TypesKept, isMatchedTaskType_location, isMatchedTaskType_microphone] at hkept hloc₀ hmic₀
  refine Handled.of_task h (upsertContinuousTask_maps ..) htypes hre ⟨fun q hq hv => ?_, fun _ q hq hv => ?_⟩
  all_goals
    unfold checkTempPermissionByType
    cases htype : getPermissionType q <;> simp <;> grind

theorem handleContinuousTaskUpdate_retasked (cameraMic : Bool) (o : TempPermissionObserver) (t : AccessTokenID)
    (htype : type = .locationType ∨ type = .microphoneType) (list : AppState) (had has : Bool) :
    Retasked t (fun q P => if has = true then P ∧ getPermissionType q ≠ type
        else P ∨ had = true ∧ getPermissionType q = type ∧ o.findContinuousTask cameraMic t type = false ∧
          list.foreground = false ∧ (type = .locationType → list.forms = false)) o
      (o.handleContinuousTaskUpdate cameraMic t type list had has) := by
  unfold handleContinuousTaskUpdate
  cases has with
  | true => simpa using cancelDelayedTasksByType_retasked o t type
  | false =>
    cases had with
    | true => simpa using handleContinuousTaskStop_retasked cameraMic o t htype list
    | false => simpa using Retasked.refl t o

theorem associateUpdated_cases (cameraMic : Bool) (o : TempPermissionObserver) (info : ContinuousTaskCallbackInfo) :
    o.associateUpdatedTask cameraMic info = (false, o) ∨ o.associateUpdatedTask cameraMic info =
        (true, o.upsertContinuousTask info.tokenID info.continuousTaskId info.typeIds) := by
  unfold associateUpdatedTask
  split
  · exact .inr rfl
  · exact associate_cases ..

theorem any_matched_eq (cameraMic : Bool) {old : Option (List (BitVec 32))} :
    old.any (isMatchedTaskType cameraMic .locationType) = containsTypeId (old.getD []) location ∧
      old.any (isMatchedTaskType cameraMic .microphoneType) = (cameraMic && hasAudioTaskType (old.getD [])) := by
  cases old with
  | none => simp [containsTypeId, hasAudioTaskType]
  | some ids => exact ⟨rfl, isMatchedTaskType_microphone cameraMic ids⟩

theorem handled_taskUpdate : Handled cameraMic settles o (o.onContinuousTaskUpdate cameraMic info) := by
  unfold onContinuousTaskUpdate
  split
  · exact Handled.refl cameraMic settles o
  rename_i list h
  have hloc₀ := find_eq cameraMic o info.tokenID info.continuousTaskId .locationType
  have hmic₀ := find_eq cameraMic o info.tokenID info.continuousTaskId .microphoneType
  rw [(any_matched_eq cameraMic).1] at hloc₀
  rw [(any_matched_eq cameraMic).2] at hmic₀
  generalize (o.getContinuousTaskTypeIds info.tokenID info.continuousTaskId).getD [] = old at hloc₀ hmic₀ ⊢
  obtain heq | heq := associateUpdated_cases cameraMic o info
  · rw [heq]
    exact Handled.refl cameraMic settles o
  rw [heq]
  have h₁ := handleContinuousTaskUpdate_retasked cameraMic
    (o.upsertContinuousTask info.tokenID info.continuousTaskId info.typeIds) info.tokenID (.inl rfl) list
    (containsTypeId old location) (containsTypeId info.typeIds location)
  have hre :=
    h₁.trans (Retasked.onlyIf cameraMic (·.handleContinuousTaskUpdate cameraMic info.tokenID .microphoneType list
      (hasAudioTaskType old) (hasAudioTaskType info.typeIds))
    (handleContinuousTaskUpdate_retasked cameraMic _ info.tokenID (.inr rfl) list (hasAudioTaskType old)
      (hasAudioTaskType info.typeIds)))
  rw [h₁.findContinuousTask] at hre
  have htypes := fun x id => getContinuousTaskTypeIds_upsert o info.tokenID x info.continuousTaskId id info.typeIds
  have hloc := find_of_task cameraMic htypes .locationType
  have hmic := find_of_task cameraMic htypes .microphoneType
  simp only [Option.any_some, isMatchedTaskType_location, isMatchedTaskType_microphone] at hloc hmic
  refine Handled.of_task h (upsertContinuousTask_maps ..) htypes hre ⟨fun q hq hv => ?_, fun _ q hq hv => ?_⟩
  all_goals
    unfold checkTempPermissionByType
    cases htype : getPermissionType q <;> simp <;> grind

theorem handled_taskStop : Handled cameraMic settles o (o.onContinuousTaskStop cameraMic info) := by
  unfold onContinuousTaskStop
  split
  · exact Handled.refl cameraMic settles o
  rename_i list h
  have htypes := fun x id => getContinuousTaskTypeIds_remove o info.tokenID x info.continuousTaskId id
  have hloc := find_of_task cameraMic htypes .locationType
  have hmic := find_of_task cameraMic htypes .microphoneType
  have hloc₀ := find_eq cameraMic o info.tokenID info.continuousTaskId .locationType
  have hmic₀ := find_eq cameraMic o info.tokenID info.continuousTaskId .microphoneType
  split
  · -- the task was not associated: nothing is forgotten
    rename_i hnone
    rw [hnone] at hloc₀ hmic₀
    refine Handled.of_task h (removeContinuousTask_maps ..) htypes (Retasked.refl info.tokenID _) ⟨fun q hq hv => ?_,
      fun _ q hq hv => ?_⟩
    all_goals
      rw [contextOf, contextOf, Bool.eq_iff_iff.2 (hloc.trans hloc₀.symm), Bool.eq_iff_iff.2 (hmic.trans hmic₀.symm)]
      exact id
  rename_i old hsome
  rw [hsome] at hloc₀ hmic₀
  have h₁ := Retasked.onlyIf (containsTypeId old location)
    (·.handleContinuousTaskStop cameraMic info.tokenID .locationType list)
    (handleContinuousTaskStop_retasked cameraMic (o.removeContinuousTask info.tokenID info.continuousTaskId)
      info.tokenID (.inl rfl) list)
  have hre := h₁.trans (Retasked.onlyIf (cameraMic && hasAudioTaskType old)
    (·.handleContinuousTaskStop cameraMic info.tokenID .microphoneType list)
    (handleContinuousTaskStop_retasked cameraMic _ info.tokenID (.inr rfl) list))
  rw [h₁.findContinuousTask] at hre
  simp only [Option.any_some, Option.any_none, isMatchedTaskType_location, isMatchedTaskType_microphone]
    at hloc hmic hloc₀ hmic₀
  refine Handled.of_task h (removeContinuousTask_maps ..) htypes hre ⟨fun q hq hv => ?_, fun _ q hq hv => ?_⟩
  all_goals
    unfold checkTempPermissionByType
    cases htype : getPermissionType q <;> simp <;> grind

/-! ## Grants -/

/-- The answers of the managers agree with what is recorded of the token: the same app state, the recorded types of each
task, and no task that should have been recorded. -/
def AnswersAgree (cameraMic : Bool) (o : TempPermissionObserver) (live : LiveState) (t : AccessTokenID) : Prop :=
  ∀ list ∈ o.tempPermTokenMap[t]?,
    list = ⟨live.foregroundApplications.contains t, live.hasFormVisible t⟩ ∧
      ∀ info ∈ live.continuousTaskApps, info.tokenID = t →
        (∀ ids ∈ o.getContinuousTaskTypeIds t info.continuousTaskId, ids = info.typeIds) ∧
          (o.getContinuousTaskTypeIds t info.continuousTaskId = none →
            ∀ type ∈ [locationType, microphoneType],
              isMatchedTaskType cameraMic type info.typeIds = true → o.hasTempPermissionType t type = false)
deriving Decidable

def upsertAll (t : AccessTokenID) (l : List ContinuousTaskCallbackInfo) (o : TempPermissionObserver) :
    TempPermissionObserver :=
  l.foldl (fun o info => o.upsertContinuousTask t info.continuousTaskId info.typeIds) o

theorem upsertAll_spec (t : AccessTokenID) : ∀ (l : List ContinuousTaskCallbackInfo) (o : TempPermissionObserver),
    (∃ k, upsertAll t l o = { o with continuousTaskIdMap := k }) ∧
      (∀ x id, x ≠ t → (upsertAll t l o).getContinuousTaskTypeIds x id = o.getContinuousTaskTypeIds x id) ∧
      (∀ id : Int32, (upsertAll t l o).getContinuousTaskTypeIds t id = o.getContinuousTaskTypeIds t id ∨
        ∃ info ∈ l, info.continuousTaskId = id ∧ (upsertAll t l o).getContinuousTaskTypeIds t id = some info.typeIds) ∧
      ∀ info ∈ l, ∃ info' ∈ l, info'.continuousTaskId = info.continuousTaskId ∧
        (upsertAll t l o).getContinuousTaskTypeIds t info.continuousTaskId = some info'.typeIds
  | [], o => ⟨⟨o.continuousTaskIdMap, rfl⟩, fun _ _ _ => rfl, fun _ => .inl rfl, by simp⟩
  | i :: l, o => by
    obtain ⟨⟨k, hk⟩, hother, hone, hall⟩ := upsertAll_spec t l (o.upsertContinuousTask t i.continuousTaskId i.typeIds)
    have hcons : upsertAll t (i :: l) o = upsertAll t l (o.upsertContinuousTask t i.continuousTaskId i.typeIds) := rfl
    rw [hcons]
    refine ⟨⟨k, hk⟩, fun x id hx => ?_, fun id => ?_, fun info hinfo => ?_⟩
    · rw [hother x id hx, getContinuousTaskTypeIds_upsert, if_neg fun h => hx h.1]
    · obtain hsame | ⟨info, hinfo, hid, heq⟩ := hone id
      · rw [hsame, getContinuousTaskTypeIds_upsert]
        by_cases h : id = i.continuousTaskId
        · rw [if_pos ⟨rfl, h⟩]
          exact .inr ⟨i, List.mem_cons_self, h.symm, rfl⟩
        · rw [if_neg fun hc => h hc.2]
          exact .inl rfl
      · exact .inr ⟨info, List.mem_cons_of_mem _ hinfo, hid, heq⟩
    · obtain rfl | hinfo := List.mem_cons.1 hinfo
      · obtain hsame | ⟨info', hinfo', hid, heq⟩ := hone info.continuousTaskId
        · refine ⟨info, List.mem_cons_self, rfl, ?_⟩
          rw [hsame, getContinuousTaskTypeIds_upsert, if_pos ⟨rfl, rfl⟩]
        · exact ⟨info', List.mem_cons_of_mem _ hinfo', hid, heq⟩
      · obtain ⟨info', hinfo', hid, heq⟩ := hall info hinfo
        exact ⟨info', List.mem_cons_of_mem _ hinfo', hid, heq⟩

theorem associateGranted_eq {live : List ContinuousTaskCallbackInfo} (o : TempPermissionObserver)
    (htype : o.hasTempPermissionType t type = true) : o.associateGrantedPermissionTasks cameraMic t type live =
      upsertAll t (live.filter fun info => info.tokenID == t && isMatchedTaskType cameraMic type info.typeIds) o := by
  unfold associateGrantedPermissionTasks
  have hmatch : ∀ info ∈ live.filter fun info => info.tokenID == t && isMatchedTaskType cameraMic type info.typeIds,
      isMatchedTaskType cameraMic type info.typeIds = true := fun info hinfo => by
    simpa using (Bool.and_eq_true_iff.1 (List.mem_filter.1 hinfo).2).2
  revert hmatch
  generalize (live.filter fun info => info.tokenID == t && isMatchedTaskType cameraMic type info.typeIds) = l
  intro hmatch
  induction l generalizing o with
  | nil => rfl
  | cons i l ih =>
    rw [List.foldl_cons]
    have hi := hmatch i List.mem_cons_self
    have hstep : (o.associateContinuousTaskIfNeeded cameraMic t i.continuousTaskId i.typeIds).2 =
        o.upsertContinuousTask t i.continuousTaskId i.typeIds := by
      unfold associateContinuousTaskIfNeeded
      cases type with
      | locationType =>
        rw [isMatchedTaskType_location] at hi
        simp [hi, htype]
      | microphoneType =>
        rw [isMatchedTaskType_microphone, Bool.and_eq_true] at hi
        simp [hi, htype]
      | _ => simp [isMatchedTaskType] at hi
    rw [hstep]
    exact ih (o.upsertContinuousTask t i.continuousTaskId i.typeIds) htype fun info hinfo =>
      hmatch info (List.mem_cons_of_mem _ hinfo)

/-- What recording a temporary grant does: the permission is kept, the others of the token are kept as before, and
another token is left alone. -/
structure GrantRecorded (cameraMic : Bool) (live : LiveState) (t : AccessTokenID) (p : String)
    (o o' : TempPermissionObserver) : Prop where
  tokens : ∀ x, x ∈ o'.tempPermTokenMap ↔ x = t ∨ x ∈ o.tempPermTokenMap
  recorded : ∀ x q, Recorded o' x q ↔ Recorded o x q ∨ x = t ∧ q = p
  tasks : o'.delayedTasks = o.delayedTasks
  kept : Keeps cameraMic o' t p
  same : ∀ q, Recorded o t q → (Keeps cameraMic o' t q ↔ Keeps cameraMic o t q)
  other : ∀ x, x ≠ t → recordedContext cameraMic o' x = recordedContext cameraMic o x
  agree : ∀ x, x ≠ t → AnswersAgree cameraMic o live x → AnswersAgree cameraMic o' live x

section Add

variable {live : LiveState} {l : List ContinuousTaskCallbackInfo}

theorem recorded_add (o : TempPermissionObserver) (t : AccessTokenID) (b p : String) (list : AppState)
    (x : AccessTokenID)
    (q : String) : Recorded (o.addTempPermTokenToList t b p list) x q ↔ Recorded o x q ∨ x = t ∧ q = p := by
  rw [recorded_iff, recorded_iff]
  unfold addTempPermTokenToList
  rw [getElem?_insert]
  by_cases hx : x = t
  · subst hx
    rw [if_pos rfl, Std.ExtTreeMap.getD_eq_getD_getElem?]
    cases o.tempPermPermissionMap[x]? <;> simp [Lib.mem_set_insert, or_comm, -Std.ExtTreeSet.mem_insert]
  · simp [hx]

/-- A written record of tasks agrees with what was found, as far as the recorded permissions go. -/
theorem find_upsertAll_of_agree (hlist : o.tempPermTokenMap[t]? = some list) (hagree : AnswersAgree cameraMic o live t)
    (hl : ∀ info ∈ l, info ∈ live.continuousTaskApps ∧ info.tokenID = t)
    (htypes : ∀ id, o₁.getContinuousTaskTypeIds t id = o.getContinuousTaskTypeIds t id)
    (htype : type ∈ [locationType, microphoneType])
    (hhas : o.hasTempPermissionType t type = true) :
    (upsertAll t l o₁).findContinuousTask cameraMic t type = o.findContinuousTask cameraMic t type := by
  obtain ⟨-, hinfos⟩ := hagree list hlist
  obtain ⟨-, -, hone, -⟩ := upsertAll_spec t l o₁
  rw [Bool.eq_iff_iff, findContinuousTask_iff, findContinuousTask_iff]
  constructor
  · rintro ⟨id, ids, hids, hm⟩
    obtain hsame | ⟨info, hinfo, rfl, heq⟩ := hone id
    · exact ⟨id, ids, by rw [← htypes, ← hsame]; exact hids, hm⟩
    rw [heq] at hids
    cases hids
    obtain ⟨hlive, htok⟩ := hl info hinfo
    obtain ⟨hsome, hnone⟩ := hinfos info hlive htok
    cases hrec : o.getContinuousTaskTypeIds t info.continuousTaskId with
    | none =>
      rw [hnone hrec type htype hm] at hhas
      cases hhas
    | some ids =>
      exact ⟨info.continuousTaskId, ids, hrec, by rw [hsome ids hrec]; exact hm⟩
  · rintro ⟨id, ids, hids, hm⟩
    obtain hsame | ⟨info, hinfo, rfl, heq⟩ := hone id
    · exact ⟨id, ids, by rw [hsame, htypes]; exact hids, hm⟩
    · obtain ⟨hlive, htok⟩ := hl info hinfo
      obtain ⟨hsome, -⟩ := hinfos info hlive htok
      exact ⟨info.continuousTaskId, info.typeIds, heq, by rw [← hsome ids hids]; exact hm⟩

theorem find_upsertAll_of_mem (hinfo : info ∈ l)
    (hl : ∀ info ∈ l, isMatchedTaskType cameraMic type info.typeIds = true) :
    (upsertAll t l o).findContinuousTask cameraMic t type = true := by
  obtain ⟨-, -, -, hall⟩ := upsertAll_spec t l o
  obtain ⟨info', hinfo', -, heq⟩ := hall info hinfo
  exact findContinuousTask_iff.2 ⟨info.continuousTaskId, info'.typeIds, heq, hl info' hinfo'⟩

end Add

theorem check_mono {C C' : PermissionCheckContext} (h : checkTempPermissionByType p C = true)
    (hfg : C'.isForeground = C.isForeground) (hforms : C'.isFormVisible = C.isFormVisible)
    (hloc : getPermissionType p = .locationType → C.hasLocationTask = true → C'.hasLocationTask = true)
    (hmic : getPermissionType p = .microphoneType → C.hasAudioTask = true → C'.hasAudioTask = true) :
    checkTempPermissionByType p C' = true := by
  unfold checkTempPermissionByType at h ⊢
  revert h
  rw [hfg, hforms]
  cases htype : getPermissionType p <;> simp <;> grind

/-- **Recording a temporary grant.** -/
theorem grantRecorded {live : LiveState} (hsync : ∀ q, Recorded o t q → t ∈ o.tempPermTokenMap)
    (hagree : AnswersAgree cameraMic o live t)
    (hcheck : checkTempPermissionByType p (collectContext cameraMic live t) = true) (b : String) :
    GrantRecorded cameraMic live t p o
      ((o.addTempPermTokenToList t b p ⟨live.foregroundApplications.contains t, live.hasFormVisible t⟩)
        |>.associateGrantedPermissionTasks cameraMic t (getPermissionType p) live.continuousTaskApps) := by
  have hrec := recorded_add o t b p ⟨live.foregroundApplications.contains t, live.hasFormVisible t⟩
  generalize ho₁ : o.addTempPermTokenToList t b p ⟨live.foregroundApplications.contains t, live.hasFormVisible t⟩ = o₁
    at hrec ⊢
  have hp : o₁.hasTempPermissionType t (getPermissionType p) = true :=
    hasTempPermissionType_iff.2 ⟨p, (hrec t p).2 (.inr ⟨rfl, rfl⟩), rfl⟩
  rw [associateGranted_eq o₁ hp]
  generalize hl : (live.continuousTaskApps.filter fun info =>
    info.tokenID == t && isMatchedTaskType cameraMic (getPermissionType p) info.typeIds) = l
  have hlive : ∀ info ∈ l, info ∈ live.continuousTaskApps ∧ info.tokenID = t := fun info hinfo => by
    rw [← hl, List.mem_filter, Bool.and_eq_true, beq_iff_eq] at hinfo
    exact ⟨hinfo.1, hinfo.2.1⟩
  have hmatched : ∀ info ∈ l, isMatchedTaskType cameraMic (getPermissionType p) info.typeIds = true :=
      fun info hinfo => by
    rw [← hl, List.mem_filter, Bool.and_eq_true] at hinfo
    exact hinfo.2.2
  have hin : ∀ info ∈ live.continuousTaskApps, info.tokenID = t →
      isMatchedTaskType cameraMic (getPermissionType p) info.typeIds = true → info ∈ l := fun info hinfo htok hm => by
    rw [← hl, List.mem_filter]
    simp [hinfo, htok, hm]
  obtain ⟨⟨k, hk⟩, hother, -, -⟩ := upsertAll_spec t l o₁
  have hfound : ∀ info ∈ l, (upsertAll t l o₁).findContinuousTask cameraMic t (getPermissionType p) = true :=
    fun info hinfo => find_upsertAll_of_mem hinfo hmatched
  have hsame : ∀ list type, o.tempPermTokenMap[t]? = some list →
      type ∈ [locationType, microphoneType] → o.hasTempPermissionType t type = true →
      (upsertAll t l o₁).findContinuousTask cameraMic t type = o.findContinuousTask cameraMic t type :=
    fun list type hlist htype hhas =>
      find_upsertAll_of_agree hlist hagree hlive (fun id => by rw [← ho₁]; rfl) htype hhas
  have hmap : (upsertAll t l o₁).tempPermTokenMap =
      o.tempPermTokenMap.insert t ⟨live.foregroundApplications.contains t, live.hasFormVisible t⟩ := by
    rw [hk, ← ho₁]
    rfl
  have hrec' : ∀ x q, Recorded (upsertAll t l o₁) x q ↔ Recorded o x q ∨ x = t ∧ q = p := fun x q => by
    rw [hk]
    exact hrec x q
  have happ : ∀ x, x ≠ t → (upsertAll t l o₁).tempPermTokenMap[x]? = o.tempPermTokenMap[x]? := fun x hx => by
    rw [hmap, Lib.getElem?_insert_of_ne hx]
  have htypes : ∀ x id, x ≠ t → (upsertAll t l o₁).getContinuousTaskTypeIds x id = o.getContinuousTaskTypeIds x id :=
    fun x id hx => by
      rw [hother x id hx, ← ho₁]
      rfl
  have hctx := @recordedContext_of_some cameraMic (upsertAll t l o₁) t _ (by rw [hmap, getElem?_insert_self])
  refine ⟨fun x => ?_, hrec', by rw [hk, ← ho₁]; rfl, ?_, fun q hq => ?_, fun x hx => ?_, fun x hx hx' => ?_⟩
  · rw [hmap, mem_insert]
  · -- what the check found live is recorded now
    rw [Keeps, hctx]
    refine check_mono hcheck rfl rfl (fun htype htask => ?_) (fun htype htask => ?_)
    · obtain ⟨info, hinfo, hboth⟩ := List.any_eq_true.1 htask
      obtain ⟨htok, hm⟩ := Bool.and_eq_true_iff.1 hboth
      rw [htype] at hin hfound
      exact hfound info (hin info hinfo (by simpa using htok) hm)
    · obtain ⟨hon, hany⟩ := Bool.and_eq_true_iff.1 htask
      obtain ⟨info, hinfo, hboth⟩ := List.any_eq_true.1 hany
      obtain ⟨htok, hm⟩ := Bool.and_eq_true_iff.1 hboth
      rw [htype] at hin hfound
      refine hfound info (hin info hinfo (by simpa using htok) ?_)
      rw [isMatchedTaskType_microphone, hon, hm]
      rfl
  · obtain ⟨list, hlist⟩ := Lib.mem_iff_exists.1 (hsync q hq)
    rw [Keeps, Keeps, hctx, recordedContext_of_some hlist, ← (hagree list hlist).1]
    have hfind : ∀ type ∈ [locationType, microphoneType], getPermissionType q = type →
        (upsertAll t l o₁).findContinuousTask cameraMic t type = o.findContinuousTask cameraMic t type :=
      fun type hmem htype => hsame list type hlist hmem (hasTempPermissionType_iff.2 ⟨q, hq, htype⟩)
    constructor
    · exact fun h => check_mono h rfl rfl (fun htype h => (hfind _ (by simp) htype).symm.trans h)
        (fun htype h => (hfind _ (by simp) htype).symm.trans h)
    · exact fun h => check_mono h rfl rfl (fun htype h => (hfind _ (by simp) htype).trans h)
        (fun htype h => (hfind _ (by simp) htype).trans h)
  · have hfind : ∀ type, (upsertAll t l o₁).findContinuousTask cameraMic x type =
        o.findContinuousTask cameraMic x type :=
      fun type => by
        rw [Bool.eq_iff_iff, findContinuousTask_iff, findContinuousTask_iff]
        simp only [htypes x _ hx]
    unfold recordedContext
    rw [happ x hx, hfind, hfind]
  · have hhas : ∀ type, (upsertAll t l o₁).hasTempPermissionType x type = o.hasTempPermissionType x type :=
        fun type => by
      rw [Bool.eq_iff_iff, hasTempPermissionType_iff, hasTempPermissionType_iff]
      simp only [hrec', hx, false_and, or_false]
    unfold AnswersAgree
    simp only [happ x hx, htypes x _ hx, hhas]
    exact hx'

end TempPermissionObserver
end AccessToken
