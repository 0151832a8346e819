import AccessToken.TempPermission.Observer
/-!
# What each event does to the records and the delayed tasks

Every handler leaves the records of the other tokens alone, so the effect of an event is told for its token: the context
the keep conditions are evaluated in, and which of its permissions have a task pending afterwards.
-/
namespace AccessToken

open Lib (getElem?_erase getElem?_insert)
open TempPermission

namespace TempPermission

theorem getTempPermissionTaskName_inj {t t' : AccessTokenID} {p p' : String} :
    getTempPermissionTaskName t p = getTempPermissionTaskName t' p' ↔ (t, p) = (t', p') := by
  constructor
  · intro h
    have hsep : ∀ x : AccessTokenID, '#' ∉ Lib.toDecimal x.toNat := fun x hx => by
      obtain h | h := Lib.mem_toDecimal hx <;> revert h <;> decide
    obtain ⟨hdec, hname⟩ := Lib.append_sep_inj_left (hsep t) (hsep t') (List.append_cancel_left h)
    have ht : t.toNat = t'.toNat := Int.ofNat_inj.1 (Lib.toDecimal_injective hdec)
    rw [BitVec.eq_of_toNat_eq ht, String.toList_inj.1 hname]
  · rintro ⟨⟩
    rfl

theorem getPermissionType_of_mem {p : String} (h : p ∈ tempPermission) : getPermissionType p ≠ .invalidType := by
  revert p
  decide

end TempPermission

namespace TempPermissionObserver

variable {cameraMic : Bool} {o : TempPermissionObserver} {t x : AccessTokenID} {p q : String}

/-! ## The records of a token -/

def Recorded (o : TempPermissionObserver) (t : AccessTokenID) (p : String) : Prop := p ∈ o.getTempPermissionNames t
deriving Decidable

def Pending (o : TempPermissionObserver) (t : AccessTokenID) (p : String) : Prop := (t, p) ∈ o.delayedTasks
deriving Decidable

def recordedContext (cameraMic : Bool) (o : TempPermissionObserver) (t : AccessTokenID) : PermissionCheckContext where
  isForeground := (o.tempPermTokenMap[t]?).any (·.foreground)
  isFormVisible := (o.tempPermTokenMap[t]?).any (·.forms)
  hasLocationTask := o.findContinuousTask cameraMic t .locationType
  hasAudioTask := o.findContinuousTask cameraMic t .microphoneType

/-- The context of a token in the given app state. -/
abbrev contextOf (cameraMic : Bool) (o : TempPermissionObserver) (t : AccessTokenID) (list : AppState) :
    PermissionCheckContext :=
  ⟨list.foreground, list.forms, o.findContinuousTask cameraMic t .locationType,
    o.findContinuousTask cameraMic t .microphoneType⟩

def Keeps (cameraMic : Bool) (o : TempPermissionObserver) (t : AccessTokenID) (p : String) : Prop :=
  checkTempPermissionByType p (recordedContext cameraMic o t) = true
deriving Decidable

theorem recorded_iff : Recorded o t p ↔ ∃ names, o.tempPermPermissionMap[t]? = some names ∧ p ∈ names := by
  unfold Recorded getTempPermissionNames
  cases o.tempPermPermissionMap[t]? with
  | none => simp
  | some => simp

variable {type : TempPermissionType} {f g : String → Prop → Prop} {o' o₁ : TempPermissionObserver}

theorem hasTempPermissionType_iff :
    o.hasTempPermissionType t type = true ↔ ∃ p, Recorded o t p ∧ getPermissionType p = type := by
  simp [hasTempPermissionType, Recorded]

/-! ## Delayed tasks -/

theorem mem_cancelTask {a : AccessTokenID × String} :
    a ∈ (o.cancelTaskOfPermissionRevoking (getTempPermissionTaskName t p)).delayedTasks ↔
      a ∈ o.delayedTasks ∧ a ≠ (t, p) := by
  simp [cancelTaskOfPermissionRevoking, getTempPermissionTaskName_inj]

/-- Only the tasks of the recorded permissions of `t` changed: one is pending now if `f` says so of whether it was. -/
structure Retasked (t : AccessTokenID) (f : String → Prop → Prop) (o o' : TempPermissionObserver) : Prop where
  same : ∃ l, o' = { o with delayedTasks := l }
  own : ∀ q, Recorded o t q → (Pending o' t q ↔ f q (Pending o t q))
  other : ∀ x q, ¬(x = t ∧ Recorded o t q) → (Pending o' x q ↔ Pending o x q)

theorem Retasked.refl (t : AccessTokenID) (o : TempPermissionObserver) : Retasked t (fun _ P => P) o o :=
  ⟨⟨o.delayedTasks, rfl⟩, fun _ _ => Iff.rfl, fun _ _ _ => Iff.rfl⟩

theorem Retasked.trans {o₂ : TempPermissionObserver} (h₁ : Retasked t f o o₁)
    (h₂ : Retasked t g o₁ o₂) : Retasked t (fun q P => g q (f q P)) o o₂ := by
  obtain ⟨l, rfl⟩ := h₁.same
  obtain ⟨l', rfl⟩ := h₂.same
  refine ⟨⟨l', rfl⟩, fun q hq => ?_, fun x q hq => (h₂.other x q hq).trans (h₁.other x q hq)⟩
  rw [h₂.own q hq, propext (h₁.own q hq)]

theorem Retasked.onlyIf (b : Bool) (g : TempPermissionObserver → TempPermissionObserver) (h : Retasked t f o (g o)) :
    Retasked t (fun q P => if b = true then f q P else P) o (o.onlyIf b g) := by
  cases b with
  | true => simpa [TempPermissionObserver.onlyIf] using h
  | false => simpa [TempPermissionObserver.onlyIf] using Retasked.refl t o

theorem foldl_cancelTask (t : AccessTokenID) : ∀ (names : List String) (o : TempPermissionObserver),
    ∃ l, names.foldl (fun o p => o.cancelTaskOfPermissionRevoking (getTempPermissionTaskName t p)) o =
        { o with delayedTasks := l } ∧
      ∀ x q, (x, q) ∈ l ↔ Pending o x q ∧ ¬(x = t ∧ q ∈ names)
  | [], o => ⟨o.delayedTasks, rfl, by simp [Pending]⟩
  | p :: names, o => by
    obtain ⟨l, heq, hl⟩ := foldl_cancelTask t names (o.cancelTaskOfPermissionRevoking (getTempPermissionTaskName t p))
    refine ⟨l, heq, fun x q => ?_⟩
    rw [hl, Pending, mem_cancelTask, Pending]
    grind

theorem foldl_delayRevoke (t : AccessTokenID) : ∀ (names : List String) (o : TempPermissionObserver),
    ∃ l, names.foldl (fun o p => o.delayRevokePermission t p) o = { o with delayedTasks := l } ∧
      ∀ x q, (x, q) ∈ l ↔ Pending o x q ∨ x = t ∧ q ∈ names
  | [], o => ⟨o.delayedTasks, rfl, by simp [Pending]⟩
  | p :: names, o => by
    obtain ⟨l, heq, hl⟩ := foldl_delayRevoke t names (o.delayRevokePermission t p)
    refine ⟨l, heq, fun x q => ?_⟩
    rw [hl, Pending, delayRevokePermission, Pending]
    grind

section

variable (o)

theorem cancelDelayedTasks_retasked (t : AccessTokenID) :
    Retasked t (fun _ _ => False) o (o.cancelDelayedTasks t) := by
  obtain ⟨l, heq, hl⟩ := foldl_cancelTask t (o.getTempPermissionNames t) o
  have heq : o.cancelDelayedTasks t = { o with delayedTasks := l } := heq
  rw [heq]
  refine ⟨⟨l, rfl⟩, fun q hq => ?_, fun x q hq => ?_⟩
  · rw [Pending, hl]
    simpa [Recorded] using fun _ => hq
  · rw [Pending, hl]
    simpa [Recorded] using fun _ => hq

theorem cancelDelayedTasksByType_retasked (t : AccessTokenID) (type : TempPermissionType) :
    Retasked t (fun q P => P ∧ getPermissionType q ≠ type) o (o.cancelDelayedTasksByType t type) := by
  obtain ⟨l, heq, hl⟩ := foldl_cancelTask t ((o.getTempPermissionNames t).filter fun p => getPermissionType p == type) o
  have heq : o.cancelDelayedTasksByType t type = { o with delayedTasks := l } := heq
  rw [heq]
  refine ⟨⟨l, rfl⟩, fun q hq => ?_, fun x q hq => ?_⟩
  · have hq : q ∈ o.getTempPermissionNames t := hq
    rw [Pending, hl]
    simp [hq]
  · rw [Pending, hl]
    simp only [List.mem_filter]
    tauto

theorem delayRevokePermissionsByType_retasked (t : AccessTokenID) (type : TempPermissionType) :
    Retasked t (fun q P => P ∨ getPermissionType q = type) o (o.delayRevokePermissionsByType t type) := by
  obtain ⟨l, heq, hl⟩ :=
    foldl_delayRevoke t ((o.getTempPermissionNames t).filter fun p => getPermissionType p == type) o
  have heq : o.delayRevokePermissionsByType t type = { o with delayedTasks := l } := heq
  rw [heq]
  refine ⟨⟨l, rfl⟩, fun q hq => ?_, fun x q hq => ?_⟩
  · have hq : q ∈ o.getTempPermissionNames t := hq
    rw [Pending, hl]
    simp [hq]
  · rw [Pending, hl]
    simp only [List.mem_filter]
    tauto

end

/-! ## The handlers -/

theorem Retasked.congr (h : Retasked t f o o') (hfg : ∀ q P, f q P ↔ g q P) : Retasked t g o o' :=
  ⟨h.same, fun q hq => (h.own q hq).trans (hfg q _), h.other⟩

theorem Retasked.findContinuousTask (h : Retasked t f o o') (cameraMic : Bool)
    (x : AccessTokenID) (type : TempPermissionType) :
    o'.findContinuousTask cameraMic x type = o.findContinuousTask cameraMic x type := by
  obtain ⟨l, rfl⟩ := h.same
  rfl

def DueInBackground (cameraMic : Bool) (o : TempPermissionObserver) (t : AccessTokenID) (forms : Bool) :
    TempPermissionType → Prop
  | .cameraType => cameraMic = true
  | .microphoneType => cameraMic = true ∧ o.findContinuousTask cameraMic t .microphoneType = false
  | .pasteboardType => forms = false
  | .locationType => forms = false ∧ o.findContinuousTask cameraMic t .locationType = false
  | _ => False

theorem handleBackgroundState_retasked {list : AppState} :
    Retasked t (fun q P => P ∨ DueInBackground cameraMic o t list.forms (getPermissionType q)) o
      (o.handleBackgroundState cameraMic t list) := by
  have h₁ := Retasked.onlyIf cameraMic (·.delayRevokePermissionsByType t .cameraType)
    (delayRevokePermissionsByType_retasked o t .cameraType)
  generalize ho₁ : o.onlyIf cameraMic (·.delayRevokePermissionsByType t .cameraType) = o₁ at h₁
  have h₂ := h₁.trans (Retasked.onlyIf (cameraMic && !o₁.findContinuousTask cameraMic t .microphoneType)
    (·.delayRevokePermissionsByType t .microphoneType) (delayRevokePermissionsByType_retasked o₁ t .microphoneType))
  generalize ho₂ : o₁.onlyIf (cameraMic && !o₁.findContinuousTask cameraMic t .microphoneType)
    (·.delayRevokePermissionsByType t .microphoneType) = o₂ at h₂
  have h₃ := h₂.trans (Retasked.onlyIf (!list.forms) (·.delayRevokePermissionsByType t .pasteboardType)
    (delayRevokePermissionsByType_retasked o₂ t .pasteboardType))
  generalize ho₃ : o₂.onlyIf (!list.forms) (·.delayRevokePermissionsByType t .pasteboardType) = o₃ at h₃
  have h₄ := h₃.trans (Retasked.onlyIf (!list.forms && !o₃.findContinuousTask cameraMic t .locationType)
    (·.delayRevokePermissionsByType t .locationType) (delayRevokePermissionsByType_retasked o₃ t .locationType))
  unfold handleBackgroundState
  simp only [ho₁, ho₂, ho₃]
  refine h₄.congr fun q P => ?_
  rw [h₁.findContinuousTask, h₃.findContinuousTask]
  cases htype : getPermissionType q <;> cases cameraMic <;> cases list.forms <;>
    simp [DueInBackground]
  all_goals grind

theorem handleFormInvisibleState_retasked (cameraMic : Bool) (o : TempPermissionObserver) (t : AccessTokenID)
    (list : AppState) :
    Retasked t (fun q P => P ∨ list.foreground = false ∧ (getPermissionType q = .pasteboardType ∨
          getPermissionType q = .locationType ∧ o.findContinuousTask cameraMic t .locationType = false)) o
      (o.handleFormInvisibleState cameraMic t list) := by
  unfold handleFormInvisibleState
  cases list.foreground with
  | true => exact (Retasked.refl t o).congr fun q P => by simp
  | false =>
    have h₁ := delayRevokePermissionsByType_retasked o t .pasteboardType
    simp only [Bool.false_eq_true, if_false, true_and]
    rw [h₁.findContinuousTask]
    cases hfind : o.findContinuousTask cameraMic t .locationType with
    | true => exact h₁.congr fun q P => by simp
    | false =>
      exact (h₁.trans (delayRevokePermissionsByType_retasked _ t .locationType)).congr fun q P => by simp [or_assoc]

theorem handleContinuousTaskStop_retasked (cameraMic : Bool) (o : TempPermissionObserver) (t : AccessTokenID)
    (htype : type = .locationType ∨ type = .microphoneType) (list : AppState) :
    Retasked t (fun q P => P ∨ getPermissionType q = type ∧ o.findContinuousTask cameraMic t type = false ∧
        list.foreground = false ∧ (type = .locationType → list.forms = false)) o
      (o.handleContinuousTaskStop cameraMic t type list) := by
  have h := delayRevokePermissionsByType_retasked o t type
  have hstay := Retasked.refl t o
  unfold handleContinuousTaskStop
  obtain rfl | rfl := htype
  · dsimp only
    split_ifs with hfind hlist
    · exact hstay.congr fun q P => by simp [hfind]
    · exact hstay.congr fun q P => by grind
    · exact h.congr fun q P => by simp_all
  · dsimp only
    split_ifs with hkept
    · exact hstay.congr fun q P => by grind
    · exact h.congr fun q P => by simp_all

/-! ## The records of the continuous tasks -/

theorem findContinuousTask_iff : o.findContinuousTask cameraMic t type = true ↔
      ∃ id ids, o.getContinuousTaskTypeIds t id = some ids ∧ isMatchedTaskType cameraMic type ids = true := by
  unfold findContinuousTask getContinuousTaskTypeIds
  cases o.continuousTaskIdMap[t]? with
  | none => simp
  | some =>
    simp only [Option.any_some, List.any_eq_true, Option.bind_some, Prod.exists,
      Std.ExtTreeMap.mem_toList_iff_getElem?_eq_some]

def OtherTask (cameraMic : Bool) (o : TempPermissionObserver) (t : AccessTokenID) (id : Int32)
    (type : TempPermissionType) : Prop :=
  ∃ id' ids, id' ≠ id ∧ o.getContinuousTaskTypeIds t id' = some ids ∧ isMatchedTaskType cameraMic type ids = true

theorem find_iff_otherTask (id : Int32) : o.findContinuousTask cameraMic t type = true ↔
      (∃ ids, o.getContinuousTaskTypeIds t id = some ids ∧ isMatchedTaskType cameraMic type ids = true) ∨
        OtherTask cameraMic o t id type := by
  rw [findContinuousTask_iff]
  constructor
  · rintro ⟨id', ids, hids, hm⟩
    by_cases h : id' = id
    · exact .inl ⟨ids, h ▸ hids, hm⟩
    · exact .inr ⟨id', ids, h, hids, hm⟩
  · rintro (⟨ids, hids, hm⟩ | ⟨id', ids, -, hids, hm⟩)
    · exact ⟨id, ids, hids, hm⟩
    · exact ⟨id', ids, hids, hm⟩

theorem getContinuousTaskTypeIds_upsert (o : TempPermissionObserver) (t x : AccessTokenID) (id id' : Int32)
    (ids : List (BitVec 32)) :
    (o.upsertContinuousTask t id ids).getContinuousTaskTypeIds x id' =
      if x = t ∧ id' = id then some ids else o.getContinuousTaskTypeIds x id' := by
  unfold upsertContinuousTask getContinuousTaskTypeIds
  rw [getElem?_insert]
  by_cases hx : x = t
  · subst hx
    rw [if_pos rfl, Option.bind_some, getElem?_insert, Std.ExtTreeMap.getD_eq_getD_getElem?]
    by_cases hid : id' = id <;> cases o.continuousTaskIdMap[x]? <;> simp [hid]
  · rw [if_neg hx, if_neg (fun h => hx h.1)]

theorem getContinuousTaskTypeIds_remove (o : TempPermissionObserver) (t x : AccessTokenID) (id id' : Int32) :
    (o.removeContinuousTask t id).getContinuousTaskTypeIds x id' =
      if x = t ∧ id' = id then none else o.getContinuousTaskTypeIds x id' := by
  unfold removeContinuousTask getContinuousTaskTypeIds
  cases htasks : o.continuousTaskIdMap[t]? with
  | none =>
    by_cases h : x = t ∧ id' = id
    · simp [h.1, htasks]
    · rw [if_neg h]
  | some tasks =>
    dsimp only
    by_cases hx : x = t
    · subst hx
      have hget : ((if (tasks.erase id).isEmpty then o.continuousTaskIdMap.erase x
          else o.continuousTaskIdMap.insert x (tasks.erase id))[x]?).bind (fun tasks => tasks[id']?) =
          (tasks.erase id)[id']? := by
        split
        · rename_i hempty
          have hnone : (tasks.erase id)[id']? = none := by
            rw [Std.ExtTreeMap.isEmpty_iff.1 hempty]
            rfl
          rw [hnone, Std.ExtTreeMap.getElem?_erase_self]
          rfl
        · rw [Std.ExtTreeMap.getElem?_insert_self]
          rfl
      rw [hget, getElem?_erase, htasks]
      simp
    · have hne : ¬(x = t ∧ id' = id) := fun h => hx h.1
      rw [if_neg hne]
      split
      · rw [Lib.getElem?_erase_of_ne hx]
      · rw [Lib.getElem?_insert_of_ne hx]

/-! ## What an event keeps -/

/-- A permission that is no longer to be kept has a task pending. -/
def Covered (cameraMic : Bool) (o : TempPermissionObserver) (t : AccessTokenID) (p : String) : Prop :=
  ¬Keeps cameraMic o t p → Pending o t p

/-- A task that is pending is for a permission that is no longer to be kept. -/
def Due (cameraMic : Bool) (o : TempPermissionObserver) (t : AccessTokenID) (p : String) : Prop :=
  Pending o t p → ¬Keeps cameraMic o t p

/-- The event leaves the recorded permissions, keeps them covered, and, where `settles` holds, leaves no task that is
not due. -/
structure Handled (cameraMic : Bool) (settles : Prop) (o o' : TempPermissionObserver) : Prop where
  tokens : ∀ x, x ∈ o'.tempPermTokenMap ↔ x ∈ o.tempPermTokenMap
  names : o'.tempPermPermissionMap = o.tempPermPermissionMap
  pending : ∀ x q, Pending o' x q → Pending o x q ∨ Recorded o x q
  covered : ∀ x q, Recorded o x q → getPermissionType q ≠ .invalidType → Covered cameraMic o x q →
    Covered cameraMic o' x q
  due : settles → ∀ x q, Recorded o x q → getPermissionType q ≠ .invalidType → Due cameraMic o x q →
    Due cameraMic o' x q

theorem Handled.refl (cameraMic : Bool) (settles : Prop) (o : TempPermissionObserver) : Handled cameraMic settles o o :=
  ⟨fun _ => Iff.rfl, rfl, fun _ _ => .inl, fun _ _ _ _ => id, fun _ _ _ _ _ => id⟩

theorem recorded_congr (h : o'.tempPermPermissionMap = o.tempPermPermissionMap) : Recorded o' t p ↔ Recorded o t p := by
  unfold Recorded getTempPermissionNames
  rw [h]

theorem Retasked.recordedContext (h : Retasked t f o o') (cameraMic : Bool) (x : AccessTokenID) :
    recordedContext cameraMic o' x = recordedContext cameraMic o x := by
  obtain ⟨l, rfl⟩ := h.same
  rfl

/-- The tasks of a token, changed by `f`, follow its context from `C₀` to `C₁`: a permission that is no longer kept is
pending, and where `settles` holds no other is. -/
structure TasksFollow (settles : Prop) (f : String → Prop → Prop) (o : TempPermissionObserver) (t : AccessTokenID)
    (C₀ C₁ : PermissionCheckContext) : Prop where
  covered : ∀ q, Recorded o t q → getPermissionType q ≠ .invalidType →
    (checkTempPermissionByType q C₀ = false → Pending o t q) → checkTempPermissionByType q C₁ = false →
    f q (Pending o t q)
  due : settles → ∀ q, Recorded o t q → getPermissionType q ≠ .invalidType →
    (Pending o t q → checkTempPermissionByType q C₀ = false) → f q (Pending o t q) →
    checkTempPermissionByType q C₁ = false

/-- An event of one token: it changes the context of the token from `C₀` to `C₁`, and then its tasks. -/
theorem Handled.of_token {settles : Prop} {C₀ C₁ : PermissionCheckContext}
    (hre : Retasked t f o₁ o') (hC₀ : recordedContext cameraMic o t = C₀) (hC₁ : recordedContext cameraMic o₁ t = C₁)
    (htokens : ∀ x, x ∈ o₁.tempPermTokenMap ↔ x ∈ o.tempPermTokenMap)
    (hnames : o₁.tempPermPermissionMap = o.tempPermPermissionMap) (htasks : o₁.delayedTasks = o.delayedTasks)
    (hother : ∀ x, x ≠ t → recordedContext cameraMic o₁ x = recordedContext cameraMic o x)
    (htask : TasksFollow settles f o t C₀ C₁) : Handled cameraMic settles o o' := by
  have hpend : ∀ x q, Pending o₁ x q ↔ Pending o x q := fun x q => by rw [Pending, htasks, Pending]
  have hrec : ∀ x q, Recorded o₁ x q ↔ Recorded o x q := fun x q => recorded_congr hnames
  have hkeep₀ : ∀ q, ¬Keeps cameraMic o t q ↔ checkTempPermissionByType q C₀ = false := fun q => by
    rw [Keeps, hC₀, Bool.not_eq_true]
  have hkeep : ∀ q, ¬Keeps cameraMic o' t q ↔ checkTempPermissionByType q C₁ = false := fun q => by
    rw [Keeps, hre.recordedContext, hC₁, Bool.not_eq_true]
  have hown : ∀ q, Recorded o t q → (Pending o' t q ↔ f q (Pending o t q)) := fun q hq => by
    rw [hre.own q ((hrec t q).2 hq), propext (hpend t q)]
  -- another token keeps its context and its tasks
  have hframe : ∀ x q, x ≠ t → (Pending o' x q ↔ Pending o x q) ∧ (Keeps cameraMic o' x q ↔ Keeps cameraMic o x q) :=
    fun x q hx => ⟨(hre.other x q fun h => hx h.1).trans (hpend x q), by
      rw [Keeps, hre.recordedContext, hother x hx, Keeps]⟩
  refine ⟨fun x => ?_, ?_, fun x q hq => ?_, fun x q hq hv hc => ?_, fun hs x q hq hv hc => ?_⟩
  · obtain ⟨l, rfl⟩ := hre.same
    exact htokens x
  · obtain ⟨l, rfl⟩ := hre.same
    exact hnames
  · by_cases h : x = t ∧ Recorded o₁ t q
    · obtain ⟨rfl, h⟩ := h
      exact .inr ((hrec x q).1 h)
    · exact .inl ((hpend x q).1 ((hre.other x q h).1 hq))
  · by_cases hx : x = t
    · subst hx
      intro hk
      exact (hown q hq).2 (htask.covered q hq hv (fun h => hc ((hkeep₀ q).2 h)) ((hkeep q).1 hk))
    · obtain ⟨hP, hK⟩ := hframe x q hx
      intro hk
      exact hP.2 (hc fun h => hk (hK.2 h))
  · by_cases hx : x = t
    · subst hx
      intro hp
      exact (hkeep q).2 (htask.due hs q hq hv (fun h => (hkeep₀ q).1 (hc h)) ((hown q hq).1 hp))
    · obtain ⟨hP, hK⟩ := hframe x q hx
      intro hp hk
      exact hc (hP.1 hp) (hK.1 hk)

end TempPermissionObserver
end AccessToken
