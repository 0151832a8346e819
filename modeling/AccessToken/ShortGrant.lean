import AccessToken.Service.Permission
/-!
# ShortGrantManager — grants that expire

`short_grant_manager.cpp`.  A short grant is an entry with the time of its first grant and the time it is to be revoked,
and a delayed task that revokes it.  A refresh extends the grant, up to a fixed time after the first grant; the task,
the end of the app and the death of the app manager revoke it and drop the entry.
-/
namespace AccessToken

open Lib (Reaches modifyFirst)

/-- `PermTimerData`; the times are seconds in a `uint32_t`. -/
structure PermTimerData where
  tokenID : AccessTokenID
  permissionName : String
  firstGrantTimes : BitVec 32
  revokeTimes : BitVec 32
deriving DecidableEq

structure RevokeTask where
  tokenID : AccessTokenID
  permissionName : String
  due : BitVec 32
deriving DecidableEq

/-- `ShortGrantManager` with its event handler, and the permissions granted through it and not revoked since. -/
structure ShortGrantManager where
  shortGrantData : List PermTimerData
  tasks : List RevokeTask
  granted : TokenPerms

namespace ShortGrantManager

open Service (shortGrantPermission)

/-- `DEFAULT_MAX_TIME_MILLISECONDS`, in seconds. -/
def maxTime : BitVec 32 := 30 * 60

/-- `DEFAULT_MAX_ONCE_TIME_MILLISECONDS`, in seconds. -/
def maxOnceTime : BitVec 32 := 5 * 60

def taskNameShortGrantPermission : List Char := "atm_permission_manager_short_grant".toList

def taskName (tokenID : AccessTokenID) (permission : String) : List Char :=
  taskNameShortGrantPermission ++ (Lib.toDecimal tokenID.toNat ++ permission.toList)

variable (s : ShortGrantManager)

def cancelTaskOfPermissionRevoking (tasks : List RevokeTask) (tokenID : AccessTokenID) (permission : String) :
    List RevokeTask :=
  tasks.filter fun k => taskName k.tokenID k.permissionName != taskName tokenID permission

def extension (data : PermTimerData) (onceTime now : BitVec 32) : Option (BitVec 32) :=
  let maxRemainedTime := if maxTime > now - data.firstGrantTimes then maxTime - (now - data.firstGrantTimes) else 0
  let currRemainedTime := if data.revokeTimes > now then data.revokeTimes - now else 0
  let cancelTimes := if maxRemainedTime > onceTime then onceTime else maxRemainedTime
  if cancelTimes > currRemainedTime then some cancelTimes else none

def isEntry (tokenID : AccessTokenID) (permission : String) (data : PermTimerData) : Bool :=
  data.tokenID == tokenID && data.permissionName == permission

/-- `RefreshPermission` at the time `now`, with the result of `GrantPermission`. -/
def refreshPermission (now : BitVec 32) (tokenID : AccessTokenID) (permission : String) (onceTime : BitVec 32)
    (grant : Ret) : Ret × ShortGrantManager :=
  if tokenID == 0 || onceTime == 0 || decide (onceTime > maxOnceTime) || decide (onceTime > maxTime) then
    (.error .errParamInvalid, s)
  else
    match s.shortGrantData.find? (isEntry tokenID permission) with
    | none =>
      if !shortGrantPermission.contains permission then (.error .errParamInvalid, s)
      else
        match grant with
        | .error e => (.error e, s)
        | .ok () =>
          (.ok (),
            { shortGrantData := s.shortGrantData ++ [⟨tokenID, permission, now, now + onceTime⟩]
              tasks := s.tasks ++ [⟨tokenID, permission, now + onceTime⟩]
              granted := (tokenID, permission) :: s.granted })
    | some data =>
      match extension data onceTime now with
      | none => (.ok (), s)
      | some cancelTimes =>
        -- the entry is written and its task cancelled before the permission is granted again
        let s := { s with
          shortGrantData := modifyFirst (isEntry tokenID permission) ({ · with revokeTimes := now + cancelTimes })
            s.shortGrantData
          tasks := cancelTaskOfPermissionRevoking s.tasks tokenID permission }
        match grant with
        | .error e => (.error e, s)
        | .ok () =>
          (.ok (), { s with
            tasks := s.tasks ++ [⟨tokenID, permission, now + cancelTimes⟩]
            granted := (tokenID, permission) :: s.granted })

/-- `UpdatePermission` to denied succeeded. -/
def revoked (granted : TokenPerms) (tokenID : AccessTokenID) (permission : String) :
    TokenPerms := granted.filter (· ≠ (tokenID, permission))

/-- `ClearShortPermissionData`; `updated` is whether `UpdatePermission` succeeds. -/
def clearShortPermissionData (tokenID : AccessTokenID) (permission : String) (updated : Bool) : ShortGrantManager :=
  match s.shortGrantData.find? (isEntry tokenID permission) with
  | none => s
  | some _ =>
    if updated then
      { s with
        shortGrantData := s.shortGrantData.eraseP (isEntry tokenID permission)
        granted := revoked s.granted tokenID permission }
    else s

/-- The loop of `ClearShortPermissionByTokenID` over the entries; the first call of `UpdatePermission` that fails ends
it. -/
def clearLoop (tokenID : AccessTokenID) (failing : List String) :
    List PermTimerData → List RevokeTask → TokenPerms → ShortGrantManager
  | [], tasks, granted => ⟨[], tasks, granted⟩
  | item :: rest, tasks, granted =>
    if item.tokenID == tokenID then
      if failing.contains item.permissionName then ⟨item :: rest, tasks, granted⟩
      else
        clearLoop tokenID failing rest (cancelTaskOfPermissionRevoking tasks tokenID item.permissionName)
          (revoked granted tokenID item.permissionName)
    else
      let s := clearLoop tokenID failing rest tasks granted
      { s with shortGrantData := item :: s.shortGrantData }

def clearShortPermissionByTokenID (tokenID : AccessTokenID) (failing : List String) : ShortGrantManager :=
  clearLoop tokenID failing s.shortGrantData s.tasks s.granted

/-- The body of the loop of `OnAppMgrRemoteDiedHandle`; a failure is only logged. -/
def diedItem (failing : TokenPerms) (s : ShortGrantManager) (item : PermTimerData) :
    ShortGrantManager :=
  { s with
    tasks := cancelTaskOfPermissionRevoking s.tasks item.tokenID item.permissionName
    granted :=
      if failing.contains (item.tokenID, item.permissionName) then s.granted
      else revoked s.granted item.tokenID item.permissionName }

def onAppMgrRemoteDiedHandle (failing : TokenPerms) : ShortGrantManager :=
  { s.shortGrantData.foldl (diedItem failing) s with shortGrantData := [] }

def fireTask (task : RevokeTask) (updated : Bool) : ShortGrantManager :=
  if task ∈ s.tasks then
    clearShortPermissionData { s with tasks := s.tasks.erase task } task.tokenID task.permissionName updated
  else s

inductive ShortOp where
  | refreshPermission (now : BitVec 32) (tokenID : AccessTokenID) (permission : String)
    (onceTime : BitVec 32) (grant : Ret)
  | fireTask (task : RevokeTask) (updated : Bool)
  | onAppStopped (tokenID : AccessTokenID) (failing : List String)
  | onAppMgrRemoteDiedHandle (failing : TokenPerms)

def shortStep (s : ShortGrantManager) : ShortOp → ShortGrantManager
  | .refreshPermission now t p onceTime grant => (s.refreshPermission now t p onceTime grant).2
  | .fireTask task updated => s.fireTask task updated
  | .onAppStopped t failing => s.clearShortPermissionByTokenID t failing
  | .onAppMgrRemoteDiedHandle failing => s.onAppMgrRemoteDiedHandle failing

def empty : ShortGrantManager := ⟨[], [], []⟩

/-! ## The tasks follow the entries -/

section

variable {s : ShortGrantManager} {t t' : AccessTokenID} {p p' : String} {d : PermTimerData} {k : RevokeTask}
    {tasks : List RevokeTask} {onceTime now : BitVec 32}

def isTask (tokenID : AccessTokenID) (permission : String) (task : RevokeTask) : Bool :=
  task.tokenID == tokenID && task.permissionName == permission

def taskOf (data : PermTimerData) : RevokeTask := ⟨data.tokenID, data.permissionName, data.revokeTimes⟩

theorem isEntry_iff : isEntry t p d = true ↔ d.tokenID = t ∧ d.permissionName = p := by
  simp [isEntry]

theorem isTask_iff : isTask t p k = true ↔ k.tokenID = t ∧ k.permissionName = p := by
  simp [isTask]

theorem isTask_ne (hne : ¬(t = k.tokenID ∧ p = k.permissionName)) : isTask t p k = false := by
  rw [Bool.eq_false_iff, ne_eq, isTask_iff]
  exact fun hkey => hne ⟨hkey.1.symm, hkey.2.symm⟩

/-- **What holds of the manager**: each pair has at most one entry, and the tasks of a pair are those of its entries. -/
structure Expiring (s : ShortGrantManager) : Prop where
  names : ∀ d ∈ s.shortGrantData, d.permissionName ∈ shortGrantPermission
  once : ∀ t p, (s.shortGrantData.filter (isEntry t p)).length ≤ 1
  tasks : ∀ t p, s.tasks.filter (isTask t p) = (s.shortGrantData.filter (isEntry t p)).map taskOf
  capped : ∀ d ∈ s.shortGrantData, d.revokeTimes - d.firstGrantTimes ≤ maxTime
  granted : ∀ t p, (t, p) ∈ s.granted → s.shortGrantData.filter (isEntry t p) ≠ []

theorem Expiring.mem_tasks (h : Expiring s) (hk : k ∈ s.tasks) : ∃ d ∈ s.shortGrantData, k = taskOf d := by
  have hmem : k ∈ s.tasks.filter (isTask k.tokenID k.permissionName) := List.mem_filter.2 ⟨hk, isTask_iff.2 ⟨rfl, rfl⟩⟩
  rw [h.tasks] at hmem
  obtain ⟨d, hd, rfl⟩ := List.mem_map.1 hmem
  exact ⟨d, (List.mem_filter.1 hd).1, rfl⟩

theorem taskName_inj (hp : p ∈ shortGrantPermission) (hp' : p' ∈ shortGrantPermission)
    (h : taskName t p = taskName t' p') : t = t' ∧ p = p' := by
  -- there is one permission, so the names differ in the number alone
  have hone : ∀ q ∈ shortGrantPermission, q = "ohos.permission.SHORT_TERM_WRITE_IMAGEVIDEO" := by
    simp [shortGrantPermission]
  obtain rfl := hone p hp
  obtain rfl := hone p' hp'
  have hnum := List.append_cancel_right (List.append_cancel_left h)
  refine ⟨BitVec.eq_of_toNat_eq ?_, rfl⟩
  exact_mod_cast Lib.toDecimal_injective hnum

theorem filter_cancel (htasks : ∀ k ∈ tasks, k.permissionName ∈ shortGrantPermission)
    (hp : p ∈ shortGrantPermission) (t' : AccessTokenID) (p' : String) :
    (cancelTaskOfPermissionRevoking tasks t p).filter (isTask t' p') =
      if t' = t ∧ p' = p then [] else tasks.filter (isTask t' p') := by
  unfold cancelTaskOfPermissionRevoking
  rw [List.filter_filter]
  split
  · rename_i heq
    obtain ⟨rfl, rfl⟩ := heq
    rw [List.filter_eq_nil_iff]
    intro k _ hk
    rw [Bool.and_eq_true, isTask_iff] at hk
    obtain ⟨⟨rfl, rfl⟩, hne⟩ := hk
    simp at hne
  · rename_i hne
    refine List.filter_congr fun k hk => ?_
    rw [Bool.and_eq_left_iff_imp]
    intro hkey
    rw [isTask_iff] at hkey
    rw [bne_iff_ne]
    intro hname
    obtain ⟨ht, hp⟩ := taskName_inj (htasks k hk) hp hname
    exact hne ⟨hkey.1.symm.trans ht, hkey.2.symm.trans hp⟩

theorem Expiring.taskNames (h : Expiring s) : ∀ k ∈ s.tasks, k.permissionName ∈ shortGrantPermission := fun k hk => by
  obtain ⟨d, hd, rfl⟩ := h.mem_tasks hk
  exact h.names d hd

theorem filter_eq_nil_of_find?_none {d : List PermTimerData} (h : d.find? (isEntry t p) = none) :
    d.filter (isEntry t p) = [] := by
  rw [List.filter_eq_nil_iff]
  exact List.find?_eq_none.1 h

theorem Expiring.filter_of_find? (h : Expiring s)
    (hd : s.shortGrantData.find? (isEntry t p) = some d) : s.shortGrantData.filter (isEntry t p) = [d] := by
  have hone := h.once t p
  rw [← List.head?_filter] at hd
  generalize s.shortGrantData.filter (isEntry t p) = l at hd hone ⊢
  match l, hd, hone with
  | [a], hd, _ => rw [Option.some.inj hd]

theorem isEntry_ne (hne : ¬(t' = t ∧ p' = p)) (hd : isEntry t p d = true) : isEntry t' p' d = false := by
  rw [isEntry_iff] at hd
  rw [Bool.eq_false_iff, ne_eq, isEntry_iff]
  rintro ⟨ht, hp⟩
  exact hne ⟨ht.symm.trans hd.1, hp.symm.trans hd.2⟩

/-! ## The steps -/

/-- What a change of one pair makes: its entries and tasks become `l`, the rest stays. -/
theorem Expiring.of_pair (h : Expiring s) {s' : ShortGrantManager} {l : List PermTimerData}
    (hother : ∀ t' p', ¬(t' = t ∧ p' = p) →
      s'.shortGrantData.filter (isEntry t' p') = s.shortGrantData.filter (isEntry t' p') ∧
        s'.tasks.filter (isTask t' p') = s.tasks.filter (isTask t' p') ∧ ((t', p') ∈ s'.granted → (t', p') ∈ s.granted))
    (hentry : s'.shortGrantData.filter (isEntry t p) = l) (htask : s'.tasks.filter (isTask t p) = l.map taskOf)
    (hone : l.length ≤ 1) (hgranted : (t, p) ∈ s'.granted → l ≠ []) (hp : l ≠ [] → p ∈ shortGrantPermission)
    (hcap : ∀ d ∈ l, d.revokeTimes - d.firstGrantTimes ≤ maxTime) : Expiring s' := by
  have hmem : ∀ d ∈ s'.shortGrantData, d ∈ s.shortGrantData ∨ d ∈ l ∧ d.permissionName = p := fun d hd => by
    have hd' : d ∈ s'.shortGrantData.filter (isEntry d.tokenID d.permissionName) :=
      List.mem_filter.2 ⟨hd, isEntry_iff.2 ⟨rfl, rfl⟩⟩
    by_cases hkey : d.tokenID = t ∧ d.permissionName = p
    · rw [hkey.1, hkey.2, hentry] at hd'
      exact .inr ⟨hd', hkey.2⟩
    · rw [(hother _ _ hkey).1] at hd'
      exact .inl (List.mem_filter.1 hd').1
  refine ⟨fun d hd => ?_, fun t' p' => ?_, fun t' p' => ?_, fun d hd => ?_, fun t' p' hg => ?_⟩
  · obtain hd | ⟨hd, hname⟩ := hmem d hd
    · exact h.names d hd
    · rw [hname]
      exact hp (List.ne_nil_of_mem hd)
  · by_cases hkey : t' = t ∧ p' = p
    · rw [hkey.1, hkey.2, hentry]
      exact hone
    · rw [(hother t' p' hkey).1]
      exact h.once t' p'
  · by_cases hkey : t' = t ∧ p' = p
    · rw [hkey.1, hkey.2, hentry, htask]
    · rw [(hother t' p' hkey).1, (hother t' p' hkey).2.1]
      exact h.tasks t' p'
  · obtain hd | ⟨hd, -⟩ := hmem d hd
    · exact h.capped d hd
    · exact hcap d hd
  · by_cases hkey : t' = t ∧ p' = p
    · obtain ⟨rfl, rfl⟩ := hkey
      rw [hentry]
      exact hgranted hg
    · rw [(hother t' p' hkey).1]
      exact h.granted t' p' ((hother t' p' hkey).2.2 hg)

theorem extension_capped {cancelTimes : BitVec 32}
    (h : extension d onceTime now = some cancelTimes) : now + cancelTimes - d.firstGrantTimes ≤ maxTime := by
  have hle : cancelTimes ≤ maxTime - (now - d.firstGrantTimes) ∧ now - d.firstGrantTimes < maxTime := by
    unfold extension at h
    generalize maxTime = m at h ⊢
    dsimp only at h
    by_cases hmax : m > now - d.firstGrantTimes
    · rw [if_pos hmax] at h
      refine ⟨?_, hmax⟩
      by_cases honce : m - (now - d.firstGrantTimes) > onceTime
      · rw [if_pos honce, Option.ite_none_right_eq_some] at h
        rw [← Option.some.inj h.2]
        exact BitVec.le_of_lt honce
      · rw [if_neg honce, Option.ite_none_right_eq_some] at h
        rw [← Option.some.inj h.2]
        exact BitVec.le_refl _
    · simp [if_neg hmax] at h
  have hsum : now + cancelTimes - d.firstGrantTimes = (now - d.firstGrantTimes) + cancelTimes := by
    rw [BitVec.sub_eq_add_neg, BitVec.sub_eq_add_neg, BitVec.add_assoc, BitVec.add_assoc, BitVec.add_comm cancelTimes]
  generalize now - d.firstGrantTimes = e at *
  bv_omega

theorem shortGrant_checked (h : ¬(onceTime > maxTime)) : now + onceTime - now ≤ maxTime := by
  have hsum : now + onceTime - now = onceTime := by
    rw [BitVec.add_comm, BitVec.add_sub_cancel]
  rw [hsum]
  exact BitVec.not_lt.1 h

theorem Expiring.refreshPermission (h : Expiring s) {grant : Ret}
    (hgrant : ∀ d ∈ s.shortGrantData.find? (isEntry t p), (extension d onceTime now).isSome = true → grant = .ok ()) :
    Expiring (s.refreshPermission now t p onceTime grant).2 := by
  unfold ShortGrantManager.refreshPermission
  split
  · exact h
  rename_i hargs
  have hmax : ¬(onceTime > maxTime) := fun hlt => hargs (by simp [hlt])
  cases hfind : s.shortGrantData.find? (isEntry t p) with
  | none =>
    have hnone := filter_eq_nil_of_find?_none hfind
    dsimp only
    split
    · exact h
    rename_i hp
    have hp : p ∈ shortGrantPermission := by simpa using hp
    cases grant with
    | error => exact h
    | ok =>
      refine h.of_pair (t := t) (l := [⟨t, p, now, now + onceTime⟩]) (fun t' p' hne => ⟨?_, ?_, ?_⟩) ?_ ?_ (by simp)
        (by simp) (fun _ => hp) ?_
      · rw [List.filter_append, List.filter_singleton, isEntry_ne hne (by simp [isEntry])]
        simp
      · rw [List.filter_append, List.filter_singleton, isTask_ne hne]
        simp
      · rw [List.mem_cons]
        rintro (heq | hg)
        · exact absurd (Prod.mk.inj heq) hne
        · exact hg
      · rw [List.filter_append, hnone]
        simp [isEntry]
      · rw [List.filter_append, h.tasks, hnone]
        simp [isTask, taskOf]
      · intro d hd
        obtain rfl := List.mem_singleton.1 hd
        exact shortGrant_checked hmax
  | some d =>
    have hone := h.filter_of_find? hfind
    have hkey := isEntry_iff.1 (List.find?_some hfind)
    have hp : p ∈ shortGrantPermission := hkey.2 ▸ h.names d (List.mem_of_find?_eq_some hfind)
    dsimp only
    cases hext : extension d onceTime now with
    | none => exact h
    | some cancelTimes =>
      have hok : grant = .ok () := hgrant d hfind (by rw [hext]; rfl)
      subst hok
      refine h.of_pair (t := t) (l := [{ d with revokeTimes := now + cancelTimes }])
        (fun t' p' hne => ⟨?_, ?_, ?_⟩) ?_ ?_ (by simp) (by simp) (fun _ => hp) ?_
      · exact Lib.filter_modifyFirst_of_ne (f := fun x : PermTimerData => { x with revokeTimes := now + cancelTimes })
          (fun a ha => ⟨isEntry_ne hne ha, isEntry_ne (d := a) hne ha⟩) _
      · rw [List.filter_append, List.filter_singleton, isTask_ne hne, filter_cancel h.taskNames hp, if_neg hne]
        simp
      · rw [List.mem_cons]
        rintro (heq | hg)
        · exact absurd (Prod.mk.inj heq) hne
        · exact hg
      · rw [Lib.filter_modifyFirst (p := isEntry t p) (f := fun x : PermTimerData =>
          { x with revokeTimes := now + cancelTimes }) (fun a ha => ha), hone]
        rfl
      · rw [List.filter_append, filter_cancel h.taskNames hp, if_pos ⟨rfl, rfl⟩]
        simp [isTask, taskOf, hkey]
      · intro d' hd'
        have hcap := extension_capped hext
        rw [List.mem_singleton.1 hd']
        exact hcap

theorem mem_revoked {granted : TokenPerms} {k : AccessTokenID × String} :
    k ∈ revoked granted t p ↔ k ∈ granted ∧ k ≠ (t, p) := by
  simp [revoked]

theorem Expiring.fireTask (h : Expiring s) {task : RevokeTask} {updated : Bool}
    (hok : task ∈ s.tasks → updated = true) : Expiring (s.fireTask task updated) := by
  unfold ShortGrantManager.fireTask
  split
  case isFalse => exact h
  rename_i hmem
  rw [hok hmem]
  obtain ⟨d, hd, rfl⟩ := h.mem_tasks hmem
  have hfind : ∃ d', s.shortGrantData.find? (isEntry d.tokenID d.permissionName) = some d' :=
    Option.isSome_iff_exists.1 (List.find?_isSome.2 ⟨d, hd, isEntry_iff.2 ⟨rfl, rfl⟩⟩)
  obtain ⟨d', hfind⟩ := hfind
  have hone := h.filter_of_find? hfind
  unfold clearShortPermissionData
  dsimp only [taskOf]
  rw [hfind]
  simp only [if_true]
  refine h.of_pair (t := d.tokenID) (p := d.permissionName) (l := []) (fun t' p' hne => ⟨?_, ?_, ?_⟩) ?_ ?_ (by simp) ?_
    (by simp) (by simp)
  · exact Lib.filter_eraseP_of_ne (fun a ha => isEntry_ne hne ha) _
  · rw [List.erase_eq_eraseP]
    refine Lib.filter_eraseP_of_ne (fun a ha => ?_) _
    rw [← beq_iff_eq.1 ha]
    exact isTask_ne hne
  · exact fun hg => (mem_revoked.1 hg).1
  · rw [Lib.filter_eraseP, hone]
    rfl
  · -- the one task of the pair has fired
    have hsame : d' = d := by
      have hmem' : d ∈ s.shortGrantData.filter (isEntry d.tokenID d.permissionName) :=
        List.mem_filter.2 ⟨hd, isEntry_iff.2 ⟨rfl, rfl⟩⟩
      rw [hone] at hmem'
      exact (List.mem_singleton.1 hmem').symm
    have htasks := h.tasks d.tokenID d.permissionName
    rw [hone, hsame] at htasks
    have herase : (s.tasks.erase (taskOf d)).filter (isTask d.tokenID d.permissionName) =
        (s.tasks.filter (isTask d.tokenID d.permissionName)).erase (taskOf d) :=
      List.erase_filter.symm
    rw [show (⟨d.tokenID, d.permissionName, d.revokeTimes⟩ : RevokeTask) = taskOf d from rfl, herase, htasks]
    simp
  · exact fun hg => absurd rfl (mem_revoked.1 hg).2

theorem mem_cancel (h : k ∈ cancelTaskOfPermissionRevoking tasks t p) : k ∈ tasks := (List.mem_filter.1 h).1

/-- What the loop makes of a pair: nothing, or it is cleared with its tasks and grant. -/
theorem clearLoop_spec (t : AccessTokenID) (failing : List String) :
    ∀ (ds : List PermTimerData) (tasks : List RevokeTask) (granted : TokenPerms),
      (∀ d ∈ ds, d.permissionName ∈ shortGrantPermission) → (∀ k ∈ tasks, k.permissionName ∈ shortGrantPermission) →
      (∀ t' p', (ds.filter (isEntry t' p')).length ≤ 1) →
      (clearLoop t failing ds tasks granted).shortGrantData.Sublist ds ∧ ∀ t' p',
          ((clearLoop t failing ds tasks granted).shortGrantData.filter (isEntry t' p') = ds.filter (isEntry t' p') ∧
            (clearLoop t failing ds tasks granted).tasks.filter (isTask t' p') = tasks.filter (isTask t' p') ∧
            ((t', p') ∈ (clearLoop t failing ds tasks granted).granted → (t', p') ∈ granted)) ∨
          (t' = t ∧ (clearLoop t failing ds tasks granted).shortGrantData.filter (isEntry t' p') = [] ∧
            (clearLoop t failing ds tasks granted).tasks.filter (isTask t' p') = [] ∧
            (t', p') ∉ (clearLoop t failing ds tasks granted).granted)
  | [], tasks, granted, _, _, _ => ⟨List.Sublist.refl _, fun _ _ => .inl ⟨rfl, rfl, id⟩⟩
  | item :: rest, tasks, granted, hnames, htasks, honce => by
    have hrest : ∀ t' p', (rest.filter (isEntry t' p')).length ≤ 1 := fun t' p' =>
      ((List.sublist_cons_self item rest).filter _).length_le.trans (honce t' p')
    have hnames' := fun d (hd : d ∈ rest) => hnames d (List.mem_cons_of_mem _ hd)
    rw [clearLoop]
    by_cases hitem : item.tokenID = t
    · rw [if_pos (by simpa using hitem)]
      split
      · exact ⟨List.Sublist.refl _, fun _ _ => .inl ⟨rfl, rfl, id⟩⟩
      have hp := hnames item List.mem_cons_self
      obtain ⟨hsub, hpairs⟩ := clearLoop_spec t failing rest
        (cancelTaskOfPermissionRevoking tasks t item.permissionName) (revoked granted t item.permissionName) hnames'
        (fun k hk => htasks k (mem_cancel hk)) hrest
      refine ⟨hsub.trans (List.sublist_cons_self item rest), fun t' p' => ?_⟩
      by_cases hkey : t' = t ∧ p' = item.permissionName
      · -- the cleared pair has no other entry
        obtain ⟨rfl, rfl⟩ := hkey
        have hself : isEntry t' item.permissionName item = true := isEntry_iff.2 ⟨hitem, rfl⟩
        have hnone : rest.filter (isEntry t' item.permissionName) = [] := by
          have hlen := honce t' item.permissionName
          rw [List.filter_cons_of_pos hself, List.length_cons] at hlen
          exact List.eq_nil_of_length_eq_zero (by omega)
        right
        obtain ⟨hdata, htask, hgranted⟩ | hcleared := hpairs t' item.permissionName
        · refine ⟨rfl, hdata.trans hnone, ?_, fun hg => (mem_revoked.1 (hgranted hg)).2 rfl⟩
          rw [htask, filter_cancel htasks hp, if_pos ⟨rfl, rfl⟩]
        · exact hcleared
      · have hnot : isEntry t' p' item = false := isEntry_ne hkey (isEntry_iff.2 ⟨hitem, rfl⟩)
        refine (hpairs t' p').imp (fun ⟨hdata, htask, hgranted⟩ => ⟨?_, ?_, fun hg => ?_⟩) id
        · rw [hdata, List.filter_cons_of_neg (by simp [hnot])]
        · rw [htask, filter_cancel htasks hp, if_neg hkey]
        · exact (mem_revoked.1 (hgranted hg)).1
    · rw [if_neg (by simpa using hitem)]
      obtain ⟨hsub, hpairs⟩ := clearLoop_spec t failing rest tasks granted hnames' htasks hrest
      refine ⟨hsub.cons_cons item, fun t' p' => ?_⟩
      obtain ⟨hdata, hkept⟩ | ⟨rfl, hdata, hcleared⟩ := hpairs t' p'
      · refine .inl ⟨?_, hkept⟩
        rw [List.filter_cons, List.filter_cons, hdata]
      have hnot : isEntry t' p' item = false := by
        rw [Bool.eq_false_iff, ne_eq, isEntry_iff]
        exact fun h => hitem h.1
      refine .inr ⟨rfl, ?_, hcleared⟩
      rw [List.filter_cons_of_neg (by simp [hnot]), hdata]

theorem Expiring.clearShortPermissionByTokenID (h : Expiring s) {failing : List String} :
    Expiring (s.clearShortPermissionByTokenID t failing) := by
  obtain ⟨hsub, hpairs⟩ := clearLoop_spec t failing s.shortGrantData s.tasks s.granted h.names h.taskNames h.once
  unfold ShortGrantManager.clearShortPermissionByTokenID
  refine ⟨fun d hd => h.names d (hsub.subset hd), fun t' p' => ?_, fun t' p' => ?_, fun d hd =>
    h.capped d (hsub.subset hd), fun t' p' hg => ?_⟩
  · exact (hsub.filter _).length_le.trans (h.once t' p')
  · obtain ⟨hdata, htask, -⟩ | ⟨-, hdata, htask, -⟩ := hpairs t' p'
    · rw [hdata, htask, h.tasks]
    · rw [hdata, htask]
      rfl
  · obtain ⟨hdata, -, hgranted⟩ | ⟨-, -, -, hnot⟩ := hpairs t' p'
    · rw [hdata]
      exact h.granted t' p' (hgranted hg)
    · exact absurd hg hnot

/-- The loop over the entries when the app manager has died, if every revocation succeeds. -/
theorem diedLoop_spec (failing : TokenPerms) :
    ∀ (ds : List PermTimerData) (s : ShortGrantManager), (∀ d ∈ ds, d.permissionName ∈ shortGrantPermission) →
      (∀ k ∈ s.tasks, k.permissionName ∈ shortGrantPermission) →
      (∀ d ∈ ds, (d.tokenID, d.permissionName) ∉ failing) → ∀ t' p',
      (ds.foldl (diedItem failing) s).tasks.filter (isTask t' p') =
          (if ds.filter (isEntry t' p') = [] then s.tasks.filter (isTask t' p') else []) ∧
        ((t', p') ∈ (ds.foldl (diedItem failing) s).granted → (t', p') ∈ s.granted ∧ ds.filter (isEntry t' p') = [])
  | [], s, _, _, _, t', p' => ⟨by simp, fun hg => ⟨hg, rfl⟩⟩
  | d :: ds, s, hnames, htasks, hok, t', p' => by
    have hp := hnames d List.mem_cons_self
    obtain ⟨htask, hgranted⟩ := diedLoop_spec failing ds (diedItem failing s d)
      (fun d' hd' => hnames d' (List.mem_cons_of_mem _ hd')) (fun k hk => htasks k (mem_cancel hk))
      (fun d' hd' => hok d' (List.mem_cons_of_mem _ hd')) t' p'
    have hitem : (diedItem failing s d).granted = revoked s.granted d.tokenID d.permissionName := by
      simp [diedItem, hok d List.mem_cons_self]
    have hcancel : (diedItem failing s d).tasks.filter (isTask t' p') =
        if t' = d.tokenID ∧ p' = d.permissionName then [] else s.tasks.filter (isTask t' p') :=
      filter_cancel htasks hp t' p'
    rw [List.foldl_cons]
    by_cases hkey : t' = d.tokenID ∧ p' = d.permissionName
    · obtain ⟨rfl, rfl⟩ := hkey
      have hself : isEntry d.tokenID d.permissionName d = true := isEntry_iff.2 ⟨rfl, rfl⟩
      refine ⟨?_, fun hg => ?_⟩
      · rw [htask, hcancel, List.filter_cons_of_pos hself]
        simp
      · have hmem := (hgranted hg).1
        rw [hitem] at hmem
        exact absurd rfl (mem_revoked.1 hmem).2
    · have hne : isEntry t' p' d = false := isEntry_ne hkey (isEntry_iff.2 ⟨rfl, rfl⟩)
      refine ⟨?_, fun hg => ?_⟩
      · rw [htask, hcancel, if_neg hkey, List.filter_cons_of_neg (by simp [hne])]
      · obtain ⟨hmem, hnil⟩ := hgranted hg
        rw [hitem] at hmem
        rw [List.filter_cons_of_neg (by simp [hne])]
        exact ⟨(mem_revoked.1 hmem).1, hnil⟩

theorem Expiring.onAppMgrRemoteDiedHandle (h : Expiring s) {failing : TokenPerms}
    (hok : ∀ d ∈ s.shortGrantData, (d.tokenID, d.permissionName) ∉ failing) :
    Expiring (s.onAppMgrRemoteDiedHandle failing) := by
  have hloop := diedLoop_spec failing s.shortGrantData s h.names h.taskNames hok
  unfold ShortGrantManager.onAppMgrRemoteDiedHandle
  refine ⟨by simp, by simp, fun t' p' => ?_, by simp, fun t' p' hg => ?_⟩
  · obtain ⟨htask, -⟩ := hloop t' p'
    rw [htask]
    split
    · rename_i hnil
      rw [h.tasks, hnil]
      rfl
    · rfl
  · obtain ⟨hmem, hnil⟩ := (hloop t' p').2 hg
    exact absurd hnil (h.granted t' p' hmem)

end

/-! ## Runs -/

/-- No call of the permission manager fails that the manager relies on: a refresh that extends a grant is granted, and
what a fired task or the death of the app manager revokes is revoked. -/
def CallsSucceed (s : ShortGrantManager) : ShortOp → Prop
  | .refreshPermission now t p onceTime grant =>
    ∀ d ∈ s.shortGrantData.find? (isEntry t p), (extension d onceTime now).isSome = true → grant = .ok ()
  | .fireTask task updated => task ∈ s.tasks → updated = true
  | .onAppStopped .. => True
  | .onAppMgrRemoteDiedHandle failing => ∀ d ∈ s.shortGrantData, (d.tokenID, d.permissionName) ∉ failing

instance decidableCallsSucceed (s : ShortGrantManager) : ∀ op, Decidable (CallsSucceed s op) := fun op => by
  cases op with
  | onAppMgrRemoteDiedHandle => exact List.decidableBAll _ _
  | _ => unfold CallsSucceed; infer_instance

/-- **Short grants expire**: in every run in which these calls succeed, each entry has one pending task, due when the
entry says, at most `maxTime` after the first grant, and whatever is granted has an entry. -/
theorem short_grants_expire {s : ShortGrantManager} (hrun : Reaches shortStep CallsSucceed empty s) :
    (∀ d ∈ s.shortGrantData, s.tasks.filter (isTask d.tokenID d.permissionName) = [taskOf d]) ∧
      (∀ d ∈ s.shortGrantData, d.revokeTimes - d.firstGrantTimes ≤ maxTime) ∧
      ∀ t p, (t, p) ∈ s.granted → ∃ d ∈ s.shortGrantData, d.tokenID = t ∧ d.permissionName = p := by
  have hempty : Expiring empty := ⟨by simp [empty], by simp [empty], by simp [empty], by simp [empty], by simp [empty]⟩
  have hstep : ∀ s op, Expiring s → CallsSucceed s op → Expiring (shortStep s op) := by
    intro s op h hop
    cases op with
    | refreshPermission => exact h.refreshPermission hop
    | fireTask => exact h.fireTask hop
    | onAppStopped => exact h.clearShortPermissionByTokenID
    | onAppMgrRemoteDiedHandle => exact h.onAppMgrRemoteDiedHandle hop
  have h := hrun.invariant hstep hempty
  refine ⟨fun d hd => ?_, h.capped, fun t p hg => ?_⟩
  · have hmem : d ∈ s.shortGrantData.filter (isEntry d.tokenID d.permissionName) :=
      List.mem_filter.2 ⟨hd, isEntry_iff.2 ⟨rfl, rfl⟩⟩
    rw [h.tasks]
    obtain ⟨d', hd'⟩ := List.length_eq_one_iff.1
      (Nat.le_antisymm (h.once d.tokenID d.permissionName) (List.length_pos_of_mem hmem))
    rw [hd'] at hmem ⊢
    rw [← List.mem_singleton.1 hmem]
    rfl
  · obtain ⟨d, hd⟩ := List.exists_mem_of_ne_nil _ (h.granted t p hg)
    exact ⟨d, (List.mem_filter.1 hd).1, isEntry_iff.1 (List.mem_filter.1 hd).2⟩

/-- A grant of a minute at second 100, and a refresh at second 110 with the given result. -/
def refreshed (grant : Ret) : List ShortOp :=
  [.refreshPermission 100 1 "ohos.permission.SHORT_TERM_WRITE_IMAGEVIDEO" 60 (.ok ()),
    .refreshPermission 110 1 "ohos.permission.SHORT_TERM_WRITE_IMAGEVIDEO" 300 grant]

/-- **A refresh whose grant fails leaves an entry that never expires**: its task is cancelled before. -/
theorem failed_refresh_never_expires :
    ((refreshed (.error .errServiceAbnormal)).foldl shortStep empty).shortGrantData =
        [⟨1, "ohos.permission.SHORT_TERM_WRITE_IMAGEVIDEO", 100, 410⟩] ∧
      ((refreshed (.error .errServiceAbnormal)).foldl shortStep empty).tasks = [] := by
  decide +kernel

theorem short_grant_expires_after_refresh :
    ((refreshed (.ok ())).foldl shortStep empty).tasks.filter
      (isTask 1 "ohos.permission.SHORT_TERM_WRITE_IMAGEVIDEO") =
        [taskOf ⟨1, "ohos.permission.SHORT_TERM_WRITE_IMAGEVIDEO", 100, 410⟩] :=
  (short_grants_expire (Lib.reaches_foldl (refreshed (.ok ())) empty (by decide +kernel))).1
    ⟨1, "ohos.permission.SHORT_TERM_WRITE_IMAGEVIDEO", 100, 410⟩ (by decide +kernel)

end ShortGrantManager
end AccessToken
