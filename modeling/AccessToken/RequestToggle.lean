import AccessToken.PermissionMap
import AccessToken.Lib.Interleave
import AccessToken.Lib.ExceptLoop
/-!
# PermissionRequestToggleManager — one storage mode for each user and permission

`permission_request_toggle_manager.cpp`.  The toggle of a permission is stored for a user as a whole (the legacy mode)
or for each sub-profile, and a call in one mode is refused while there are rows of the other.  The check and the write
are two calls of the database, with no lock around them.
-/
namespace AccessToken

open Lib (Reaches Calls callStep)

namespace PermissionRequestToggleManager

def legacySubprofileId : Int32 := -1

/-- `PermissionRequestToggleStatus`. -/
def closed : BitVec 32 := 0

def opened : BitVec 32 := 1

def isToggleStatusValid (status : BitVec 32) : Bool := status == closed || status == opened

def getDefaultToggleStatus (permissionName : String) : BitVec 32 :=
  if permissionName == "ohos.permission.APP_TRACKING_CONSENT" then closed else opened

/-- A row of `permission_request_toggle_status_table`. -/
structure ToggleRow where
  userID : Int32
  permissionName : String
  subProfileId : Int32
  status : BitVec 32
deriving DecidableEq

/-- The answer of `GetOsAccountLocalIdForSubProfile`. -/
inductive LocalIdAnswer where
  | subprofileNotFound
  | failed
  | localId (userID : Int32)

/-- A call of `SetPermissionRequestToggleStatus`, with what the account manager and the database answer it. -/
structure SetCall where
  permissionName : String
  status : BitVec 32
  userID : Int32
  subProfileId : Int32
  localId : LocalIdAnswer
  findOk : Bool
  writeOk : Bool

namespace SetCall

variable (c : SetCall)

def storedSubProfileId : Int32 := if c.subProfileId < 0 then legacySubprofileId else c.subProfileId

/-- The rows `FindPermRequestToggleStatusRecordsFromDb` and the conditions of the writes are about. -/
def concerns (row : ToggleRow) : Bool := row.userID == c.userID && row.permissionName == c.permissionName

def validatePermissionForToggle (T : PermissionTable) : Ret :=
  if !isUserIdValid c.userID || !isPermissionNameValid c.permissionName then .error .errParamInvalid
  else if !T.isDefinedPermissionInner c.permissionName then .error .errPermissionNotExist
  else if !T.isUserGrantPermission c.permissionName then .error .errParamInvalid
  else .ok ()

def validateSubProfileIdForToggle : Ret :=
  if c.storedSubProfileId < 0 then .ok ()
  else
    match c.localId with
    | .subprofileNotFound => .error .errPermissionRequestToggleSubprofileNotExist
    | .failed => .error .errServiceAbnormal
    | .localId userID =>
      if userID == c.userID then .ok () else .error .errPermissionRequestToggleSubprofileNotExist

/-- The test of a row in `ValidateStorageModeConflict`. -/
def isOtherMode (row : ToggleRow) : Bool :=
  if 0 ≤ c.storedSubProfileId then row.subProfileId == legacySubprofileId else decide (0 ≤ row.subProfileId)

/-- `ValidateStorageModeConflict`, which reads the rows of every mode. -/
def validateStorageModeConflict (table : List ToggleRow) : Ret :=
  if !c.findOk then .error .errDatabaseOperateFailed
  else if (table.filter c.concerns).any c.isOtherMode then .error .errPermissionRequestToggleStorageModeConflict
  else .ok ()

def validate (T : PermissionTable) (table : List ToggleRow) : Ret := do
  c.validatePermissionForToggle T
  if !isToggleStatusValid c.status then throw .errParamInvalid
  c.validateSubProfileIdForToggle
  c.validateStorageModeConflict table

/-- A status that is not the default is stored; the default has no row. -/
def adds : Bool := c.status != getDefaultToggleStatus c.permissionName

/-- `AddPermRequestToggleStatusToDb` and `DeletePermRequestToggleStatusFromDb`: the row of the sub-profile is
replaced. -/
def write (table : List ToggleRow) : List ToggleRow :=
  table.filter (fun row => !(c.concerns row && row.subProfileId == c.storedSubProfileId)) ++
    if c.adds then [⟨c.userID, c.permissionName, c.storedSubProfileId, c.status⟩] else []

end SetCall

inductive TogglePc where
  | check
  | write
  | done (ret : Ret)
deriving DecidableEq

/-- **One step of `SetPermissionRequestToggleStatus`.** -/
def setPermissionRequestToggleStatus (T : PermissionTable) (c : SetCall) (table : List ToggleRow) :
    TogglePc → TogglePc × List ToggleRow
  | .check =>
    match c.validate T table with
    | .error e => (.done (.error e), table)
    | .ok () => (.write, table)
  | .write => if c.writeOk then (.done (.ok ()), c.write table) else (.done (.error .errDatabaseOperateFailed), table)
  | .done ret => (.done ret, table)

/-- A user and a permission with a row for the user as a whole and a row of a sub-profile. -/
def Mixed (table : List ToggleRow) : Prop :=
  ∃ row ∈ table, ∃ row' ∈ table, row.userID = row'.userID ∧ row.permissionName = row'.permissionName ∧
    row.subProfileId = legacySubprofileId ∧ 0 ≤ row'.subProfileId

instance (table : List ToggleRow) : Decidable (Mixed table) := List.decidableBEx _ _

/-! ## Calls for one user and permission in both modes -/

/-- Two calls that would store rows of both modes for one user and permission. -/
def Opposed (c c' : SetCall) : Prop :=
  c.adds = true ∧ c'.adds = true ∧ c.userID = c'.userID ∧ c.permissionName = c'.permissionName ∧
    (c.storedSubProfileId < 0 ↔ ¬c'.storedSubProfileId < 0)
deriving Decidable

theorem Opposed.symm {c c' : SetCall} (h : Opposed c c') : Opposed c' c := by
  obtain ⟨hc, hc', huser, hname, hmode⟩ := h
  exact ⟨hc', hc, huser.symm, hname.symm, by tauto⟩

def Conflicts (c : SetCall) (row : ToggleRow) : Prop :=
  row.userID = c.userID ∧ row.permissionName = c.permissionName ∧
    if c.storedSubProfileId < 0 then 0 ≤ row.subProfileId else row.subProfileId = legacySubprofileId

variable {table : List ToggleRow} {c : SetCall}

/-- **A call passes its check only if no row conflicts with it.** -/
theorem not_conflicts_of_validate {T : PermissionTable}
    (h : c.validate T table = .ok ()) : ∀ row ∈ table, ¬Conflicts c row := by
  intro row hrow ⟨huser, hname, hmode⟩
  have hcheck : c.validateStorageModeConflict table = .ok () := by
    obtain ⟨-, -, h⟩ := Lib.bind_eq_ok.1 h
    split at h
    · cases h
    obtain ⟨-, -, h⟩ := Lib.bind_eq_ok.1 h
    exact h
  have hconcerns : c.concerns row = true := by simp [SetCall.concerns, huser, hname]
  unfold SetCall.validateStorageModeConflict at hcheck
  split at hcheck
  · cases hcheck
  split at hcheck
  · cases hcheck
  rename_i hany
  refine hany (List.any_eq_true.2 ⟨row, List.mem_filter.2 ⟨hrow, hconcerns⟩, ?_⟩)
  unfold SetCall.isOtherMode
  by_cases hlegacy : c.storedSubProfileId < 0
  · rw [if_pos hlegacy] at hmode
    rw [if_neg (Int32.not_le.2 hlegacy)]
    exact decide_eq_true hmode
  · rw [if_neg hlegacy] at hmode
    rw [if_pos (Int32.not_lt.1 hlegacy)]
    exact beq_iff_eq.2 hmode

theorem mem_write {row : ToggleRow} (h : row ∈ c.write table) : row ∈ table ∨
      (c.adds = true ∧ row.userID = c.userID ∧ row.permissionName = c.permissionName ∧
        row.subProfileId = c.storedSubProfileId) := by
  obtain hold | hnew := List.mem_append.1 h
  · exact .inl (List.mem_filter.1 hold).1
  split at hnew
  · rename_i hadds
    rw [List.mem_singleton.1 hnew]
    exact .inr ⟨hadds, rfl, rfl, rfl⟩
  · cases hnew

theorem not_mixed_write (h : ¬Mixed table)
    (hfree : c.adds = true → ∀ row ∈ table, ¬Conflicts c row) : ¬Mixed (c.write table) := by
  rintro ⟨row, hrow, row', hrow', huser, hname, hlegacy, hsub⟩
  have hneg : ¬(0 : Int32) ≤ legacySubprofileId := by decide
  obtain hold | ⟨hadds, hu, hp, hs⟩ := mem_write hrow
  · obtain hold' | ⟨hadds, hu, hp, hs⟩ := mem_write hrow'
    · exact h ⟨row, hold, row', hold', huser, hname, hlegacy, hsub⟩
    · refine hfree hadds row hold ⟨huser.trans hu, hname.trans hp, ?_⟩
      rw [if_neg (Int32.not_lt.2 (hs ▸ hsub))]
      exact hlegacy
  · obtain hold' | ⟨-, -, -, hs'⟩ := mem_write hrow'
    · refine hfree hadds row' hold' ⟨huser.symm.trans hu, hname.symm.trans hp, ?_⟩
      rw [if_pos (by rw [← hs, hlegacy]; decide)]
      exact hsub
    · rw [hs', ← hs, hlegacy] at hsub
      exact hneg hsub

/-- The write of a call does not conflict with another call unless the two are opposed. -/
theorem not_conflicts_write {c' : SetCall} (hadds : c'.adds = true)
    (hnot : ¬Opposed c c') (hfree : ∀ row ∈ table, ¬Conflicts c' row) : ∀ row ∈ c.write table, ¬Conflicts c' row := by
  intro row hrow hconf
  obtain hold | ⟨hc, hu, hp, hs⟩ := mem_write hrow
  · exact hfree row hold hconf
  obtain ⟨huser, hname, hmode⟩ := hconf
  refine hnot ⟨hc, hadds, hu.symm.trans huser, hp.symm.trans hname, ?_⟩
  rw [hs] at hmode
  by_cases hlegacy : c'.storedSubProfileId < 0
  · rw [if_pos hlegacy] at hmode
    exact iff_of_false (Int32.not_lt.2 hmode) (not_not.2 hlegacy)
  · rw [if_neg hlegacy] at hmode
    exact iff_of_true (by rw [hmode]; decide) hlegacy

/-! ## Interleavings -/

section
variable {ι : Type} [DecidableEq ι] {T : PermissionTable} {calls : ι → SetCall}

/-- A call checks while no call opposed to it is between its check and its write. -/
def ChecksAlone (calls : ι → SetCall) (s : Calls ι (List ToggleRow) TogglePc) (i : ι) : Prop :=
  s.pc i = .check → ∀ j, s.pc j = .write → ¬Opposed (calls i) (calls j)

/-- A call that is about to store a row conflicts with none, and two such calls are not opposed. -/
abbrev ModesKept (calls : ι → SetCall) : Calls ι (List ToggleRow) TogglePc → Prop :=
  Calls.Holds (fun table => ¬Mixed table)
    (fun i pc table => pc = .write → (calls i).adds = true → ∀ row ∈ table, ¬Conflicts (calls i) row)
    (fun i j pc pc' => pc = .write → pc' = .write → ¬Opposed (calls i) (calls j))

theorem set_cases (T : PermissionTable) (c : SetCall) (table : List ToggleRow) (pc : TogglePc) :
    (∃ ret, setPermissionRequestToggleStatus T c table pc = (.done ret, table)) ∨
      (pc = .check ∧ c.validate T table = .ok () ∧ setPermissionRequestToggleStatus T c table pc = (.write, table)) ∨
      (pc = .write ∧ setPermissionRequestToggleStatus T c table pc = (.done (.ok ()), c.write table)) := by
  cases pc with
  | check =>
    unfold setPermissionRequestToggleStatus
    cases hvalid : c.validate T table with
    | error => exact .inl ⟨_, rfl⟩
    | ok => exact .inr (.inl ⟨rfl, rfl, rfl⟩)
  | write =>
    by_cases hok : c.writeOk = true
    · exact .inr (.inr ⟨rfl, if_pos hok⟩)
    · exact .inl ⟨_, if_neg hok⟩
  | done ret => exact .inl ⟨ret, rfl⟩

theorem ModesKept.step {s : Calls ι (List ToggleRow) TogglePc} {i : ι} (h : ModesKept calls s)
    (halone : ChecksAlone calls s i) :
    ModesKept calls (callStep (fun i => setPermissionRequestToggleStatus T (calls i)) s i) := by
  obtain ⟨ret, heq⟩ | ⟨hpc, hvalid, heq⟩ | ⟨hpc, heq⟩ := set_cases T (calls i) s.shared (s.pc i)
  · -- the call returns without a write
    refine Calls.Holds.step h ?_ ?_ ?_ ?_ <;> rw [heq]
    · exact h.shared
    · exact fun hw => by cases hw
    · exact fun j _ => h.place j
    · exact fun j _ => ⟨fun hw => (by cases hw), fun _ hw => (by cases hw)⟩
  · refine Calls.Holds.step h ?_ ?_ ?_ ?_ <;> rw [heq]
    · exact h.shared
    · exact fun _ _ => not_conflicts_of_validate hvalid
    · exact fun j _ => h.place j
    · exact fun j _ => ⟨fun _ hj => halone hpc j hj, fun hj _ hop => halone hpc j hj hop.symm⟩
  · refine Calls.Holds.step h ?_ ?_ ?_ ?_ <;> rw [heq]
    · exact not_mixed_write h.shared (h.place i hpc)
    · exact fun hw => by cases hw
    · exact fun j hj hw hadds =>
        not_conflicts_write hadds (h.pair i j (Ne.symm hj) hpc hw) (h.place j hw hadds)
    · exact fun j _ => ⟨fun hw => (by cases hw), fun _ hw => (by cases hw)⟩

/-- **The storage modes are never mixed** while no two opposed calls are between their checks and writes at once. -/
theorem storage_modes_never_mixed {table : List ToggleRow} (hstart : ¬Mixed table)
    {s : Calls ι (List ToggleRow) TogglePc}
    (hrun : Reaches (callStep fun i => setPermissionRequestToggleStatus T (calls i)) (ChecksAlone calls)
      ⟨table, fun _ => .check⟩ s) : ¬Mixed s.shared := by
  have hinit : ModesKept calls ⟨table, fun _ => .check⟩ :=
    ⟨hstart, fun _ hw => (by cases hw), fun _ _ _ hw => (by cases hw)⟩
  exact (hrun.invariant (fun _ _ h ha => ModesKept.step h ha) hinit).shared

end

/-- A call for the camera of user 100 with the given sub-profile, all of whose calls succeed. -/
def closeCamera (subProfileId : Int32) : SetCall :=
  ⟨camera, closed, 100, subProfileId, .localId 100, true, true⟩

def bothModes : Bool → SetCall := fun legacy => closeCamera (if legacy then -1 else 10)

def runBothModes (schedule : List Bool) : Calls Bool (List ToggleRow) TogglePc :=
  schedule.foldl (callStep fun i => setPermissionRequestToggleStatus sampleTable (bothModes i)) ⟨[], fun _ => .check⟩

/-- **Two calls that both check before either writes mix the modes.** -/
theorem checks_before_writes_mix_modes : Mixed (runBothModes [true, false, true, false]).shared := by
  decide +kernel

instance (s : Calls Bool (List ToggleRow) TogglePc) (i : Bool) : Decidable (ChecksAlone bothModes s i) :=
  inferInstanceAs (Decidable (_ → ∀ _ : Bool, _ → ¬_))

theorem modes_not_mixed_one_after_another : ¬Mixed (runBothModes [true, true, false, false]).shared :=
  @storage_modes_never_mixed _ _ _ bothModes _ (by decide) _
    (Lib.reaches_foldl [true, true, false, false] _ (by decide +kernel))

end PermissionRequestToggleManager
end AccessToken
