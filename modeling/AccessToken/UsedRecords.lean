import Mathlib.Algebra.Order.BigOperators.Group.List
import Mathlib.Algebra.Order.Ring.Int
import Mathlib.Algebra.Order.Group.Nat
/-!
# The used records of one permission

`permission_record_manager.cpp`.  A query makes a record of each row it finds and folds them with
`FillPermissionUsedRecords`, which merges the records of a permission into the first of them.
-/
namespace AccessToken

namespace UsedRecords

/-- `PermissionUsageFlag`. -/
inductive UsageFlag where
  | summary | detail | summaryInScreenLocked | summaryInScreenUnlocked | summaryInAppBackground | summaryInAppForeground
  | securityAccessDetail
deriving DecidableEq

/-- A `UsedRecordDetail`, which a merge only copies; the type is a `PermissionUsedType`. -/
structure UsedRecordDetail where
  status : Int32
  lockScreenStatus : Int32
  timestamp : Int
  accessDuration : Int
  count : Int32
  type : Int32
deriving DecidableEq

structure PermissionUsedRecord where
  permissionName : String
  enhancedIdentity : String
  accessCount : Int32 := 0
  secAccessCount : Int32 := 0
  rejectCount : Int32 := 0
  lastAccessTime : Int := 0
  lastRejectTime : Int := 0
  lastAccessDuration : Int := 0
  accessRecords : List UsedRecordDetail := []
  rejectRecords : List UsedRecordDetail := []
deriving DecidableEq

/-- What `TranslationGenericValuesIntoPermissionUsedRecord` reads of a row, with the permission of its op code. -/
structure PermissionRecord where
  permission : String
  enhancedIdentity : String := ""
  status : Int32 := 0
  lockScreenStatus : Int32 := -1
  timestamp : Int
  accessDuration : Int := 0
  type : Int32 := 0
  accessCount : Int32 := 0
  rejectCount : Int32 := 0

def translationGenericValuesIntoPermissionUsedRecord (flag : UsageFlag) (row : PermissionRecord) :
    PermissionUsedRecord :=
  let accessed := row.accessCount ≠ 0
  let lastAccessTime := if accessed then row.timestamp else 0
  let lastRejectTime := if row.rejectCount ≠ 0 then row.timestamp else 0
  -- a row with no lock screen status counts as unlocked
  let detail (timestamp : Int) (count : Int32) : UsedRecordDetail :=
    ⟨row.status, if row.lockScreenStatus = -1 then 1 else row.lockScreenStatus, timestamp, row.accessDuration, count,
      row.type⟩
  let details (time : Int) (count : Int32) := if flag ≠ .summary ∧ 0 < time then [detail time count] else []
  { permissionName := row.permission, enhancedIdentity := row.enhancedIdentity
    accessCount := row.accessCount
    -- `PICKER_TYPE` and `SECURITY_COMPONENT_TYPE`
    secAccessCount := if row.type = 1 ∨ row.type = 2 then row.accessCount else 0
    rejectCount := row.rejectCount, lastAccessTime, lastRejectTime
    lastAccessDuration := if accessed then row.accessDuration else 0
    accessRecords := details lastAccessTime row.accessCount
    rejectRecords := details lastRejectTime row.rejectCount }

/-- `emplace_back(details[0])` if the time is positive; an empty vector has no such element. -/
def emplaceFirst (time : Int) (details out : List UsedRecordDetail) : Option (List UsedRecordDetail) :=
  if 0 < time then details.head?.map fun d => out ++ [d] else some out

def mergeSamePermission (flag : UsageFlag) (inRecord outRecord : PermissionUsedRecord) : Option PermissionUsedRecord :=
  let out := { outRecord with
    accessCount := outRecord.accessCount + inRecord.accessCount
    secAccessCount := outRecord.secAccessCount + inRecord.secAccessCount
    rejectCount := outRecord.rejectCount + inRecord.rejectCount
    lastAccessTime :=
      if inRecord.lastAccessTime > outRecord.lastAccessTime then inRecord.lastAccessTime else outRecord.lastAccessTime }
  -- the time compared here is the one just written
  let out := { out with
    lastAccessDuration :=
      if inRecord.lastAccessTime > out.lastAccessTime then inRecord.lastAccessDuration else out.lastAccessDuration
    lastRejectTime :=
      if inRecord.lastRejectTime > out.lastRejectTime then inRecord.lastRejectTime else out.lastRejectTime }
  if flag = .summary then some out
  else do
    let accessRecords ← emplaceFirst inRecord.lastAccessTime inRecord.accessRecords out.accessRecords
    let rejectRecords ← emplaceFirst inRecord.lastRejectTime inRecord.rejectRecords out.rejectRecords
    some { out with accessRecords, rejectRecords }

def fillPermissionUsedRecords (flag : UsageFlag) :
    List PermissionUsedRecord → PermissionUsedRecord → Option (List PermissionUsedRecord)
  | [], record => some [record]
  | rec :: rest, record =>
    if record.permissionName == rec.permissionName then (mergeSamePermission flag record rec).map (· :: rest)
    else (fillPermissionUsedRecords flag rest record).map (rec :: ·)

/-- The records of a list of rows, one after another. -/
def fillAll (flag : UsageFlag) (records : List PermissionUsedRecord) : Option (List PermissionUsedRecord) :=
  records.foldlM (fillPermissionUsedRecords flag) []

/-! ## What a fold of merges gives -/

def total (count : PermissionUsedRecord → Int32) (l : List PermissionUsedRecord) : Int :=
  (l.map fun x => (count x).toInt).sum

/-- **A faithful aggregate of the records.** -/
structure Aggregate (flag : UsageFlag) (l : List PermissionUsedRecord) (out : PermissionUsedRecord) : Prop where
  accessCount : out.accessCount.toInt = total (·.accessCount) l
  secAccessCount : out.secAccessCount.toInt = total (·.secAccessCount) l
  rejectCount : out.rejectCount.toInt = total (·.rejectCount) l
  lastAccessTime : (l.map (·.lastAccessTime)).max? = some out.lastAccessTime
  lastRejectTime : (l.map (·.lastRejectTime)).max? = some out.lastRejectTime
  lastAccessDuration : ∀ x ∈ l, x.lastAccessTime = out.lastAccessTime → out.lastAccessDuration = x.lastAccessDuration
  details : flag ≠ .summary → out.accessRecords.Perm (l.flatMap (·.accessRecords)) ∧
    out.rejectRecords.Perm (l.flatMap (·.rejectRecords))

/-- **Folding the records, in their order, gives one aggregate.** -/
def MergesFaithfully (flag : UsageFlag) (l : List PermissionUsedRecord) : Prop :=
  ∃ out, fillAll flag l = some [out] ∧ Aggregate flag l out

def SameUpToOrder (a b : PermissionUsedRecord) : Prop :=
  { a with accessRecords := [], rejectRecords := [] } = { b with accessRecords := [], rejectRecords := [] } ∧
    a.accessRecords.Perm b.accessRecords ∧ a.rejectRecords.Perm b.rejectRecords

/-- **In whatever order the records come, folding them gives the same aggregate.** -/
def MergesInAnyOrder (flag : UsageFlag) (l : List PermissionUsedRecord) : Prop :=
  ∀ l', l'.Perm l → MergesFaithfully flag l' ∧
    ∀ out ∈ fillAll flag l, ∀ out' ∈ fillAll flag l', List.Forall₂ SameUpToOrder out' out

/-- A record with a positive time has the detail that goes with it. -/
def HasDetails (r : PermissionUsedRecord) : Prop :=
  (0 < r.lastAccessTime → r.accessRecords ≠ []) ∧ (0 < r.lastRejectTime → r.rejectRecords ≠ [])
deriving Decidable

/-- A detail comes with a positive time, and only with one. -/
def DetailsTimed (r : PermissionUsedRecord) : Prop :=
  HasDetails r ∧ (r.accessRecords ≠ [] → 0 < r.lastAccessTime) ∧ (r.rejectRecords ≠ [] → 0 < r.lastRejectTime)
deriving Decidable

/-- The sums of the counts are within an `int32_t`. -/
def CountsFit (l : List PermissionUsedRecord) : Prop :=
  ∀ count ∈ [PermissionUsedRecord.accessCount, (·.secAccessCount), (·.rejectCount)],
    -2 ^ 31 ≤ total count l ∧ total count l < 2 ^ 31
deriving Decidable

/-- **The first record has what a merge does not take over**: the duration of the latest access. -/
def FirstIsLatest (flag : UsageFlag) (r : PermissionUsedRecord) (rs : List PermissionUsedRecord) : Prop :=
  CountsFit (r :: rs) ∧
    (∀ x ∈ r :: rs, ((r :: rs).map (·.lastAccessTime)).max? = some x.lastAccessTime →
      r.lastAccessDuration = x.lastAccessDuration) ∧
    (flag ≠ .summary → ∀ x ∈ rs, DetailsTimed x)
deriving Decidable

/-- The records agree in what is taken from the first: the identity, the duration and in a summary the details. -/
def TakenAlike (flag : UsageFlag) (x y : PermissionUsedRecord) : Prop :=
  x.enhancedIdentity = y.enhancedIdentity ∧ x.lastAccessDuration = y.lastAccessDuration ∧
    (flag = .summary → x.accessRecords.Perm y.accessRecords ∧ x.rejectRecords.Perm y.rejectRecords)
deriving Decidable

/-- **Records whose order does not matter.** -/
def Interchangeable (flag : UsageFlag) (l : List PermissionUsedRecord) : Prop :=
  CountsFit l ∧ (∀ x ∈ l, ∀ y ∈ l, TakenAlike flag x y) ∧ (flag ≠ .summary → 1 < l.length → ∀ x ∈ l, DetailsTimed x)
deriving Decidable

variable {flag : UsageFlag} {l rs : List PermissionUsedRecord} {r out x : PermissionUsedRecord}

def kept (time : Int) (details : List UsedRecordDetail) : List UsedRecordDetail :=
  if 0 < time then details.take 1 else []

def mergedAll (flag : UsageFlag) (out : PermissionUsedRecord) (rs : List PermissionUsedRecord) : PermissionUsedRecord :=
  { out with
    accessCount := .ofInt (total (·.accessCount) (out :: rs))
    secAccessCount := .ofInt (total (·.secAccessCount) (out :: rs))
    rejectCount := .ofInt (total (·.rejectCount) (out :: rs))
    lastAccessTime := (rs.map (·.lastAccessTime)).foldl max out.lastAccessTime
    lastRejectTime := (rs.map (·.lastRejectTime)).foldl max out.lastRejectTime
    accessRecords := out.accessRecords ++
      if flag = .summary then [] else rs.flatMap fun x => kept x.lastAccessTime x.accessRecords
    rejectRecords := out.rejectRecords ++
      if flag = .summary then [] else rs.flatMap fun x => kept x.lastRejectTime x.rejectRecords }

@[simp]
theorem ofInt_total_cons (count : PermissionUsedRecord → Int32) (r : PermissionUsedRecord)
    (rs : List PermissionUsedRecord) :
    Int32.ofInt (total count (r :: rs)) = count r + Int32.ofInt (total count rs) := by
  rw [total, List.map_cons, List.sum_cons, Int32.ofInt_add, Int32.ofInt_toInt]
  rfl

@[simp]
theorem ofInt_total_nil (count : PermissionUsedRecord → Int32) : Int32.ofInt (total count []) = 0 := rfl

theorem emplaceFirst_eq (time : Int) (details out : List UsedRecordDetail) : emplaceFirst time details out =
    if 0 < time → details ≠ [] then some (out ++ kept time details) else none := by
  unfold emplaceFirst kept
  cases details <;> split_ifs <;> simp_all

/-- **The duration is never replaced**: no time is greater than the maximum it was just merged into. -/
theorem mergeSamePermission_eq (flag : UsageFlag) (r out : PermissionUsedRecord) : mergeSamePermission flag r out =
    if flag = .summary ∨ HasDetails r then some (mergedAll flag out [r]) else none := by
  have hmax : ∀ a b : Int, (if a > b then a else b) = max b a := fun a b => by omega
  have hlast : ¬r.lastAccessTime > max out.lastAccessTime r.lastAccessTime := not_lt.2 (le_max_right ..)
  simp only [mergeSamePermission, hmax, if_neg hlast, emplaceFirst_eq, HasDetails, mergedAll, ofInt_total_cons,
    ofInt_total_nil, Int32.add_zero, List.map_cons, List.map_nil, List.foldl_cons, List.foldl_nil,
    List.flatMap_singleton]
  by_cases hflag : flag = .summary
  · simp [hflag]
  · simp only [hflag, if_false, false_or]
    split_ifs <;> simp_all

theorem foldlM_merge (flag : UsageFlag) : ∀ (rs : List PermissionUsedRecord) (out : PermissionUsedRecord),
    (∀ x ∈ rs, x.permissionName = out.permissionName) → rs.foldlM (fillPermissionUsedRecords flag) [out] =
        if flag = .summary ∨ ∀ x ∈ rs, HasDetails x then some [mergedAll flag out rs] else none
  | [], out, _ => by simp [mergedAll]
  | r :: rs, out, hname => by
    have ih := foldlM_merge flag rs (mergedAll flag out [r]) fun x hx => hname x (by simp [hx])
    have hmerged : mergedAll flag (mergedAll flag out [r]) rs = mergedAll flag out (r :: rs) := by
      by_cases hflag : flag = .summary <;> simp [mergedAll, hflag, Int32.add_assoc]
    rw [List.foldlM_cons, fillPermissionUsedRecords, if_pos (by simp [hname r]), mergeSamePermission_eq]
    by_cases hr : flag = .summary ∨ HasDetails r
    · rw [if_pos hr, Option.map_some, Option.bind_eq_bind, Option.bind_some, ih, hmerged]
      simp only [List.forall_mem_cons]
      exact if_congr (by tauto) rfl rfl
    · simp_all

theorem fillAll_cons (hname : ∀ x ∈ l, ∀ y ∈ l, x.permissionName = y.permissionName) (hperm : (r :: rs).Perm l) :
    fillAll flag (r :: rs) =
      if flag = .summary ∨ ∀ x ∈ rs, HasDetails x then some [mergedAll flag r rs] else none := by
  rw [fillAll, List.foldlM_cons]
  exact foldlM_merge flag rs r fun x hx => hname x (hperm.mem_iff.1 (by simp [hx])) r (hperm.mem_iff.1 (by simp))

section
variable {time : PermissionUsedRecord → Int} {details : PermissionUsedRecord → List UsedRecordDetail}

theorem flatMap_kept (hone : ∀ x ∈ rs, (details x).length ≤ 1) (htime : ∀ x ∈ rs, details x ≠ [] → 0 < time x) :
    (rs.flatMap fun x => kept (time x) (details x)) = rs.flatMap details := by
  refine List.flatMap_congr fun x hx => ?_
  by_cases hnil : details x = []
  · simp [kept, hnil]
  · rw [kept, if_pos (htime x hx hnil), List.take_of_length_le (hone x hx)]

/-- A detail that is not merged is missing from the result. -/
theorem perm_kept_iff {first : List UsedRecordDetail} (hone : ∀ x ∈ rs, (details x).length ≤ 1) :
    (first ++ rs.flatMap fun x => kept (time x) (details x)).Perm (first ++ rs.flatMap details) ↔
      ∀ x ∈ rs, details x ≠ [] → 0 < time x := by
  refine ⟨fun h x hx hne => ?_, fun htime => by rw [flatMap_kept hone htime]⟩
  by_contra hle
  have hlt : ((rs.map fun z => (kept (time z) (details z)).length)).sum < (rs.map fun z => (details z).length).sum := by
    refine List.sum_lt_sum _ _ (fun z _ => ?_) ⟨x, hx, ?_⟩
    · unfold kept
      split <;> simp
    · simpa [kept, if_neg hle] using List.length_pos_iff.2 hne
  have hlen := h.length_eq
  rw [List.length_append, List.length_append, List.length_flatMap, List.length_flatMap] at hlen
  omega

end

theorem toInt_ofInt_iff (n : Int) : (Int32.ofInt n).toInt = n ↔ -2 ^ 31 ≤ n ∧ n < 2 ^ 31 :=
  ⟨fun h => h ▸ ⟨Int32.le_toInt _, Int32.toInt_lt _⟩, fun h => Int32.toInt_ofInt_of_le h.1 h.2⟩

theorem total_perm {l' : List PermissionUsedRecord} (h : l'.Perm l) (count : PermissionUsedRecord → Int32) :
    total count l' = total count l := (h.map _).sum_eq

theorem max?_perm {l' : List PermissionUsedRecord} (h : l'.Perm l) (f : PermissionUsedRecord → Int) :
    (l'.map f).max? = (l.map f).max? :=
  Option.ext fun m => by simp only [List.max?_eq_some_iff, (h.map f).mem_iff]

theorem aggregate_mergedAll_iff (hone : ∀ x ∈ rs, x.accessRecords.length ≤ 1 ∧ x.rejectRecords.length ≤ 1) :
    (flag = .summary ∨ ∀ x ∈ rs, HasDetails x) ∧ Aggregate flag (r :: rs) (mergedAll flag r rs) ↔
      FirstIsLatest flag r rs := by
  have hdetails (hflag : flag ≠ .summary) :
      (mergedAll flag r rs).accessRecords.Perm ((r :: rs).flatMap (·.accessRecords)) ∧
        (mergedAll flag r rs).rejectRecords.Perm ((r :: rs).flatMap (·.rejectRecords)) ↔
      ∀ x ∈ rs, (x.accessRecords ≠ [] → 0 < x.lastAccessTime) ∧ (x.rejectRecords ≠ [] → 0 < x.lastRejectTime) := by
    simp only [mergedAll, if_neg hflag, List.flatMap_cons, perm_kept_iff fun x hx => (hone x hx).1,
      perm_kept_iff fun x hx => (hone x hx).2, forall₂_and]
  constructor
  · rintro ⟨hhas, h⟩
    refine ⟨?_, fun x hx hmax => h.lastAccessDuration x hx ?_, fun hflag x hx => ?_⟩
    · simp only [CountsFit, List.forall_mem_cons, ← toInt_ofInt_iff]
      exact ⟨h.accessCount, h.secAccessCount, h.rejectCount, nofun⟩
    · exact Option.some.inj (hmax.symm.trans h.lastAccessTime)
    · exact ⟨hhas.resolve_left hflag x hx, (hdetails hflag).1 (h.details hflag) x hx⟩
  · rintro ⟨hfit, hdur, htimed⟩
    simp only [CountsFit, List.forall_mem_cons, ← toInt_ofInt_iff] at hfit
    refine ⟨or_iff_not_imp_left.2 fun hflag x hx => (htimed hflag x hx).1, hfit.1, hfit.2.1, hfit.2.2.1,
      rfl, rfl, ?_, ?_⟩
    · exact fun x hx htime => hdur x hx (htime ▸ rfl)
    · exact fun hflag => (hdetails hflag).2 fun x hx => (htimed hflag x hx).2

section
variable (hname : ∀ x ∈ l, ∀ y ∈ l, x.permissionName = y.permissionName)
  (hone : ∀ x ∈ l, x.accessRecords.length ≤ 1 ∧ x.rejectRecords.length ≤ 1) (hperm : (r :: rs).Perm l)
include hname hone hperm

theorem fillAll_of_firstIsLatest (h : FirstIsLatest flag r rs) :
    fillAll flag (r :: rs) = some [mergedAll flag r rs] ∧ Aggregate flag (r :: rs) (mergedAll flag r rs) := by
  rw [← aggregate_mergedAll_iff fun x hx => hone x (hperm.mem_iff.1 (by simp [hx]))] at h
  rw [fillAll_cons hname hperm, if_pos h.1]
  exact ⟨rfl, h.2⟩

theorem mergesFaithfully_cons_iff : MergesFaithfully flag (r :: rs) ↔ FirstIsLatest flag r rs := by
  refine ⟨fun ⟨out, hfill, hagg⟩ => ?_, fun h => ⟨_, fillAll_of_firstIsLatest hname hone hperm h⟩⟩
  rw [← aggregate_mergedAll_iff fun x hx => hone x (hperm.mem_iff.1 (by simp [hx]))]
  rw [fillAll_cons hname hperm] at hfill
  split at hfill
  · rename_i hdetails
    cases hfill
    exact ⟨hdetails, hagg⟩
  · cases hfill

end

theorem TakenAlike.congr {y : PermissionUsedRecord} (hx : TakenAlike flag x r) (hy : TakenAlike flag y r) :
    TakenAlike flag x y :=
  ⟨hx.1.trans hy.1.symm, hx.2.1.trans hy.2.1.symm, fun hflag =>
    ⟨(hx.2.2 hflag).1.trans (hy.2.2 hflag).1.symm, (hx.2.2 hflag).2.trans (hy.2.2 hflag).2.symm⟩⟩

/-- Two orders of the records give the same up to what is taken from the first. -/
theorem sameUpToOrder_iff {r' : PermissionUsedRecord} {rs' : List PermissionUsedRecord}
    (hname : r'.permissionName = r.permissionName) (hperm : (r' :: rs').Perm (r :: rs))
    (hagg : Aggregate flag (r :: rs) (mergedAll flag r rs))
    (hagg' : Aggregate flag (r' :: rs') (mergedAll flag r' rs')) :
    SameUpToOrder (mergedAll flag r' rs') (mergedAll flag r rs) ↔ TakenAlike flag r' r := by
  have htime {f : PermissionUsedRecord → Int} {m m' : Int} (h : ((r :: rs).map f).max? = some m)
      (h' : ((r' :: rs').map f).max? = some m') : m' = m :=
    Option.some.inj (h'.symm.trans ((max?_perm hperm f).trans h))
  have haccess := htime hagg.lastAccessTime hagg'.lastAccessTime
  have hreject := htime hagg.lastRejectTime hagg'.lastRejectTime
  simp only [mergedAll] at haccess hreject
  unfold SameUpToOrder TakenAlike
  by_cases hflag : flag = .summary
  · simp [mergedAll, hflag, total_perm hperm, hname, haccess, hreject, and_assoc]
  · obtain ⟨hacc, hrej⟩ := hagg.details hflag
    obtain ⟨hacc', hrej'⟩ := hagg'.details hflag
    have hsame := And.intro (hacc'.trans ((hperm.flatMap_right _).trans hacc.symm))
      (hrej'.trans ((hperm.flatMap_right _).trans hrej.symm))
    simp only [hsame, and_true]
    simp [mergedAll, hflag, total_perm hperm, hname, haccess, hreject]

/-- With more than one record, each is merged into another in some order. -/
theorem exists_merged (hx : x ∈ l) (hlen : 1 < l.length) : ∃ y rest, (y :: x :: rest).Perm l := by
  obtain ⟨y, rest, hrest⟩ : ∃ y rest, l.erase x = y :: rest := by
    refine List.exists_cons_of_ne_nil fun hnil => ?_
    have herase := List.length_erase_of_mem hx
    rw [hnil, List.length_nil] at herase
    omega
  exact ⟨y, rest, (List.Perm.swap x y rest).trans (hrest ▸ (List.perm_cons_erase hx).symm)⟩

theorem Interchangeable.firstIsLatest (h : Interchangeable flag l) (hperm : (r :: rs).Perm l) :
    FirstIsLatest flag r rs := by
  obtain ⟨hfit, halike, htimed⟩ := h
  have hmem {x} (hx : x ∈ r :: rs) : x ∈ l := hperm.mem_iff.1 hx
  refine ⟨fun count hcount => ?_, fun x hx _ => (halike r (hmem (by simp)) x (hmem hx)).2.1, fun hflag x hx => ?_⟩
  · rw [total_perm hperm]
    exact hfit count hcount
  · exact htimed hflag (hperm.length_eq ▸ by simpa using List.length_pos_of_mem hx) x (hmem (by simp [hx]))

/-- **When the used records of a permission are merged faithfully**, in their order and in every order. -/
theorem merges_faithfully_iff (hname : ∀ x ∈ r :: rs, ∀ y ∈ r :: rs, x.permissionName = y.permissionName)
    (hone : ∀ x ∈ r :: rs, x.accessRecords.length ≤ 1 ∧ x.rejectRecords.length ≤ 1) :
    (MergesFaithfully flag (r :: rs) ↔ FirstIsLatest flag r rs) ∧
      (MergesInAnyOrder flag (r :: rs) ↔ Interchangeable flag (r :: rs)) := by
  have hcons {r' rs'} (hperm : (r' :: rs').Perm (r :: rs)) : MergesFaithfully flag (r' :: rs') ↔
      FirstIsLatest flag r' rs' :=
    mergesFaithfully_cons_iff hname hone hperm
  refine ⟨hcons (.refl _), fun h => ?_, fun h => ?_⟩
  · have hfirst {r' rs'} (hperm : (r' :: rs').Perm (r :: rs)) : FirstIsLatest flag r' rs' :=
      (hcons hperm).1 (h _ hperm).1
    obtain ⟨hfill, hagg⟩ := fillAll_of_firstIsLatest hname hone (.refl _) (hfirst (.refl _))
    have halike : ∀ x ∈ r :: rs, TakenAlike flag x r := by
      intro x hx
      have hperm := (List.perm_cons_erase hx).symm
      obtain ⟨hfill', hagg'⟩ := fillAll_of_firstIsLatest hname hone hperm (hfirst hperm)
      refine (sameUpToOrder_iff (hname x hx r (by simp)) hperm hagg hagg').1 ?_
      simpa using (h _ hperm).2 _ hfill _ hfill'
    refine ⟨(hfirst (.refl _)).1, fun x hx y hy => (halike x hx).congr (halike y hy), fun hflag hlen x hx => ?_⟩
    obtain ⟨y, rest, hperm⟩ := exists_merged hx hlen
    exact (hfirst hperm).2.2 hflag x (by simp)
  · obtain ⟨hfill, hagg⟩ := fillAll_of_firstIsLatest hname hone (.refl _) (h.firstIsLatest (.refl _))
    intro l' hperm
    cases l' with
    | nil => cases hperm.nil_eq
    | cons r' rs' =>
      have hr' : r' ∈ r :: rs := hperm.mem_iff.1 (by simp)
      obtain ⟨hfill', hagg'⟩ := fillAll_of_firstIsLatest hname hone hperm (h.firstIsLatest hperm)
      refine ⟨⟨_, hfill', hagg'⟩, ?_⟩
      rw [hfill, hfill']
      rintro _ ⟨⟩ _ ⟨⟩
      exact .cons ((sameUpToOrder_iff (hname r' hr' r (by simp)) hperm hagg hagg').2 (h.2.1 r' hr' r (by simp))) .nil

/-- A row for two uses of the camera and one for an earlier one, in the order in which a query reads them. -/
def twoRows (accessCount rejectCount : Int32) : List PermissionUsedRecord :=
  [{ permission := "ohos.permission.CAMERA", timestamp := 30, accessDuration := 5, accessCount, rejectCount },
    { permission := "ohos.permission.CAMERA", timestamp := 20, accessDuration := 9, accessCount := 1 }].map
      (translationGenericValuesIntoPermissionUsedRecord .detail)

theorem accesses_merge : MergesFaithfully .detail (twoRows 2 1) ∧ ¬MergesInAnyOrder .detail (twoRows 2 1) :=
  have h := merges_faithfully_iff (by decide) (by decide)
  ⟨h.1.2 (by decide), fun hany => absurd (h.2.1 hany) (by decide)⟩

/-- **The access before a rejected one leaves no duration.** -/
theorem duration_lost : ∃ out, fillAll .detail (twoRows 0 1) = some [out] ∧ out.lastAccessTime = 20 ∧
    out.lastAccessDuration = 0 ∧ ¬Aggregate .detail (twoRows 0 1) out :=
  ⟨_, rfl, rfl, rfl, fun h =>
    absurd (h.lastAccessDuration _ (List.mem_cons_of_mem _ List.mem_cons_self) rfl) (by decide)⟩

end UsedRecords
end AccessToken
