import AccessToken.Service.State
import AccessToken.Lib.PointUpdate
/-!
# The kernel's SPM entries and the tasks that stage them

`spm_data_kernel_common.cpp`, `add_spm_data_task.cpp`, `update_spm_data_task.cpp` and `remove_spm_data_task.cpp`.  The
kernel holds two maps, the SPM entry of a token and its granted permission bits.  Its answer is part of a request: an
`ioctl` that fails carries the code the wrapper returns after its retry.  The content of an entry is left open (`E`), as
is the outcome of `BuildSpmData`.
-/
namespace AccessToken.Kernel

open Function

variable {E : Type}

abbrev SpmEntries (E : Type) := AccessTokenID → Option E

structure SpmKernel (E : Type) where
  entries : SpmEntries E
  perms : KernelPerms

/-! ## The batch requests -/

/-- What a batch request answers; the index it reports is the number of entries it wrote before it stopped. -/
inductive BatchRet where
  | success | exist | failed
deriving DecidableEq

/-- `SpmAddEntries`: stops at the first token that has an entry, or where the `ioctl` fails. -/
def spmAddEntries : List (AccessTokenID × E) → Option Nat → SpmEntries E → BatchRet × Nat × SpmEntries E
  | [], _, m => (.success, 0, m)
  | (tokenId, e) :: rest, failAt, m =>
    if failAt = some 0 then (.failed, 0, m)
    else if (m tokenId).isSome then (.exist, 0, m)
    else
      let r := spmAddEntries rest (failAt.map (· - 1)) (update m tokenId (some e))
      (r.1, r.2.1 + 1, r.2.2)

/-- `SpmSetEntries`: creates or replaces. -/
def spmSetEntries : List (AccessTokenID × E) → Option Nat → SpmEntries E → BatchRet × Nat × SpmEntries E
  | [], _, m => (.success, 0, m)
  | (tokenId, e) :: rest, failAt, m =>
    if failAt = some 0 then (.failed, 0, m)
    else
      let r := spmSetEntries rest (failAt.map (· - 1)) (update m tokenId (some e))
      (r.1, r.2.1 + 1, r.2.2)

/-- Where the first try and the retry of a batch request fail, and whether the first failure is `ENOTSUP`. -/
structure BatchAnswer where
  failAt : Option Nat
  unsupported : Bool
  retryFailAt : Option Nat

def BatchAnswer.fine : BatchAnswer := ⟨none, false, none⟩

/-- The retry shared by `AddSpmEntriesToKernel` and `SetSpmEntriesToKernel`: only the entries from the reported index
on are sent again, and the index of the retry is counted from there. -/
def withRetry (send : List (AccessTokenID × E) → Option Nat → SpmEntries E → BatchRet × Nat × SpmEntries E)
    (answer : BatchAnswer) (entries : List (AccessTokenID × E)) (m : SpmEntries E) : Ret × Nat × SpmEntries E :=
  let r := send entries answer.failAt m
  match r.1 with
  | .success => (.ok (), r.2)
  | .exist => (.error .errDataConflictWithKernel, r.2)
  | .failed =>
    if answer.unsupported then (.error .errIoctlUnsupport, r.2)
    else
      let r' := send (entries.drop r.2.1) answer.retryFailAt r.2.2
      match r'.1 with
      | .success => (.ok (), r.2.1 + r'.2.1, r'.2.2)
      | _ => (.error .errKernelCommonFailed, r.2.1 + r'.2.1, r'.2.2)

def addSpmEntriesToKernel (answer : BatchAnswer) (entries : List (AccessTokenID × E)) (m : SpmEntries E) :
    Ret × Nat × SpmEntries E := withRetry spmAddEntries answer entries m

def setSpmEntriesToKernel (answer : BatchAnswer) (entries : List (AccessTokenID × E)) (m : SpmEntries E) :
    Ret × Nat × SpmEntries E := withRetry spmSetEntries answer entries m

/-- The codes `AddHapPermToKernel` takes from a permission list: the entries whose stored status is granted. -/
def grantedOpCodeList (permBriefDataList : List BriefPermData) : List Nat :=
  (permBriefDataList.filter (fun data => data.status == permissionGranted)).map (·.permCode)

/-- `AddHapPermToKernel` over a permission list. -/
def addHapPermToKernel (tokenId : AccessTokenID) (permBriefDataList : List BriefPermData) (k : KernelPerms) :
    KernelPerms := k.addPermissionToKernel tokenId (grantedOpCodeList permBriefDataList)

/-! ## Task items -/

def maxEntryNum : Nat := 255

/-- `SpmDataParam`, with what `BuildSpmData` makes of it and what the kernel answers when its entry is read and when
its permission bits are written. -/
structure SpmDataParam (E : Type) where
  tokenId : AccessTokenID
  spmData : Option E
  permBriefDataList : List BriefPermData
  oldPermBriefDataList : Option (List BriefPermData)
  updateWithPerm : Bool
  loadAnswer : Ret
  permAnswer : Ret

structure SpmDataTaskItem (E : Type) where
  tokenId : AccessTokenID
  newSpmData : E
  oldSpmData : Option E
  permBriefDataList : List BriefPermData
  oldPermBriefDataList : Option (List BriefPermData)
  loadAnswer : Ret
  permAnswer : Ret

def SpmDataParam.taskItem (updateWithPerm : Bool) (param : SpmDataParam E) : Option (SpmDataTaskItem E) :=
  if param.updateWithPerm = updateWithPerm then
    param.spmData.map fun e =>
      ⟨param.tokenId, e, none, param.permBriefDataList, param.oldPermBriefDataList, param.loadAnswer, param.permAnswer⟩
  else none

/-- The constructors of the add and the update task: `none` is `isBuildSuccess_ = false`. -/
def buildItems (params : List (SpmDataParam E)) : Option (Bool × List (SpmDataTaskItem E)) :=
  match params with
  | [] => none
  | param :: _ =>
    if maxEntryNum < params.length then none
    else (params.mapM (SpmDataParam.taskItem param.updateWithPerm)).map (param.updateWithPerm, ·)

def newEntries (items : List (SpmDataTaskItem E)) : List (AccessTokenID × E) :=
  items.map fun item => (item.tokenId, item.newSpmData)

/-- The loop of `AddPermDataToKernel` and `UpdatePermData`, with the number of items written. -/
def writePermData : List (SpmDataTaskItem E) → KernelPerms → Ret × Nat × KernelPerms
  | [], k => (.ok (), 0, k)
  | item :: rest, k =>
    match item.permAnswer with
    | .error e => (.error e, 0, k)
    | .ok _ =>
      let r := writePermData rest (addHapPermToKernel item.tokenId item.permBriefDataList k)
      (r.1, r.2.1 + 1, r.2.2)

structure SpmDataTask (E : Type) where
  items : List (SpmDataTaskItem E)
  spmDataSuccessCount : Nat
  permDataSuccessCount : Nat

namespace SpmDataTask

variable (task : SpmDataTask E)

def spmWritten : List (SpmDataTaskItem E) := task.items.take task.spmDataSuccessCount

def permWritten : List (SpmDataTaskItem E) := task.items.take task.permDataSuccessCount

/-! ## `AddSpmDataTask` -/

/-- `AddSpmDataTask::Rollback`; the two loops touch different maps. -/
def rollbackAdd (k : SpmKernel E) : SpmKernel E where
  entries := task.spmWritten.reverse.foldl (fun m item => update m item.tokenId none) k.entries
  perms := task.permWritten.reverse.foldl (fun p item => p.removePermissionFromKernel item.tokenId) k.perms

/-! ## `UpdateSpmDataTask` -/

/-- `UpdateSpmDataTask::Rollback`: entries that were new are removed while the others are collected and set back in one
batch; the permission lists follow, a missing list meaning none are known. -/
def rollbackUpdate (k : SpmKernel E) : SpmKernel E where
  entries :=
    let removed := (task.spmWritten.filter (·.oldSpmData.isNone)).foldl
      (fun (m : SpmEntries E) item => update m item.tokenId none) k.entries
    let entries := Lib.held (·.tokenId) (·.oldSpmData) task.spmWritten
    (setSpmEntriesToKernel .fine entries removed).2.2
  perms := task.permWritten.foldl (fun p item =>
    match item.oldPermBriefDataList with
    | none => p.removePermissionFromKernel item.tokenId
    | some list => addHapPermToKernel item.tokenId list p) k.perms

end SpmDataTask

/-- The common part of `Add` and `Update`: write the entries where the kernel supports them, then the permission bits
where the request carries them; a failure rolls back what was written. -/
def stageItems (write : List (AccessTokenID × E) → SpmEntries E → Ret × Nat × SpmEntries E)
    (rollback : SpmDataTask E → SpmKernel E → SpmKernel E) (isKernelSupportSpm updateWithPerm : Bool)
    (items : List (SpmDataTaskItem E)) (k : SpmKernel E) : Ret × SpmDataTask E × SpmKernel E :=
  let r := if isKernelSupportSpm then write (newEntries items) k.entries else (.ok (), 0, k.entries)
  match r.1 with
  | .error e =>
    let task : SpmDataTask E := ⟨items, r.2.1, 0⟩
    (.error e, task, rollback task ⟨r.2.2, k.perms⟩)
  | .ok _ =>
    if updateWithPerm then
      let r' := writePermData items k.perms
      let task : SpmDataTask E := ⟨items, r.2.1, r'.2.1⟩
      match r'.1 with
      | .error e => (.error e, task, rollback task ⟨r.2.2, r'.2.2⟩)
      | .ok _ => (.ok (), task, ⟨r.2.2, r'.2.2⟩)
    else (.ok (), ⟨items, r.2.1, 0⟩, ⟨r.2.2, k.perms⟩)

/-- `AddSpmDataTask::Add` on the items of a built task. -/
def addItems (isKernelSupportSpm updateWithPerm : Bool) (answer : BatchAnswer) (items : List (SpmDataTaskItem E))
    (k : SpmKernel E) : Ret × SpmDataTask E × SpmKernel E :=
  stageItems (addSpmEntriesToKernel answer) SpmDataTask.rollbackAdd isKernelSupportSpm updateWithPerm items k

/-- `LoadOldSpmDataForItems`: a token without an entry has no old data, any other failure stops the update. -/
def loadOldSpmDataForItems (items : List (SpmDataTaskItem E)) (m : SpmEntries E) :
    Except AccessTokenError (List (SpmDataTaskItem E)) :=
  items.mapM fun item => item.loadAnswer.map fun _ => { item with oldSpmData := m item.tokenId }

/-- `UpdateSpmDataTask::Update` on the items of a built task. -/
def updateItems (isKernelSupportSpm updateWithPerm : Bool) (answer : BatchAnswer) (items : List (SpmDataTaskItem E))
    (k : SpmKernel E) : Ret × SpmDataTask E × SpmKernel E :=
  match if isKernelSupportSpm then loadOldSpmDataForItems items k.entries else .ok items with
  | .error e => (.error e, ⟨items, 0, 0⟩, k)
  | .ok items =>
    stageItems (setSpmEntriesToKernel answer) SpmDataTask.rollbackUpdate isKernelSupportSpm updateWithPerm items k

/-! ## `RemoveSpmDataTask` -/

/-- What `RemoveSpmEntryFromKernel` meets after its retry; it reports success for all but `failed`. -/
inductive EntryAnswer where
  | removed | unsupported | failed
deriving DecidableEq

/-- `RemoveSpmDataParam`, with what the kernel answers when the entry is read, and when the permission bits and the
entry are removed. -/
structure RemoveSpmDataParam where
  tokenId : AccessTokenID
  oldPermBriefDataList : Option (List BriefPermData)
  loadAnswer : Ret
  permAnswer : Ret
  entryAnswer : EntryAnswer

/-- `RemoveSpmDataTask::Item`. -/
structure RemoveItem (E : Type) where
  tokenId : AccessTokenID
  oldSpmData : Option E
  oldPermBriefDataList : Option (List BriefPermData)
  spmEntryRemoved : Bool
  permRemoved : Bool

/-- The item of one request after `LoadOldSpmEntries` and its turn of the loop: an entry that cannot be read is not
compensable, but still removed. -/
def removeItem (isSpmSupport : Bool) (m : SpmEntries E) (param : RemoveSpmDataParam) : RemoveItem E where
  tokenId := param.tokenId
  oldSpmData := if isSpmSupport && param.loadAnswer.isOk then m param.tokenId else none
  oldPermBriefDataList := param.oldPermBriefDataList
  spmEntryRemoved := isSpmSupport && param.entryAnswer != .failed
  permRemoved := param.permAnswer.isOk

/-- `RemoveSpmDataTask::Remove`: best effort, every request gets its turn. -/
def removeSpmData (isSpmSupport : Bool) (params : List RemoveSpmDataParam) (k : SpmKernel E) :
    List (RemoveItem E) × SpmKernel E :=
  (params.map (removeItem isSpmSupport k.entries),
    { entries := (params.filter (fun p => isSpmSupport && p.entryAnswer == .removed)).foldl
        (fun m p => update m p.tokenId none) k.entries
      perms := (params.filter (·.permAnswer.isOk)).foldl
        (fun b p => b.removePermissionFromKernel p.tokenId) k.perms })

/-- The loop of `RestoreSpmEntries` with the entries that remain; an entry that is still there is skipped. -/
def restoreSpmEntriesLoop : Nat → List (AccessTokenID × E) → SpmEntries E → SpmEntries E
  | 0, _, m => m
  | n + 1, remaining, m =>
    let r := addSpmEntriesToKernel .fine remaining m
    match r.1 with
    | .ok _ => r.2.2
    | .error .errDataConflictWithKernel => restoreSpmEntriesLoop n (remaining.drop (r.2.1 + 1)) r.2.2
    | .error _ => r.2.2

def restoreSpmEntries (entries : List (AccessTokenID × E)) (m : SpmEntries E) : SpmEntries E :=
  restoreSpmEntriesLoop entries.length entries m

/-- `RestorePermCodes`: nothing is done for a missing or an empty list. -/
def restorePermCodes (tokenId : AccessTokenID) (oldPermBriefDataList : Option (List BriefPermData)) (k : KernelPerms) :
    KernelPerms :=
  match oldPermBriefDataList with
  | none | some [] => k
  | some list => addHapPermToKernel tokenId list k

/-- `RemoveSpmDataTask::Rollback`. -/
def rollbackRemove (items : List (RemoveItem E)) (k : SpmKernel E) : SpmKernel E where
  entries := restoreSpmEntries
    (Lib.held (·.tokenId) (·.oldSpmData) (items.reverse.filter (·.spmEntryRemoved))) k.entries
  perms := (items.reverse.filter (·.permRemoved)).foldl
    (fun p item => restorePermCodes item.tokenId item.oldPermBriefDataList p) k.perms

end AccessToken.Kernel
