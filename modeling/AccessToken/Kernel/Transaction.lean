import AccessToken.Kernel.SpmDataLemmas
/-!
# The kernel and database write transaction

`kernel_and_db_transaction.cpp`: at most one add, one update and one removal are staged on the kernel, the database is
written, and a transaction that ends without an effective commit compensates what it staged, the add first, then the
update, then the removal.  The compensation gives the kernel back exactly as it was when no stage overlaps an earlier
one in a way the fixed order cannot undo (`KeepsRollback`), and only then (`rollback_restores_kernel_iff`).
-/
namespace AccessToken.Kernel

variable {E : Type}

/-- `KernelAndDBWriteTransaction` with the kernel it works on; a task is kept once its stage succeeded. -/
structure KernelAndDBWriteTransaction (E : Type) where
  kernel : SpmKernel E
  addTask : Option (SpmDataTask E)
  updateTask : Option (SpmDataTask E)
  removeTask : Option (List (RemoveItem E))
  dbFailed : Bool
  committed : Bool
  rolledBack : Bool

namespace KernelAndDBWriteTransaction

def new (k : SpmKernel E) : KernelAndDBWriteTransaction E := ⟨k, none, none, none, false, false, false⟩

variable (tx : KernelAndDBWriteTransaction E)

def closed : Bool := tx.committed || tx.rolledBack

def stageKernelAdd (isKernelSupportSpm : Bool) (params : List (SpmDataParam E)) (answer : BatchAnswer) :
    Ret × KernelAndDBWriteTransaction E :=
  if tx.closed || tx.addTask.isSome then (.error .errParamInvalid, tx)
  else
    match buildItems params with
    | none => (.error .errParamInvalid, tx)
    | some (updateWithPerm, items) =>
      let r := addItems isKernelSupportSpm updateWithPerm answer items tx.kernel
      match r.1 with
      | .error e => (.error e, { tx with kernel := r.2.2 })
      | .ok _ => (.ok (), { tx with kernel := r.2.2, addTask := some r.2.1 })

def stageKernelUpdate (isKernelSupportSpm : Bool) (params : List (SpmDataParam E)) (answer : BatchAnswer) :
    Ret × KernelAndDBWriteTransaction E :=
  if tx.closed || tx.updateTask.isSome then (.error .errParamInvalid, tx)
  else
    match buildItems params with
    | none => (.error .errParamInvalid, tx)
    | some (updateWithPerm, items) =>
      let r := updateItems isKernelSupportSpm updateWithPerm answer items tx.kernel
      match r.1 with
      | .error e => (.error e, { tx with kernel := r.2.2 })
      | .ok _ => (.ok (), { tx with kernel := r.2.2, updateTask := some r.2.1 })

def stageKernelRemove (isKernelSupportSpm : Bool) (params : List RemoveSpmDataParam) :
    Ret × KernelAndDBWriteTransaction E :=
  if tx.closed || tx.removeTask.isSome then (.error .errParamInvalid, tx)
  else if params.isEmpty then (.ok (), tx)
  else if maxEntryNum < params.length then (.error .errParamInvalid, tx)
  else
    let r := removeSpmData isKernelSupportSpm params tx.kernel
    (.ok (), { tx with kernel := r.2, removeTask := some r.1 })

/-- `CommitDb`, with the outcome of `DeleteAndInsertValues`: a failure poisons the transaction. -/
def commitDb (dbOk : Bool) : Ret × KernelAndDBWriteTransaction E :=
  if tx.closed then (.error .errParamInvalid, tx)
  else if dbOk then (.ok (), tx)
  else (.error .errDatabaseOperateFailed, { tx with dbFailed := true })

def commit : KernelAndDBWriteTransaction E := if tx.dbFailed then tx else { tx with committed := true }

/-- `RollbackInternal`: add, then update, then remove. -/
def rollbackInternal : SpmKernel E :=
  let k := tx.addTask.elim tx.kernel (·.rollbackAdd tx.kernel)
  let k := tx.updateTask.elim k (·.rollbackUpdate k)
  tx.removeTask.elim k (rollbackRemove · k)

def abort : Ret × KernelAndDBWriteTransaction E :=
  if tx.closed then (.error .errParamInvalid, tx)
  else (.ok (), { tx with kernel := tx.rollbackInternal, rolledBack := true })

def destroy : SpmKernel E := if tx.closed then tx.kernel else tx.rollbackInternal

end KernelAndDBWriteTransaction

/-- What a caller does with an open transaction, with the answers of the kernel and the database. -/
inductive TransactionOp (E : Type) where
  | stageKernelAdd (params : List (SpmDataParam E)) (answer : BatchAnswer)
  | stageKernelUpdate (params : List (SpmDataParam E)) (answer : BatchAnswer)
  | stageKernelRemove (params : List RemoveSpmDataParam)
  | commitDb (dbOk : Bool)
  | commit
  | abort

namespace KernelAndDBWriteTransaction

def step (isKernelSupportSpm : Bool) (tx : KernelAndDBWriteTransaction E) :
    TransactionOp E → KernelAndDBWriteTransaction E
  | .stageKernelAdd params answer => (tx.stageKernelAdd isKernelSupportSpm params answer).2
  | .stageKernelUpdate params answer => (tx.stageKernelUpdate isKernelSupportSpm params answer).2
  | .stageKernelRemove params => (tx.stageKernelRemove isKernelSupportSpm params).2
  | .commitDb dbOk => (tx.commitDb dbOk).2
  | .commit => tx.commit
  | .abort => tx.abort.2

/-! ## What ending the transaction now would leave -/

variable (tx : KernelAndDBWriteTransaction E)

def addedEntries : List AccessTokenID := tx.addTask.elim [] (·.spmWritten.map (·.tokenId))

def addedPerms : List AccessTokenID := tx.addTask.elim [] (·.permWritten.map (·.tokenId))

def updatedEntries : List AccessTokenID := tx.updateTask.elim [] (·.spmWritten.map (·.tokenId))

def updatedPerms : List AccessTokenID := tx.updateTask.elim [] (·.permWritten.map (·.tokenId))

def restoredEntries : List AccessTokenID :=
  tx.removeTask.elim [] (fun r => (r.filter (·.restoresEntry)).map (·.tokenId))

def restoredPerms : List AccessTokenID := tx.removeTask.elim [] (fun r => (r.filter (·.restoresPerms)).map (·.tokenId))

/-- What the staged tasks hold: the update read the entries `gU`, the removal the entries `gR`, and the callers' old
permission lists are the bits `p`. -/
structure Captured (p : KernelPerms) (gU gR : SpmEntries E) : Prop where
  updateEntries : ∀ u, tx.updateTask = some u → ∀ item ∈ u.spmWritten, item.oldSpmData = gU item.tokenId
  updatePerms : ∀ u, tx.updateTask = some u → ∀ item ∈ u.permWritten,
    ∃ list, item.oldPermBriefDataList = some list ∧ grantedBits list = p item.tokenId
  removeEntries : ∀ r, tx.removeTask = some r → ∀ item ∈ r,
    item.oldSpmData = none ∨ item.oldSpmData = gR item.tokenId
  removePerms : ∀ r, tx.removeTask = some r → ∀ item ∈ r,
    ∃ list, item.oldPermBriefDataList = some list ∧ grantedBits list = p item.tokenId

variable {tx} {p : KernelPerms} {gU gR : SpmEntries E}

/-- **The entry a token has after the compensation.** -/
theorem Captured.entries (h : tx.Captured p gU gR) (t : AccessTokenID) : tx.rollbackInternal.entries t =
      (if t ∈ tx.updatedEntries then gU t else if t ∈ tx.addedEntries then none else tx.kernel.entries t).or
        (if t ∈ tx.restoredEntries then gR t else none) := by
  have hadd : (tx.addTask.elim tx.kernel (·.rollbackAdd tx.kernel)).entries t =
      if t ∈ tx.addedEntries then none else tx.kernel.entries t := by
    unfold addedEntries
    cases tx.addTask with
    | none => simp
    | some task => exact task.rollbackAdd_entries tx.kernel t
  have hupdate : ∀ k : SpmKernel E, (tx.updateTask.elim k (·.rollbackUpdate k)).entries t =
      if t ∈ tx.updatedEntries then gU t else k.entries t := by
    intro k
    unfold updatedEntries
    cases hu : tx.updateTask with
    | none => simp
    | some task => exact task.rollbackUpdate_entries k t (h.updateEntries task hu)
  have hremove : ∀ k : SpmKernel E, (tx.removeTask.elim k (rollbackRemove · k)).entries t =
      (k.entries t).or (if t ∈ tx.restoredEntries then gR t else none) := by
    intro k
    unfold restoredEntries
    cases hr : tx.removeTask with
    | none => simp
    | some items => exact rollbackRemove_entries items k t (h.removeEntries items hr)
  unfold rollbackInternal
  rw [hremove, hupdate, hadd]

/-- **The permission bits a token has after the compensation.** -/
theorem Captured.perms (h : tx.Captured p gU gR) (t : AccessTokenID) : tx.rollbackInternal.perms t =
      if t ∈ tx.restoredPerms then p t else if t ∈ tx.updatedPerms then p t
      else if t ∈ tx.addedPerms then noBits else tx.kernel.perms t := by
  have hadd : (tx.addTask.elim tx.kernel (·.rollbackAdd tx.kernel)).perms t =
      if t ∈ tx.addedPerms then noBits else tx.kernel.perms t := by
    unfold addedPerms
    cases tx.addTask with
    | none => simp
    | some task => exact task.rollbackAdd_perms tx.kernel t
  have hupdate : ∀ k : SpmKernel E, (tx.updateTask.elim k (·.rollbackUpdate k)).perms t =
      if t ∈ tx.updatedPerms then p t else k.perms t := by
    intro k
    unfold updatedPerms
    cases hu : tx.updateTask with
    | none => simp
    | some task => exact task.rollbackUpdate_perms k t (h.updatePerms task hu)
  have hremove : ∀ k : SpmKernel E, (tx.removeTask.elim k (rollbackRemove · k)).perms t =
      if t ∈ tx.restoredPerms then p t else k.perms t := by
    intro k
    unfold restoredPerms
    cases hr : tx.removeTask with
    | none => simp
    | some items => exact rollbackRemove_perms items k t (h.removePerms items hr)
  unfold rollbackInternal
  rw [hremove, hupdate, hadd]

/-! ## When a stage can be undone -/

variable (tx) in
/-- The staged removal holds the very entry the token has now. -/
def Recaptures (t : AccessTokenID) : Prop :=
  ∃ r, tx.removeTask = some r ∧ ∃ item ∈ r, item.tokenId = t ∧ item.spmEntryRemoved = true ∧
    item.oldSpmData = tx.kernel.entries t

variable (tx) in
/-- The add and the update bring the token back to no entry: the add wrote it, or the update read none. -/
def StartsAbsent (t : AccessTokenID) : Prop :=
  ∀ u, tx.updateTask = some u → ∀ item ∈ u.spmWritten, item.tokenId = t → item.oldSpmData = none

variable (tx) in
/-- A removal request reads an entry that its compensation will add again. -/
def Rereads (param : RemoveSpmDataParam) : Prop :=
  param.entryAnswer ≠ .failed ∧ param.loadAnswer.isOk = true ∧ (tx.kernel.entries param.tokenId).isSome = true
deriving Decidable

/-- **The steps the compensation can undo.**  An add writes permission bits only where there are none, unless an
earlier stage holds the old ones; an update does not touch an entry the add wrote; a removal does not touch an entry
the transaction created, and has read every other entry it removes. -/
def KeepsRollback (isKernelSupportSpm : Bool) (tx : KernelAndDBWriteTransaction E) : TransactionOp E → Prop
  | .stageKernelAdd params answer => tx.closed = false → tx.addTask = none →
    ∀ updateWithPerm items, buildItems params = some (updateWithPerm, items) →
      ∀ item ∈ stagedBits (addSpmEntriesToKernel answer) isKernelSupportSpm updateWithPerm items tx.kernel.entries,
        item.tokenId ∈ tx.restoredPerms ∨ item.tokenId ∈ tx.updatedPerms ∨ tx.kernel.perms item.tokenId = noBits
  | .stageKernelUpdate params answer => tx.closed = false → tx.updateTask = none → isKernelSupportSpm = true →
    ∀ updateWithPerm items, buildItems params = some (updateWithPerm, items) →
      updateGoesThrough isKernelSupportSpm updateWithPerm answer items tx.kernel.entries = true →
        ∀ item ∈ items, item.tokenId ∈ tx.addedEntries →
          tx.kernel.entries item.tokenId = none ∨ tx.Recaptures item.tokenId
  | .stageKernelRemove params => tx.closed = false → tx.removeTask = none → isKernelSupportSpm = true →
    params.length ≤ maxEntryNum → ∀ param ∈ params,
      if param.tokenId ∈ tx.addedEntries ∨ param.tokenId ∈ tx.updatedEntries then
        tx.Rereads param → ¬ tx.StartsAbsent param.tokenId
      else param.entryAnswer = .removed → (tx.kernel.entries param.tokenId).isSome = true →
        ∃ param' ∈ params, param'.tokenId = param.tokenId ∧ tx.Rereads param'
  | _ => True

/-- The callers' old permission lists are given, and grant the bits `p`. -/
def OldPermsGiven (p : KernelPerms) : TransactionOp E → Prop
  | .stageKernelUpdate params _ => ∀ param ∈ params,
    ∃ list, param.oldPermBriefDataList = some list ∧ grantedBits list = p param.tokenId
  | .stageKernelRemove params => ∀ param ∈ params,
    ∃ list, param.oldPermBriefDataList = some list ∧ grantedBits list = p param.tokenId
  | _ => True

/-! ### The add -/

def cleared (k : SpmKernel E) (bits : List AccessTokenID) : SpmKernel E :=
  ⟨k.entries, fun t => if t ∈ bits then noBits else k.perms t⟩

variable {k₀ k' k : SpmKernel E} (isKernelSupportSpm : Bool) (params : List RemoveSpmDataParam) {task : SpmDataTask E}
    {t : AccessTokenID} {answer : BatchAnswer}

theorem spmKernel_eq_iff : k = k' ↔ (∀ t, k.entries t = k'.entries t) ∧ ∀ t, k.perms t = k'.perms t := by
  refine ⟨fun h => by simp [h], fun ⟨he, hp⟩ => ?_⟩
  cases k
  cases k'
  exact congr (congrArg SpmKernel.mk (funext he)) (funext hp)

theorem rollbackAdd_staged (hmem : ∀ t ∈ task.spmWritten.map (·.tokenId), k.entries t = none)
    (hentries : ∀ t, t ∉ task.spmWritten.map (·.tokenId) → k'.entries t = k.entries t)
    (hperms : ∀ t, t ∉ task.permWritten.map (·.tokenId) → k'.perms t = k.perms t) :
    task.rollbackAdd k' = cleared k (task.permWritten.map (·.tokenId)) := by
  refine spmKernel_eq_iff.2 ⟨fun t => ?_, fun t => ?_⟩
  · rw [task.rollbackAdd_entries]
    split_ifs with ht
    · exact (hmem t ht).symm
    · exact hentries t ht
  · rw [task.rollbackAdd_perms]
    exact ite_congr rfl (fun _ => rfl) (hperms t)

/-- **Undoing an add, at once when it fails or later, gives the entries back and clears the bits it wrote.** -/
theorem addItems_undone (updateWithPerm : Bool) (answer : BatchAnswer) (items : List (SpmDataTaskItem E))
    (k : SpmKernel E) :
    (if (addItems isKernelSupportSpm updateWithPerm answer items k).1.isOk then
        (addItems isKernelSupportSpm updateWithPerm answer items k).2.1.rollbackAdd
          (addItems isKernelSupportSpm updateWithPerm answer items k).2.2
      else (addItems isKernelSupportSpm updateWithPerm answer items k).2.2) =
      cleared k ((stagedBits (addSpmEntriesToKernel answer) isKernelSupportSpm updateWithPerm items
        k.entries).map (·.tokenId)) := by
  have hstaged : Staged _ SpmDataTask.rollbackAdd items k (addItems isKernelSupportSpm updateWithPerm answer items k) :=
    stageItems_staged _ _ _ _ addSpmEntriesToKernel_reached
  have hbits : (addItems isKernelSupportSpm updateWithPerm answer items k).2.1.permWritten = _ :=
    stageItems_permWritten isKernelSupportSpm updateWithPerm items k
  obtain ⟨k', hk', hentries, hperms⟩ := hstaged.written
  rw [← hbits, ← rollbackAdd_staged hstaged.of_mem hentries hperms, hk']
  split <;> rfl

theorem Captured.congr {tx' : KernelAndDBWriteTransaction E} (h : tx.Captured p gU gR)
    (hu : tx'.updateTask = tx.updateTask) (hr : tx'.removeTask = tx.removeTask) : tx'.Captured p gU gR where
  updateEntries := by rw [hu]; exact h.updateEntries
  updatePerms := by rw [hu]; exact h.updatePerms
  removeEntries := by rw [hr]; exact h.removeEntries
  removePerms := by rw [hr]; exact h.removePerms

/-- Clearing bits under the staged tasks matters exactly where no task restores them. -/
theorem Captured.cleared_iff (h : tx.Captured k₀.perms gU gR) (hadd : tx.addTask = none)
    (hr : tx.rollbackInternal = k₀) (bits : List AccessTokenID) :
    { tx with kernel := cleared tx.kernel bits }.rollbackInternal = k₀ ↔
      ∀ t ∈ bits, t ∈ tx.restoredPerms ∨ t ∈ tx.updatedPerms ∨ tx.kernel.perms t = noBits := by
  have h' : Captured { tx with kernel := cleared tx.kernel bits } k₀.perms gU gR := h.congr rfl rfl
  have hentries : ∀ t, { tx with kernel := cleared tx.kernel bits }.rollbackInternal.entries t = k₀.entries t := by
    intro t
    rw [← hr, h.entries, h'.entries]
    rfl
  rw [spmKernel_eq_iff, and_iff_right hentries]
  refine forall_congr' fun t => ?_
  have hnow := h.perms t
  have hafter : _ = if t ∈ tx.restoredPerms then _ else if t ∈ tx.updatedPerms then _
    else if t ∈ tx.addedPerms then _ else if t ∈ bits then noBits else _ := h'.perms t
  have hnone : tx.addedPerms = [] := by rw [addedPerms, hadd]; rfl
  rw [hr, hnone, if_neg List.not_mem_nil] at hnow
  rw [hafter, hnone, if_neg List.not_mem_nil]
  by_cases hR : t ∈ tx.restoredPerms
  · simp [hR]
  by_cases hU : t ∈ tx.updatedPerms
  · simp [hU]
  -- no task restores the bits: what is cleared must have been clear
  rw [if_neg hR, if_neg hU] at hnow ⊢
  by_cases ht : t ∈ bits <;> simp [hR, hU, ht, hnow, eq_comm]

theorem stageKernelAdd_cases (hopen : tx.closed = false) (params : List (SpmDataParam E)) (answer : BatchAnswer) :
    ((tx.stageKernelAdd isKernelSupportSpm params answer).2 = tx ∧ (tx.addTask = none → buildItems params = none)) ∨
    ∃ updateWithPerm items r, tx.addTask = none ∧ buildItems params = some (updateWithPerm, items) ∧
      r = addItems isKernelSupportSpm updateWithPerm answer items tx.kernel ∧
      (tx.stageKernelAdd isKernelSupportSpm params answer).2 =
        if r.1.isOk then { tx with kernel := r.2.2, addTask := some r.2.1 } else { tx with kernel := r.2.2 } := by
  unfold stageKernelAdd
  rw [hopen, Bool.false_or]
  cases hadd : tx.addTask with
  | some task => exact .inl ⟨rfl, nofun⟩
  | none =>
    cases buildItems params with
    | none => exact .inl ⟨rfl, fun _ => rfl⟩
    | some built =>
      refine .inr ⟨built.1, built.2, _, rfl, rfl, rfl, ?_⟩
      cases hret : (addItems isKernelSupportSpm built.1 answer built.2 tx.kernel).1 <;> simp only [hret] <;> rfl

/-- **An add can be undone exactly when `KeepsRollback` admits it.** -/
theorem stageKernelAdd_iff (h : tx.Captured k₀.perms gU gR) (hopen : tx.closed = false)
    (hr : tx.rollbackInternal = k₀) {params : List (SpmDataParam E)} :
    (tx.stageKernelAdd isKernelSupportSpm params answer).2.rollbackInternal = k₀ ↔
      KeepsRollback isKernelSupportSpm tx (.stageKernelAdd params answer) := by
  rcases stageKernelAdd_cases isKernelSupportSpm hopen params answer with
    ⟨hsame, hnone⟩ | ⟨updateWithPerm, items, r, hadd, hbuild, rfl, hstaged⟩
  · rw [hsame]
    refine ⟨fun _ _ hadd b items hbuild => ?_, fun _ => hr⟩
    rw [hnone hadd] at hbuild
    cases hbuild
  have hundone := addItems_undone isKernelSupportSpm updateWithPerm answer items tx.kernel
  have hroll : (tx.stageKernelAdd isKernelSupportSpm params answer).2.rollbackInternal =
      { tx with kernel := cleared tx.kernel ((stagedBits (addSpmEntriesToKernel answer) isKernelSupportSpm
        updateWithPerm items tx.kernel.entries).map SpmDataTaskItem.tokenId) }.rollbackInternal := by
    rw [hstaged, ← hundone]
    split
    · rw [hadd]
      rfl
    · rfl
  rw [hroll, h.cleared_iff hadd hr, List.forall_mem_map]
  simp [KeepsRollback, hopen, hadd, hbuild]

/-! ### The update -/

theorem stageKernelUpdate_cases (hopen : tx.closed = false) (params : List (SpmDataParam E)) (answer : BatchAnswer) :
    ((tx.stageKernelUpdate isKernelSupportSpm params answer).2 = tx ∧
      (tx.updateTask = none → buildItems params = none)) ∨
    ∃ updateWithPerm items r, tx.updateTask = none ∧ buildItems params = some (updateWithPerm, items) ∧
      r = updateItems isKernelSupportSpm updateWithPerm answer items tx.kernel ∧
      (tx.stageKernelUpdate isKernelSupportSpm params answer).2 =
        if r.1.isOk then { tx with kernel := r.2.2, updateTask := some r.2.1 } else { tx with kernel := r.2.2 } := by
  unfold stageKernelUpdate
  rw [hopen, Bool.false_or]
  cases hupdate : tx.updateTask with
  | some task => exact .inl ⟨rfl, nofun⟩
  | none =>
    cases buildItems params with
    | none => exact .inl ⟨rfl, fun _ => rfl⟩
    | some built =>
      refine .inr ⟨built.1, built.2, _, rfl, rfl, rfl, ?_⟩
      cases hret : (updateItems isKernelSupportSpm built.1 answer built.2 tx.kernel).1 <;> simp only [hret] <;> rfl

/-- The update as it stands in the transaction: its task holds what the kernel had, and the callers' bits. -/
structure UpdateHolds (p : KernelPerms) (k k' : SpmKernel E) (task : SpmDataTask E) : Prop where
  old : ∀ item ∈ task.spmWritten, item.oldSpmData = k.entries item.tokenId
  oldPerms : ∀ item ∈ task.permWritten,
    ∃ list, item.oldPermBriefDataList = some list ∧ grantedBits list = p item.tokenId
  entries : ∀ t, t ∉ task.spmWritten.map (·.tokenId) → k'.entries t = k.entries t
  perms : ∀ t, t ∉ task.permWritten.map (·.tokenId) → k'.perms t = k.perms t

/-- A failed update has put everything back, save that the bits it wrote are the callers' ones. -/
theorem UpdateHolds.rollback (h : UpdateHolds p k k' task) : task.rollbackUpdate k' =
      ⟨k.entries, fun t => if t ∈ task.permWritten.map (·.tokenId) then p t else k.perms t⟩ := by
  refine spmKernel_eq_iff.2 ⟨fun t => ?_, fun t => ?_⟩
  · rw [task.rollbackUpdate_entries k' t h.old]
    split_ifs with ht
    · rfl
    · exact h.entries t ht
  · rw [task.rollbackUpdate_perms k' t h.oldPerms]
    exact ite_congr rfl (fun _ => rfl) (h.perms t)

theorem Captured.failed_update (h : tx.Captured k₀.perms gU gR) (hr : tx.rollbackInternal = k₀)
    {written : List AccessTokenID} :
    { tx with kernel := ⟨tx.kernel.entries, fun t => if t ∈ written then k₀.perms t else tx.kernel.perms t⟩ :
      KernelAndDBWriteTransaction E }.rollbackInternal = k₀ := by
  have h' : Captured { tx with kernel := ⟨tx.kernel.entries,
      fun t => if t ∈ written then k₀.perms t else tx.kernel.perms t⟩ } k₀.perms gU gR := h.congr rfl rfl
  refine spmKernel_eq_iff.2 ⟨fun t => (h'.entries t).trans ((h.entries t).symm.trans (by rw [hr])), fun t => ?_⟩
  have hnow := h.perms t
  have hafter : _ = if t ∈ tx.restoredPerms then _ else if t ∈ tx.updatedPerms then _
    else if t ∈ tx.addedPerms then _ else if t ∈ written then _ else _ := h'.perms t
  rw [hr] at hnow
  rw [hafter]
  by_cases ht : t ∈ written
  · rw [if_pos ht]
    split_ifs at hnow ⊢ <;> first | rfl | exact hnow.symm
  · rw [if_neg ht, ← hnow]

theorem mem_restoredEntries : t ∈ tx.restoredEntries ↔ ∃ r, tx.removeTask = some r ∧ ∃ item ∈ r, item.tokenId = t ∧
      item.spmEntryRemoved = true ∧ item.oldSpmData.isSome = true := by
  unfold restoredEntries
  cases tx.removeTask with
  | none => simp
  | some => simp [RemoveItem.restoresEntry, and_assoc, and_comm, and_left_comm]

theorem Captured.recaptures_iff (h : tx.Captured p gU gR) (hsome : (tx.kernel.entries t).isSome = true) :
    tx.Recaptures t ↔ (if t ∈ tx.restoredEntries then gR t else none) = tx.kernel.entries t := by
  -- the removal that holds an entry holds the one it read
  have hheld : ∀ r, tx.removeTask = some r → ∀ item ∈ r, item.oldSpmData.isSome = true →
      item.oldSpmData = gR item.tokenId := fun r hr item hi hs =>
    (h.removeEntries r hr item hi).resolve_left fun hnone => by rw [hnone] at hs; cases hs
  constructor
  · rintro ⟨r, hr, item, hi, rfl, hrem, hold⟩
    rw [← hold] at hsome
    rw [if_pos (mem_restoredEntries.2 ⟨r, hr, item, hi, rfl, hrem, hsome⟩), ← hold, hheld r hr item hi hsome]
  · intro heq
    split at heq
    · rename_i ht
      obtain ⟨r, hr, item, hi, rfl, hrem, hs⟩ := mem_restoredEntries.1 ht
      exact ⟨r, hr, item, hi, rfl, hrem, (hheld r hr item hi hs).trans heq⟩
    · rw [← heq] at hsome
      cases hsome

/-- With an update staged on `k`, the compensation differs from the one before only where the add wrote an entry that
is still there. -/
theorem Captured.update_iff (h : tx.Captured k₀.perms gU gR) (hu : tx.updateTask = none)
    (hr : tx.rollbackInternal = k₀) (hold : UpdateHolds k₀.perms tx.kernel k' task) :
    { tx with kernel := k', updateTask := some task }.rollbackInternal = k₀ ↔
      ∀ t ∈ task.spmWritten.map (·.tokenId), t ∈ tx.addedEntries → tx.kernel.entries t = none ∨ tx.Recaptures t := by
  have h' : Captured { tx with kernel := k', updateTask := some task } k₀.perms tx.kernel.entries gR :=
    ⟨fun u hu => by cases hu; exact hold.old, fun u hu => by cases hu; exact hold.oldPerms,
      h.removeEntries, h.removePerms⟩
  have hperms : ∀ t, { tx with kernel := k', updateTask := some task }.rollbackInternal.perms t = k₀.perms t := by
    intro t
    have hnow := h.perms t
    have hafter : _ = if t ∈ tx.restoredPerms then _ else if t ∈ task.permWritten.map (·.tokenId) then _
      else if t ∈ tx.addedPerms then _ else k'.perms t := h'.perms t
    rw [hr, updatedPerms, hu, Option.elim_none, if_neg List.not_mem_nil] at hnow
    rw [hafter]
    by_cases ht : t ∈ task.permWritten.map (·.tokenId)
    · rw [if_pos ht, ite_self]
    · rw [if_neg ht, hold.perms t ht, ← hnow]
  rw [spmKernel_eq_iff, and_iff_left hperms]
  refine forall_congr' fun t => ?_
  have hnow := h.entries t
  have hafter : _ = (if t ∈ task.spmWritten.map (·.tokenId) then tx.kernel.entries t
    else if t ∈ tx.addedEntries then none else k'.entries t).or (if t ∈ tx.restoredEntries then gR t else none) :=
    h'.entries t
  rw [hr, updatedEntries, hu, Option.elim_none, if_neg List.not_mem_nil] at hnow
  rw [hafter, hnow]
  by_cases ht : t ∈ task.spmWritten.map (·.tokenId)
  · rw [if_pos ht]
    by_cases hA : t ∈ tx.addedEntries
    · rw [if_pos hA, Option.none_or]
      -- the add alone left no entry, so the one the update read must be the removal's
      cases hk : tx.kernel.entries t with
      | none => simp
      | some => simp [ht, hA, h.recaptures_iff (t := t) (by rw [hk]; rfl), hk, eq_comm]
    · simp [hA]
  · simp [ht, hold.entries t ht]

theorem updateHolds_of_staged {params : List (SpmDataParam E)} {updateWithPerm : Bool}
    {items : List (SpmDataTaskItem E)} {r : Ret × SpmDataTask E × SpmKernel E}
    {isKernelSupportSpm : Bool} {answer : BatchAnswer} (hbuild : buildItems params = some (updateWithPerm, items))
    (hgiven : OldPermsGiven p (.stageKernelUpdate params answer))
    (hr : r = stageItems (setSpmEntriesToKernel answer) SpmDataTask.rollbackUpdate isKernelSupportSpm updateWithPerm
      (loadedItems isKernelSupportSpm items k.entries) k)
    (hitems : r.2.1.items = loadedItems isKernelSupportSpm items k.entries)
    (hentries : ∀ t, t ∉ r.2.1.spmWritten.map (·.tokenId) → k'.entries t = k.entries t)
    (hperms : ∀ t, t ∉ r.2.1.permWritten.map (·.tokenId) → k'.perms t = k.perms t) :
    UpdateHolds p k k' r.2.1 where
  old := by
    rw [hr]
    exact oldSpmData_of_loaded isKernelSupportSpm updateWithPerm answer items
  oldPerms := by
    intro item hi
    have hload : item ∈ loadedItems isKernelSupportSpm items k.entries := hitems ▸ List.mem_of_mem_take hi
    obtain ⟨item', hi', htok, hlist⟩ := loadedItems_mem isKernelSupportSpm items k.entries item hload
    obtain ⟨param, hparam, htok', hlist'⟩ := buildItems_mem hbuild item' hi'
    obtain ⟨list, hl, hbits⟩ := hgiven param hparam
    exact ⟨list, by rw [← hlist, ← hlist', hl], by rw [hbits, htok', htok]⟩
  entries := hentries
  perms := hperms

/-- **An update can be undone exactly when `KeepsRollback` admits it.** -/
theorem stageKernelUpdate_iff (h : tx.Captured k₀.perms gU gR) (hopen : tx.closed = false)
    (hr : tx.rollbackInternal = k₀) {params : List (SpmDataParam E)}
    (hgiven : OldPermsGiven k₀.perms (.stageKernelUpdate params answer)) :
    ((tx.stageKernelUpdate isKernelSupportSpm params answer).2.rollbackInternal = k₀ ↔
      KeepsRollback isKernelSupportSpm tx (.stageKernelUpdate params answer)) ∧
    ∃ gU', (tx.stageKernelUpdate isKernelSupportSpm params answer).2.Captured k₀.perms gU' gR := by
  rcases stageKernelUpdate_cases isKernelSupportSpm hopen params answer with
    ⟨hsame, hnone⟩ | ⟨updateWithPerm, items, r, hu, hbuild, hrdef, hstaged⟩
  · rw [hsame]
    refine ⟨⟨fun _ _ hu _ b items hbuild => ?_, fun _ => hr⟩, gU, h⟩
    rw [hnone hu] at hbuild
    cases hbuild
  have hkeeps : KeepsRollback isKernelSupportSpm tx (.stageKernelUpdate params answer) ↔ (isKernelSupportSpm = true →
      updateGoesThrough isKernelSupportSpm updateWithPerm answer items tx.kernel.entries = true →
      ∀ item ∈ items, item.tokenId ∈ tx.addedEntries →
        tx.kernel.entries item.tokenId = none ∨ tx.Recaptures item.tokenId) := by
    simp [KeepsRollback, hopen, hu, hbuild]
  rcases updateItems_cases isKernelSupportSpm updateWithPerm answer items tx.kernel with
    ⟨hfail, ⟨e, he⟩, hk⟩ | ⟨hstage, hok⟩
  · rw [hstaged, hrdef, he, hk, hkeeps, hfail]
    exact ⟨⟨fun _ _ hgo => absurd hgo Bool.false_ne_true, fun _ => hr⟩, gU, h⟩
  rw [← hrdef] at hstage hok
  have hst : Staged (fun _ => True) SpmDataTask.rollbackUpdate
      (loadedItems isKernelSupportSpm items tx.kernel.entries) tx.kernel r := by
    rw [hstage]
    exact stageItems_staged _ _ _ _ setSpmEntriesToKernel_reached
  obtain ⟨k', hk', hentries, hperms⟩ := hst.written
  have hholds := updateHolds_of_staged hbuild hgiven hstage hst.items_eq hentries hperms
  rw [hkeeps, ← hok, hstaged]
  cases hisOk : r.1.isOk with
  | false =>
    rw [hisOk, if_neg Bool.false_ne_true] at hk'
    rw [if_neg Bool.false_ne_true, hk', hholds.rollback]
    exact ⟨⟨fun _ _ hgo => absurd hgo Bool.false_ne_true, fun _ => h.failed_update hr⟩, gU, h.congr rfl rfl⟩
  | true =>
    rw [hisOk, if_pos rfl] at hk'
    rw [if_pos rfl, hk', h.update_iff hu hr hholds]
    refine ⟨?_, tx.kernel.entries, ⟨fun u hu => by cases hu; exact hholds.old,
      fun u hu => by cases hu; exact hholds.oldPerms, h.removeEntries, h.removePerms⟩⟩
    have htokens : r.2.1.spmWritten.map (·.tokenId) =
        if isKernelSupportSpm then items.map (·.tokenId) else [] := by
      rw [hstage] at hisOk ⊢
      rw [stageItems_spmWritten_of_isOk _ _ _ _ setSpmEntriesToKernel_complete hisOk, loadedItems_tokenId]
    rw [htokens]
    cases isKernelSupportSpm <;> simp

/-! ### The removal -/

theorem removeSpmData_entries (k : SpmKernel E) (t : AccessTokenID) : (removeSpmData true params k).2.entries t =
      if ∃ param ∈ params, param.tokenId = t ∧ param.entryAnswer = .removed then none else k.entries t := by
  have h := Lib.foldl_filter_const_apply RemoveSpmDataParam.tokenId (fun p => true && p.entryAnswer == .removed) none t
    params k.entries
  simp only [Bool.true_and, beq_iff_eq] at h
  exact h

theorem removeSpmData_entries_of_unsupported (k : SpmKernel E) :
    (removeSpmData false params k).2.entries = k.entries := by
  have hnone : params.filter (fun param => false && param.entryAnswer == .removed) = [] :=
    List.filter_eq_nil_iff.mpr (fun _ _ => by simp)
  unfold removeSpmData
  rw [hnone]
  rfl

theorem removeSpmData_perms (isSpmSupport : Bool) (params : List RemoveSpmDataParam) (k : SpmKernel E)
    (t : AccessTokenID) :
    (removeSpmData isSpmSupport params k).2.perms t =
      if ∃ param ∈ params, param.tokenId = t ∧ param.permAnswer.isOk = true then noBits else k.perms t :=
  Lib.foldl_filter_const_apply RemoveSpmDataParam.tokenId _ noBits t params k.perms

theorem Captured.startsAbsent_iff (h : tx.Captured p gU gR) :
    tx.StartsAbsent t ↔ (if t ∈ tx.updatedEntries then gU t else none) = none := by
  unfold StartsAbsent updatedEntries
  cases hu : tx.updateTask with
  | none => exact ⟨fun _ => if_neg List.not_mem_nil, fun _ u hu' => by cases hu'⟩
  | some u =>
    constructor
    · intro habs
      by_cases ht : t ∈ u.spmWritten.map (·.tokenId)
      · obtain ⟨item, hi, rfl⟩ := List.mem_map.mp ht
        exact (if_pos ht).trans ((h.updateEntries u hu item hi).symm.trans (habs u rfl item hi rfl))
      · exact if_neg ht
    · rintro heq u' hu' item hi rfl
      cases hu'
      rw [h.updateEntries u hu item hi]
      exact (if_pos (List.mem_map_of_mem hi)).symm.trans heq

def RemovesSafely (tx : KernelAndDBWriteTransaction E) (params : List RemoveSpmDataParam) (t : AccessTokenID) : Prop :=
  if t ∈ tx.addedEntries ∨ t ∈ tx.updatedEntries then
    (∃ param ∈ params, param.tokenId = t ∧ tx.Rereads param) → ¬ tx.StartsAbsent t
  else (∃ param ∈ params, param.tokenId = t ∧ param.entryAnswer = .removed) →
    (tx.kernel.entries t).isSome = true → ∃ param ∈ params, param.tokenId = t ∧ tx.Rereads param

variable (tx) in
/-- The transaction with the removal staged. -/
abbrev removed (isSpmSupport : Bool) (params : List RemoveSpmDataParam) : KernelAndDBWriteTransaction E :=
  { tx with
    kernel := (removeSpmData isSpmSupport params tx.kernel).2
    removeTask := some (params.map (removeItem isSpmSupport tx.kernel.entries)) }

theorem stageKernelRemove_cases (hopen : tx.closed = false) (params : List RemoveSpmDataParam) :
    ((tx.stageKernelRemove isKernelSupportSpm params).2 = tx ∧
      (tx.removeTask = none → params.length ≤ maxEntryNum → params = [])) ∨
    (tx.removeTask = none ∧ params.length ≤ maxEntryNum ∧
      (tx.stageKernelRemove isKernelSupportSpm params).2 = tx.removed isKernelSupportSpm params) := by
  unfold stageKernelRemove
  rw [hopen, Bool.false_or]
  cases hremove : tx.removeTask with
  | some task => exact .inl ⟨rfl, nofun⟩
  | none =>
    by_cases hempty : params.isEmpty = true
    · rw [if_pos hempty]
      exact .inl ⟨rfl, fun _ _ => List.isEmpty_iff.mp hempty⟩
    rw [if_neg hempty]
    by_cases hlen : maxEntryNum < params.length
    · rw [if_pos hlen]
      exact .inl ⟨rfl, fun _ hle => absurd hle (by omega)⟩
    · rw [if_neg hlen]
      exact .inr ⟨rfl, by omega, rfl⟩

theorem forall_removesSafely_iff : (∀ t, tx.RemovesSafely params t) ↔ ∀ param ∈ params,
      if param.tokenId ∈ tx.addedEntries ∨ param.tokenId ∈ tx.updatedEntries then
        tx.Rereads param → ¬ tx.StartsAbsent param.tokenId
      else param.entryAnswer = .removed → (tx.kernel.entries param.tokenId).isSome = true →
        ∃ param' ∈ params, param'.tokenId = param.tokenId ∧ tx.Rereads param' := by
  constructor
  · intro hall param hp
    have ht := hall param.tokenId
    unfold RemovesSafely at ht
    split_ifs at ht ⊢ <;> exact fun hd => ht ⟨param, hp, rfl, hd⟩
  · intro hall t
    unfold RemovesSafely
    split_ifs with hstaged <;> rintro ⟨param, hp, rfl, hd⟩ <;> have ht := hall param hp
    · rw [if_pos hstaged] at ht
      exact ht hd
    · rw [if_neg hstaged] at ht
      exact ht hd

section Removal

variable {params}

theorem mem_restoresEntry :
    t ∈ ((params.map (removeItem true tx.kernel.entries)).filter (·.restoresEntry)).map (·.tokenId) ↔
      ∃ param ∈ params, param.tokenId = t ∧ tx.Rereads param := by
  simp only [List.mem_map, List.mem_filter]
  constructor
  · rintro ⟨item, ⟨⟨param, hp, rfl⟩, hrest⟩, rfl⟩
    refine ⟨param, hp, rfl, ?_⟩
    simp only [RemoveItem.restoresEntry, removeItem, Bool.true_and, Bool.and_eq_true, bne_iff_ne] at hrest
    cases hl : param.loadAnswer.isOk with
    | false =>
      rw [hl] at hrest
      cases hrest.2
    | true =>
      rw [hl] at hrest
      exact ⟨hrest.1, hl, hrest.2⟩
  · rintro ⟨param, hp, rfl, hans, hload, hsome⟩
    refine ⟨_, ⟨⟨param, hp, rfl⟩, ?_⟩, rfl⟩
    simp only [RemoveItem.restoresEntry, removeItem, Bool.true_and, Bool.and_eq_true, bne_iff_ne, hload, ↓reduceIte]
    exact ⟨hans, hsome⟩

variable (h : tx.Captured k₀.perms gU gR) (hgiven : OldPermsGiven k₀.perms (.stageKernelRemove (E := E) params))
include h hgiven

theorem Captured.remove {isSpmSupport : Bool} :
    (tx.removed isSpmSupport params).Captured k₀.perms gU tx.kernel.entries where
  updateEntries := h.updateEntries
  updatePerms := h.updatePerms
  removeEntries := by
    intro r hr item hi
    cases hr
    obtain ⟨param, _, rfl⟩ := List.mem_map.mp hi
    unfold removeItem
    split
    · exact .inr rfl
    · exact .inl rfl
  removePerms := by
    intro r hr item hi
    cases hr
    obtain ⟨param, hp, rfl⟩ := List.mem_map.mp hi
    exact hgiven param hp

variable (hr : tx.rollbackInternal = k₀)
include hr

/-- A removal does not show in the bits: it restores what it cleared, and an empty list had nothing to restore. -/
theorem Captured.remove_perms (hnone : tx.removeTask = none) (isSpmSupport : Bool) (t : AccessTokenID) :
    (tx.removed isSpmSupport params).rollbackInternal.perms t = k₀.perms t := by
  have hbefore := h.perms t
  have hafter : _ = if t ∈ ((params.map (removeItem isSpmSupport tx.kernel.entries)).filter
    (·.restoresPerms)).map (·.tokenId) then _ else if t ∈ tx.updatedPerms then _ else if t ∈ tx.addedPerms then _
    else (removeSpmData isSpmSupport params tx.kernel).2.perms t := (h.remove hgiven).perms t
  rw [hr, restoredPerms, hnone, Option.elim_none, if_neg List.not_mem_nil] at hbefore
  rw [hafter]
  split_ifs with hR hU hA
  · rfl
  · rfl
  · rw [if_neg hU, if_pos hA] at hbefore
    exact hbefore.symm
  rw [if_neg hU, if_neg hA] at hbefore
  rw [removeSpmData_perms, ← hbefore]
  split_ifs with hrem
  · -- the bits were cleared but are not restored, so the list is empty and there were none
    obtain ⟨param, hp, rfl, hok⟩ := hrem
    obtain ⟨_ | ⟨d, l⟩, hl, hbits⟩ := hgiven param hp
    · exact hbits
    · refine absurd (List.mem_map.2 ⟨removeItem isSpmSupport tx.kernel.entries param,
        List.mem_filter.2 ⟨List.mem_map_of_mem hp, ?_⟩, rfl⟩) hR
      simp [RemoveItem.restoresPerms, removeItem, hok, hl]
  · rfl

theorem Captured.remove_entries_iff (hnone : tx.removeTask = none) :
    (tx.removed true params).rollbackInternal.entries t = k₀.entries t ↔ tx.RemovesSafely params t := by
  have hbefore := h.entries t
  have hempty : tx.restoredEntries = [] := by rw [restoredEntries, hnone]; rfl
  rw [hr, hempty, if_neg List.not_mem_nil, Option.or_none] at hbefore
  have hafter : (tx.removed true params).rollbackInternal.entries t = (if t ∈ tx.updatedEntries then gU t
    else if t ∈ tx.addedEntries then none
        else (removeSpmData true params tx.kernel).2.entries t).or
        (if ∃ param ∈ params, param.tokenId = t ∧ tx.Rereads param then tx.kernel.entries t else none) := by
    rw [(h.remove hgiven).entries]
    simp only [← mem_restoresEntry]
    rfl
  have hsome : (∃ param ∈ params, param.tokenId = t ∧ tx.Rereads param) → tx.kernel.entries t ≠ none := by
    rintro ⟨param, _, rfl, _, _, hs⟩
    exact Option.isSome_iff_ne_none.1 hs
  rw [hafter, removeSpmData_entries, hbefore]
  unfold RemovesSafely
  by_cases hstaged : t ∈ tx.addedEntries ∨ t ∈ tx.updatedEntries
  · -- the add and the update decide; the removal may only fill what they leave empty
    have hbase : ∀ e : Option E, (if t ∈ tx.updatedEntries then gU t else if t ∈ tx.addedEntries then none else e) =
        if t ∈ tx.updatedEntries then gU t else none := fun e =>
      ite_congr rfl (fun _ => rfl) fun hU => if_pos (hstaged.resolve_right hU)
    rw [if_pos hstaged, hbase, hbase, h.startsAbsent_iff]
    cases (if t ∈ tx.updatedEntries then gU t else none) with
    | some => simp
    | none =>
      by_cases hread : ∃ param ∈ params, param.tokenId = t ∧ tx.Rereads param
      · simp [hread, hsome hread]
      · simp [hread]
  · obtain ⟨hA, hU⟩ := not_or.1 hstaged
    rw [if_neg hstaged, if_neg hU, if_neg hA, if_neg hU, if_neg hA]
    by_cases hread : ∃ param ∈ params, param.tokenId = t ∧ tx.Rereads param
    · rw [if_pos hread]
      cases tx.kernel.entries t <;> split <;> simp [hread]
    · rw [if_neg hread, Option.or_none]
      by_cases hgone : ∃ param ∈ params, param.tokenId = t ∧ param.entryAnswer = .removed
      · cases tx.kernel.entries t <;> simp [hgone, hread]
      · simp [hgone]

/-- **A removal can be undone exactly when `KeepsRollback` admits it.** -/
theorem stageKernelRemove_iff (hopen : tx.closed = false) :
    ((tx.stageKernelRemove isKernelSupportSpm params).2.rollbackInternal = k₀ ↔
      KeepsRollback isKernelSupportSpm tx (.stageKernelRemove params)) ∧
    ∃ gR', (tx.stageKernelRemove isKernelSupportSpm params).2.Captured k₀.perms gU gR' := by
  rcases stageKernelRemove_cases isKernelSupportSpm hopen params with ⟨hsame, hnil⟩ | ⟨hnone, hlen, hstaged⟩
  · rw [hsame]
    refine ⟨⟨fun _ _ hnone _ hlen param hp => ?_, fun _ => hr⟩, gR, h⟩
    rw [hnil hnone hlen] at hp
    cases hp
  rw [hstaged]
  refine ⟨?_, tx.kernel.entries, h.remove hgiven⟩
  have hperms := h.remove_perms hgiven hr hnone isKernelSupportSpm
  cases isKernelSupportSpm with
  | true =>
    rw [spmKernel_eq_iff]
    constructor
    · rintro ⟨hentries, -⟩ _ _ _ _
      exact (forall_removesSafely_iff params).mp (fun t => (h.remove_entries_iff hgiven hr hnone).mp (hentries t))
    · intro hkeeps
      have hsafe := (forall_removesSafely_iff params).mpr (hkeeps hopen hnone rfl hlen)
      exact ⟨fun t => (h.remove_entries_iff hgiven hr hnone).mpr (hsafe t), hperms⟩
  | false =>
    refine ⟨fun _ _ _ hspm => (by cases hspm), fun _ => spmKernel_eq_iff.mpr ⟨fun t => ?_, hperms⟩⟩
    -- without SPM support the removal neither removes nor restores entries
    have hbefore := h.entries t
    have hempty : tx.restoredEntries = [] := by rw [restoredEntries, hnone]; rfl
    rw [hr, hempty, if_neg List.not_mem_nil] at hbefore
    have hfilter : (params.map (removeItem false tx.kernel.entries)).filter (·.restoresEntry) = [] := by
      rw [List.filter_eq_nil_iff]
      intro item hi
      obtain ⟨param, _, rfl⟩ := List.mem_map.mp hi
      simp [RemoveItem.restoresEntry, removeItem]
    rw [(h.remove hgiven).entries, hbefore]
    change (if t ∈ tx.updatedEntries then _ else if t ∈ tx.addedEntries then _
      else (removeSpmData false params tx.kernel).2.entries t).or
      (if t ∈ ((params.map (removeItem false tx.kernel.entries)).filter (·.restoresEntry)).map (·.tokenId) then _
        else _) = _
    rw [hfilter, List.map_nil, if_neg List.not_mem_nil, removeSpmData_entries_of_unsupported]

end Removal

/-! ## Runs of a transaction -/

/-- The transaction ends without an effective commit. -/
def NotCommitted (tx : KernelAndDBWriteTransaction E) : Prop := tx.committed = false ∨ tx.rolledBack = true

/-- Destroying the transaction, if it has not been committed, leaves the kernel as `k₀`. -/
def Restores (k₀ : SpmKernel E) (tx : KernelAndDBWriteTransaction E) : Prop := tx.NotCommitted → tx.destroy = k₀

theorem restores_iff_of_open (hopen : tx.closed = false) : Restores k₀ tx ↔ tx.rollbackInternal = k₀ := by
  have hflags := hopen
  unfold closed at hflags
  rw [Bool.or_eq_false_iff] at hflags
  unfold Restores destroy
  rw [hopen, if_neg Bool.false_ne_true]
  exact ⟨fun h => h (.inl hflags.1), fun h _ => h⟩

theorem closed_stage (hopen : tx.closed = false) :
    (∀ params answer, (tx.stageKernelAdd isKernelSupportSpm params answer).2.closed = false) ∧
    (∀ params answer, (tx.stageKernelUpdate isKernelSupportSpm params answer).2.closed = false) ∧
    ∀ params, (tx.stageKernelRemove isKernelSupportSpm params).2.closed = false := by
  refine ⟨fun params answer => ?_, fun params answer => ?_, fun params => ?_⟩
  · rcases stageKernelAdd_cases isKernelSupportSpm hopen params answer with ⟨h, -⟩ | ⟨_, _, _, -, -, -, h⟩
    · rw [h, hopen]
    · rw [h]
      split <;> exact hopen
  · rcases stageKernelUpdate_cases isKernelSupportSpm hopen params answer with ⟨h, -⟩ | ⟨_, _, _, -, -, -, h⟩
    · rw [h, hopen]
    · rw [h]
      split <;> exact hopen
  · rcases stageKernelRemove_cases isKernelSupportSpm hopen params with ⟨h, -⟩ | ⟨-, -, h⟩
    · rw [h, hopen]
    · rw [h]
      exact hopen

theorem step_of_closed (hclosed : tx.closed = true) (op : TransactionOp E) :
    (tx.step isKernelSupportSpm op = tx ∨ tx.step isKernelSupportSpm op = { tx with committed := true }) ∧
      KeepsRollback isKernelSupportSpm tx op := by
  have hnot : tx.closed ≠ false := by rw [hclosed]; decide
  cases op with
  | stageKernelAdd => exact ⟨.inl (by simp [step, stageKernelAdd, hclosed]), fun h => absurd h hnot⟩
  | stageKernelUpdate => exact ⟨.inl (by simp [step, stageKernelUpdate, hclosed]), fun h => absurd h hnot⟩
  | stageKernelRemove => exact ⟨.inl (by simp [step, stageKernelRemove, hclosed]), fun h => absurd h hnot⟩
  | commitDb => exact ⟨.inl (by simp [step, commitDb, hclosed]), trivial⟩
  | commit =>
    refine ⟨?_, trivial⟩
    simp only [step, commit]
    split
    · exact .inl rfl
    · exact .inr rfl
  | abort => exact ⟨.inl (by simp [step, abort, hclosed]), trivial⟩

/-- **A step keeps the kernel restorable exactly when `KeepsRollback` admits it.** -/
theorem step_restores_iff (h : tx.Captured k₀.perms gU gR) (hres : Restores k₀ tx) {op : TransactionOp E}
    (hgiven : OldPermsGiven k₀.perms op) :
    (Restores k₀ (tx.step isKernelSupportSpm op) ↔ KeepsRollback isKernelSupportSpm tx op) ∧
      ∃ gU' gR', (tx.step isKernelSupportSpm op).Captured k₀.perms gU' gR' := by
  cases hclosed : tx.closed with
  | true =>
    obtain ⟨hstep, hkeeps⟩ := step_of_closed isKernelSupportSpm hclosed op
    refine ⟨⟨fun _ => hkeeps, fun _ => ?_⟩, gU, gR, ?_⟩
    · rcases hstep with hstep | hstep
      · rw [hstep]
        exact hres
      rw [hstep]
      intro hnc
      have hrolled : tx.rolledBack = true := hnc.resolve_left (by simp)
      have hnow := hres (.inr hrolled)
      unfold destroy at hnow ⊢
      rw [hclosed, if_pos rfl] at hnow
      exact hnow
    · rcases hstep with hstep | hstep <;> rw [hstep]
      · exact h
      · exact h.congr rfl rfl
  | false =>
    have hr := (restores_iff_of_open hclosed).mp hres
    obtain ⟨haddc, hupdatec, hremovec⟩ := closed_stage isKernelSupportSpm hclosed
    cases op with
    | stageKernelAdd params answer =>
      refine ⟨(restores_iff_of_open (haddc params answer)).trans
        (stageKernelAdd_iff isKernelSupportSpm h hclosed hr), gU, gR, ?_⟩
      rcases stageKernelAdd_cases isKernelSupportSpm hclosed params answer with ⟨hs, -⟩ | ⟨_, _, _, -, -, -, hs⟩
      · exact h.congr (by simp only [step, hs]) (by simp only [step, hs])
      · refine h.congr ?_ ?_ <;> simp only [step, hs] <;> split <;> rfl
    | stageKernelUpdate params answer =>
      obtain ⟨hiff, gU', hcap⟩ := stageKernelUpdate_iff isKernelSupportSpm h hclosed hr hgiven
      exact ⟨(restores_iff_of_open (hupdatec params answer)).trans hiff, gU', gR, hcap⟩
    | stageKernelRemove params =>
      obtain ⟨hiff, gR', hcap⟩ := stageKernelRemove_iff isKernelSupportSpm h hgiven hr hclosed
      exact ⟨(restores_iff_of_open (hremovec params)).trans hiff, gU, gR', hcap⟩
    | commitDb dbOk =>
      have hsame : (tx.step isKernelSupportSpm (.commitDb dbOk)).rollbackInternal = tx.rollbackInternal ∧
          (tx.step isKernelSupportSpm (.commitDb dbOk)).closed = false ∧
          (tx.step isKernelSupportSpm (.commitDb dbOk)).Captured k₀.perms gU gR := by
        simp only [step, commitDb, hclosed, Bool.false_eq_true, ↓reduceIte]
        split
        · exact ⟨rfl, hclosed, h⟩
        · exact ⟨rfl, hclosed, h.congr rfl rfl⟩
      refine ⟨(restores_iff_of_open hsame.2.1).trans ⟨fun _ => trivial, fun _ => hsame.1.trans hr⟩, gU, gR, hsame.2.2⟩
    | commit =>
      refine ⟨⟨fun _ => trivial, fun _ => ?_⟩, gU, gR, ?_⟩
      · simp only [step, commit]
        split
        · exact hres
        rintro (hnc | hnc)
        · cases hnc
        · unfold closed at hclosed
          rw [hnc, Bool.or_true] at hclosed
          cases hclosed
      · simp only [step, commit]
        split
        · exact h
        · exact h.congr rfl rfl
    | abort =>
      have habort : tx.step isKernelSupportSpm .abort =
          { tx with kernel := tx.rollbackInternal, rolledBack := true } := by
        simp only [step, abort, hclosed, Bool.false_eq_true, ↓reduceIte]
      rw [habort]
      refine ⟨⟨fun _ => trivial, fun _ _ => ?_⟩, gU, gR, h.congr rfl rfl⟩
      unfold destroy closed
      rw [Bool.or_true, if_pos rfl]
      exact hr

/-- **A transaction that ends uncommitted gives both kernel maps back, wherever it ends, exactly when each of its
stages can be undone in the fixed order add, update, remove.** -/
theorem rollback_restores_kernel_iff (isKernelSupportSpm : Bool) (k₀ : SpmKernel E) (ops : List (TransactionOp E))
    (hgiven : ∀ op ∈ ops, OldPermsGiven k₀.perms op) :
    (∀ ops', ops' <+: ops → (ops'.foldl (step isKernelSupportSpm) (new k₀)).NotCommitted →
        (ops'.foldl (step isKernelSupportSpm) (new k₀)).destroy = k₀) ↔
      Lib.AllMeet (step isKernelSupportSpm) (KeepsRollback isKernelSupportSpm) (new k₀) ops := by
  have hnew : (new k₀).Captured k₀.perms (fun _ => none) (fun _ => none) :=
    ⟨fun _ h => (by cases h), fun _ h => (by cases h), fun _ h => (by cases h), fun _ h => (by cases h)⟩
  have hstep : ∀ (tx : KernelAndDBWriteTransaction E) op, (∃ gU gR, tx.Captured k₀.perms gU gR) → Restores k₀ tx →
      OldPermsGiven k₀.perms op →
        (Restores k₀ (tx.step isKernelSupportSpm op) ↔ KeepsRollback isKernelSupportSpm tx op) ∧
          ∃ gU gR, (tx.step isKernelSupportSpm op).Captured k₀.perms gU gR := by
    rintro tx op ⟨gU, gR, h⟩ hres hop
    exact step_restores_iff isKernelSupportSpm h hres hop
  exact Lib.forall_prefix_iff_allMeet (fun tx op hj hres hop => (hstep tx op hj hres hop).2)
    (fun tx op hj hres hop => (hstep tx op hj hres hop).1) ops (new k₀) ⟨_, _, hnew⟩ (fun _ => rfl) hgiven

def sampleKernel : SpmKernel Nat :=
  ⟨fun t => if t = 7 then some 1 else none, fun t code => t == 7 && code == 3⟩

def sampleUpdate : TransactionOp Nat :=
  .stageKernelUpdate [⟨7, some 2, [], some [⟨0, 0, 3, 0⟩], true, .ok (), .ok ()⟩] .fine

theorem rollback_restores_kernel_updated :
    (∀ op ∈ [sampleUpdate, .commitDb false, .commit], OldPermsGiven sampleKernel.perms op) ∧
    ∀ ops', ops' <+: [sampleUpdate, .commitDb false, .commit] →
      (ops'.foldl (step true) (new sampleKernel)).NotCommitted →
        (ops'.foldl (step true) (new sampleKernel)).destroy = sampleKernel := by
  have hgiven : ∀ op ∈ [sampleUpdate, .commitDb false, .commit], OldPermsGiven sampleKernel.perms op := by
    intro op hop
    simp only [List.mem_cons, List.not_mem_nil, or_false] at hop
    rcases hop with rfl | rfl | rfl
    · intro param hp
      rw [List.mem_singleton.mp hp]
      refine ⟨_, rfl, ?_⟩
      funext code
      simp [grantedBits, grantedOpCodeList, sampleKernel, permissionGranted, beq_eq_decide]
    · trivial
    · trivial
  refine ⟨hgiven, (rollback_restores_kernel_iff true sampleKernel _ hgiven).mpr ⟨?_, trivial, trivial, trivial⟩⟩
  intro _ _ _ _ _ _ _ item _ hadded
  cases hadded

/-- **A token added and removed by one transaction keeps its new entry after the rollback.** -/
theorem added_then_removed_survives_rollback :
    ∃ (k₀ : SpmKernel Nat) (ops : List (TransactionOp Nat)), (∀ op ∈ ops, OldPermsGiven k₀.perms op) ∧
      (ops.foldl (step true) (new k₀)).NotCommitted ∧ k₀.entries 7 = none ∧
        (ops.foldl (step true) (new k₀)).destroy.entries 7 = some 2 := by
  refine ⟨⟨fun _ => none, .empty⟩, [.stageKernelAdd [⟨7, some 2, [], none, true, .ok (), .ok ()⟩] .fine,
    .stageKernelRemove [⟨7, some [], .ok (), .ok (), .removed⟩], .commitDb false], ?_, .inl (by decide), rfl,
    by decide⟩
  intro op hop
  simp only [List.mem_cons, List.not_mem_nil, or_false] at hop
  rcases hop with rfl | rfl | rfl
  · trivial
  · intro param hp
    rw [List.mem_singleton.mp hp]
    exact ⟨[], rfl, rfl⟩
  · trivial

end KernelAndDBWriteTransaction

end AccessToken.Kernel
