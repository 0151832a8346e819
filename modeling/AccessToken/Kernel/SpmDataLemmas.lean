import AccessToken.Kernel.SpmData
/-!
# What the batch requests and the compensations leave

Each batch is described by the front part of its list that it reached (`Reached`), each compensation by what it puts
back at a token.  The values a compensation restores were read from the kernel in one go, so they are a function of the
token: the order of a list and its repetitions do not show.
-/
namespace AccessToken.Kernel

open Function

variable {E : Type} {answer : BatchAnswer}

/-! ## The batch requests -/

/-- A batch from `m` reached its first `n` entries and left `m'`; `P` held of what their tokens had before. -/
structure Reached (P : Option E → Prop) (entries : List (AccessTokenID × E)) (m : SpmEntries E) (n : Nat)
    (m' : SpmEntries E) : Prop where
  of_mem : ∀ t ∈ (entries.take n).map Prod.fst, P (m t)
  of_not_mem : ∀ t, t ∉ (entries.take n).map Prod.fst → m' t = m t

namespace Reached

variable {P : Option E → Prop} {entries : List (AccessTokenID × E)} {m m₁ m' : SpmEntries E} {n n' : Nat}

theorem zero : Reached P entries m 0 m := ⟨fun t h => by simp at h, fun _ _ => rfl⟩

theorem trans (h : Reached P entries m n m₁) (h' : Reached P (entries.drop n) m₁ n' m') :
    Reached P entries m (n + n') m' := by
  constructor
  · intro t ht
    rw [List.take_add, List.map_append, List.mem_append] at ht
    by_cases h₁ : t ∈ (entries.take n).map Prod.fst
    · exact h.of_mem t h₁
    · rw [← h.of_not_mem t h₁]
      exact h'.of_mem t (ht.resolve_left h₁)
  · intro t ht
    rw [List.take_add, List.map_append, List.mem_append, not_or] at ht
    rw [h'.of_not_mem t ht.2, h.of_not_mem t ht.1]

theorem cons {t : AccessTokenID} {e : E} (ht : P (m t))
    (h : Reached P entries (update m t (some e)) n m') : Reached P ((t, e) :: entries) m (n + 1) m' := by
  constructor
  · intro t' ht'
    rw [List.take_succ_cons, List.map_cons, List.mem_cons] at ht'
    by_cases heq : t' = t
    · rw [heq]
      exact ht
    · have hrest := h.of_mem t' (ht'.resolve_left heq)
      rwa [update_of_ne heq] at hrest
  · intro t' ht'
    rw [List.take_succ_cons, List.map_cons, List.mem_cons, not_or] at ht'
    rw [h.of_not_mem t' ht'.2, update_of_ne ht'.1]

end Reached

theorem spmAddEntries_reached : ∀ (entries : List (AccessTokenID × E)) (failAt : Option Nat) (m : SpmEntries E),
    Reached (· = none) entries m (spmAddEntries entries failAt m).2.1 (spmAddEntries entries failAt m).2.2
  | [], _, _ => .zero
  | (t, e) :: rest, failAt, m => by
    unfold spmAddEntries
    split
    · exact .zero
    · split
      · exact .zero
      · rename_i hfree
        exact .cons (by simpa using hfree) (spmAddEntries_reached rest _ _)

theorem spmSetEntries_reached : ∀ (entries : List (AccessTokenID × E)) (failAt : Option Nat) (m : SpmEntries E),
    Reached (fun _ => True) entries m (spmSetEntries entries failAt m).2.1 (spmSetEntries entries failAt m).2.2
  | [], _, _ => .zero
  | (t, e) :: rest, failAt, m => by
    unfold spmSetEntries
    split
    · exact .zero
    · exact .cons trivial (spmSetEntries_reached rest _ _)

theorem spmSetEntries_complete : ∀ (entries : List (AccessTokenID × E)) (failAt : Option Nat) (m : SpmEntries E),
    (spmSetEntries entries failAt m).1 = .success → entries.take (spmSetEntries entries failAt m).2.1 = entries
  | [], _, _, _ => List.take_nil
  | (t, e) :: rest, failAt, m, h => by
    unfold spmSetEntries at h ⊢
    by_cases hfail : failAt = some 0
    · rw [if_pos hfail] at h
      cases h
    · rw [if_neg hfail] at h ⊢
      rw [List.take_succ_cons, spmSetEntries_complete rest _ _ h]

section Retry

variable {send : List (AccessTokenID × E) → Option Nat → SpmEntries E → BatchRet × Nat × SpmEntries E}
  {P : Option E → Prop} {answer : BatchAnswer} {entries : List (AccessTokenID × E)} {m : SpmEntries E}

theorem withRetry_reached
    (hsend : ∀ entries failAt m, Reached P entries m (send entries failAt m).2.1 (send entries failAt m).2.2) :
    Reached P entries m (withRetry send answer entries m).2.1 (withRetry send answer entries m).2.2 := by
  have hfirst := hsend entries answer.failAt m
  simp only [withRetry]
  cases (send entries answer.failAt m).1 with
  | success => exact hfirst
  | exist => exact hfirst
  | failed =>
    by_cases hsup : answer.unsupported
    · simpa only [hsup, ↓reduceIte] using hfirst
    · simp only [hsup]
      have hboth := hfirst.trans (hsend _ answer.retryFailAt _)
      cases (send (entries.drop (send entries answer.failAt m).2.1) answer.retryFailAt
        (send entries answer.failAt m).2.2).1 <;> exact hboth

theorem withRetry_complete (hsend : ∀ entries failAt m, (send entries failAt m).1 = .success →
      entries.take (send entries failAt m).2.1 = entries)
    (hok : (withRetry send answer entries m).1 = .ok ()) :
    entries.take (withRetry send answer entries m).2.1 = entries := by
  simp only [withRetry] at hok ⊢
  cases hfirst : (send entries answer.failAt m).1 with
  | success => exact hsend _ _ _ hfirst
  | exist => simp only [hfirst] at hok; cases hok
  | failed =>
    by_cases hsup : answer.unsupported
    · simp only [hfirst, hsup, ↓reduceIte] at hok
      cases hok
    simp only [hfirst, hsup] at hok ⊢
    cases hretry : (send (entries.drop (send entries answer.failAt m).2.1) answer.retryFailAt
      (send entries answer.failAt m).2.2).1 with
    | success =>
      have hrest := hsend _ _ _ hretry
      simp only [Bool.false_eq_true, ↓reduceIte]
      rw [List.take_add, hrest, List.take_append_drop]
    | exist => simp only [hretry] at hok; cases hok
    | failed => simp only [hretry] at hok; cases hok

end Retry

section

variable (entries : List (AccessTokenID × E))
include entries

theorem addSpmEntriesToKernel_reached (m : SpmEntries E) :
    Reached (· = none) entries m (addSpmEntriesToKernel answer entries m).2.1
      (addSpmEntriesToKernel answer entries m).2.2 := withRetry_reached spmAddEntries_reached

theorem setSpmEntriesToKernel_reached (m : SpmEntries E) :
    Reached (fun _ => True) entries m (setSpmEntriesToKernel answer entries m).2.1
      (setSpmEntriesToKernel answer entries m).2.2 := withRetry_reached spmSetEntries_reached

theorem setSpmEntriesToKernel_complete (m : SpmEntries E) (hok : (setSpmEntriesToKernel answer entries m).1 = .ok ()) :
    entries.take (setSpmEntriesToKernel answer entries m).2.1 = entries :=
  withRetry_complete spmSetEntries_complete hok

end

/-! ## Compensations that succeed -/

theorem spmSetEntries_none : ∀ (entries : List (AccessTokenID × E)) (m : SpmEntries E),
    (spmSetEntries entries none m).1 = .success ∧
      (spmSetEntries entries none m).2.2 = entries.foldl (fun (m : SpmEntries E) x => update m x.1 (some x.2)) m
  | [], _ => ⟨rfl, rfl⟩
  | (_, _) :: rest, _ => spmSetEntries_none rest _

theorem setSpmEntriesToKernel_fine (entries : List (AccessTokenID × E)) (m : SpmEntries E) :
    (setSpmEntriesToKernel .fine entries m).2.2 =
      entries.foldl (fun (m : SpmEntries E) x => update m x.1 (some x.2)) m := by
  obtain ⟨hret, hmap⟩ := spmSetEntries_none entries m
  rw [← hmap]
  simp only [setSpmEntriesToKernel, withRetry, BatchAnswer.fine, hret]

theorem spmAddEntries_none : ∀ (entries : List (AccessTokenID × E)) (m : SpmEntries E),
    ((spmAddEntries entries none m).1 = .success ∧
      (spmAddEntries entries none m).2.2 = entries.foldl (fun m x => Lib.fill m x.1 x.2) m) ∨
    ((spmAddEntries entries none m).1 = .exist ∧
      (entries.drop ((spmAddEntries entries none m).2.1 + 1)).foldl (fun m x => Lib.fill m x.1 x.2)
        (spmAddEntries entries none m).2.2 = entries.foldl (fun m x => Lib.fill m x.1 x.2) m)
  | [], _ => .inl ⟨rfl, rfl⟩
  | (t, e) :: rest, m => by
    unfold spmAddEntries
    by_cases ht : (m t).isSome
    · rw [if_pos ht]
      refine .inr ⟨rfl, ?_⟩
      have hfill : Lib.fill m t e = m := if_pos ht
      rw [List.foldl_cons, hfill]
      rfl
    · rw [if_neg ht]
      have hfill : Lib.fill m t e = update m t (some e) := if_neg ht
      rw [List.foldl_cons, hfill]
      exact spmAddEntries_none rest _

theorem restoreSpmEntriesLoop_eq : ∀ (n : Nat) (entries : List (AccessTokenID × E)) (m : SpmEntries E),
    entries.length ≤ n → restoreSpmEntriesLoop n entries m = entries.foldl (fun m x => Lib.fill m x.1 x.2) m
  | 0, entries, m, h => by
    rw [List.length_eq_zero_iff.mp (Nat.le_zero.mp h)]
    rfl
  | n + 1, entries, m, h => by
    rcases spmAddEntries_none entries m with ⟨hret, hmap⟩ | ⟨hret, hrest⟩
    · simp only [restoreSpmEntriesLoop, addSpmEntriesToKernel, withRetry, BatchAnswer.fine, hret]
      exact hmap
    · simp only [restoreSpmEntriesLoop, addSpmEntriesToKernel, withRetry, BatchAnswer.fine, hret]
      rw [restoreSpmEntriesLoop_eq n _ _ (by rw [List.length_drop]; omega), hrest]

theorem restoreSpmEntries_eq (entries : List (AccessTokenID × E)) (m : SpmEntries E) :
    restoreSpmEntries entries m = entries.foldl (fun m x => Lib.fill m x.1 x.2) m :=
  restoreSpmEntriesLoop_eq _ _ _ (Nat.le_refl _)

/-! ## What a compensation puts back at a token -/

abbrev noBits : Nat → Bool := fun _ => false

def grantedBits (list : List BriefPermData) : Nat → Bool := fun code => (grantedOpCodeList list).contains code

theorem addHapPermToKernel_eq (tokenId : AccessTokenID) (list : List BriefPermData) (k : KernelPerms) :
    addHapPermToKernel tokenId list k = update k tokenId (grantedBits list) := rfl

/-! ## What the stages leave -/

/-- The items whose permission bits the loop writes: it stops at the first write that fails. -/
def bitsWritten (items : List (SpmDataTaskItem E)) : List (SpmDataTaskItem E) := items.takeWhile (·.permAnswer.isOk)

theorem writePermData_take : ∀ (items : List (SpmDataTaskItem E)) (b : KernelPerms),
    items.take (writePermData items b).2.1 = bitsWritten items
  | [], _ => rfl
  | item :: rest, b => by
    unfold writePermData bitsWritten
    cases h : item.permAnswer with
    | error => simp [h, Except.isOk, Except.toBool]
    | ok =>
      have hrest := writePermData_take rest (addHapPermToKernel item.tokenId item.permBriefDataList b)
      simp only [h, Except.isOk, Except.toBool, List.takeWhile_cons, ↓reduceIte, List.take_succ_cons]
      rw [hrest]
      rfl

theorem writePermData_of_not_mem : ∀ (items : List (SpmDataTaskItem E)) (b : KernelPerms) (t : AccessTokenID),
    t ∉ (items.take (writePermData items b).2.1).map (·.tokenId) → (writePermData items b).2.2 t = b t
  | [], _, _, _ => rfl
  | item :: rest, b, t, ht => by
    unfold writePermData at ht ⊢
    cases h : item.permAnswer with
    | error => rfl
    | ok _ =>
      simp only [h, List.take_succ_cons, List.map_cons, List.mem_cons, not_or] at ht
      have hrest := writePermData_of_not_mem rest _ t ht.2
      refine hrest.trans ?_
      rw [addHapPermToKernel_eq, update_of_ne ht.1]

theorem writePermData_ok : ∀ (items : List (SpmDataTaskItem E)) (b : KernelPerms),
    (writePermData items b).1.isOk = items.all (·.permAnswer.isOk)
  | [], _ => rfl
  | item :: rest, b => by
    unfold writePermData
    rw [List.all_cons]
    cases h : item.permAnswer with
    | error => rfl
    | ok _ => exact writePermData_ok rest _

theorem newEntries_take (items : List (SpmDataTaskItem E)) (n : Nat) :
    ((newEntries items).take n).map Prod.fst = (items.take n).map (·.tokenId) := by
  unfold newEntries
  rw [← List.map_take, List.map_map]
  rfl

def entriesGoThrough (write : List (AccessTokenID × E) → SpmEntries E → Ret × Nat × SpmEntries E)
    (isKernelSupportSpm : Bool) (items : List (SpmDataTaskItem E)) (m : SpmEntries E) : Bool :=
  !isKernelSupportSpm || (write (newEntries items) m).1.isOk

/-- The items whose permission bits a stage writes, be it that it fails later. -/
def stagedBits (write : List (AccessTokenID × E) → SpmEntries E → Ret × Nat × SpmEntries E)
    (isKernelSupportSpm updateWithPerm : Bool) (items : List (SpmDataTaskItem E)) (m : SpmEntries E) :
    List (SpmDataTaskItem E) :=
  if updateWithPerm && entriesGoThrough write isKernelSupportSpm items m then bitsWritten items else []

/-- What a stage of `items` on the kernel `k` did: it wrote up to its two counters, and undid that if it failed. -/
structure Staged (P : Option E → Prop) (rollback : SpmDataTask E → SpmKernel E → SpmKernel E)
    (items : List (SpmDataTaskItem E)) (k : SpmKernel E) (r : Ret × SpmDataTask E × SpmKernel E) : Prop where
  items_eq : r.2.1.items = items
  of_mem : ∀ t ∈ r.2.1.spmWritten.map (·.tokenId), P (k.entries t)
  written : ∃ k' : SpmKernel E, r.2.2 = (if r.1.isOk then k' else rollback r.2.1 k') ∧
    (∀ t, t ∉ r.2.1.spmWritten.map (·.tokenId) → k'.entries t = k.entries t) ∧
    ∀ t, t ∉ r.2.1.permWritten.map (·.tokenId) → k'.perms t = k.perms t

section Stage

variable {P : Option E → Prop} {rollback : SpmDataTask E → SpmKernel E → SpmKernel E}
  {write : List (AccessTokenID × E) → SpmEntries E → Ret × Nat × SpmEntries E}
  (isKernelSupportSpm updateWithPerm : Bool) (items : List (SpmDataTaskItem E)) (k : SpmKernel E)

def writtenEntries (write : List (AccessTokenID × E) → SpmEntries E → Ret × Nat × SpmEntries E) :
    Ret × Nat × SpmEntries E :=
  if isKernelSupportSpm then write (newEntries items) k.entries else (.ok (), 0, k.entries)

theorem writtenEntries_reached (hwrite : ∀ entries m, Reached P entries m (write entries m).2.1 (write entries m).2.2) :
    Reached P (newEntries items) k.entries (writtenEntries isKernelSupportSpm items k write).2.1
      (writtenEntries isKernelSupportSpm items k write).2.2 := by
  unfold writtenEntries
  split
  · exact hwrite _ _
  · exact .zero

theorem writtenEntries_isOk : (writtenEntries isKernelSupportSpm items k write).1.isOk =
    entriesGoThrough write isKernelSupportSpm items k.entries := by
  cases isKernelSupportSpm <;> rfl

/-- What a stage does of the loop over the permission bits. -/
def writtenBits (write : List (AccessTokenID × E) → SpmEntries E → Ret × Nat × SpmEntries E) :
    Ret × Nat × KernelPerms :=
  if updateWithPerm && entriesGoThrough write isKernelSupportSpm items k.entries then writePermData items k.perms
  else (.ok (), 0, k.perms)

variable (write rollback) in
theorem stageItems_eq : stageItems write rollback isKernelSupportSpm updateWithPerm items k =
    let w := writtenEntries isKernelSupportSpm items k write
    let b := writtenBits isKernelSupportSpm updateWithPerm items k write
    let task : SpmDataTask E := ⟨items, w.2.1, b.2.1⟩
    let ret : Ret := w.1.bind fun _ => b.1
    (ret, task, if ret.isOk then ⟨w.2.2, b.2.2⟩ else rollback task ⟨w.2.2, b.2.2⟩) := by
  unfold stageItems writtenBits
  rw [← writtenEntries, ← writtenEntries_isOk]
  cases hw : (writtenEntries isKernelSupportSpm items k write).1 with
  | error => simp [hw, Except.bind, Except.isOk, Except.toBool]
  | ok =>
    cases updateWithPerm with
    | false => simp [hw, Except.bind, Except.isOk, Except.toBool]
    | true => cases hb : (writePermData items k.perms).1 <;> simp [hw, hb, Except.bind, Except.isOk, Except.toBool]

theorem stageItems_staged (hwrite : ∀ entries m, Reached P entries m (write entries m).2.1 (write entries m).2.2) :
    Staged P rollback items k (stageItems write rollback isKernelSupportSpm updateWithPerm items k) := by
  have hreached := writtenEntries_reached isKernelSupportSpm items k hwrite
  rw [stageItems_eq]
  refine ⟨rfl, fun t ht => hreached.of_mem t (by rwa [newEntries_take]), ⟨_, _⟩, rfl,
    fun t ht => hreached.of_not_mem t (by rwa [newEntries_take]), fun t => ?_⟩
  show t ∉ (items.take (writtenBits isKernelSupportSpm updateWithPerm items k write).2.1).map (·.tokenId) → _ = _
  unfold writtenBits
  split
  · exact writePermData_of_not_mem items k.perms t
  · exact fun _ => rfl

theorem stageItems_permWritten : (stageItems write rollback isKernelSupportSpm updateWithPerm items k).2.1.permWritten =
    stagedBits write isKernelSupportSpm updateWithPerm items k.entries := by
  rw [stageItems_eq]
  unfold stagedBits SpmDataTask.permWritten writtenBits
  split
  · exact writePermData_take items k.perms
  · rfl

variable (rollback write) in
theorem stageItems_isOk : (stageItems write rollback isKernelSupportSpm updateWithPerm items k).1.isOk =
    (entriesGoThrough write isKernelSupportSpm items k.entries &&
      (!updateWithPerm || items.all (·.permAnswer.isOk))) := by
  rw [stageItems_eq, ← writtenEntries_isOk, writtenBits, ← writtenEntries_isOk, ← writePermData_ok items k.perms]
  dsimp only
  cases (writtenEntries isKernelSupportSpm items k write).1 <;> cases updateWithPerm <;> rfl

theorem stageItems_spmWritten : (stageItems write rollback isKernelSupportSpm updateWithPerm items k).2.1.spmWritten =
      items.take (writtenEntries isKernelSupportSpm items k write).2.1 := by
  rw [stageItems_eq]
  rfl

/-- The entries of a stage that goes through are all written, where the kernel has them. -/
theorem stageItems_spmWritten_of_isOk
    (hwrite : ∀ entries m, (write entries m).1 = .ok () → entries.take (write entries m).2.1 = entries)
    (hok : (stageItems write rollback isKernelSupportSpm updateWithPerm items k).1.isOk = true) :
    (stageItems write rollback isKernelSupportSpm updateWithPerm items k).2.1.spmWritten.map (·.tokenId) =
      if isKernelSupportSpm then items.map (·.tokenId) else [] := by
  rw [stageItems_isOk, Bool.and_eq_true, ← writtenEntries_isOk] at hok
  rw [stageItems_spmWritten, ← newEntries_take]
  unfold writtenEntries at hok ⊢
  cases isKernelSupportSpm with
  | false => rfl
  | true =>
    have hret : (write (newEntries items) k.entries).1 = .ok () := by
      cases hr : (write (newEntries items) k.entries).1 with
      | ok => rfl
      | error =>
        rw [if_pos rfl, hr] at hok
        exact absurd hok.1 (by simp [Except.isOk, Except.toBool])
    rw [if_pos rfl, if_pos rfl, hwrite _ _ hret, newEntries, List.map_map]
    rfl

end Stage

/-! ## The items of a request -/

theorem mem_of_mapM_eq_some {α β : Type} {f : α → Option β} : ∀ {l : List α} {l' : List β}, l.mapM f = some l' →
    ∀ b ∈ l', ∃ a ∈ l, f a = some b
  | [], l', h, b, hb => by
    cases h
    cases hb
  | a :: l, l', h, b, hb => by
    rw [List.mapM_cons] at h
    obtain ⟨b', hb', h⟩ := Option.bind_eq_some_iff.mp h
    obtain ⟨l'', hl'', h⟩ := Option.bind_eq_some_iff.mp h
    cases h
    rcases List.mem_cons.mp hb with rfl | hb
    · exact ⟨a, List.mem_cons_self .., hb'⟩
    · obtain ⟨a', ha', hf⟩ := mem_of_mapM_eq_some hl'' b hb
      exact ⟨a', List.mem_cons_of_mem _ ha', hf⟩

/-- The items of a built task carry the tokens and the old permission lists of the request. -/
theorem buildItems_mem {params : List (SpmDataParam E)} {updateWithPerm : Bool} {items : List (SpmDataTaskItem E)}
    (h : buildItems params = some (updateWithPerm, items)) :
    ∀ item ∈ items, ∃ param ∈ params, param.tokenId = item.tokenId ∧
      param.oldPermBriefDataList = item.oldPermBriefDataList := by
  intro item hi
  cases params with
  | nil => cases h
  | cons =>
    simp only [buildItems] at h
    split at h
    · cases h
    obtain ⟨items', hmap, heq⟩ := Option.map_eq_some_iff.mp h
    cases heq
    obtain ⟨param', hp, hitem⟩ := mem_of_mapM_eq_some hmap item hi
    refine ⟨param', hp, ?_⟩
    unfold SpmDataParam.taskItem at hitem
    split at hitem
    · obtain ⟨e, _, rfl⟩ := Option.map_eq_some_iff.mp hitem
      exact ⟨rfl, rfl⟩
    · cases hitem

/-- The items after `LoadOldSpmDataForItems`. -/
def loadedItems (isKernelSupportSpm : Bool) (items : List (SpmDataTaskItem E)) (m : SpmEntries E) :
    List (SpmDataTaskItem E) :=
  if isKernelSupportSpm then items.map (fun item => { item with oldSpmData := m item.tokenId }) else items

theorem loadOldSpmDataForItems_cases : ∀ (items : List (SpmDataTaskItem E)) (m : SpmEntries E),
    (items.all (·.loadAnswer.isOk) = true ∧
      loadOldSpmDataForItems items m = .ok (items.map fun item => { item with oldSpmData := m item.tokenId })) ∨
    (items.all (·.loadAnswer.isOk) = false ∧ ∃ e, loadOldSpmDataForItems items m = .error e)
  | [], _ => .inl ⟨rfl, rfl⟩
  | item :: rest, m => by
    have hcons : loadOldSpmDataForItems (item :: rest) m =
        (item.loadAnswer.map fun _ => { item with oldSpmData := m item.tokenId }).bind fun x =>
          (loadOldSpmDataForItems rest m).bind fun xs => .ok (x :: xs) := List.mapM_cons
    rw [hcons, List.all_cons]
    cases hl : item.loadAnswer with
    | error e => exact .inr ⟨rfl, e, rfl⟩
    | ok =>
      rcases loadOldSpmDataForItems_cases rest m with ⟨hall, hrest⟩ | ⟨hall, e, hrest⟩
      · exact .inl ⟨hall, by rw [hrest, List.map_cons, hl]; rfl⟩
      · exact .inr ⟨hall, e, by rw [hrest]; rfl⟩

section Loaded

variable (isKernelSupportSpm updateWithPerm : Bool) (answer : BatchAnswer) (items : List (SpmDataTaskItem E))
  (m : SpmEntries E)

theorem loadedItems_tokenId : (loadedItems isKernelSupportSpm items m).map (·.tokenId) = items.map (·.tokenId) := by
  unfold loadedItems
  split
  · rw [List.map_map]
    rfl
  · rfl

theorem newEntries_loadedItems : newEntries (loadedItems isKernelSupportSpm items m) = newEntries items := by
  unfold loadedItems newEntries
  split
  · rw [List.map_map]
    rfl
  · rfl

theorem loadedItems_permAnswer :
    (loadedItems isKernelSupportSpm items m).all (·.permAnswer.isOk) = items.all (·.permAnswer.isOk) := by
  unfold loadedItems
  split
  · rw [List.all_map]
    rfl
  · rfl

theorem loadedItems_mem : ∀ item ∈ loadedItems isKernelSupportSpm items m, ∃ item' ∈ items,
    item'.tokenId = item.tokenId ∧ item'.oldPermBriefDataList = item.oldPermBriefDataList := by
  intro item hi
  unfold loadedItems at hi
  split at hi
  · obtain ⟨item', hi', rfl⟩ := List.mem_map.mp hi
    exact ⟨item', hi', rfl, rfl⟩
  · exact ⟨item, hi, rfl, rfl⟩

/-- Whether an update goes through: every entry can be read and is set, and every permission write succeeds. -/
def updateGoesThrough : Bool :=
  (!isKernelSupportSpm || items.all (·.loadAnswer.isOk)) &&
    (entriesGoThrough (setSpmEntriesToKernel answer) isKernelSupportSpm items m &&
      (!updateWithPerm || items.all (·.permAnswer.isOk)))

theorem updateItems_cases (k : SpmKernel E) :
    (updateGoesThrough isKernelSupportSpm updateWithPerm answer items k.entries = false ∧
      (∃ e, (updateItems isKernelSupportSpm updateWithPerm answer items k).1 = .error e) ∧
      (updateItems isKernelSupportSpm updateWithPerm answer items k).2.2 = k) ∨
    (updateItems isKernelSupportSpm updateWithPerm answer items k =
        stageItems (setSpmEntriesToKernel answer) SpmDataTask.rollbackUpdate isKernelSupportSpm updateWithPerm
          (loadedItems isKernelSupportSpm items k.entries) k ∧
      (updateItems isKernelSupportSpm updateWithPerm answer items k).1.isOk =
        updateGoesThrough isKernelSupportSpm updateWithPerm answer items k.entries) := by
  have hstage : ∀ b, entriesGoThrough (setSpmEntriesToKernel answer) b (loadedItems b items k.entries) k.entries =
      entriesGoThrough (setSpmEntriesToKernel answer) b items k.entries := by
    intro b
    unfold entriesGoThrough
    rw [newEntries_loadedItems]
  unfold updateItems updateGoesThrough
  cases isKernelSupportSpm with
  | false =>
    refine .inr ⟨rfl, ?_⟩
    exact stageItems_isOk _ _ false updateWithPerm items k
  | true =>
    rcases loadOldSpmDataForItems_cases items k.entries with ⟨hall, hload⟩ | ⟨hall, e, hload⟩
    · refine .inr ?_
      rw [if_pos rfl, hload, hall]
      refine ⟨rfl, ?_⟩
      have hok := stageItems_isOk SpmDataTask.rollbackUpdate (setSpmEntriesToKernel answer) true updateWithPerm
        (loadedItems true items k.entries) k
      rw [hstage, loadedItems_permAnswer] at hok
      exact hok
    · refine .inl ?_
      rw [if_pos rfl, hload, hall]
      exact ⟨rfl, ⟨e, rfl⟩, rfl⟩

theorem oldSpmData_of_loaded {k : SpmKernel E} : ∀ item ∈ (stageItems (setSpmEntriesToKernel answer)
    SpmDataTask.rollbackUpdate isKernelSupportSpm updateWithPerm (loadedItems isKernelSupportSpm items k.entries)
    k).2.1.spmWritten, item.oldSpmData = k.entries item.tokenId := by
  intro item hi
  rw [stageItems_spmWritten] at hi
  cases isKernelSupportSpm with
  | false =>
    cases hi
  | true =>
    obtain ⟨item', _, rfl⟩ := List.mem_map.mp (List.mem_of_mem_take hi)
    rfl

end Loaded

/-! ## Undoing a stage -/

namespace SpmDataTask

variable (task : SpmDataTask E) (k : SpmKernel E) (t : AccessTokenID) {g : SpmEntries E} {p : KernelPerms}

theorem rollbackAdd_entries :
    (task.rollbackAdd k).entries t = if t ∈ task.spmWritten.map (·.tokenId) then none else k.entries t := by
  have h := Lib.foldl_update_apply (fun item : SpmDataTaskItem E => item.tokenId) (fun _ => (none : Option E))
    (fun _ => none) t task.spmWritten.reverse k.entries (fun _ _ => rfl)
  refine h.trans ?_
  simp only [List.map_reverse, List.mem_reverse]

theorem rollbackAdd_perms :
    (task.rollbackAdd k).perms t = if t ∈ task.permWritten.map (·.tokenId) then noBits else k.perms t := by
  have h := Lib.foldl_update_apply (fun item : SpmDataTaskItem E => item.tokenId) (fun _ => noBits)
    (fun _ => noBits) t task.permWritten.reverse k.perms (fun _ _ => rfl)
  refine h.trans ?_
  simp only [List.map_reverse, List.mem_reverse]

theorem rollbackUpdate_entries (hg : ∀ item ∈ task.spmWritten, item.oldSpmData = g item.tokenId) :
    (task.rollbackUpdate k).entries t = if t ∈ task.spmWritten.map (·.tokenId) then g t else k.entries t := by
  have hset := setSpmEntriesToKernel_fine (Lib.held (·.tokenId) (·.oldSpmData) task.spmWritten)
    ((task.spmWritten.filter (·.oldSpmData.isNone)).foldl
      (fun (m : SpmEntries E) item => update m item.tokenId none) k.entries)
  have hheld : ∀ x ∈ Lib.held (·.tokenId) (·.oldSpmData) task.spmWritten, some x.2 = g x.1 := by
    intro x hx
    obtain ⟨item, hi, hk, hv⟩ := Lib.mem_held.mp hx
    rw [← hk, ← hg item hi, hv]
  have happly := congrFun hset t
  rw [Lib.foldl_update_apply Prod.fst (fun x => some x.2) g t _ _ hheld,
    Lib.foldl_update_apply (fun item : SpmDataTaskItem E => item.tokenId) (fun _ => none) (fun _ => none) t _ _
      (fun _ _ => rfl)] at happly
  refine happly.trans ?_
  by_cases ht : t ∈ task.spmWritten.map (·.tokenId)
  · rw [if_pos ht]
    obtain ⟨item, hi, rfl⟩ := List.mem_map.mp ht
    cases hv : g item.tokenId with
    | none =>
      have hnew : item.tokenId ∈ (task.spmWritten.filter (·.oldSpmData.isNone)).map (·.tokenId) :=
        List.mem_map.mpr ⟨item, List.mem_filter.mpr ⟨hi, by rw [hg item hi, hv]; rfl⟩, rfl⟩
      rw [if_pos hnew, ite_self]
    | some =>
      have hold : item.tokenId ∈ (Lib.held (·.tokenId) (·.oldSpmData) task.spmWritten).map Prod.fst :=
        Lib.mem_held_key.mpr ⟨item, hi, rfl, by rw [hg item hi, hv]; rfl⟩
      rw [if_pos hold]
  · rw [if_neg ht, if_neg, if_neg]
    · rintro hnew
      obtain ⟨item, hi, hk⟩ := List.mem_map.mp hnew
      exact ht (List.mem_map.mpr ⟨item, (List.mem_filter.mp hi).1, hk⟩)
    · rintro hold
      obtain ⟨item, hi, hk, _⟩ := Lib.mem_held_key.mp hold
      exact ht (List.mem_map.mpr ⟨item, hi, hk⟩)

theorem rollbackUpdate_perms (hp : ∀ item ∈ task.permWritten, ∃ list, item.oldPermBriefDataList = some list ∧
      grantedBits list = p item.tokenId) :
    (task.rollbackUpdate k).perms t = if t ∈ task.permWritten.map (·.tokenId) then p t else k.perms t := by
  have hfold : (task.rollbackUpdate k).perms = task.permWritten.foldl (fun (b : KernelPerms) item =>
      update b item.tokenId ((item.oldPermBriefDataList.map grantedBits).getD noBits)) k.perms := by
    refine congrArg (fun f => task.permWritten.foldl f k.perms) ?_
    funext b item
    cases item.oldPermBriefDataList <;> rfl
  rw [hfold, Lib.foldl_update_apply (fun item : SpmDataTaskItem E => item.tokenId) _ p t _ _ ?_]
  intro item hi
  obtain ⟨list, hl, hbits⟩ := hp item hi
  rw [hl]
  exact hbits

end SpmDataTask

variable (items : List (RemoveItem E)) (k : SpmKernel E) (t : AccessTokenID) {g : SpmEntries E} {p : KernelPerms}

def RemoveItem.restoresEntry (item : RemoveItem E) : Bool := item.spmEntryRemoved && item.oldSpmData.isSome

def RemoveItem.restoresPerms (item : RemoveItem E) : Bool :=
  item.permRemoved && (item.oldPermBriefDataList.any (! ·.isEmpty))

/-- A removal is undone to the entries `g` it read, but only where no entry stands. -/
theorem rollbackRemove_entries (hg : ∀ item ∈ items, item.oldSpmData = none ∨ item.oldSpmData = g item.tokenId) :
    (rollbackRemove items k).entries t =
      (k.entries t).or (if t ∈ (items.filter (·.restoresEntry)).map (·.tokenId) then g t else none) := by
  have hheld : ∀ x ∈ Lib.held (·.tokenId) (·.oldSpmData) (items.reverse.filter (·.spmEntryRemoved)),
      some x.2 = g x.1 := by
    intro x hx
    obtain ⟨item, hi, hk, hv⟩ := Lib.mem_held.mp hx
    have hmem : item ∈ items := List.mem_reverse.mp (List.mem_filter.mp hi).1
    rcases hg item hmem with hnone | hsome
    · rw [hnone] at hv
      cases hv
    · rw [← hk, ← hsome, hv]
  have hfill := congrFun (restoreSpmEntries_eq (Lib.held (·.tokenId) (·.oldSpmData)
    (items.reverse.filter (·.spmEntryRemoved))) k.entries) t
  rw [Lib.foldl_fill_apply Prod.fst Prod.snd g t _ _ hheld] at hfill
  refine hfill.trans ?_
  have hiff : t ∈ (Lib.held (·.tokenId) (·.oldSpmData) (items.reverse.filter (·.spmEntryRemoved))).map Prod.fst ↔
      t ∈ (items.filter (·.restoresEntry)).map (·.tokenId) := by
    rw [Lib.mem_held_key, List.mem_map]
    simp only [List.mem_filter, List.mem_reverse, RemoveItem.restoresEntry, Bool.and_eq_true]
    constructor
    · rintro ⟨item, ⟨hi, hr⟩, hk, hv⟩
      exact ⟨item, ⟨hi, hr, hv⟩, hk⟩
    · rintro ⟨item, ⟨hi, hr, hv⟩, hk⟩
      exact ⟨item, ⟨hi, hr⟩, hk, hv⟩
  simp only [hiff]

theorem rollbackRemove_perms
    (hp : ∀ item ∈ items, ∃ list, item.oldPermBriefDataList = some list ∧ grantedBits list = p item.tokenId) :
    (rollbackRemove items k).perms t =
      if t ∈ (items.filter (·.restoresPerms)).map (·.tokenId) then p t else k.perms t := by
  have hfold : (rollbackRemove items k).perms = (items.reverse.filter (·.restoresPerms)).foldl
      (fun (b : KernelPerms) item =>
        update b item.tokenId ((item.oldPermBriefDataList.map grantedBits).getD noBits)) k.perms := by
    rw [List.foldl_filter]
    refine List.foldl_filter.trans (congrArg (fun f => items.reverse.foldl f k.perms) ?_)
    funext b item
    rcases hl : item.oldPermBriefDataList with _ | (_ | ⟨d, list⟩) <;>
      cases hr : item.permRemoved <;> simp [RemoveItem.restoresPerms, restorePermCodes, addHapPermToKernel_eq, hl, hr]
  rw [hfold, Lib.foldl_update_apply (fun item : RemoveItem E => item.tokenId) _ p t _ _ ?_]
  · simp only [List.filter_reverse, List.map_reverse, List.mem_reverse]
  · intro item hi
    obtain ⟨list, hl, hbits⟩ := hp item (List.mem_reverse.mp (List.mem_filter.mp hi).1)
    rw [hl]
    exact hbits

end AccessToken.Kernel
