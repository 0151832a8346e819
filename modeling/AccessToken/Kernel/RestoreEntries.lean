import AccessToken.Kernel.SpmDataLemmas
/-!
# Restoring the SPM entries of a removal

`RestoreSpmEntries` over a kernel that may fail once in each batch call.  The count of a request is cast to a byte, and
an entry that only the retry finds present is an error like any other.
-/
namespace AccessToken.Kernel

variable {E : Type} {entries sent rest pre post : List (AccessTokenID × E)} {y : AccessTokenID × E} {m : SpmEntries E}

/-- The loop of `RestoreSpmEntries`; `failAt` says where the first request of each batch call fails. -/
def restoreSpmEntriesWith (failAt : Nat → Option Nat) (remaining : List (AccessTokenID × E)) (m : SpmEntries E) :
    Ret × SpmEntries E :=
  if _h : remaining = [] then (.ok (), m)
  else
    let r := addSpmEntriesToKernel ⟨failAt 0, false, none⟩ (remaining.take (remaining.length % 256)) m
    match r.1 with
    | .ok () => (.ok (), r.2.2)
    | .error e =>
      if e = .errDataConflictWithKernel ∧ r.2.1 < remaining.length then
        restoreSpmEntriesWith (failAt ∘ (· + 1)) (remaining.drop (r.2.1 + 1)) r.2.2
      else (.error e, r.2.2)
termination_by remaining.length
decreasing_by
  rw [List.length_drop]
  omega

/-- Success, with an entry for every token of the list: the one it had, or else the listed one. -/
def Restores (entries : List (AccessTokenID × E)) (m : SpmEntries E) (r : Ret × SpmEntries E) : Prop :=
  r.1 = .ok () ∧ (∀ x ∈ entries, r.2 x.1 = (m x.1).or (some x.2)) ∧ ∀ t ∉ entries.map Prod.fst, r.2 t = m t

/-- The entries with those of a list that are absent. -/
abbrev filled (m : SpmEntries E) (l : List (AccessTokenID × E)) : SpmEntries E :=
  l.foldl (fun m x => Lib.fill m x.1 x.2) m

/-- How many absent entries come before each present one. -/
def gaps : List Bool → List Nat
  | [] => []
  | true :: rest => 0 :: gaps rest
  | false :: rest => (gaps rest).modifyHead (· + 1)

/-- **No batch call fails before the present entry it comes to, or at it.** -/
def Unhindered (failAt : Nat → Option Nat) (present : List Bool) : Prop :=
  ∀ k, ∀ gap ∈ (gaps present)[k]?, ∀ i ∈ failAt k, gap < i

theorem gaps_absent {l : List Bool} (h : ∀ b ∈ l, b = false) : gaps l = [] := by
  induction l with
  | nil => rfl
  | cons b l ih =>
    obtain ⟨rfl, hl⟩ := List.forall_mem_cons.1 h
    rw [gaps, ih hl, List.modifyHead_nil]

theorem gaps_append {l : List Bool} (h : ∀ b ∈ l, b = false) (rest : List Bool) :
    gaps (l ++ true :: rest) = l.length :: gaps rest := by
  induction l with
  | nil => rfl
  | cons b l ih =>
    obtain ⟨rfl, hl⟩ := List.forall_mem_cons.1 h
    rw [List.cons_append, gaps, ih hl, List.modifyHead_cons, List.length_cons]

theorem unhindered_append_iff {failAt : Nat → Option Nat} {l : List Bool} (h : ∀ b ∈ l, b = false) (rest : List Bool) :
    Unhindered failAt (l ++ true :: rest) ↔
      (∀ i ∈ failAt 0, l.length < i) ∧ Unhindered (failAt ∘ (· + 1)) rest := by
  rw [Unhindered, gaps_append h]
  refine ⟨fun hall => ⟨hall 0 _ rfl, fun k => hall (k + 1)⟩, fun hall k => ?_⟩
  cases k with
  | zero => rintro _ ⟨⟩; exact hall.1
  | succ k => exact hall.2 k

/-- **A request that failed goes on where it stopped**, and comes to what one without the failure does. -/
theorem spmAddEntries_resume : ∀ (entries : List (AccessTokenID × E)) (failAt : Option Nat) (m : SpmEntries E),
    let r := spmAddEntries entries failAt m
    let r' := spmAddEntries (entries.drop r.2.1) none r.2.2
    spmAddEntries entries none m = if r.1 = .failed then (r'.1, r.2.1 + r'.2.1, r'.2.2) else r
  | [], _, _ => rfl
  | (t, e) :: rest, failAt, m => by
    by_cases hfail : failAt = some 0
    · simp [spmAddEntries, hfail]
    by_cases ht : (m t).isSome
    · simp [spmAddEntries, hfail, ht]
    · simp only [spmAddEntries, hfail, ht, reduceCtorEq, Option.map_none, if_false, List.drop_succ_cons]
      rw [spmAddEntries_resume rest (failAt.map (· - 1))]
      split <;> simp [Nat.add_right_comm]

theorem spmAddEntries_absent (hnodup : (sent.map Prod.fst).Nodup) (hsent : ∀ x ∈ sent, m x.1 = none) :
    (spmAddEntries sent none m).1 = .success := by
  induction sent generalizing m with
  | nil => rfl
  | cons x rest ih =>
    obtain ⟨ht, hrest⟩ := List.nodup_cons.1 hnodup
    obtain ⟨hx, hsent⟩ := List.forall_mem_cons.1 hsent
    simp only [spmAddEntries, hx, reduceCtorEq, if_false, Option.isSome_none, Bool.false_eq_true, Option.map_none]
    refine ih hrest fun y hy => ?_
    rw [Function.update_of_ne fun heq => ht (List.mem_map.2 ⟨y, hy, heq⟩), hsent y hy]

/-- A request comes to the first present entry, unless it fails before or at it. -/
theorem spmAddEntries_present (hnodup : ((pre ++ y :: post).map Prod.fst).Nodup) (hpre : ∀ x ∈ pre, m x.1 = none)
    (hy : (m y.1).isSome) (failAt : Option Nat) :
    ((spmAddEntries (pre ++ y :: post) failAt m).1 = .failed ↔ ∃ i ∈ failAt, i ≤ pre.length) ∧
      spmAddEntries (pre ++ y :: post) none m = (.exist, pre.length, filled m pre) := by
  induction pre generalizing m failAt with
  | nil =>
    by_cases hfail : failAt = some 0
    · simp [spmAddEntries, hfail, hy]
    · simp [spmAddEntries, hfail, hy]
  | cons x pre ih =>
    obtain ⟨ht, hrest⟩ := List.nodup_cons.1 hnodup
    obtain ⟨hx, hpre⟩ := List.forall_mem_cons.1 hpre
    have hfill : Lib.fill m x.1 x.2 = Function.update m x.1 (some x.2) := if_neg (by simp [hx])
    have hother : ∀ z ∈ pre ++ y :: post, Lib.fill m x.1 x.2 z.1 = m z.1 := fun z hz => by
      rw [hfill, Function.update_of_ne fun heq => ht (List.mem_map.2 ⟨z, hz, heq⟩)]
    obtain ⟨hfailed, hnone⟩ := ih (m := Lib.fill m x.1 x.2) hrest
      (fun z hz => (hother z (by simp [hz])).trans (hpre z hz)) (by rwa [hother y (by simp)]) (failAt.map (· - 1))
    rw [hfill] at hfailed hnone
    rw [filled, List.foldl_cons, hfill]
    by_cases hfail : failAt = some 0
    · simp [spmAddEntries, hfail, hx, hnone]
    · simp only [List.cons_append, spmAddEntries, hfail, hx, reduceCtorEq, if_false, Option.isSome_none,
        Bool.false_eq_true, Option.map_none, hfailed, hnone, List.length_cons, and_true]
      cases failAt with
      | none => simp
      | some i =>
        have hi : i ≠ 0 := fun h => hfail (h ▸ rfl)
        simp only [Option.map_some, Option.mem_def, Option.some.injEq, exists_eq_left']
        omega

theorem addSpmEntriesToKernel_of_success (h : (spmAddEntries sent none m).1 = .success) (failAt : Option Nat) :
    addSpmEntriesToKernel ⟨failAt, false, none⟩ sent m = (.ok (), (spmAddEntries sent none m).2) := by
  have hresume := spmAddEntries_resume sent failAt m
  simp only [addSpmEntriesToKernel, withRetry]
  cases hfirst : (spmAddEntries sent failAt m).1 <;> simp only [hfirst, reduceCtorEq, if_false, if_true] at hresume ⊢
  · rw [hresume]
  · rw [hresume, hfirst] at h
    cases h
  · rw [hresume] at h ⊢
    simp only at h
    simp [h]

theorem addSpmEntriesToKernel_of_present (hnodup : ((pre ++ y :: post).map Prod.fst).Nodup)
    (hpre : ∀ x ∈ pre, m x.1 = none) (hy : (m y.1).isSome) (failAt : Option Nat) :
    let r := addSpmEntriesToKernel ⟨failAt, false, none⟩ (pre ++ y :: post) m
    if ∃ i ∈ failAt, i ≤ pre.length then r.1 = .error .errKernelCommonFailed
    else r = (.error .errDataConflictWithKernel, pre.length, filled m pre) := by
  obtain ⟨hfailed, hnone⟩ := spmAddEntries_present hnodup hpre hy failAt
  have hresume := spmAddEntries_resume (pre ++ y :: post) failAt m
  rw [hnone] at hresume
  simp only [addSpmEntriesToKernel, withRetry]
  by_cases hfail : (spmAddEntries (pre ++ y :: post) failAt m).1 = .failed
  · simp only [hfail, if_true] at hresume
    have hexist := (Prod.ext_iff.1 hresume).1.symm
    simp only at hexist
    simp only [if_pos (hfailed.1 hfail), hfail, Bool.false_eq_true, if_false, hexist]
  · simp only [if_neg hfail] at hresume
    simp only [if_neg (mt hfailed.2 hfail), ← hresume]

theorem foldl_fill : ∀ {sent : List (AccessTokenID × E)} {m : SpmEntries E}, (sent.map Prod.fst).Nodup →
    Restores sent m (.ok (), filled m sent)
  | [], _, _ => ⟨rfl, by simp⟩
  | (t, e) :: sent, m, h => by
    obtain ⟨ht, hsent⟩ := List.nodup_cons.1 h
    obtain ⟨-, hmem, hother⟩ := foldl_fill (m := Lib.fill m t e) hsent
    refine ⟨rfl, List.forall_mem_cons.2 ⟨?_, fun x hx => ?_⟩, fun t' ht' => ?_⟩
    · exact (hother t ht).trans (by simp [Lib.fill_apply])
    · have hne : x.1 ≠ t := fun heq => ht (List.mem_map.2 ⟨x, hx, heq⟩)
      exact (hmem x hx).trans (by simp [Lib.fill_apply, hne])
    · rw [List.map_cons, List.mem_cons, not_or] at ht'
      exact (hother t' ht'.2).trans (by simp [Lib.fill_apply, ht'.1])

/-- **What was not sent must be there already.** -/
theorem restores_filled_iff (h : ((sent ++ rest).map Prod.fst).Nodup) :
    Restores (sent ++ rest) m (.ok (), filled m sent) ↔ ∀ x ∈ rest, (m x.1).isSome := by
  rw [List.map_append, List.nodup_append] at h
  obtain ⟨-, hmem, hother⟩ := foldl_fill (m := m) h.1
  have hrest : ∀ x ∈ rest, x.1 ∉ sent.map Prod.fst := fun x hx hs => h.2.2 _ hs _ (List.mem_map_of_mem hx) rfl
  have hsome : ∀ x ∈ rest, m x.1 = (m x.1).or (some x.2) ↔ (m x.1).isSome := fun x _ => by cases m x.1 <;> simp
  refine ⟨fun hr x hx => (hsome x hx).1 ?_, fun hr => ⟨rfl, fun x hx => ?_, fun t ht => hother t ?_⟩⟩
  · rw [← hr.2.1 x (List.mem_append_right _ hx)]
    exact (hother _ (hrest x hx)).symm
  · rcases List.mem_append.1 hx with hx | hx
    · exact hmem x hx
    · exact (hother _ (hrest x hx)).trans ((hsome x hx).2 (hr x hx))
  · exact fun hs => ht (by rw [List.map_append]; exact List.mem_append_left _ hs)

/-- The loop sends the first entries and skips those that are present, as long as no failure hides one. -/
theorem restore_ok_iff (failAt : Nat → Option Nat) (hnodup : (sent.map Prod.fst).Nodup)
    (hcount : (sent ++ rest).length % 256 = sent.length) :
    let r := restoreSpmEntriesWith failAt (sent ++ rest) m
    (r.1 = .ok () ↔ Unhindered failAt (sent.map fun x => (m x.1).isSome)) ∧
      (r.1 = .ok () → r.2 = filled m sent) := by
  induction hn : sent.length using Nat.strong_induction_on generalizing sent failAt m with
  | _ n ih =>
    intro r
    have htake : (sent ++ rest).take ((sent ++ rest).length % 256) = sent := by rw [hcount, List.take_left]
    cases hfind : sent.find? fun x => (m x.1).isSome with
    | none =>
      have habsent : ∀ x ∈ sent, m x.1 = none := fun x hx => by simpa using List.find?_eq_none.1 hfind x hx
      have hok := spmAddEntries_absent hnodup habsent
      have hmap := ((spmAddEntries_none _ m).resolve_right fun hno => by rw [hok] at hno; cases hno.1).2
      have hr : r = (.ok (), filled m sent) := by
        unfold r
        rw [restoreSpmEntriesWith]
        split
        · rename_i hnil
          rw [(List.append_eq_nil_iff.1 hnil).1]
          rfl
        · simp only [htake, addSpmEntriesToKernel_of_success hok, hmap]
      have hgaps : gaps (sent.map fun x => (m x.1).isSome) = [] := gaps_absent (by simpa using habsent)
      simp [hr, Unhindered, hgaps]
    | some y =>
      obtain ⟨hy, pre, post, rfl, hpre⟩ := List.find?_eq_some_iff_append.1 hfind
      have hpre : ∀ x ∈ pre, m x.1 = none := fun x hx => by simpa using hpre x hx
      have hpresent : ((pre ++ y :: post).map fun x => (m x.1).isSome) =
          (pre.map fun x => (m x.1).isSome) ++ true :: post.map fun x => (m x.1).isSome := by simp [hy]
      have hbatch := addSpmEntriesToKernel_of_present hnodup hpre hy (failAt 0)
      rw [hpresent, unhindered_append_iff (by simpa using hpre), List.length_map]
      have hne : pre ++ y :: post ++ rest ≠ [] := by simp
      unfold r
      rw [restoreSpmEntriesWith, dif_neg hne, htake]
      by_cases hhidden : ∃ i ∈ failAt 0, i ≤ pre.length
      · -- the retry comes to the present entry
        simp only [if_pos hhidden] at hbatch
        simp only [hbatch, reduceCtorEq, false_and, if_false, false_imp_iff, and_true, false_iff]
        obtain ⟨i, hi, hle⟩ := hhidden
        exact fun h => absurd (h.1 i hi) (by omega)
      · simp only [if_neg hhidden] at hbatch
        push Not at hhidden
        have hdrop : (pre ++ y :: post ++ rest).drop (pre.length + 1) = post ++ rest := by
          rw [List.append_assoc, List.drop_append]
          simp
        obtain ⟨hdisjoint, hpost⟩ : (∀ x ∈ y :: post, x.1 ∉ pre.map Prod.fst) ∧ (post.map Prod.fst).Nodup := by
          rw [List.map_append, List.nodup_append] at hnodup
          exact ⟨fun x hx hp => hnodup.2.2 _ hp _ (List.mem_map_of_mem hx) rfl, (List.nodup_cons.1 hnodup.2.1).2⟩
        have hsame : ∀ x ∈ y :: post, filled m pre x.1 = m x.1 := fun x hx =>
          (foldl_fill (hnodup.sublist ((List.sublist_append_left ..).map _))).2.2 x.1 (hdisjoint x hx)
        obtain ⟨hok, hmap⟩ := ih post.length (by rw [← hn, List.length_append, List.length_cons]; omega)
          (failAt ∘ (· + 1)) hpost (by simp only [List.length_append, List.length_cons] at hcount ⊢; omega) rfl
        have hpost' : (post.map fun x => (filled m pre x.1).isSome) = post.map fun x => (m x.1).isSome :=
          List.map_congr_left fun x hx => by rw [hsame x (List.mem_cons_of_mem _ hx)]
        have hall : filled m (pre ++ y :: post) = filled (filled m pre) post := by
          have hskip : Lib.fill (filled m pre) y.1 y.2 = filled m pre :=
            if_pos (by rw [hsame y List.mem_cons_self]; exact hy)
          rw [filled, List.foldl_append, List.foldl_cons, hskip]
        have hlt : pre.length < (pre ++ y :: post ++ rest).length := by simp
        simp only [hbatch, hlt, hdrop, and_self, if_true]
        rw [hpost'] at hok
        rw [hall]
        exact ⟨hok.trans ⟨fun h => ⟨hhidden, h⟩, And.right⟩, hmap⟩

/-- **`RestoreSpmEntries` restores exactly when** no batch call fails before, or at, the present entry it comes to, and
the entries beyond the count of the first request are all present. -/
theorem restores_iff (failAt : Nat → Option Nat) (h : (entries.map Prod.fst).Nodup) :
    Restores entries m (restoreSpmEntriesWith failAt entries m) ↔
      Unhindered failAt ((entries.take (entries.length % 256)).map fun x => (m x.1).isSome) ∧
        ∀ x ∈ entries.drop (entries.length % 256), (m x.1).isSome := by
  obtain ⟨sent, rest, hsent, hrest, rfl⟩ : ∃ sent rest, entries.take (entries.length % 256) = sent ∧
      entries.drop (entries.length % 256) = rest ∧ entries = sent ++ rest :=
      ⟨_, _, rfl, rfl, (List.take_append_drop ..).symm⟩
  have hcount : (sent ++ rest).length % 256 = sent.length := by
    have := congrArg List.length hsent
    rw [List.length_take] at this
    omega
  obtain ⟨hok, hmap⟩ := restore_ok_iff (m := m) failAt
    (h.sublist ((List.sublist_append_left sent rest).map _)) hcount
  rw [hsent, hrest, ← hok, ← restores_filled_iff h]
  constructor
  · intro hr
    refine ⟨hr.1, ?_⟩
    rw [← hmap hr.1, ← hr.1]
    exact hr
  · rintro ⟨hret, hr⟩
    rw [← hmap hret, ← hret] at hr
    exact hr

/-- Three entries, the second of them present; the request after it fails at once. -/
def secondPresent : SpmEntries Unit := fun t => if t = 2 then some () else none

theorem entries_around_present_restored :
    Restores [((1 : AccessTokenID), ()), (2, ()), (3, ())] secondPresent
      (restoreSpmEntriesWith (fun k => if k = 1 then some 0 else none) [(1, ()), (2, ()), (3, ())] secondPresent) := by
  refine (restores_iff _ (by decide)).2 ⟨fun k gap hgap => ?_, by simp⟩
  cases k with
  | zero => nofun
  | succ k => cases hgap

/-- A transient failure before a present entry: the retry reports it as a common failure. -/
theorem present_entry_fails : ¬Restores [((1 : AccessTokenID), ())] (fun _ => some ())
    (restoreSpmEntriesWith (fun _ => some 0) [(1, ())] fun _ => some ()) := by
  simp [Restores, restoreSpmEntriesWith, addSpmEntriesToKernel, withRetry, spmAddEntries]

end AccessToken.Kernel
