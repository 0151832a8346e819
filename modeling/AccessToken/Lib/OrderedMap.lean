import Std.Data.ExtTreeMap
import Std.Data.ExtTreeSet
import Mathlib.Logic.Basic
/-!
# Maps over an order that decides equality

The lookups of `Std.ExtTreeMap` and `Std.ExtTreeSet` compare keys; over such an order they are lookups by equality.
-/
namespace Lib

open Std.ExtTreeMap Std.ExtTreeSet

variable {K V : Type} [Ord K] [Std.TransOrd K] [Std.LawfulEqOrd K] {k x : K} {v v' : V} {m : Std.ExtTreeMap K V}
  {s : Std.ExtTreeSet K}

omit [Std.TransOrd K] in
theorem compare_iff : compare k x = .eq ↔ x = k := Std.compare_eq_iff_eq.trans eq_comm

theorem getElem?_insert [DecidableEq K] : (m.insert k v)[x]? = if x = k then some v else m[x]? :=
  Std.ExtTreeMap.getElem?_insert.trans (if_congr compare_iff rfl rfl)

theorem getElem?_erase [DecidableEq K] : (m.erase k)[x]? = if x = k then none else m[x]? :=
  Std.ExtTreeMap.getElem?_erase.trans (if_congr compare_iff rfl rfl)

theorem getElem?_insert_of_ne (h : x ≠ k) : (m.insert k v)[x]? = m[x]? := by
  classical exact getElem?_insert.trans (if_neg h)

theorem getElem?_erase_of_ne (h : x ≠ k) : (m.erase k)[x]? = m[x]? := by
  classical exact getElem?_erase.trans (if_neg h)

theorem getElem?_insert_eq_some : (m.insert k v)[x]? = some v' ↔ x = k ∧ v = v' ∨ x ≠ k ∧ m[x]? = some v' := by
  classical
  rw [getElem?_insert]
  split <;> simp [*]

theorem getElem?_erase_eq_some : (m.erase k)[x]? = some v' ↔ x ≠ k ∧ m[x]? = some v' := by
  classical
  rw [getElem?_erase]
  split <;> simp [*]

theorem getElem?_modify [DecidableEq K] {f : V → V} : (m.modify k f)[x]? = if x = k then m[x]?.map f else m[x]? := by
  rw [Std.ExtTreeMap.getElem?_modify]
  refine (if_congr compare_iff rfl rfl).trans ?_
  split <;> simp [*]

theorem insert_eq_self_iff : m.insert k v = m ↔ m[k]? = some v := by
  constructor
  · intro h
    rw [← h, getElem?_insert_self]
  · intro h
    refine ext_getElem? fun x => ?_
    by_cases hx : x = k
    · rw [hx, h, getElem?_insert_self]
    · exact getElem?_insert_of_ne hx

theorem erase_of_not_mem (h : k ∉ m) : m.erase k = m := by
  refine ext_getElem? fun x => ?_
  by_cases hx : x = k
  · rw [hx, getElem?_erase_self, getElem?_eq_none h]
  · exact getElem?_erase_of_ne hx

theorem mem_insert : x ∈ m.insert k v ↔ x = k ∨ x ∈ m := Std.ExtTreeMap.mem_insert.trans (or_congr_left compare_iff)

theorem mem_erase : x ∈ m.erase k ↔ x ≠ k ∧ x ∈ m :=
  Std.ExtTreeMap.mem_erase.trans (and_congr_left' (not_congr compare_iff))

/-- The entries put in one after the other: the last one under a key stays. -/
def insertAll (m : Std.ExtTreeMap K V) (l : List (K × V)) : Std.ExtTreeMap K V :=
  l.foldl (fun m e => m.insert e.1 e.2) m

theorem getElem?_insertAll_eq [BEq K] [LawfulBEq K] (l : List (K × V)) (m : Std.ExtTreeMap K V) (x : K) :
    (insertAll m l)[x]? = (l.reverse.lookup x).or m[x]? := by
  induction l generalizing m with
  | nil => rfl
  | cons e l ih =>
    rw [insertAll, List.foldl_cons, ← insertAll, ih, List.reverse_cons, List.lookup_append, Option.or_assoc]
    obtain ⟨k, v⟩ := e
    by_cases hx : x = k
    · rw [hx, List.lookup_cons_self, Option.some_or, getElem?_insert_self]
    · simp [List.lookup_cons, beq_false_of_ne hx, getElem?_insert_of_ne hx]

/-- **A key after `insertAll`** has a value of the list, or is not in the list and has what it had. -/
theorem getElem?_insertAll (l : List (K × V)) (m : Std.ExtTreeMap K V) (x : K) :
    (∃ v, (x, v) ∈ l ∧ (insertAll m l)[x]? = some v) ∨ (∀ v, (x, v) ∉ l) ∧ (insertAll m l)[x]? = m[x]? := by
  induction l generalizing m with
  | nil => exact .inr ⟨by simp, rfl⟩
  | cons e l ih =>
    rcases ih (m.insert e.1 e.2) with ⟨v, hv, h⟩ | ⟨hl, h⟩
    · exact .inl ⟨v, List.mem_cons_of_mem e hv, h⟩
    by_cases hx : x = e.1
    · subst hx
      exact .inl ⟨e.2, List.mem_cons_self, h.trans getElem?_insert_self⟩
    · refine .inr ⟨fun v hv => ?_, h.trans (getElem?_insert_of_ne hx)⟩
      rcases List.mem_cons.1 hv with rfl | hv
      · exact hx rfl
      · exact hl v hv

theorem mem_set_insert : x ∈ s.insert k ↔ x = k ∨ x ∈ s := Std.ExtTreeSet.mem_insert.trans (or_congr_left compare_iff)

theorem mem_set_erase : x ∈ s.erase k ↔ x ≠ k ∧ x ∈ s :=
  Std.ExtTreeSet.mem_erase.trans (and_congr_left' (not_congr compare_iff))

theorem set_erase_insert (h : k ∉ s) : (s.insert k).erase k = s := by
  refine ext_mem fun x => ?_
  rw [mem_set_erase, mem_set_insert]
  refine ⟨fun hx => hx.2.resolve_left hx.1, fun hx => ⟨?_, .inr hx⟩⟩
  rintro rfl
  exact h hx

theorem mem_foldl_insert (l : List K) (s : Std.ExtTreeSet K) : x ∈ l.foldl (·.insert ·) s ↔ x ∈ l ∨ x ∈ s := by
  induction l generalizing s with
  | nil => simp
  | cons k l ih => rw [List.foldl_cons, ih, mem_set_insert, List.mem_cons, or_left_comm, or_assoc]

omit [Std.LawfulEqOrd K] in
theorem mem_iff_exists : k ∈ m ↔ ∃ v, m[k]? = some v := by
  rw [mem_iff_isSome_getElem?, Option.isSome_iff_exists]

omit [Std.LawfulEqOrd K] in
theorem exists_of_mem_getD {m : Std.ExtTreeMap K (List V)} (h : v ∈ m.getD k []) : ∃ l, m[k]? = some l ∧ v ∈ l := by
  rw [getD_eq_getD_getElem?] at h
  cases hl : m[k]? with
  | none => rw [hl] at h; cases h
  | some l => exact ⟨l, rfl, by rwa [hl] at h⟩

end Lib
