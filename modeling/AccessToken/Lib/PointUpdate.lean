import Mathlib.Logic.Function.Basic
/-!
# Folding point updates over a list

A batch of writes to a map is a fold of `Function.update`.  When the value written at a key depends on the key alone,
the order and the repetitions of the batch do not matter: `foldl_update_apply` reads the result off the key list.
`foldl_fill_apply` is the same for a batch that only fills keys that are still empty.
-/
namespace Lib

open Function

variable {ι K V : Type} [DecidableEq K] {old : ι → Option V} {key : ι → K} {l : List ι}

/-- **A batch whose values are a function `g` of the key leaves `g` on its keys and the old map elsewhere.** -/
theorem foldl_update_apply (key : ι → K) (val : ι → V) (g : K → V) (a : K) :
    ∀ (l : List ι) (f : K → V), (∀ x ∈ l, val x = g (key x)) →
      l.foldl (fun f x => update f (key x) (val x)) f a = if a ∈ l.map key then g a else f a
  | [], _, _ => rfl
  | x :: l, f, h => by
    rw [List.foldl_cons, foldl_update_apply key val g a l _ (fun y hy => h y (List.mem_cons_of_mem _ hy)),
      List.map_cons]
    by_cases hl : a ∈ l.map key
    · rw [if_pos hl, if_pos (List.mem_cons_of_mem _ hl)]
    · by_cases hx : a = key x
      · subst hx
        rw [if_neg hl, if_pos (List.mem_cons_self ..), update_self, h x (List.mem_cons_self ..)]
      · rw [if_neg hl, if_neg (by simpa [hx] using hl), update_of_ne hx]

theorem foldl_filter_const_apply (key : ι → K) (P : ι → Bool) (v : V) (a : K) (l : List ι) (f : K → V) :
    (l.filter P).foldl (fun f x => update f (key x) v) f a =
      if ∃ x ∈ l, key x = a ∧ P x = true then v else f a := by
  rw [foldl_update_apply key (fun _ => v) (fun _ => v) a _ f fun _ _ => rfl]
  refine if_congr ?_ rfl rfl
  simp only [List.mem_map, List.mem_filter, and_assoc]
  exact exists_congr fun _ => and_congr_right fun _ => and_comm

/-- Write the value unless the key has one. -/
def fill (f : K → Option V) (a : K) (v : V) : K → Option V := if (f a).isSome then f else update f a (some v)

theorem fill_apply (f : K → Option V) (a b : K) (v : V) : fill f a v b = (f b).or (if b = a then some v else none) := by
  unfold fill
  by_cases hb : b = a
  · subst hb
    cases hf : f b with
    | none => simp
    | some => simp [hf]
  · cases hf : f a with
    | none => simp [hb]
    | some => simp [hb]

/-- **A batch of fills whose values are a function `g` of the key keeps every old value and fills its keys with
`g`.** -/
theorem foldl_fill_apply (key : ι → K) (val : ι → V) (g : K → Option V) (a : K) :
    ∀ (l : List ι) (f : K → Option V), (∀ x ∈ l, some (val x) = g (key x)) →
      l.foldl (fun f x => fill f (key x) (val x)) f a = (f a).or (if a ∈ l.map key then g a else none)
  | [], f, _ => by simp
  | x :: l, f, h => by
    rw [List.foldl_cons, foldl_fill_apply key val g a l _ (fun y hy => h y (List.mem_cons_of_mem _ hy)), fill_apply]
    cases hf : f a with
    | some => simp
    | none =>
      by_cases hx : a = key x
      · subst hx
        simp [← h x (List.mem_cons_self ..)]
      · simp [hx]

def held (key : ι → K) (old : ι → Option V) (l : List ι) : List (K × V) :=
  l.filterMap fun i => (old i).map fun v => (key i, v)

omit [DecidableEq K] in
theorem mem_held {x : K × V} : x ∈ held key old l ↔ ∃ i ∈ l, key i = x.1 ∧ old i = some x.2 := by
  unfold held
  rw [List.mem_filterMap]
  constructor
  · rintro ⟨i, hi, hx⟩
    obtain ⟨v, hv, rfl⟩ := Option.map_eq_some_iff.mp hx
    exact ⟨i, hi, rfl, hv⟩
  · rintro ⟨i, hi, hk, hv⟩
    exact ⟨i, hi, by rw [hv, Option.map_some, hk]⟩

omit [DecidableEq K] in
theorem mem_held_key {a : K} : a ∈ (held key old l).map Prod.fst ↔ ∃ i ∈ l, key i = a ∧ (old i).isSome := by
  rw [List.mem_map]
  constructor
  · rintro ⟨x, hx, rfl⟩
    obtain ⟨i, hi, hk, hv⟩ := mem_held.mp hx
    exact ⟨i, hi, hk, Option.isSome_of_eq_some hv⟩
  · rintro ⟨i, hi, rfl, hv⟩
    obtain ⟨v, hv⟩ := Option.isSome_iff_exists.mp hv
    exact ⟨(key i, v), mem_held.mpr ⟨i, hi, rfl, hv⟩, rfl⟩

end Lib
