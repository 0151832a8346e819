import Mathlib.Data.BitVec
/-!
# Bit masks

`hasAny f m` is C's `(f & m) != 0`.  The lemmas push it through the three ways masks are combined (`|`, `&`, `& ~`), so
that a test of an updated word becomes tests of the word before the update and of the constants.
-/
namespace Lib

variable {w : Nat} {m f a b k : BitVec w}

/-- `(f & m) != 0`. -/
def hasAny (f m : BitVec w) : Bool := f &&& m != 0#w

@[simp] theorem hasAny_zero (f : BitVec w) : hasAny f 0#w = false := by simp [hasAny]

@[simp] theorem zero_hasAny : hasAny 0#w m = false := by simp [hasAny]

theorem hasAny_eq_false : hasAny f m = false ↔ f &&& m = 0#w := by simp [hasAny]

theorem or_eq_zero_iff (a b : BitVec w) : a ||| b = 0#w ↔ a = 0#w ∧ b = 0#w := by
  constructor
  · intro h
    refine ⟨BitVec.eq_of_getLsbD_eq fun i hi => ?_, BitVec.eq_of_getLsbD_eq fun i hi => ?_⟩ <;>
      · simp_all
  · rintro ⟨rfl, rfl⟩
    simp

@[simp] theorem hasAny_or (a b m : BitVec w) : hasAny (a ||| b) m = (hasAny a m || hasAny b m) := by
  have hdist : (a ||| b) &&& m = (a &&& m) ||| (b &&& m) := by
    refine BitVec.eq_of_getLsbD_eq fun i _ => ?_
    simp [Bool.and_or_distrib_right]
  rw [Bool.eq_iff_iff]
  simp only [hasAny, hdist, bne_iff_ne, ne_eq, or_eq_zero_iff, Bool.or_eq_true]
  tauto

theorem hasAny_or_right (f a b : BitVec w) : hasAny f (a ||| b) = (hasAny f a || hasAny f b) := by
  have hcomm : ∀ m : BitVec w, hasAny f m = hasAny m f := fun m => by simp [hasAny, BitVec.and_comm]
  rw [hcomm, hasAny_or, ← hcomm, ← hcomm]

theorem hasAny_and (f k m : BitVec w) : hasAny (f &&& k) m = hasAny f (k &&& m) := by
  simp [hasAny, BitVec.and_assoc]

theorem hasAny_clear_self (f m : BitVec w) : hasAny (f &&& ~~~m) m = false := by
  rw [hasAny_and]
  have hz : ~~~m &&& m = 0#w := BitVec.eq_of_getLsbD_eq fun i _ => by simp
  rw [hz, hasAny_zero]

theorem clear_of_hasAny_eq_false (h : hasAny f m = false) : f &&& ~~~m = f := by
  refine BitVec.eq_of_getLsbD_eq fun i hi => ?_
  have hbit : (f.getLsbD i && m.getLsbD i) = false := by
    rw [← BitVec.getLsbD_and, hasAny_eq_false.1 h]
    exact BitVec.getLsbD_zero
  rw [BitVec.getLsbD_and, BitVec.getLsbD_not, decide_eq_true hi, Bool.true_and]
  cases hf : f.getLsbD i with
  | false => rfl
  | true =>
    rw [hf, Bool.true_and] at hbit
    rw [hbit]
    rfl

theorem hasAny_twoPow {i : Nat} (hi : i < w) : hasAny f (BitVec.twoPow w i) = f.getLsbD i := by
  rw [hasAny, BitVec.and_twoPow]
  split
  · rename_i h
    rw [h, bne_iff_ne]
    exact fun hz => by simpa [hi] using congrArg (BitVec.getLsbD · i) hz
  · simp_all

theorem merged_and : (a &&& ~~~m ||| (b &&& m)) &&& m = b &&& m := by
  refine BitVec.eq_of_getLsbD_eq fun i hi => ?_
  simp only [BitVec.getLsbD_and, BitVec.getLsbD_or, BitVec.getLsbD_not]
  cases m.getLsbD i <;> simp

theorem merged_clear : (a &&& ~~~m ||| (b &&& m)) &&& ~~~m = a &&& ~~~m := by
  refine BitVec.eq_of_getLsbD_eq fun i hi => ?_
  simp only [BitVec.getLsbD_and, BitVec.getLsbD_or, BitVec.getLsbD_not]
  cases m.getLsbD i <;> simp

/-! ## Words that agree outside a mask -/

theorem clear_eq_iff : a &&& ~~~m = b &&& ~~~m ↔ ∀ i, m.getLsbD i = false → a.getLsbD i = b.getLsbD i := by
  constructor
  · intro h i hi
    by_cases hw : i < w
    · have hbit := congrArg (fun x => x.getLsbD i) h
      simpa only [BitVec.getLsbD_and, BitVec.getLsbD_not, hw, hi, decide_true, Bool.not_false, Bool.and_true] using hbit
    · rw [BitVec.getLsbD_of_ge _ _ (Nat.le_of_not_lt hw), BitVec.getLsbD_of_ge _ _ (Nat.le_of_not_lt hw)]
  · intro h
    refine BitVec.eq_of_getLsbD_eq fun i hw => ?_
    rw [BitVec.getLsbD_and, BitVec.getLsbD_and, BitVec.getLsbD_not]
    cases hi : m.getLsbD i with
    | false => rw [h i hi]
    | true => simp

theorem and_eq_of_clear_eq (h : a &&& ~~~m = b &&& ~~~m) (hk : k &&& m = 0#w) : a &&& k = b &&& k := by
  refine BitVec.eq_of_getLsbD_eq fun i _ => ?_
  rw [BitVec.getLsbD_and, BitVec.getLsbD_and]
  cases hi : m.getLsbD i with
  | false => rw [clear_eq_iff.1 h i hi]
  | true =>
    have hbit : (k &&& m).getLsbD i = false := by rw [hk, BitVec.getLsbD_zero]
    rw [BitVec.getLsbD_and, hi, Bool.and_true] at hbit
    rw [hbit, Bool.and_false, Bool.and_false]

theorem hasAny_eq_of_clear_eq (h : a &&& ~~~m = b &&& ~~~m) (hk : k &&& m = 0#w) : hasAny a k = hasAny b k := by
  rw [hasAny, hasAny, and_eq_of_clear_eq h hk]

end Lib
