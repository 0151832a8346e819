import Mathlib.Logic.Function.Basic
/-!
# An index and what it indexes

`Inverse index owner` says that an index from keys to ids and the ownership of keys by ids are the same relation read
from both ends.  The lemmas say which pairs of writes keep it.
-/
namespace Lib

open Function

variable {K I : Type}

/-- **The index points exactly to the owners.** -/
def Inverse (index : K → Option I) (owner : I → Option K) : Prop := ∀ k i, index k = some i ↔ owner i = some k

namespace Inverse

variable {index : K → Option I} {owner : I → Option K}

theorem owner_injective (h : Inverse index owner) {i j : I} {k : K} (hi : owner i = some k) (hj : owner j = some k) :
    i = j :=
  Option.some.inj (((h k i).2 hi).symm.trans ((h k j).2 hj))

variable [DecidableEq K] [DecidableEq I] {k : K} {i : I}

/-- **A key that is free or the id's own, given to an id that owns no other.** -/
theorem bind (h : Inverse index owner) (hk : index k = none ∨ index k = some i)
    (hi : owner i = none ∨ owner i = some k) :
    Inverse (update index k (some i)) (update owner i (some k)) := by
  intro k' i'
  simp only [update_apply]
  by_cases hkk : k' = k
  · subst hkk
    by_cases hii : i' = i
    · simp [hii]
    · -- another owner of the key would be what the index held
      simp only [if_true, Option.some.injEq, hii, if_false]
      refine ⟨fun heq => absurd heq.symm hii, fun hown => ?_⟩
      rcases hk with hk | hk
      · rw [(h k' i').2 hown] at hk; cases hk
      · rw [(h k' i').2 hown] at hk; exact (Option.some.inj hk).symm
  · by_cases hii : i' = i
    · subst hii
      simp only [hkk, if_false, if_true, Option.some.injEq]
      refine ⟨fun hidx => ?_, fun heq => absurd heq.symm hkk⟩
      rcases hi with hi | hi
      · rw [(h k' i').1 hidx] at hi; cases hi
      · rw [(h k' i').1 hidx] at hi; exact (Option.some.inj hi).symm
    · simp only [hkk, hii, if_false]
      exact h k' i'

/-- **An owner gone, its key erased.** -/
theorem release (h : Inverse index owner) (hi : owner i = some k) :
    Inverse (update index k none) (update owner i none) := by
  intro k' i'
  simp only [update_apply]
  by_cases hkk : k' = k
  · subst hkk
    by_cases hii : i' = i
    · simp [hii]
    · simp only [if_true, reduceCtorEq, hii, if_false, false_iff]
      exact fun hown => hii (h.owner_injective hown hi)
  · by_cases hii : i' = i
    · subst hii
      simp only [hkk, if_false, if_true, reduceCtorEq, iff_false]
      intro hidx
      rw [(h k' i').1 hidx] at hi
      exact hkk (Option.some.inj hi)
    · simp only [hkk, hii, if_false]
      exact h k' i'

/-- **A key handed over**: the new owner is indexed, the old one is gone. -/
theorem takeOver (h : Inverse index owner) {o : I} (hk : index k = some o) (hi : owner i = none) :
    Inverse (update index k (some i)) (update (update owner o none) i (some k)) := by
  have hfreed := h.release ((h k o).1 hk)
  have hbound := hfreed.bind (i := i) (.inl (update_self ..)) (.inl ?_)
  · rwa [update_idem] at hbound
  · rw [update_apply]
    split
    · rfl
    · exact hi

end Inverse
end Lib
