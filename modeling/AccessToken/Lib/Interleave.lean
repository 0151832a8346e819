import AccessToken.Lib.Run
import Mathlib.Logic.Function.Basic
/-!
# Concurrent calls over a shared state

A call is a program whose atomic steps take the shared state and the place where the call is to the next.  The calls of
a family run at once: each action of the machine `callStep call` is the call that takes its next step, so a run is an
interleaving.  `Calls.Holds.step` is the rule of non-interference: an assertion on the shared state, one at the place of
each call, which its own steps establish and the steps of the others keep, and one on the places of two calls.
-/
namespace Lib

variable {ι S P : Type} [DecidableEq ι]

structure Calls (ι S P : Type) where
  shared : S
  pc : ι → P

/-- **The call `i` takes its next atomic step.** -/
def callStep (call : ι → S → P → P × S) (s : Calls ι S P) (i : ι) : Calls ι S P :=
  ⟨(call i s.shared (s.pc i)).2, Function.update s.pc i (call i s.shared (s.pc i)).1⟩

section
variable (call : ι → S → P → P × S) (s : Calls ι S P)

@[simp]
theorem callStep_pc_self (i : ι) : (callStep call s i).pc i = (call i s.shared (s.pc i)).1 :=
  Function.update_self ..

@[simp]
theorem callStep_pc_of_ne {i j : ι} (h : j ≠ i) : (callStep call s i).pc j = s.pc j :=
  Function.update_of_ne h ..

/-- What holds of the shared state, at the place of each call, and of the places of any two. -/
structure Calls.Holds (J : S → Prop) (L : ι → P → S → Prop) (R : ι → ι → P → P → Prop) (s : Calls ι S P) : Prop where
  shared : J s.shared
  place : ∀ i, L i (s.pc i) s.shared
  pair : ∀ i j, i ≠ j → R i j (s.pc i) (s.pc j)

variable {call s} {J : S → Prop} {L : ι → P → S → Prop} {R : ι → ι → P → P → Prop}

/-- **Non-interference**: a step keeps the assertions if it establishes its own and keeps those of the other calls. -/
theorem Calls.Holds.step {i : ι} (h : s.Holds J L R) (hshared : J (call i s.shared (s.pc i)).2)
    (hown : L i (call i s.shared (s.pc i)).1 (call i s.shared (s.pc i)).2)
    (hothers : ∀ j, j ≠ i → L j (s.pc j) (call i s.shared (s.pc i)).2)
    (hpairs : ∀ j, j ≠ i → R i j (call i s.shared (s.pc i)).1 (s.pc j) ∧ R j i (s.pc j) (call i s.shared (s.pc i)).1) :
    (callStep call s i).Holds J L R := by
  refine ⟨hshared, fun j => ?_, fun j k hjk => ?_⟩
  · by_cases hj : j = i
    · subst hj
      rw [callStep_pc_self]
      exact hown
    · rw [callStep_pc_of_ne call s hj]
      exact hothers j hj
  · by_cases hj : j = i
    · subst hj
      rw [callStep_pc_self, callStep_pc_of_ne call s (Ne.symm hjk)]
      exact (hpairs k (Ne.symm hjk)).1
    by_cases hk : k = i
    · subst hk
      rw [callStep_pc_self, callStep_pc_of_ne call s hj]
      exact (hpairs j hj).2
    · rw [callStep_pc_of_ne call s hj, callStep_pc_of_ne call s hk]
      exact h.pair j k hjk

end

end Lib
