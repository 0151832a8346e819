import Mathlib.Logic.Relation
/-!
# Runs of a machine whose steps may carry a side condition

A machine is a total `step : S → A → S`; everything nondeterministic (a failing write, an iteration order, a random
draw) is part of the action.  `Reaches step ok s s'` says `s'` is reached from `s` by steps each of which meets `ok` in
the state it is taken from, so `fun _ _ => True` gives every run.  `Reaches.invariant` is the one induction the
invariants of this development go through.
-/
namespace Lib

variable {S A : Type}

/-- One step, taken from a state where its action meets `ok`. -/
def StepIf (step : S → A → S) (ok : S → A → Prop) (s s' : S) : Prop := ∃ a, ok s a ∧ s' = step s a

/-- **The states reached by steps that all meet `ok`.** -/
def Reaches (step : S → A → S) (ok : S → A → Prop) : S → S → Prop := Relation.ReflTransGen (StepIf step ok)

def Always (_ : S) (_ : A) : Prop := True

/-- Every step of the action list meets `ok` where it is taken. -/
def AllMeet (step : S → A → S) (ok : S → A → Prop) : S → List A → Prop
  | _, [] => True
  | s, a :: as => ok s a ∧ AllMeet step ok (step s a) as

instance decidableAllMeet (step : S → A → S) (ok : S → A → Prop) [∀ s a, Decidable (ok s a)] :
    ∀ (s : S) (as : List A), Decidable (AllMeet step ok s as)
  | _, [] => inferInstanceAs (Decidable True)
  | s, a :: as =>
    have := decidableAllMeet step ok (step s a) as
    inferInstanceAs (Decidable (_ ∧ _))

variable {step : S → A → S} {ok : S → A → Prop} {s : S}

theorem Reaches.refl : Reaches step ok s s := Relation.ReflTransGen.refl

theorem Reaches.snoc {s s' : S} (h : Reaches step ok s s') {a : A} (ha : ok s' a) : Reaches step ok s (step s' a) :=
  Relation.ReflTransGen.tail h ⟨a, ha, rfl⟩

/-- **What holds at the start and is kept by every admitted step holds in every state reached.** -/
theorem Reaches.invariant {Inv : S → Prop} (hstep : ∀ s a, Inv s → ok s a → Inv (step s a)) {s' : S}
    (h : Reaches step ok s s') (hs : Inv s) : Inv s' := by
  induction h with
  | refl => exact hs
  | tail _ hlast ih =>
    obtain ⟨a, ha, rfl⟩ := hlast
    exact hstep _ a ih ha

theorem reaches_foldl : ∀ (as : List A) (s : S), AllMeet step ok s as → Reaches step ok s (as.foldl step s)
  | [], _, _ => Reaches.refl
  | a :: as, s, h => Relation.ReflTransGen.head ⟨a, h.1, rfl⟩ (reaches_foldl as (step s a) h.2)

/-- **What every admitted step of a fixed list keeps, the list keeps.** -/
theorem AllMeet.invariant (Inv : S → Prop) (hstep : ∀ s a, Inv s → ok s a → Inv (step s a)) {as : List A}
    (h : AllMeet step ok s as) (hs : Inv s) : Inv (as.foldl step s) := by
  induction as generalizing s with
  | nil => exact hs
  | cons a as ih => exact ih h.2 (hstep s a hs h.1)

theorem allMeet_of_forall : ∀ (as : List A) (s : S), (∀ a ∈ as, ∀ s, ok s a) → AllMeet step ok s as
  | [], _, _ => trivial
  | a :: as, s, h => ⟨h a List.mem_cons_self s, allMeet_of_forall as _ fun b hb => h b (List.mem_cons_of_mem a hb)⟩

theorem reaches_always (as : List A) (s : S) : Reaches step Always s (as.foldl step s) :=
  reaches_foldl as s (allMeet_of_forall as s fun _ _ _ => trivial)

def both (step : S → A → S) (s : S × S) (a : A) : S × S := (step s.1 a, step s.2 a)

theorem foldl_both : ∀ (as : List A) (s : S × S), as.foldl (both step) s = (as.foldl step s.1, as.foldl step s.2)
  | [], _ => rfl
  | a :: as, s => foldl_both as (both step s a)

theorem allMeet_both : ∀ (as : List A) (s : S × S),
    AllMeet (both step) (fun s a => ok s.2 a) s as ↔ AllMeet step ok s.2 as
  | [], _ => Iff.rfl
  | a :: as, s => and_congr_right fun _ => allMeet_both as (both step s a)

/-- **Where a step keeps `G` exactly when it meets `ok`, a list of steps keeps `G` throughout exactly when each of them
meets `ok`.**  `J` is what `G` and the `valid` actions maintain besides. -/
theorem forall_prefix_iff_allMeet {J G : S → Prop} {valid : A → Prop} (hJ : ∀ s a, J s → G s → valid a → J (step s a))
    (hG : ∀ s a, J s → G s → valid a → (G (step s a) ↔ ok s a)) :
    ∀ (as : List A) (s : S), J s → G s → (∀ a ∈ as, valid a) →
      ((∀ p, p <+: as → G (p.foldl step s)) ↔ AllMeet step ok s as)
  | [], s, _, hs, _ => by
    constructor
    · intro _
      exact trivial
    · intro _ p hp
      rw [List.prefix_nil.mp hp]
      exact hs
  | a :: as, s, hj, hs, hvalid => by
    have ha := hvalid a (List.mem_cons_self ..)
    have hrest := fun h => forall_prefix_iff_allMeet hJ hG as (step s a) (hJ s a hj hs ha) h
      (fun b hb => hvalid b (List.mem_cons_of_mem _ hb))
    constructor
    · intro h
      have hone : G (step s a) := h [a] ⟨as, rfl⟩
      refine ⟨(hG s a hj hs ha).mp hone, (hrest hone).mp ?_⟩
      intro p hp
      exact h (a :: p) ((List.prefix_cons_inj a).mpr hp)
    · rintro ⟨hok, hall⟩ p hp
      have hone : G (step s a) := (hG s a hj hs ha).mpr hok
      cases p with
      | nil => exact hs
      | cons b p =>
        obtain ⟨rfl, htail⟩ := List.cons_prefix_cons.mp hp
        exact (hrest hone).mpr hall p htail

end Lib
