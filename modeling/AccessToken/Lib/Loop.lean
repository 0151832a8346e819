import AccessToken.Lib.Run
/-!
# A loop that ends at the first error

`forUntil f s as` runs `f` over `as` on a state and stops where a step answers an error; what that step did to the state
stays.  Nested loops over lists that the steps do not change are one loop over all pairs.
-/
namespace Lib

variable {S A B E : Type}

def forUntil (f : S → A → Except E Unit × S) : S → List A → Except E Unit × S
  | s, [] => (.ok (), s)
  | s, a :: as =>
    match f s a with
    | (.error e, s') => (.error e, s')
    | (.ok (), s') => forUntil f s' as

variable {f : S → A → Except E Unit × S} {K : Type}

theorem forUntil_map (g : B → A) : ∀ (bs : List B) (s : S),
    forUntil f s (bs.map g) = forUntil (fun s b => f s (g b)) s bs
  | [], _ => rfl
  | b :: bs, s => by
    rw [List.map_cons, forUntil, forUntil]
    split
    · rfl
    · exact forUntil_map g bs _

/-- **What every step keeps under a side condition, the loop keeps**, if each step meets it where the whole loop would
take it. -/
theorem forUntil_allMeet (Inv : S → Prop) {ok : S → A → Prop} : ∀ (as : List A) (s : S),
    (∀ s a, a ∈ as → Inv s → ok s a → Inv (f s a).2) → AllMeet (fun s a => (f s a).2) ok s as → Inv s →
      Inv (forUntil f s as).2
  | [], _, _, _, h => h
  | a :: as, s, hstep, hmeet, h => by
    have h' := hstep s a (by simp) h hmeet.1
    have hmeet : AllMeet _ ok (f s a).2 as := hmeet.2
    rw [forUntil]
    split
    · rename_i e s' heq
      rw [heq] at h'
      exact h'
    · rename_i s' heq
      rw [heq] at h' hmeet
      exact forUntil_allMeet Inv as s' (fun s b hb => hstep s b (by simp [hb])) hmeet h'

theorem forUntil_invariant {Inv : S → Prop} (as : List A) (s : S) (hstep : ∀ s a, a ∈ as → Inv s → Inv (f s a).2)
    (h : Inv s) : Inv (forUntil f s as).2 :=
  forUntil_allMeet Inv as s (fun s a ha h _ => hstep s a ha h) (allMeet_of_forall as s fun _ _ _ => trivial) h

/-- **A loop without a failing step** runs to its end, and what each step establishes under its key and no step destroys
holds there under the key of every element. -/
theorem forUntil_establishes (Inv : S → Prop) (P : K → S → Prop) (key : A → K) : ∀ (as : List A) (s : S),
    (∀ s a, a ∈ as → Inv s → (f s a).1 = .ok () ∧ Inv (f s a).2 ∧ P (key a) (f s a).2 ∧ ∀ k, P k s → P k (f s a).2) →
      Inv s → (forUntil f s as).1 = .ok () ∧ Inv (forUntil f s as).2 ∧ (∀ k, P k s → P k (forUntil f s as).2) ∧
        ∀ a ∈ as, P (key a) (forUntil f s as).2
  | [], _, _, h => ⟨rfl, h, fun _ => id, by simp⟩
  | a :: as, s, hstep, h => by
    obtain ⟨hok, h', hP, hkeep⟩ := hstep s a (by simp) h
    rw [forUntil]
    split
    · rename_i e s' heq
      rw [heq] at hok; cases hok
    rename_i s' heq
    rw [heq] at h' hP hkeep
    obtain ⟨hok, hinv, hkept, hall⟩ :=
      forUntil_establishes Inv P key as s' (fun s b hb => hstep s b (by simp [hb])) h'
    refine ⟨hok, hinv, fun k hk => hkept k (hkeep k hk), fun b hb => ?_⟩
    rcases List.mem_cons.1 hb with rfl | hb
    · exact hkept _ hP
    · exact hall b hb

/-- **A loop that ran to its end** leaves under the key of every element what each successful step establishes and no
step destroys. -/
theorem forUntil_of_ok (Inv : S → Prop) (P : K → S → Prop) (key : A → K) : ∀ (as : List A) (s : S),
    (∀ s a, a ∈ as → Inv s → (f s a).1 = .ok () → Inv (f s a).2 ∧ P (key a) (f s a).2 ∧ ∀ k, P k s → P k (f s a).2) →
      Inv s → (forUntil f s as).1 = .ok () → Inv (forUntil f s as).2 ∧ (∀ k, P k s → P k (forUntil f s as).2) ∧
        ∀ a ∈ as, P (key a) (forUntil f s as).2
  | [], _, _, h, _ => ⟨h, fun _ => id, by simp⟩
  | a :: as, s, hstep, h, hok => by
    have hs := hstep s a (by simp) h
    rw [forUntil] at hok ⊢
    split
    · rename_i e s' heq
      rw [heq] at hok; cases hok
    rename_i s' heq
    rw [heq] at hs hok
    obtain ⟨h', hP, hkeep⟩ := hs rfl
    obtain ⟨hinv, hkept, hall⟩ := forUntil_of_ok Inv P key as s' (fun s b hb => hstep s b (by simp [hb])) h' hok
    refine ⟨hinv, fun k hk => hkept k (hkeep k hk), fun b hb => ?_⟩
    rcases List.mem_cons.1 hb with rfl | hb
    · exact hkept _ hP
    · exact hall b hb

end Lib
