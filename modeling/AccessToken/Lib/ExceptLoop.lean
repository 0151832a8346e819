import Mathlib.Data.List.Forall2
/-!
# Loops in the error monad

What a fold or a map over a list has done when it ends without an error: every step succeeded.
-/
namespace Lib

variable {S A B E : Type} {f : A → Except E B} {R : A → B → Prop} {as : List A} {bs : List B}

theorem bind_eq_ok {x : Except E A} {b : B} : (x >>= f) = .ok b ↔ ∃ a, x = .ok a ∧ f a = .ok b := by
  constructor
  · intro h
    cases x with
    | error => cases h
    | ok a => exact ⟨a, rfl, h⟩
  · rintro ⟨a, rfl, h⟩
    exact h

/-- **What every successful step keeps**, the part of the list done included, holds at the end of the fold. -/
theorem foldlM_ok {f : S → A → Except E S} (P : List A → S → Prop)
    (hstep : ∀ pre s a s', P pre s → f s a = .ok s' → P (pre ++ [a]) s') :
    ∀ (as pre : List A) (s s' : S), P pre s → as.foldlM f s = .ok s' → P (pre ++ as) s'
  | [], pre, s, s', h, hok => by
    cases hok
    rw [List.append_nil]
    exact h
  | a :: as, pre, s, s', h, hok => by
    obtain ⟨t, ht, hok⟩ := bind_eq_ok.1 (by simpa only [List.foldlM_cons] using hok)
    have hrest := foldlM_ok P hstep as (pre ++ [a]) t s' (hstep pre s a t h ht) hok
    rwa [List.append_assoc] at hrest

theorem foldlM_succeeds {f : S → A → Except E S} : ∀ (as : List A) (s : S), (∀ s, ∀ a ∈ as, ∃ s', f s a = .ok s') →
    ∃ s', as.foldlM f s = .ok s'
  | [], s, _ => ⟨s, rfl⟩
  | a :: as, s, h => by
    obtain ⟨t, ht⟩ := h s a (by simp)
    obtain ⟨s', hs'⟩ := foldlM_succeeds as t (fun s b hb => h s b (by simp [hb]))
    exact ⟨s', by rw [List.foldlM_cons, ht]; exact hs'⟩

/-- **A map that ends without an error** has the results of the elements, in their order. -/
theorem mapM_ok : ∀ {as : List A} {bs : List B}, as.mapM f = .ok bs → List.Forall₂ (fun a b => f a = .ok b) as bs
  | [], bs, h => by
    cases h
    exact .nil
  | a :: as, bs, h => by
    rw [List.mapM_cons] at h
    obtain ⟨b, hb, h⟩ := bind_eq_ok.1 h
    obtain ⟨bs', hbs, h⟩ := bind_eq_ok.1 h
    cases h
    exact .cons hb (mapM_ok hbs)

theorem mapM_eq_map {g : A → B} : ∀ {as : List A}, (∀ a ∈ as, f a = .ok (g a)) → as.mapM f = .ok (as.map g)
  | [], _ => rfl
  | a :: as, h => by
    rw [List.mapM_cons, h a List.mem_cons_self, mapM_eq_map fun a ha => h a (List.mem_cons_of_mem _ ha)]
    rfl

section

variable (h : List.Forall₂ R as bs)
include h

theorem forall₂_mem_left : ∀ a ∈ as, ∃ b, (a, b) ∈ as.zip bs ∧ R a b := by
  induction h with
  | nil => simp
  | @cons a b as bs hab _ ih =>
    intro x hx
    rcases List.mem_cons.1 hx with rfl | hx
    · exact ⟨b, by simp, hab⟩
    · obtain ⟨y, hy, hxy⟩ := ih x hx
      exact ⟨y, by simp [hy], hxy⟩

theorem forall₂_mem_right : ∀ b ∈ bs, ∃ a ∈ as, R a b := by
  intro b hb
  obtain ⟨a, ha, hab⟩ := forall₂_mem_left (List.Forall₂.flip h) b hb
  exact ⟨a, (List.of_mem_zip ha).2, hab⟩

theorem forall₂_mem_zip {C : Type} {cs : List C} {a : A} {c : C} :
    (a, c) ∈ as.zip cs → ∃ b, (b, c) ∈ bs.zip cs ∧ R a b := by
  induction h generalizing cs with
  | nil => simp
  | @cons a' b as bs hab _ ih =>
    cases cs with
    | nil => simp
    | cons c' cs =>
      simp only [List.zip_cons_cons, List.mem_cons, Prod.mk.injEq]
      rintro (⟨rfl, rfl⟩ | hmem)
      · exact ⟨b, .inl ⟨rfl, rfl⟩, hab⟩
      · obtain ⟨b, hb, hab⟩ := ih hmem
        exact ⟨b, .inr hb, hab⟩

end

end Lib
