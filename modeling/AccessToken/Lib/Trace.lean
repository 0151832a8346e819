import AccessToken.Lib.Loop
/-!
# What a loop tells the outside

A loop over a state whose steps emit something on the way: `traceFoldl` collects what the steps of a fold emit,
`traceUntil` what those of a loop that ends at the first error do, the failing step included.  A receiver of the
emissions is a fold of its own, and an invariant between state and receiver that every step keeps is kept by the loop.
-/
namespace Lib

variable {S A B E V : Type}

/-- The emissions along `as.foldl f s`. -/
def traceFoldl (f : S → A → S) (emit : S → A → List B) : S → List A → List B
  | _, [] => []
  | s, a :: as => emit s a ++ traceFoldl f emit (f s a) as

/-- The emissions along `forUntil f s as`. -/
def traceUntil (f : S → A → Except E Unit × S) (emit : S → A → List B) : S → List A → List B
  | _, [] => []
  | s, a :: as =>
    emit s a ++
      match f s a with
      | (.error _, _) => []
      | (.ok (), s') => traceUntil f emit s' as

/-- The elements of `as` that `forUntil f s as` gets past. -/
def passedUntil (f : S → A → Except E Unit × S) : S → List A → List A
  | _, [] => []
  | s, a :: as =>
    match f s a with
    | (.error _, _) => []
    | (.ok (), s') => a :: passedUntil f s' as

variable {recv : V → B → V} {emit : S → A → List B} {f : S → A → Except E Unit × S} {ok : S → A → Prop}

/-- **What every admitted step keeps between state and receiver, the fold keeps.** -/
theorem traceFoldl_allMeet (Inv : S → V → Prop) {f : S → A → S} : ∀ (as : List A) (s : S) (v : V),
      (∀ s v a, Inv s v → ok s a → Inv (f s a) ((emit s a).foldl recv v)) → AllMeet f ok s as → Inv s v →
        Inv (as.foldl f s) ((traceFoldl f emit s as).foldl recv v)
  | [], _, _, _, _, h => h
  | a :: as, s, v, hstep, hmeet, h => by
    rw [traceFoldl, List.foldl_append]
    exact traceFoldl_allMeet Inv as (f s a) _ hstep hmeet.2 (hstep s v a h hmeet.1)

/-- **The same for a loop that ends at the first error.** -/
theorem traceUntil_allMeet (Inv : S → V → Prop) : ∀ (as : List A) (s : S) (v : V),
      (∀ s v a, a ∈ as → Inv s v → ok s a → Inv (f s a).2 ((emit s a).foldl recv v)) →
      AllMeet (fun s a => (f s a).2) ok s as → Inv s v → Inv (forUntil f s as).2 ((traceUntil f emit s as).foldl recv v)
  | [], _, _, _, _, h => h
  | a :: as, s, v, hstep, hmeet, h => by
    have h' := hstep s v a List.mem_cons_self h hmeet.1
    have hmeet : AllMeet _ ok (f s a).2 as := hmeet.2
    rw [forUntil, traceUntil, List.foldl_append]
    cases hfa : f s a with
    | mk r s' =>
      rw [hfa] at h' hmeet
      cases r with
      | error => exact h'
      | ok => exact traceUntil_allMeet Inv as s' _ (fun s v b hb => hstep s v b (List.mem_cons_of_mem a hb)) hmeet h'

/-- **A loop whose every step goes through** goes through, and keeps what its steps keep. -/
theorem traceUntil_goesThrough (Inv : S → V → Prop) : ∀ (as : List A) (s : S) (v : V),
      (∀ s v a, a ∈ as → Inv s v → (f s a).1 = .ok () ∧ Inv (f s a).2 ((emit s a).foldl recv v)) → Inv s v →
        (forUntil f s as).1 = .ok () ∧ Inv (forUntil f s as).2 ((traceUntil f emit s as).foldl recv v)
  | [], _, _, _, h => ⟨rfl, h⟩
  | a :: as, s, v, hstep, h => by
    obtain ⟨hok, h'⟩ := hstep s v a List.mem_cons_self h
    rw [forUntil, traceUntil, List.foldl_append]
    cases hfa : f s a with
    | mk r s' =>
      rw [hfa] at hok h'
      obtain rfl : r = .ok () := hok
      exact traceUntil_goesThrough Inv as s' _ (fun s v b hb => hstep s v b (List.mem_cons_of_mem a hb)) h'

end Lib
