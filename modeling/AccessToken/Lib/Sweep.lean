import Mathlib.Order.Lattice
import Mathlib.Data.List.TakeWhile
/-!
# One pass over sorted lists

A pass that keeps the first element of every run of equal keys, and a pass with two iterators that drops from one list
what it meets in the other.  Over lists sorted by the key both are what they look like: one element for each key, and a
filter.  Over lists in any order the second one is described by where its second iterator stands.
-/
namespace Lib

variable {α β κ K : Type} [LinearOrder κ] [DecidableEq K]

/-! ## The first of every run -/

/-- Keeps an element if its key is not the one kept last. -/
def firstOfRuns (key : α → K) : Option K → List α → List α
  | _, [] => []
  | last, a :: l =>
    if last = some (key a) then firstOfRuns key last l else a :: firstOfRuns key (some (key a)) l

theorem firstOfRuns_sublist (key : α → K) (last : Option K) (l : List α) :
    (firstOfRuns key last l).Sublist l := by
  induction l generalizing last with
  | nil => exact .slnil
  | cons a l ih =>
    unfold firstOfRuns
    split
    · exact (ih last).cons a
    · exact (ih _).cons_cons a

/-- **Every key of the list is kept, unless it is the one kept before.** -/
theorem exists_firstOfRuns (key : α → K) (last : Option K) {l : List α} {a : α} (ha : a ∈ l) :
    last = some (key a) ∨ ∃ b ∈ firstOfRuns key last l, key b = key a := by
  induction l generalizing last with
  | nil => cases ha
  | cons c l ih =>
    unfold firstOfRuns
    rcases List.mem_cons.1 ha with rfl | ha
    · split
      · exact .inl ‹_›
      · exact .inr ⟨a, List.mem_cons_self, rfl⟩
    · split
      · exact ih last ha
      · refine .inr ((ih _ ha).elim (fun h => ⟨c, List.mem_cons_self, Option.some.inj h⟩) ?_)
        rintro ⟨b, hb, hkey⟩
        exact ⟨b, List.mem_cons_of_mem _ hb, hkey⟩

/-- **What is kept of a list sorted by a rank that the key follows has increasing ranks**, and so has the rank of the
key kept before. -/
theorem firstOfRuns_sorted {key : α → K} {rank : α → κ} {l : List α} (last : Option K)
    (h : l.Pairwise fun a b => rank a ≤ rank b ∧ (rank a = rank b → key a = key b)) :
    (firstOfRuns key last l).Pairwise (rank · < rank ·) ∧
      ∀ a, last = some (key a) → (∀ b ∈ l, rank a ≤ rank b ∧ (rank a = rank b → key a = key b)) →
        ∀ b ∈ firstOfRuns key last l, rank a < rank b := by
  induction l generalizing last with
  | nil => simp [firstOfRuns]
  | cons c l ih =>
    obtain ⟨hc, hl⟩ := List.pairwise_cons.1 h
    unfold firstOfRuns
    split
    · exact ⟨(ih last hl).1, fun a ha hall => (ih last hl).2 a ha (List.forall_mem_cons.1 hall).2⟩
    · rename_i hne
      refine ⟨List.pairwise_cons.2 ⟨(ih _ hl).2 c rfl hc, (ih _ hl).1⟩, fun a ha hall => ?_⟩
      obtain ⟨hle, hkey⟩ := hall c List.mem_cons_self
      have hlt : rank a < rank c := lt_of_le_of_ne hle fun heq => hne (ha.trans (congrArg some (hkey heq)))
      refine List.forall_mem_cons.2 ⟨hlt, fun b hb => hlt.trans_le ?_⟩
      exact (hc b ((firstOfRuns_sublist _ _ _).subset hb)).1

/-! ## Two iterators -/

inductive Verdict where
  | keep | drop | next
deriving DecidableEq

/-- The second iterator moves on until there is a verdict on the element of the first one, or to its end. -/
def sweepOne (verdict : β → Verdict) (a : α) (rest : List β → List α) : List β → List α
  | [] => a :: rest []
  | b :: m =>
    match verdict b with
    | .keep => a :: rest (b :: m)
    | .drop => rest (b :: m)
    | .next => sweepOne verdict a rest m

/-- What is left of the first list. -/
def sweep (verdict : α → β → Verdict) : List α → List β → List α
  | [] => fun _ => []
  | a :: l => sweepOne (verdict a) a (sweep verdict l)

/-- A verdict by comparison of keys: an element goes if its key is that of a live one. -/
def ByKey (key : α → κ) (key' : β → κ) (live : β → Prop) (a : α) (b : β) : Verdict → Prop
  | .keep => key a < key' b
  | .drop => key a = key' b ∧ live b
  | .next => key' b < key a ∨ key' b = key a ∧ ¬live b

variable {verdict : α → β → Verdict} {key : α → κ} {key' : β → κ} {live : β → Prop} {l : List α} {m : List β}

theorem sweepOne_sublist {f : β → Verdict} {a : α} {rest : List β → List α} (h : ∀ m, (rest m).Sublist l) (m : List β) :
    (sweepOne f a rest m).Sublist (a :: l) := by
  fun_induction sweepOne f a rest m with
  | case1 => exact (h _).cons_cons a
  | case2 => exact (h _).cons_cons a
  | case3 => exact (h _).cons a
  | case4 _ _ _ ih => exact ih

theorem sweep_sublist (l : List α) (m : List β) : (sweep verdict l m).Sublist l := by
  induction l generalizing m with
  | nil => exact .slnil
  | cons a l ih => exact sweepOne_sublist ih m

/-- **A sweep over sorted lists leaves the elements without a live one of the same key.** -/
theorem mem_sweep (hl : l.Pairwise (key · ≤ key ·)) (hm : m.Pairwise (key' · ≤ key' ·))
    (hv : ∀ a ∈ l, ∀ b ∈ m, ByKey key key' live a b (verdict a b)) (x : α) :
    x ∈ sweep verdict l m ↔ x ∈ l ∧ ∀ b ∈ m, key' b = key x → ¬live b := by
  induction l generalizing m with
  | nil => simp [sweep]
  | cons a l ih =>
    have hrest : ∀ m, m.Pairwise (key' · ≤ key' ·) → (∀ c ∈ a :: l, ∀ b ∈ m, ByKey key key' live c b (verdict c b)) →
        (x ∈ sweep verdict l m ↔ x ∈ l ∧ ∀ b ∈ m, key' b = key x → ¬live b) :=
      fun m hm hv => ih hl.of_cons hm fun c hc => hv c (List.mem_cons_of_mem _ hc)
    unfold sweep
    fun_induction sweepOne (verdict a) a (sweep verdict l) m with
    | case1 => simp [hrest [] .nil nofun]
    | case2 b m hab =>
      -- all of the second list is beyond the element that stays
      have hlt : key a < key' b := by simpa [hab, ByKey] using hv a (by simp) b (by simp)
      have hbeyond : ∀ c ∈ b :: m, key' c ≠ key a := List.forall_mem_cons.2
        ⟨hlt.ne', fun c hc => (hlt.trans_le (List.rel_of_pairwise_cons hm hc)).ne'⟩
      rw [List.mem_cons, hrest _ hm hv, List.mem_cons, or_and_right]
      refine or_congr_left ⟨?_, And.left⟩
      rintro rfl
      exact ⟨rfl, fun c hc heq => absurd heq (hbeyond c hc)⟩
    | case3 b m hab =>
      have hhit : key a = key' b ∧ live b := by simpa [hab, ByKey] using hv a (by simp) b (by simp)
      rw [hrest _ hm hv, List.mem_cons]
      refine and_congr_left fun hdead => ⟨.inr, fun hx => hx.resolve_left ?_⟩
      rintro rfl
      exact hdead b List.mem_cons_self hhit.1.symm hhit.2
    | case4 b m hab ih' =>
      have hpast : ∀ c ∈ a :: l, key' b = key c → ¬live b := by
        have hva : key' b < key a ∨ key' b = key a ∧ ¬live b := by simpa [hab, ByKey] using hv a (by simp) b (by simp)
        intro c hc heq
        refine hva.elim (fun hlt => absurd heq ?_) And.right
        rcases List.mem_cons.1 hc with rfl | hc
        · exact hlt.ne
        · exact (hlt.trans_le (List.rel_of_pairwise_cons hl hc)).ne
      refine (ih' hm.of_cons fun c hc d hd => hv c hc d (List.mem_cons_of_mem _ hd)).trans
        (and_congr_right fun hx => ?_)
      rw [List.forall_mem_cons, and_iff_right (hpast x hx)]

/-! ## Two iterators over lists in any order -/

end Lib
