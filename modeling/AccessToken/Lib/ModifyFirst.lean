import Mathlib.Data.List.Basic
import Mathlib.Data.List.Nodup
/-!
# Writing through the iterator a `find_if` returned

`modifyFirst p f l` is `l` with `f` applied to its first element that satisfies `p`: what a C++ loop does when it writes
through the iterator `std::find_if` found.
-/
namespace Lib

variable {α κ : Type} {key : α → κ} {p q : α → Bool} {f : α → α} {a b : α} {l : List α}

def modifyFirst (p : α → Bool) (f : α → α) : List α → List α
  | [] => []
  | a :: l => if p a then f a :: l else a :: modifyFirst p f l

/-- The written element is found again, as long as the write keeps what the search tests. -/
theorem find?_modifyFirst (hf : ∀ a, p a = true → p (f a) = true) :
    ∀ (l : List α), (modifyFirst p f l).find? p = (l.find? p).map f
  | [] => rfl
  | a :: l => by
    cases hp : p a with
    | true => simp [modifyFirst, hp, hf a hp]
    | false => simp [modifyFirst, hp, find?_modifyFirst hf l]

theorem find?_modifyFirst_of_ne (hq : ∀ a, p a = true → q a = false ∧ q (f a) = false) :
    ∀ (l : List α), (modifyFirst p f l).find? q = l.find? q
  | [] => rfl
  | a :: l => by
    cases hp : p a with
    | true => simp [modifyFirst, hp, hq a hp]
    | false => simp [modifyFirst, hp, List.find?_cons, find?_modifyFirst_of_ne hq l]

theorem map_modifyFirst (hf : ∀ a, p a = true → key (f a) = key a) :
    ∀ (l : List α), (modifyFirst p f l).map key = l.map key
  | [] => rfl
  | a :: l => by
    cases hp : p a with
    | true => simp [modifyFirst, hp, hf a hp]
    | false => simp [modifyFirst, hp, map_modifyFirst hf l]

/-- An element of the written list is an old one, or the image of the first match. -/
theorem mem_modifyFirst {x : α} : ∀ {l : List α}, x ∈ modifyFirst p f l → x ∈ l ∨ ∃ a, l.find? p = some a ∧ x = f a
  | [], h => .inl h
  | a :: l, h => by
    cases hp : p a with
    | true =>
      simp only [modifyFirst, hp, if_true, List.mem_cons] at h
      rcases h with rfl | h
      · exact .inr ⟨a, by simp [hp], rfl⟩
      · exact .inl (List.mem_cons_of_mem _ h)
    | false =>
      simp only [modifyFirst, hp, Bool.false_eq_true, if_false, List.mem_cons] at h
      rcases h with rfl | h
      · exact .inl List.mem_cons_self
      · rcases mem_modifyFirst h with h | ⟨b, hb, rfl⟩
        · exact .inl (List.mem_cons_of_mem _ h)
        · exact .inr ⟨b, by simp [hp, hb], rfl⟩

theorem countP_modifyFirst :
    ∀ {l : List α}, l.find? p = some a → (modifyFirst p f l).countP q + (q a).toNat = l.countP q + (q (f a)).toNat
  | [], h => by cases h
  | b :: l, h => by
    cases hp : p b with
    | true =>
      obtain rfl : b = a := by simpa [hp] using h
      cases hb : q b <;> cases hf : q (f b) <;> simp [modifyFirst, hp, hb, hf]
    | false =>
      have hrest := countP_modifyFirst (by simpa [hp] using h)
      simp only [modifyFirst, hp, Bool.false_eq_true, if_false, List.countP_cons]
      omega

theorem modifyFirst_eq_self : ∀ {l : List α}, (∀ a, l.find? p = some a → f a = a) → modifyFirst p f l = l
  | [], _ => rfl
  | a :: l, hf => by
    cases hp : p a with
    | true => simp [modifyFirst, hp, hf a (by simp [hp])]
    | false =>
      have := modifyFirst_eq_self (l := l) fun b hb => hf b (by simp [hp, hb])
      simp [modifyFirst, hp, this]

theorem modifyFirst_modifyFirst_cancel {g : α → α} (hf : ∀ a, p a = true → p (f a) = true) :
    ∀ {l : List α}, (∀ a, l.find? p = some a → g (f a) = a) → modifyFirst p g (modifyFirst p f l) = l
  | [], _ => rfl
  | a :: l, hgf => by
    cases hp : p a with
    | true => simp [modifyFirst, hp, hf a hp, hgf a (by simp [hp])]
    | false =>
      have := modifyFirst_modifyFirst_cancel hf (l := l) fun b hb => hgf b (by simp [hp, hb])
      simp [modifyFirst, hp, this]

/-- With distinct keys, the element a search by key finds is the only one with that key. -/
theorem eq_of_find?_key [DecidableEq κ] (hnd : (l.map key).Nodup) {k : κ}
    (ha : l.find? (fun x => key x == k) = some a) (hb : b ∈ l) (hk : key b = k) : b = a := by
  have hka : key a = k := by simpa using List.find?_some ha
  exact List.inj_on_of_nodup_map hnd hb (List.mem_of_find?_eq_some ha) (hk.trans hka.symm)

theorem find?_key_of_mem [DecidableEq κ] (hnd : (l.map key).Nodup) (hb : b ∈ l) :
    l.find? (fun x => key x == key b) = some b := by
  cases h : l.find? (fun x => key x == key b) with
  | none => exact absurd (List.find?_eq_none.1 h b hb) (by simp)
  | some => rw [eq_of_find?_key hnd h hb rfl]

/-- With distinct keys, at most one element has a given key: the one a search finds. -/
theorem filter_key_eq_toList [DecidableEq κ] (key : α → κ) (k : κ) :
    ∀ {l : List α}, (l.map key).Nodup → l.filter (fun x => key x == k) = (l.find? (fun x => key x == k)).toList
  | [], _ => rfl
  | a :: l, hnd => by
    obtain ⟨hnew, hnd⟩ := List.nodup_cons.1 hnd
    rw [List.filter_cons, List.find?_cons]
    by_cases ha : key a = k
    · have hrest : l.filter (fun x => key x == k) = [] := by
        rw [List.filter_eq_nil_iff]
        intro b hb hk
        exact hnew (List.mem_map.2 ⟨b, hb, (by simpa using hk : key b = k).trans ha.symm⟩)
      simp [ha, hrest]
    · have hbeq : (key a == k) = false := by simpa using ha
      rw [hbeq, if_neg Bool.false_ne_true]
      exact filter_key_eq_toList key k hnd

/-- The elements that satisfy what the search tests: the first of them is written. -/
theorem filter_modifyFirst (hf : ∀ a, p a = true → p (f a) = true) :
    ∀ (l : List α), (modifyFirst p f l).filter p = (l.filter p).modifyHead f
  | [] => rfl
  | a :: l => by
    cases hp : p a with
    | true => simp [modifyFirst, hp, hf a hp]
    | false => simp [modifyFirst, hp, filter_modifyFirst hf l]

theorem filter_modifyFirst_of_ne (hq : ∀ a, p a = true → q a = false ∧ q (f a) = false) :
    ∀ (l : List α), (modifyFirst p f l).filter q = l.filter q
  | [] => rfl
  | a :: l => by
    cases hp : p a with
    | true => simp [modifyFirst, hp, hq a hp]
    | false => simp [modifyFirst, hp, List.filter_cons, filter_modifyFirst_of_ne hq l]

theorem filter_eraseP (p : α → Bool) : ∀ (l : List α), (l.eraseP p).filter p = (l.filter p).tail
  | [] => rfl
  | a :: l => by
    cases hp : p a with
    | true => simp [hp]
    | false => simp [hp, filter_eraseP p l]

theorem filter_eraseP_of_ne (hq : ∀ a, p a = true → q a = false) : ∀ (l : List α), (l.eraseP p).filter q = l.filter q
  | [] => rfl
  | a :: l => by
    cases hp : p a with
    | true => simp [hp, hq a hp]
    | false => simp [hp, List.filter_cons, filter_eraseP_of_ne hq l]

end Lib
