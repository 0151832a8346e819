import Mathlib.Data.List.Basic
import Mathlib.Data.Nat.Digits.Defs
import Mathlib.Tactic.Common
/-!
# Decimal numbers and separated lists of them

`std::to_string` and `std::from_chars` on whole strings, and the usual text form of a list: the items with one separator
character between them, blanks around an item ignored, empty items skipped, at most `max` items read.  `parseList_join`
is the round trip.
-/
namespace Lib

/-- `std::to_string`. -/
def toDecimal (n : Int) : List Char :=
  if n < 0 then '-' :: Nat.toDigits 10 n.natAbs else Nat.toDigits 10 n.natAbs

/-- A non-empty run of decimal digits and nothing else. -/
def natOfDigits (cs : List Char) : Option Nat :=
  if cs ≠ [] ∧ cs.all Char.isDigit then some (Nat.ofDigitChars 10 cs 0) else none

def intOfDigits : List Char → Option Int
  | '-' :: ds => (natOfDigits ds).map fun n => -Int.ofNat n
  | ds => (natOfDigits ds).map Int.ofNat

/-- `std::from_chars` consuming the whole text, into a signed type with the values `lo ≤ n ≤ hi`. -/
def fromCharsSigned (lo hi : Int) (cs : List Char) : Option Int :=
  (intOfDigits cs).filter fun n => decide (lo ≤ n ∧ n ≤ hi)

/-- `std::from_chars` consuming the whole text, into an unsigned type with the values `n ≤ hi`; no sign is accepted. -/
def fromCharsUnsigned (hi : Nat) (cs : List Char) : Option Nat := (natOfDigits cs).filter fun n => decide (n ≤ hi)

def isBlank (c : Char) : Bool := c == ' ' || c == '\t'

def trimBlanks (cs : List Char) : List Char := ((cs.dropWhile isBlank).reverse.dropWhile isBlank).reverse

/-- The items appended one after the other, with the separator before each unless the result is still empty. -/
def joinFrom (sep : Char) : List Char → List (List Char) → List Char
  | acc, [] => acc
  | acc, item :: items => joinFrom sep ((if acc.isEmpty then acc else acc ++ [sep]) ++ item) items

variable {α : Type} {parse : List Char → Option α} {render : α → List Char} {n : Nat} {c sep : Char}

/-- The items read after `count` earlier ones. -/
def parseItems (parse : List Char → Option α) (max : Nat) : Nat → List (List Char) → Option (List α)
  | _, [] => some []
  | count, item :: items =>
    if (trimBlanks item).isEmpty then parseItems parse max count items
    else
      match parse (trimBlanks item) with
      | none => none
      | some v => if count ≥ max then none else (parseItems parse max (count + 1) items).map (v :: ·)

def parseList (parse : List Char → Option α) (sep : Char) (max : Nat) (cs : List Char) : Option (List α) :=
  if cs.isEmpty then some [] else parseItems parse max 0 (cs.splitOn sep)

/-! ## Numbers -/

theorem natOfDigits_toDigits (n : Nat) : natOfDigits (Nat.toDigits 10 n) = some n := by
  have hall : (Nat.toDigits 10 n).all Char.isDigit = true := by
    rw [List.all_eq_true]
    exact fun c hc => Nat.isDigit_of_mem_toDigits (by decide) (by decide) hc
  rw [natOfDigits, if_pos ⟨Nat.toDigits_ne_nil, hall⟩, Nat.ofDigitChars_ten_toDigits]

theorem toDigits_head_ne_minus {ds : List Char} : Nat.toDigits 10 n ≠ '-' :: ds := by
  intro h
  have hdigit := Nat.isDigit_of_mem_toDigits (b := 10) (by decide) (by decide) (by rw [h]; exact List.mem_cons_self)
  exact absurd hdigit (by decide)

theorem intOfDigits_toDecimal (n : Int) : intOfDigits (toDecimal n) = some n := by
  unfold toDecimal
  by_cases hneg : n < 0
  · have habs : -Int.ofNat n.natAbs = n := by simp only [Int.ofNat_eq_natCast]; omega
    rw [if_pos hneg, intOfDigits, natOfDigits_toDigits, Option.map_some, habs]
  have habs : Int.ofNat n.natAbs = n := by simp only [Int.ofNat_eq_natCast]; omega
  rw [if_neg hneg]
  unfold intOfDigits
  split
  · rename_i hds
    exact absurd hds toDigits_head_ne_minus
  · rw [natOfDigits_toDigits, Option.map_some, habs]

theorem fromCharsSigned_toDecimal {lo hi n : Int} (hlo : lo ≤ n) (hhi : n ≤ hi) :
    fromCharsSigned lo hi (toDecimal n) = some n := by
  rw [fromCharsSigned, intOfDigits_toDecimal, Option.filter_some, if_pos (by simp [hlo, hhi])]

theorem fromCharsUnsigned_toDecimal {hi : Nat} (hhi : n ≤ hi) : fromCharsUnsigned hi (toDecimal n) = some n := by
  unfold toDecimal fromCharsUnsigned
  rw [if_neg (by omega), Int.natAbs_natCast, natOfDigits_toDigits]
  simp [hhi]

theorem mem_toDecimal {n : Int} (h : c ∈ toDecimal n) : c = '-' ∨ c.isDigit = true := by
  unfold toDecimal at h
  split at h
  · rcases List.mem_cons.1 h with rfl | h
    · exact .inl rfl
    · exact .inr (Nat.isDigit_of_mem_toDigits (by decide) (by decide) h)
  · exact .inr (Nat.isDigit_of_mem_toDigits (by decide) (by decide) h)

theorem toDecimal_ne_nil {n : Int} : toDecimal n ≠ [] := by
  unfold toDecimal
  split
  · simp
  · exact Nat.toDigits_ne_nil

theorem toDecimal_injective {i j : Int} (h : toDecimal i = toDecimal j) : i = j := by
  have hparsed := congrArg intOfDigits h
  rw [intOfDigits_toDecimal, intOfDigits_toDecimal] at hparsed
  exact Option.some.inj hparsed

/-! ## Lists -/

theorem append_sep_inj_left : ∀ {a b x y : List Char}, c ∉ a → c ∉ b → a ++ c :: x = b ++ c :: y → a = b ∧ x = y
  | [], [], x, y, _, _, h => ⟨rfl, (List.cons.inj h).2⟩
  | [], b :: bs, x, y, _, hb, h => absurd (List.cons.inj h).1 fun he => hb (he ▸ List.mem_cons_self)
  | a :: as, [], x, y, ha, _, h => absurd (List.cons.inj h).1 fun he => ha (he ▸ List.mem_cons_self)
  | a :: as, b :: bs, x, y, ha, hb, h => by
    obtain ⟨hab, htail⟩ := List.cons.inj h
    obtain ⟨has, hxy⟩ := append_sep_inj_left (fun hm => ha (List.mem_cons_of_mem _ hm))
      (fun hm => hb (List.mem_cons_of_mem _ hm)) htail
    exact ⟨by rw [hab, has], hxy⟩

theorem trimBlanks_of_no_blank {cs : List Char} (h : ∀ c ∈ cs, isBlank c = false) : trimBlanks cs = cs := by
  have hdrop : ∀ l : List Char, (∀ c ∈ l, isBlank c = false) → l.dropWhile isBlank = l := by
    intro l hl
    cases l with
    | nil => rfl
    | cons c => rw [List.dropWhile_cons_of_neg (by simp [hl c List.mem_cons_self])]
  unfold trimBlanks
  rw [hdrop cs h, hdrop _ (fun c hc => h c (List.mem_reverse.1 hc)), List.reverse_reverse]

theorem joinFrom_of_ne_nil (sep : Char) : ∀ (items : List (List Char)) (acc : List Char), acc ≠ [] →
    joinFrom sep acc items = [sep].intercalate (acc :: items)
  | [], acc, _ => by simp [joinFrom, List.intercalate]
  | item :: items, acc, hacc => by
    have hne : acc ++ [sep] ++ item ≠ [] := by simp
    rw [joinFrom, if_neg (by simpa using hacc), joinFrom_of_ne_nil sep items _ hne]
    cases items with
    | nil => simp [List.intercalate]
    | cons => simp [List.intercalate]

theorem joinFrom_nil {items : List (List Char)} (hne : ∀ i ∈ items, i ≠ []) :
    joinFrom sep [] items = [sep].intercalate items := by
  cases items with
  | nil => rfl
  | cons item items =>
    exact joinFrom_of_ne_nil sep items item (hne item List.mem_cons_self)

theorem parseItems_map (max : Nat) : ∀ (vs : List α) (count : Nat), (∀ v ∈ vs, parse (render v) = some v) →
      (∀ v ∈ vs, ∀ c ∈ render v, isBlank c = false) → (∀ v ∈ vs, render v ≠ []) → count + vs.length ≤ max →
      parseItems parse max count (vs.map render) = some vs
  | [], _, _, _, _, _ => rfl
  | v :: vs, count, hparse, hblank, hne, hlen => by
    have hv := List.mem_cons_self (a := v) (l := vs)
    have htrim := trimBlanks_of_no_blank (hblank v hv)
    rw [List.length_cons] at hlen
    have ih := parseItems_map max vs (count + 1) (fun w hw => hparse w (List.mem_cons_of_mem _ hw))
      (fun w hw => hblank w (List.mem_cons_of_mem _ hw)) (fun w hw => hne w (List.mem_cons_of_mem _ hw)) (by omega)
    rw [List.map_cons, parseItems, htrim, if_neg (by simpa using hne v hv), hparse v hv]
    simp only
    rw [if_neg (by omega), ih]
    rfl

/-- **A list written by joining its items is read back**, when each item is, holds no separator and no blank, and there
are at most `max`. -/
theorem parseList_join {max : Nat} {vs : List α}
    (hparse : ∀ v ∈ vs, parse (render v) = some v) (hsep : ∀ v ∈ vs, sep ∉ render v)
    (hblank : ∀ v ∈ vs, ∀ c ∈ render v, isBlank c = false) (hne : ∀ v ∈ vs, render v ≠ []) (hlen : vs.length ≤ max) :
    parseList parse sep max (joinFrom sep [] (vs.map render)) = some vs := by
  have hne' : ∀ i ∈ vs.map render, i ≠ [] := by
    intro i hi
    obtain ⟨v, hv, rfl⟩ := List.mem_map.1 hi
    exact hne v hv
  rw [joinFrom_nil hne']
  cases vs with
  | nil => rfl
  | cons v vs =>
    have hnotempty : ([sep].intercalate ((v :: vs).map render)).isEmpty = false := by
      have hv := hne v List.mem_cons_self
      cases vs <;> simp [List.intercalate, hv]
    unfold parseList
    rw [hnotempty, if_neg Bool.false_ne_true, List.splitOn_intercalate]
    · exact parseItems_map max _ 0 hparse hblank hne (by simpa using hlen)
    · intro l hl
      obtain ⟨w, hw, rfl⟩ := List.mem_map.1 hl
      exact hsep w hw
    · simp

end Lib
