import AccessToken.Kernel.SpmData
import Mathlib.Data.List.FinRange
/-!
# The permission words of the kernel

`perm_setproc.cpp` packs a list of op codes into the words an `ioctl` carries and unpacks the words it brings back;
`BuildPermissionBitmap` packs the entries of a permission list for the SPM entry.
-/
namespace AccessToken.Kernel

def maxPermBitMapSize : Nat := 64

def accessTokenOk : Int := 0

def accessTokenParamInvalid : Int := -1

abbrev PermWords := Vector (BitVec 32) maxPermBitMapSize

namespace PermWords

def zero : PermWords := Vector.replicate maxPermBitMapSize 0

/-- `perms[idx] |= 0x01 << bitIdx`. -/
def setCode (perms : PermWords) (code : Nat) (h : code / 32 < maxPermBitMapSize) : PermWords :=
  perms.set (code / 32) (perms[code / 32] ||| 1#32 <<< (code % 32))

/-- The words `AddPermissionToKernel` packs; `none` is its rejection of a code out of range. -/
def ofCodes : List Nat → PermWords → Option PermWords
  | [], perms => some perms
  | opCode :: rest, perms =>
    if h : opCode / 32 < maxPermBitMapSize then ofCodes rest (perms.setCode opCode h) else none

/-- One turn of the outer loop of `GetPermissionsFromKernel`. -/
def wordCodes (i : Nat) (word : BitVec 32) : List Nat :=
  if word = 0 then [] else ((List.range 32).filter fun j => word &&& 1#32 <<< j != 0).map (i * 32 + ·)

def codes (perms : PermWords) : List Nat :=
  (List.finRange maxPermBitMapSize).flatMap fun i : Fin _ => wordCodes i perms[i]

end PermWords

/-- The words the kernel holds for each token; its `ioctl`s are taken to succeed. -/
abbrev WordKernel := AccessTokenID → PermWords

namespace WordKernel

def addPermissionToKernel (k : WordKernel) (tokenID : AccessTokenID) (opCodeList : List Nat) : Int × WordKernel :=
  match PermWords.ofCodes opCodeList .zero with
  | none => (accessTokenParamInvalid, k)
  | some perms => (accessTokenOk, Function.update k tokenID perms)

def getPermissionsFromKernel (k : WordKernel) (tokenID : AccessTokenID) : List Nat := (k tokenID).codes

end WordKernel

/-- One turn of the loop of `BuildPermissionBitmap`. -/
def packEntry (needGrant : Bool) (bitmap : PermWords) (permData : BriefPermData) : PermWords :=
  if needGrant && permData.status != permissionGranted then bitmap
  else if h : permData.permCode / 32 < maxPermBitMapSize then bitmap.setCode permData.permCode h
  else bitmap

def buildPermissionBitmap (permBriefDataList : List BriefPermData) (needGrant : Bool) : PermWords :=
  permBriefDataList.foldl (packEntry needGrant) .zero

/-! ## The bit of a code -/

namespace PermWords

variable {perms : PermWords} {l : List Nat} {c code i j : Nat} {w : BitVec 32}

def has (perms : PermWords) (code : Nat) : Bool :=
  if h : code / 32 < maxPermBitMapSize then perms[code / 32].getLsbD (code % 32) else false

theorem getLsbD_or_one_shiftLeft (hj : j < 32) : (w ||| 1#32 <<< j).getLsbD i = (w.getLsbD i || decide (i = j)) := by
  rw [BitVec.getLsbD_or, ← BitVec.twoPow_eq, BitVec.getLsbD_twoPow]
  simp [hj, eq_comm]

theorem and_one_shiftLeft_ne_zero (hj : j < 32) : w &&& 1#32 <<< j ≠ 0#32 ↔ w.getLsbD j = true := by
  have hpow : BitVec.twoPow 32 j ≠ 0#32 := fun h => by simpa [hj] using congrArg (·.getLsbD j) h
  rw [← BitVec.twoPow_eq, BitVec.and_twoPow]
  cases w.getLsbD j <;> simp [hpow]

theorem has_zero : zero.has code = false := by simp [has, zero]

theorem has_setCode (h : c / 32 < maxPermBitMapSize) :
    (perms.setCode c h).has code = (perms.has code || code == c) := by
  unfold has setCode
  by_cases hword : c / 32 = code / 32
  · have heq : code = c ↔ code % 32 = c % 32 := by omega
    simp only [← hword, h, ↓reduceDIte, Vector.getElem_set_self, getLsbD_or_one_shiftLeft (Nat.mod_lt c (by decide)),
      beq_eq_decide, heq]
  · have hne : code ≠ c := fun heq => hword (by rw [heq])
    simp [Vector.getElem_set_ne, hword, hne]

theorem isSome_ofCodes : (ofCodes l perms).isSome = l.all (· / 32 < maxPermBitMapSize) := by
  induction l generalizing perms with
  | nil => rfl
  | cons =>
    unfold ofCodes
    split <;> simp [*]

theorem has_of_ofCodes {perms' : PermWords} (h : ofCodes l perms = some perms') :
    perms'.has code = (perms.has code || l.contains code) := by
  induction l generalizing perms with
  | nil => cases h; simp
  | cons c l ih =>
    unfold ofCodes at h
    split at h
    · rw [ih h, has_setCode, List.contains_cons, Bool.or_assoc]
    · cases h

theorem mem_wordCodes : c ∈ wordCodes i w ↔ c / 32 = i ∧ w.getLsbD (c % 32) = true := by
  have hlt : c % 32 < 32 := Nat.mod_lt _ (by decide)
  unfold wordCodes
  split
  · simp [*]
  · simp only [List.mem_map, List.mem_filter, List.mem_range, bne_iff_ne]
    constructor
    · rintro ⟨j, ⟨hj, hbit⟩, rfl⟩
      rw [show (i * 32 + j) / 32 = i by omega, show (i * 32 + j) % 32 = j by omega]
      exact ⟨rfl, (and_one_shiftLeft_ne_zero hj).1 hbit⟩
    · rintro ⟨rfl, hbit⟩
      exact ⟨c % 32, ⟨hlt, (and_one_shiftLeft_ne_zero hlt).2 hbit⟩, by omega⟩

theorem mem_codes : c ∈ perms.codes ↔ perms.has c = true := by
  simp only [codes, has, List.mem_flatMap, List.mem_finRange, true_and, mem_wordCodes]
  constructor
  · rintro ⟨i, hi, hbit⟩
    simpa [hi] using hbit
  · intro h
    split at h
    · exact ⟨⟨c / 32, ‹_›⟩, rfl, h⟩
    · cases h

theorem codes_sorted : perms.codes.Pairwise (· < ·) := by
  refine List.pairwise_flatMap.2 ⟨fun i _ => ?_, ?_⟩
  · unfold wordCodes
    split
    · exact .nil
    · refine List.pairwise_map.2 ((List.pairwise_lt_range.filter _).imp fun h => ?_)
      omega
  · refine (List.pairwise_lt_finRange _).imp fun hij c hc d hd => ?_
    rw [mem_wordCodes] at hc hd
    omega

end PermWords

/-! ## The two encoders -/

theorem ofCodes_granted {list : List BriefPermData} (h : ∀ d ∈ list, d.permCode < 32 * maxPermBitMapSize)
    (perms : PermWords) :
    PermWords.ofCodes (grantedOpCodeList list) perms = some (list.foldl (packEntry true) perms) := by
  induction list generalizing perms with
  | nil => rfl
  | cons d list ih =>
    have hd : d.permCode / 32 < maxPermBitMapSize := by have := h d List.mem_cons_self; omega
    rw [List.foldl_cons, ← ih fun d' hd' => h d' (List.mem_cons_of_mem _ hd')]
    by_cases hgranted : d.status = permissionGranted
    · simp [grantedOpCodeList, packEntry, PermWords.ofCodes, hgranted, hd]
    · simp [grantedOpCodeList, packEntry, hgranted]

namespace WordKernel

/-- **Op codes in range come back from the kernel sorted and without repetitions; a code out of range is rejected before
the kernel is reached; and the two encoders give the same words.** -/
theorem words_hold_the_codes (k : WordKernel) (tokenID : AccessTokenID) (opCodeList : List Nat)
    (list : List BriefPermData) (hlist : ∀ d ∈ list, d.permCode < 32 * maxPermBitMapSize) :
    let r := k.addPermissionToKernel tokenID opCodeList
    (if ∀ c ∈ opCodeList, c < 32 * maxPermBitMapSize then
      r.1 = accessTokenOk ∧ (r.2.getPermissionsFromKernel tokenID).Pairwise (· < ·)
        ∧ ∀ c, c ∈ r.2.getPermissionsFromKernel tokenID ↔ c ∈ opCodeList
    else r = (accessTokenParamInvalid, k))
    ∧ (k.addPermissionToKernel tokenID (grantedOpCodeList list)).2 tokenID = buildPermissionBitmap list true := by
  refine ⟨?_, by simp [addPermissionToKernel, ofCodes_granted hlist, buildPermissionBitmap]⟩
  have hin : (∀ c ∈ opCodeList, c < 32 * maxPermBitMapSize) ↔ (PermWords.ofCodes opCodeList .zero).isSome := by
    simp [PermWords.isSome_ofCodes, Nat.div_lt_iff_lt_mul, Nat.mul_comm]
  simp only [hin, addPermissionToKernel]
  cases hcodes : PermWords.ofCodes opCodeList .zero with
  | none => simp
  | some =>
    simp [getPermissionsFromKernel, PermWords.codes_sorted, PermWords.mem_codes, PermWords.has_of_ofCodes hcodes,
      PermWords.has_zero]

theorem granted_code_packed :
    let list : List BriefPermData :=
      [⟨permissionGranted, 0, 40, 0⟩, ⟨permissionDenied, 0, 7, 0⟩, ⟨permissionGranted, 0, 40, 0⟩]
    let k := (addPermissionToKernel (fun _ => .zero) 1 (grantedOpCodeList list)).2
    (k.getPermissionsFromKernel 1).Pairwise (· < ·) ∧ (∀ c, c ∈ k.getPermissionsFromKernel 1 ↔ c ∈ [40, 40]) ∧
      k 1 = buildPermissionBitmap list true := by
  intro list k
  obtain ⟨hcodes, hbitmap⟩ := words_hold_the_codes (fun _ => .zero) 1 (grantedOpCodeList list) list (by decide)
  rw [if_pos (by decide)] at hcodes
  exact ⟨hcodes.2.1, hcodes.2.2, hbitmap⟩

end WordKernel
end AccessToken.Kernel
