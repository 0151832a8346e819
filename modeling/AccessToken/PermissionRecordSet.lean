import AccessToken.Basic
import AccessToken.Lib.Sweep
import Mathlib.Data.Prod.Lex
import Mathlib.Data.String.Basic
/-!
# PermissionRecordSet — what a removal of records ends

`permission_record_set.cpp`.  When records leave the list of running uses, one pass over the removed and the remaining
ones finds the groups that are no longer active, and another one the processes that no longer use the camera.
-/
namespace AccessToken

structure ContinuousPermissionRecord where
  tokenId : AccessTokenID
  opCode : Int32
  status : Int32
  pid : Int32
  callerPid : Int32
  enhancedIdentity : String
deriving DecidableEq

def permInactive : Int32 := 0

namespace ContinuousPermissionRecord

variable (r s : ContinuousPermissionRecord)

/-- What `IsSameInActiveGroup` compares for equality and `IsLessInActiveGroup` lexicographically. -/
def inActiveGroup : Nat ×ₗ String ×ₗ Int := toLex (r.tokenId.toNat, toLex (r.enhancedIdentity, r.opCode.toInt))

/-- What `operator <` compares. -/
def rank : (Nat ×ₗ String ×ₗ Int) ×ₗ Int ×ₗ Int := toLex (r.inActiveGroup, toLex (r.pid.toInt, r.callerPid.toInt))

end ContinuousPermissionRecord

/-- A `std::set` of records, in the order of its iterators. -/
structure PermissionRecordSet where
  records : List ContinuousPermissionRecord
  sorted : records.Pairwise (·.rank < ·.rank)

namespace PermissionRecordSet

open ContinuousPermissionRecord Lib

/-- One turn of the loop of `GetInActiveUniqueRecord`. -/
def inActiveTurn (removed remain : ContinuousPermissionRecord) : Verdict :=
  if removed.inActiveGroup < remain.inActiveGroup then .keep
  else if remain.inActiveGroup < removed.inActiveGroup then .next
  else if remain.status ≠ permInactive then .drop
  else .next

/-- The records come in the order of the set, so the last one emplaced is the greatest. -/
def getInActiveUniqueRecord (recordList removedList : PermissionRecordSet) : List ContinuousPermissionRecord :=
  sweep inActiveTurn (firstOfRuns inActiveGroup none removedList.records) recordList.records

/-- **Exactly one record of every group of the second set without an active one in the first.** -/
structure GroupDifference (R D result : List ContinuousPermissionRecord) : Prop where
  removed : ∀ r ∈ result, r ∈ D
  once : result.Pairwise (·.inActiveGroup ≠ ·.inActiveGroup)
  groups : ∀ d ∈ D, (∃ r ∈ result, r.inActiveGroup = d.inActiveGroup)
    ↔ ∀ r ∈ R, r.inActiveGroup = d.inActiveGroup → r.status = permInactive

theorem sorted_inActiveGroup (set : PermissionRecordSet) :
    set.records.Pairwise (·.inActiveGroup ≤ ·.inActiveGroup) :=
  set.sorted.imp fun h => Prod.Lex.monotone_fst _ _ h.le

theorem inActiveTurn_byKey (a b : ContinuousPermissionRecord) :
    ByKey inActiveGroup inActiveGroup (·.status ≠ permInactive) a b (inActiveTurn a b) := by
  unfold inActiveTurn
  split_ifs with hlt hgt hlive
  · exact hlt
  · exact .inl hgt
  · exact ⟨le_antisymm (not_lt.1 hgt) (not_lt.1 hlt), hlive⟩
  · exact .inr ⟨le_antisymm (not_lt.1 hlt) (not_lt.1 hgt), hlive⟩

theorem getInActiveUniqueRecord_difference (R D : PermissionRecordSet) :
    GroupDifference R.records D.records (getInActiveUniqueRecord R D) := by
  have hfirst : (firstOfRuns inActiveGroup none D.records).Pairwise (·.inActiveGroup < ·.inActiveGroup) :=
    (firstOfRuns_sorted none (D.sorted_inActiveGroup.imp fun h => ⟨h, id⟩)).1
  have hmem := mem_sweep (hfirst.imp le_of_lt) R.sorted_inActiveGroup fun a _ b _ => inActiveTurn_byKey a b
  refine ⟨fun r hr => (firstOfRuns_sublist _ _ _).subset ((hmem r).1 hr).1, ?_, fun d hd => ⟨?_, fun hdead => ?_⟩⟩
  · exact (hfirst.sublist (sweep_sublist _ _)).imp ne_of_lt
  · rintro ⟨x, hx, heq⟩ r hr hrd
    exact not_not.1 (((hmem x).1 hx).2 r hr (hrd.trans heq.symm))
  · obtain ⟨x, hx, heq⟩ := (exists_firstOfRuns inActiveGroup none hd).resolve_left nofun
    exact ⟨x, (hmem x).2 ⟨hx, fun r hr hrx => not_not.2 (hdead r hr (hrx.trans heq))⟩, heq⟩

/-! ## The processes that no longer use the camera -/

def InUse (R : List ContinuousPermissionRecord) (d : ContinuousPermissionRecord) : Prop :=
  ∃ r ∈ R, r.tokenId = d.tokenId ∧ r.opCode = d.opCode ∧ r.pid = d.pid

variable {r s : ContinuousPermissionRecord}

end PermissionRecordSet
end AccessToken
