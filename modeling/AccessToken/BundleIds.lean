import AccessToken.Basic
import AccessToken.Lib.Run
/-!
# AccessTokenIDManager — the bundle ids

`accesstoken_id_manager.cpp`: a uid is made of the local id of a user and a bundle id, and `AllocUid` takes a bundle id
that is not in `bundleIdSet_`.  The ids of `reservedBundleIdSet_` are kept in `bundleIdSet_` as well: a refresh of the
reserved ids takes the old ones out of it and puts the new ones in.

So an id in use that becomes reserved is free once it is reserved no more, and one removed while it is reserved is free
at once; apart from that no id is handed out twice.  The uid is computed in `int32_t`: it is the one meant only for the
local ids that leave room for it.
-/
namespace AccessToken

open Std.ExtTreeSet

open Lib (Reaches)

def bundleIdMin : Int := 10000

def bundleIdMax : Int := 65535

def uidTransformDivisor : Int32 := 200000

/-- `GetBundleIdMin`; `baseAppId` is the parameter of the product, if it has one. -/
def getBundleIdMin : Option Int → Int
  | none => bundleIdMin
  | some baseAppId => if baseAppId < bundleIdMin ∨ baseAppId ≥ bundleIdMax then bundleIdMin else baseAppId

def extractBundleId (uid : Int32) : Option Int :=
  if uid < 0 then none
  else
    let extracted := (uid % uidTransformDivisor).toInt
    if extracted < bundleIdMin ∨ extracted > bundleIdMax then none else some extracted

/-- The uid of a bundle id for the user with a local id, in `int32_t`. -/
def uidOf (localId : Int32) (bundleId : Int) : Int32 :=
  localId * uidTransformDivisor + Int32.ofInt bundleId % uidTransformDivisor

def translateUid (srcUid dstLocalId : Int32) : Except AccessTokenError Int32 :=
  match extractBundleId srcUid with
  | none => .error .errParamInvalid
  | some bundleId => .ok (uidOf dstLocalId bundleId)

/-- The part of `AccessTokenIDManager` that `bundleIdLock_` guards. -/
structure BundleIdManager where
  bundleIdSet : Std.ExtTreeSet Int
  reservedBundleIdSet : Std.ExtTreeSet Int
  scanStartBundleId : Int

/-- An `AllocUid`: whether the migration is done, and what `SpmGetUidRefCntWithRetry` answers for each uid. -/
structure AllocRequest where
  localId : Int32
  isMigrationDone : Bool
  refcnt : Int32 → Option Nat

namespace BundleIdManager

def empty : BundleIdManager := ⟨∅, ∅, -1⟩

variable (minId : Int) (m : BundleIdManager)

/-- One pass over `n` candidates. -/
def scan (req : AllocRequest) : Nat → Int → Except AccessTokenError (Option Int)
  | 0, _ => .ok none
  | n + 1, candidate =>
    if candidate ∈ m.bundleIdSet then scan req n (candidate + 1)
    else
      match req.refcnt (uidOf req.localId candidate) with
      | none => .error .errKernelCommonFailed
      | some 0 => .ok (some candidate)
      | some _ => scan req n (candidate + 1)

/-- The two passes: up from the start, and from the least id to the start. -/
def scanFrom (req : AllocRequest) (startId : Int) : Except AccessTokenError (Option Int) :=
  match m.scan req (bundleIdMax + 1 - startId).toNat startId with
  | .ok none => m.scan req (startId - minId).toNat minId
  | found => found

def getScanStartLocked : Int × BundleIdManager :=
  let m := if m.scanStartBundleId < minId then { m with scanStartBundleId := minId } else m
  (if m.scanStartBundleId > bundleIdMax then minId else m.scanStartBundleId, m)

/-- **`AllocUid`**: the uid, with the bundle id it is made of. -/
def allocUid (req : AllocRequest) : Except AccessTokenError (Int × Int32) × BundleIdManager :=
  if !req.isMigrationDone then (.error .errParamInvalid, m)
  else
    let (startId, m) := m.getScanStartLocked minId
    match m.scanFrom minId req startId with
    | .error e => (.error e, m)
    | .ok none => (.error .errOversize, m)
    | .ok (some candidate) =>
      (.ok (candidate, uidOf req.localId candidate),
        { m with bundleIdSet := m.bundleIdSet.insert candidate, scanStartBundleId := candidate + 1 })

def removeBundleId (uid : Int32) (rollbackScanStart : Bool) : Ret × BundleIdManager :=
  match extractBundleId uid with
  | none => (.error .errParamInvalid, m)
  | some bundleId =>
    (.ok (), { m with
      bundleIdSet := m.bundleIdSet.erase bundleId
      scanStartBundleId :=
        if rollbackScanStart && decide (bundleId < m.scanStartBundleId) &&
          decide (m.scanStartBundleId - bundleId = 1) then
          bundleId
        else m.scanStartBundleId })

def removeReservedBundleId (uid : Int32) : Ret × BundleIdManager :=
  match extractBundleId uid with
  | none => (.error .errParamInvalid, m)
  | some bundleId =>
    (.ok (), { m with
      bundleIdSet := m.bundleIdSet.erase bundleId
      reservedBundleIdSet := m.reservedBundleIdSet.erase bundleId })

/-- `RefreshReservedBundleIdSet`; `persisted` is what `PersistReservedBundleIdSetLocked` returns. -/
def refreshReservedBundleIdSet (bundleList : Std.ExtTreeSet Int) (persisted : Ret) : Ret × BundleIdManager :=
  match persisted with
  | .error e => (.error e, m)
  | .ok () =>
    (.ok (), { m with
      bundleIdSet := (m.bundleIdSet \ m.reservedBundleIdSet) ∪ bundleList
      reservedBundleIdSet := bundleList })

def initSingleBundleIdCache (uid : Int32) : Ret × BundleIdManager :=
  match extractBundleId uid with
  | none => (.error .errParamInvalid, m)
  | some bundleId => (.ok (), { m with bundleIdSet := m.bundleIdSet.insert bundleId })

def importInitialUids (uids : List Int32) : Ret × BundleIdManager :=
  (.ok (), uids.foldl (fun m uid =>
    match extractBundleId uid with
    | none => m
    | some bundleId => { m with bundleIdSet := m.bundleIdSet.insert bundleId }) m)

end BundleIdManager

/-! ## Runs -/

inductive BundleIdOp where
  | allocUid (req : AllocRequest)
  | removeBundleId (uid : Int32) (rollbackScanStart : Bool)
  | removeReservedBundleId (uid : Int32)
  | refreshReservedBundleIdSet (bundleList : Std.ExtTreeSet Int) (persisted : Ret)
  | initSingleBundleIdCache (uid : Int32)
  | importInitialUids (uids : List Int32)

namespace BundleIdManager

def step (minId : Int) (m : BundleIdManager) : BundleIdOp → BundleIdManager
  | .allocUid req => (m.allocUid minId req).2
  | .removeBundleId uid rollbackScanStart => (m.removeBundleId uid rollbackScanStart).2
  | .removeReservedBundleId uid => (m.removeReservedBundleId uid).2
  | .refreshReservedBundleIdSet bundleList persisted => (m.refreshReservedBundleIdSet bundleList persisted).2
  | .initSingleBundleIdCache uid => (m.initSingleBundleIdCache uid).2
  | .importInitialUids uids => (m.importInitialUids uids).2

end BundleIdManager

/-- A removal that names the id, and so succeeds. -/
def BundleIdOp.removes (id : Int) : BundleIdOp → Bool
  | .removeBundleId uid _ | .removeReservedBundleId uid => extractBundleId uid == some id
  | _ => false

/-- A reserved id is not removed as if it were in use, and an id in use does not become reserved. -/
def BundleIdManager.KeepsApart (m : BundleIdManager) : BundleIdOp → Prop
  | .removeBundleId uid _ => ∀ id ∈ extractBundleId uid, id ∉ m.reservedBundleIdSet
  | .refreshReservedBundleIdSet bundleList _ => ∀ id ∈ bundleList.toList, id ∈ m.bundleIdSet →
    id ∈ m.reservedBundleIdSet
  | _ => True

instance (m : BundleIdManager) : (op : BundleIdOp) → Decidable (m.KeepsApart op) := fun op => by
  cases op <;> unfold BundleIdManager.KeepsApart <;> infer_instance

namespace BundleIdManager

variable {minId : Int} {m m' : BundleIdManager}

/-! ## What an operation does -/

variable {req : AllocRequest} {id : Int} {op : BundleIdOp} {d : Int32}

/-- `AllocUid` may take the id. -/
def Free (m : BundleIdManager) (req : AllocRequest) (id : Int) : Prop :=
  id ∉ m.bundleIdSet ∧ req.refcnt (uidOf req.localId id) = some 0

/-- A scan stops at the id: it is not in use, and the kernel does not say that it is referenced. -/
def stopsAt (m : BundleIdManager) (req : AllocRequest) (id : Int) : Bool :=
  !decide (id ∈ m.bundleIdSet) &&
    match req.refcnt (uidOf req.localId id) with
    | some count => count == 0
    | none => true

/-- What a scan answers that stops at an id, or at none. -/
def scanAnswer (req : AllocRequest) : Option Int → Except AccessTokenError (Option Int)
  | none => .ok none
  | some id => if req.refcnt (uidOf req.localId id) = some 0 then .ok (some id) else .error .errKernelCommonFailed

def idsFrom : Nat → Int → List Int
  | 0, _ => []
  | n + 1, candidate => candidate :: idsFrom n (candidate + 1)

/-- The ids in the order of the two passes. -/
def scanOrder (minId startId : Int) : List Int :=
  idsFrom (bundleIdMax + 1 - startId).toNat startId ++ idsFrom (startId - minId).toNat minId

theorem scan_eq : ∀ (n : Nat) (candidate : Int),
    m.scan req n candidate = scanAnswer req ((idsFrom n candidate).find? (m.stopsAt req))
  | 0, _ => rfl
  | n + 1, candidate => by
    rw [idsFrom, List.find?_cons, scan, stopsAt, scan_eq n]
    by_cases hin : candidate ∈ m.bundleIdSet
    · simp [hin]
    · rcases href : req.refcnt (uidOf req.localId candidate) with _ | count
      · simp [hin, href, scanAnswer]
      · cases count <;> simp [hin, href, scanAnswer]

theorem scanFrom_eq (startId : Int) :
    m.scanFrom minId req startId = scanAnswer req ((scanOrder minId startId).find? (m.stopsAt req)) := by
  rw [scanFrom, scanOrder, List.find?_append, scan_eq, scan_eq]
  cases (idsFrom (bundleIdMax + 1 - startId).toNat startId).find? (m.stopsAt req) with
  | none => rfl
  | some id =>
    simp only [Option.some_or, scanAnswer]
    split
    · rename_i h
      split at h <;> cases h
    · rfl

theorem not_mem_of_stopsAt (h : m.stopsAt req id = true) : id ∉ m.bundleIdSet := by
  simp only [stopsAt, Bool.and_eq_true, Bool.not_eq_true', decide_eq_false_iff_not] at h
  exact h.1

theorem Free.stopsAt (h : m.Free req id) : m.stopsAt req id = true := by
  simp [BundleIdManager.stopsAt, h.1, h.2]

theorem scanFrom_eq_some {startId : Int} (h : m.scanFrom minId req startId = .ok (some id)) : id ∉ m.bundleIdSet := by
  rw [scanFrom_eq] at h
  cases hfind : (scanOrder minId startId).find? (m.stopsAt req) with
  | none => rw [hfind] at h; cases h
  | some found =>
    rw [hfind, scanAnswer] at h
    split at h <;> cases h
    exact not_mem_of_stopsAt (List.find?_some hfind)

theorem getScanStartLocked_sets : (m.getScanStartLocked minId).2.bundleIdSet = m.bundleIdSet ∧
      (m.getScanStartLocked minId).2.reservedBundleIdSet = m.reservedBundleIdSet := by
  unfold getScanStartLocked
  split <;> exact ⟨rfl, rfl⟩

/-- An `AllocUid` fails with the sets as they were, or puts the id it returns into the one set. -/
theorem allocUid_cases (m : BundleIdManager) (minId : Int) (req : AllocRequest) :
    (∃ e, (m.allocUid minId req).1 = .error e ∧ (m.allocUid minId req).2.bundleIdSet = m.bundleIdSet ∧
        (m.allocUid minId req).2.reservedBundleIdSet = m.reservedBundleIdSet) ∨
      ∃ id uid, (m.allocUid minId req).1 = .ok (id, uid) ∧ id ∉ m.bundleIdSet ∧
        (m.allocUid minId req).2.bundleIdSet = m.bundleIdSet.insert id ∧
        (m.allocUid minId req).2.reservedBundleIdSet = m.reservedBundleIdSet := by
  obtain ⟨hset, hreserved⟩ := @getScanStartLocked_sets minId m
  unfold allocUid
  split
  · exact .inl ⟨_, rfl, rfl, rfl⟩
  dsimp only
  split
  · exact .inl ⟨_, rfl, hset, hreserved⟩
  · exact .inl ⟨_, rfl, hset, hreserved⟩
  · rename_i id hscan
    refine .inr ⟨id, _, rfl, hset ▸ scanFrom_eq_some hscan, ?_, hreserved⟩
    rw [hset]

theorem importInitialUids_sets {uids : List Int32} :
    (m.importInitialUids uids).2.reservedBundleIdSet = m.reservedBundleIdSet ∧
      ∀ id ∈ m.bundleIdSet, id ∈ (m.importInitialUids uids).2.bundleIdSet := by
  refine List.foldlRecOn (motive := fun m' : BundleIdManager => m'.reservedBundleIdSet = m.reservedBundleIdSet ∧
    ∀ id ∈ m.bundleIdSet, id ∈ m'.bundleIdSet) _ _ ⟨rfl, fun _ => id⟩ ?_
  rintro m' ⟨hreserved, hset⟩ uid _
  split
  · exact ⟨hreserved, hset⟩
  · exact ⟨hreserved, fun id hid => mem_insert.2 (.inr (hset id hid))⟩

/-! ## The invariants -/

def ReservedHeld (m : BundleIdManager) : Prop := ∀ id ∈ m.reservedBundleIdSet, id ∈ m.bundleIdSet

def InUse (m : BundleIdManager) (id : Int) : Prop := id ∈ m.bundleIdSet ∧ id ∉ m.reservedBundleIdSet

/-- An id that is not removed stays in the set, unless it is a reserved one that a refresh drops. -/
theorem mem_step (hin : id ∈ m.bundleIdSet) (hkeep : op.removes id = false)
    (hstay : id ∈ m.reservedBundleIdSet → id ∈ (m.step minId op).reservedBundleIdSet) :
    id ∈ (m.step minId op).bundleIdSet := by
  cases op with
  | allocUid req =>
    obtain ⟨e, -, hset, -⟩ | ⟨new, uid, -, -, hset, -⟩ := allocUid_cases m minId req
    · exact hset.symm ▸ hin
    · exact hset.symm ▸ mem_insert.2 (.inr hin)
  | removeBundleId uid | removeReservedBundleId uid =>
    simp only [BundleIdManager.step, removeBundleId, removeReservedBundleId]
    split
    · exact hin
    · rename_i removed hremoved
      refine Lib.mem_set_erase.2 ⟨?_, hin⟩
      rintro rfl
      simp [BundleIdOp.removes, hremoved] at hkeep
  | refreshReservedBundleIdSet bundleList persisted =>
    cases persisted with
    | error => exact hin
    | ok =>
      by_cases hres : id ∈ m.reservedBundleIdSet
      · exact mem_union_iff.2 (.inr (hstay hres))
      · exact mem_union_iff.2 (.inl (mem_diff_iff.2 ⟨hin, hres⟩))
  | initSingleBundleIdCache =>
    simp only [BundleIdManager.step, initSingleBundleIdCache]
    split
    · exact hin
    · exact mem_insert.2 (.inr hin)
  | importInitialUids => exact importInitialUids_sets.2 id hin

/-- A reserved id was reserved before and is not removed, or a refresh names it. -/
theorem reserved_step (hok : m.KeepsApart op) (hid : id ∈ (m.step minId op).reservedBundleIdSet) :
    id ∈ m.reservedBundleIdSet ∧ op.removes id = false ∨
      ∃ bundleList, op = .refreshReservedBundleIdSet bundleList (.ok ()) ∧ id ∈ bundleList := by
  cases op with
  | allocUid req =>
    obtain ⟨e, -, -, hreserved⟩ | ⟨new, uid, -, -, -, hreserved⟩ := allocUid_cases m minId req <;>
      exact .inl ⟨hreserved ▸ hid, rfl⟩
  | removeBundleId uid =>
    simp only [BundleIdManager.step, removeBundleId] at hid
    split at hid
    · rename_i hremoved
      exact .inl ⟨hid, by simp [BundleIdOp.removes, hremoved]⟩
    · rename_i removed hremoved
      refine .inl ⟨hid, ?_⟩
      rw [BundleIdOp.removes, hremoved, beq_eq_false_iff_ne]
      rintro ⟨rfl⟩
      exact hok _ hremoved hid
  | removeReservedBundleId uid =>
    simp only [BundleIdManager.step, removeReservedBundleId] at hid
    split at hid
    · rename_i hremoved
      exact .inl ⟨hid, by simp [BundleIdOp.removes, hremoved]⟩
    · rename_i removed hremoved
      obtain ⟨hne, hid⟩ := mem_erase.1 hid
      exact .inl ⟨hid, by simpa [BundleIdOp.removes, hremoved] using hne⟩
  | refreshReservedBundleIdSet bundleList persisted =>
    cases persisted with
    | error => exact .inl ⟨hid, rfl⟩
    | ok => exact .inr ⟨bundleList, rfl, hid⟩
  | initSingleBundleIdCache =>
    simp only [BundleIdManager.step, initSingleBundleIdCache] at hid
    split at hid <;> exact .inl ⟨hid, rfl⟩
  | importInitialUids => exact .inl ⟨importInitialUids_sets.1 ▸ hid, rfl⟩

theorem ReservedHeld.step (h : m.ReservedHeld) (hok : m.KeepsApart op) : (m.step minId op).ReservedHeld := by
  intro id hid
  obtain ⟨hres, hkeep⟩ | ⟨bundleList, rfl, hmem⟩ := reserved_step hok hid
  · exact mem_step (h id hres) hkeep fun _ => hid
  · exact mem_union_iff.2 (.inr hmem)

theorem InUse.step (h : m.InUse id) (hok : m.KeepsApart op) (hkeep : op.removes id = false) :
    (m.step minId op).InUse id := by
  refine ⟨mem_step h.1 hkeep fun hres => absurd hres h.2, fun hid => h.2 ?_⟩
  obtain ⟨hres, -⟩ | ⟨bundleList, rfl, hmem⟩ := reserved_step hok hid
  · exact hres
  · exact hok id (mem_toList.2 hmem) h.1

/-- **No bundle id is handed out twice**: in every run that keeps the reserved ids and the ids in use apart, the
reserved ids are held, and an id that `AllocUid` returned is not returned again before it is removed. -/
theorem bundle_ids_handed_out_once {m₀ : BundleIdManager} (h₀ : m₀.ReservedHeld)
    (hrun : Reaches (step minId) KeepsApart m₀ m) :
    m.ReservedHeld ∧ ∀ req id uid, (m.allocUid minId req).1 = .ok (id, uid) →
      ∀ m', Reaches (step minId) (fun m op => m.KeepsApart op ∧ op.removes id = false) (m.allocUid minId req).2 m' →
        ∀ req' uid', (m'.allocUid minId req').1 ≠ .ok (id, uid') := by
  have hheld : m.ReservedHeld := hrun.invariant (fun _ _ h hok => h.step hok) h₀
  refine ⟨hheld, fun req id uid halloc m' hrun' req' uid' halloc' => ?_⟩
  have hused : (m.allocUid minId req).2.InUse id := by
    obtain ⟨e, herr, -⟩ | ⟨new, newUid, hok, hnew, hset, hreserved⟩ := allocUid_cases m minId req
    · rw [herr] at halloc
      cases halloc
    · rw [hok] at halloc
      cases halloc
      exact ⟨hset.symm ▸ mem_insert_self, fun hmem => hnew (hheld id (hreserved ▸ hmem))⟩
  have hstep : ∀ (m : BundleIdManager) op, m.InUse id → m.KeepsApart op ∧ op.removes id = false →
      (m.step minId op).InUse id :=
    fun _ _ h hok => h.step hok.1 hok.2
  have hstill := hrun'.invariant hstep hused
  obtain ⟨e, herr, -⟩ | ⟨new, newUid, hok, hnew, -⟩ := allocUid_cases m' minId req'
  · rw [herr] at halloc'
    cases halloc'
  · rw [hok] at halloc'
    cases halloc'
    exact hnew hstill.1

/-! A product with two bundle ids. -/

def sampleAlloc : AllocRequest := ⟨100, true, fun _ => some 0⟩

def runBundleIds (ops : List BundleIdOp) : BundleIdManager := ops.foldl (step (getBundleIdMin (some 65534))) .empty

/-- Both ids are in use.  The first becomes reserved, is reserved no more, and is handed out again. -/
theorem id_handed_out_twice :
    (allocUid 65534 .empty sampleAlloc).1 = .ok (65534, 20065534) ∧
      (allocUid 65534 (runBundleIds [.allocUid sampleAlloc, .allocUid sampleAlloc,
        .refreshReservedBundleIdSet ((∅ : Std.ExtTreeSet Int).insert 65534) (.ok ()),
        .refreshReservedBundleIdSet ∅ (.ok ())]) sampleAlloc).1 = .ok (65534, 20065534) := by
  decide +kernel

theorem id_not_handed_out_again :
    (allocUid 65534 (runBundleIds [.refreshReservedBundleIdSet ((∅ : Std.ExtTreeSet Int).insert 65535) (.ok ()),
      .allocUid sampleAlloc, .refreshReservedBundleIdSet ∅ (.ok ())]) sampleAlloc).1 ≠ .ok (65534, 20065534) := by
  have hmeet : Lib.AllMeet (step 65534) KeepsApart .empty
      [.refreshReservedBundleIdSet ((∅ : Std.ExtTreeSet Int).insert 65535) (.ok ())] := by
    decide +kernel
  have halloc : (allocUid 65534 (runBundleIds
      [.refreshReservedBundleIdSet ((∅ : Std.ExtTreeSet Int).insert 65535) (.ok ())]) sampleAlloc).1 =
        .ok (65534, 20065534) := by
    decide +kernel
  have hkeep : Lib.AllMeet (step 65534) (fun m op => m.KeepsApart op ∧ op.removes 65534 = false)
      (allocUid 65534 (runBundleIds [.refreshReservedBundleIdSet ((∅ : Std.ExtTreeSet Int).insert 65535) (.ok ())])
        sampleAlloc).2 [.refreshReservedBundleIdSet ∅ (.ok ())] := by
    decide +kernel
  have hempty : empty.ReservedHeld := fun _ hid => absurd hid not_mem_empty
  exact (bundle_ids_handed_out_once hempty (Lib.reaches_foldl _ _ hmeet)).2 sampleAlloc 65534 20065534 halloc _
    (Lib.reaches_foldl _ _ hkeep) sampleAlloc 20065534

/-! ## The uid of a bundle id -/

theorem toInt_uidOf (localId : Int32) (h₀ : 0 ≤ id) (h₁ : id ≤ bundleIdMax) :
    (uidOf localId id).toInt = (localId.toInt * 200000 + id).bmod (2 ^ 32) := by
  unfold bundleIdMax at h₁
  have hid : (Int32.ofInt id).toInt = id := by
    rw [Int32.toInt_ofInt, Int32.size, Int.bmod_def]
    split <;> omega
  have hmod : id.tmod 200000 = id := Int.tmod_eq_of_lt h₀ (by omega)
  have hdiv : uidTransformDivisor.toInt = 200000 := rfl
  rw [uidOf, Int32.toInt_add, Int32.toInt_mul, Int32.toInt_mod, hid, hdiv, hmod]
  exact Int.bmod_add_bmod

theorem extractBundleId_eq_some_iff {uid : Int32} {b : Int} :
    extractBundleId uid = some b ↔ 0 ≤ uid.toInt ∧ uid.toInt % 200000 = b ∧ bundleIdMin ≤ b ∧ b ≤ bundleIdMax := by
  have hneg : uid < 0 ↔ uid.toInt < 0 := Int32.lt_iff_toInt_lt
  have hdiv : uidTransformDivisor.toInt = 200000 := rfl
  unfold extractBundleId
  by_cases huid : uid.toInt < 0
  · rw [if_pos (hneg.2 huid)]
    simp only [reduceCtorEq, false_iff]
    omega
  rw [if_neg (mt hneg.1 huid), Int32.toInt_mod, hdiv, Int.tmod_eq_emod_of_nonneg (by omega)]
  dsimp only
  split
  · simp only [reduceCtorEq, false_iff]
    omega
  · simp only [Option.some.injEq]
    omega

-- the product with the divisor repeats modulo `2 ^ 32` after `2 ^ 26` local ids
theorem extractBundleId_uidOf_iff (localId : Int32) (h₀ : bundleIdMin ≤ id) (h₁ : id ≤ bundleIdMax) :
    extractBundleId (uidOf localId id) = some id ↔ localId.toInt % 2 ^ 26 ≤ 10737 := by
  have hint := toInt_uidOf localId (by unfold bundleIdMin at h₀; omega) h₁
  rw [extractBundleId_eq_some_iff, hint]
  unfold bundleIdMin bundleIdMax at *
  rw [Int.bmod_def]
  constructor
  · rintro ⟨hpos, hmod, -⟩
    split at hpos <;> omega
  intro hfit
  have hperiod : localId.toInt * 200000 + id =
      localId.toInt % 2 ^ 26 * 200000 + id + ((2 ^ 32 : Nat) : Int) * (3125 * (localId.toInt / 2 ^ 26)) := by
    omega
  rw [hperiod, Int.add_mul_emod_self_left, Int.emod_eq_of_lt (by omega) (by omega)]
  split <;> omega

theorem uidOf_exact_iff {localId : Int32} (hl : 0 ≤ localId.toInt) (h₀ : bundleIdMin ≤ id)
    (h₁ : id ≤ bundleIdMax) : (uidOf localId id).toInt = localId.toInt * 200000 + id ↔ localId.toInt ≤ 10737 := by
  rw [toInt_uidOf localId (by unfold bundleIdMin at h₀; omega) h₁]
  unfold bundleIdMin bundleIdMax at *
  rw [Int.bmod_def]
  constructor
  · split <;> omega
  · split <;> omega

theorem mem_idsFrom : ∀ (n : Nat) (candidate : Int), id ∈ idsFrom n candidate ↔ candidate ≤ id ∧ id < candidate + n
  | 0, candidate => by
    simp only [idsFrom, List.not_mem_nil, false_iff]
    omega
  | n + 1, candidate => by
    rw [idsFrom, List.mem_cons, mem_idsFrom n]
    omega

theorem mem_scanOrder {startId : Int} (h₀ : minId ≤ startId) (h₁ : startId ≤ bundleIdMax) :
    id ∈ scanOrder minId startId ↔ minId ≤ id ∧ id ≤ bundleIdMax := by
  rw [scanOrder, List.mem_append, mem_idsFrom, mem_idsFrom]
  omega

theorem getBundleIdMin_range (baseAppId : Option Int) :
    bundleIdMin ≤ getBundleIdMin baseAppId ∧ getBundleIdMin baseAppId ≤ bundleIdMax := by
  unfold getBundleIdMin bundleIdMin bundleIdMax
  split
  · omega
  · split <;> omega

theorem getScanStartLocked_range (h : minId ≤ bundleIdMax) :
    minId ≤ (m.getScanStartLocked minId).1 ∧ (m.getScanStartLocked minId).1 ≤ bundleIdMax := by
  unfold getScanStartLocked
  dsimp only
  split
  · dsimp only
    split <;> omega
  · split <;> omega

/-- **What an `AllocUid` owes**, with `d` the user its uid is translated to. -/
structure AllocExact (minId : Int) (m : BundleIdManager) (req : AllocRequest) (d : Int32) : Prop where
  success : ∀ id uid, (m.allocUid minId req).1 = .ok (id, uid) →
    ∃ b, b = uid.toInt % 200000 ∧ b ∉ m.bundleIdSet ∧ minId ≤ b ∧ b ≤ bundleIdMax ∧ req.refcnt uid = some 0 ∧
      uid.toInt = req.localId.toInt * 200000 + b ∧ extractBundleId uid = some b ∧
      ∀ uid', translateUid uid d = .ok uid' → extractBundleId uid' = some b
  oversize : req.isMigrationDone = true → (m.allocUid minId req).1 ≠ .error .errKernelCommonFailed →
    ((m.allocUid minId req).1 = .error .errOversize ↔ ∀ id, minId ≤ id → id ≤ bundleIdMax → ¬ m.Free req id)
  failure : ∀ e, (m.allocUid minId req).1 = .error e →
    (m.allocUid minId req).2 = m ∨ (m.allocUid minId req).2 = (m.getScanStartLocked minId).2

/-- The id at which the scan of a call stops. -/
def scannedId (minId : Int) (m : BundleIdManager) (req : AllocRequest) : Option Int :=
  (scanOrder minId (m.getScanStartLocked minId).1).find? (m.stopsAt req)

/-- **What an `AllocUid` does once the migration is done.** -/
theorem allocUid_eq (hdone : req.isMigrationDone = true) : m.allocUid minId req =
    match scannedId minId m req with
    | none => (.error .errOversize, (m.getScanStartLocked minId).2)
    | some id =>
      if req.refcnt (uidOf req.localId id) = some 0 then (.ok (id, uidOf req.localId id),
        { (m.getScanStartLocked minId).2 with bundleIdSet := m.bundleIdSet.insert id, scanStartBundleId := id + 1 })
      else (.error .errKernelCommonFailed, (m.getScanStartLocked minId).2) := by
  have hsets := (@getScanStartLocked_sets minId m).1
  have hstops : (m.getScanStartLocked minId).2.stopsAt req = m.stopsAt req := by
    funext id
    simp only [stopsAt, hsets]
  rw [allocUid, hdone, if_neg (by decide), scannedId]
  simp only [scanFrom_eq, hstops]
  cases (scanOrder minId (m.getScanStartLocked minId).1).find? (m.stopsAt req) with
  | none => rfl
  | some id =>
    dsimp only
    by_cases href : req.refcnt (uidOf req.localId id) = some 0
    · rw [scanAnswer, if_pos href, if_pos href, hsets]
    · rw [scanAnswer, if_neg href, if_neg href]

theorem scannedId_eq_none (h : minId ≤ bundleIdMax) :
    scannedId minId m req = none ↔ ∀ id, minId ≤ id → id ≤ bundleIdMax → m.stopsAt req id = false := by
  obtain ⟨hlo, hhi⟩ := @getScanStartLocked_range minId m h
  simp [scannedId, List.find?_eq_none, mem_scanOrder hlo hhi]

/-- A call that fails is exact if it reports no free id exactly when there is none. -/
theorem AllocExact.of_error {e : AccessTokenError} (hfail : m.allocUid minId req = (.error e, m'))
    (hstate : m' = m ∨ m' = (m.getScanStartLocked minId).2)
    (hover : req.isMigrationDone = true → e ≠ .errKernelCommonFailed →
      (e = .errOversize ↔ ∀ id, minId ≤ id → id ≤ bundleIdMax → ¬ m.Free req id)) : AllocExact minId m req d := by
  refine ⟨?_, ?_, ?_⟩ <;> rw [hfail]
  · exact nofun
  · simpa using hover
  · exact fun _ _ => hstate

/-- A call that succeeds is exact if and only if the two uids fit. -/
theorem allocExact_iff_of_ok (hl : 0 ≤ req.localId.toInt) (hmin : bundleIdMin ≤ minId)
    (h₀ : minId ≤ id) (h₁ : id ≤ bundleIdMax) (hfree : m.Free req id)
    (halloc : m.allocUid minId req = (.ok (id, uidOf req.localId id), m')) :
    AllocExact minId m req d ↔ req.localId.toInt ≤ 10737 ∧ d.toInt % 2 ^ 26 ≤ 10737 := by
  constructor
  · intro hex
    obtain ⟨b, -, -, hlo, hhi, -, hexact, hextract, htranslate⟩ := hex.success id _ (by rw [halloc])
    have htop : req.localId.toInt * 200000 + b < 2 ^ 31 := hexact ▸ Int32.toInt_lt (uidOf req.localId id)
    have hmin : 10000 ≤ b := hmin.trans hlo
    refine ⟨by omega, ?_⟩
    exact (extractBundleId_uidOf_iff d hmin hhi).1 (htranslate (uidOf d b) (by rw [translateUid, hextract]))
  · rintro ⟨hfit, hd⟩
    have hexact := (uidOf_exact_iff hl (hmin.trans h₀) h₁).2 hfit
    have hextract := (extractBundleId_uidOf_iff req.localId (hmin.trans h₀) h₁).2 (by omega)
    refine ⟨fun id' uid heq => ?_, fun _ _ => ?_, fun e herr => ?_⟩
    · rw [halloc] at heq
      cases heq
      refine ⟨id, ?_, hfree.1, h₀, h₁, hfree.2, hexact, hextract, fun uid' htranslate => ?_⟩
      · exact (extractBundleId_eq_some_iff.1 hextract).2.1.symm
      · rw [translateUid, hextract] at htranslate
        cases htranslate
        exact (extractBundleId_uidOf_iff d (hmin.trans h₀) h₁).2 hd
    · rw [halloc]
      exact ⟨nofun, fun hfull => absurd hfree (hfull id h₀ h₁)⟩
    · rw [halloc] at herr
      cases herr

/-- **A uid is exact if and only if it fits into `int32_t`**, for each call: it is refused before the migration, its
scan stops at no id or at one whose query fails, or the local ids are small enough. -/
theorem alloc_uid_exact_iff (baseAppId : Option Int) (m : BundleIdManager) (req : AllocRequest) (d : Int32)
    (hl : 0 ≤ req.localId.toInt) :
    AllocExact (getBundleIdMin baseAppId) m req d ↔
      (req.isMigrationDone = true → ∀ id ∈ scannedId (getBundleIdMin baseAppId) m req,
        req.refcnt (uidOf req.localId id) = some 0 → req.localId.toInt ≤ 10737 ∧ d.toInt % 2 ^ 26 ≤ 10737) := by
  obtain ⟨hmin, hmax⟩ := getBundleIdMin_range baseAppId
  generalize getBundleIdMin baseAppId = minId at hmin hmax ⊢
  by_cases hdone : req.isMigrationDone = true
  case neg =>
    have hfail : m.allocUid minId req = (.error .errParamInvalid, m) := by rw [allocUid, if_pos (by simpa using hdone)]
    exact iff_of_true (.of_error hfail (.inl rfl) fun h => absurd h hdone) fun h => absurd h hdone
  rw [imp_iff_right hdone]
  have halloc := @allocUid_eq minId m req hdone
  cases hscan : scannedId minId m req with
  | none =>
    rw [hscan] at halloc
    have hfull : ∀ id, minId ≤ id → id ≤ bundleIdMax → ¬ m.Free req id := fun id h₀ h₁ hfree =>
      Bool.false_ne_true (((scannedId_eq_none hmax).1 hscan id h₀ h₁).symm.trans hfree.stopsAt)
    exact iff_of_true (.of_error halloc (.inr rfl) fun _ _ => iff_of_true rfl hfull) nofun
  | some id =>
    simp only [Option.mem_some_iff, forall_eq']
    rw [hscan] at halloc
    by_cases href : req.refcnt (uidOf req.localId id) = some 0
    case neg =>
      simp only [if_neg href] at halloc
      exact iff_of_true (.of_error halloc (.inr rfl) fun _ hquery => absurd rfl hquery) fun h => absurd h href
    simp only [if_pos href] at halloc
    rw [imp_iff_right href]
    obtain ⟨hlo, hhi⟩ := @getScanStartLocked_range minId m hmax
    obtain ⟨h₀, h₁⟩ := (mem_scanOrder hlo hhi).1 (List.mem_of_find?_eq_some hscan)
    exact allocExact_iff_of_ok hl hmin h₀ h₁ ⟨not_mem_of_stopsAt (List.find?_some hscan), href⟩ halloc

/-- User 10738 is given a uid below zero, and a uid is translated to it for that user. -/
theorem uid_out_of_range :
    (allocUid 65534 .empty ⟨10738, true, fun _ => some 0⟩).1 = .ok (65534, -2147301762) ∧
      translateUid 20065534 10738 = .ok (-2147301762) ∧ extractBundleId (-2147301762) = none := by
  decide +kernel

/-- One id is in use, and the query of the reference count of the next one fails. -/
def oneUsed : BundleIdManager := ⟨(∅ : Std.ExtTreeSet Int).insert 65534, ∅, 65534⟩

def unansweredAlloc : AllocRequest := ⟨100, true, fun uid => if uid = 20065535 then none else some 0⟩

/-- A uid that fits, and a call that ends at a failing query, whatever user its uid would have been translated to. -/
theorem uid_in_range :
    ((oneUsed.allocUid 65534 sampleAlloc).1 = .ok (65535, 20065535) ∧
      AllocExact (getBundleIdMin (some 65534)) oneUsed sampleAlloc 10737) ∧
    ((oneUsed.allocUid 65534 unansweredAlloc).1 = .error .errKernelCommonFailed ∧
      AllocExact (getBundleIdMin (some 65534)) oneUsed unansweredAlloc 10738) :=
  ⟨⟨by decide +kernel, (alloc_uid_exact_iff (some 65534) oneUsed sampleAlloc 10737 (by decide)).2 (by decide +kernel)⟩,
    by decide +kernel, (alloc_uid_exact_iff (some 65534) oneUsed unansweredAlloc 10738 (by decide)).2
      (by decide +kernel)⟩

end BundleIdManager
end AccessToken
