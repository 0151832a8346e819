import AccessToken.Basic
import AccessToken.Lib.Run
/-!
# AccessTokenIDManager — the status of every token id

`accesstoken_id_manager.cpp`: a known id is active, reserved or untrusted, and the three sets are kept apart.  The
random source of an id creation is part of the operation: its `i`-th draw is `rand i`.
-/
namespace AccessToken

open AccessTokenIDInner Std.ExtTreeSet

open Lib (Reaches Always)

structure AccessTokenIDManager where
  tokenIdSet : Std.ExtTreeSet AccessTokenID
  reservedTokenIdSet : Std.ExtTreeSet AccessTokenID
  untrustedTokenIdSet : Std.ExtTreeSet AccessTokenID
deriving DecidableEq

namespace AccessTokenIDManager

inductive TokenIdStatus where
  | active | reserved | untrusted
deriving DecidableEq

/-- The enumerator a `uint32_t` names, if it names one. -/
def TokenIdStatus.ofRaw (raw : BitVec 32) : Option TokenIdStatus :=
  if raw = 0 then some .active else if raw = 1 then some .reserved else if raw = 2 then some .untrusted else none

def empty : AccessTokenIDManager := ⟨∅, ∅, ∅⟩

variable (m : AccessTokenIDManager)

/-- `GetTokenIdStatusLocked`, which prefers the active set and then the reserved one. -/
def getTokenIdStatusLocked (id : AccessTokenID) : Option TokenIdStatus :=
  if id ∈ m.tokenIdSet then some .active
  else if id ∈ m.reservedTokenIdSet then some .reserved
  else if id ∈ m.untrustedTokenIdSet then some .untrusted
  else none

def registerTokenId (id : AccessTokenID) (type : ATokenTypeEnum) : Ret × AccessTokenIDManager :=
  if AccessTokenIDInner.version id ≠ defaultTokenVersion ∨ ((AccessTokenIDInner.type id).toNat : Int) ≠ type.toInt ∨
      typeExt id ≠ 0 then (.error .errParamInvalid, m)
  else if (m.getTokenIdStatusLocked id).isSome then (.error .errTokenidHasExisted, m)
  else (.ok (), { m with tokenIdSet := m.tokenIdSet.insert id })

def tokenRandomMask : BitVec 32 := (1#32 <<< 20) - 1

/-- `CreateTokenId` with the random word it draws. -/
def createTokenId (type : ATokenTypeEnum) (dlpFlag cloneFlag toolFlag rand : BitVec 32) : AccessTokenID :=
  if rand = 0 then invalidTokenId
  else
    pack defaultTokenVersion type.toField (dlpFlag.setWidth 1) 0 (cloneFlag.setWidth 1) 0 0
      (toolFlag.setWidth 1) ((rand &&& tokenRandomMask).setWidth 20)

def maxCreateTokenIdRetry : Nat := 1000

/-- The attempts of `CreateAndRegisterTokenId` from draw `i` on, `n` of them left. -/
def createAndRegisterLoop (type : ATokenTypeEnum) (dlpFlag cloneFlag toolFlag : BitVec 32) (rand : Nat → BitVec 32) :
    Nat → Nat → AccessTokenID × AccessTokenIDManager
  | 0, _ => (invalidTokenId, m)
  | n + 1, i =>
    let tokenId := createTokenId type dlpFlag cloneFlag toolFlag (rand i)
    if tokenId = invalidTokenId then (invalidTokenId, m)
    else
      match m.registerTokenId tokenId type with
      | (.ok (), m') => (tokenId, m')
      | (.error _, _) => createAndRegisterLoop type dlpFlag cloneFlag toolFlag rand n (i + 1)

def createAndRegisterTokenId (type : ATokenTypeEnum) (dlpFlag cloneFlag toolFlag : BitVec 32)
    (rand : Nat → BitVec 32) : AccessTokenID × AccessTokenIDManager :=
  m.createAndRegisterLoop type dlpFlag cloneFlag toolFlag rand maxCreateTokenIdRetry 0

def releaseTokenId (id : AccessTokenID) : AccessTokenIDManager :=
  if id ∈ m.tokenIdSet then { m with tokenIdSet := m.tokenIdSet.erase id } else m

def addReservedTokenId (id : AccessTokenID) : AccessTokenIDManager :=
  if (m.getTokenIdStatusLocked id).isSome then m
  else { m with reservedTokenIdSet := m.reservedTokenIdSet.insert id }

def removeReservedTokenId (id : AccessTokenID) : AccessTokenIDManager :=
  { m with reservedTokenIdSet := m.reservedTokenIdSet.erase id }

/-- The first `switch` of `ChangeTokenIdStatus`. -/
def removeFromSet (id : AccessTokenID) : TokenIdStatus → AccessTokenIDManager
  | .active => { m with tokenIdSet := m.tokenIdSet.erase id }
  | .reserved => { m with reservedTokenIdSet := m.reservedTokenIdSet.erase id }
  | .untrusted => { m with untrustedTokenIdSet := m.untrustedTokenIdSet.erase id }

/-- The second `switch` of `ChangeTokenIdStatus`. -/
def addToSet (id : AccessTokenID) : TokenIdStatus → AccessTokenIDManager
  | .active => { m with tokenIdSet := m.tokenIdSet.insert id }
  | .reserved => { m with reservedTokenIdSet := m.reservedTokenIdSet.insert id }
  | .untrusted => { m with untrustedTokenIdSet := m.untrustedTokenIdSet.insert id }

/-- `ChangeTokenIdStatus`; the target is any value of the underlying `uint32_t`, checked only after the removal. -/
def changeTokenIdStatus (id : AccessTokenID) (targetStatus : BitVec 32) : Ret × AccessTokenIDManager :=
  match m.getTokenIdStatusLocked id with
  | none => (.error .errTokenidNotExist, m)
  | some currentStatus =>
    if TokenIdStatus.ofRaw targetStatus = some currentStatus then (.ok (), m)
    else
      match TokenIdStatus.ofRaw targetStatus with
      | some target => (.ok (), (m.removeFromSet id currentStatus).addToSet id target)
      | none => (.error .errParamInvalid, m.removeFromSet id currentStatus)

/-! ## The partition -/

def Known (id : AccessTokenID) : Prop := id ∈ m.tokenIdSet ∨ id ∈ m.reservedTokenIdSet ∨ id ∈ m.untrustedTokenIdSet

/-- **No id has two statuses.** -/
structure Partition : Prop where
  activeReserved : ∀ id, id ∈ m.tokenIdSet → id ∉ m.reservedTokenIdSet
  activeUntrusted : ∀ id, id ∈ m.tokenIdSet → id ∉ m.untrustedTokenIdSet
  reservedUntrusted : ∀ id, id ∈ m.reservedTokenIdSet → id ∉ m.untrustedTokenIdSet

variable {m} {id x : AccessTokenID} {current : TokenIdStatus} {target : BitVec 32}

theorem getTokenIdStatusLocked_isSome : (m.getTokenIdStatusLocked id).isSome = true ↔ m.Known id := by
  unfold getTokenIdStatusLocked Known
  by_cases h1 : id ∈ m.tokenIdSet <;> by_cases h2 : id ∈ m.reservedTokenIdSet <;>
    by_cases h3 : id ∈ m.untrustedTokenIdSet <;> simp [h1, h2, h3]

theorem getTokenIdStatusLocked_eq_none : m.getTokenIdStatusLocked id = none ↔ ¬m.Known id := by
  rw [← getTokenIdStatusLocked_isSome]
  cases m.getTokenIdStatusLocked id <;> simp

theorem Partition.mono {m' : AccessTokenIDManager} (h : m.Partition) (h1 : ∀ id, id ∈ m'.tokenIdSet → id ∈ m.tokenIdSet)
    (h2 : ∀ id, id ∈ m'.reservedTokenIdSet → id ∈ m.reservedTokenIdSet)
    (h3 : ∀ id, id ∈ m'.untrustedTokenIdSet → id ∈ m.untrustedTokenIdSet) : m'.Partition where
  activeReserved id ha hr := h.activeReserved id (h1 id ha) (h2 id hr)
  activeUntrusted id ha hu := h.activeUntrusted id (h1 id ha) (h3 id hu)
  reservedUntrusted id hr hu := h.reservedUntrusted id (h2 id hr) (h3 id hu)

/-- **An unknown id may be put into any of the sets.** -/
theorem Partition.addToSet (h : m.Partition) (hid : ¬m.Known id) (target : TokenIdStatus) :
    (m.addToSet id target).Partition := by
  simp only [Known, not_or] at hid
  obtain ⟨hactive, hreserved, huntrusted⟩ := hid
  cases target <;> refine ⟨fun x hx hx' => ?_, fun x hx hx' => ?_, fun x hx hx' => ?_⟩ <;>
    simp only [AccessTokenIDManager.addToSet, Lib.mem_set_insert] at hx hx'
  case active.refine_1 => rcases hx with rfl | hx; exacts [hreserved hx', h.activeReserved x hx hx']
  case active.refine_2 => rcases hx with rfl | hx; exacts [huntrusted hx', h.activeUntrusted x hx hx']
  case active.refine_3 => exact h.reservedUntrusted x hx hx'
  case reserved.refine_1 => rcases hx' with rfl | hx'; exacts [hactive hx, h.activeReserved x hx hx']
  case reserved.refine_2 => exact h.activeUntrusted x hx hx'
  case reserved.refine_3 => rcases hx with rfl | hx; exacts [huntrusted hx', h.reservedUntrusted x hx hx']
  case untrusted.refine_1 => exact h.activeReserved x hx hx'
  case untrusted.refine_2 => rcases hx' with rfl | hx'; exacts [hactive hx, h.activeUntrusted x hx hx']
  case untrusted.refine_3 => rcases hx' with rfl | hx'; exacts [hreserved hx, h.reservedUntrusted x hx hx']

theorem known_addToSet {target : TokenIdStatus} : (m.addToSet id target).Known x ↔ x = id ∨ m.Known x := by
  cases target <;> simp only [addToSet, Known, Lib.mem_set_insert] <;> tauto

theorem Partition.removeFromSet (h : m.Partition) : (m.removeFromSet id current).Partition := by
  refine h.mono ?_ ?_ ?_ <;> intro x hx <;> cases current <;>
    simp only [removeFromSet, mem_erase] at hx
  all_goals first | exact hx | exact hx.2

/-- **Taking a known id out of the set its status names leaves every other id and forgets this one.** -/
theorem known_removeFromSet (h : m.Partition) (hc : m.getTokenIdStatusLocked id = some current) :
    (m.removeFromSet id current).Known x ↔ x ≠ id ∧ m.Known x := by
  unfold getTokenIdStatusLocked at hc
  by_cases hx : x = id
  · subst hx
    by_cases h1 : x ∈ m.tokenIdSet
    · simp only [h1, if_true, Option.some.injEq] at hc
      subst hc
      simp [removeFromSet, Known, h.activeReserved x h1, h.activeUntrusted x h1]
    by_cases h2 : x ∈ m.reservedTokenIdSet
    · simp only [h1, h2, if_true, if_false, Option.some.injEq] at hc
      subst hc
      simp [removeFromSet, Known, h1, h.reservedUntrusted x h2]
    · by_cases h3 : x ∈ m.untrustedTokenIdSet
      · simp only [h1, h2, h3, if_true, if_false, Option.some.injEq] at hc
        subst hc
        simp [removeFromSet, Known, h1, h2]
      · simp [h1, h2, h3] at hc
  · have hne : id ≠ x := fun h => hx h.symm
    cases current <;> simp [removeFromSet, Known, hx, hne]

/-! ## One operation -/

def WellFormedId (id : AccessTokenID) (type : ATokenTypeEnum) : Prop :=
  AccessTokenIDInner.version id = defaultTokenVersion ∧ ((AccessTokenIDInner.type id).toNat : Int) = type.toInt ∧
    typeExt id = 0

theorem WellFormedId.type {type : ATokenTypeEnum} (h : WellFormedId id type) :
    getTokenIdTypeEnum id = type := ATokenTypeEnum.ofField_of_toInt h.2.1

theorem registerTokenId_cases (id : AccessTokenID) (type : ATokenTypeEnum) :
    ((¬WellFormedId id type ∨ m.Known id) ∧ ∃ e, m.registerTokenId id type = (.error e, m)) ∨
      (WellFormedId id type ∧ ¬m.Known id ∧ m.registerTokenId id type = (.ok (), m.addToSet id .active)) := by
  unfold registerTokenId
  by_cases hform : WellFormedId id type
  · rw [if_neg (by simpa [WellFormedId, not_or] using hform)]
    by_cases hknown : m.Known id
    · exact .inl ⟨.inr hknown, _, if_pos (getTokenIdStatusLocked_isSome.2 hknown)⟩
    · exact .inr ⟨hform, hknown, if_neg (fun h => hknown (getTokenIdStatusLocked_isSome.1 h))⟩
  · refine .inl ⟨.inl hform, _, if_pos ?_⟩
    by_contra hfields
    simp only [not_or, not_not] at hfields
    exact hform hfields

theorem createAndRegisterLoop_cases (type : ATokenTypeEnum) (dlp clone tool : BitVec 32) (rand : Nat → BitVec 32) :
    ∀ (n i : Nat), m.createAndRegisterLoop type dlp clone tool rand n i = (invalidTokenId, m) ∨
      ∃ id, id ≠ invalidTokenId ∧ WellFormedId id type ∧ ¬m.Known id ∧
        m.createAndRegisterLoop type dlp clone tool rand n i = (id, m.addToSet id .active)
  | 0, _ => .inl rfl
  | n + 1, i => by
    rw [createAndRegisterLoop]
    split
    · exact .inl rfl
    rename_i hvalid
    rcases registerTokenId_cases (createTokenId type dlp clone tool (rand i)) type with
      ⟨-, e, he⟩ | ⟨hform, hnew, hok⟩
    · rw [he]
      exact createAndRegisterLoop_cases type dlp clone tool rand n (i + 1)
    · rw [hok]
      exact .inr ⟨_, hvalid, hform, hnew, rfl⟩

/-- **What a status change can do.** -/
theorem changeTokenIdStatus_cases (id : AccessTokenID) (target : BitVec 32) :
    (¬m.Known id ∧ m.changeTokenIdStatus id target = (.error .errTokenidNotExist, m)) ∨
      ∃ current, m.getTokenIdStatusLocked id = some current ∧
        ((TokenIdStatus.ofRaw target = some current ∧ m.changeTokenIdStatus id target = (.ok (), m)) ∨
          (∃ st, TokenIdStatus.ofRaw target = some st ∧
            m.changeTokenIdStatus id target = (.ok (), (m.removeFromSet id current).addToSet id st)) ∨
          (TokenIdStatus.ofRaw target = none ∧
            m.changeTokenIdStatus id target = (.error .errParamInvalid, m.removeFromSet id current))) := by
  unfold changeTokenIdStatus
  cases hc : m.getTokenIdStatusLocked id with
  | none => exact .inl ⟨getTokenIdStatusLocked_eq_none.1 hc, rfl⟩
  | some current =>
    refine .inr ⟨current, rfl, ?_⟩
    simp only
    by_cases hsame : TokenIdStatus.ofRaw target = some current
    · exact .inl ⟨hsame, if_pos hsame⟩
    · rw [if_neg hsame]
      cases ht : TokenIdStatus.ofRaw target with
      | none => exact .inr (.inr ⟨rfl, rfl⟩)
      | some st => exact .inr (.inl ⟨st, rfl, rfl⟩)

theorem known_of_status (h : m.getTokenIdStatusLocked id = some current) : m.Known id :=
  getTokenIdStatusLocked_isSome.1 (by rw [h]; rfl)

/-- **The ids known after a status change**: the same ones for the three statuses, all but this id for any other
target value. -/
theorem known_changeTokenIdStatus (h : m.Partition) : (m.changeTokenIdStatus id target).2.Known x ↔
      m.Known x ∧ (x = id → (TokenIdStatus.ofRaw target).isSome = true) := by
  rcases changeTokenIdStatus_cases id target with
    ⟨hnew, heq⟩ | ⟨current, hc, ⟨ht, heq⟩ | ⟨st, ht, heq⟩ | ⟨ht, heq⟩⟩
  · rw [heq]
    refine ⟨fun hx => ⟨hx, ?_⟩, fun hx => hx.1⟩
    rintro rfl
    exact absurd hx hnew
  · rw [heq, ht]
    simp
  · rw [heq, ht, known_addToSet, known_removeFromSet h hc]
    have hid := known_of_status hc
    by_cases hx : x = id
    · subst hx; simp [hid]
    · simp [hx]
  · rw [heq, ht, known_removeFromSet h hc]
    simp [and_comm]

theorem Partition.changeTokenIdStatus (h : m.Partition) : (m.changeTokenIdStatus id target).2.Partition := by
  rcases changeTokenIdStatus_cases id target with
    ⟨-, heq⟩ | ⟨current, hc, ⟨-, heq⟩ | ⟨st, -, heq⟩ | ⟨-, heq⟩⟩
  · rw [heq]; exact h
  · rw [heq]; exact h
  · rw [heq]
    refine h.removeFromSet.addToSet ?_ st
    rw [known_removeFromSet h hc]
    simp
  · rw [heq]; exact h.removeFromSet

/-! ## Runs -/

inductive Op where
  | registerTokenId (id : AccessTokenID) (type : ATokenTypeEnum)
  | createAndRegisterTokenId (type : ATokenTypeEnum) (dlpFlag cloneFlag toolFlag : BitVec 32) (rand : Nat → BitVec 32)
  | releaseTokenId (id : AccessTokenID)
  | addReservedTokenId (id : AccessTokenID)
  | removeReservedTokenId (id : AccessTokenID)
  | changeTokenIdStatus (id : AccessTokenID) (targetStatus : BitVec 32)

structure Recorded where
  manager : AccessTokenIDManager
  registered : List (AccessTokenID × ATokenTypeEnum)

def Recorded.empty : Recorded := ⟨AccessTokenIDManager.empty, []⟩

def Recorded.step (r : Recorded) : Op → Recorded
  | .registerTokenId id type =>
    match r.manager.registerTokenId id type with
    | (.ok (), m) => ⟨m, (id, type) :: r.registered⟩
    | (.error _, m) => ⟨m, r.registered⟩
  | .createAndRegisterTokenId type dlp clone tool rand =>
    let (id, m) := r.manager.createAndRegisterTokenId type dlp clone tool rand
    ⟨m, if id = invalidTokenId then r.registered else (id, type) :: r.registered⟩
  | .releaseTokenId id => { r with manager := r.manager.releaseTokenId id }
  | .addReservedTokenId id => { r with manager := r.manager.addReservedTokenId id }
  | .removeReservedTokenId id => { r with manager := r.manager.removeReservedTokenId id }
  | .changeTokenIdStatus id target => { r with manager := (r.manager.changeTokenIdStatus id target).2 }

/-- What every operation keeps: the partition, and that a registered id has the type it was registered with. -/
structure Recorded.Inv (r : Recorded) : Prop where
  partition : r.manager.Partition
  typed : ∀ e ∈ r.registered, getTokenIdTypeEnum e.1 = e.2

theorem Recorded.inv_empty : Recorded.empty.Inv where
  partition := ⟨by simp [Recorded.empty, AccessTokenIDManager.empty], by
    simp [Recorded.empty, AccessTokenIDManager.empty], by simp [Recorded.empty, AccessTokenIDManager.empty]⟩
  typed := by simp [Recorded.empty]

theorem Recorded.Inv.step {r : Recorded} (h : r.Inv) {op : Op} : (r.step op).Inv := by
  cases op with
  | registerTokenId id type =>
    rcases registerTokenId_cases (m := r.manager) id type with ⟨-, e, he⟩ | ⟨hform, hnew, hok⟩
    · simp only [Recorded.step, he]; exact h
    simp only [Recorded.step, hok]
    refine ⟨h.partition.addToSet hnew .active, fun e he => ?_⟩
    rcases List.mem_cons.1 he with rfl | he
    · exact hform.type
    · exact h.typed e he
  | createAndRegisterTokenId type dlp clone tool rand =>
    rcases createAndRegisterLoop_cases (m := r.manager) type dlp clone tool rand maxCreateTokenIdRetry 0 with
      heq | ⟨id, hvalid, hform, hnew, heq⟩
    · simp only [Recorded.step, createAndRegisterTokenId, heq]; exact ⟨h.partition, h.typed⟩
    simp only [Recorded.step, createAndRegisterTokenId, heq]
    refine ⟨h.partition.addToSet hnew .active, fun e he => ?_⟩
    rw [if_neg hvalid] at he
    rcases List.mem_cons.1 he with rfl | he
    · exact hform.type
    · exact h.typed e he
  | releaseTokenId =>
    refine ⟨?_, h.typed⟩
    simp only [Recorded.step, releaseTokenId]
    split
    · exact h.partition.mono (fun x hx => mem_of_mem_erase hx) (fun _ hx => hx) (fun _ hx => hx)
    · exact h.partition
  | addReservedTokenId id =>
    refine ⟨?_, h.typed⟩
    simp only [Recorded.step, addReservedTokenId]
    split
    · exact h.partition
    · rename_i hnew
      rw [getTokenIdStatusLocked_isSome] at hnew
      exact h.partition.addToSet hnew .reserved
  | removeReservedTokenId =>
    refine ⟨?_, h.typed⟩
    exact h.partition.mono (fun _ hx => hx) (fun x hx => mem_of_mem_erase hx) (fun _ hx => hx)
  | changeTokenIdStatus => exact ⟨h.partition.changeTokenIdStatus, h.typed⟩

/-- **The status sets stay a partition of the known ids.**  In every state reached: no id has two statuses; a status
change creates no id, loses none when the target is one of the three statuses, and otherwise forgets exactly the id it
was asked to move and reports `ERR_PARAM_INVALID`; a created id was unknown; a registered id decodes to its type. -/
theorem tokenIdStatus_partition (r : Recorded) (hrun : Reaches Recorded.step Always Recorded.empty r) :
    r.manager.Partition ∧
      (∀ id target x, (r.manager.changeTokenIdStatus id target).2.Known x ↔
        r.manager.Known x ∧ (x = id → (TokenIdStatus.ofRaw target).isSome = true)) ∧
      (∀ id target, TokenIdStatus.ofRaw target = none → r.manager.Known id →
        (r.manager.changeTokenIdStatus id target).1 = .error .errParamInvalid) ∧
      (∀ type dlp clone tool rand id, (r.manager.createAndRegisterTokenId type dlp clone tool rand).1 = id →
        id ≠ invalidTokenId → ¬r.manager.Known id) ∧
      ∀ e ∈ r.registered, e.1 ∈ r.manager.tokenIdSet → getTokenIdTypeEnum e.1 = e.2 := by
  have hinv : r.Inv := hrun.invariant (fun _ op h _ => h.step) Recorded.inv_empty
  refine ⟨hinv.partition, fun id target x => known_changeTokenIdStatus hinv.partition,
    fun id target htarget hid => ?_, fun type dlp clone tool rand id hret hvalid => ?_,
    fun e he _ => hinv.typed e he⟩
  · rcases changeTokenIdStatus_cases (m := r.manager) id target with
      ⟨hnew, -⟩ | ⟨current, -, ⟨ht, -⟩ | ⟨st, ht, -⟩ | ⟨-, heq⟩⟩
    · exact absurd hid hnew
    · exact absurd (htarget.symm.trans ht) (by simp)
    · exact absurd (htarget.symm.trans ht) (by simp)
    · rw [heq]
  · rcases createAndRegisterLoop_cases (m := r.manager) type dlp clone tool rand maxCreateTokenIdRetry 0 with
      heq | ⟨id', -, -, hnew, heq⟩
    · exact absurd (hret.symm.trans (congrArg Prod.fst heq)) hvalid
    · obtain rfl : id = id' := hret.symm.trans (congrArg Prod.fst heq)
      exact hnew

/-- A run that reserves an id and makes it active meets the theorem. -/
theorem tokenIdStatus_partition_after_activation :
    ([.addReservedTokenId 536870913, .changeTokenIdStatus 536870913 0] : List Op).foldl Recorded.step
        Recorded.empty |>.manager.Partition :=
  (tokenIdStatus_partition _ (Lib.reaches_always _ _)).1

/-- **A status change can lose an id**: an active id asked to take status 100 is in no set afterwards. -/
theorem changeTokenIdStatus_loses_id :
    ∃ r, Reaches Recorded.step Always Recorded.empty r ∧ r.manager.Known 536870913 ∧
      ¬(r.manager.changeTokenIdStatus 536870913 100).2.Known 536870913 := by
  refine ⟨([.registerTokenId 536870913 .tokenHap] : List Op).foldl Recorded.step Recorded.empty,
    Lib.reaches_always _ _, ?_, ?_⟩
  · exact .inl (by decide)
  · unfold Known; decide

end AccessTokenIDManager
end AccessToken
