import AccessToken.Claw.ToolTokenRuns
import Mathlib.Data.Finset.Insert
/-!
# Deleting a tool token while the user policy is refreshed

`DeleteToolTokenByPid`, `RefreshUserPolicyFlagForUser` and `RollbackUserPolicyFlag` run at once; a section under a lock
or a kernel call is one step.  The information of a token is a shared object: the permission data goes with the last
reference to it, which may be the one a refresh holds while it updates the flag.

The permission data of a deleted token is gone in the end in every interleaving, its kernel permissions if no refresh
writes one it decided on before they were removed.
-/
namespace AccessToken

open Function (iterate_succ_apply update_of_ne update_self)
open Std.ExtTreeMap (mem_iff_isSome_getElem?)
open PermissionDataBrief
namespace Claw

open Lib (Calls callStep Reaches mem_erase)
open Service (UserPolicyRefreshSnapshot refreshedKernelStatus)

/-! ## The calls -/

/-- A `RefreshUserPolicyFlagForUser`, with what `IsPermissionRestricted` answers it for each token. -/
structure RefreshCall where
  userId : Int32
  permCode : Nat
  restricted : AccessTokenID → Bool
  order : List AccessTokenID → List AccessTokenID

inductive ToolCall where
  | deleteToolTokenByPid (pid : Int32)
  | refreshUserPolicyFlagForUser (call : RefreshCall)
  | rollbackUserPolicyFlag (appliedSnapshots : List UserPolicyRefreshSnapshot)

structure ToolVisit where
  call : RefreshCall
  tokenId : AccessTokenID
  originalStatus : Int
  originalFlag : Flag
  rest : List AccessTokenID
  appliedSnapshots : List UserPolicyRefreshSnapshot

namespace ToolVisit

variable (v : ToolVisit)

def kernelStatusBefore : Bool := refreshedKernelStatus v.originalStatus (isRestricted v.originalFlag)

def kernelStatusAfter : Bool := refreshedKernelStatus v.originalStatus (v.call.restricted v.tokenId)

def snapshot : UserPolicyRefreshSnapshot := ⟨v.tokenId, v.call.permCode, v.originalStatus, v.originalFlag⟩

end ToolVisit

inductive ToolPc where
  | start (call : ToolCall)
  | removePermFromKernel (pid : Int32) (tokenId : AccessTokenID)
  | removeToolTokenInfo (pid : Int32) (tokenId : AccessTokenID)
  | releaseTokenId (tokenId : AccessTokenID)
  | dropInner (tokenId : AccessTokenID)
  | deleted (tokenId : AccessTokenID)
  | queryVisited (call : RefreshCall) (rest : List AccessTokenID) (appliedSnapshots : List UserPolicyRefreshSnapshot)
  | findInner (v : ToolVisit)
  | updateFlag (v : ToolVisit)
  | dropUpdated (v : ToolVisit) (ret : Ret)
  | setPermToKernel (v : ToolVisit)
  | queryRestored (rest : List UserPolicyRefreshSnapshot)
  | restoreFlag (snapshot : UserPolicyRefreshSnapshot) (rest : List UserPolicyRefreshSnapshot)
  | restoreKernel (snapshot : UserPolicyRefreshSnapshot) (rest : List UserPolicyRefreshSnapshot)
  | returned (ret : Except AccessTokenError (List UserPolicyRefreshSnapshot))

structure ToolShared (ι : Type) extends world : ToolWorld where
  holders : AccessTokenID → Finset ι

namespace ToolShared

variable {ι : Type} [DecidableEq ι] (s : ToolShared ι)

def take (i : ι) (t : AccessTokenID) : ToolShared ι :=
  { s with holders := Function.update s.holders t (insert i (s.holders t)) }

/-- A reference is dropped; the last one takes the permission data with it. -/
def drop (i : ι) (t : AccessTokenID) : ToolShared ι where
  world := if (s.holders t).erase i = ∅ ∧ t ∉ s.toolTokenInfoMap then s.world.destroy t else s.world
  holders := Function.update s.holders t ((s.holders t).erase i)

def withWorld (world : ToolWorld) : ToolShared ι := { s with world := world }

def withTools (tools : ToolTokenInfoManager) : ToolShared ι := { s with world := { s.world with tools := tools } }

def withBrief (brief : PermissionDataBrief) : ToolShared ι := { s with world := { s.world with brief := brief } }

end ToolShared

section
variable {ι : Type} [DecidableEq ι]

def beginToolCall (s : ToolShared ι) : ToolCall → ToolPc × ToolShared ι
  | .deleteToolTokenByPid pid =>
    match s.pidToolTokenMap[pid]? with
    | none => (.returned (.error .errTokenidNotExist), s)
    | some tokenId =>
      if tokenId ∈ s.deletingToolTokenIdSet then (.returned (.error .errTokenidNotExist), s)
      else
        (.removePermFromKernel pid tokenId, s.withTools { s.tools with
          deletingToolTokenIdSet := s.deletingToolTokenIdSet.insert tokenId })
  | .refreshUserPolicyFlagForUser call =>
    (.queryVisited call (s.tools.getToolTokenIDByUserID call.order call.userId) [], s)
  | .rollbackUserPolicyFlag appliedSnapshots => (.queryRestored appliedSnapshots.reverse, s)

/-- The second section of `DeleteToolTokenByPid`. -/
def removeToolTokenInfo (i : ι) (s : ToolShared ι) (pid : Int32) (tokenId : AccessTokenID) : ToolPc × ToolShared ι :=
  let removed : Option ClawTokenBaseInfo × ToolTokenInfoManager :=
    if s.pidToolTokenMap[pid]? = some tokenId then s.tools.removeToolTokenInfoLocked tokenId
    else (none, s.tools)
  let s := s.withTools { removed.2 with deletingToolTokenIdSet := removed.2.deletingToolTokenIdSet.erase tokenId }
  match removed.1 with
  | none => (.deleted tokenId, s)
  | some _ => (.releaseTokenId tokenId, s.take i tokenId)

/-- After `UpdateRestrictedFlag`: the rest of a turn of the refresh. -/
def afterUpdate (v : ToolVisit) : Ret → ToolPc
  | .error e => .returned (.error e)
  | .ok () =>
    if v.kernelStatusBefore != v.kernelStatusAfter then .setPermToKernel v
    else .queryVisited v.call v.rest (v.appliedSnapshots ++ [v.snapshot])

/-- **The next step of a call.** -/
def toolCallStep (T : PermissionTable) (i : ι) (s : ToolShared ι) : ToolPc → ToolPc × ToolShared ι
  | .start call => beginToolCall s call
  | .removePermFromKernel pid tokenId =>
    (.removeToolTokenInfo pid tokenId, s.withWorld (s.world.removePermFromKernel tokenId))
  | .removeToolTokenInfo pid tokenId => removeToolTokenInfo i s pid tokenId
  | .releaseTokenId tokenId => (.dropInner tokenId, s.withWorld (s.world.release tokenId))
  | .dropInner tokenId => (.deleted tokenId, s.drop i tokenId)
  | .queryVisited _ [] appliedSnapshots => (.returned (.ok appliedSnapshots), s)
  | .queryVisited call (tokenId :: rest) appliedSnapshots =>
    match s.queryStoredPermissionStatusAndFlag tokenId call.permCode with
    | .error .errPermissionNotExist => (.queryVisited call rest appliedSnapshots, s)
    | .error e => (.returned (.error e), s)
    | .ok (status, flag) => (.findInner ⟨call, tokenId, status, flag, rest, appliedSnapshots⟩, s)
  | .findInner v =>
    if v.tokenId ∈ s.toolTokenInfoMap then (.updateFlag v, s.take i v.tokenId)
    else (.returned (.error .errTokenidNotExist), s)
  | .updateFlag v =>
    match s.brief.updatePermissionFlag v.tokenId v.call.permCode permissionRestrictedByAdmin
        (v.call.restricted v.tokenId) with
    | (.error e, brief) => (.dropUpdated v (.error e), s.withBrief brief)
    | (.ok _, brief) => (.dropUpdated v (.ok ()), s.withBrief brief)
  | .dropUpdated v ret => (afterUpdate v ret, s.drop i v.tokenId)
  | .setPermToKernel v =>
    (.queryVisited v.call v.rest (v.appliedSnapshots ++ [v.snapshot]),
      s.withWorld (s.world.setPermToKernel T true v.tokenId (T.transferOpcodeToPermission v.call.permCode)
        v.kernelStatusAfter))
  | .queryRestored [] => (.returned (.ok []), s)
  | .queryRestored (snapshot :: rest) =>
    match s.queryStoredPermissionStatusAndFlag snapshot.tokenId snapshot.permCode with
    | .error _ => (.queryRestored rest, s)
    | .ok (_, currentFlag) =>
      if isRestricted currentFlag = isRestricted snapshot.originalFlag then (.restoreKernel snapshot rest, s)
      else (.restoreFlag snapshot rest, s)
  | .restoreFlag snapshot rest =>
    match s.brief.updatePermissionFlag snapshot.tokenId snapshot.permCode permissionRestrictedByAdmin
        (isRestricted snapshot.originalFlag) with
    | (.error _, brief) => (.queryRestored rest, s.withBrief brief)
    | (.ok _, brief) => (.restoreKernel snapshot rest, s.withBrief brief)
  | .restoreKernel snapshot rest =>
    (.queryRestored rest, s.withWorld (s.world.setPermToKernel T true snapshot.tokenId
      (T.transferOpcodeToPermission snapshot.permCode)
      (refreshedKernelStatus snapshot.originalStatus (isRestricted snapshot.originalFlag))))
  | .deleted tokenId => (.deleted tokenId, s)
  | .returned ret => (.returned ret, s)

/-! ## Where a call is -/

namespace ToolPc

def held : ToolPc → Option AccessTokenID
  | .releaseTokenId t | .dropInner t => some t
  | .updateFlag v | .dropUpdated v _ => some v.tokenId
  | _ => none

/-- The pid and the token of a deletion that has not yet taken the token out of the maps. -/
def deleting : ToolPc → Option (Int32 × AccessTokenID)
  | .removePermFromKernel pid t | .removeToolTokenInfo pid t => some (pid, t)
  | _ => none

def clearing : ToolPc → Option AccessTokenID
  | .removePermFromKernel _ t => some t
  | _ => none

def cleared : ToolPc → Option AccessTokenID
  | .removeToolTokenInfo _ t | .releaseTokenId t | .dropInner t | .deleted t => some t
  | _ => none

def unlisted : ToolPc → Option AccessTokenID
  | .releaseTokenId t | .dropInner t | .deleted t => some t
  | _ => none

def visiting : ToolPc → Option AccessTokenID
  | .queryVisited _ (t :: _) _ => some t
  | .queryRestored (snapshot :: _) => some snapshot.tokenId
  | _ => none

def granting : ToolPc → Option AccessTokenID
  | .findInner v | .updateFlag v | .dropUpdated v _ =>
    if v.kernelStatusBefore = false ∧ v.kernelStatusAfter = true then some v.tokenId else none
  | .setPermToKernel v => if v.kernelStatusAfter then some v.tokenId else none
  | .restoreFlag snapshot _ | .restoreKernel snapshot _ =>
    if refreshedKernelStatus snapshot.originalStatus (isRestricted snapshot.originalFlag) then some snapshot.tokenId
    else none
  | _ => none

def finished : ToolPc → Bool
  | .deleted _ | .returned _ => true
  | _ => false

end ToolPc

/-- No visit of a token is split by the removal of its kernel permissions: when they are removed no call has decided to
set one, and from then on no call queries the token while its permission data is there. -/
def KeepsApart (s : Calls ι (ToolShared ι) ToolPc) (i : ι) : Prop :=
  (∀ t ∈ (s.pc i).clearing, ∀ j, (s.pc j).granting ≠ some t) ∧
    ∀ t ∈ (s.pc i).visiting, t ∈ s.shared.requestedPermData → ∀ j, (s.pc j).cleared ≠ some t

instance [Fintype ι] (s : Calls ι (ToolShared ι) ToolPc) (i : ι) : Decidable (KeepsApart s i) :=
  @instDecidableAnd _ _ (Option.decidableForallMem _) (Option.decidableForallMem _)

end

/-! ## What a step does to one token -/

structure StoresNothing (b : PermissionDataBrief) (t : AccessTokenID) : Prop where
  data : t ∉ b.requestedPermData
  grants : ∀ c ∈ b.secCompList, c.tokenId ≠ t
  values : ∀ key : BitVec 64, (key >>> 32).setWidth 32 = t → b.extendedValue[key]? = none

structure StillStored (b b' : PermissionDataBrief) (t : AccessTokenID) : Prop where
  data : t ∈ b'.requestedPermData ↔ t ∈ b.requestedPermData
  nothing : StoresNothing b t → StoresNothing b' t

theorem StillStored.refl {b : PermissionDataBrief} {t : AccessTokenID} : StillStored b b t := ⟨Iff.rfl, id⟩

section
variable {b b' : PermissionDataBrief} {x : AccessTokenID}

theorem SameData.stillStored (h : SameData b b' x) : StillStored b b' x := by
  have hmem : x ∈ b'.requestedPermData ↔ x ∈ b.requestedPermData := by
    rw [mem_iff_isSome_getElem?, h.data, ← mem_iff_isSome_getElem?]
  exact ⟨hmem, fun hno => ⟨fun hx => hno.data (hmem.1 hx), fun c hc heq => hno.grants c (h.grants c hc heq) heq,
    fun key hkey => (h.values key hkey).trans (hno.values key hkey)⟩⟩

theorem stillStored_updatePermissionFlag (b : PermissionDataBrief) (t x : AccessTokenID) (c : Nat) (mask : Flag)
    (add : Bool) : StillStored b (b.updatePermissionFlag t c mask add).2 x := by
  obtain ⟨-, e, heq⟩ | ⟨d, -, heq⟩ := updatePermissionFlag_cases t c mask add
  · rw [heq]
    exact .refl
  · rw [heq]
    have hmem := @mem_modifyEntry b t x c fun d =>
      { d with flag := maskedFlag mask add d.flag }
    exact ⟨hmem, fun hno => ⟨fun hx => hno.data (hmem.1 hx), hno.grants, hno.values⟩⟩

theorem storesNothing_delete (h : x ∈ b.requestedPermData) : StoresNothing (b.deleteBriefPermDataByTokenId x).2 x := by
  obtain ⟨hnot, -⟩ | ⟨-, heq⟩ := deleteBriefPermDataByTokenId_cases x
  · exact absurd h hnot
  rw [heq]
  refine ⟨?_, fun c hc => ?_, fun key hkey => ?_⟩
  · simp
  · simpa using (List.mem_filter.1 hc).2
  · exact (getElem?_deleteExtendedValue ..).trans (if_pos hkey)

end

namespace ToolShared

variable {ι : Type} {s s' : ToolShared ι} {i : ι} {t x : AccessTokenID}

def Live (s : ToolShared ι) (x : AccessTokenID) : Prop :=
  x ∈ s.toolTokenInfoMap ∨ (s.holders x).Nonempty

structure Kept (s : ToolShared ι) (x : AccessTokenID) : Prop where
  live : s.Live x → x ∈ s.requestedPermData
  dead : ¬s.Live x → StoresNothing s.brief x

theorem Kept.congr (h : s.Kept x) (hlive : s'.Live x ↔ s.Live x)
    (hdata : StillStored s.brief s'.brief x) : s'.Kept x :=
  ⟨fun hx => hdata.data.2 (h.live (hlive.1 hx)), fun hx => hdata.nothing (h.dead fun hl => hx (hlive.2 hl))⟩

variable [DecidableEq ι] {j : ι}

theorem mem_holders_take : j ∈ (s.take i t).holders x ↔ (j = i ∧ x = t) ∨ j ∈ s.holders x := by
  unfold take
  by_cases hx : x = t
  · subst hx
    simp
  · simp [hx]

theorem mem_holders_drop : j ∈ (s.drop i t).holders x ↔ j ∈ s.holders x ∧ ¬(j = i ∧ x = t) := by
  unfold drop
  by_cases hx : x = t
  · subst hx
    simp [and_comm]
  · simp [hx]

theorem drop_world (s : ToolShared ι) (i : ι) (t : AccessTokenID) :
    (s.drop i t).tools = s.tools ∧ (s.drop i t).kernel = s.kernel := by
  unfold drop ToolWorld.destroy
  split
  · split <;> exact ⟨rfl, rfl⟩
  · exact ⟨rfl, rfl⟩

theorem stillStored_drop (h : x ≠ t) : StillStored s.brief (s.drop i t).brief x := by
  unfold drop ToolWorld.destroy
  split
  · split
    · exact (sameData_deleteBriefPermData s.brief h).stillStored
    · exact .refl
  · exact .refl

theorem Kept.take (h : s.Kept x) (hlive : t = x → s.Live x) : (s.take i t).Kept x := by
  refine h.congr ?_ .refl
  by_cases ht : t = x
  · exact iff_of_true (.inr ⟨i, mem_holders_take.2 (.inl ⟨rfl, ht.symm⟩)⟩) (hlive ht)
  · have hsame : (s.take i t).holders x = s.holders x := update_of_ne (Ne.symm ht) ..
    exact or_congr Iff.rfl (by rw [hsame])

/-- **The last reference takes the permission data with it.** -/
theorem Kept.drop (h : s.Kept x) (hx : x ≠ invalidTokenId) (hheld : t = x → i ∈ s.holders x) : (s.drop i t).Kept x := by
  by_cases ht : t = x
  · subst ht
    have hdata := h.live (.inr ⟨i, hheld rfl⟩)
    by_cases hlast : (s.holders t).erase i = ∅ ∧ t ∉ s.toolTokenInfoMap
    · have hbrief : (s.drop i t).brief = (s.brief.deleteBriefPermDataByTokenId t).2 := by
        unfold drop
        rw [if_pos hlast, ToolWorld.brief_destroy hx]
      refine ⟨fun hlive => ?_, fun _ => hbrief ▸ storesNothing_delete hdata⟩
      obtain hmem | ⟨j, hj⟩ := hlive
      · exact absurd ((drop_world s i t).1 ▸ hmem) hlast.2
      · obtain ⟨hj, hne⟩ := mem_holders_drop.1 hj
        have : j ∈ (s.holders t).erase i := Finset.mem_erase.2 ⟨fun heq => hne ⟨heq, rfl⟩, hj⟩
        rw [hlast.1] at this
        cases this
    · have hworld : (s.drop i t).world = s.world := if_neg hlast
      refine ⟨fun _ => hworld ▸ hdata, fun hdead => absurd ?_ hlast⟩
      rw [Live, not_or, hworld, Finset.not_nonempty_iff_eq_empty] at hdead
      exact ⟨(update_self t _ s.holders).symm.trans hdead.2, hdead.1⟩
  · have hsame : (s.drop i t).holders x = s.holders x := update_of_ne (Ne.symm ht) ..
    refine h.congr ?_ (stillStored_drop (Ne.symm ht))
    unfold Live
    rw [hsame, (drop_world s i t).1]

end ToolShared

/-! ## A call alone -/

section
variable {ι : Type} [DecidableEq ι] {T : PermissionTable} {i : ι} {pid : Int32} {s : ToolShared ι} {t : AccessTokenID}

def stepAlone (T : PermissionTable) (i : ι) (p : ToolPc × ToolShared ι) : ToolPc × ToolShared ι :=
  toolCallStep T i p.2 p.1

theorem drop_take {s : ToolShared ι} {t : AccessTokenID} (hfree : s.holders t = ∅)
    (ht : t ∉ s.toolTokenInfoMap) : (s.take i t).drop i t = s.withWorld (s.world.destroy t) := by
  have hlast : ((s.take i t).holders t).erase i = ∅ := by
    have hholders : (s.take i t).holders t = insert i (s.holders t) := update_self ..
    rw [hholders, hfree]
    simp
  unfold ToolShared.drop
  rw [hlast, if_pos ⟨rfl, ht⟩]
  unfold ToolShared.take ToolShared.withWorld
  rw [Function.update_idem, ← hfree, Function.update_eq_self]

theorem removeToolTokenInfo_of_none
    (h : s.toolTokenInfoMap[t]? = none ∨ s.pidToolTokenMap[pid]? ≠ some t) :
    removeToolTokenInfo i s pid t = (.deleted t, s.withTools { s.tools with
      deletingToolTokenIdSet := s.deletingToolTokenIdSet.erase t }) := by
  unfold removeToolTokenInfo ToolTokenInfoManager.removeToolTokenInfoLocked
  obtain h | h := h
  · rw [h]
    split <;> rfl
  · rw [if_neg h]

theorem removeToolTokenInfo_of_some {inner : ClawTokenBaseInfo}
    (hinfo : s.toolTokenInfoMap[t]? = some inner) (hpid : s.pidToolTokenMap[pid]? = some t) :
    removeToolTokenInfo i s pid t = (.releaseTokenId t, (s.withTools
      { (s.tools.removeToolTokenInfoLocked t).2 with
        deletingToolTokenIdSet :=
          (s.tools.removeToolTokenInfoLocked t).2.deletingToolTokenIdSet.erase t }).take i t) := by
  unfold removeToolTokenInfo
  rw [if_pos hpid]
  unfold ToolTokenInfoManager.removeToolTokenInfoLocked
  rw [hinfo]

/-- **The steps of a deletion one after the other are `DeleteToolTokenByPid`.** -/
theorem delete_alone {w : ToolWorld} (hidle : ∀ t, t ∉ w.deletingToolTokenIdSet) :
    ((stepAlone T i)^[5] (.start (.deleteToolTokenByPid pid), ⟨w, fun _ => ∅⟩)).2.world =
      (w.deleteToolTokenByPid true pid).2 := by
  unfold ToolWorld.deleteToolTokenByPid
  rw [iterate_succ_apply]
  cases hpid : w.pidToolTokenMap[pid]? with
  | none =>
    simp only [stepAlone, toolCallStep, beginToolCall, hpid]
    rfl
  | some t =>
    simp only [stepAlone, toolCallStep, beginToolCall, hpid, if_neg (hidle t)]
    have hset : ({ w.tools with deletingToolTokenIdSet := (w.deletingToolTokenIdSet.insert t).erase t } :
        ToolTokenInfoManager) = w.tools := by
      rw [Lib.set_erase_insert (hidle t)]
    rw [iterate_succ_apply, iterate_succ_apply]
    simp only [stepAlone, toolCallStep]
    cases hinfo : w.toolTokenInfoMap[t]? with
    | none =>
      rw [removeToolTokenInfo_of_none (.inl hinfo)]
      simp only [ToolTokenInfoManager.removeToolTokenInfoLocked, ToolWorld.removePermFromKernel, hinfo]
      exact congrArg (fun m => ({ w with tools := m, kernel := w.kernel.removePermissionFromKernel t } : ToolWorld))
        hset
    | some =>
      rw [removeToolTokenInfo_of_some hinfo hpid, iterate_succ_apply, iterate_succ_apply]
      -- the only reference left is dropped
      have hfree : t ∉ (w.tools.removeToolTokenInfoLocked t).2.toolTokenInfoMap := by
        simp [ToolTokenInfoManager.removeToolTokenInfoLocked, hinfo]
      have hdrop := @drop_take ι _ i ⟨({ w with
        tools := (w.tools.removeToolTokenInfoLocked t).2
        kernel := w.kernel.removePermissionFromKernel t } : ToolWorld).release t, fun _ => ∅⟩ t rfl hfree
      simp only [stepAlone, toolCallStep, ToolTokenInfoManager.removeToolTokenInfoLocked, ToolShared.withTools,
        ToolShared.withWorld, ToolWorld.removePermFromKernel, hinfo] at hdrop ⊢
      rw [Lib.set_erase_insert (hidle t)]
      exact congrArg ToolShared.world hdrop

/-- One tool token, whose camera a policy has restricted. -/
def restrictedTool : ToolWorld := runToolOps [sampleToolInit "legacy:c" true, cameraRefresh]

theorem delete_alone_restricted : 806354945#32 ∈ restrictedTool.toolTokenInfoMap ∧
    ((stepAlone sampleTable ())^[5] (.start (.deleteToolTokenByPid 1), ⟨restrictedTool, fun _ => ∅⟩)).2.world =
      (restrictedTool.deleteToolTokenByPid true 1).2 ∧
    806354945#32 ∉ (restrictedTool.deleteToolTokenByPid true 1).2.toolTokenInfoMap := by
  have hidle : restrictedTool.deletingToolTokenIdSet.isEmpty := by decide +kernel
  have hstart : ∀ t, t ∉ restrictedTool.deletingToolTokenIdSet := fun t => by
    rw [Std.ExtTreeSet.isEmpty_iff.1 hidle]
    exact Std.ExtTreeSet.not_mem_empty
  exact ⟨by decide +kernel, delete_alone hstart, by decide +kernel⟩

end

/-- What a step of the call `i` does to the token `x`. -/
structure Does {ι : Type} (x : AccessTokenID) (i : ι) (s : ToolShared ι) (pc : ToolPc) (s' : ToolShared ι)
    (pc' : ToolPc) : Prop where
  linked : s.tools.Linked → s'.tools.Linked
  listed : ∀ inner, s'.toolTokenInfoMap[x]? = some inner → s.toolTokenInfoMap[x]? = some inner
  others : ∀ j, j ≠ i → (j ∈ s'.holders x ↔ j ∈ s.holders x)
  held : (i ∈ s.holders x ↔ pc.held = some x) → (i ∈ s'.holders x ↔ pc'.held = some x)
  kept : x ≠ invalidTokenId → (i ∈ s.holders x ↔ pc.held = some x) → s.Kept x → s'.Kept x
  deleting : ∀ p, pc'.deleting = some (p, x) → pc.deleting = some (p, x) ∨ s.tools.tokenOf p = some x
  unlisted : pc'.unlisted = some x → pc.unlisted = some x ∨
    ∃ p, pc.deleting = some (p, x) ∧ (s.tools.tokenOf p = some x → x ∉ s'.toolTokenInfoMap)
  kernel : (s.kernel x = (fun _ => false) → s'.kernel x = fun _ => false) ∨ pc.granting = some x
  cleared : pc'.cleared = some x → pc.cleared = some x ∨
    (pc.clearing = some x ∧ s'.kernel x = fun _ => false)
  granting : pc'.granting = some x → pc.granting = some x ∨
    (pc.visiting = some x ∧ x ∈ s.requestedPermData)

section
variable {ι : Type} {T : PermissionTable} {x : AccessTokenID} {i : ι} {s s' : ToolShared ι} {pc pc' : ToolPc}

theorem linked_congr {m m' : ToolTokenInfoManager} (hinfo : m'.toolTokenInfoMap = m.toolTokenInfoMap)
    (hhost : m'.hostToolTokenMap = m.hostToolTokenMap) (hpid : m'.pidToolTokenMap = m.pidToolTokenMap) (h : m.Linked) :
    m'.Linked := by
  obtain ⟨info, host, pid, deleting⟩ := m
  obtain ⟨info', host', pid', deleting'⟩ := m'
  obtain rfl : info' = info := hinfo
  obtain rfl : host' = host := hhost
  obtain rfl : pid' = pid := hpid
  exact ⟨h.pid, h.host, h.listed⟩

theorem Does.of_same (hinfo : s'.toolTokenInfoMap = s.toolTokenInfoMap)
    (hhost : s'.hostToolTokenMap = s.hostToolTokenMap)
    (hpid : s'.pidToolTokenMap = s.pidToolTokenMap) (hholders : s'.holders = s.holders)
    (hstored : StillStored s.brief s'.brief x) (hheld : pc'.held = some x ↔ pc.held = some x)
    (hdeleting : ∀ p, pc'.deleting = some (p, x) → pc.deleting = some (p, x) ∨ s.tools.tokenOf p = some x)
    (hunlisted : pc'.unlisted = some x → pc.unlisted = some x ∨
      ∃ p, pc.deleting = some (p, x) ∧ (s.tools.tokenOf p = some x → x ∉ s'.toolTokenInfoMap))
    (hkernel : (s.kernel x = (fun _ => false) → s'.kernel x = fun _ => false) ∨ pc.granting = some x)
    (hcleared : pc'.cleared = some x → pc.cleared = some x ∨
      (pc.clearing = some x ∧ s'.kernel x = fun _ => false))
    (hgranting : pc'.granting = some x → pc.granting = some x ∨
      (pc.visiting = some x ∧ x ∈ s.requestedPermData)) : Does x i s pc s' pc' where
  linked := linked_congr hinfo hhost hpid
  listed _ h := hinfo ▸ h
  others _ _ := by rw [hholders]
  held h := by rw [hholders, hheld]; exact h
  kept _ _ h := h.congr (by unfold ToolShared.Live; rw [hinfo, hholders]) hstored
  deleting := hdeleting
  unlisted := hunlisted
  kernel := hkernel
  cleared := hcleared
  granting := hgranting

theorem Does.of_eq (hheld : pc'.held = some x ↔ pc.held = some x)
    (hdeleting : ∀ p, pc'.deleting = some (p, x) → pc.deleting = some (p, x))
    (hunlisted : pc'.unlisted = some x → pc.unlisted = some x) (hcleared : pc'.cleared = some x → pc.cleared = some x)
    (hgranting : pc'.granting = some x → pc.granting = some x ∨
      (pc.visiting = some x ∧ x ∈ s.requestedPermData)) : Does x i s pc s pc' :=
  .of_same rfl rfl rfl rfl .refl hheld (fun p h => .inl (hdeleting p h)) (fun h => .inl (hunlisted h)) (.inl id)
    (fun h => .inl (hcleared h)) hgranting

theorem begin_does {call : ToolCall} : Does x i s (.start call) (beginToolCall s call).2 (beginToolCall s call).1 := by
  cases call with
  | deleteToolTokenByPid pid =>
    unfold beginToolCall
    dsimp only
    split
    · exact .of_eq Iff.rfl (fun _ => nofun) nofun nofun nofun
    rename_i t ht
    split
    · exact .of_eq Iff.rfl (fun _ => nofun) nofun nofun nofun
    · refine .of_same rfl rfl rfl rfl .refl Iff.rfl (fun p hp => .inr ?_) nofun (.inl id) nofun nofun
      cases hp
      exact ht
  | refreshUserPolicyFlagForUser =>
    refine .of_eq Iff.rfl (fun _ => nofun) nofun nofun fun h => ?_
    cases h
  | rollbackUserPolicyFlag =>
    refine .of_eq Iff.rfl (fun _ => nofun) nofun nofun fun h => ?_
    cases h

theorem kernel_setPermToKernel (w : ToolWorld) (t : AccessTokenID) (name : String) (b : Bool) :
    (w.kernel x = (fun _ => false) → (w.setPermToKernel T true t name b).kernel x = fun _ => false) ∨
    (t = x ∧ b = true) := by
  by_cases h : t = x ∧ b = true
  · exact .inr h
  refine .inl fun hno => ?_
  unfold ToolWorld.setPermToKernel
  split
  · exact hno
  rename_i code _
  funext c
  have hset := KernelPerms.setPermissionToKernel_apply w.kernel t x code c b
  rw [congrFun hno c] at hset
  refine hset.trans ?_
  split
  · rename_i heq
    cases b with
    | false => rfl
    | true => exact absurd ⟨heq.1.symm, rfl⟩ h
  · rfl

variable [DecidableEq ι] {t : AccessTokenID}

theorem take_does (hlive : t = x → s.Live x) (hbefore : pc.held = none) (hheld : pc'.held = some t)
    (hdeleting : pc'.deleting = none) (hunlisted : pc'.unlisted = none) (hcleared : pc'.cleared = none)
    (hgranting : pc'.granting = pc.granting) : Does x i s pc (s.take i t) pc' where
  linked := id
  listed _ := id
  others j hj := by simp [ToolShared.mem_holders_take, hj]
  held h := by
    have hnot : i ∉ s.holders x := fun hi => by simpa [hbefore] using h.1 hi
    simp [ToolShared.mem_holders_take, hnot, hheld, eq_comm]
  kept _ _ h := h.take hlive
  deleting p h := by rw [hdeleting] at h; cases h
  unlisted h := by rw [hunlisted] at h; cases h
  kernel := .inl id
  cleared h := by rw [hcleared] at h; cases h
  granting h := .inl (hgranting ▸ h)

theorem drop_does (hbefore : pc.held = some t) (hheld : pc'.held = none) (hdeleting : pc'.deleting = none)
    (hunlisted : pc'.unlisted = some x → pc.unlisted = some x) (hcleared : pc'.cleared = some x → pc.cleared = some x)
    (hgranting : pc'.granting = some x → pc.granting = some x) : Does x i s pc (s.drop i t) pc' where
  linked h := (ToolShared.drop_world s i t).1.symm ▸ h
  listed _ h := (ToolShared.drop_world s i t).1 ▸ h
  others j hj := by simp [ToolShared.mem_holders_drop, hj]
  held h := by
    rw [hbefore] at h
    rw [ToolShared.mem_holders_drop, h, hheld]
    simp [eq_comm]
  kept hx h hkept := hkept.drop hx fun ht => h.2 (ht ▸ hbefore)
  deleting p h := by rw [hdeleting] at h; cases h
  unlisted h := .inl (hunlisted h)
  kernel := .inl fun h => (ToolShared.drop_world s i t).2.symm ▸ h
  cleared h := .inl (hcleared h)
  granting h := .inl (hgranting h)

end

section
variable {ι : Type} {T : PermissionTable} {x t : AccessTokenID} {i : ι} {s : ToolShared ι}

theorem mem_of_queryStored {b : PermissionDataBrief} {c : Nat} {r : Int × Flag}
    (h : b.queryStoredPermissionStatusAndFlag t c = .ok r) : t ∈ b.requestedPermData := by
  by_contra hnot
  rw [Service.queryStored_of_not_mem hnot] at h
  cases h

theorem setPermToKernel_same (w : ToolWorld) (t : AccessTokenID) (name : String) (b : Bool) :
    (w.setPermToKernel T true t name b).tools = w.tools ∧ (w.setPermToKernel T true t name b).brief = w.brief := by
  unfold ToolWorld.setPermToKernel
  split <;> exact ⟨rfl, rfl⟩

theorem setPermToKernel_does {pc pc' : ToolPc} {name : String} {b : Bool} (hbefore : pc.held = none)
    (hheld : pc'.held = none) (hdeleting : pc'.deleting = none) (hunlisted : pc'.unlisted = none)
    (hcleared : pc'.cleared = none) (hgranting : pc'.granting = none)
    (hgrants : t = x → b = true → pc.granting = some x) :
    Does x i s pc (s.withWorld (s.world.setPermToKernel T true t name b)) pc' := by
  obtain ⟨htools, hbrief⟩ := @setPermToKernel_same T s.world t name b
  refine .of_same (by rw [ToolShared.withWorld, htools]) (by rw [ToolShared.withWorld, htools])
    (by rw [ToolShared.withWorld, htools]) rfl ?_ (by rw [hbefore, hheld]) ?_ ?_ ?_ ?_ ?_
  · rw [ToolShared.withWorld, hbrief]
    exact .refl
  · rw [hdeleting]
    exact fun _ => nofun
  · rw [hunlisted]
    exact nofun
  · obtain h | ⟨ht, hb⟩ := @kernel_setPermToKernel T x s.world t name b
    · exact .inl h
    · exact .inr (hgrants ht hb)
  · rw [hcleared]
    exact nofun
  · rw [hgranting]
    exact nofun

variable [DecidableEq ι] {m : ToolTokenInfoManager} {pid : Int32} {inner : ClawTokenBaseInfo}

theorem linked_removed (h : m.Linked)
    (hinfo : m.toolTokenInfoMap[t]? = some inner) : (m.removeToolTokenInfoLocked t).2.Linked := by
  have hpid : m.pidToolTokenMap[inner.callerPid]? = some t := by
    refine (h.pid _ _).2 ?_
    rw [ToolTokenInfoManager.pidOf, hinfo]
    rfl
  refine h.remove hinfo ?_ ?_ ?_ <;> unfold ToolTokenInfoManager.removeToolTokenInfoLocked <;> rw [hinfo]
  exact if_pos hpid

/-- The token is taken out of the maps, and the deletion has the reference they had. -/
theorem unlist_does (hinfo : s.toolTokenInfoMap[t]? = some inner)
    (hmap : m.toolTokenInfoMap = s.toolTokenInfoMap.erase t) (hlinked : s.tools.Linked → m.Linked) :
    Does x i s (.removeToolTokenInfo pid t) ((s.withTools m).take i t) (.releaseTokenId t) where
  linked := hlinked
  listed inner' h := by
    change m.toolTokenInfoMap[x]? = some inner' at h
    rw [hmap] at h
    exact (Lib.getElem?_erase_eq_some.1 h).2
  others j hj := ToolShared.mem_holders_take.trans (or_iff_right fun h => hj h.1)
  held h := by
    have hnot : i ∉ s.holders x := fun hi => by cases h.1 hi
    refine ToolShared.mem_holders_take.trans ?_
    rw [ToolShared.withTools, or_iff_left hnot, ToolPc.held, Option.some.injEq]
    simp [eq_comm]
  kept _ _ h := by
    refine h.congr ?_ .refl
    by_cases ht : x = t
    · refine iff_of_true (.inr ⟨i, ToolShared.mem_holders_take.2 (.inl ⟨rfl, ht⟩)⟩) (.inl ?_)
      rw [ht, mem_iff_isSome_getElem?, hinfo]
      rfl
    · have hholders : ((s.withTools m).take i t).holders x = s.holders x := update_of_ne ht ..
      refine or_congr ?_ (by rw [hholders])
      change x ∈ m.toolTokenInfoMap ↔ _
      rw [hmap, mem_erase, and_iff_right ht]
  deleting _ := nofun
  unlisted h := by
    have ht : t = x := Option.some.inj h
    subst ht
    refine .inr ⟨pid, rfl, fun _ hmem => ?_⟩
    change t ∈ m.toolTokenInfoMap at hmem
    rw [hmap, mem_erase] at hmem
    exact hmem.1 rfl
  kernel := .inl id
  cleared := .inl
  granting := nofun

theorem removeToolTokenInfo_does :
    Does x i s (.removeToolTokenInfo pid t) (removeToolTokenInfo i s pid t).2 (removeToolTokenInfo i s pid t).1 := by
  by_cases hnone : s.toolTokenInfoMap[t]? = none ∨ s.pidToolTokenMap[pid]? ≠ some t
  · -- another deletion was faster
    rw [removeToolTokenInfo_of_none hnone]
    refine .of_same rfl rfl rfl rfl .refl Iff.rfl (fun _ => nofun) (fun h => .inr ⟨pid, ?_, fun hpid hmem => ?_⟩)
      (.inl id) .inl nofun
    · cases h
      rfl
    cases h
    obtain h | h := hnone
    · rw [ToolShared.withTools, mem_iff_isSome_getElem?, h] at hmem
      cases hmem
    · exact h hpid
  rw [not_or, not_not] at hnone
  obtain ⟨inner, hinfo⟩ := Option.ne_none_iff_exists'.1 hnone.1
  have hmap : (s.tools.removeToolTokenInfoLocked t).2.toolTokenInfoMap = s.toolTokenInfoMap.erase t := by
    unfold ToolTokenInfoManager.removeToolTokenInfoLocked
    rw [hinfo]
  rw [removeToolTokenInfo_of_some hinfo hnone.2]
  exact unlist_does hinfo hmap fun h => linked_congr (m := (s.tools.removeToolTokenInfoLocked t).2) rfl rfl rfl
    (linked_removed h hinfo)

theorem dropUpdated_does {v : ToolVisit} {ret : Ret} :
    Does x i s (.dropUpdated v ret) (s.drop i v.tokenId) (afterUpdate v ret) := by
  unfold afterUpdate
  split
  · exact drop_does rfl rfl rfl nofun nofun nofun
  split
  · rename_i hne
    refine drop_does rfl rfl rfl nofun nofun fun h => ?_
    revert h hne
    simp only [ToolPc.granting]
    cases v.kernelStatusAfter <;> cases v.kernelStatusBefore <;> simp
  · exact drop_does rfl rfl rfl nofun nofun nofun

theorem toolCallStep_does (pc : ToolPc) : Does x i s pc (toolCallStep T i s pc).2 (toolCallStep T i s pc).1 := by
  cases pc with
  | start => exact begin_does
  | removePermFromKernel pid t =>
    have hkernel : t = x ∨ s.kernel x = (fun _ => false) →
        s.kernel.removePermissionFromKernel t x = fun _ => false := by
      intro h
      funext c
      rw [KernelPerms.removePermissionFromKernel_apply]
      split
      · rfl
      · rename_i hne
        exact congrFun (h.resolve_left (Ne.symm hne)) c
    refine .of_same rfl rfl rfl rfl .refl Iff.rfl (fun p h => .inl h) nofun (.inl fun h => hkernel (.inr h))
      (fun h => .inr ⟨h, hkernel (.inl (Option.some.inj h))⟩) nofun
  | removeToolTokenInfo => exact removeToolTokenInfo_does
  | releaseTokenId => exact .of_same rfl rfl rfl rfl .refl Iff.rfl (fun _ => nofun) .inl (.inl id) .inl nofun
  | dropInner => exact drop_does rfl rfl rfl id id nofun
  | deleted => exact .of_eq Iff.rfl (fun _ => nofun) id id nofun
  | queryVisited call todo snapshots =>
    cases todo with
    | nil => exact .of_eq Iff.rfl (fun _ => nofun) nofun nofun nofun
    | cons t rest =>
      unfold toolCallStep
      dsimp only
      split
      · exact .of_eq Iff.rfl (fun _ => nofun) nofun nofun nofun
      · exact .of_eq Iff.rfl (fun _ => nofun) nofun nofun nofun
      rename_i status flag hquery
      refine .of_eq Iff.rfl (fun _ => nofun) nofun nofun fun h => .inr ?_
      have ht : t = x := by
        simp only [ToolPc.granting] at h
        split at h <;> cases h
        rfl
      exact ⟨congrArg some ht, ht ▸ mem_of_queryStored hquery⟩
  | findInner v =>
    unfold toolCallStep
    dsimp only
    split
    · rename_i hmem
      exact take_does (fun ht => .inl (ht ▸ hmem)) rfl rfl rfl rfl rfl rfl
    · exact .of_eq Iff.rfl (fun _ => nofun) nofun nofun nofun
  | updateFlag v =>
    have hstored := stillStored_updatePermissionFlag s.brief v.tokenId x v.call.permCode permissionRestrictedByAdmin
      (v.call.restricted v.tokenId)
    unfold toolCallStep
    dsimp only
    split <;> rename_i heq <;> rw [heq] at hstored
    · exact .of_same rfl rfl rfl rfl hstored Iff.rfl (fun _ => nofun) nofun (.inl id) nofun .inl
    · exact .of_same rfl rfl rfl rfl hstored Iff.rfl (fun _ => nofun) nofun (.inl id) nofun .inl
  | dropUpdated => exact dropUpdated_does
  | setPermToKernel =>
    refine setPermToKernel_does rfl rfl rfl rfl rfl rfl fun ht hb => ?_
    simp [ToolPc.granting, ht, hb]
  | queryRestored todo =>
    cases todo with
    | nil => exact .of_eq Iff.rfl (fun _ => nofun) nofun nofun nofun
    | cons snapshot rest =>
      unfold toolCallStep
      dsimp only
      split
      · exact .of_eq Iff.rfl (fun _ => nofun) nofun nofun nofun
      rename_i status flag hquery
      have hvisit : (if refreshedKernelStatus snapshot.originalStatus (isRestricted snapshot.originalFlag) then
            some snapshot.tokenId else none) = some x →
          ToolPc.visiting (.queryRestored (snapshot :: rest)) = some x ∧ x ∈ s.requestedPermData := by
        intro h
        split at h <;> cases h
        exact ⟨rfl, mem_of_queryStored hquery⟩
      split
      · exact .of_eq Iff.rfl (fun _ => nofun) nofun nofun fun h => .inr (hvisit h)
      · exact .of_eq Iff.rfl (fun _ => nofun) nofun nofun fun h => .inr (hvisit h)
  | restoreFlag snapshot rest =>
    have hstored := stillStored_updatePermissionFlag s.brief snapshot.tokenId x snapshot.permCode
      permissionRestrictedByAdmin (isRestricted snapshot.originalFlag)
    unfold toolCallStep
    dsimp only
    split <;> rename_i heq <;> rw [heq] at hstored
    · exact .of_same rfl rfl rfl rfl hstored Iff.rfl (fun _ => nofun) nofun (.inl id) nofun nofun
    · exact .of_same rfl rfl rfl rfl hstored Iff.rfl (fun _ => nofun) nofun (.inl id) nofun .inl
  | restoreKernel =>
    refine setPermToKernel_does rfl rfl rfl rfl rfl rfl fun ht hb => ?_
    simp [ToolPc.granting, ht, hb]
  | returned => exact .of_eq Iff.rfl (fun _ => nofun) nofun nofun nofun

end

/-! ## Every interleaving -/

section
variable {ι : Type} [DecidableEq ι] {T : PermissionTable} {x : AccessTokenID}

/-- At the place of a call: it holds a reference exactly where it says so, the pid it deletes is the pid of the token,
and what it has removed is gone. -/
structure AtPlace (x : AccessTokenID) (i : ι) (pc : ToolPc) (s : ToolShared ι) : Prop where
  held : i ∈ s.holders x ↔ pc.held = some x
  pid : ∀ p inner, pc.deleting = some (p, x) → s.toolTokenInfoMap[x]? = some inner → inner.callerPid = p
  unlisted : pc.unlisted = some x → x ∉ s.toolTokenInfoMap
  cleared : pc.cleared = some x → s.kernel x = fun _ => false

/-- The assertions of the calls about the token `x`. -/
abbrev Deletable (x : AccessTokenID) (s : Calls ι (ToolShared ι) ToolPc) : Prop :=
  s.Holds (fun s => s.tools.Linked ∧ s.Kept x) (fun i pc s => AtPlace x i pc s)
    (fun _ _ pc pc' => pc.cleared = some x → pc'.granting ≠ some x)

/-- **One step of one call.** -/
theorem Deletable.step {s : Calls ι (ToolShared ι) ToolPc} (h : Deletable x s) (hx : x ≠ invalidTokenId) {i : ι}
    (hok : KeepsApart s i) : Deletable x (callStep (toolCallStep T) s i) := by
  have hdoes := toolCallStep_does (T := T) (x := x) (i := i) (s := s.shared) (s.pc i)
  have hown := h.place i
  obtain ⟨hlinked, hkept⟩ := h.shared
  have hshrinks : x ∈ (toolCallStep T i s.shared (s.pc i)).2.toolTokenInfoMap →
      x ∈ s.shared.toolTokenInfoMap := by
    intro hmem
    obtain ⟨inner, hinner⟩ := Lib.mem_iff_exists.1 hmem
    rw [mem_iff_isSome_getElem?, hdoes.listed inner hinner]
    rfl
  -- a call that has decided to set a permission is alone with it
  have hkernel : ∀ j, (s.pc j).cleared = some x → (s.pc i).granting ≠ some x →
      (toolCallStep T i s.shared (s.pc i)).2.kernel x = fun _ => false := by
    intro j hj hgrant
    exact (hdoes.kernel.resolve_right hgrant) ((h.place j).cleared hj)
  refine Calls.Holds.step h ⟨hdoes.linked hlinked, hdoes.kept hx hown.held hkept⟩ ?_ ?_ ?_
  · refine ⟨hdoes.held hown.held, fun p inner hp hinner => ?_, fun hun hmem => ?_, fun hcl => ?_⟩
    · obtain hp | hp := hdoes.deleting p hp
      · exact hown.pid p inner hp (hdoes.listed inner hinner)
      · have := (hlinked.pid p x).1 hp
        rw [ToolTokenInfoManager.pidOf, hdoes.listed inner hinner] at this
        exact Option.some.inj this
    · obtain hun | ⟨p, hp, hun⟩ := hdoes.unlisted hun
      · exact hown.unlisted hun (hshrinks hmem)
      obtain ⟨inner, hinner⟩ :=
        Lib.mem_iff_exists.1 (hshrinks hmem)
      refine hun ((hlinked.pid p x).2 ?_) hmem
      rw [ToolTokenInfoManager.pidOf, hinner, ← hown.pid p inner hp hinner]
      rfl
    · obtain hcl | ⟨-, hcl⟩ := hdoes.cleared hcl
      · refine hkernel i hcl fun hgrant => ?_
        revert hcl hgrant
        cases s.pc i <;> simp [ToolPc.cleared, ToolPc.granting]
      · exact hcl
  · intro j hj
    have hplace := h.place j
    exact ⟨(hdoes.others j hj).trans hplace.held, fun p inner hp hinner =>
      hplace.pid p inner hp (hdoes.listed inner hinner),
      fun hun hmem => hplace.unlisted hun (hshrinks hmem), fun hcl => hkernel j hcl (h.pair j i hj hcl)⟩
  · intro j hj
    refine ⟨fun hcl hgrant => ?_, fun hcl hgrant => ?_⟩
    · obtain hcl | ⟨hcl, -⟩ := hdoes.cleared hcl
      · exact h.pair i j (Ne.symm hj) hcl hgrant
      · exact hok.1 x hcl j hgrant
    · obtain hgrant | ⟨hvisit, hdata⟩ := hdoes.granting hgrant
      · exact h.pair j i hj hcl hgrant
      · exact hok.2 x hvisit hdata j hcl

/-- **A deleted tool token leaves nothing behind**: in every interleaving in which no visit of the token is split by the
removal of its kernel permissions, once the deletion has returned and all calls are finished. -/
theorem deleted_tool_token_leaves_nothing {calls : ι → ToolCall} {w : ToolWorld} (hlinked : w.tools.Linked)
    (hx : x ∈ w.toolTokenInfoMap) (hdata : x ∈ w.requestedPermData) (hvalid : x ≠ invalidTokenId)
    {s : Calls ι (ToolShared ι) ToolPc}
    (hrun : Reaches (callStep (toolCallStep T)) KeepsApart ⟨⟨w, fun _ => ∅⟩, fun i => .start (calls i)⟩ s)
    {i : ι} (hi : s.pc i = .deleted x) (hall : ∀ j, (s.pc j).finished = true) :
    s.shared.world.NothingKept x := by
  have hinit : Deletable x (⟨⟨w, fun _ => ∅⟩, fun i => .start (calls i)⟩ : Calls ι (ToolShared ι) ToolPc) := by
    refine ⟨⟨hlinked, fun _ => hdata, fun hdead => absurd (.inl hx) hdead⟩, fun i => ⟨?_, nofun, nofun, nofun⟩,
      fun _ _ _ => nofun⟩
    exact iff_of_false (Finset.notMem_empty i) nofun
  have hstep : ∀ (s : Calls ι (ToolShared ι) ToolPc) i, Deletable x s → KeepsApart s i →
      Deletable x (callStep (toolCallStep T) s i) :=
    fun _ _ h hok => h.step hvalid hok
  have h := hrun.invariant hstep hinit
  have hplace := h.place i
  rw [hi] at hplace
  -- a finished call holds no reference
  have hfree : ¬(s.shared.holders x).Nonempty := by
    rintro ⟨j, hj⟩
    have hheld := ((h.place j).held).1 hj
    have hdone := hall j
    revert hheld hdone
    cases s.pc j <;> simp [ToolPc.held, ToolPc.finished]
  have hnothing := h.shared.2.dead (not_or.2 ⟨hplace.unlisted rfl, hfree⟩)
  exact ⟨hnothing.data, hnothing.grants, hnothing.values, hplace.cleared rfl⟩

end

/-! A deletion and a refresh that lifts a restriction. -/

def liftedCamera : ToolCall := .refreshUserPolicyFlagForUser ⟨100, 0, fun _ => false, id⟩

/-- The deletion is the call `true`, the refresh the call `false`. -/
def deleteAndRefresh (schedule : List Bool) : Calls Bool (ToolShared Bool) ToolPc :=
  schedule.foldl (callStep (toolCallStep sampleTable))
    ⟨⟨restrictedTool, fun _ => ∅⟩, fun deletes => .start (if deletes then .deleteToolTokenByPid 1 else liftedCamera)⟩

def splitSchedule : List Bool := List.replicate 5 false ++ List.replicate 5 true ++ List.replicate 2 false

/-- The refresh sees the restriction lifted before the deletion removes the kernel permissions, and sets the camera in
the kernel when the token is gone. -/
theorem refreshed_permission_outlives_token :
    ((deleteAndRefresh splitSchedule).pc true).cleared = some 806354945#32 ∧
      (∀ j, ((deleteAndRefresh splitSchedule).pc j).finished = true) ∧
      806354945#32 ∉ (deleteAndRefresh splitSchedule).shared.world.tokenIdSet ∧
      (deleteAndRefresh splitSchedule).shared.kernel 806354945#32 0 = true := by
  decide +kernel

theorem ToolPc.eq_deleted {pc : ToolPc} {x : AccessTokenID} (h : pc.cleared = some x) (hdone : pc.finished = true) :
    pc = .deleted x := by
  cases pc <;> simp_all [ToolPc.cleared, ToolPc.finished]

def wholeSchedule : List Bool := true :: List.replicate 7 false ++ List.replicate 4 true

theorem refreshed_token_deleted : (deleteAndRefresh wholeSchedule).shared.world.NothingKept 806354945#32 := by
  have hmeet : Lib.AllMeet (callStep (toolCallStep sampleTable)) KeepsApart
      ⟨⟨restrictedTool, fun _ => ∅⟩, fun deletes => .start (if deletes then .deleteToolTokenByPid 1 else liftedCamera)⟩
      wholeSchedule := by
    decide +kernel
  have hbacked : 806354945#32 ∈ restrictedTool.toolTokenInfoMap ∧
      806354945#32 ∈ restrictedTool.requestedPermData := by
    decide +kernel
  have hdone : ((deleteAndRefresh wholeSchedule).pc true).cleared = some 806354945#32 ∧
      ∀ j, ((deleteAndRefresh wholeSchedule).pc j).finished = true := by
    decide +kernel
  have hlinked : restrictedTool.tools.Linked := by
    have hops : Lib.AllMeet (toolStep sampleTable ⟨fun _ => .ok [], fun _ => none⟩ sampleParse true)
        ToolWorld.KernelKeepsUp twoTickets [sampleToolInit "legacy:c" true, cameraRefresh] := by
      decide +kernel
    have hstep : ∀ (w : ToolWorld) op, w.Bookkept sampleTable → w.KernelKeepsUp op →
        (toolStep sampleTable ⟨fun _ => .ok [], fun _ => none⟩ sampleParse true w op).Bookkept sampleTable :=
      fun _ _ h hok => h.step hok
    exact ((Lib.reaches_foldl _ _ hops).invariant hstep (.of_empty rfl nothingKept_twoTickets)).linked
  exact deleted_tool_token_leaves_nothing hlinked hbacked.1 hbacked.2 (by decide) (Lib.reaches_foldl _ _ hmeet)
    (ToolPc.eq_deleted hdone.1 (hdone.2 true)) hdone.2

end Claw
end AccessToken
