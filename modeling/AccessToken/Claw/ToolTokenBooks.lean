import AccessToken.Claw.ToolToken
import AccessToken.Service.FailedCalls
import AccessToken.Lib.TwoWay
import AccessToken.Lib.ExceptLoop
/-!
# The books of the tool tokens

A tool token is in three maps, in the set of registered ids, in the permission data and in the kernel.  `Bookkept` says
that the six are in line.  A new token is: the states of its ticket carry no flag of their own and agree on every
permission, so that what is stored and what the kernel is told grant the same.
-/
namespace AccessToken

open PermissionTable

open Function (update_apply)
open Std.ExtTreeMap (ext_getElem? getD_eq_getD_getElem? getD_erase getD_insert getElem?_eq_none mem_iff_isSome_getElem?)
open Lib (getElem?_erase getElem?_insert)
open UserPolicyManager
namespace Claw

/-! ## The states of a ticket -/

/-- States that carry no flag, and that differ in status for one permission only under one name. -/
structure TicketStates (T : PermissionTable) (permList : List PermissionStatus) : Prop where
  flags : ∀ p ∈ permList, p.grantFlag = permissionDefaultFlag
  agree : ∀ p ∈ permList, ∀ p' ∈ permList, ∀ c, T.transferPermissionToOpcode p.permissionName = some c →
    T.transferPermissionToOpcode p'.permissionName = some c →
      p.permissionName = p'.permissionName ∨ p.grantStatus = p'.grantStatus

section
variable {T : PermissionTable} {M : ClawPermissionMetadata} {parse : String → Option CliAuthInfo}

theorem ticketStates_spec {json : String} {cliAuth : CliAuthInfo}
    (h : deserializeCliAuthInfo parse json = some cliAuth) {valid : Bool} :
    TicketStates T (ticketStates valid cliAuth) := by
  have hnames : ∀ n ∈ cliAuth.permissionNames, cStr n = n := by
    unfold deserializeCliAuthInfo at h
    split at h
    · cases h
    split at h
    · cases h
    split at h
    · cases h
    · cases h
      intro n hn
      obtain ⟨n', -, rfl⟩ := List.mem_map.1 hn
      exact cStr_cStr
  have hmem : ∀ p ∈ ticketStates valid cliAuth, p.permissionName ∈ cliAuth.permissionNames ∧
      p.grantFlag = permissionDefaultFlag := by
    intro p hp
    obtain ⟨⟨n, r⟩, hnr, rfl⟩ := List.mem_map.1 hp
    exact ⟨(List.of_mem_zip hnr).1, rfl⟩
  refine ⟨fun p hp => (hmem p hp).2, fun p hp p' hp' c hc hc' => .inl ?_⟩
  have hn := transferOpcode_of_transfer hc
  have hn' := transferOpcode_of_transfer hc'
  rw [hnames _ (hmem p hp).1] at hn
  rw [hnames _ (hmem p' hp').1] at hn'
  exact hn.symm.trans hn'

def GrantedOnly (permList : List PermissionStatus) : Prop :=
  ∀ p ∈ permList, p.grantStatus = permissionGranted ∧ p.grantFlag = permissionDefaultFlag

variable {permList : List PermissionStatus}

section

variable (h : GrantedOnly permList)
include h

theorem GrantedOnly.ticketStates : TicketStates T permList :=
  ⟨fun p hp => (h p hp).2, fun p hp p' hp' _ _ _ => .inr ((h p hp).1.trans (h p' hp').1.symm)⟩

theorem GrantedOnly.append {name : String} : GrantedOnly (appendGranted permList name) := by
  unfold appendGranted
  split
  · exact h
  intro p hp
  obtain hp | hp := List.mem_append.1 hp
  · exact h p hp
  · rw [List.mem_singleton.1 hp]
    exact ⟨rfl, rfl⟩

theorem GrantedOnly.appendByCliPermission {permList' : List PermissionStatus}
    {required : String} (heq : appendGrantedPermissionsByCliPermission T M permList required = .ok permList') :
    GrantedOnly permList' := by
  obtain ⟨used, -, hused⟩ := Lib.bind_eq_ok.1 heq
  cases hused
  exact List.foldlRecOn (motive := GrantedOnly) used appendGranted h fun l hl name _ => hl.append

end

/-- **Whatever ticket a command is let in by, its states are those of a ticket.** -/
theorem ticketStates_of_verify {enhance : Bool} {w : ToolWorld} {info : CliInit} {answers : InitAnswers}
    (h : w.verifyCliInitInputAndTicket T M parse enhance info answers = .ok permList) : TicketStates T permList := by
  unfold ToolWorld.verifyCliInitInputAndTicket at h
  split at h
  · cases h
  unfold verifyCliClawTicket at h
  dsimp only at h
  split at h
  · cases h
    exact ⟨by simp, by simp⟩
  split at h
  · unfold verifyCliClawTicketLegacy at h
    split at h
    · cases h
    split at h
    · cases h
    split at h
    · cases h
    · split at h
      · cases h
      split at h
      · cases h
      split at h
      · cases h
      · cases h
        exact ticketStates_spec ‹_›
    · cases h
  · unfold verifyCliClawTicketByVerifyInfo at h
    split at h
    · cases h
    split at h
    · cases h
    dsimp only at h
    split at h
    · cases h
    · have hstart : GrantedOnly [] := by simp [GrantedOnly]
      have hloop :=
        Lib.foldlM_ok (fun _ l => GrantedOnly l) (fun _ l r l' hl heq => GrantedOnly.appendByCliPermission hl heq)
        _ [] _ _ hstart h
      exact hloop.ticketStates

end

/-! ## The kernel bits of a new token -/

def entryEffective (d : BriefPermData) : Bool := Service.refreshedKernelStatus d.status (isRestricted d.flag)

section
variable {T : PermissionTable} {st p : PermissionStatus} {tokenType : ATokenTypeEnum} {check : Bool}
    {records : UserPolicyRecords} {t : AccessTokenID} {userId : Int32} {permList : List PermissionStatus}

theorem mem_of_mem_filterInvalidFrom : ∀ {permList : List PermissionStatus} {seen : List String},
      p ∈ filterInvalidPermissionStateFrom T tokenType check seen permList → p ∈ permList ∧ p.permissionName ∉ seen
  | [], _, h => by cases h
  | q :: permList, seen, h => by
    rw [filterInvalidPermissionStateFrom] at h
    split at h
    · obtain ⟨hmem, hseen⟩ := mem_of_mem_filterInvalidFrom h
      exact ⟨List.mem_cons_of_mem _ hmem, hseen⟩
    rename_i hq
    split at h
    · obtain ⟨hmem, hseen⟩ := mem_of_mem_filterInvalidFrom h
      exact ⟨List.mem_cons_of_mem _ hmem, hseen⟩
    obtain rfl | h := List.mem_cons.1 h
    · refine ⟨List.mem_cons_self, fun hmem => hq ?_⟩
      simp [hmem]
    · obtain ⟨hmem, hseen⟩ := mem_of_mem_filterInvalidFrom h
      exact ⟨List.mem_cons_of_mem _ hmem, fun hs => hseen (List.mem_cons_of_mem _ hs)⟩

/-- **The filter keeps one state of a name.** -/
theorem eq_of_name_filterInvalidFrom {p' : PermissionStatus} :
    ∀ {permList : List PermissionStatus} {seen : List String},
      p ∈ filterInvalidPermissionStateFrom T tokenType check seen permList →
      p' ∈ filterInvalidPermissionStateFrom T tokenType check seen permList →
      p.permissionName = p'.permissionName → p = p'
  | [], _, h, _, _ => by cases h
  | q :: permList, seen, h, h', hname => by
    rw [filterInvalidPermissionStateFrom] at h h'
    split at h
    · rw [if_pos ‹_›] at h'
      exact eq_of_name_filterInvalidFrom h h' hname
    rename_i hq
    rw [if_neg hq] at h'
    split at h
    · rw [if_pos ‹_›] at h'
      exact eq_of_name_filterInvalidFrom h h' hname
    rw [if_neg ‹_›] at h'
    obtain rfl | h := List.mem_cons.1 h
    · obtain rfl | h' := List.mem_cons.1 h'
      · rfl
      · exact absurd (hname ▸ List.mem_cons_self) (mem_of_mem_filterInvalidFrom h').2
    · obtain rfl | h' := List.mem_cons.1 h'
      · exact absurd (hname ▸ List.mem_cons_self) (mem_of_mem_filterInvalidFrom h).2
      · exact eq_of_name_filterInvalidFrom h h' hname

def policyFlag (records : UserPolicyRecords) (t : AccessTokenID) (userId : Int32) (c : Nat) (flag : Flag) : Flag :=
  if isPermissionRestricted records t userId c then flag ||| permissionRestrictedByAdmin
  else getFlagWithoutSpecifiedElement flag permissionRestrictedByAdmin

theorem mem_updatePermissionStatusList (h : st ∈ updatePermissionStatusListForUserPolicy T records t userId permList) :
    ∃ p ∈ permList, st.permissionName = p.permissionName ∧ st.grantStatus = p.grantStatus ∧
      ∀ c, T.transferPermissionToOpcode p.permissionName = some c →
      st.grantFlag = policyFlag records t userId c p.grantFlag := by
  obtain ⟨p, hp, rfl⟩ := List.mem_map.1 h
  refine ⟨p, hp, ?_⟩
  cases hcode : T.transferPermissionToOpcode p.permissionName with
  | none => exact ⟨rfl, rfl, by simp⟩
  | some =>
    dsimp only
    split
    · refine ⟨rfl, rfl, fun c' hc' => ?_⟩
      cases hc'
      exact (if_pos ‹_›).symm
    · refine ⟨rfl, rfl, fun c' hc' => ?_⟩
      cases hc'
      exact (if_neg ‹_›).symm

/-- **States of a ticket with one op code are granted or not together.** -/
theorem TicketStates.isEffective_eq {permList : List PermissionStatus} (h : TicketStates T permList)
    {records : UserPolicyRecords} {t : AccessTokenID} {userId : Int32} {st st' : PermissionStatus} {c : Nat}
    (hst : st ∈ filterInvalidPermissionState T .tokenShell true
      (updatePermissionStatusListForUserPolicy T records t userId permList))
    (hst' : st' ∈ filterInvalidPermissionState T .tokenShell true
      (updatePermissionStatusListForUserPolicy T records t userId permList))
    (hc : T.transferPermissionToOpcode st.permissionName = some c)
    (hc' : T.transferPermissionToOpcode st'.permissionName = some c) :
    ToolWorld.isEffective st = ToolWorld.isEffective st' := by
  obtain ⟨p, hp, hname, hstatus, hflag⟩ := mem_updatePermissionStatusList (mem_of_mem_filterInvalidFrom hst).1
  obtain ⟨p', hp', hname', hstatus', hflag'⟩ := mem_updatePermissionStatusList (mem_of_mem_filterInvalidFrom hst').1
  obtain hsame | hsame := h.agree p hp p' hp' c (hname ▸ hc) (hname' ▸ hc')
  · rw [eq_of_name_filterInvalidFrom hst hst' (hname.trans (hsame.trans hname'.symm))]
  · unfold ToolWorld.isEffective
    rw [hstatus, hstatus', hsame, hflag c (hname ▸ hc), hflag' c (hname' ▸ hc'), h.flags p hp, h.flags p' hp']

theorem briefPermDataOf_of_transfer {c : Nat} (hvalid : isGrantStatusValid st.grantStatus = true)
    (hc : T.transferPermissionToOpcode st.permissionName = some c) :
    ∃ d, PermissionDataBrief.briefPermDataOf T st = some d ∧ d.permCode = c := by
  obtain ⟨x, hx, -⟩ := transferPermissionToOpcode_eq_some.1 hc
  rw [PermissionDataBrief.briefPermDataOf, if_pos hvalid, getPermissionBriefDef, hc]
  exact ⟨_, by rw [Option.bind_some, hx]; rfl, rfl⟩

theorem entryEffective_of_state {d : BriefPermData}
    (h : PermissionDataBrief.briefPermDataOf T st = some d) : entryEffective d = ToolWorld.isEffective st := by
  obtain ⟨hstatus, hflag, -⟩ := PermissionDataBrief.briefPermDataOf_eq_some h
  rw [entryEffective, Service.refreshedKernelStatus, ToolWorld.isEffective, hstatus, hflag, Bool.and_comm]

/-- **What the kernel is given at the start is what the entries say.** -/
theorem TicketStates.grantedOpCodes_eq (h : TicketStates T permList)
    (ht : getTokenIdTypeEnum t = .tokenShell) (c : Nat) :
    (ToolWorld.grantedOpCodes T (updatePermissionStatusListForUserPolicy T records t userId permList)).contains c =
      ((PermissionDataBrief.addedList T t
        (updatePermissionStatusListForUserPolicy T records t userId permList) true).find?
          (PermissionDataBrief.hasCode c)).any entryEffective := by
  have hagree := @TicketStates.isEffective_eq T permList h records t userId
  unfold ToolWorld.grantedOpCodes PermissionDataBrief.addedList PermissionDataBrief.keptPermStates
  rw [if_pos rfl, ht]
  have hvalid := @mem_filterInvalidPermissionState T
    (updatePermissionStatusListForUserPolicy T records t userId permList) .tokenShell
  revert hagree hvalid
  generalize filterInvalidPermissionState T .tokenShell true
    (updatePermissionStatusListForUserPolicy T records t userId permList) = kept
  intro hagree hvalid
  rw [Bool.eq_iff_iff, List.contains_iff_mem, Option.any_eq_true]
  constructor
  · intro hmem
    obtain ⟨st, hst, hcode⟩ := List.mem_filterMap.1 hmem
    obtain ⟨hst, heff⟩ := List.mem_filter.1 hst
    obtain ⟨d, hd, hdc⟩ := briefPermDataOf_of_transfer
      (by have := (hvalid hst).1; simp only [isPermissionStateValid, Bool.and_eq_true] at this; exact this.2.1) hcode
    -- the entry found is that of a state with the same code
    have hsome : ((kept.filterMap (PermissionDataBrief.briefPermDataOf T)).find?
        (PermissionDataBrief.hasCode c)).isSome = true :=
      List.find?_isSome.2 ⟨d, List.mem_filterMap.2 ⟨st, hst, hd⟩, by simp [PermissionDataBrief.hasCode, hdc]⟩
    obtain ⟨d', hfind⟩ := Option.isSome_iff_exists.1 hsome
    obtain ⟨st', hst', hd'⟩ := List.mem_filterMap.1 (List.mem_of_find?_eq_some hfind)
    have hcode' : d'.permCode = c := by simpa [PermissionDataBrief.hasCode] using List.find?_some hfind
    have htransfer := (PermissionDataBrief.briefPermDataOf_eq_some hd').2.2.1
    rw [hcode'] at htransfer
    refine ⟨d', hfind, ?_⟩
    rw [entryEffective_of_state hd', hagree hst' hst htransfer hcode]
    exact heff
  · rintro ⟨d, hfind, heff⟩
    obtain ⟨st, hst, hd⟩ := List.mem_filterMap.1 (List.mem_of_find?_eq_some hfind)
    have hcode : d.permCode = c := by simpa [PermissionDataBrief.hasCode] using List.find?_some hfind
    rw [entryEffective_of_state hd] at heff
    refine List.mem_filterMap.2 ⟨st, List.mem_filter.2 ⟨hst, heff⟩, ?_⟩
    rw [(PermissionDataBrief.briefPermDataOf_eq_some hd).2.2.1, hcode]

end

/-! ## The stores in line -/

def ToolTokenInfoManager.tokenOf (m : ToolTokenInfoManager) (pid : Int32) : Option AccessTokenID :=
  m.pidToolTokenMap[pid]?

def ToolTokenInfoManager.pidOf (m : ToolTokenInfoManager) (t : AccessTokenID) : Option Int32 :=
  (m.toolTokenInfoMap[t]?).map ClawTokenBaseInfo.callerPid

def ToolTokenInfoManager.hostOf (m : ToolTokenInfoManager) (t : AccessTokenID) : Option AccessTokenID :=
  (m.toolTokenInfoMap[t]?).map ClawTokenBaseInfo.hostTokenId

/-- The three maps list the same tokens: each under its pid and in the set of its host. -/
structure ToolTokenInfoManager.Linked (m : ToolTokenInfoManager) : Prop where
  pid : Lib.Inverse m.tokenOf m.pidOf
  host : ∀ h t, t ∈ m.hostToolTokenMap.getD h ∅ ↔ m.hostOf t = some h
  listed : ∀ (h : AccessTokenID) (owned : Std.ExtTreeSet AccessTokenID), m.hostToolTokenMap[h]? = some owned →
    ∃ t, t ∈ owned

structure ToolWorld.NothingKept (w : ToolWorld) (t : AccessTokenID) : Prop where
  data : t ∉ w.requestedPermData
  grants : ∀ c ∈ w.secCompList, c.tokenId ≠ t
  values : ∀ key : BitVec 64, (key >>> 32).setWidth 32 = t → w.extendedValue[key]? = none
  kernel : w.kernel t = fun _ => false

/-- A listed token is registered, has permission data, and the kernel has what the data grants. -/
structure ToolWorld.Backed (T : PermissionTable) (w : ToolWorld) (t : AccessTokenID) : Prop where
  valid : t ≠ invalidTokenId
  registered : t ∈ w.tokenIdSet
  data : t ∈ w.requestedPermData
  codes : ∀ c d, w.entry t c = some d → c < T.permList.length
  kernel : ∀ c, w.kernel t c = (w.entry t c).any entryEffective

/-- **The stores in line.** -/
structure ToolWorld.Bookkept (T : PermissionTable) (w : ToolWorld) : Prop where
  linked : w.tools.Linked
  idle : ∀ t, t ∉ w.deletingToolTokenIdSet
  backed : ∀ t, t ∈ w.toolTokenInfoMap → w.Backed T t
  unregistered : ∀ t, ¬w.Known t → w.NothingKept t

section
variable {m : ToolTokenInfoManager}

namespace ToolTokenInfoManager

variable {m' : ToolTokenInfoManager} {t : AccessTokenID} {inner : ClawTokenBaseInfo} {p : Int32} {A : Type}

theorem tokenOf_insert (h : m'.pidToolTokenMap = m.pidToolTokenMap.insert p t) :
    m'.tokenOf = Function.update m.tokenOf p (some t) := by
  funext p'
  rw [tokenOf, h, getElem?_insert, update_apply, tokenOf]

theorem tokenOf_erase (h : m'.pidToolTokenMap = m.pidToolTokenMap.erase p) :
    m'.tokenOf = Function.update m.tokenOf p none := by
  funext p'
  rw [tokenOf, h, getElem?_erase, update_apply, tokenOf]

theorem map_insert (h : m'.toolTokenInfoMap = m.toolTokenInfoMap.insert t inner) {f : ClawTokenBaseInfo → A} :
    (fun x => (m'.toolTokenInfoMap[x]?).map f) =
      Function.update (fun x => (m.toolTokenInfoMap[x]?).map f) t (some (f inner)) := by
  funext x
  rw [h, getElem?_insert, update_apply]
  split <;> rfl

theorem map_erase (h : m'.toolTokenInfoMap = m.toolTokenInfoMap.erase t) {f : ClawTokenBaseInfo → A} :
    (fun x => (m'.toolTokenInfoMap[x]?).map f) = Function.update (fun x => (m.toolTokenInfoMap[x]?).map f) t none := by
  funext x
  rw [h, getElem?_erase, update_apply]
  split <;> rfl

/-- **A new token under a free pid.** -/
theorem Linked.add (h : m.Linked) (inner : ClawTokenBaseInfo) (hpid : inner.callerPid ∉ m.pidToolTokenMap)
    (hnew : inner.tokenId ∉ m.toolTokenInfoMap)
    (hinfo : m'.toolTokenInfoMap = m.toolTokenInfoMap.insert inner.tokenId inner)
    (hhost : m'.hostToolTokenMap = m.hostToolTokenMap.insert inner.hostTokenId
      ((m.hostToolTokenMap.getD inner.hostTokenId ∅).insert inner.tokenId))
    (htoken : m'.pidToolTokenMap = m.pidToolTokenMap.insert inner.callerPid inner.tokenId) : m'.Linked := by
  have hnone : m.toolTokenInfoMap[inner.tokenId]? = none := getElem?_eq_none hnew
  refine ⟨?_, fun h' t => ?_, fun h' owned howned => ?_⟩
  · have hpids : m'.pidOf = Function.update m.pidOf inner.tokenId (some inner.callerPid) := map_insert hinfo
    rw [tokenOf_insert htoken, hpids]
    exact h.pid.bind (.inl (getElem?_eq_none hpid)) (.inl (by rw [pidOf, hnone]; rfl))
  · have hhosts : m'.hostOf = Function.update m.hostOf inner.tokenId (some inner.hostTokenId) := map_insert hinfo
    rw [hhosts, update_apply, hhost, getD_insert]
    by_cases hh : inner.hostTokenId = h'
    · subst hh
      rw [if_pos (by simp), Std.ExtTreeSet.mem_insert, h.host]
      by_cases ht : t = inner.tokenId
      · simp [ht]
      · rw [if_neg ht]
        simp [Ne.symm ht]
    · rw [if_neg (by simpa using hh), h.host]
      by_cases ht : t = inner.tokenId
      · rw [if_pos ht, ht, hostOf, hnone]
        simp [hh]
      · rw [if_neg ht]
  · rw [hhost] at howned
    rcases Lib.getElem?_insert_eq_some.1 howned with ⟨-, rfl⟩ | ⟨-, howned⟩
    · exact ⟨inner.tokenId, by simp⟩
    · exact h.listed h' owned howned

theorem mem_removeFromHost (m : ToolTokenInfoManager) (host tokenId h' t : AccessTokenID) :
    t ∈ (m.removeFromHost host tokenId).getD h' ∅ ↔ t ∈ m.hostToolTokenMap.getD h' ∅ ∧ ¬(h' = host ∧ t = tokenId) := by
  unfold removeFromHost
  cases howned : m.hostToolTokenMap[host]? with
  | none =>
    constructor
    · intro hmem
      refine ⟨hmem, fun ⟨hh, _⟩ => ?_⟩
      rw [hh, getD_eq_getD_getElem?, howned] at hmem
      simp at hmem
    · exact fun hmem => hmem.1
  | some owned =>
    dsimp only
    have hget : m.hostToolTokenMap.getD host ∅ = owned := by rw [getD_eq_getD_getElem?, howned]; rfl
    have herase : t ∈ owned.erase tokenId ↔ t ∈ owned ∧ t ≠ tokenId := Lib.mem_set_erase.trans and_comm
    by_cases hh : h' = host
    · subst hh
      rw [hget]
      simp only [true_and]
      rw [← ne_eq, ← herase]
      split
      · rename_i hempty
        rw [Std.ExtTreeMap.getD_erase_self, Std.ExtTreeSet.isEmpty_iff.1 hempty]
      · rw [Std.ExtTreeMap.getD_insert_self]
    · split
      · rw [getD_erase, if_neg (by simpa using Ne.symm hh)]
        simp [hh]
      · rw [getD_insert, if_neg (by simpa using Ne.symm hh)]
        simp [hh]

/-- **A listed token taken out.** -/
theorem Linked.remove (h : m.Linked) (ht : m.toolTokenInfoMap[t]? = some inner)
    (hinfo : m'.toolTokenInfoMap = m.toolTokenInfoMap.erase t)
    (hhost : m'.hostToolTokenMap = m.removeFromHost inner.hostTokenId t)
    (htoken : m'.pidToolTokenMap = m.pidToolTokenMap.erase inner.callerPid) : m'.Linked := by
  refine ⟨?_, fun h' t' => ?_, fun h' owned howned => ?_⟩
  · have hpids : m'.pidOf = Function.update m.pidOf t none := map_erase hinfo
    rw [tokenOf_erase htoken, hpids]
    exact h.pid.release (by rw [pidOf, ht]; rfl)
  · have hhosts : m'.hostOf = Function.update m.hostOf t none := map_erase hinfo
    rw [hhosts, update_apply, hhost, mem_removeFromHost, h.host]
    by_cases htt : t' = t
    · rw [if_pos htt, htt, hostOf, ht]
      simp [eq_comm]
    · simp [htt]
  rw [hhost, removeFromHost] at howned
  split at howned
  · exact h.listed h' owned howned
  split at howned
  · exact h.listed h' owned (Lib.getElem?_erase_eq_some.1 howned).2
  rename_i hne
  rcases Lib.getElem?_insert_eq_some.1 howned with ⟨-, rfl⟩ | ⟨-, howned⟩
  · by_contra hno
    rw [not_exists] at hno
    exact hne (Std.ExtTreeSet.isEmpty_iff.2 (Std.ExtTreeSet.eq_empty_iff_forall_not_mem.2 hno))
  · exact h.listed h' owned howned

end ToolTokenInfoManager
end

/-! ## What a write to one token leaves alone -/

structure SameData (s s' : PermissionDataBrief) (t : AccessTokenID) : Prop where
  data : s'.requestedPermData[t]? = s.requestedPermData[t]?
  grants : ∀ c, c ∈ s'.secCompList → c.tokenId = t → c ∈ s.secCompList
  values : ∀ key : BitVec 64, (key >>> 32).setWidth 32 = t → s'.extendedValue[key]? = s.extendedValue[key]?

section
variable {T : PermissionTable} {w w' : ToolWorld} {t x : AccessTokenID}

open PermissionDataBrief

theorem SameData.entry {s s' : PermissionDataBrief} (h : SameData s s' x) (c : Nat) : s'.entry x c = s.entry x c := by
  unfold PermissionDataBrief.entry
  rw [h.data]

variable (s : PermissionDataBrief)

theorem sameData_addPermToBriefPermission (h : x ≠ t) {states : List PermissionStatus} (acl : AclExtendedMap)
    (check : Bool) : SameData s (s.addPermToBriefPermission T t states acl check) x := by
  obtain ⟨hdata, hgrants⟩ := addPermToBriefPermission_eq t states acl check
  refine ⟨?_, fun c hc _ => hgrants ▸ hc, fun key hkey => ?_⟩
  · rw [hdata, getElem?_insert, if_neg h]
  have hloop := congrArg (fun e : ExtendedValueMap => e[key]?)
    (deleteExtendedValue_briefDataLoop (T := T) t acl
      (keptPermStates T t states check) (deleteExtendedValue t s.extendedValue))
  have hne : (key >>> 32).setWidth 32 ≠ t := fun heq => h (hkey.symm.trans heq)
  simp only [getElem?_deleteExtendedValue, if_neg hne] at hloop
  exact hloop

theorem sameData_deleteBriefPermData (h : x ≠ t) : SameData s (s.deleteBriefPermDataByTokenId t).2 x := by
  obtain ⟨-, heq⟩ | ⟨-, heq⟩ := deleteBriefPermDataByTokenId_cases t
  · rw [heq]
    exact ⟨rfl, fun _ hc _ => hc, fun _ _ => rfl⟩
  · rw [heq]
    refine ⟨?_, fun c hc _ => (List.mem_filter.1 hc).1, fun key hkey => ?_⟩
    · rw [getElem?_erase, if_neg h]
    · rw [getElem?_deleteExtendedValue, if_neg fun heq => h (hkey.symm.trans heq)]

theorem sameData_modifyEntry (h : x ≠ t) {c : Nat} {f : BriefPermData → BriefPermData} :
    SameData s (s.modifyEntry t c f) x := by
  refine ⟨?_, fun _ hc _ => hc, fun _ _ => rfl⟩
  rw [requested_modifyEntry, if_neg (Ne.symm h)]

namespace ToolWorld

theorem NothingKept.of_same (h : w.NothingKept x) (hb : SameData w.brief w'.brief x)
    (hk : w'.kernel x = w.kernel x) : w'.NothingKept x := by
  refine ⟨?_, fun c hc heq => h.grants c (hb.grants c hc heq) heq, fun key hkey =>
    (hb.values key hkey).trans (h.values key hkey), hk.trans h.kernel⟩
  intro hmem
  rw [mem_iff_isSome_getElem?, hb.data, ← mem_iff_isSome_getElem?] at hmem
  exact h.data hmem

theorem Backed.of_same (h : w.Backed T x) (hb : SameData w.brief w'.brief x)
    (hk : w'.kernel x = w.kernel x) (hreg : x ∈ w'.tokenIdSet) : w'.Backed T x := by
  refine ⟨h.valid, hreg, ?_, fun c d hd => h.codes c d (hb.entry c ▸ hd), fun c => ?_⟩
  · have hdata := h.data
    rw [mem_iff_isSome_getElem?] at hdata ⊢
    rw [hb.data]
    exact hdata
  · rw [hk, hb.entry]
    exact h.kernel c

theorem brief_destroy (ht : t ≠ invalidTokenId) :
    w.destroy t = { w with brief := (w.brief.deleteBriefPermDataByTokenId t).2 } := if_pos ht

def begun (T : PermissionTable) (w : ToolWorld) (t : AccessTokenID) (permStateList : List PermissionStatus) :
    ToolWorld :=
  ({ w with idManager := w.idManager.addToSet t .active }).initPermissionData T t permStateList

/-- **A creation taken back leaves no trace.** -/
theorem begun_undone (hnew : ¬w.Known t) (hkept : w.NothingKept t) (ht : t ≠ invalidTokenId)
    (permStateList : List PermissionStatus) : ((begun T w t permStateList).release t).destroy t = w := by
  have hbrief : ((w.brief.addPermToBriefPermission T t permStateList ∅ true).deleteBriefPermDataByTokenId t).2 =
      w.brief := by
    rw [delete_addPermToBriefPermission]
    have hdata : w.requestedPermData.erase t = w.requestedPermData := Lib.erase_of_not_mem hkept.data
    have hgrants : (w.secCompList.filter fun c => c.tokenId != t) = w.secCompList :=
      List.filter_eq_self.2 fun c hc => by simpa using hkept.grants c hc
    have hvalues : deleteExtendedValue t w.extendedValue = w.extendedValue := by
      apply ext_getElem?
      intro key
      rw [getElem?_deleteExtendedValue]
      split
      · exact (hkept.values key ‹_›).symm
      · rfl
    rw [hdata, hgrants, hvalues]
  rw [brief_destroy ht]
  unfold begun initPermissionData release
  rw [hbrief, AccessTokenIDManager.releaseTokenId_addToSet hnew]

theorem kernel_undone (hkept : w.kernel t = fun _ => false) (permStateList : List PermissionStatus) :
    (w.addNativePermToKernel T t permStateList).removePermFromKernel t = w := by
  unfold addNativePermToKernel removePermFromKernel KernelPerms.addPermissionToKernel
    KernelPerms.removePermissionFromKernel
  rw [Function.update_idem, ← hkept, Function.update_eq_self]

end ToolWorld
end

end Claw
end AccessToken
