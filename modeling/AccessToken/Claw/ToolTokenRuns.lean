import AccessToken.Claw.ToolTokenBooks
import AccessToken.Claw.TicketUse
/-!
# Runs of the tool tokens

The operations that create, delete and refresh tool tokens are run one at a time with any of their steps failing.  The
stores of `ToolTokenBooks` stay in line as long as the kernel does what the rollback of a creation and the refresh ask
of it.
-/
namespace AccessToken

open PermissionDataBrief UserPolicyManager AccessTokenIDManager Function Std.ExtTreeMap
namespace Claw

/-! ## Creating -/

section
variable {T : PermissionTable} {w : ToolWorld} {info : CliInit} {answers : InitAnswers} {t : AccessTokenID}

namespace ToolWorld

def newToken (info : CliInit) (t : AccessTokenID) (userId : Int32) : ClawTokenBaseInfo :=
  ⟨info.hostTokenId, userId, info.callerPid, t, info.challenge⟩

def PidFree (w : ToolWorld) (pid : Int32) : Prop := ¬pid < 0 ∧ pid ∉ w.pidToolTokenMap
deriving Decidable

/-- A creation before it has an id fails with nothing done; from there on it is `FinalizeToolTokenInit`. -/
theorem initCliToken_cases (T : PermissionTable) (M : ClawPermissionMetadata) (parse : String → Option CliAuthInfo)
    (enhance : Bool) (w : ToolWorld) (info : CliInit) (answers : InitAnswers) :
    (∃ e, w.initCliToken T M parse enhance info answers = (.error e, w)) ∨
      ∃ t userId permList, t ≠ invalidTokenId ∧ getTokenIdTypeEnum t = .tokenShell ∧ ¬w.Known t ∧
        TicketStates T permList ∧
        w.initCliToken T M parse enhance info answers =
          (begun T w t (updatePermissionStatusListForUserPolicy T answers.records t userId
            permList)).finalizeToolTokenInit T answers (newToken info t userId)
              (updatePermissionStatusListForUserPolicy T answers.records t userId permList) := by
  unfold initCliToken
  cases hverify : w.verifyCliInitInputAndTicket T M parse enhance info answers with
  | error e => exact .inl ⟨e, rfl⟩
  | ok permList =>
    cases answers.hostUser with
    | error e => exact .inl ⟨e, rfl⟩
    | ok userId =>
      obtain hnone | ⟨t, ht, hform, hnew, hcreate⟩ := createAndRegisterLoop_cases
        (m := w.idManager) .tokenShell 0 0 1 answers.rand maxCreateTokenIdRetry 0
      · refine .inl ⟨.errTokenidCreateFailed, ?_⟩
        simp only [createToolTokenId, createAndRegisterTokenId, hnone, if_true]
      · refine .inr ⟨t, userId, permList, ht, hform.type, hnew, ticketStates_of_verify hverify, ?_⟩
        simp only [createToolTokenId, createAndRegisterTokenId, hcreate, if_neg ht]
        rfl

theorem addToolTokenInfo_cases (w : ToolWorld) (base : ClawTokenBaseInfo) :
    (¬w.PidFree base.callerPid ∧ ∃ e, w.addToolTokenInfo base = (.error e, w)) ∨
      (w.PidFree base.callerPid ∧ w.addToolTokenInfo base = (.ok (), { w with
        tools := { w.tools with
          toolTokenInfoMap := w.toolTokenInfoMap.insert base.tokenId base
          hostToolTokenMap := w.hostToolTokenMap.insert base.hostTokenId
            ((w.hostToolTokenMap.getD base.hostTokenId ∅).insert base.tokenId)
          pidToolTokenMap := w.pidToolTokenMap.insert base.callerPid base.tokenId } })) := by
  unfold addToolTokenInfo ToolTokenInfoManager.addToolTokenInfoLocked
  by_cases hneg : base.callerPid < 0
  · rw [if_pos hneg]
    exact .inl ⟨fun h => h.1 hneg, _, rfl⟩
  rw [if_neg hneg]
  by_cases hpid : base.callerPid ∈ w.pidToolTokenMap
  · rw [if_pos hpid]
    exact .inl ⟨fun h => h.2 hpid, _, rfl⟩
  · rw [if_neg hpid]
    exact .inr ⟨⟨hneg, hpid⟩, rfl⟩

/-- **The ways a creation ends once it has its id.** -/
theorem finalize_cases {t : AccessTokenID} (hnew : ¬w.Known t) (hkept : w.NothingKept t)
    (ht : t ≠ invalidTokenId) (userId : Int32) (permList : List PermissionStatus) :
    (∃ e, (begun T w t permList).finalizeToolTokenInit T answers (newToken info t userId) permList = (.error e, w)) ∨
      (¬w.PidFree info.callerPid ∧ answers.removeKernelOk = false ∧
        ∃ e, (begun T w t permList).finalizeToolTokenInit T answers (newToken info t userId) permList =
          (.error e, ((begun T w t permList).addNativePermToKernel T t permList).destroy t)) ∨
      (w.PidFree info.callerPid ∧
        ∃ ret tickets, (begun T w t permList).finalizeToolTokenInit T answers (newToken info t userId) permList =
          (.ok ret, { (begun T w t permList).addNativePermToKernel T t permList with
            tickets := tickets
            tools := { w.tools with
              toolTokenInfoMap := w.toolTokenInfoMap.insert t (newToken info t userId)
              hostToolTokenMap := w.hostToolTokenMap.insert info.hostTokenId
                ((w.hostToolTokenMap.getD info.hostTokenId ∅).insert t)
              pidToolTokenMap := w.pidToolTokenMap.insert info.callerPid t } })) := by
  unfold finalizeToolTokenInit
  cases answers.addKernelOk with
  | false =>
    refine .inl ⟨.errKernelOperationFailed, ?_⟩
    simp only [Bool.not_false, if_true]
    rw [show (newToken info t userId).tokenId = t from rfl, begun_undone hnew hkept ht]
  | true =>
    obtain ⟨hbusy, e, heq⟩ | ⟨hfree, heq⟩ := addToolTokenInfo_cases
      ((begun T w t permList).addNativePermToKernel T t permList) (newToken info t userId)
    · rw [show (newToken info t userId).tokenId = t from rfl, heq]
      cases hok : answers.removeKernelOk with
      | false => exact .inr (.inl ⟨hbusy, rfl, _, rfl⟩)
      | true =>
        refine .inl ⟨e, ?_⟩
        simp only [Bool.not_true, Bool.false_eq_true, if_false]
        have hkernel : (begun T w t permList).kernel t = fun _ => false := hkept.kernel
        rw [kernel_undone hkernel, begun_undone hnew hkept ht]
    · rw [show (newToken info t userId).tokenId = t from rfl, heq]
      exact .inr (.inr ⟨hfree, _, _, rfl⟩)

theorem known_addToSet_of_ne {m : AccessTokenIDManager} {x : AccessTokenID} (h : ¬(m.addToSet t .active).Known x) :
    x ≠ t ∧ ¬m.Known x := by
  rw [known_addToSet] at h
  tauto

theorem Bookkept.others (h : w.Bookkept T) (w' : ToolWorld) (hid : w'.idManager = w.idManager.addToSet t .active)
    (hsame : ∀ x, x ≠ t → SameData w.brief w'.brief x ∧ w'.kernel x = w.kernel x) :
    (∀ x, x ≠ t → x ∈ w.toolTokenInfoMap → w'.Backed T x) ∧ ∀ x, ¬w'.Known x → w'.NothingKept x := by
  constructor
  · intro x hx hmem
    obtain ⟨hdata, hkernel⟩ := hsame x hx
    refine (h.backed x hmem).of_same hdata hkernel ?_
    rw [hid]
    have hreg := (h.backed x hmem).registered
    simp [addToSet, hreg]
  · intro x hx
    rw [hid] at hx
    obtain ⟨hne, hx⟩ := known_addToSet_of_ne hx
    obtain ⟨hdata, hkernel⟩ := hsame x hne
    exact (h.unregistered x hx).of_same hdata hkernel

end ToolWorld
end

section
variable {T : PermissionTable} {M : ClawPermissionMetadata} {parse : String → Option CliAuthInfo} {enhance : Bool}
    {w w' : ToolWorld} {info : CliInit} {answers : InitAnswers} {t x : AccessTokenID}

namespace ToolWorld

theorem sameData_begun (hx : x ≠ t) (permList : List PermissionStatus) :
    SameData w.brief (begun T w t permList).brief x ∧
      ((begun T w t permList).addNativePermToKernel T t permList).kernel x = w.kernel x :=
  ⟨sameData_addPermToBriefPermission w.brief hx ∅ true, update_of_ne hx _ _⟩

theorem SameData.trans {s s' s'' : PermissionDataBrief} (h : SameData s s' x) (h' : SameData s' s'' x) :
    SameData s s'' x :=
  ⟨h'.data.trans h.data, fun c hc heq => h.grants c (h'.grants c hc heq) heq,
    fun key hkey => (h'.values key hkey).trans (h.values key hkey)⟩

theorem backed_begun {t : AccessTokenID} {records : UserPolicyRecords} {userId : Int32}
    {permList : List PermissionStatus}
    (ht : t ≠ invalidTokenId) (hstates : TicketStates T permList) (htype : getTokenIdTypeEnum t = .tokenShell)
    {w' : ToolWorld}
    (hid : w'.idManager = w.idManager.addToSet t .active)
    (hbrief : w'.brief = w.brief.addPermToBriefPermission T t
      (updatePermissionStatusListForUserPolicy T records t userId permList) ∅ true)
    (hkernel : w'.kernel = w.kernel.addPermissionToKernel t (grantedOpCodes T
      (updatePermissionStatusListForUserPolicy T records t userId permList))) : w'.Backed T t := by
  have hdata : w'.requestedPermData[t]? = some (addedList T t
      (updatePermissionStatusListForUserPolicy T records t userId permList) true) := by
    rw [hbrief, (addPermToBriefPermission_eq t _ ∅ true).1]
    simp
  refine ⟨ht, ?_, ?_, fun c d hd => ?_, fun c => ?_⟩
  · rw [hid]
    simp [addToSet]
  · rw [mem_iff_isSome_getElem?, hdata]
    rfl
  · have hcode := permCode_of_entry hd
    obtain ⟨l, hl, hmem⟩ := mem_of_entry hd
    rw [hdata] at hl
    cases hl
    obtain ⟨st, -, hst⟩ := List.mem_filterMap.1 hmem
    rw [← hcode]
    exact PermissionTable.code_lt_of_transfer (briefPermDataOf_eq_some hst).2.2.1
  · rw [hkernel, KernelPerms.addPermissionToKernel_apply, if_pos rfl, hstates.grantedOpCodes_eq htype,
      entry, hdata]
    rfl

/-- **A creation keeps the stores in line**, whatever fails. -/
theorem Bookkept.initCliToken (h : w.Bookkept T) : (w.initCliToken T M parse enhance info answers).2.Bookkept T := by
  obtain ⟨e, heq⟩ | ⟨t, userId, permList, ht, htype, hnew, hstates, heq⟩ :=
    initCliToken_cases T M parse enhance w info answers
  · rw [heq]
    exact h
  rw [heq]
  have hnot : t ∉ w.toolTokenInfoMap := fun hmem => hnew (.inl (h.backed t hmem).registered)
  have hbacked := @backed_begun T w t answers.records userId permList ht hstates htype
  generalize updatePermissionStatusListForUserPolicy T answers.records t userId permList = states at hbacked ⊢
  obtain ⟨e, hfin⟩ | ⟨-, -, e, hfin⟩ | ⟨hfree, ret, tickets, hfin⟩ := @finalize_cases T w info answers t hnew
    (h.unregistered t hnew) ht userId states
  · rw [hfin]
    exact h
  · -- the id stays registered, under no token
    rw [hfin, brief_destroy ht]
    obtain ⟨hothers, hkept⟩ := h.others { (begun T w t states).addNativePermToKernel T t states with
        brief := ((begun T w t states).brief.deleteBriefPermDataByTokenId t).2 } rfl fun x hx =>
      ⟨SameData.trans (sameData_begun hx states).1 (sameData_deleteBriefPermData _ hx), (sameData_begun hx states).2⟩
    exact ⟨h.linked, h.idle, fun x hx => hothers x (fun heq => hnot (heq ▸ hx)) hx, hkept⟩
  · rw [hfin]
    obtain ⟨hothers, hkept⟩ := h.others ((begun T w t states).addNativePermToKernel T t states) rfl fun x hx =>
      sameData_begun hx states
    refine ⟨h.linked.add (newToken info t userId) hfree.2 hnot rfl rfl rfl, h.idle, fun x hx => ?_, ?_⟩
    · by_cases hxt : x = t
      · subst hxt
        exact hbacked rfl rfl rfl
      · have hmem : x ∈ w.toolTokenInfoMap := by
          have := mem_insert.1 hx
          simpa [Ne.symm hxt] using this
        exact (hothers x hxt hmem).of_same ⟨rfl, fun _ hc _ => hc, fun _ _ => rfl⟩ rfl (hothers x hxt hmem).registered
    · exact fun x hx => (hkept x hx).of_same ⟨rfl, fun _ hc _ => hc, fun _ _ => rfl⟩ rfl

/-- **A creation that fails leaves everything as it was**, if the kernel takes back what it was given. -/
theorem Bookkept.initCliToken_error (h : w.Bookkept T) (hok : ¬w.PidFree info.callerPid → answers.removeKernelOk = true)
    {e : AccessTokenError} (herr : (w.initCliToken T M parse enhance info answers).1 = .error e) :
    (w.initCliToken T M parse enhance info answers).2 = w := by
  obtain ⟨e', heq⟩ | ⟨t, userId, permList, ht, -, hnew, -, heq⟩ := initCliToken_cases T M parse enhance w info answers
  · rw [heq]
  rw [heq] at herr ⊢
  obtain ⟨e', hfin⟩ | ⟨hbusy, hkept, -⟩ | ⟨-, ret, tickets, hfin⟩ := @finalize_cases T w info answers t hnew
    (h.unregistered t hnew) ht userId
    (updatePermissionStatusListForUserPolicy T answers.records t userId permList)
  · rw [hfin]
  · rw [hok hbusy] at hkept
    cases hkept
  · rw [hfin] at herr
    cases herr

/-! ## Deleting -/

theorem nothingKept_deleted (hdata : t ∈ w.requestedPermData)
    (hbrief : w'.brief = (w.brief.deleteBriefPermDataByTokenId t).2)
    (hkernel : w'.kernel = w.kernel.removePermissionFromKernel t) : w'.NothingKept t := by
  obtain ⟨hnot, -⟩ | ⟨-, heq⟩ := deleteBriefPermDataByTokenId_cases t
  · exact absurd hdata hnot
  rw [heq] at hbrief
  refine ⟨?_, fun c hc => ?_, fun key hkey => ?_, ?_⟩
  · rw [hbrief]
    simp
  · rw [hbrief] at hc
    simpa using (List.mem_filter.1 hc).2
  · rw [hbrief, getElem?_deleteExtendedValue, if_pos hkey]
  · rw [hkernel]
    exact update_self ..

theorem mem_releaseTokenId {m : AccessTokenIDManager} {t x : AccessTokenID} (h : x ≠ t) :
    x ∈ (m.releaseTokenId t).tokenIdSet ↔ x ∈ m.tokenIdSet := by
  unfold releaseTokenId
  split
  · simp [Std.ExtTreeSet.mem_erase, Ne.symm h]
  · rfl

theorem known_releaseTokenId {m : AccessTokenIDManager} (h : x ≠ t) : (m.releaseTokenId t).Known x ↔ m.Known x := by
  have hmem := @mem_releaseTokenId m t x h
  unfold Known
  rw [hmem]
  unfold releaseTokenId
  split <;> rfl

theorem Bookkept.delete (h : w.Bookkept T) {inner : ClawTokenBaseInfo}
    (hinner : w.toolTokenInfoMap[t]? = some inner)
    (hinfo : w'.toolTokenInfoMap = w.toolTokenInfoMap.erase t)
    (hhost : w'.hostToolTokenMap = w.tools.removeFromHost inner.hostTokenId t)
    (htoken : w'.pidToolTokenMap = w.pidToolTokenMap.erase inner.callerPid)
    (hidle : w'.deletingToolTokenIdSet = w.deletingToolTokenIdSet)
    (hid : w'.idManager = w.idManager.releaseTokenId t) (hbrief : w'.brief = (w.brief.deleteBriefPermDataByTokenId t).2)
    (hkernel : w'.kernel = w.kernel.removePermissionFromKernel t) : w'.Bookkept T := by
  have hmem : t ∈ w.toolTokenInfoMap := mem_iff_isSome_getElem?.2 (by rw [hinner]; rfl)
  have hsame : ∀ x, x ≠ t → SameData w.brief w'.brief x ∧ w'.kernel x = w.kernel x := by
    intro x hx
    rw [hbrief, hkernel]
    exact ⟨sameData_deleteBriefPermData _ hx, update_of_ne hx _ _⟩
  refine ⟨h.linked.remove hinner hinfo hhost htoken, fun x => hidle ▸ h.idle x, fun x hx => ?_, fun x hx => ?_⟩
  · rw [hinfo, mem_erase] at hx
    have hne : x ≠ t := fun heq => hx.1 (by simp [heq])
    have hback := h.backed x hx.2
    refine hback.of_same (hsame x hne).1 (hsame x hne).2 ?_
    rw [hid]
    exact (mem_releaseTokenId hne).2 hback.registered
  · by_cases hxt : x = t
    · subst hxt
      exact nothingKept_deleted (h.backed x hmem).data hbrief hkernel
    · rw [hid, known_releaseTokenId hxt] at hx
      exact (h.unregistered x hx).of_same (hsame x hxt).1 (hsame x hxt).2

theorem Bookkept.deleteToolTokenByPid (h : w.Bookkept T) {removeKernelOk : Bool} {pid : Int32} :
    (w.deleteToolTokenByPid removeKernelOk pid).2.Bookkept T := by
  unfold ToolWorld.deleteToolTokenByPid
  cases htoken : w.pidToolTokenMap[pid]? with
  | none => exact h
  | some t =>
    dsimp only
    rw [if_neg (h.idle t)]
    split
    · exact h
    -- the token under the pid is listed
    have hpid : w.tools.pidOf t = some pid := (h.linked.pid pid t).1 htoken
    obtain ⟨inner, hinner, hcaller⟩ := Option.map_eq_some_iff.1 hpid
    have hvalid := (h.backed t (mem_iff_isSome_getElem?.2 (by rw [hinner]; rfl))).valid
    have hremove : (w.removePermFromKernel t).tools.removeToolTokenInfoLocked t = (some inner, { w.tools with
        toolTokenInfoMap := w.toolTokenInfoMap.erase t
        hostToolTokenMap := w.tools.removeFromHost inner.hostTokenId t
        pidToolTokenMap := w.pidToolTokenMap.erase inner.callerPid }) := by
      rw [show (w.removePermFromKernel t).tools = w.tools from rfl,
        ToolTokenInfoManager.removeToolTokenInfoLocked, hinner]
      dsimp only
      rw [hcaller, if_pos htoken]
    rw [hremove]
    dsimp only
    rw [brief_destroy hvalid]
    exact h.delete hinner rfl rfl rfl rfl rfl rfl rfl

end ToolWorld
end

/-! ## Refreshing -/

section
variable {T : PermissionTable} {w : ToolWorld} {t : AccessTokenID} {c : Nat} {d : BriefPermData} {r : Bool}

open Service

theorem entryEffective_restrictEntry : entryEffective (restrictEntry r d) = refreshedKernelStatus d.status r := by
  unfold entryEffective
  rw [isRestricted_restrictEntry]
  rfl

theorem setPermissionToKernel_self {k : KernelPerms} {v : Bool} (h : k t c = v) :
    k.setPermissionToKernel t c v = k := by
  unfold KernelPerms.setPermissionToKernel
  rw [← h, update_eq_self, update_eq_self]

namespace ToolWorld

/-- **The restricted bit of a permission and the kernel bit that goes with it.** -/
theorem Bookkept.restrict (h : w.Bookkept T) (ht : t ∈ w.toolTokenInfoMap) (hd : w.entry t c = some d)
    {w' : ToolWorld} (htools : w'.tools = w.tools) (hid : w'.idManager = w.idManager)
    (hbrief : w'.brief = w.brief.modifyEntry t c (restrictEntry r))
    (hkernel : w'.kernel = w.kernel.setPermissionToKernel t c (refreshedKernelStatus d.status r)) : w'.Bookkept T := by
  have hsame : ∀ x, x ≠ t → SameData w.brief w'.brief x ∧ w'.kernel x = w.kernel x := by
    intro x hx
    rw [hbrief, hkernel]
    exact ⟨sameData_modifyEntry _ hx, update_of_ne hx _ _⟩
  have hback := h.backed t ht
  have hentry : ∀ c', w'.entry t c' = if c = c' then some (restrictEntry r d) else w.entry t c' := by
    intro c'
    rw [hbrief, entry_restrict]
    by_cases hc : c = c'
    · subst hc
      rw [if_pos ⟨rfl, rfl⟩, if_pos rfl, hd]
      rfl
    · rw [if_neg fun h => hc h.2, if_neg hc]
  refine ⟨htools ▸ h.linked, fun x => htools ▸ h.idle x, fun x hx => ?_, fun x hx => ?_⟩
  · rw [htools] at hx
    by_cases hxt : x = t
    · subst hxt
      refine ⟨hback.valid, hid ▸ hback.registered, ?_, fun c' d' hd' => ?_, fun c' => ?_⟩
      · rw [hbrief]
        exact mem_modifyEntry.2 hback.data
      · rw [hentry] at hd'
        split at hd'
        · rename_i hc
          exact hc ▸ hback.codes c d hd
        · exact hback.codes c' d' hd'
      · rw [hentry, hkernel, KernelPerms.setPermissionToKernel_apply]
        by_cases hc : c = c'
        · subst hc
          rw [if_pos ⟨rfl, rfl⟩, if_pos rfl]
          exact entryEffective_restrictEntry.symm
        · rw [if_neg fun h => hc h.2.symm, if_neg hc]
          exact hback.kernel c'
    · exact (h.backed x hx).of_same (hsame x hxt).1 (hsame x hxt).2 (hid ▸ (h.backed x hx).registered)
  · rw [hid] at hx
    have hxt : x ≠ t := fun heq => hx (heq ▸ .inl hback.registered)
    exact (h.unregistered x hx).of_same (hsame x hxt).1 (hsame x hxt).2

theorem setPermToKernel_code (hc : c < T.permList.length) (t : AccessTokenID) (b : Bool) :
    w.setPermToKernel T true t (T.transferOpcodeToPermission c) b =
      { w with kernel := w.kernel.setPermissionToKernel t c b } := by
  unfold setPermToKernel
  rw [PermissionTable.transferPermissionToOpcode_transferOpcode hc]
  rfl

def Snapshots (w : ToolWorld) (snapshots : List UserPolicyRefreshSnapshot) : Prop :=
  ∀ s ∈ snapshots, s.tokenId ∈ w.toolTokenInfoMap ∧
    ∃ d, w.entry s.tokenId s.permCode = some d ∧ d.status = s.originalStatus

def NoneFails (w : ToolWorld) (failing : List (AccessTokenID × Nat)) : Prop :=
  ∀ e ∈ failing, e.1 ∉ w.toolTokenInfoMap

variable {snapshots : List UserPolicyRefreshSnapshot} {s : UserPolicyRefreshSnapshot}
    {failing : List (AccessTokenID × Nat)}

theorem Snapshots.restrict {w' : ToolWorld} (h : w.Snapshots snapshots)
    (htools : w'.tools = w.tools) (hbrief : w'.brief = w.brief.modifyEntry t c (restrictEntry r)) :
    w'.Snapshots snapshots := by
  intro s hs
  obtain ⟨hmem, d, hd, hstatus⟩ := h s hs
  refine ⟨htools ▸ hmem, ?_⟩
  rw [hbrief, entry_restrict, hd]
  split
  · exact ⟨_, rfl, hstatus⟩
  · exact ⟨d, rfl, hstatus⟩

theorem Snapshots.append (h : w.Snapshots snapshots) (hs : s.tokenId ∈ w.toolTokenInfoMap ∧
      ∃ d, w.entry s.tokenId s.permCode = some d ∧ d.status = s.originalStatus) :
    w.Snapshots (snapshots ++ [s]) := by
  intro s' hs'
  obtain hs' | hs' := List.mem_append.1 hs'
  · exact h s' hs'
  · rw [List.mem_singleton.1 hs']
    exact hs

theorem NoneFails.contains (h : w.NoneFails failing)
    (ht : t ∈ w.toolTokenInfoMap) : failing.contains (t, c) = false := by
  rw [Bool.eq_false_iff, ne_eq, List.contains_iff_mem]
  exact fun hmem => h _ hmem ht

theorem refreshed_kernel (h : w.Bookkept T) (ht : t ∈ w.toolTokenInfoMap) (hd : w.entry t c = some d)
    {failing : List (AccessTokenID × Nat)} (hok : w.NoneFails failing) (r : Bool) :
    (if (refreshedKernelStatus d.status (isRestricted d.flag) != refreshedKernelStatus d.status r) = true then
      ({ w with brief := w.brief.modifyEntry t c fun d =>
          { d with flag := maskedFlag permissionRestrictedByAdmin r d.flag } } : ToolWorld).setPermToKernel T
            (!failing.contains (t, c)) t (T.transferOpcodeToPermission c) (refreshedKernelStatus d.status r)
      else { w with brief := w.brief.modifyEntry t c fun d =>
          { d with flag := maskedFlag permissionRestrictedByAdmin r d.flag } }) =
      { w with
        brief := w.brief.modifyEntry t c (restrictEntry r)
        kernel := w.kernel.setPermissionToKernel t c (refreshedKernelStatus d.status r) } := by
  have hback := h.backed t ht
  split
  · rw [hok.contains ht, Bool.not_false, setPermToKernel_code (hback.codes c d hd)]
    rfl
  rename_i hsame
  have hbit : w.kernel t c = refreshedKernelStatus d.status r := by
    rw [hback.kernel, hd]
    change refreshedKernelStatus d.status (isRestricted d.flag) = _
    simpa using hsame
  rw [setPermissionToKernel_self hbit]
  rfl

/-- **One token of a refresh.** -/
theorem Bookkept.refreshVisit (h : w.Bookkept T) (hsnap : w.Snapshots snapshots) (hok : w.NoneFails failing)
    (records : UserPolicyRecords) (v : RefreshVisit) :
    (refreshVisit T records failing (w, snapshots) v).2.1.Bookkept T ∧
      (refreshVisit T records failing (w, snapshots) v).2.1.Snapshots
        (refreshVisit T records failing (w, snapshots) v).2.2 ∧
      (refreshVisit T records failing (w, snapshots) v).2.1.tools = w.tools := by
  unfold ToolWorld.refreshVisit
  dsimp only
  cases hd : w.entry v.tokenId v.policy.permCode with
  | none =>
    obtain ⟨e, he⟩ := queryStored_of_no_entry hd
    rw [he]
    split
    · exact ⟨h, hsnap, rfl⟩
    · exact ⟨h, hsnap, rfl⟩
    · rename_i heq
      cases heq
  | some d =>
    rw [queryStored_of_entry hd]
    unfold updateRestrictedFlag
    by_cases ht : v.tokenId ∈ w.toolTokenInfoMap
    · rw [if_pos ht]
      obtain ⟨hnone, -⟩ | ⟨d', hd', heq⟩ := updatePermissionFlag_cases v.tokenId
        v.policy.permCode permissionRestrictedByAdmin
        (isPermissionRestricted records v.tokenId v.userId v.policy.permCode)
      · rw [hd] at hnone
        cases hnone
      rw [heq]
      dsimp only
      have hrefresh := @refreshed_kernel T w v.tokenId v.policy.permCode d h ht hd failing hok
        (isPermissionRestricted records v.tokenId v.userId v.policy.permCode)
      rw [hrefresh]
      refine ⟨h.restrict ht hd rfl rfl rfl rfl, Snapshots.append ?_ ?_, rfl⟩
      · exact hsnap.restrict rfl rfl
      refine ⟨ht, restrictEntry (isPermissionRestricted records v.tokenId v.userId v.policy.permCode) d, ?_, rfl⟩
      rw [entry_restrict, if_pos ⟨rfl, rfl⟩, hd]
      rfl
    · rw [if_neg ht]
      exact ⟨h, hsnap, rfl⟩

/-- **One turn of the rollback.** -/
theorem Bookkept.rollbackSnapshot (h : w.Bookkept T) (hsnap : w.Snapshots snapshots) (hok : w.NoneFails failing)
    (hs : s ∈ snapshots) :
    (rollbackSnapshot T failing w s).Bookkept T ∧ (rollbackSnapshot T failing w s).Snapshots snapshots ∧
      (rollbackSnapshot T failing w s).tools = w.tools := by
  obtain ⟨ht, d, hd, hstatus⟩ := hsnap s hs
  have hback := h.backed s.tokenId ht
  have hcode := hback.codes s.permCode d hd
  unfold ToolWorld.rollbackSnapshot restoreRestrictedFlagForToolToken
  rw [queryStored_of_entry hd, hok.contains ht, Bool.not_false, ← hstatus]
  dsimp only
  by_cases hsame : isRestricted d.flag = isRestricted s.originalFlag
  · -- nothing was restricted since, and the kernel has the bit
    rw [if_pos hsame]
    dsimp only
    have hbit : w.kernel s.tokenId s.permCode = refreshedKernelStatus d.status (isRestricted s.originalFlag) := by
      rw [hback.kernel, hd, ← hsame]
      rfl
    rw [setPermToKernel_code hcode, setPermissionToKernel_self hbit]
    exact ⟨h, hsnap, rfl⟩
  · rw [if_neg hsame]
    obtain ⟨hnone, -⟩ | ⟨d', hd', heq⟩ := updatePermissionFlag_cases s.tokenId s.permCode
      permissionRestrictedByAdmin (isRestricted s.originalFlag)
    · rw [hd] at hnone
      cases hnone
    rw [heq]
    dsimp only
    rw [setPermToKernel_code hcode]
    exact ⟨h.restrict ht hd rfl rfl rfl rfl, hsnap.restrict rfl rfl, rfl⟩

/-- **A refresh keeps the stores in line**, rolled back or not, if the kernel sets the bits it is asked to. -/
theorem Bookkept.refreshUserPolicyFlag (h : w.Bookkept T) {rollbackFailing : List (AccessTokenID × Nat)}
    (hok : w.NoneFails failing) (hrollback : w.NoneFails rollbackFailing) {records : UserPolicyRecords}
    {order : List AccessTokenID → List AccessTokenID} {changes : List UserPolicyChange} :
    (w.refreshUserPolicyFlag T records failing rollbackFailing order changes).2.Bookkept T := by
  -- the loop keeps the stores, the snapshots and the maps
  have hloop := @Lib.forUntil_invariant _ _ _ (ToolWorld.refreshVisit T records failing)
    (fun st : ToolWorld × List UserPolicyRefreshSnapshot =>
      st.1.Bookkept T ∧ st.1.Snapshots st.2 ∧ st.1.tools = w.tools)
    (refreshVisits (w.tools.getToolTokenIDByUserID order) changes) (w, [])
    (fun st v _ ⟨hst, hsnap, htools⟩ => by
      obtain ⟨hst', hsnap', htools'⟩ := hst.refreshVisit hsnap (fun e he => htools ▸ hok e he) records v
      exact ⟨hst', hsnap', htools'.trans htools⟩)
    ⟨h, fun s hs => (by cases hs), rfl⟩
  unfold ToolWorld.refreshUserPolicyFlag
  revert hloop
  generalize Lib.forUntil (ToolWorld.refreshVisit T records failing) _ _ = res
  obtain ⟨ret, w₁, snapshots⟩ := res
  rintro ⟨hst, hsnap, htools⟩
  cases ret with
  | ok => exact hst
  | error e =>
    refine (List.foldlRecOn (motive := fun w' : ToolWorld =>
      w'.Bookkept T ∧ w'.Snapshots snapshots ∧ w'.tools = w.tools) _ _ ⟨hst, hsnap, htools⟩ ?_).1
    rintro w₂ ⟨hst₂, hsnap₂, htools₂⟩ s hs
    obtain ⟨hst', hsnap', htools'⟩ := hst₂.rollbackSnapshot hsnap₂ (fun e he => htools₂ ▸ hrollback e he)
      (List.mem_reverse.1 hs)
    exact ⟨hst', hsnap', htools'.trans htools₂⟩

end ToolWorld
end

/-! ## Runs -/

inductive ToolOp where
  | initCliToken (info : CliInit) (answers : InitAnswers)
  | deleteToolTokenByPid (removeKernelOk : Bool) (pid : Int32)
  | refreshUserPolicyFlag (records : UserPolicyRecords) (failing rollbackFailing : List (AccessTokenID × Nat))
      (order : List AccessTokenID → List AccessTokenID) (changes : List UserPolicyChange)

def toolStep (T : PermissionTable) (M : ClawPermissionMetadata) (parse : String → Option CliAuthInfo) (enhance : Bool)
    (w : ToolWorld) : ToolOp → ToolWorld
  | .initCliToken info answers => (w.initCliToken T M parse enhance info answers).2
  | .deleteToolTokenByPid removeKernelOk pid => (w.deleteToolTokenByPid removeKernelOk pid).2
  | .refreshUserPolicyFlag records failing rollbackFailing order changes =>
    (w.refreshUserPolicyFlag T records failing rollbackFailing order changes).2

/-- What the kernel must not refuse: to take back what a creation for a taken pid gave it, and to set the bit of a
listed token. -/
def ToolWorld.KernelKeepsUp (w : ToolWorld) : ToolOp → Prop
  | .initCliToken info answers => ¬w.PidFree info.callerPid → answers.removeKernelOk = true
  | .deleteToolTokenByPid _ _ => True
  | .refreshUserPolicyFlag _ failing rollbackFailing _ _ => w.NoneFails failing ∧ w.NoneFails rollbackFailing

instance (w : ToolWorld) (failing : List (AccessTokenID × Nat)) : Decidable (w.NoneFails failing) :=
  List.decidableBAll _ _

instance (w : ToolWorld) : (op : ToolOp) → Decidable (w.KernelKeepsUp op) := fun op => by
  cases op <;> unfold ToolWorld.KernelKeepsUp <;> infer_instance

section
variable {T : PermissionTable} {M : ClawPermissionMetadata} {parse : String → Option CliAuthInfo} {enhance : Bool}
    {w : ToolWorld}

theorem ToolWorld.Bookkept.step {op : ToolOp} (h : w.Bookkept T) (hok : w.KernelKeepsUp op) :
    (toolStep T M parse enhance w op).Bookkept T := by
  cases op with
  | initCliToken => exact h.initCliToken
  | deleteToolTokenByPid => exact h.deleteToolTokenByPid
  | refreshUserPolicyFlag =>
    exact h.refreshUserPolicyFlag hok.1 hok.2

theorem ToolWorld.Bookkept.of_empty (htools : w.tools = .empty)
    (hclean : ∀ t, ¬w.Known t → w.NothingKept t) : w.Bookkept T := by
  refine ⟨⟨fun p t => ?_, fun h t => ?_, fun h owned hl => ?_⟩, fun t => ?_, fun t ht => ?_, hclean⟩ <;>
    simp_all [ToolTokenInfoManager.empty, ToolTokenInfoManager.tokenOf, ToolTokenInfoManager.pidOf,
      ToolTokenInfoManager.hostOf]

/-- **The books of the tool tokens stay consistent**: in every run in which the kernel keeps up, the three maps list the
same tokens, each one backed by its stores, and a creation that fails has changed nothing. -/
theorem tool_tokens_bookkept {w₀ w : ToolWorld} (htools : w₀.tools = .empty)
    (hclean : ∀ t, ¬w₀.Known t → w₀.NothingKept t)
    (hrun : Lib.Reaches (toolStep T M parse enhance) ToolWorld.KernelKeepsUp w₀ w) :
    w.tools.Linked ∧ (∀ t, t ∈ w.toolTokenInfoMap → w.Backed T t) ∧
      ∀ info answers e, w.KernelKeepsUp (.initCliToken info answers) →
        (w.initCliToken T M parse enhance info answers).1 = .error e →
        (w.initCliToken T M parse enhance info answers).2 = w := by
  have hstep : ∀ (w : ToolWorld) op, w.Bookkept T → w.KernelKeepsUp op → (toolStep T M parse enhance w op).Bookkept T :=
    fun _ _ h hok => h.step hok
  have h := hrun.invariant hstep (.of_empty htools hclean)
  exact ⟨h.linked, h.backed, fun info answers e hok herr => h.initCliToken_error hok herr⟩

end

/-! Two commands of one process. -/

def twoTickets : ToolWorld :=
  { sampleToolWorld with tickets := sampleToolWorld.tickets.insert "d" ⟨sampleHap, "message", "ticket"⟩ }

theorem nothingKept_twoTickets (t : AccessTokenID) (_ : ¬twoTickets.Known t) : twoTickets.NothingKept t :=
  ⟨not_mem_empty, fun _ hc => (by cases hc), fun _ _ => getElem?_empty, rfl⟩

def sampleToolInit (challenge : String) (removeKernelOk : Bool) : ToolOp :=
  .initCliToken { (sampleInitCall 1).info with challenge := challenge }
    { (sampleInitCall 1).answers with removeKernelOk := removeKernelOk }

def runToolOps (ops : List ToolOp) : ToolWorld :=
  ops.foldl (toolStep sampleTable ⟨fun _ => .ok [], fun _ => none⟩ sampleParse true) twoTickets

/-- The pid is taken and the kernel does not take the permissions of the second token back: it keeps them, and the id
stays registered to no token. -/
theorem cut_short_rollback_leaves_permissions :
    let w := runToolOps [sampleToolInit "legacy:c" true]
    let w' := runToolOps [sampleToolInit "legacy:c" true, sampleToolInit "legacy:d" false]
    806354946#32 ∉ w.tokenIdSet ∧ w.kernel 806354946#32 0 = false ∧
      806354946#32 ∈ w'.tokenIdSet ∧ w'.kernel 806354946#32 0 = true ∧
      806354946#32 ∉ w'.toolTokenInfoMap := by
  decide +kernel

/-- A user may not use the camera from here on; the kernel fails for another token only. -/
def cameraRefresh : ToolOp :=
  .refreshUserPolicyFlag ((∅ : UserPolicyRecords).insert 0 ⟨[100], sampleHap, ∅, true⟩) [(7, 0)] [] id
    [⟨0, true, (∅ : Std.ExtTreeSet Int32).insert 100⟩]

theorem tool_token_bookkept_after_refresh :
    let w := runToolOps [sampleToolInit "legacy:c" true, sampleToolInit "legacy:d" true, cameraRefresh]
    w.tools.Linked ∧ 806354945#32 ∈ w.toolTokenInfoMap ∧ w.Backed sampleTable 806354945#32 := by
  have hmem : 806354945#32 ∈ (runToolOps [sampleToolInit "legacy:c" true, sampleToolInit "legacy:d" true,
      cameraRefresh]).toolTokenInfoMap := by
    decide +kernel
  have hmeet : Lib.AllMeet (toolStep sampleTable ⟨fun _ => .ok [], fun _ => none⟩ sampleParse true)
    ToolWorld.KernelKeepsUp
      twoTickets [sampleToolInit "legacy:c" true, sampleToolInit "legacy:d" true, cameraRefresh] := by
    decide +kernel
  obtain ⟨hlinked, hbacked, -⟩ := tool_tokens_bookkept rfl nothingKept_twoTickets (Lib.reaches_foldl _ _ hmeet)
  exact ⟨hlinked, hmem, hbacked _ hmem⟩

end Claw
end AccessToken
