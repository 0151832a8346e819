import AccessToken.Claw.ToolToken
import AccessToken.Lib.Interleave
/-!
# One token for one ticket

A ticket is looked up, used and deleted in sections of their own, under the locks of `ClawTicketManager` and
`ToolTokenInfoManager`.  What keeps a second command from using it in between is the mutex that
`AccessTokenManagerService::InitCliToken` holds from its first line to its last.
-/
namespace AccessToken

open Function (iterate_succ_apply)

namespace Claw

open Lib (Reaches Always Calls callStep)

/-- A call of `InitCliToken`; the service lets only the root user on. -/
structure InitCall where
  info : CliInit
  answers : InitAnswers
  isRoot : Bool

abbrev InitResult := Except AccessTokenError (AccessTokenID × List String)

/-- Where a call is: before one of its sections, about to let the mutex go, or returned. -/
inductive InitPc where
  | lock
  | verify
  | findUser (permStateList : List PermissionStatus)
  | createId (userId : Int32) (permStateList : List PermissionStatus)
  | initData (base : ClawTokenBaseInfo) (permStateList : List PermissionStatus)
  | addKernel (base : ClawTokenBaseInfo) (permStateList : List PermissionStatus)
  | addInfo (base : ClawTokenBaseInfo) (permStateList : List PermissionStatus)
  | deleteTicket (base : ClawTokenBaseInfo) (permStateList : List PermissionStatus)
  | removeKernel (base : ClawTokenBaseInfo) (e : AccessTokenError)
  | release (base : ClawTokenBaseInfo) (e : AccessTokenError)
  | destroy (base : ClawTokenBaseInfo) (e : AccessTokenError)
  | unlock (ret : InitResult)
  | done (ret : InitResult)

/-- The world and the holder of `g_userPolicyUpdateMutex`. -/
abbrev Locked (ι : Type) := Option ι × ToolWorld

section
variable {ι : Type} (T : PermissionTable) (M : ClawPermissionMetadata) (parse : String → Option CliAuthInfo)
  (enhance : Bool)

def initSection (c : InitCall) (w : ToolWorld) : InitPc → InitPc × ToolWorld
  | .verify =>
    match w.verifyCliInitInputAndTicket T M parse enhance c.info c.answers with
    | .error e => (.unlock (.error e), w)
    | .ok permStateList => (.findUser permStateList, w)
  | .findUser permStateList =>
    match c.answers.hostUser with
    | .error e => (.unlock (.error e), w)
    | .ok userId => (.createId userId permStateList, w)
  | .createId userId permStateList =>
    let (tokenId, w) := w.createToolTokenId c.answers
    if tokenId = invalidTokenId then (.unlock (.error .errTokenidCreateFailed), w)
    else
      (.initData ⟨c.info.hostTokenId, userId, c.info.callerPid, tokenId, c.info.challenge⟩
        (UserPolicyManager.updatePermissionStatusListForUserPolicy T c.answers.records tokenId userId permStateList), w)
  | .initData base permStateList => (.addKernel base permStateList, w.initPermissionData T base.tokenId permStateList)
  | .addKernel base permStateList =>
    if !c.answers.addKernelOk then (.release base .errKernelOperationFailed, w)
    else (.addInfo base permStateList, w.addNativePermToKernel T base.tokenId permStateList)
  | .addInfo base permStateList =>
    match w.addToolTokenInfo base with
    | (.error e, w) => (.removeKernel base e, w)
    | (.ok (), w) => (.deleteTicket base permStateList, w)
  | .deleteTicket base permStateList =>
    (.unlock (.ok (base.tokenId, ToolWorld.buildGrantedKernelPermList T permStateList)),
      { w with tickets := deleteClawTicket w.tickets base.challenge })
  | .removeKernel base e =>
    if !c.answers.removeKernelOk then (.destroy base .errKernelOperationFailed, w)
    else (.release base e, w.removePermFromKernel base.tokenId)
  | .release base e => (.destroy base e, w.release base.tokenId)
  | .destroy base e => (.unlock (.error e), w.destroy base.tokenId)
  | pc => (pc, w)

/-- **One step of `AccessTokenManagerService::InitCliToken`**; a call that finds the mutex held waits. -/
def initStep (calls : ι → InitCall) (i : ι) (s : Locked ι) : InitPc → InitPc × Locked ι
  | .lock =>
    match s.1 with
    | some _ => (.lock, s)
    | none => (if (calls i).isRoot then .verify else .unlock (.error .errPermissionDenied), (some i, s.2))
  | .unlock ret => (.done ret, (none, s.2))
  | pc =>
    let (pc, w) := initSection T M parse enhance (calls i) s.2 pc
    (pc, (s.1, w))

end

/-! ## A call alone -/

def runSections (T : PermissionTable) (M : ClawPermissionMetadata) (parse : String → Option CliAuthInfo)
    (enhance : Bool)
    (c : InitCall) (x : InitPc × ToolWorld) : InitPc × ToolWorld := initSection T M parse enhance c x.2 x.1

/-- **The sections one after the other are `InitCliToken`.** -/
theorem runSections_eq_initCliToken (T : PermissionTable) (M : ClawPermissionMetadata)
    (parse : String → Option CliAuthInfo) (enhance : Bool) (c : InitCall) (w : ToolWorld) :
    (runSections T M parse enhance c)^[10] (.verify, w) =
      (.unlock (w.initCliToken T M parse enhance c.info c.answers).1,
        (w.initCliToken T M parse enhance c.info c.answers).2) := by
  unfold ToolWorld.initCliToken
  rw [iterate_succ_apply]
  simp only [runSections, initSection]
  cases w.verifyCliInitInputAndTicket T M parse enhance c.info c.answers with
  | error => rfl
  | ok =>
    rw [iterate_succ_apply]
    simp only [runSections, initSection]
    cases c.answers.hostUser with
    | error => rfl
    | ok =>
      rw [iterate_succ_apply]
      simp only [runSections, initSection]
      generalize w.createToolTokenId c.answers = created
      obtain ⟨tokenId, w⟩ := created
      split
      · rfl
      rw [iterate_succ_apply, iterate_succ_apply]
      simp only [runSections, initSection]
      unfold ToolWorld.finalizeToolTokenInit
      cases c.answers.addKernelOk with
      | false => rfl
      | true =>
        simp only [Bool.not_true, Bool.false_eq_true, if_false]
        rw [iterate_succ_apply]
        simp only [runSections, initSection]
        generalize (ToolWorld.addNativePermToKernel T _ tokenId _).addToolTokenInfo _ = added
        obtain ⟨ret, w⟩ := added
        cases ret with
        | ok => rfl
        | error =>
          rw [iterate_succ_apply]
          simp only [runSections, initSection]
          cases c.answers.removeKernelOk <;> rfl

/-! ## What the sections do to tickets -/

namespace InitPc

def Inside : InitPc → Prop
  | .lock => False
  | .done _ => False
  | _ => True

def Verified : InitPc → Prop
  | .findUser _ => True
  | .createId .. => True
  | .initData .. => True
  | .addKernel .. => True
  | .addInfo .. => True
  | .deleteTicket .. => True
  | .unlock ret => ret.toBool = true
  | .done ret => ret.toBool = true
  | _ => False

def created : InitPc → Bool
  | .deleteTicket .. => true
  | .unlock ret => ret.toBool
  | .done ret => ret.toBool
  | _ => false

def Spent : InitPc → Prop
  | .unlock ret => ret.toBool = true
  | .done ret => ret.toBool = true
  | _ => False

def Presents (challenge : String) : InitPc → Prop
  | .initData base _ => base.challenge = challenge
  | .addKernel base _ => base.challenge = challenge
  | .addInfo base _ => base.challenge = challenge
  | .deleteTicket base _ => base.challenge = challenge
  | _ => True

theorem verified_of_created {pc : InitPc} (h : pc.created = true) : pc.Verified := by
  cases pc with
  | deleteTicket => exact trivial
  | unlock => exact h
  | done => exact h
  | _ => cases h

end InitPc

/-- **A legacy challenge is verified only if its ticket is stored.** -/
theorem stored_of_verify {T : PermissionTable} {M : ClawPermissionMetadata} {parse : String → Option CliAuthInfo}
    {enhance : Bool} {w : ToolWorld} {info : CliInit} {answers : InitAnswers} {permStateList : List PermissionStatus}
    (hlegacy : isLegacyChallenge info.challenge = true) (hraw : normalizeLegacyChallenge info.challenge ≠ "")
    (h : w.verifyCliInitInputAndTicket T M parse enhance info answers = .ok permStateList) :
    normalizeLegacyChallenge info.challenge ∈ w.tickets := by
  unfold ToolWorld.verifyCliInitInputAndTicket at h
  split at h
  · cases h
  have hne : (normalizeLegacyChallenge info.challenge).isEmpty = false := by simpa using hraw
  simp only [verifyCliClawTicket, hne, Bool.and_false, Bool.false_eq_true, if_false, hlegacy, Bool.true_or,
    if_true] at h
  unfold verifyCliClawTicketLegacy at h
  split at h
  · cases h
  · rename_i ticket hticket
    exact Std.ExtTreeMap.mem_iff_isSome_getElem?.2 (by rw [hticket]; rfl)

theorem mem_of_mem_deleteClawTicket {tickets : ClawTicketMap} {challenge x : String}
    (h : x ∈ deleteClawTicket tickets challenge) : x ∈ tickets := by
  unfold deleteClawTicket at h
  dsimp only at h
  split at h
  · exact h
  · exact Std.ExtTreeMap.mem_of_mem_erase h

theorem not_mem_deleteClawTicket {tickets : ClawTicketMap} {challenge : String}
    (hraw : normalizeLegacyChallenge challenge ≠ "") :
    normalizeLegacyChallenge challenge ∉ deleteClawTicket tickets challenge := by
  have hne : (normalizeLegacyChallenge challenge).isEmpty = false := by simpa using hraw
  simp [deleteClawTicket, hne]

section
variable {T : PermissionTable} {M : ClawPermissionMetadata} {parse : String → Option CliAuthInfo} {enhance : Bool}
    {w : ToolWorld}

@[simp]
theorem addToolTokenInfo_tickets (w : ToolWorld) (base : ClawTokenBaseInfo) :
    (w.addToolTokenInfo base).2.tickets = w.tickets := rfl

@[simp]
theorem destroy_tickets {tokenId : AccessTokenID} : (w.destroy tokenId).tickets = w.tickets := by
  unfold ToolWorld.destroy
  split <;> rfl

structure SectionDoes (T : PermissionTable) (M : ClawPermissionMetadata) (parse : String → Option CliAuthInfo)
    (enhance : Bool) (c : InitCall) (w : ToolWorld) (pc : InitPc) (r : InitPc × ToolWorld) : Prop where
  tickets : ∀ x ∈ r.2.tickets, x ∈ w.tickets
  verified : r.1.Verified →
    pc.Verified ∨ pc = .verify ∧ ∃ l, w.verifyCliInitInputAndTicket T M parse enhance c.info c.answers = .ok l
  spent : r.1.Spent → ∃ base l, pc = .deleteTicket base l ∧ r.2.tickets = deleteClawTicket w.tickets base.challenge
  presents : pc.Presents c.info.challenge → r.1.Presents c.info.challenge

theorem SectionDoes.of_eq {c : InitCall} {w' : ToolWorld} {pc pc' : InitPc} (htickets : w'.tickets = w.tickets)
    (hverified : pc'.Verified → pc.Verified) (hspent : ¬pc'.Spent)
    (hpresents : pc.Presents c.info.challenge → pc'.Presents c.info.challenge) :
    SectionDoes T M parse enhance c w pc (pc', w') :=
  ⟨fun _ hx => htickets ▸ hx, fun h => .inl (hverified h), fun h => absurd h hspent, hpresents⟩

theorem initSection_does (c : InitCall) (w : ToolWorld) {pc : InitPc} (hinside : pc.Inside)
    (hunlock : ∀ ret, pc ≠ .unlock ret) :
    SectionDoes T M parse enhance c w pc (initSection T M parse enhance c w pc) := by
  cases pc with
  | lock => exact hinside.elim
  | done => exact hinside.elim
  | unlock ret => exact absurd rfl (hunlock ret)
  | verify =>
    unfold initSection
    cases hverify : w.verifyCliInitInputAndTicket T M parse enhance c.info c.answers with
    | error => exact .of_eq rfl (by simp [InitPc.Verified, Except.toBool]) (by simp [InitPc.Spent, Except.toBool]) id
    | ok l => exact ⟨fun _ hx => hx, fun _ => .inr ⟨rfl, l, hverify⟩, False.elim, id⟩
  | findUser =>
    unfold initSection
    cases c.answers.hostUser with
    | error => exact .of_eq rfl (fun _ => trivial) (by simp [InitPc.Spent, Except.toBool]) id
    | ok => exact .of_eq rfl (fun _ => trivial) id id
  | createId =>
    simp only [initSection]
    split
    · exact .of_eq rfl (fun _ => trivial) (by simp [InitPc.Spent, Except.toBool]) id
    · exact .of_eq rfl (fun _ => trivial) id fun _ => rfl
  | initData => exact .of_eq rfl (fun _ => trivial) id id
  | addKernel =>
    simp only [initSection]
    split
    · exact .of_eq rfl False.elim id fun _ => trivial
    · exact .of_eq rfl (fun _ => trivial) id id
  | addInfo base =>
    simp only [initSection]
    have htickets := addToolTokenInfo_tickets w base
    generalize w.addToolTokenInfo base = added at htickets ⊢
    obtain ⟨ret, w'⟩ := added
    cases ret with
    | error => exact .of_eq htickets False.elim id fun _ => trivial
    | ok => exact .of_eq htickets (fun _ => trivial) id id
  | deleteTicket base l =>
    exact ⟨fun _ hx => mem_of_mem_deleteClawTicket hx, fun _ => .inl trivial, fun _ => ⟨base, l, rfl, rfl⟩,
      fun _ => trivial⟩
  | removeKernel =>
    simp only [initSection]
    split
    · exact .of_eq rfl False.elim id id
    · exact .of_eq rfl False.elim id id
  | release => exact .of_eq rfl False.elim id id
  | destroy =>
    exact .of_eq destroy_tickets (by simp [InitPc.Verified, Except.toBool])
      (by simp [InitPc.Spent, Except.toBool]) id

/-! ## Interleavings -/

variable {ι : Type} {calls : ι → InitCall} {challenge : String} {i : ι}

theorem initStep_cases {s : Locked ι} {pc : InitPc} : initStep T M parse enhance calls i s pc = (pc, s) ∨
      (pc = .lock ∧ s.1 = none ∧ ∃ pc', pc'.Inside ∧ ¬pc'.Verified ∧ ¬pc'.Spent ∧ pc'.Presents challenge ∧
        initStep T M parse enhance calls i s pc = (pc', (some i, s.2))) ∨
      (∃ ret, pc = .unlock ret ∧ initStep T M parse enhance calls i s pc = (.done ret, (none, s.2))) ∨
      (pc.Inside ∧ (∀ ret, pc ≠ .unlock ret) ∧ initStep T M parse enhance calls i s pc =
          ((initSection T M parse enhance (calls i) s.2 pc).1,
            (s.1, (initSection T M parse enhance (calls i) s.2 pc).2))) := by
  cases pc with
  | lock =>
    cases hmutex : s.1 with
    | some => exact .inl (by simp [initStep, hmutex])
    | none =>
      refine .inr (.inl ⟨rfl, rfl, if (calls i).isRoot then .verify else .unlock (.error .errPermissionDenied),
        ?_, ?_, ?_, ?_, by simp only [initStep, hmutex]⟩)
      all_goals cases (calls i).isRoot <;> simp [InitPc.Inside, InitPc.Verified, InitPc.Spent, InitPc.Presents,
        Except.toBool]
  | unlock ret => exact .inr (.inr (.inl ⟨ret, rfl, rfl⟩))
  | done => exact .inl rfl
  | _ => exact .inr (.inr (.inr ⟨trivial, by simp, rfl⟩))

variable [DecidableEq ι]

/-- The mutex is held by the call inside, a call that has deleted the ticket leaves none, and no two calls are past a
verification of it. -/
abbrev UsedOnce (challenge : String) : Calls ι (Locked ι) InitPc → Prop :=
  Calls.Holds (fun _ => True)
    (fun i pc s => (pc.Inside → s.1 = some i) ∧ (pc.Spent → normalizeLegacyChallenge challenge ∉ s.2.tickets) ∧
      pc.Presents challenge)
    (fun _ _ pc pc' => pc.Verified → ¬pc'.Verified)

theorem UsedOnce.step {s : Calls ι (Locked ι) InitPc} (h : UsedOnce challenge s)
    (hcalls : ∀ i, (calls i).info.challenge = challenge) (hlegacy : isLegacyChallenge challenge = true)
    (hraw : normalizeLegacyChallenge challenge ≠ "") :
    UsedOnce challenge (callStep (initStep T M parse enhance calls) s i) := by
  have hown := h.place i
  -- a call that is inside shuts the others out
  have halone : ∀ j, j ≠ i → (s.pc i).Inside → ¬(s.pc j).Inside := fun j hj hi hj' =>
    hj (Option.some.inj (((h.place j).1 hj').symm.trans (hown.1 hi)))
  obtain heq | ⟨hpc, hfree, pc', hin, hver, hsp, hpres, heq⟩ | ⟨ret, hpc, heq⟩ | ⟨hin, hunlock, heq⟩ :=
    initStep_cases
  · refine Calls.Holds.step h trivial ?_ ?_ ?_ <;> rw [heq]
    · exact hown
    · exact fun j _ => h.place j
    · exact fun j hj => ⟨h.pair i j (Ne.symm hj), h.pair j i hj⟩
  · refine Calls.Holds.step h trivial ?_ ?_ ?_ <;> rw [heq]
    · exact ⟨fun _ => rfl, fun h => absurd h hsp, hpres⟩
    · intro j _
      obtain ⟨hj, hrest⟩ := h.place j
      exact ⟨fun hin => absurd (hfree.symm.trans (hj hin)) (by simp), hrest⟩
    · exact fun j _ => ⟨fun h => absurd h hver, fun _ => hver⟩
  · rw [hpc] at hown halone
    refine Calls.Holds.step h trivial ?_ ?_ ?_ <;> rw [heq]
    · exact ⟨False.elim, hown.2.1, trivial⟩
    · exact fun j hj => ⟨fun hin => absurd hin (halone j hj trivial), (h.place j).2⟩
    · intro j hj
      have hij := h.pair i j (Ne.symm hj)
      have hji := h.pair j i hj
      rw [hpc] at hij hji
      exact ⟨hij, hji⟩
  have hdoes := @initSection_does T M parse enhance (calls i) s.shared.2 _ hin hunlock
  have hpresents := hdoes.presents
  rw [hcalls i] at hpresents
  refine Calls.Holds.step h trivial ?_ ?_ ?_ <;> rw [heq]
  · refine ⟨fun _ => hown.1 hin, fun hsp => ?_, hpresents hown.2.2⟩
    obtain ⟨base, l, hpc, htickets⟩ := hdoes.spent hsp
    have hbase := hown.2.2
    rw [hpc] at hbase
    rw [htickets, ← hbase]
    exact not_mem_deleteClawTicket (hbase ▸ hraw)
  · intro j hj
    obtain ⟨hjin, hjsp, hjpres⟩ := h.place j
    exact ⟨hjin, fun hsp hx => hjsp hsp (hdoes.tickets _ hx), hjpres⟩
  · -- no other call is past its verification when this one passes it
    have hnot : ∀ j, j ≠ i → (initSection T M parse enhance (calls i) s.shared.2 (s.pc i)).1.Verified →
        ¬(s.pc j).Verified := by
      intro j hj hver hjver
      obtain hold | ⟨hpc, l, hverify⟩ := hdoes.verified hver
      · exact h.pair i j (Ne.symm hj) hold hjver
      have hstored := stored_of_verify ((hcalls i).symm ▸ hlegacy) ((hcalls i).symm ▸ hraw) hverify
      rw [hcalls i] at hstored
      have hout := halone j hj hin
      refine (h.place j).2.1 ?_ hstored
      revert hout hjver
      cases s.pc j <;> simp [InitPc.Inside, InitPc.Verified, InitPc.Spent]
    exact fun j hj => ⟨hnot j hj, fun hjver hver => hnot j hj hver hjver⟩

/-- **A legacy ticket gives at most one token**: in every interleaving of calls that present one challenge, no two of
them have created a token. -/
theorem cli_ticket_used_once (hlegacy : isLegacyChallenge challenge = true)
    (hraw : normalizeLegacyChallenge challenge ≠ "") (hcalls : ∀ i, (calls i).info.challenge = challenge)
    {w : ToolWorld} {s : Calls ι (Locked ι) InitPc}
    (hrun : Reaches (callStep (initStep T M parse enhance calls)) Always ⟨(none, w), fun _ => .lock⟩ s) {i j : ι}
    (hi : (s.pc i).created = true) (hj : (s.pc j).created = true) : i = j := by
  have hinit : UsedOnce challenge (⟨(none, w), fun _ => .lock⟩ : Calls ι (Locked ι) InitPc) :=
    ⟨trivial, fun _ => ⟨False.elim, False.elim, trivial⟩, fun _ _ _ => False.elim⟩
  have hstep : ∀ s i, UsedOnce challenge s → Always s i →
      UsedOnce challenge (callStep (initStep T M parse enhance calls) s i) :=
    fun _ i h _ => UsedOnce.step h hcalls hlegacy hraw
  have h := hrun.invariant hstep hinit
  by_contra hne
  exact h.pair i j hne (InitPc.verified_of_created hi) (InitPc.verified_of_created hj)

end

/-! Two commands that present one challenge. -/

def sampleInitCall (pid : Int32) : InitCall where
  info := ⟨PermissionDataBrief.sampleHap, "legacy:c", ⟨"media", "run"⟩, pid⟩
  answers := ⟨⟨100, .ok [0], .error .errServiceAbnormal⟩, .ok 100, fun n => BitVec.ofNat 32 (n + 1), ∅, true, true⟩
  isRoot := true

def sampleParse (_ : String) : Option CliAuthInfo := some ⟨⟨"media", "run"⟩, [camera], [true]⟩

def sampleToolWorld : ToolWorld where
  tools := .empty
  tickets := (∅ : ClawTicketMap).insert "c" ⟨PermissionDataBrief.sampleHap, "message", "ticket"⟩
  idManager := .empty
  brief := .empty
  kernel := .empty

def runTwoCommands (start : InitPc) (schedule : List Bool) : Calls Bool (Locked Bool) InitPc :=
  schedule.foldl
    (callStep (initStep sampleTable ⟨fun _ => .ok [], fun _ => none⟩ sampleParse true
      fun first => sampleInitCall (if first then 1 else 2)))
    ⟨(none, sampleToolWorld), fun _ => start⟩

/-- Without the mutex both calls verify the ticket before one of them deletes it. -/
example : ∀ first, ((runTwoCommands .verify ((List.replicate 9 [true, false]).flatten)).pc first).created = true := by
  decide +kernel

theorem second_command_gets_no_token :
    ((runTwoCommands .lock (List.replicate 9 true ++ List.replicate 9 false)).pc true).created = true ∧
      ((runTwoCommands .lock (List.replicate 9 true ++ List.replicate 9 false)).pc false).created ≠ true := by
  have hfirst : ((runTwoCommands .lock (List.replicate 9 true ++ List.replicate 9 false)).pc true).created = true := by
    decide +kernel
  refine ⟨hfirst, fun hsecond => ?_⟩
  have hlegacy : isLegacyChallenge "legacy:c" = true := by decide +kernel
  have hraw : normalizeLegacyChallenge "legacy:c" ≠ "" := by decide +kernel
  have heq := cli_ticket_used_once (i := true) (j := false) hlegacy hraw (fun i => by cases i <;> rfl)
    (Lib.reaches_always (List.replicate 9 true ++ List.replicate 9 false) _) hfirst hsecond
  cases heq

end Claw
end AccessToken
