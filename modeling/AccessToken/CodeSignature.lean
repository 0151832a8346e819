import AccessToken.Basic
import AccessToken.Lib.ModifyFirst
import AccessToken.Lib.Run
import Mathlib.Algebra.BigOperators.Fin
/-!
# The code-signature risk model

`code_signature_analysis_kit.c`: a list of applications, each with a chain of report times for every error type, from
which its policy is computed.  A node is linked into the list before its name is copied and its first report is stored;
when either fails the node is freed where it stands.  A chain is cut at its first old report, which is right as long as
reports arrive in the order of their times.
-/
namespace AccessToken.CodeSignature

open Lib (modifyFirst Reaches)

abbrev errorTypeSize : Nat := 5

def maxCodeSignatureErrorNum : Int := 10

def maxRiskAppCount : Nat := 1024 * 100

inductive OperErrorCode where
  | memoryOperFailed | inputPointNull | inputTokenIdInvalid | inputEventTypeInvalid | inputOperTypeInvalid
  | initOperRepeat | modelInitNotCompleted | shortOfMemory | riskAppNumExceeded
  /-- what a failed `strcpy_s` returns -/
  | copyFailed
deriving DecidableEq

abbrev Oper := Except OperErrorCode Unit

/-- `DataChangeTypeCode`; the last one is every value from `DATA_CHANGE_TYPE_BUFF` on. -/
inductive DataChangeTypeCode where
  | eventReported | outOfStorageLife | dataChangeTypeBuff
deriving DecidableEq

inductive RiskPolicyType where
  | noSecurityRisk | logReport | enforcedPermissionControl
deriving DecidableEq

/-- A chain of report times, newest first; its head holds their number. -/
structure TimeStampChain where
  timeStampCount : Int32
  timeStamps : List Int
deriving DecidableEq

structure AppRiskStatus where
  policy : RiskPolicyType
  eventCount : Int
  totalCount : Int
deriving DecidableEq

structure AppRiskInfo where
  tokenId : AccessTokenID
  status : AppRiskStatus
  errInfoList : Fin errorTypeSize → TimeStampChain
deriving DecidableEq

/-- What hangs behind `g_modelDataHead`.  With `dangling` the first link points to a node that was freed: whoever
follows it reads freed memory. -/
structure ModelData where
  nodes : List AppRiskInfo
  dangling : Bool
deriving DecidableEq

structure Model where
  modelDataHead : Option ModelData
  riskAppCount : Nat
  retListener : Bool
deriving DecidableEq

structure ReportedInfo where
  tokenId : AccessTokenID
  errorType : Nat
  timeStampMs : Int

/-- Which allocations of a call succeed, and whether the bundle name is copied. -/
structure Outcomes where
  (node chains copy stamp result : Bool)

def allSucceed : Outcomes := ⟨true, true, true, true, true⟩

def AppRiskInfo.risky (n : AppRiskInfo) : Bool := n.status.policy != .noSecurityRisk

/-- `IsRiskStatusChanged`: whether the policy changed, the node and `g_riskAppCount`. -/
def isRiskStatusChanged (riskAppCount : Nat) (node : AppRiskInfo) : Bool × AppRiskInfo × Nat :=
  let totalCount := ∑ i, (node.errInfoList i).timeStampCount.toInt
  let eventCount : Int := ∑ i, if (node.errInfoList i).timeStampCount ≠ 0 then 1 else 0
  let policy : RiskPolicyType :=
    if totalCount > maxCodeSignatureErrorNum ∨ eventCount = errorTypeSize then .logReport else .noSecurityRisk
  let node' := { node with status := ⟨policy, eventCount, totalCount⟩ }
  (policy != node.status.policy, node',
    if node'.risky = false ∧ node.risky = true then if riskAppCount > 0 then riskAppCount - 1 else riskAppCount
    else if node'.risky = true ∧ node.risky = false then
      if riskAppCount < maxRiskAppCount then riskAppCount + 1 else riskAppCount
    else riskAppCount)

def AppRiskInfo.setChain (node : AppRiskInfo) (errorType : Fin errorTypeSize) (chain : TimeStampChain) : AppRiskInfo :=
  { node with errInfoList := Function.update node.errInfoList errorType chain }

def dataPreProcess (mallocOk : Bool) (errorType : Fin errorTypeSize) (timeStampMs : Int) (node : AppRiskInfo)
    (optType : DataChangeTypeCode) : Except OperErrorCode AppRiskInfo :=
  let chain := node.errInfoList errorType
  match optType with
  | .outOfStorageLife =>
    -- the walk stops at the first report that is not newer, and what follows goes, each with a decrement
    let kept := chain.timeStamps.takeWhile (timeStampMs < ·)
    .ok (node.setChain errorType
      ⟨chain.timeStampCount - Int32.ofNat (chain.timeStamps.length - kept.length), kept⟩)
  | .eventReported =>
    if mallocOk then .ok (node.setChain errorType ⟨chain.timeStampCount + 1, timeStampMs :: chain.timeStamps⟩)
    else .error .memoryOperFailed
  | .dataChangeTypeBuff => .ok node

/-- The node as `AppRiskInfoNodeInit` and the assignment of the token leave it. -/
def appRiskInfoNodeInit (tokenId : AccessTokenID) : AppRiskInfo :=
  ⟨tokenId, ⟨.noSecurityRisk, 0, 0⟩, fun _ => ⟨0, []⟩⟩

def updateInfoInCurrNode (env : Outcomes) (errorType : Fin errorTypeSize) (timeStampMs : Int) (node : AppRiskInfo)
    (optType : DataChangeTypeCode) (m : Model) (data : ModelData) : Oper × Model :=
  match dataPreProcess env.stamp errorType timeStampMs node optType with
  | .error e => (.error e, m)
  | .ok node' =>
    let (isChanged, node', count) := isRiskStatusChanged m.riskAppCount node'
    (if count ≥ maxRiskAppCount then .error .riskAppNumExceeded
      else if isChanged && m.retListener && !env.result then .error .memoryOperFailed else .ok (),
      { m with
        modelDataHead := some { data with nodes := modifyFirst (·.tokenId == node.tokenId) (fun _ => node') data.nodes }
        riskAppCount := count })

/-- `AddNewAppInfoNode`: a node that fails once it is linked is freed and stays linked. -/
def addNewAppInfoNode (env : Outcomes) (tokenId : AccessTokenID) (errorType : Fin errorTypeSize) (timeStampMs : Int)
    (optType : DataChangeTypeCode) (m : Model) (data : ModelData) : Oper × Model :=
  if (env.node && env.chains) = false then (.error .memoryOperFailed, m)
  else if env.copy = false then (.error .copyFailed, { m with modelDataHead := some { data with dangling := true } })
  else
    match dataPreProcess env.stamp errorType timeStampMs (appRiskInfoNodeInit tokenId) optType with
    | .error e => (.error e, { m with modelDataHead := some { data with dangling := true } })
    | .ok node =>
      let (_, node, count) := isRiskStatusChanged m.riskAppCount node
      (.ok (), { m with modelDataHead := some { data with nodes := node :: data.nodes }, riskAppCount := count })

/-- `FindExistingNode`, where the first link is good. -/
def findExistingNode (data : ModelData) (tokenId : AccessTokenID) : Option AppRiskInfo :=
  data.nodes.find? (·.tokenId == tokenId)

/-- `DataProcess`; `none` where it follows a link to freed memory. -/
def dataProcess (env : Outcomes) (report : ReportedInfo) (optType : DataChangeTypeCode) (m : Model) :
    Option (Oper × Model) :=
  if report.tokenId = invalidTokenId then some (.error .inputTokenIdInvalid, m)
  else if h : report.errorType < errorTypeSize then
    if optType = .dataChangeTypeBuff then some (.error .inputOperTypeInvalid, m)
    else
      match m.modelDataHead with
      | none => some (.error .modelInitNotCompleted, m)
      | some data =>
        if data.dangling then none
        else
          match findExistingNode data report.tokenId with
          | some node => some (updateInfoInCurrNode env ⟨_, h⟩ report.timeStampMs node optType m data)
          | none =>
            if optType = .outOfStorageLife then some (.ok (), m)
            else some (addNewAppInfoNode env report.tokenId ⟨_, h⟩ report.timeStampMs optType m data)
  else some (.error .inputEventTypeInvalid, m)

def init (api mallocOk : Bool) (m : Model) : Oper × Model :=
  if api = false then (.error .inputPointNull, m)
  else if m.modelDataHead.isSome then (.error .initOperRepeat, m)
  else if mallocOk = false then (.error .memoryOperFailed, m)
  else (.ok (), { m with modelDataHead := some ⟨[], false⟩ })

/-- `Release`; `none` where it follows a link to freed memory. -/
def release (m : Model) : Option Model :=
  match m.modelDataHead with
  | none => some m
  | some data => if data.dangling then none else some ⟨none, 0, false⟩

def subscribeResult (listener : Bool) (m : Model) : Oper × Model :=
  if listener = false then (.error .inputPointNull, m)
  else if m.modelDataHead.isNone then (.error .modelInitNotCompleted, m)
  else (.ok (), { m with retListener := true })

structure NotifyRiskResultInfo where
  eventId : Nat
  policy : RiskPolicyType
  tokenId : AccessTokenID
deriving DecidableEq

def setResultInfoAccordingToNode (node : AppRiskInfo) : NotifyRiskResultInfo :=
  ⟨10110150100, node.status.policy, node.tokenId⟩

def sizeOfResult : Nat := 16

/-- The loop of `GetResult`, with room for `room` more results. -/
def collectResults : Nat → List AppRiskInfo → List NotifyRiskResultInfo
  | 0, _ => []
  | _, [] => []
  | room + 1, node :: rest =>
    if node.risky then setResultInfoAccordingToNode node :: collectResults room rest else collectResults (room + 1) rest

/-- `GetResult` into a buffer of `resultLen` bytes; `none` where it follows a link to freed memory. -/
def getResult (mallocOk : Bool) (resultLen : Nat) (m : Model) :
    Option (Except OperErrorCode (List NotifyRiskResultInfo)) :=
  match m.modelDataHead with
  | none => some (.error .modelInitNotCompleted)
  | some data =>
    if resultLen < m.riskAppCount * sizeOfResult then some (.error .shortOfMemory)
    else if m.riskAppCount * sizeOfResult = 0 then some (.ok [])
    else if mallocOk = false then some (.error .shortOfMemory)
    else if data.dangling then none
    else some (.ok (collectResults m.riskAppCount data.nodes))

inductive Op where
  | init (api mallocOk : Bool)
  | release
  | subscribeResult (listener : Bool)
  | dataProcess (env : Outcomes) (report : ReportedInfo) (optType : DataChangeTypeCode)

/-- A step that follows a link to freed memory is left where it is: nothing is said about what comes after. -/
def step (m : Model) : Op → Model
  | .init api mallocOk => (init api mallocOk m).2
  | .release => (release m).getD m
  | .subscribeResult listener => (subscribeResult listener m).2
  | .dataProcess env report optType => ((dataProcess env report optType m).map Prod.snd).getD m

def initial : Model := ⟨none, 0, false⟩

/-! ## One node -/

def TimeStampChain.Counted (c : TimeStampChain) : Prop := c.timeStampCount.toInt = c.timeStamps.length

theorem TimeStampChain.Counted.report {c : TimeStampChain} (h : c.Counted) (hroom : c.timeStamps.length < 2 ^ 31 - 1)
    {t : Int} : Counted ⟨c.timeStampCount + 1, t :: c.timeStamps⟩ := by
  unfold Counted at h ⊢
  have hone : (1 : Int32).toInt = 1 := rfl
  rw [Int32.toInt_add, h, hone, List.length_cons, Int.bmod_eq_of_le (by omega) (by omega)]
  omega

theorem TimeStampChain.Counted.expire {c : TimeStampChain} (h : c.Counted) {p : Int → Bool} :
    Counted ⟨c.timeStampCount - Int32.ofNat (c.timeStamps.length - (c.timeStamps.takeWhile p).length),
      c.timeStamps.takeWhile p⟩ := by
  unfold Counted at h ⊢
  have hlt := c.timeStampCount.toInt_lt
  have hkept : (c.timeStamps.takeWhile p).length ≤ c.timeStamps.length := (List.takeWhile_sublist p).length_le
  rw [Int32.toInt_sub, h, Int32.toInt_ofNat_of_lt (by omega), Int.bmod_eq_of_le (by omega) (by omega)]
  dsimp only
  omega

def AppRiskInfo.total (n : AppRiskInfo) : Int := ∑ i, ((n.errInfoList i).timeStamps.length : Int)

/-- The counts are those of the chains, and the policy is the one the chains call for. -/
structure AppRiskInfo.Correct (n : AppRiskInfo) : Prop where
  counted : ∀ i, (n.errInfoList i).Counted
  policy : n.status.policy =
    if n.total > maxCodeSignatureErrorNum ∨ ∀ i, (n.errInfoList i).timeStamps ≠ [] then .logReport else .noSecurityRisk

theorem sum_occurred (p : Fin errorTypeSize → Prop) [DecidablePred p] :
    (∑ i, if p i then (1 : Int) else 0) = errorTypeSize ↔ ∀ i, p i := by
  rw [Finset.sum_boole, Nat.cast_inj]
  have hcard := Finset.card_eq_iff_eq_univ (Finset.univ.filter p)
  rw [Fintype.card_fin] at hcard
  rw [hcard, Finset.filter_eq_self]
  simp

theorem isRiskStatusChanged_correct {node : AppRiskInfo} (h : ∀ i, (node.errInfoList i).Counted) (count : Nat) :
    (isRiskStatusChanged count node).2.1.Correct := by
  have htotal : ∑ i, (node.errInfoList i).timeStampCount.toInt = node.total := Finset.sum_congr rfl fun i _ => h i
  have hzero : ∀ i, (node.errInfoList i).timeStampCount ≠ 0 ↔ (node.errInfoList i).timeStamps ≠ [] := by
    intro i
    have hi := h i
    rw [not_iff_not, ← Int32.toInt_inj, hi, Int32.toInt_zero, ← List.length_eq_zero_iff]
    omega
  refine ⟨h, ?_⟩
  simp only [isRiskStatusChanged, htotal, sum_occurred, hzero]
  rfl

theorem isRiskStatusChanged_count (node : AppRiskInfo) (count : Nat) (hpos : node.risky = true → 0 < count)
    (hroom : node.risky = false → count < maxRiskAppCount) :
    (isRiskStatusChanged count node).2.2 + node.risky.toNat = count +
    (isRiskStatusChanged count node).2.1.risky.toNat := by
  have hnew : ∀ b : Bool, (isRiskStatusChanged count node).2.1.risky = b → (isRiskStatusChanged count node).2.2 =
      if b = false ∧ node.risky = true then if count > 0 then count - 1 else count
      else if b = true ∧ node.risky = false then if count < maxRiskAppCount then count + 1 else count else count := by
    rintro b rfl
    rfl
  rw [hnew _ rfl]
  cases hold : node.risky <;> cases (isRiskStatusChanged count node).2.1.risky
  · simp
  · simp [hroom hold]
  · have hpos := hpos hold
    simp [hpos]
    omega
  · simp

theorem dataPreProcess_counted {mallocOk : Bool} {i : Fin errorTypeSize} {time : Int} {node node' : AppRiskInfo}
    {optType : DataChangeTypeCode} (hok : dataPreProcess mallocOk i time node optType = .ok node')
    (h : ∀ j, (node.errInfoList j).Counted)
    (hroom : optType = .eventReported → (node.errInfoList i).timeStamps.length < 2 ^ 31 - 1) :
    (∀ j, (node'.errInfoList j).Counted) ∧ node'.tokenId = node.tokenId ∧ node'.status = node.status := by
  have hset : ∀ c : TimeStampChain, c.Counted → ∀ j, ((node.setChain i c).errInfoList j).Counted := by
    intro c hc j
    unfold AppRiskInfo.setChain
    by_cases hj : j = i
    · subst hj
      simpa using hc
    · simpa [hj] using h j
  cases optType with
  | eventReported =>
    simp only [dataPreProcess] at hok
    split at hok
    · cases hok
      exact ⟨hset _ ((h i).report (hroom rfl)), rfl, rfl⟩
    · cases hok
  | outOfStorageLife =>
    cases hok
    exact ⟨hset _ ((h i).expire), rfl, rfl⟩
  | dataChangeTypeBuff =>
    cases hok
    exact ⟨h, rfl, rfl⟩

/-! ## The list -/

theorem collectResults_eq : ∀ nodes : List AppRiskInfo,
    collectResults (nodes.countP AppRiskInfo.risky) nodes =
    (nodes.filter AppRiskInfo.risky).map setResultInfoAccordingToNode
  | [] => by simp [collectResults]
  | n :: nodes => by
    cases hn : n.risky with
    | true => simp [collectResults, hn, collectResults_eq nodes]
    | false =>
      have hrest := collectResults_eq nodes
      cases hcount : nodes.countP AppRiskInfo.risky with
      | zero =>
        have hnone : nodes.filter AppRiskInfo.risky = [] := List.filter_eq_nil_iff.2 (List.countP_eq_zero.1 hcount)
        simp [hn, hcount, hnone, collectResults]
      | succ => simp_all [collectResults]

/-- The nodes behind the head, all of them about applications of `S`. -/
structure Listed (S : Finset AccessTokenID) (count : Nat) (nodes : List AppRiskInfo) : Prop where
  tokens : (nodes.map AppRiskInfo.tokenId).Nodup
  correct : ∀ n ∈ nodes, n.Correct
  count : count = nodes.countP AppRiskInfo.risky
  about : ∀ n ∈ nodes, n.tokenId ∈ S

variable {S : Finset AccessTokenID} {count : Nat} {nodes : List AppRiskInfo} {node : AppRiskInfo}

theorem length_le_card {l : List AccessTokenID} (hnd : l.Nodup) (h : ∀ t ∈ l, t ∈ S) : l.length ≤ S.card := by
  rw [← List.toFinset_card_of_nodup hnd]
  exact Finset.card_le_card fun t ht => h t (List.mem_toFinset.1 ht)

section

variable (h : Listed S count nodes)
include h

theorem Listed.length_le : nodes.length ≤ S.card := by
  have hle := length_le_card h.tokens fun t ht => by
    obtain ⟨n, hn, rfl⟩ := List.mem_map.1 ht
    exact h.about n hn
  rwa [List.length_map] at hle

theorem Listed.update (hS : S.card ≤ maxRiskAppCount) {t : AccessTokenID}
    {node' : AppRiskInfo} (hfind : nodes.find? (·.tokenId == t) = some node)
    (hcounted : ∀ i, (node'.errInfoList i).Counted) (htoken : node'.tokenId = node.tokenId)
    (hstatus : node'.status = node.status) : Listed S (isRiskStatusChanged count node').2.2
      (modifyFirst (·.tokenId == t) (fun _ => (isRiskStatusChanged count node').2.1) nodes) := by
  have hmem := List.mem_of_find?_eq_some hfind
  have ht : node.tokenId = t := by simpa using List.find?_some hfind
  have hrisky : node'.risky = node.risky := by
    unfold AppRiskInfo.risky
    rw [hstatus]
  have hnew : (isRiskStatusChanged count node').2.1.tokenId = t := htoken.trans ht
  have hcount := isRiskStatusChanged_count node' count (fun hr => by
      rw [h.count]
      exact List.countP_pos_iff.2 ⟨node, hmem, hrisky ▸ hr⟩)
    (fun hr => by
      have hle := h.length_le
      have hlt : nodes.countP AppRiskInfo.risky ≠ nodes.length := fun heq => by
        have hall := List.countP_eq_length.1 heq node hmem
        rw [← hrisky, hr] at hall
        cases hall
      have := nodes.countP_le_length (p := AppRiskInfo.risky)
      have := h.count
      omega)
  refine ⟨?_, fun n hn => ?_, ?_, fun n hn => ?_⟩
  · rw [Lib.map_modifyFirst fun a ha => hnew.trans (beq_iff_eq.1 ha).symm]
    exact h.tokens
  · rcases Lib.mem_modifyFirst hn with hn | ⟨_, -, rfl⟩
    · exact h.correct n hn
    · exact isRiskStatusChanged_correct hcounted count
  · have hone :=
      Lib.countP_modifyFirst (q := AppRiskInfo.risky) (f := fun _ => (isRiskStatusChanged count node').2.1) hfind
    have := h.count
    rw [hrisky] at hcount
    omega
  · rcases Lib.mem_modifyFirst hn with hn | ⟨_, -, rfl⟩
    · exact h.about n hn
    · rw [hnew, ← ht]
      exact h.about node hmem

theorem Listed.add (hS : S.card ≤ maxRiskAppCount)
    (hfind : nodes.find? (·.tokenId == node.tokenId) = none) (hcounted : ∀ i, (node.errInfoList i).Counted)
    (hrisky : node.risky = false) (ht : node.tokenId ∈ S) :
    Listed S (isRiskStatusChanged count node).2.2 ((isRiskStatusChanged count node).2.1 :: nodes) := by
  have hfresh : node.tokenId ∉ nodes.map AppRiskInfo.tokenId := fun hmem => by
    obtain ⟨n, hn, heq⟩ := List.mem_map.1 hmem
    exact List.find?_eq_none.1 hfind n hn (by simpa using heq)
  have htokens : (((isRiskStatusChanged count node).2.1 :: nodes).map AppRiskInfo.tokenId).Nodup :=
    List.nodup_cons.2 ⟨hfresh, h.tokens⟩
  have habout : ∀ n ∈ (isRiskStatusChanged count node).2.1 :: nodes, n.tokenId ∈ S :=
    List.forall_mem_cons.2 ⟨ht, h.about⟩
  have hcount := isRiskStatusChanged_count node count (fun hr => by rw [hrisky] at hr; cases hr) (fun _ => by
      have hle := length_le_card htokens fun t ht => by
        obtain ⟨n, hn, rfl⟩ := List.mem_map.1 ht
        exact habout n hn
      have := nodes.countP_le_length (p := AppRiskInfo.risky)
      have := h.count
      simp only [List.map_cons, List.length_cons, List.length_map] at hle
      omega)
  refine ⟨htokens, List.forall_mem_cons.2 ⟨isRiskStatusChanged_correct hcounted count, h.correct⟩, ?_, habout⟩
  have := h.count
  cases hr : (isRiskStatusChanged count node).2.1.risky <;> rw [hr] at hcount <;> simp_all

end

/-! ## Whole runs -/

def Model.Without (m : Model) (t : AccessTokenID) : Prop :=
  ∀ data ∈ m.modelDataHead, findExistingNode data t = none
deriving Decidable

/-- **What a report must meet**: it is about an application of `S`; a chain it goes to has room in its `int32_t` count;
and where it brings the first node of an application, nothing fails once the node is linked. -/
def KeepsConsistent (S : Finset AccessTokenID) (m : Model) : Op → Prop
  | .dataProcess env report .eventReported => report.tokenId ∈ S ∧
    (m.Without report.tokenId → env.node = true → env.chains = true → env.copy = true ∧ env.stamp = true) ∧
    ∀ data ∈ m.modelDataHead, ∀ node ∈ findExistingNode data report.tokenId,
      ∀ i, (node.errInfoList i).timeStamps.length < 2 ^ 31 - 1
  | _ => True

/-- The model is released, or its links are good and its nodes are right. -/
def Model.Consistent (S : Finset AccessTokenID) (m : Model) : Prop :=
  (m.modelDataHead = none → m.riskAppCount = 0) ∧
    ∀ data, m.modelDataHead = some data → data.dangling = false ∧ Listed S m.riskAppCount data.nodes

variable {m : Model}

theorem counted_init {t : AccessTokenID} (i : Fin errorTypeSize) : ((appRiskInfoNodeInit t).errInfoList i).Counted :=
  rfl

/-- **What a report or an expiry does to a consistent model.** -/
theorem dataProcess_consistent (hS : S.card ≤ maxRiskAppCount) (h : m.Consistent S) {env : Outcomes}
    {report : ReportedInfo}
    {optType : DataChangeTypeCode} (hok : KeepsConsistent S m (.dataProcess env report optType)) :
    ∃ res m', dataProcess env report optType m = some (res, m') ∧ m'.Consistent S ∧
      (res ≠ .ok () → m.Without report.tokenId → m'.modelDataHead = m.modelDataHead) := by
  unfold dataProcess
  split
  · exact ⟨_, _, rfl, h, fun _ _ => rfl⟩
  split
  swap
  · exact ⟨_, _, rfl, h, fun _ _ => rfl⟩
  split
  · exact ⟨_, _, rfl, h, fun _ _ => rfl⟩
  cases hhead : m.modelDataHead with
  | none => exact ⟨_, _, rfl, h, fun _ _ => hhead⟩
  | some data =>
    obtain ⟨hgood, hlisted⟩ := h.2 data hhead
    simp only [hgood, Bool.false_eq_true, if_false]
    cases hfind : findExistingNode data report.tokenId with
    | some node =>
      have hcounted := (hlisted.correct node (List.mem_of_find?_eq_some hfind)).counted
      have ht : node.tokenId = report.tokenId := by simpa using List.find?_some hfind
      dsimp only
      unfold updateInfoInCurrNode
      split
      · exact ⟨_, _, rfl, h, fun _ _ => hhead⟩
      rename_i node' hpre
      obtain ⟨hnew, htoken, hstatus⟩ := dataPreProcess_counted hpre hcounted fun hrep => by
        subst hrep
        exact hok.2.2 data hhead node hfind _
      refine ⟨_, _, rfl, ⟨nofun, fun data' hdata => ?_⟩, fun _ hwithout => ?_⟩
      · cases hdata
        rw [ht]
        exact ⟨hgood, hlisted.update hS hfind hnew htoken hstatus⟩
      · rw [hwithout data hhead] at hfind
        cases hfind
    | none =>
      dsimp only
      split
      · exact ⟨_, _, rfl, h, fun _ _ => hhead⟩
      obtain rfl : optType = .eventReported := by cases optType <;> simp_all
      have hwithout : m.Without report.tokenId := fun data' hdata => by
        obtain rfl : data = data' := Option.mem_unique hhead hdata
        exact hfind
      unfold addNewAppInfoNode
      split
      · exact ⟨_, _, rfl, h, fun _ _ => hhead⟩
      rename_i halloc
      simp only [Bool.not_eq_false, Bool.and_eq_true] at halloc
      obtain ⟨hcopy, hstamp⟩ := hok.2.1 hwithout halloc.1 halloc.2
      rw [if_neg (by simp [hcopy]), hstamp]
      refine ⟨_, _, rfl, ⟨nofun, fun data' hdata => ?_⟩, fun hres => absurd rfl hres⟩
      cases hdata
      refine ⟨hgood, hlisted.add hS hfind ?_ rfl hok.1⟩
      exact (@dataPreProcess_counted true _ _ _ _ .eventReported rfl counted_init
        (fun _ => by simp [appRiskInfoNodeInit])).1

theorem Model.Consistent.step (hS : S.card ≤ maxRiskAppCount) (h : m.Consistent S) {op : Op}
    (hok : KeepsConsistent S m op) : (step m op).Consistent S := by
  cases op with
  | init api mallocOk =>
    simp only [CodeSignature.step, init]
    split_ifs
    · exact h
    · exact h
    · exact h
    rename_i hnone _
    have hcount := h.1 (by simpa using hnone)
    refine ⟨nofun, fun data hdata => ?_⟩
    cases hdata
    exact ⟨rfl, List.nodup_nil, by simp, by simpa using hcount, by simp⟩
  | release =>
    simp only [CodeSignature.step, release]
    cases hhead : m.modelDataHead with
    | none => exact h
    | some data =>
      simp only [(h.2 data hhead).1, Bool.false_eq_true, if_false]
      exact ⟨fun _ => rfl, fun _ hdata => by cases hdata⟩
  | subscribeResult =>
    simp only [CodeSignature.step, subscribeResult]
    split_ifs <;> exact h
  | dataProcess =>
    obtain ⟨res, m', heq, hm', -⟩ := dataProcess_consistent hS h hok
    simp only [CodeSignature.step, heq]
    exact hm'

/-- **The risk model is consistent**: in every run whose reports meet `KeepsConsistent`, about at most
`MAX_RISK_APP_COUNT` applications, the nodes are right and counted, `GetResult` returns the risky ones, and a report
that fails for an application without a node leaves the list as it was. -/
theorem risk_model_consistent (hS : S.card ≤ maxRiskAppCount) (hrun : Reaches step (KeepsConsistent S) initial m) :
    (∀ data, m.modelDataHead = some data → data.dangling = false ∧ (data.nodes.map AppRiskInfo.tokenId).Nodup ∧
      (∀ n ∈ data.nodes, n.Correct) ∧ m.riskAppCount = data.nodes.countP AppRiskInfo.risky ∧
      ∀ resultLen ≥ m.riskAppCount * sizeOfResult, getResult true resultLen m =
        some (.ok ((data.nodes.filter AppRiskInfo.risky).map setResultInfoAccordingToNode))) ∧
    ∀ env report optType, KeepsConsistent S m (.dataProcess env report optType) →
      ∃ res m', dataProcess env report optType m = some (res, m') ∧
        (res ≠ .ok () → m.Without report.tokenId → m'.modelDataHead = m.modelDataHead) := by
  have hstep : ∀ (m : Model) op, m.Consistent S → KeepsConsistent S m op → (step m op).Consistent S :=
    fun _ _ h hok => h.step hS hok
  have h : m.Consistent S := hrun.invariant hstep ⟨fun _ => rfl, fun _ hdata => by cases hdata⟩
  refine ⟨fun data hdata => ?_, fun env report optType hok => ?_⟩
  · obtain ⟨hgood, hlisted⟩ := h.2 data hdata
    refine ⟨hgood, hlisted.tokens, hlisted.correct, hlisted.count, fun resultLen hlen => ?_⟩
    unfold getResult
    rw [hdata]
    dsimp only
    rw [if_neg (by omega)]
    split
    · rename_i hzero
      have hnone : data.nodes.countP AppRiskInfo.risky = 0 := by
        rw [← hlisted.count]
        exact (Nat.mul_eq_zero.1 hzero).resolve_right (by decide)
      rw [List.filter_eq_nil_iff.2 (List.countP_eq_zero.1 hnone)]
      rfl
    · rw [if_neg (by decide), hgood, if_neg Bool.false_ne_true, hlisted.count, collectResults_eq]
  · obtain ⟨res, m', heq, -, hkept⟩ := dataProcess_consistent hS h hok
    exact ⟨res, m', heq, hkept⟩

def sampleReport : ReportedInfo := ⟨1, 0, 5⟩

theorem failed_copy_leaves_freed_node :
    ∃ m', dataProcess { allSucceed with copy := false } sampleReport .eventReported (step initial (.init true true)) =
        some (.error .copyFailed, m') ∧
      (step initial (.init true true)).Without sampleReport.tokenId ∧
      m'.modelDataHead ≠ (step initial (.init true true)).modelDataHead ∧
      dataProcess allSucceed sampleReport .eventReported m' = none :=
  ⟨⟨some ⟨[], true⟩, 0, false⟩, by decide⟩

instance (S : Finset AccessTokenID) (m : Model) : ∀ op, Decidable (KeepsConsistent S m op)
  | .dataProcess _ report .eventReported =>
    have : Decidable (∀ data ∈ m.modelDataHead, ∀ node ∈ findExistingNode data report.tokenId,
        ∀ i, (node.errInfoList i).timeStamps.length < 2 ^ 31 - 1) :=
      have := fun data => Option.decidableForallMem (p := fun node : AppRiskInfo =>
        ∀ i, (node.errInfoList i).timeStamps.length < 2 ^ 31 - 1) (findExistingNode data report.tokenId)
      Option.decidableForallMem _
    inferInstanceAs (Decidable (_ ∧ _ ∧ _))
  | .dataProcess _ _ .outOfStorageLife | .dataProcess _ _ .dataChangeTypeBuff | .init .. | .release
  | .subscribeResult .. => .isTrue trivial

/-- An application with an error of every type, one with a single error, and a third whose node could not be
allocated. -/
def threeReported : List Op :=
  .init true true :: (List.range 5).map (fun i => .dataProcess allSucceed ⟨1, i, i⟩ .eventReported) ++
    [.dataProcess allSucceed ⟨2, 0, 5⟩ .eventReported,
      .dataProcess { allSucceed with chains := false } ⟨3, 0, 6⟩ .eventReported]

theorem risk_model_consistent_three_reported :
    let m := threeReported.foldl step initial
    getResult true 16 m = some (.ok [⟨10110150100, .logReport, 1⟩]) ∧
      ∃ m', dataProcess { allSucceed with node := false } ⟨3, 0, 7⟩ .eventReported m =
        some (.error .memoryOperFailed, m') ∧ m'.modelDataHead = m.modelDataHead := by
  intro m
  have hboth := risk_model_consistent (S := {1, 2, 3}) (m := m) (by decide)
    (Lib.reaches_foldl _ _ (by decide +kernel))
  obtain ⟨-, -, -, -, hresult⟩ := hboth.1 (m.modelDataHead.getD ⟨[], true⟩) (by decide +kernel)
  obtain ⟨res, m', heq, hkept⟩ := hboth.2 { allSucceed with node := false } ⟨3, 0, 7⟩ .eventReported (by decide +kernel)
  have hres : some res = some (.error .memoryOperFailed) :=
    (congrArg (Option.map Prod.fst) heq).symm.trans (by decide +kernel)
  cases hres
  exact ⟨(hresult 16 (by decide +kernel)).trans (by decide +kernel), m', heq, hkept nofun (by decide +kernel)⟩

/-! ## Expiry -/

def chainOf (m : Model) (t : AccessTokenID) (i : Fin errorTypeSize) : List Int :=
  ((m.modelDataHead.bind (findExistingNode · t)).map fun node => (node.errInfoList i).timeStamps).getD []

abbrev Held := AccessTokenID → Fin errorTypeSize → List Int

def chainStep (optType : DataChangeTypeCode) (time : Int) (chain : List Int) : List Int :=
  match optType with
  | .eventReported => time :: chain
  | .outOfStorageLife => chain.filter (time < ·)
  | .dataChangeTypeBuff => chain

/-- The token and the error type a report is about, if `DataProcess` takes it. -/
def ReportedInfo.About (r : ReportedInfo) (t : AccessTokenID) (i : Fin errorTypeSize) : Prop :=
  r.tokenId ≠ invalidTokenId ∧ r.tokenId = t ∧ r.errorType = i
deriving Decidable

def heldStep (held : Held) (op : ReportedInfo × DataChangeTypeCode) : Held := fun t i =>
  if op.1.About t i then chainStep op.2 op.1.timeStampMs (held t i) else held t i

def expiryStep (s : Model × Held) (op : ReportedInfo × DataChangeTypeCode) : Model × Held :=
  (step s.1 (.dataProcess allSucceed op.1 op.2), heldStep s.2 op)

def InOrder (s : Model × Held) (op : ReportedInfo × DataChangeTypeCode) : Prop :=
  op.2 = .eventReported → ∀ i, i.val = op.1.errorType → ∀ time ∈ s.2 op.1.tokenId i, time ≤ op.1.timeStampMs
deriving Decidable

/-- What `DataPreProcess` makes of one chain. -/
def processedChain (optType : DataChangeTypeCode) (time : Int) (chain : List Int) : List Int :=
  match optType with
  | .outOfStorageLife => chain.takeWhile (time < ·)
  | _ => chainStep optType time chain

theorem dataPreProcess_chain (i : Fin errorTypeSize) (time : Int) (node : AppRiskInfo) (optType : DataChangeTypeCode) :
    ∃ node', dataPreProcess true i time node optType = .ok node' ∧ node'.tokenId = node.tokenId ∧
      ∀ j, (node'.errInfoList j).timeStamps =
        if j = i then processedChain optType time (node.errInfoList j).timeStamps
        else (node.errInfoList j).timeStamps := by
  cases optType with
  | eventReported | outOfStorageLife =>
    refine ⟨_, rfl, rfl, fun j => ?_⟩
    unfold AppRiskInfo.setChain
    by_cases hj : j = i
    · subst hj
      simp [processedChain, chainStep]
    · simp [hj]
  | dataChangeTypeBuff =>
    refine ⟨_, rfl, rfl, fun j => ?_⟩
    simp [processedChain, chainStep]

/-- **What a report or an expiry does to every chain.** -/
theorem chainOf_dataProcess {data : ModelData} (hhead : m.modelDataHead = some data) (hgood : data.dangling = false)
    (r : ReportedInfo) (optType : DataChangeTypeCode) :
    ∃ data', (step m (.dataProcess allSucceed r optType)).modelDataHead = some data' ∧ data'.dangling = false ∧
      ∀ t i, chainOf (step m (.dataProcess allSucceed r optType)) t i =
        if r.About t i then processedChain optType r.timeStampMs (chainOf m t i) else chainOf m t i := by
  have hsame : (∀ t i, r.About t i → processedChain optType r.timeStampMs (chainOf m t i) = chainOf m t i) →
      ∀ t i, chainOf m t i = if r.About t i then processedChain optType r.timeStampMs (chainOf m t i)
      else chainOf m t i := by
    intro h t i
    split
    · rename_i habout
      exact (h t i habout).symm
    · rfl
  simp only [CodeSignature.step, dataProcess]
  split
  · rename_i hid
    exact ⟨data, hhead, hgood, hsame fun t i habout => absurd hid habout.1⟩
  rename_i hid
  split
  swap
  · rename_i htype
    exact ⟨data, hhead, hgood, hsame fun t i habout => absurd (habout.2.2 ▸ i.isLt) htype⟩
  rename_i htype
  split
  · rename_i hbuff
    subst hbuff
    exact ⟨data, hhead, hgood, hsame fun _ _ _ => rfl⟩
  simp only [hhead, hgood, Bool.false_eq_true, if_false]
  have hchain : ∀ {data : ModelData} {count : Nat} {l : Bool} {t i},
      chainOf ⟨some data, count, l⟩ t i =
      ((findExistingNode data t).map fun n => (n.errInfoList i).timeStamps).getD [] := rfl
  have hold : ∀ t i, chainOf m t i = ((findExistingNode data t).map fun n => (n.errInfoList i).timeStamps).getD [] := by
    intro t i
    unfold chainOf
    rw [hhead]
    rfl
  have hidx : ∀ t (i : Fin errorTypeSize), r.About t i ↔ r.tokenId = t ∧ i = ⟨r.errorType, htype⟩ := fun t i =>
    ⟨fun h => ⟨h.2.1, Fin.ext h.2.2.symm⟩, fun h => ⟨hid, h.1, by rw [h.2]⟩⟩
  cases hfind : findExistingNode data r.tokenId with
  | some node =>
    obtain ⟨node', hpre, htoken, hnew⟩ := dataPreProcess_chain ⟨r.errorType, htype⟩ r.timeStampMs node optType
    have ht : node.tokenId = r.tokenId := by simpa using List.find?_some hfind
    simp only [updateInfoInCurrNode, allSucceed, hpre, Option.map_some, Option.getD_some]
    refine ⟨_, rfl, hgood, fun t i => ?_⟩
    rw [hchain, hold]
    simp only [hidx]
    unfold findExistingNode at hfind ⊢
    by_cases htt : r.tokenId = t
    · subst htt
      rw [ht, Lib.find?_modifyFirst (fun _ _ => by simp [isRiskStatusChanged, htoken, ht]), hfind]
      simpa [isRiskStatusChanged] using hnew i
    · rw [if_neg (fun h => htt h.1), Lib.find?_modifyFirst_of_ne fun a ha => ?_]
      have ha : a.tokenId = r.tokenId := by simpa [ht] using ha
      simp [isRiskStatusChanged, htoken, ht, ha, htt]
  | none =>
    simp only
    split
    · rename_i hlife
      subst hlife
      refine ⟨data, hhead, hgood, hsame fun t i habout => ?_⟩
      rw [hold, ← habout.2.1, hfind]
      rfl
    obtain rfl : optType = .eventReported := by cases optType <;> simp_all
    obtain ⟨node', hpre, htoken, hnew⟩ :=
      dataPreProcess_chain ⟨r.errorType, htype⟩ r.timeStampMs (appRiskInfoNodeInit r.tokenId) .eventReported
    have ht : node'.tokenId = r.tokenId := htoken
    simp only [addNewAppInfoNode, allSucceed, hpre, Option.map_some, Option.getD_some, Bool.and_self,
      Bool.true_eq_false, if_false]
    refine ⟨_, rfl, hgood, fun t i => ?_⟩
    rw [hchain, hold]
    simp only [hidx]
    unfold findExistingNode at hfind ⊢
    by_cases htt : r.tokenId = t
    · subst htt
      rw [hfind]
      simpa [isRiskStatusChanged, ht, appRiskInfoNodeInit] using hnew i
    · rw [if_neg (fun h => htt h.1), List.find?_cons_of_neg (by simp [isRiskStatusChanged, ht, htt])]

/-- In a chain with the newest report first, the cut at the first old report drops the old ones. -/
theorem takeWhile_eq_filter (time : Int) : ∀ {l : List Int}, l.Pairwise (· ≥ ·) →
    l.takeWhile (time < ·) = l.filter (time < ·)
  | [], _ => rfl
  | a :: l, h => by
    obtain ⟨ha, hl⟩ := List.pairwise_cons.1 h
    by_cases hlt : time < a
    · simp [hlt, takeWhile_eq_filter time hl]
    have hnone : l.filter (time < ·) = [] := by
      apply List.filter_eq_nil_iff.2
      intro b hb
      have := ha b hb
      simp
      omega
    simp [hlt, hnone]

/-- The model is there, it holds what it is to hold, and each chain has its newest report first. -/
structure Holding (s : Model × Held) : Prop where
  head : ∃ data, s.1.modelDataHead = some data ∧ data.dangling = false
  chains : ∀ t i, chainOf s.1 t i = s.2 t i
  ordered : ∀ t i, (s.2 t i).Pairwise (· ≥ ·)

theorem Holding.step {s : Model × Held} (h : Holding s) {op : ReportedInfo × DataChangeTypeCode} (hok : InOrder s op) :
    Holding (expiryStep s op) := by
  obtain ⟨data, hhead, hgood⟩ := h.head
  obtain ⟨data', hhead', hgood', hchain⟩ := chainOf_dataProcess hhead hgood op.1 op.2
  refine ⟨⟨data', hhead', hgood'⟩, fun t i => ?_, fun t i => ?_⟩
  · unfold expiryStep heldStep
    dsimp only
    rw [hchain, h.chains]
    unfold processedChain
    split
    · split
      · rename_i hlife
        rw [hlife, takeWhile_eq_filter _ (h.ordered t i), chainStep]
      · rfl
    · rfl
  · unfold expiryStep heldStep
    dsimp only
    split
    · rename_i habout
      cases hopt : op.2 with
      | eventReported =>
        refine List.pairwise_cons.2 ⟨fun time htime => hok hopt i habout.2.2.symm time ?_, h.ordered t i⟩
        rw [habout.2.1]
        exact htime
      | outOfStorageLife => exact (h.ordered t i).filter _
      | dataChangeTypeBuff => exact h.ordered t i
    · exact h.ordered t i

/-- **Expiry removes exactly the expired reports**, in every run whose reports arrive in order: the chain it is about
keeps the newer reports that were held, and every other chain is as it was. -/
theorem expiry_removes_expired {m₀ : Model} (h₀ : m₀.modelDataHead = some ⟨[], false⟩) {s : Model × Held}
    (hrun : Reaches expiryStep InOrder (m₀, fun _ _ => []) s) (r : ReportedInfo) (t : AccessTokenID)
    (i : Fin errorTypeSize) :
    chainOf (step s.1 (.dataProcess allSucceed r .outOfStorageLife)) t i =
      if r.About t i then (s.2 t i).filter (r.timeStampMs < ·) else s.2 t i := by
  have hstep : ∀ (s : Model × Held) op, Holding s → InOrder s op → Holding (expiryStep s op) :=
    fun _ _ h hok => h.step hok
  have hinit : Holding (m₀, fun _ _ => []) := by
    refine ⟨⟨_, h₀, rfl⟩, fun t i => ?_, fun _ _ => List.Pairwise.nil⟩
    unfold chainOf
    rw [h₀]
    rfl
  have hheld := hrun.invariant hstep hinit
  have horder : InOrder s (r, .outOfStorageLife) := nofun
  exact (hheld.step horder).chains t i

theorem late_report_expired_too :
    chainOf ([(⟨1, 0, 9⟩, .eventReported), (⟨1, 0, 5⟩, .eventReported), (⟨1, 0, 7⟩, .outOfStorageLife)].foldl expiryStep
      (step initial (.init true true), fun _ _ => [])).1 1 0 = [] ∧
    ([(⟨1, 0, 9⟩, .eventReported), (⟨1, 0, 5⟩, .eventReported), (⟨1, 0, 7⟩, .outOfStorageLife)].foldl expiryStep
      (step initial (.init true true), fun _ _ => [])).2 1 0 = [9] := by
  decide

theorem expiry_keeps_newer :
    chainOf (step ([(⟨1, 0, 5⟩, .eventReported), (⟨1, 0, 9⟩, .eventReported)].foldl expiryStep
      (step initial (.init true true), fun _ _ => [])).1
      (.dataProcess allSucceed ⟨1, 0, 7⟩ .outOfStorageLife)) 1 0 = [9] := by
  have hmeet : Lib.AllMeet expiryStep InOrder (step initial (.init true true), fun _ _ => [])
      [(⟨1, 0, 5⟩, .eventReported), (⟨1, 0, 9⟩, .eventReported)] := by decide
  exact expiry_removes_expired rfl (Lib.reaches_foldl _ _ hmeet) ⟨1, 0, 7⟩ 1 0

end AccessToken.CodeSignature
