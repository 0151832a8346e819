import AccessToken.Service.Notifications
import AccessToken.Service.KernelMirror
import AccessToken.Service.Run
/-!
# The permission callbacks

Each operation decides on its own whether to call the subscribers: a grant or revoke when it writes the kernel bit, a
policy refresh from the stored status, a reset from the granted lists before and after, a removal from the granted list.
`View` is what a subscriber of one permission of one token makes of the callbacks.
-/
namespace AccessToken.Service

open Lib (hasAny Reaches Always)
open PermissionDataBrief UserPolicyManager

section Notes

variable (T : PermissionTable) (D : DlpPermissionModeMap) (w : Service)

/-! ## Grants and revokes -/

variable (env : Env)

def updateTokenPermissionStateNotes (id : AccessTokenID) (permission : String) (isGranted : Bool)
    (flag : Flag) : List Notification :=
  match getHapTokenInfoInner T w env.findOk id with
  | (none, _) => []
  | (some inner, w) =>
    match updateTokenPermissionStateCheck D env inner permission isGranted flag with
    | .error _ => []
    | .ok () =>
      match (updateAndNotify T w env inner permission isGranted flag).1 with
      | .error _ => []
      | .ok () => .paramFlagUpdate :: (updateNotes T w env inner permission isGranted flag ++ [.tokenModify id])

variable (tokenID : AccessTokenID)

def updatePermissionNotes (permissionName : String) (isGranted : Bool)
    (flag : Flag) : List Notification :=
  updateTokenPermissionStateNotes T D w env tokenID permissionName isGranted flag ++
    match updateTokenPermissionState T D w env tokenID permissionName isGranted flag with
    | (.error _, _) => []
    | (.ok (), w) =>
      Lib.traceFoldl (fun w id => (updateTokenPermissionState T D w env id permissionName isGranted flag).2)
        (fun w id => updateTokenPermissionStateNotes T D w env id permissionName isGranted flag) w
        (w.getRelatedSandBoxHapList tokenID)

def checkAndUpdatePermissionInnerNotes (permissionName : String) (isGranted : Bool)
    (flag : Flag) : List Notification :=
  match checkPermissionParams T permissionName flag with
  | .error _ => []
  | .ok () =>
    match getHapTokenInfo T w env tokenID with
    | (none, _) => []
    | (some _, w) => updatePermissionNotes T D w env tokenID permissionName isGranted flag

def changePermissionNotes (permissionName : String) (isGranted : Bool)
    (flag : Flag) (updateFlag : Int32) : List Notification :=
  match checkPermissionUpdateParam tokenID permissionName flag updateFlag with
  | .error _ => []
  | .ok () =>
    match env.caller with
    | .error _ => []
    | .ok () =>
      if decide (updateFlag < 1) && (T.getPermissionBriefDef permissionName).any (·.1.grantMode == .manualSettings) then
        []
      else checkAndUpdatePermissionInnerNotes T D w env tokenID permissionName isGranted flag

/-! ## The user policy -/

def updateRestrictedFlagAndRefreshKernelNotes (failingRows : TokenPerms) (tokenId : AccessTokenID)
    (permCode : Nat) (isRestricted isPersist : Bool) : List Notification :=
  match w.queryStoredPermissionStatusAndFlag tokenId permCode with
  | .error _ => []
  | .ok (originalStatus, originalFlag) =>
    match updateRestrictedFlag T w failingRows tokenId permCode isRestricted isPersist with
    | (.error _, _) => []
    | (.ok (), _) =>
      let isFlagChanged :=
        originalFlag != maskedFlag permissionRestrictedByAdmin isRestricted originalFlag
      let kernelStatusBefore := refreshedKernelStatus originalStatus (AccessToken.isRestricted originalFlag)
      let kernelStatusAfter := refreshedKernelStatus originalStatus isRestricted
      (if isFlagChanged then [.paramFlagUpdate] else []) ++
        (if kernelStatusBefore != kernelStatusAfter then
          [.stateChange tokenId (T.transferOpcodeToPermission permCode) kernelStatusAfter]
        else [])

def refreshHapVisitNotes (failingRows : TokenPerms) (st : Refreshing) (v : RefreshVisit) :
    List Notification :=
  updateRestrictedFlagAndRefreshKernelNotes T st.1 failingRows v.tokenId v.policy.permCode
    (isPermissionRestricted st.1.policy.records v.tokenId v.userId v.policy.permCode) v.policy.isPersist

def refreshToolVisitNotes (st : Refreshing) (v : RefreshVisit) : List Notification :=
  updateRestrictedFlagAndRefreshKernelNotes T st.1 [] v.tokenId v.policy.permCode
    (isPermissionRestricted st.1.policy.records v.tokenId v.userId v.policy.permCode) false

/-- What `RefreshUserPolicyPermState` sends; its rollback is silent. -/
def refreshUserPolicyPermStateNotes (changedPolicyList : List UserPolicyChange) : List Notification :=
  if changedPolicyList.isEmpty then []
  else
    Lib.traceUntil (refreshHapVisit T env.failingRows) (refreshHapVisitNotes T env.failingRows) (w, [])
        (refreshVisits (w.getTokenIDByUserID env.order) changedPolicyList) ++
      match refreshUserPolicyFlag T w env changedPolicyList with
      | (.error _, _) => []
      | (.ok (), (w, _)) =>
        Lib.traceUntil (refreshToolVisit T) (refreshToolVisitNotes T) (w, [])
          (refreshVisits (w.getToolTokenIDByUserID env.order) changedPolicyList)

def commitUserPolicyNotes
    (update : Except AccessTokenError (List UserPolicyChange) × Store) : List Notification :=
  match update with
  | (.error _, _) => []
  | (.ok changedPolicyList, policy) =>
    refreshUserPolicyPermStateNotes T { w with policy := policy } env changedPolicyList

def setUserPolicyNotes (userPermissionList : List UserPermissionPolicy) (callingToken : AccessTokenID) :
    List Notification :=
  match env.caller with
  | .error _ => []
  | .ok () =>
    if userPermissionList.isEmpty || decide (userPermissionList.length > maxSetUserPolicySize) then []
    else
      commitUserPolicyNotes T w env
        (UserPolicyManager.setUserPolicy T w.policy env.policyOk userPermissionList callingToken)

def clearUserPolicyNotes (permissionList : List String) (callingToken : AccessTokenID) : List Notification :=
  match env.caller with
  | .error _ => []
  | .ok () =>
    if permissionList.isEmpty then []
    else if !isListSizeValid permissionList.length then []
    else commitUserPolicyNotes T w env
      (UserPolicyManager.clearUserPolicy T w.policy env.policyOk permissionList callingToken)

def handlePolicyWhiteListUpdateNotes (policyContext : PolicyWhiteListUpdateInfo) : List Notification :=
  match UserPolicyManager.updatePolicyWhiteList T w.policy env.policyOk policyContext with
  | (.error _, _) => []
  | (.ok isPersist, policy) =>
    updateRestrictedFlagAndRefreshKernelNotes T { w with policy := policy } env.failingRows policyContext.tokenId
      policyContext.permCode (policyContext.type == .delete) isPersist

def updatePolicyWhiteListNotes (tokenId : AccessTokenID) (permCode : Nat) (type : Option UpdateWhiteListType)
    (callingToken : AccessTokenID) : List Notification :=
  match env.caller with
  | .error _ => []
  | .ok () =>
    match type with
    | none => []
    | some updateType =>
      if tokenId == invalidTokenId || w.getTokenIdType tokenId != .tokenHap then []
      else if (T.transferOpcodeToPermission permCode).isEmpty then []
      else
        match getHapTokenInfo T w env tokenId with
        | (none, _) => []
        | (some hapInfo, w) =>
          handlePolicyWhiteListUpdateNotes T w env ⟨tokenId, hapInfo.userID, permCode, updateType, callingToken⟩

/-! ## Resetting, removing, updating -/

def getGrantedPermList : List String :=
  (w.getGrantedPermCodeList tokenID).map T.transferOpcodeToPermission

/-- What `NotifyUpdatedPermList` sends. -/
def updatedPermListNotes (grantedPermListBefore grantedPermListAfter : List String) (tokenID : AccessTokenID) :
    List Notification :=
  (grantedPermListBefore.flatMap fun n =>
      if grantedPermListAfter.contains n then [] else .stateChange tokenID n false :: paramUpdate T n 0 true) ++
    grantedPermListAfter.flatMap fun n =>
      if grantedPermListBefore.contains n then [] else .stateChange tokenID n true :: paramUpdate T n 0 false

def clearUserGrantedPermissionNotes (id : AccessTokenID) : List Notification :=
  match getHapTokenInfoInner T w env.findOk id with
  | (none, _) => []
  | (some inner, w) =>
    if inner.isRemote then []
    else
      match resetUserGrantPermissionStatus T D w env inner with
      | (.error _, _) => []
      | (.ok (), w') => updatedPermListNotes T (w.getGrantedPermList T id) (w'.getGrantedPermList T id) id

def clearUserGrantedPermissionStateNotes : List Notification :=
  clearUserGrantedPermissionNotes T D w env tokenID ++
    match clearUserGrantedPermission T D w env tokenID with
    | (.error _, _) => []
    | (.ok (), w) =>
      Lib.traceFoldl (fun w id => (clearUserGrantedPermission T D w env id).2)
        (fun w id => clearUserGrantedPermissionNotes T D w env id) w (w.getRelatedSandBoxHapList tokenID)

/-- What `RemoveHapTokenInfo` sends; the object still holds the permission data then. -/
def removeHapTokenInfoNotes (id : AccessTokenID) (isTokenReserved : Bool) : List Notification :=
  if w.getTokenIdType id ≠ .tokenHap then []
  else
    match w.removeHapTokenInfoInner id isTokenReserved with
    | .error _ => []
    | .ok (_, w) =>
      let permissionList := w.getGrantedPermList T id
      (match permissionList with
        | [] => []
        | n :: _ => paramUpdate T n 0 true) ++
      permissionList.map (.stateChange id · false) ++ [.tokenDelete id]

def updateHapTokenNotes (info : UpdateHapInfoParams)
    (permStateList : List PermissionStatus) (hapPolicy : HapPolicy) : List Notification :=
  match (updateHapToken T w env tokenID info permStateList hapPolicy).1 with
  | .error _ => []
  | .ok () => [.tokenModify tokenID]

end Notes

variable {T : PermissionTable} {w w' : Service} {x t : AccessTokenID} {c : Nat}

/-! ## One subscriber -/

/-- What a subscriber of one permission of one token has been told last, and whether no call repeated what it knew. -/
structure View where
  seen : Bool
  clean : Bool
deriving DecidableEq

namespace View

def receive (t : AccessTokenID) (permName : String) (v : View) : Notification → View
  | .stateChange tokenID n isGranted =>
    if tokenID = t ∧ n = permName then ⟨isGranted, v.clean && v.seen != isGranted⟩ else v
  | _ => v

/-- One call if the status went from `before` to `after`, none if it stayed. -/
def follow (v : View) (before after : Bool) : View := if before = after then v else ⟨after, v.clean && v.seen != after⟩

@[simp] theorem follow_self (v : View) (b : Bool) : v.follow b b = v := if_pos rfl

variable {t : AccessTokenID} {n : String} {v : View} {g : Bool}

@[simp] theorem receive_paramFlagUpdate : v.receive t n .paramFlagUpdate = v := rfl

@[simp] theorem receive_tokenModify : v.receive t n (.tokenModify x) = v := rfl

@[simp] theorem receive_tokenDelete : v.receive t n (.tokenDelete x) = v := rfl

@[simp] theorem foldl_paramUpdate (v : View) (m : String) (fl : Flag) (filtered : Bool) :
    (paramUpdate T m fl filtered).foldl (receive t n) v = v := by
  unfold paramUpdate
  split <;> rfl

theorem receive_of_ne {m : String} (h : ¬(x = t ∧ m = n)) (g : Bool) :
    v.receive t n (.stateChange x m g) = v := if_neg h

theorem foldl_of_ne : ∀ (names : List String) (v : View), ¬(x = t ∧ n ∈ names) →
    (names.map fun m => Notification.stateChange x m g).foldl (receive t n) v = v
  | [], _, _ => rfl
  | m :: names, v, h => by
    have hm : ¬(x = t ∧ m = n) := fun hh => h ⟨hh.1, hh.2 ▸ List.mem_cons_self⟩
    rw [List.map_cons, List.foldl_cons, receive_of_ne hm g]
    exact foldl_of_ne names v fun hh => h ⟨hh.1, List.mem_cons_of_mem m hh.2⟩

theorem foldl_of_count_zero {names : List String} (h : names.count n = 0) :
    (names.map fun m => Notification.stateChange x m g).foldl (receive t n) v = v :=
  foldl_of_ne names v fun hh => List.count_eq_zero.1 h hh.2

theorem foldl_of_count_one : ∀ {names : List String} (v : View), names.count n = 1 →
    (names.map fun m => Notification.stateChange t m g).foldl (receive t n) v = ⟨g, v.clean && v.seen != g⟩
  | [], _, h => by cases h
  | m :: names, v, h => by
    rw [List.map_cons, List.foldl_cons]
    by_cases hmn : m = n
    · subst hmn
      rw [List.count_cons_self] at h
      rw [foldl_of_count_zero (Nat.succ.inj h)]
      exact if_pos ⟨rfl, rfl⟩
    · rw [List.count_cons_of_ne hmn] at h
      rw [receive_of_ne (fun hh => hmn hh.2) g]
      exact foldl_of_count_one v h

theorem foldl_flatMap {filtered : Bool} {fl : Flag} (p : String → Bool) : ∀ (names : List String) (v : View),
      (names.flatMap fun m =>
          if p m then [] else Notification.stateChange x m g :: paramUpdate T m fl filtered).foldl (receive t n) v =
        ((names.filter fun m => !p m).map fun m => Notification.stateChange x m g).foldl (receive t n) v
  | [], _ => rfl
  | m :: names, v => by
    rw [List.flatMap_cons, List.foldl_append, foldl_flatMap p names]
    cases hp : p m with
    | true => simp [hp]
    | false => simp [hp]

end View

def isGranted (w : Service) (t : AccessTokenID) (c : Nat) : Bool :=
  w.verifyPermissionStatus t c == permissionGranted

theorem isGranted_iff : w.isGranted t c = true ↔ w.verifyPermissionStatus t c = permissionGranted := beq_iff_eq

theorem isGranted_congr (h : w'.verifyPermissionStatus t c = permissionGranted ↔
    w.verifyPermissionStatus t c = permissionGranted) : w'.isGranted t c = w.isGranted t c := by
  rw [Bool.eq_iff_iff, isGranted_iff, isGranted_iff]
  exact h

variable {t : AccessTokenID} {c : Nat} {v : View} {n : String}

/-! ## The granted lists -/

def GrantsApart (b : PermissionDataBrief) (x : AccessTokenID) : Prop :=
  ∀ g ∈ b.secCompList, g.tokenId = x → b.entry x g.permCode = none
deriving Decidable

theorem GrantsApart.nodup (h : GrantsApart w.brief t) (hw : w.Sound T) : (w.getGrantedPermCodeList t).Nodup := by
  unfold getGrantedPermCodeList
  split
  · exact List.nodup_nil
  rename_i l hl
  have hlist : ((l.filter fun d => getEffectivePermissionStatus d == permissionGranted).map (·.permCode)).Nodup :=
    (hw.brief.lists t l hl).nodup.sublist (List.filter_sublist.map _)
  split
  · exact hlist
  refine List.nodup_append'.2 ⟨hlist, ?_, ?_⟩
  · refine List.Nodup.map_on ?_ (hw.brief.grantedNodup.filter _)
    intro g hg g' hg' hcode
    obtain ⟨p, x⟩ := g
    obtain ⟨p', x'⟩ := g'
    simp_all
  · intro e he he'
    obtain ⟨d, hd, rfl⟩ := List.mem_map.1 he
    obtain ⟨g, hg, hcode⟩ := List.mem_map.1 he'
    obtain ⟨hg, ht⟩ := List.mem_filter.1 hg
    have hnone := h g hg (by simpa using ht)
    rw [hcode, entry_of_mem hl (hw.brief.lists t l hl).nodup (List.mem_filter.1 hd).1] at hnone
    cases hnone

theorem GrantsApart.mem (h : GrantsApart w.brief t) (hw : w.Sound T) (hap : getTokenIdTypeEnum t = .tokenHap) :
    c ∈ w.getGrantedPermCodeList t ↔ w.isGranted t c = true := by
  rw [isGranted_iff]
  cases hl : w.requestedPermData[t]? with
  | none =>
    exact grantedListAgrees_of_not_mem
      (fun hmem => by rw [Std.ExtTreeMap.mem_iff_isSome_getElem?, hl] at hmem; cases hmem) c
  | some l =>
    have hinst : w.brief.Installable t l := by
      refine ⟨(hw.brief.lists t l hl).nodup, fun d hd hc => ?_⟩
      have hnone := h ⟨d.permCode, t⟩ hc rfl
      rw [entry_of_mem hl (hw.brief.lists t l hl).nodup hd] at hnone
      cases hnone
    exact hinst.grantedListAgrees hap hl c

/-- The name of a permission stands in the list of names as often as its code in the list of codes. -/
theorem count_getGrantedPermList (hc : c < T.permList.length) :
    (w.getGrantedPermList T t).count (T.transferOpcodeToPermission c) = (w.getGrantedPermCodeList t).count c := by
  unfold getGrantedPermList
  rw [List.count, List.countP_map, List.count]
  refine List.countP_congr fun c' _ => ?_
  simp only [Function.comp_apply, beq_iff_eq]
  exact ⟨PermissionTable.transferOpcode_inj hc, fun h => h ▸ rfl⟩

theorem GrantsApart.count (h : GrantsApart w.brief t) (hw : w.Sound T) (hap : getTokenIdTypeEnum t = .tokenHap)
    (hc : c < T.permList.length) :
    (w.getGrantedPermList T t).count (T.transferOpcodeToPermission c) = if w.isGranted t c then 1 else 0 := by
  rw [count_getGrantedPermList hc]
  split
  · rename_i hg
    exact List.count_eq_one_of_mem (h.nodup hw) ((h.mem hw hap).2 hg)
  · rename_i hg
    exact List.count_eq_zero.2 fun hmem => hg ((h.mem hw hap).1 hmem)

/-- A list that holds the name once or not at all, without the names of another such list. -/
theorem count_filter_not_contains {l l' : List String} {k k' : Bool} (h : l.count n = if k then 1 else 0)
    (h' : l'.count n = if k' then 1 else 0) :
    (l.filter fun m => !l'.contains m).count n = if k && !k' then 1 else 0 := by
  cases k' with
  | true =>
    have hin : n ∈ l' := List.count_pos_iff.1 (by rw [h']; exact Nat.one_pos)
    rw [Bool.not_true, Bool.and_false]
    refine List.count_eq_zero.2 fun hf => ?_
    simp [hin] at hf
  | false =>
    have hout : n ∉ l' := List.count_eq_zero.1 h'
    rw [List.count_filter (by simpa using hout), h, Bool.not_false, Bool.and_true]

theorem View.foldl_updatedPermListNotes {before after : List String} {b a : Bool}
    (hb : x = t → before.count n = if b then 1 else 0) (ha : x = t → after.count n = if a then 1 else 0) :
    (updatedPermListNotes T before after x).foldl (receive t n) v = if x = t then v.follow b a else v := by
  unfold updatedPermListNotes
  rw [List.foldl_append, foldl_flatMap, foldl_flatMap]
  by_cases hx : x = t
  · subst hx
    have hlost := count_filter_not_contains (hb rfl) (ha rfl)
    have hgained := count_filter_not_contains (ha rfl) (hb rfl)
    rw [if_pos rfl]
    cases b <;> cases a
    · rw [foldl_of_count_zero hlost, foldl_of_count_zero hgained, follow_self]
    · rw [foldl_of_count_zero hlost, foldl_of_count_one _ hgained]
      rfl
    · rw [foldl_of_count_one _ hlost, foldl_of_count_zero hgained]
      rfl
    · rw [foldl_of_count_zero hlost, foldl_of_count_zero hgained, follow_self]
  · rw [if_neg hx, foldl_of_ne _ _ fun hh => hx hh.1, foldl_of_ne _ _ fun hh => hx hh.1]

end AccessToken.Service
