import AccessToken.Service.PolicyFlags
/-!
# Runs of the service

A policy operation is made of lookups, flag writes, row writes, kernel writes and a new policy store, so what those
parts keep the operation keeps (`KeptByParts`).  `TokensSound`, what all operations keep of the tokens in memory, holds
in every run.
-/
namespace AccessToken.Service

open UserPolicyManager AccessTokenIDManager

open Lib (Reaches Always)

variable {T : PermissionTable} {D : DlpPermissionModeMap} {w w' : Service} {id : AccessTokenID} {db : Database}
    {dbOk : Bool}

/-! ## The parts of the policy operations -/

structure KeptByRefresh (T : PermissionTable) (Inv : Service → Prop) : Prop where
  flag : ∀ w t c r, Inv w → Inv { w with brief := (w.brief.updatePermissionFlag t c permissionRestrictedByAdmin r).2 }
  row : ∀ w t values s, Inv w → w.permissionStateValues T t = some values → s ∈ values →
    Inv { w with db := w.db.modifyPermissionState t s }
  kernel : ∀ w k, Inv w → Inv { w with kernel := k }

namespace KeptByRefresh

variable {Inv : Service → Prop} (h : KeptByRefresh T Inv) {failing : TokenPerms} {st : Refreshing}
    {v : RefreshVisit} {snapshot : UserPolicyRefreshSnapshot}
include h

theorem setPermToKernel (hw : Inv w) {t : AccessTokenID} {n : String} {b : Bool} : Inv (w.setPermToKernel T t n b) := by
  unfold Service.setPermToKernel
  split
  · exact hw
  · exact h.kernel _ _ hw

theorem updateRestrictedFlagToDb (hw : Inv w) (failing : TokenPerms) (t : AccessTokenID) (c : Nat) :
    Inv (updateRestrictedFlagToDb T w failing t c).2 := by
  unfold Service.updateRestrictedFlagToDb
  dsimp only
  split
  · exact hw
  rename_i values hvalues
  split
  · exact hw
  · rename_i s hs
    split
    · exact hw
    · exact h.row w t values s hw hvalues (List.mem_of_find?_eq_some hs)

theorem updateRestrictedFlag (hw : Inv w) (failing : TokenPerms) (t : AccessTokenID) (c : Nat)
    (r persist : Bool) : Inv (updateRestrictedFlag T w failing t c r persist).2 := by
  have hflag := h.flag w t c r hw
  unfold Service.updateRestrictedFlag
  generalize w.brief.updatePermissionFlag t c permissionRestrictedByAdmin r = res at hflag ⊢
  obtain ⟨ret, brief⟩ := res
  cases ret with
  | error => exact hflag
  | ok =>
    dsimp only
    split
    · exact hflag
    have hrow := h.updateRestrictedFlagToDb hflag failing t c
    generalize Service.updateRestrictedFlagToDb T { w with brief := brief } failing t c = res at hrow ⊢
    obtain ⟨ret, w₁⟩ := res
    cases ret with
    | ok => exact hrow
    | error => exact h.flag w₁ t c _ hrow

theorem updateRestrictedFlagAndRefreshKernel (hw : Inv w) (failing : TokenPerms) (t : AccessTokenID)
    (c : Nat) (r persist : Bool) :
    Inv (updateRestrictedFlagAndRefreshKernel T w failing t c r persist).2 := by
  have hflag := h.updateRestrictedFlag hw failing t c r persist
  unfold Service.updateRestrictedFlagAndRefreshKernel
  split
  · exact hw
  generalize Service.updateRestrictedFlag T w failing t c r persist = res at hflag ⊢
  obtain ⟨ret, w₁⟩ := res
  cases ret with
  | error => exact hflag
  | ok =>
    dsimp only
    split
    · exact h.setPermToKernel hflag
    · exact hflag

theorem refreshHapVisit (hw : Inv st.1) : Inv (refreshHapVisit T failing st v).2.1 := by
  obtain ⟨w, snapshots⟩ := st
  unfold refreshHapVisit
  dsimp only
  split
  · exact hw
  · exact hw
  · have hflag := h.updateRestrictedFlagAndRefreshKernel hw failing v.tokenId v.policy.permCode
      (isPermissionRestricted w.policy.records v.tokenId v.userId v.policy.permCode)
      v.policy.isPersist
    split <;> rename_i heq <;> rw [heq] at hflag <;> exact hflag

theorem refreshToolVisit (hw : Inv st.1) : Inv (refreshToolVisit T st v).2.1 := by
  obtain ⟨w, snapshots⟩ := st
  unfold refreshToolVisit
  dsimp only
  split
  · exact hw
  · exact hw
  have hflag := h.flag w v.tokenId v.policy.permCode
    (isPermissionRestricted w.policy.records v.tokenId v.userId v.policy.permCode) hw
  split <;> rename_i heq <;> rw [heq] at hflag
  · exact hflag
  · split
    · exact h.setPermToKernel hflag
    · exact hflag

theorem restoreRestrictedFlag (hw : Inv w) (snapshot : UserPolicyRefreshSnapshot) :
    Inv (w.restoreRestrictedFlag snapshot).2 := by
  unfold Service.restoreRestrictedFlag
  split
  · exact hw
  dsimp only
  split
  · exact hw
  · have hflag := h.flag w snapshot.tokenId snapshot.permCode (isRestricted snapshot.originalFlag) hw
    split <;> rename_i heq <;> rw [heq] at hflag <;> exact hflag

theorem rollbackHapSnapshot (hw : Inv w) : Inv (rollbackHapSnapshot T failing w snapshot) :=
  h.setPermToKernel (h.updateRestrictedFlagToDb (h.restoreRestrictedFlag hw snapshot) failing _ _)

theorem rollbackToolSnapshot (hw : Inv w) : Inv (rollbackToolSnapshot T w snapshot) := by
  have hflag := h.restoreRestrictedFlag hw snapshot
  unfold Service.rollbackToolSnapshot
  split <;> rename_i heq <;> rw [heq] at hflag
  · exact hflag
  · exact h.setPermToKernel hflag

theorem refreshUserPolicyPermState (hw : Inv w) (env : Env) (changes : List UserPolicyChange) :
    Inv (refreshUserPolicyPermState T w env changes).2 := by
  have hrollback : ∀ (w : Service) snapshots, Inv w → Inv (rollbackUserPolicyFlag T w env snapshots) :=
    fun w snapshots hw => List.foldlRecOn _ _ hw (fun w hw x _ => h.rollbackHapSnapshot hw)
  have htool : ∀ (w : Service) snapshots, Inv w → Inv (rollbackToolUserPolicyFlag T w snapshots) :=
    fun w snapshots hw => List.foldlRecOn _ _ hw (fun w hw x _ => h.rollbackToolSnapshot hw)
  unfold Service.refreshUserPolicyPermState
  split
  · exact hw
  let Kept : Refreshing → Prop := fun st => Inv st.1
  have hhap : Kept (refreshUserPolicyFlag T w env changes).2 :=
    Lib.forUntil_invariant _ (w, []) (fun st v _ hst => h.refreshHapVisit hst) hw
  generalize refreshUserPolicyFlag T w env changes = res at hhap ⊢
  obtain ⟨ret, w₁, snapshots⟩ := res
  cases ret with
  | error => exact hrollback w₁ snapshots hhap
  | ok _ =>
    have hafter : Kept (refreshToolUserPolicyFlag T w₁ env changes).2 :=
      Lib.forUntil_invariant _ (w₁, []) (fun st v _ hst => h.refreshToolVisit hst) hhap
    dsimp only
    generalize refreshToolUserPolicyFlag T w₁ env changes = res at hafter ⊢
    obtain ⟨ret, w₂, toolSnapshots⟩ := res
    cases ret with
    | error => exact hrollback _ snapshots (htool w₂ toolSnapshots hafter)
    | ok => exact hafter

end KeptByRefresh

structure KeptByParts (T : PermissionTable) (Inv : Service → Prop) : Prop extends KeptByRefresh T Inv where
  load : ∀ w findOk id, Inv w → Inv (getHapTokenInfoInner T w findOk id).2
  policy : ∀ w p, Inv w → Inv { w with policy := p }

namespace KeptByParts

variable {Inv : Service → Prop} (h : KeptByParts T Inv) {env : Env} {caller id : AccessTokenID}
include h

theorem commitUserPolicy (hw : Inv w)
    {update : Except AccessTokenError (List UserPolicyChange) × Store} :
    Inv (commitUserPolicy T w env update).2 := by
  obtain ⟨ret, policy⟩ := update
  cases ret with
  | error => exact h.policy w policy hw
  | ok changes => exact h.refreshUserPolicyPermState (h.policy w policy hw) env changes

theorem setUserPolicy (hw : Inv w) {list : List UserPermissionPolicy} :
    Inv (setUserPolicy T w env list caller).2 := by
  unfold Service.setUserPolicy
  split
  · exact hw
  · split
    · exact hw
    · exact h.commitUserPolicy hw

theorem clearUserPolicy (hw : Inv w) {list : List String} : Inv (clearUserPolicy T w env list caller).2 := by
  unfold Service.clearUserPolicy
  split
  · exact hw
  split
  · exact hw
  · split
    · exact hw
    · exact h.commitUserPolicy hw

theorem handlePolicyWhiteListUpdate (hw : Inv w) {context : PolicyWhiteListUpdateInfo} :
    Inv (handlePolicyWhiteListUpdate T w env context).2 := by
  unfold Service.handlePolicyWhiteListUpdate
  generalize UserPolicyManager.updatePolicyWhiteList T w.policy env.policyOk context = res
  obtain ⟨ret, policy⟩ := res
  cases ret with
  | error => exact h.policy w policy hw
  | ok persist =>
    have hflag := h.updateRestrictedFlagAndRefreshKernel (h.policy w policy hw) env.failingRows context.tokenId
      context.permCode (context.type == .delete) persist
    dsimp only
    split <;> rename_i heq <;> rw [heq] at hflag
    · exact h.policy _ _ hflag
    · exact hflag

theorem getHapTokenInfo (hw : Inv w) (env : Env) (id : AccessTokenID) : Inv (getHapTokenInfo T w env id).2 :=
  getHapTokenInfo_invariant Inv (fun w id => h.load w env.findOk id) hw id

theorem updatePolicyWhiteList (hw : Inv w) {c : Nat} {type : Option UpdateWhiteListType} :
    Inv (updatePolicyWhiteList T w env id c type caller).2 := by
  have hload := h.getHapTokenInfo hw env id
  unfold Service.updatePolicyWhiteList
  split
  · exact hw
  split
  · exact hw
  split
  · exact hw
  split
  · exact hw
  · split <;> rename_i heq <;> rw [heq] at hload
    · exact hload
    · exact h.handlePolicyWhiteListUpdate hload

end KeptByParts

/-! ## Invariants of all operations -/

/-- What the operations keep, with a grant or revoke as one call of `UpdateTokenPermissionState` under an accepted
flag. -/
structure KeptByOps (T : PermissionTable) (D : DlpPermissionModeMap) (Inv : Service → Prop) : Prop
    extends KeptByParts T Inv where
  create : ∀ w env info policy, Inv w → Inv (createHapTokenInfo T D w env info policy).2
  update : ∀ w env id info states policy, Inv w → Inv (updateHapToken T w env id info states policy).2
  remove : ∀ w dbOk id reserved, Inv w → Inv (w.removeHapTokenInfo dbOk false id reserved).2
  change : ∀ w env (t : AccessTokenID) inner n g fl, Inv w → w.hapTokenInfoMap[t]? = some inner →
    isPermissionFlagValid fl = true → Inv (updateAndNotify T w env inner n g fl).2
  clear : ∀ w env id, Inv w → Inv (clearUserGrantedPermission T D w env id).2
  clearSecComp : ∀ w, Inv w → Inv w.clearAllSecCompGrantedPerm

namespace KeptByOps

variable {Inv : Service → Prop} (h : KeptByOps T D Inv) {env : Env} {id : AccessTokenID}
include h

theorem changePermission (hw : Inv w) (env : Env) (id : AccessTokenID) (n : String) (g : Bool) (fl : Flag)
    (updateFlag : Int32) : Inv (changePermission T D w env id n g fl updateFlag).2 :=
  changePermission_invariant Inv (fun w id => h.load w env.findOk id)
    (fun hvalid w t inner n hw hget _ (_ : True) => h.change w env t inner n g fl hw hget hvalid) hw
    (updatePermissionMeets_of_forall T D env g fl (fun _ _ => trivial))

theorem setPermissionStatusWithPolicy (hw : Inv w) {perms : List String} {status : Int}
    {fl : Flag} : Inv (setPermissionStatusWithPolicy T D w env id perms status fl).2 :=
  setPermissionStatusWithPolicy_invariant Inv (fun w id => h.load w env.findOk id)
    (fun hadmin w t inner n hw hget _ (_ : True) =>
      h.change w env t inner n _ fl hw hget (isPermissionFlagValid_of_admin hadmin))
    hw (updateMultiMeets_of_forall T env _ fl (fun _ _ _ _ => trivial))

theorem clearUserGrantedPermissionState (hw : Inv w) : Inv (clearUserGrantedPermissionState T D w env id).2 :=
  clearUserGrantedPermissionState_keeps (fun w id => h.clear w env id) hw id

/-- **What every operation keeps holds after every step.** -/
theorem step (hw : Inv w) {op : ServiceOp} : Inv (serviceStep T D w op) := by
  cases op with
  | createHapTokenInfo env info policy => exact h.create w env info policy hw
  | updateHapToken env id info states policy => exact h.update w env id info states policy hw
  | removeHapTokenInfo env id reserved => exact h.remove w env.removeOk id reserved hw
  | getHapTokenInfo env id => exact h.getHapTokenInfo hw env id
  | grantPermission env id n fl updateFlag => exact h.changePermission hw env id n true fl updateFlag
  | revokePermission env id n fl updateFlag => exact h.changePermission hw env id n false fl updateFlag
  | setPermissionStatusWithPolicy =>
    exact h.setPermissionStatusWithPolicy hw
  | clearUserGrantedPermissionState => exact h.clearUserGrantedPermissionState hw
  | clearAllSecCompGrantedPerm => exact h.clearSecComp w hw
  | setUserPolicy => exact h.setUserPolicy hw
  | clearUserPolicy => exact h.clearUserPolicy hw
  | updatePolicyWhiteList => exact h.updatePolicyWhiteList hw

theorem of_reaches (hempty : Inv empty) (hrun : Reaches (serviceStep T D) Always empty w) : Inv w := by
  have hstep : ∀ w op, Inv w → Always w op → Inv (serviceStep T D w op) := fun w op hw _ => h.step hw
  exact hrun.invariant hstep hempty

end KeptByOps

/-! ## The tokens in memory -/

theorem keptByParts_tokensSound (T : PermissionTable) : KeptByParts T TokensSound where
  load := fun _ findOk id hw => hw.load findOk id
  flag := fun _ _ _ _ hw => hw.of_eq rfl rfl (fun _ => Iff.rfl) (fun _ => id)
  row := fun _ _ _ _ hw _ _ => hw.of_eq rfl rfl (fun _ => Iff.rfl) (fun _ => id)
  kernel := fun _ _ hw => hw.of_eq rfl rfl (fun _ => Iff.rfl) (fun _ => id)
  policy := fun _ _ hw => hw.of_eq rfl rfl (fun _ => Iff.rfl) (fun _ => id)

theorem TokensSound.updateAndNotify (h : w.TokensSound) (env : Env) (inner : HapTokenInfoInner) (n : String) (g : Bool)
    (fl : Flag) : (updateAndNotify T w env inner n g fl).2.TokensSound := by
  rcases updateAndNotify_cases T w env inner n g fl with ⟨e, heq⟩ | ⟨c, db, _, hrows, heq⟩
  · rw [heq]
    exact h
  · rw [heq]
    exact h.of_eq rfl rfl (fun _ => Iff.rfl) (fun t ht => hrows.hapTokenInfo ▸ ht)

theorem TokensSound.displaced (h : w.TokensSound) {t : AccessTokenID} (hnew : t ∉ w.hapTokenInfoMap)
    (hform : WellFormedId t .tokenHap) {info : HapInfoParams} {policy : HapPolicy}
    (hrow : ∀ x, x ∈ db.hapTokenInfo → x ∈ w.db.hapTokenInfo ∨ x = t) {removeOk : Bool}
    (hd : Displaced (Service.registered T D w t info policy db) removeOk (.ofParams t info) w') : w'.TokensSound := by
  have hinstalled := h.installed (T := T) (D := D) hnew hform info policy hrow
  cases hd with
  | keyFree => exact hinstalled
  | kept => exact hinstalled
  | removed o old _ _ hold hr => exact hinstalled.removed hold hr

theorem hapRow_of_stored {info : HapTokenInfoInner} {isUpdate : Bool}
    (hok : addHapTokenInfoToDb T w dbOk info isUpdate = (.ok (), { w with db := db })) {x : AccessTokenID}
    (hx : x ∈ db.hapTokenInfo) : x ∈ w.db.hapTokenInfo ∨ x = info.tokenID := by
  obtain ⟨-, hhap⟩ := rows_of_stored hok
  obtain ⟨row, hrow⟩ := Lib.mem_iff_exists.1 hx
  exact (hhap x row hrow).imp (mem_of_getElem?) And.left

theorem TokensSound.createHapTokenInfo (h : w.TokensSound) (env : Env) (info : HapInfoParams) (policy : HapPolicy) :
    (createHapTokenInfo T D w env info policy).2.TokensSound := by
  rcases createHapTokenInfo_cases T D w env info policy with ⟨e, heq⟩ | ⟨t, hform, hknown, hrest⟩
  · rw [heq]
    exact h
  have hset : t ∉ w.tokenIdSet := fun hmem => hknown (.inl hmem)
  have hnew : t ∉ w.hapTokenInfoMap := fun hmem => hset (h.registered t hmem hform)
  rcases hrest with ⟨e, db, hdb, heq⟩ | ⟨db, w₁, r, m, _, hok, hdisp, hm, heq⟩
  · rw [heq]
    obtain rfl : db = w.db := hdb.resolve_right hnew
    refine h.of_eq rfl rfl (fun x => ?_) (fun _ => id)
    -- the id that was taken is given back
    show x ∈ ((w.idManager.addToSet t .active).releaseTokenId t).tokenIdSet ↔ _
    simp only [mem_releaseTokenId, addToSet, Lib.mem_set_insert]
    refine ⟨fun hx => hx.2.resolve_left hx.1, fun hx => ⟨?_, .inr hx⟩⟩
    rintro rfl
    exact hset hx
  · have hw₁ := h.displaced hnew hform (fun x => hapRow_of_stored hok) hdisp
    have hids : ∀ x, x ∈ m.tokenIdSet ↔ x ∈ w₁.tokenIdSet := fun x => by rw [hm]
    rw [heq]
    split <;> exact hw₁.of_eq rfl rfl hids (fun _ => id)

theorem TokensSound.updateHapToken (h : w.TokensSound) (env : Env) (id : AccessTokenID) (info : UpdateHapInfoParams)
    (states : List PermissionStatus) (policy : HapPolicy) :
    (updateHapToken T w env id info states policy).2.TokensSound := by
  have hload : (getHapTokenInfoInner T w env.findOk id).2.TokensSound := h.load env.findOk id
  rcases updateHapToken_cases T w env id info states policy with ⟨e, heq⟩ | ⟨e, heq⟩ |
    ⟨inner, _, hget, _, _, rfl, ⟨e, _, heq⟩ | ⟨db, hok, heq⟩⟩
  · rw [heq]
    exact h
  · rw [heq]
    exact hload
  · rw [heq]
    exact hload.updatedFrom hget info states policy
  have hupd := hload.updatedFrom (T := T) hget info states policy
  rw [heq]
  refine { hupd with rowId := fun x hx => ?_ }
  rcases hapRow_of_stored hok hx with hold | rfl
  · exact hupd.rowId x hold
  · refine hupd.hapId _ ((mem_updatedFrom hget info states policy _).2 ?_)
    have hid : (updatedInner inner info).tokenID = id := hload.keyed id inner hget
    rw [hid]
    exact mem_of_getElem? hget

theorem TokensSound.removeHapTokenInfo (h : w.TokensSound) {held reserved : Bool} :
    (w.removeHapTokenInfo dbOk held id reserved).2.TokensSound := by
  rcases removeHapTokenInfo_cases w dbOk held id reserved with ⟨_, e, heq⟩ | ⟨info, w', hget, _, heq, hr⟩
  · rw [heq]
    exact h
  · rw [heq]
    exact h.removed hget hr

theorem TokensSound.clearUserGrantedPermission (h : w.TokensSound) (env : Env) (id : AccessTokenID) :
    (clearUserGrantedPermission T D w env id).2.TokensSound := by
  have hload : (getHapTokenInfoInner T w env.findOk id).2.TokensSound := h.load env.findOk id
  obtain ⟨w₁, hw₁, heq | ⟨inner, db, k, -, -, hrows, -, heq⟩⟩ := clearUserGrantedPermission_cases T D w env id
  all_goals rw [hw₁] at hload; rw [heq]
  · exact hload
  · exact hload.of_eq rfl rfl (fun _ => Iff.rfl) (fun t ht => hrows.hapTokenInfo ▸ ht)

theorem keptByOps_tokensSound (T : PermissionTable) (D : DlpPermissionModeMap) : KeptByOps T D TokensSound where
  toKeptByParts := keptByParts_tokensSound T
  create _ env info policy hw := hw.createHapTokenInfo env info policy
  update _ env id info states policy hw := hw.updateHapToken env id info states policy
  remove _ _ _ _ hw := hw.removeHapTokenInfo
  change _ env _ inner n g fl hw _ _ := hw.updateAndNotify env inner n g fl
  clear _ env id hw := hw.clearUserGrantedPermission env id
  clearSecComp _ hw := hw.of_eq rfl rfl (fun _ => Iff.rfl) (fun _ => id)

theorem tokensSound_of_reaches (hrun : Reaches (serviceStep T D) Always empty w) : w.TokensSound :=
  (keptByOps_tokensSound T D).of_reaches (sound_empty (T := T)).toTokensSound hrun

end AccessToken.Service
