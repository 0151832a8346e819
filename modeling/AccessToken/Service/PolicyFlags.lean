import AccessToken.Service.RestrictedFlag
import AccessToken.UserPolicy.Changes
/-!
# The restricted bits and the policy records

That the user policy cuts a token off from a permission is stored twice: in the policy records, and as a bit in the flag
of every permission the tokens request.  `FollowsPolicy` is the agreement of the two at one permission of one token;
`KeepsFlags` says when a step keeps it everywhere.
-/
namespace AccessToken

open Std.ExtTreeMap (getElem?_eq_some_getElem getElem?_insert_self mem_iff_isSome_getElem?)
open PermissionDataBrief
namespace Service

open Lib (hasAny Reaches Always getElem?_insert mem_insert)
open UserPolicyManager

variable {T : PermissionTable} {D : DlpPermissionModeMap} {w w' : Service} {b b' : PermissionDataBrief}

/-- **The restricted bit of the permission is what the policy records say about the user of the token.** -/
def FollowsPolicy (w : Service) (t : AccessTokenID) (c : Nat) : Prop :=
  ∀ info d, w.hapTokenInfoMap[t]? = some info → w.entry t c = some d →
    isRestricted d.flag = isPermissionRestricted w.policy.records t info.userID c

/-- The tokens of a service that has not been restarted: every token with a row is in memory, every token in memory has
its permission data, there are no tool tokens, and the policy table is up to date. -/
structure Resident (T : PermissionTable) (w : Service) : Prop extends Sound T w where
  rowsLive : ∀ (t : AccessTokenID) row, w.db.hapTokenInfo[t]? = some row → ∃ info, w.hapTokenInfoMap[t]? = some info ∧
    info.userID = row.userID
  hasData : ∀ t, t ∈ w.hapTokenInfoMap → t ∈ w.requestedPermData
  noTools : w.toolTokenInfoMap = ∅
  synced : Synced T w.policy

structure Flagged (T : PermissionTable) (w : Service) : Prop extends Resident T w where
  follows : ∀ t c, w.FollowsPolicy t c

theorem resident_empty : empty.Resident T :=
  { sound_empty with
    rowsLive := by simp [empty, Database.empty]
    hasData := by simp [empty]
    noTools := rfl
    synced := synced_empty }

theorem flagged_empty : empty.Flagged T :=
  { resident_empty with follows := fun t c info d hinfo _ => by simp [empty] at hinfo }

/-! ## What keeps the agreement -/

/-- Every entry of `b'` has the restricted bit the entry of `b` under its token and code has. -/
def SameBits (b b' : PermissionDataBrief) : Prop :=
  ∀ t c d', b'.entry t c = some d' → ∃ d, b.entry t c = some d ∧ isRestricted d'.flag = isRestricted d.flag

theorem sameBits_of_requested (h : b'.requestedPermData = b.requestedPermData) :
    SameBits b b' := fun t c d' hd' =>
  ⟨d', by rw [entry, ← h]; exact hd', rfl⟩

variable {t id caller : AccessTokenID} {inner info : HapTokenInfoInner} {states : List PermissionStatus} {fl : Flag}
    (env : Env) (d : BriefPermData) {l : List BriefPermData} {g : Bool} {n : String} {c : Nat} {u : Int32}
    {policy : HapPolicy}

theorem sameBits_of_map
    (h : ∀ t c, (b'.entry t c).map (isRestricted ·.flag) = (b.entry t c).map (isRestricted ·.flag)) :
    SameBits b b' := by
  intro t c d' hd'
  have hmap := h t c
  rw [hd'] at hmap
  obtain ⟨d, hd, hbit⟩ := Option.map_eq_some_iff.1 hmap.symm
  exact ⟨d, hd, hbit.symm⟩

theorem FollowsPolicy.of_sameBits (h : w.FollowsPolicy t c)
    (hinfo : ∀ info', w'.hapTokenInfoMap[t]? = some info' → ∃ info, w.hapTokenInfoMap[t]? = some info ∧
      info.userID = info'.userID) (hrec : w'.policy.records = w.policy.records)
    (hbits : SameBits w.brief w'.brief) : w'.FollowsPolicy t c := by
  intro info' d' hget hd'
  obtain ⟨info, hinfo, huser⟩ := hinfo info' hget
  obtain ⟨d, hd, hbit⟩ := hbits t c d' hd'
  rw [hbit, hrec, ← huser]
  exact h info d hinfo hd

theorem Resident.of_eq (h : w.Resident T) (hs : w'.Sound T) (hinfo : w'.hapTokenInfoMap = w.hapTokenInfoMap)
    (hrows : w'.db.hapTokenInfo = w.db.hapTokenInfo)
    (hreq : ∀ t, t ∈ w.requestedPermData → t ∈ w'.requestedPermData)
    (htools : w'.toolTokenInfoMap = w.toolTokenInfoMap) (hpolicy : w'.policy = w.policy) : w'.Resident T :=
  { hs with
    rowsLive := fun t row ht => by rw [hinfo]; exact h.rowsLive t row (hrows ▸ ht)
    hasData := fun t ht => hreq t (h.hasData t (hinfo ▸ ht))
    noTools := htools.trans h.noTools
    synced := hpolicy ▸ h.synced }

/-- **A change that keeps every bit and the policy keeps the agreement.** -/
theorem Flagged.of_sameBits (h : w.Flagged T) (hres : w'.Resident T) (hinfo : w'.hapTokenInfoMap = w.hapTokenInfoMap)
    (hpolicy : w'.policy = w.policy) (hbits : SameBits w.brief w'.brief) : w'.Flagged T :=
  { hres with
    follows := fun t c =>
      (h.follows t c).of_sameBits (fun info' hget => ⟨info', hinfo ▸ hget, rfl⟩) (by rw [hpolicy]) hbits }

/-! ## Looking up -/

/-- **A lookup in memory is all a lookup does**: there is nothing to load. -/
theorem Resident.lookup (h : w.Resident T) (findOk : Bool) (id : AccessTokenID) :
    ∃ m, m.tokenIdSet = w.tokenIdSet ∧
      getHapTokenInfoInner T w findOk id = (w.hapTokenInfoMap[id]?, { w with idManager := m }) := by
  rcases getHapTokenInfoInner_cases T w findOk id with ⟨info, hget, heq⟩ | ⟨hnone, m, b, hm, hb, heq⟩ |
    ⟨hnone, -, row, basic, hrow, -⟩
  · exact ⟨w.idManager, rfl, by rw [heq, hget]⟩
  · have hb : b = w.brief := by rwa [delete_of_not_mem (h.not_requested (not_mem_of_getElem? hnone)), or_self] at hb
    refine ⟨m, by rcases hm with rfl | rfl <;> simp, ?_⟩
    rw [heq, hnone, hb]
  · obtain ⟨info, hget, -⟩ := h.rowsLive id row hrow
    rw [hnone] at hget; cases hget

theorem Flagged.load (h : w.Flagged T) (findOk : Bool) (id : AccessTokenID) :
    (getHapTokenInfoInner T w findOk id).2.Flagged T := by
  have hs' := h.toSound.load findOk id
  obtain ⟨m, -, heq⟩ := h.toResident.lookup findOk id
  rw [heq] at hs' ⊢
  have hres : ({ w with idManager := m } : Service).Resident T :=
    h.toResident.of_eq hs' rfl rfl (fun _ ht => ht) rfl rfl
  exact h.of_sameBits hres rfl rfl (sameBits_of_requested rfl)

/-! ## Creating and updating -/

theorem isRestricted_withPolicyFlag {records : UserPolicyRecords}
    {d : BriefPermData} (h : d ∈ l.map (withPolicyFlag records t u)) :
    isRestricted d.flag = isPermissionRestricted records t u d.permCode := by
  obtain ⟨d₀, -, rfl⟩ := List.mem_map.1 h
  exact isRestricted_policyFlag records t u d₀.permCode d₀.flag

theorem isRestricted_of_mem_addedList {info : HapInfoParams} {d : BriefPermData}
    (h : d ∈ addedList T t (initialStates T D w t info policy) true) :
    isRestricted d.flag = isPermissionRestricted w.policy.records t info.userID d.permCode := by
  unfold addedList keptPermStates initialStates at h
  rw [if_pos rfl, filterMap_adjusted] at h
  exact isRestricted_withPolicyFlag h

theorem isRestricted_updatePermStatus (o n : BriefPermData) :
    isRestricted (updatePermStatus o n).flag = isRestricted n.flag := by
  unfold updatePermStatus
  split
  · rfl
  · simp only [isRestricted_or, isRestricted_without_restricted, isRestricted_and_restricted, Bool.false_or]

theorem isRestricted_mergeOnUpdate (old : List BriefPermData) (need : Bool) (d : BriefPermData) :
    isRestricted (mergeOnUpdate old need d).flag = isRestricted d.flag := by
  unfold mergeOnUpdate
  split
  · rfl
  · split
    · rfl
    · exact isRestricted_updatePermStatus _ d

theorem isRestricted_of_mem_mergedList {info : UpdateHapInfoParams}
    {d : BriefPermData} (h : d ∈ mergedList T w id inner info states policy) : isRestricted d.flag =
      isPermissionRestricted w.policy.records id inner.userID d.permCode := by
  obtain ⟨d₀, hd₀, rfl⟩ := List.mem_map.1 h
  unfold adjustedStates freshList at hd₀
  rw [filterMap_adjusted] at hd₀
  rw [isRestricted_mergeOnUpdate, mergeOnUpdate_permCode]
  exact isRestricted_withPolicyFlag hd₀

theorem followsPolicy_of_list (hinfo : w.hapTokenInfoMap[t]? = some info)
    (hl : w.requestedPermData[t]? = some l) (h : ∀ d ∈ l, isRestricted d.flag =
      isPermissionRestricted w.policy.records t info.userID d.permCode) :
    w.FollowsPolicy t c := by
  intro info' d hinfo' hd
  obtain rfl : info = info' := Option.mem_unique hinfo hinfo'
  obtain ⟨l', hl', hmem⟩ := mem_of_entry hd
  obtain rfl : l = l' := Option.mem_unique hl hl'
  rw [h d hmem, permCode_of_entry hd]

theorem FollowsPolicy.of_eq (h : w.FollowsPolicy t c) (hinfo : w'.hapTokenInfoMap[t]? = w.hapTokenInfoMap[t]?)
    (hl : w'.requestedPermData[t]? = w.requestedPermData[t]?)
    (hrec : w'.policy.records = w.policy.records) : w'.FollowsPolicy t c := by
  intro info d hget hd
  rw [hrec]
  rw [hinfo] at hget
  rw [entry, hl] at hd
  exact h info d hget hd

theorem Flagged.createHapTokenInfo (h : w.Flagged T) (env : Env) (hrem : env.removeOk = true) (info : HapInfoParams)
    (policy : HapPolicy) (honce : InstallsOnce T D info policy) :
    (createHapTokenInfo T D w env info policy).2.Flagged T := by
  have hs' := h.toSound.create env info policy honce
  rcases h.toSound.createHapTokenInfo_cases env info policy honce with ⟨r, m, b, -, hreq, -, -, heq⟩ |
    ⟨t, db, w₁, r, m, hnew, -, hhap, hc, -, heq⟩
  · rw [heq] at hs' ⊢
    have hres : ({ w with idManager := m, brief := b } : Service).Resident T :=
      h.toResident.of_eq hs' rfl rfl (fun t ht => by rw [hreq]; exact ht) rfl rfl
    exact h.of_sameBits hres rfl rfl (sameBits_of_requested hreq)
  rw [heq] at hs' ⊢
  have hrowsLive : ∀ (x : AccessTokenID) row, w₁.db.hapTokenInfo[x]? = some row → ∃ info', w₁.hapTokenInfoMap[x]? =
      some info' ∧ info'.userID = row.userID := by
    intro x row hx
    rcases hc.rows hrem x with ⟨hlive, -, hrow⟩ | ⟨-, hnone⟩
    · rcases hhap x row (hrow.symm.trans hx) with hx | ⟨rfl, huser⟩
      · obtain ⟨info', hget, huser⟩ := h.rowsLive x row hx
        have hmem := mem_of_getElem? hget
        have hxt : x ≠ t := fun hxt => hnew (hxt ▸ hmem)
        exact ⟨info', by rw [(hc.kept x (hlive (.inr hmem))).1, if_neg hxt, hget], huser⟩
      · exact ⟨_, by rw [(hc.kept x hc.mem).1, if_pos rfl], huser.symm⟩
    · cases hnone.symm.trans hx
  have hdata : ∀ x, x ∈ w₁.hapTokenInfoMap → x ∈ w₁.requestedPermData := by
    intro x hx
    rw [mem_iff_isSome_getElem?, (hc.kept x hx).2.2.1]
    split
    · rfl
    · rename_i hxt
      rw [← mem_iff_isSome_getElem?]
      exact h.hasData x (hc.mem_old hx hxt)
  have hsynced : Synced T w₁.policy := hc.policy_eq ▸ h.synced
  refine { hs' with
      rowsLive := hrowsLive
      hasData := hdata
      noTools := hc.tools.trans h.noTools
      synced := hsynced
      follows := fun x c => ?_ }
  by_cases hx : x ∈ w₁.hapTokenInfoMap
  · obtain ⟨hget, -, hlist, -⟩ := hc.kept x hx
    by_cases hxt : x = t
    · subst hxt
      rw [if_pos rfl] at hget hlist
      refine followsPolicy_of_list hget hlist (fun d hd => ?_)
      rw [isRestricted_of_mem_addedList hd, ← hc.policy_eq]
      rfl
    · rw [if_neg hxt] at hget hlist
      exact (h.follows x c).of_eq hget hlist (congrArg _ hc.policy_eq)
  · exact fun info' d hget => absurd (mem_of_getElem? hget) hx

theorem Flagged.updateHapToken (h : w.Flagged T) (env : Env) (id : AccessTokenID) (info : UpdateHapInfoParams)
    (policy : HapPolicy) (hnd : ((freshList T states).map BriefPermData.permCode).Nodup) :
    (updateHapToken T w env id info states policy).2.Flagged T := by
  have h₁ := h.load env.findOk id
  rcases h.toSound.updateHapToken_cases info policy rfl (fun _ _ => hnd) with
    ⟨e, heq⟩ | ⟨e, heq⟩ | ⟨inner, hget, -, hs', hrest⟩
  · rw [heq]; exact h
  · rw [heq]; exact h₁
  generalize (getHapTokenInfoInner T w env.findOk id).2 = w₁ at h₁ hget hs' hrest ⊢
  -- in memory the token is updated whether or not its rows are written
  have hmerged : ∀ w₂ : Service, w₂.Sound T → w₂.brief = (updatedFrom T w₁ id inner info states policy).brief →
      w₂.hapTokenInfoMap = (updatedFrom T w₁ id inner info states policy).hapTokenInfoMap →
      w₂.toolTokenInfoMap = w₁.toolTokenInfoMap → w₂.policy = w₁.policy →
      (∀ (x : AccessTokenID) row, w₂.db.hapTokenInfo[x]? = some row →
        w₁.db.hapTokenInfo[x]? = some row ∨ (x = id ∧ row.userID = inner.userID)) → w₂.Flagged T := by
    intro w₂ hs₂ hbrief hinfo htools hpolicy hrows
    obtain ⟨hreq, -⟩ := h₁.toSound.updatedFrom_brief T hget info states policy
    have hinfo₂ : w₂.hapTokenInfoMap = w₁.hapTokenInfoMap.insert id (updatedInner inner info) := hinfo
    have hreq₂ : w₂.requestedPermData =
        w₁.requestedPermData.insert id (mergedList T w₁ id inner info states policy) := by rw [hbrief, hreq]
    refine { hs₂ with
        rowsLive := fun x row hx => ?_
        hasData := fun x hx => ?_
        noTools := htools.trans h₁.noTools
        synced := hpolicy ▸ h₁.synced
        follows := fun x c => ?_ }
    · rw [hinfo₂, getElem?_insert]
      by_cases hxi : x = id
      · subst hxi
        rw [if_pos rfl]
        refine ⟨_, rfl, ?_⟩
        rcases hrows x row hx with hx | ⟨-, huser⟩
        · obtain ⟨info', hget', huser⟩ := h₁.rowsLive x row hx
          obtain rfl : inner = info' := Option.mem_unique hget hget'
          exact huser
        · exact huser.symm
      · rw [if_neg hxi]
        exact h₁.rowsLive x row ((hrows x row hx).resolve_right fun hh => hxi hh.1)
    · rw [hinfo₂] at hx
      rw [hreq₂]
      exact mem_insert.2 ((mem_insert.1 hx).imp_right (h₁.hasData x))
    · by_cases hx : x = id
      · subst hx
        refine followsPolicy_of_list (by rw [hinfo₂, getElem?_insert_self])
          (by rw [hreq₂, getElem?_insert_self]) (fun d hd => ?_)
        rw [isRestricted_of_mem_mergedList hd, hpolicy]
        rfl
      · exact (h₁.follows x c).of_eq (by rw [hinfo₂, Lib.getElem?_insert_of_ne hx])
          (by rw [hreq₂, Lib.getElem?_insert_of_ne hx]) (congrArg _ hpolicy)
  rcases hrest with ⟨-, e, heq⟩ | ⟨-, db, -, hhap, hs₂, heq⟩
  · rw [heq]; exact hmerged _ hs' rfl rfl rfl rfl fun _ _ => .inl
  · rw [heq]; exact hmerged _ hs₂.addGranted rfl rfl rfl rfl hhap

/-! ## Granting, revoking, resetting -/

theorem isRestricted_withComponentFlag (g : Bool) (d : BriefPermData) :
    isRestricted (withComponentFlag g d).flag = isRestricted d.flag := by
  cases g with
  | true => exact (isRestricted_or _ _).trans (Bool.or_false _)
  | false => exact isRestricted_without_component d.flag

/-- A flag that carries the restricted bit only beside the component bit, where it is not written. -/
def LeavesRestricted (fl : Flag) : Prop := isRestricted fl = true → isPermGrantedBySecComp fl = true
deriving Decidable

theorem isRestricted_updatedPermState (hfl : LeavesRestricted fl) (hcomp : isPermGrantedBySecComp fl = false)
    {d : BriefPermData} : isRestricted (updatedPermState g fl d).flag = isRestricted d.flag := by
  have hr : isRestricted fl = false := by
    by_contra hr
    rw [hfl (by simpa using hr)] at hcomp
    cases hcomp
  simp only [updatedPermState, isRestricted_updateWithNewFlag, hr, Bool.false_or]

/-- A grant under such a flag changes no restricted bit. -/
theorem grantedBrief_bits (hfl : LeavesRestricted fl) (x : AccessTokenID) (c : Nat) :
    ((w.grantedBrief T inner n g fl).entry x c).map (isRestricted ·.flag) =
      (w.entry x c).map (isRestricted ·.flag) := by
  unfold grantedBrief
  rcases PermissionDataBrief.updatePermissionStatus_cases inner.tokenID n g fl with
    hsame | ⟨c, -, ⟨hcomp, d, -, -, -, hs'⟩ | ⟨-, -, -, -, -, hs'⟩⟩
  · rw [hsame]
  · rw [hs', entry_modifyEntry (updatedPermState_permCode g fl)]
    split
    · rw [Option.map_map]
      exact Option.map_congr fun d _ => isRestricted_updatedPermState hfl hcomp
    · rfl
  · rw [hs', entry_setSecComp]
    split
    · rw [Option.map_map]
      exact Option.map_congr fun d _ => isRestricted_withComponentFlag g d
    · rfl

theorem Flagged.updateAndNotify (h : w.Flagged T) (env : Env) (hfl : LeavesRestricted fl) (inner : HapTokenInfoInner)
    (n : String) (g : Bool) : (updateAndNotify T w env inner n g fl).2.Flagged T := by
  have hs' := h.toSound.updateAndNotify env inner n g fl
  rcases updateAndNotify_cases T w env inner n g fl with ⟨e, heq⟩ | ⟨c, db, -, hrows, heq⟩
  · rw [heq]; exact h
  · rw [heq] at hs' ⊢
    have hres := h.toResident.of_eq hs' rfl hrows.hapTokenInfo (fun _ => mem_grantedBrief.2) rfl rfl
    exact h.of_sameBits hres rfl rfl (sameBits_of_map (grantedBrief_bits hfl))

theorem Flagged.changePermission (h : w.Flagged T) {env : Env} (hfl : LeavesRestricted fl) {updateFlag : Int32} :
    (changePermission T D w env id n g fl updateFlag).2.Flagged T :=
  changePermission_invariant (Flagged T) (fun _ id hw => hw.load env.findOk id)
    (fun _ _ _ inner n hw _ _ (_ : True) => hw.updateAndNotify env hfl inner n g) h
    (updatePermissionMeets_of_forall T D env g fl (fun _ _ => trivial))

theorem leavesRestricted_of_admin (h : isPermissionFlagValidForAdmin fl = true) : LeavesRestricted fl := by
  unfold isPermissionFlagValidForAdmin at h
  rw [Bool.or_eq_true, beq_iff_eq, beq_iff_eq] at h
  rcases h with rfl | rfl <;> decide

theorem isPermissionFlagValid_of_admin (h : isPermissionFlagValidForAdmin fl = true) :
    isPermissionFlagValid fl = true := by
  unfold isPermissionFlagValidForAdmin at h
  rw [Bool.or_eq_true, beq_iff_eq, beq_iff_eq] at h
  rcases h with rfl | rfl <;> decide

theorem Flagged.setPermissionStatusWithPolicy (h : w.Flagged T) {env : Env} {perms : List String}
    {status : Int} : (setPermissionStatusWithPolicy T D w env id perms status fl).2.Flagged T :=
  setPermissionStatusWithPolicy_invariant (Flagged T) (fun _ id hw => hw.load env.findOk id)
    (fun hadmin _ _ inner n hw _ _ (_ : True) => hw.updateAndNotify env (leavesRestricted_of_admin hadmin) inner n _)
    h (updateMultiMeets_of_forall T env _ fl (fun _ _ _ _ => trivial))

theorem isRestricted_resetPermState : isRestricted (resetPermState d).flag = isRestricted d.flag := by
  unfold resetPermState
  dsimp only
  split
  · rfl
  split
  · have hmask : isRestricted (d.flag &&& (permissionFixedByAdminPolicy ||| permissionRestrictedByAdmin)) =
        isRestricted d.flag := by
      simp only [isRestricted, Lib.hasAny_and]; rfl
    rw [isRestricted_or, hmask]
    exact Bool.false_or _
  split
  · rfl
  split
  · rfl
  rename_i hr
  have hr : isRestricted d.flag = false := by simpa [isRestricted] using hr
  have hdefault : isRestricted permissionDefaultFlag = false := by decide
  rw [hr]
  exact hdefault

theorem Sound.sameBits_resetBrief (h : w.Sound T) (D : DlpPermissionModeMap)
    (hmem : inner.tokenID ∈ w.requestedPermData) :
    SameBits w.brief (Service.resetBrief T D w inner) := by
  have hl := getElem?_eq_some_getElem hmem
  obtain ⟨hnew, hother, -⟩ := resetBrief_eq T D hl
  have hgood := h.brief.lists _ _ hl
  intro x c d' hd'
  by_cases hx : x = inner.tokenID
  · subst hx
    obtain ⟨l', hl', hmem'⟩ := mem_of_entry hd'
    obtain rfl := Option.mem_unique hnew hl'
    obtain ⟨d₀, hd₀, rfl⟩ := List.mem_map.1 hmem'
    obtain ⟨st, hst, hbrief⟩ := mem_freshList hd₀
    obtain ⟨-, hflag, hcode, -⟩ := briefPermDataOf_eq_some hbrief
    obtain ⟨d, hd, hname, hstflag⟩ := mem_resetStates hl hst
    rw [hname, PermissionTable.transferPermissionToOpcode_transferOpcode (hgood.inTable d hd)] at hcode
    have hc : d.permCode = c := by
      rw [← permCode_of_entry hd', mergeOnUpdate_permCode]
      exact Option.some.inj hcode
    refine ⟨d, hc ▸ entry_of_mem hl hgood.nodup hd, ?_⟩
    rw [isRestricted_mergeOnUpdate, hflag, hstflag, isRestricted_resetPermState]
  · refine ⟨d', ?_, rfl⟩
    rw [entry, ← hother x hx]
    exact hd'

theorem mem_resetBrief (hmem : inner.tokenID ∈ w.requestedPermData)
    {x : AccessTokenID} (hx : x ∈ w.requestedPermData) : x ∈ (resetBrief T D w inner).requestedPermData := by
  obtain ⟨hnew, hother, -⟩ := resetBrief_eq T D (getElem?_eq_some_getElem hmem)
  rw [mem_iff_isSome_getElem?]
  by_cases hxt : x = inner.tokenID
  · rw [hxt, hnew]; rfl
  · rw [hother x hxt, ← mem_iff_isSome_getElem?]
    exact hx

/-- **What resetting one token can do**: nothing but what its lookup does, or reset its data and rows. -/
theorem Resident.clearUserGrantedPermission_cases (h : w.Resident T) (D : DlpPermissionModeMap) (env : Env)
    (id : AccessTokenID) :
    ∃ m, m.tokenIdSet = w.tokenIdSet ∧
      ((clearUserGrantedPermission T D w env id).2 = { w with idManager := m } ∨
        ∃ inner db k, w.hapTokenInfoMap[id]? = some inner ∧ inner.tokenID ∈ w.requestedPermData ∧
          Database.RowsFrom w.db inner.tokenID (resetStates T D w inner) db ∧
          (clearUserGrantedPermission T D w env id).2 =
            { w with idManager := m, brief := resetBrief T D w inner, db := db, kernel := k }) := by
  obtain ⟨m, hm, hw₁⟩ := h.lookup env.findOk id
  refine ⟨m, hm, ?_⟩
  obtain ⟨_, rfl, hcases⟩ := Service.clearUserGrantedPermission_cases T D w env id
  rw [hw₁] at hcases
  obtain heq | ⟨inner, db, k, hget, hmem, hrows, -, heq⟩ := hcases
  · exact .inl heq
  · exact .inr ⟨inner, db, k, hget, hmem, hrows, heq⟩

theorem Flagged.clearUserGrantedPermission (h : w.Flagged T) (env : Env) (id : AccessTokenID) :
    (clearUserGrantedPermission T D w env id).2.Flagged T := by
  have hs' := h.toSound.clearUserGrantedPermission (D := D) env id
  obtain ⟨m, -, heq | ⟨inner, db, k, -, hmem, hrows, heq⟩⟩ := h.toResident.clearUserGrantedPermission_cases D env id
  · rw [heq] at hs' ⊢
    have hres : ({ w with idManager := m } : Service).Resident T :=
      h.toResident.of_eq hs' rfl rfl (fun _ ht => ht) rfl rfl
    exact h.of_sameBits hres rfl rfl (sameBits_of_requested rfl)
  · rw [heq] at hs' ⊢
    have hres := h.toResident.of_eq hs' rfl hrows.hapTokenInfo (fun _ => mem_resetBrief hmem) rfl rfl
    exact h.of_sameBits hres rfl rfl (h.toSound.sameBits_resetBrief D hmem)

theorem Flagged.clearUserGrantedPermissionState (h : w.Flagged T) {env : Env} :
    (clearUserGrantedPermissionState T D w env id).2.Flagged T :=
  clearUserGrantedPermissionState_keeps (fun _ id hw => hw.clearUserGrantedPermission env id) h id

/-! ## Refreshing after a policy update -/

theorem Resident.refreshed (h : w.Resident T) (t : AccessTokenID) (c : Nat) (r persist : Bool) (d : BriefPermData) :
    (w.refreshed T t c r persist d).Resident T :=
  h.of_eq h.toSound.refreshed rfl refreshedRows_hapTokenInfo (fun _ => mem_modifyEntry.2) rfl rfl

/-- **The refresh of a permission makes it follow the policy**, and disturbs no other. -/
theorem followsPolicy_refreshed {r : Bool} (hinfo : w.hapTokenInfoMap[t]? = some info)
    (hr : isPermissionRestricted w.policy.records t info.userID c = r) (persist : Bool)
    (d : BriefPermData) : (w.refreshed T t c r persist d).FollowsPolicy t c ∧
      ∀ t' c', w.FollowsPolicy t' c' → (w.refreshed T t c r persist d).FollowsPolicy t' c' := by
  have hhere : (w.refreshed T t c r persist d).FollowsPolicy t c := by
    intro info' d' hinfo' hd'
    obtain rfl : info = info' := Option.mem_unique hinfo hinfo'
    rw [entry_restrict, if_pos ⟨rfl, rfl⟩] at hd'
    obtain ⟨d₀, -, rfl⟩ := Option.map_eq_some_iff.1 hd'
    rw [isRestricted_restrictEntry]
    exact hr.symm
  refine ⟨hhere, fun t' c' hf => ?_⟩
  by_cases htc : t = t' ∧ c = c'
  · obtain ⟨rfl, rfl⟩ := htc
    exact hhere
  · intro info' d' hinfo' hd'
    rw [entry_restrict, if_neg htc] at hd'
    exact hf info' d' hinfo' hd'

theorem TokensSound.mem_getTokenIDByUserID (h : w.TokensSound) : t ∈ w.getTokenIDByUserID env.order u ↔
      ∃ info, w.hapTokenInfoMap[t]? = some info ∧ info.userID = u := by
  unfold getTokenIDByUserID
  rw [(env.order_perm _).mem_iff, List.mem_dedup, List.mem_map]
  constructor
  · rintro ⟨basic, hbasic, rfl⟩
    obtain ⟨hbasic, hu⟩ := List.mem_filter.1 hbasic
    obtain ⟨⟨t, info⟩, hmem, rfl⟩ := List.mem_map.1 hbasic
    have hget := Std.ExtTreeMap.mem_toList_iff_getElem?_eq_some.1 hmem
    refine ⟨info, ?_, by simpa using hu⟩
    rw [h.keyed t info hget]
    exact hget
  · rintro ⟨info, hget, hu⟩
    refine ⟨info.tokenInfoBasic, List.mem_filter.2 ⟨?_, by simpa using hu⟩, h.keyed t info hget⟩
    exact List.mem_map.2 ⟨(t, info), Std.ExtTreeMap.mem_toList_iff_getElem?_eq_some.2 hget, rfl⟩

theorem mem_refreshVisits {tokensOf : Int32 → List AccessTokenID} {changes : List UserPolicyChange} {v : RefreshVisit} :
    v ∈ refreshVisits tokensOf changes ↔
      v.policy ∈ changes ∧ v.userId ∈ v.policy.changedUserList ∧ v.tokenId ∈ tokensOf v.userId := by
  unfold refreshVisits
  simp only [List.mem_flatMap, List.mem_map, Std.ExtTreeSet.mem_toList]
  constructor
  · rintro ⟨p, hp, u, hu, t, ht, rfl⟩
    exact ⟨hp, hu, ht⟩
  · rintro ⟨hp, hu, ht⟩
    exact ⟨v.policy, hp, v.userId, hu, v.tokenId, ht, rfl⟩

theorem refreshVisits_of_noTools (h : w.toolTokenInfoMap = ∅) (env : Env) (changes : List UserPolicyChange) :
    refreshVisits (w.getToolTokenIDByUserID env.order) changes = [] := by
  have hnone : ∀ u, w.getToolTokenIDByUserID env.order u = [] := by
    intro u
    unfold getToolTokenIDByUserID
    rw [h]
    exact (env.order_perm _).eq_nil
  refine List.eq_nil_iff_forall_not_mem.2 fun x hx => ?_
  have := (mem_refreshVisits.1 hx).2.2
  rw [hnone] at this
  exact List.not_mem_nil this

theorem Resident.refreshToolUserPolicyFlag (h : w.Resident T) (env : Env) (changes : List UserPolicyChange) :
    refreshToolUserPolicyFlag T w env changes = (.ok (), (w, [])) := by
  unfold Service.refreshToolUserPolicyFlag
  rw [refreshVisits_of_noTools h.noTools]
  rfl

/-- **A refresh without a failing row**: every permission it visits follows the policy afterwards, and every one that
did before still does. -/
theorem Resident.refreshUserPolicyFlag (h : w.Resident T) {env : Env} (hrows : env.failingRows = [])
    (changes : List UserPolicyChange) :
    ∃ w' snapshots, refreshUserPolicyFlag T w env changes = (.ok (), (w', snapshots)) ∧ w'.Resident T ∧
      w'.hapTokenInfoMap = w.hapTokenInfoMap ∧ w'.policy = w.policy ∧
      (∀ t c, w.FollowsPolicy t c → w'.FollowsPolicy t c) ∧
      ∀ ch ∈ changes, ∀ t info, w.hapTokenInfoMap[t]? = some info →
        info.userID ∈ ch.changedUserList → w'.FollowsPolicy t ch.permCode := by
  have hloop := Lib.forUntil_establishes (f := refreshHapVisit T env.failingRows)
    (fun st : Refreshing => st.1.Resident T ∧ st.1.hapTokenInfoMap = w.hapTokenInfoMap ∧ st.1.policy = w.policy)
    (fun (k : AccessTokenID × Nat) (st : Refreshing) => st.1.FollowsPolicy k.1 k.2)
    (fun v : RefreshVisit => (v.tokenId, v.policy.permCode))
    (refreshVisits (w.getTokenIDByUserID env.order) changes) (w, [])
    (fun st v hv hst => by
      obtain ⟨w₁, snapshots⟩ := st
      obtain ⟨hres, hinfo, hpolicy⟩ := hst
      obtain ⟨info, hget, huser⟩ := (h.toSound.mem_getTokenIDByUserID env).1 (mem_refreshVisits.1 hv).2.2
      rw [← hinfo] at hget
      rcases refreshHapVisit_cases T env.failingRows snapshots rfl with ⟨hno, -⟩ | ⟨-, he, heq⟩ |
        ⟨d, he, ⟨hfail, -⟩ | ⟨-, db, hdb, heq⟩⟩
      · exact absurd (hres.hasData _ (mem_of_getElem? hget)) hno
      · have hnone : w₁.FollowsPolicy v.tokenId v.policy.permCode := by
          intro info' d _ hd
          rw [he] at hd; cases hd
        rw [heq]
        exact ⟨rfl, ⟨hres, hinfo, hpolicy⟩, hnone, fun _ hk => hk⟩
      · have hmem := hfail.2.2
        rw [hrows] at hmem
        exact absurd hmem List.not_mem_nil
      · obtain ⟨rfl, hc⟩ := hres.toSound.rowRefreshed_eq he hdb
        rw [heq, if_pos hc]
        obtain ⟨hhere, hkeep⟩ := followsPolicy_refreshed hget (by rw [huser]) v.policy.isPersist d
        exact ⟨rfl, ⟨hres.refreshed .., hinfo, hpolicy⟩, hhere, fun k => hkeep k.1 k.2⟩)
    ⟨h, rfl, rfl⟩
  unfold Service.refreshUserPolicyFlag
  revert hloop
  generalize Lib.forUntil (refreshHapVisit T env.failingRows) (w, [])
    (refreshVisits (w.getTokenIDByUserID env.order) changes) = res
  obtain ⟨r, w', snapshots⟩ := res
  rintro ⟨rfl, ⟨hres, hinfo, hpolicy⟩, hkeep, hall⟩
  refine ⟨w', snapshots, rfl, hres, hinfo, hpolicy, fun t c => hkeep (t, c), fun ch hch t info hget hu => ?_⟩
  exact hall ⟨ch, info.userID, t⟩
    (mem_refreshVisits.2 ⟨hch, hu, (h.toSound.mem_getTokenIDByUserID env).2 ⟨info, hget, rfl⟩⟩)

theorem Resident.setPolicy (h : w.Resident T) {policy : Store}
    (hsync : Synced T policy) : ({ w with policy := policy } : Service).Resident T :=
  { h with synced := hsync }

/-- **A committed policy update keeps the agreement** if its changes cover it and no row write of the refresh fails. -/
theorem Flagged.commitUserPolicy (h : w.Flagged T) {env : Env} (hrows : env.failingRows = [])
    {update : Except AccessTokenError (List UserPolicyChange) × Store} (hsync : Synced T update.2)
    (hup : (∃ e, update = (.error e, w.policy)) ∨ ∃ changes policy, update = (.ok changes, policy) ∧
      ChangesCover w.policy.records policy.records changes) :
    (commitUserPolicy T w env update).2.Flagged T := by
  rcases hup with ⟨e, rfl⟩ | ⟨changes, policy, rfl, hcover⟩
  · exact h
  have h₀ : ({ w with policy := policy } : Service).Resident T := h.toResident.setPolicy hsync
  -- where the update changes nothing, a permission that followed the policy still does
  have hsame : ∀ t c info, w.hapTokenInfoMap[t]? = some info →
      isPermissionRestricted policy.records t info.userID c =
        isPermissionRestricted w.policy.records t info.userID c →
      ({ w with policy := policy } : Service).FollowsPolicy t c := by
    intro t c info hget hr info' d hget' hd
    obtain rfl : info = info' := Option.mem_unique hget hget'
    have hf := h.follows t c info d hget hd
    rw [← hr] at hf
    exact hf
  unfold Service.commitUserPolicy refreshUserPolicyPermState
  dsimp only
  split
  · rename_i hempty
    have hnil : changes = [] := List.isEmpty_iff.1 hempty
    refine { h₀ with follows := fun t c info d hget hd => ?_ }
    refine hsame t c info hget ?_ info d hget hd
    by_contra hne
    obtain ⟨ch, hch, -⟩ := hcover.restricts t info.userID c hne
    rw [hnil] at hch
    exact List.not_mem_nil hch
  · obtain ⟨w', snapshots, heq, hres, hinfo, hpolicy, hkeep, hvisited⟩ := h₀.refreshUserPolicyFlag hrows changes
    rw [heq]
    dsimp only
    rw [hres.refreshToolUserPolicyFlag]
    refine { hres with follows := fun t c info d hget hd => ?_ }
    have hget₀ : w.hapTokenInfoMap[t]? = some info := by rw [hinfo] at hget; exact hget
    by_cases hr : isPermissionRestricted policy.records t info.userID c =
        isPermissionRestricted w.policy.records t info.userID c
    · exact hkeep t c (hsame t c info hget₀ hr) info d hget hd
    · obtain ⟨ch, hch, rfl, hu⟩ := hcover.restricts t info.userID c hr
      exact hvisited ch hch t info hget₀ hu info d hget hd

theorem Flagged.setUserPolicy (h : w.Flagged T) {env : Env} (hrows : env.failingRows = [])
    {list : List UserPermissionPolicy} : (setUserPolicy T w env list caller).2.Flagged T := by
  unfold Service.setUserPolicy
  split
  · exact h
  · split
    · exact h
    · exact h.commitUserPolicy hrows h.synced.setUserPolicy (setUserPolicy_cases T w.policy env.policyOk list caller)

theorem Flagged.clearUserPolicy (h : w.Flagged T) {env : Env} (hrows : env.failingRows = []) {list : List String} :
    (clearUserPolicy T w env list caller).2.Flagged T := by
  unfold Service.clearUserPolicy
  split
  · exact h
  split
  · exact h
  · split
    · exact h
    · exact h.commitUserPolicy hrows h.synced.clearUserPolicy
        clearUserPolicy_cases

/-! ## The whitelist -/

/-- **A whitelist update keeps the agreement**, if the row is written or the update is taken back. -/
theorem Flagged.handlePolicyWhiteListUpdate (h : w.Flagged T) {env : Env}
    (hok : env.failingRows = [] ∨ env.rollbackPolicyOk = true) {ctx : PolicyWhiteListUpdateInfo}
    (hinfo : w.hapTokenInfoMap[ctx.tokenId]? = some info) (huser : info.userID = ctx.userId) :
    (handlePolicyWhiteListUpdate T w env ctx).2.Flagged T := by
  have hsync := h.synced.updatePolicyWhiteList env.policyOk ctx
  revert hsync
  unfold Service.handlePolicyWhiteListUpdate
  rcases updatePolicyWhiteList_cases T w.policy env.policyOk ctx with ⟨e, heq, -⟩ |
    ⟨record, policy, hval, hname, heq, hrec⟩
  · rw [heq]; exact fun _ => h
  rw [heq]
  intro hsync
  dsimp only at hsync ⊢
  obtain ⟨hget, -, hmem, -, -⟩ := validatePolicyWhiteList_ok.1 hval
  have h₀ : ({ w with policy := policy } : Service).Resident T := h.toResident.setPolicy hsync
  have hrestr := isPermissionRestricted_whiteListed hget
  rw [← hrec] at hrestr
  rcases h₀.toSound.updateRestrictedFlagAndRefreshKernel_cases env.failingRows ctx.tokenId ctx.permCode
    (ctx.type == .delete) record.isPersist with ⟨e, heq', hfail⟩ | ⟨d, he, heq'⟩
  · -- the refresh failed: the records are put back, or the token does not request the permission
    rw [heq']
    have hsync' := hsync.updatePolicyWhiteList env.rollbackPolicyOk (reversed ctx)
    have hback : ∀ t u c, (¬(c = ctx.permCode ∧ t = ctx.tokenId) ∨ env.rollbackPolicyOk = true) →
        isPermissionRestricted (UserPolicyManager.updatePolicyWhiteList T policy env.rollbackPolicyOk
          (reversed ctx)).2.records t u c = isPermissionRestricted w.policy.records t u c := by
      rintro t u c (htc | hroll)
      · rcases updatePolicyWhiteList_cases T policy env.rollbackPolicyOk
          (reversed ctx) with ⟨e', heq'', -⟩ | ⟨record', policy', hval', -, heq'', hrec'⟩
        · rw [heq'', hrestr, if_neg htc]
        · rw [heq'', hrec', isPermissionRestricted_whiteListed (validatePolicyWhiteList_ok.1 hval').1]
          exact (if_neg htc).trans ((hrestr t u c).trans (if_neg htc))
      · have hsize := h.synced.sized _ record hget
        simp only [isUserPolicyRecordSizeValid, Bool.and_eq_true, decide_eq_true_eq] at hsize
        rw [hroll]
        exact updatePolicyWhiteList_reversed hsize.2 hval hname hrec
    refine { h.toResident.setPolicy hsync' with follows := fun t c info' d hget' hd => ?_ }
    rw [h.follows t c info' d hget' hd]
    refine (hback t info'.userID c ?_).symm
    by_cases htc : c = ctx.permCode ∧ t = ctx.tokenId
    · refine .inr (hok.resolve_left fun hnil => ?_)
      have hrow := hfail d (by rw [← htc.1, ← htc.2]; exact hd)
      rw [hnil] at hrow
      exact List.not_mem_nil hrow.2.2
    · exact .inl htc
  · rw [heq']
    have hbit : isPermissionRestricted policy.records ctx.tokenId info.userID ctx.permCode =
        (ctx.type == .delete) := by
      rw [hrestr, if_pos ⟨rfl, rfl⟩, huser]
      have : record.userList.contains ctx.userId = true := by simpa using hmem
      rw [this, Bool.and_true]
      cases ctx.type <;> rfl
    obtain ⟨hhere, -⟩ := followsPolicy_refreshed (w := { w with policy := policy }) hinfo hbit record.isPersist d
    refine { h₀.refreshed ctx.tokenId ctx.permCode _ record.isPersist d with follows := fun t c => ?_ }
    by_cases htc : c = ctx.permCode ∧ t = ctx.tokenId
    · obtain ⟨rfl, rfl⟩ := htc
      exact hhere
    intro info' d' hget' hd'
    rw [entry_restrict, if_neg (fun hh => htc ⟨hh.2.symm, hh.1.symm⟩)] at hd'
    have hf := h.follows t c info' d' hget' hd'
    rw [hf]
    exact ((hrestr t info'.userID c).trans (if_neg htc)).symm

theorem Flagged.updatePolicyWhiteList (h : w.Flagged T) {env : Env}
    (hok : env.failingRows = [] ∨ env.rollbackPolicyOk = true) (tokenId : AccessTokenID) (permCode : Nat)
    (type : Option UpdateWhiteListType) (caller : AccessTokenID) :
    (updatePolicyWhiteList T w env tokenId permCode type caller).2.Flagged T := by
  unfold Service.updatePolicyWhiteList
  split
  · exact h
  split
  · exact h
  split
  · exact h
  rename_i hid
  split
  · exact h
  -- a registered id is no bin token, so the token asked for is the token updated
  have hset : tokenId ∈ w.tokenIdSet := by
    simp only [Bool.or_eq_true, not_or, bne_iff_ne, ne_eq, not_not] at hid
    have htype := hid.2
    unfold AccessTokenIDManager.getTokenIdType at htype
    split at htype
    · assumption
    · cases htype
  have hplain : resolveQueryTokenID env.parent tokenId = some tokenId := by
    rw [resolveQueryTokenID, h.plainId tokenId hset]
    rfl
  have h₁ := h.load env.findOk tokenId
  obtain ⟨m, -, heq⟩ := h.toResident.lookup env.findOk tokenId
  unfold getHapTokenInfo
  rw [heq] at h₁
  simp only [hplain, heq]
  cases hget : w.hapTokenInfoMap[tokenId]? with
  | none => exact h₁
  | some => exact h₁.handlePolicyWhiteListUpdate hok hget rfl

/-! ## Whole runs -/

/-- **The condition on a step.**  No row write of a policy refresh fails, or a whitelist update that fails there is
taken back; a grant or revoke does not carry the restricted bit in its flag; the rows of a displaced token are deleted;
the states of an installation or update name each permission once.  A removal may leave a reserved row without its
token, and is left out. -/
def KeepsFlags (T : PermissionTable) (D : DlpPermissionModeMap) : ServiceOp → Prop
  | .setUserPolicy env _ _ => env.failingRows = []
  | .clearUserPolicy env _ _ => env.failingRows = []
  | .updatePolicyWhiteList env _ _ _ _ => env.failingRows = [] ∨ env.rollbackPolicyOk = true
  | .grantPermission _ _ _ fl _ => LeavesRestricted fl
  | .revokePermission _ _ _ fl _ => LeavesRestricted fl
  | .setPermissionStatusWithPolicy .. | .clearUserGrantedPermissionState .. | .clearAllSecCompGrantedPerm
  | .getHapTokenInfo .. => True
  | .removeHapTokenInfo .. => False
  | .createHapTokenInfo env info policy => env.removeOk = true ∧ InstallsOnce T D info policy
  | .updateHapToken _ _ _ states _ => ((freshList T states).map BriefPermData.permCode).Nodup

instance (T : PermissionTable) (D : DlpPermissionModeMap) : ∀ op, Decidable (KeepsFlags T D op) := fun op => by
  apply op.casesOn (motive := (Decidable <| KeepsFlags T D ·)) <;> intros <;> unfold KeepsFlags <;> infer_instance

theorem Flagged.clearAllSecCompGrantedPerm (h : w.Flagged T) : w.clearAllSecCompGrantedPerm.Flagged T := by
  have hs : w.clearAllSecCompGrantedPerm.Sound T := h.toSound.of_brief rfl rfl rfl rfl h.brief.clearAllSecComp
  have hres := h.toResident.of_eq hs rfl rfl (fun _ ht => ht) rfl rfl
  exact h.of_sameBits hres rfl rfl (sameBits_of_requested rfl)

/-- **A step that meets the condition keeps the agreement.** -/
theorem Flagged.step (h : w.Flagged T) {op : ServiceOp} (hk : KeepsFlags T D op) :
    (serviceStep T D w op).Flagged T := by
  cases op with
  | setUserPolicy => exact h.setUserPolicy hk
  | clearUserPolicy => exact h.clearUserPolicy hk
  | updatePolicyWhiteList env id c type caller => exact h.updatePolicyWhiteList hk id c type caller
  | grantPermission => exact h.changePermission hk
  | revokePermission => exact h.changePermission hk
  | setPermissionStatusWithPolicy => exact h.setPermissionStatusWithPolicy
  | clearUserGrantedPermissionState => exact h.clearUserGrantedPermissionState
  | clearAllSecCompGrantedPerm => exact h.clearAllSecCompGrantedPerm
  | getHapTokenInfo env => exact getHapTokenInfo_invariant (Flagged T) (fun _ id hw => hw.load env.findOk id) h _
  | removeHapTokenInfo => exact False.elim hk
  | createHapTokenInfo env info policy => exact h.createHapTokenInfo env hk.1 info policy hk.2
  | updateHapToken env id info states policy => exact h.updateHapToken env id info policy hk

/-- **The restricted bits follow the policy records**, for every permission every local token requests, in every state
reached by steps that meet `KeepsFlags`. -/
theorem restricted_flags_follow_policy (T : PermissionTable) (D : DlpPermissionModeMap) (w : Service)
    (hrun : Reaches (serviceStep T D) (fun _ op => KeepsFlags T D op) empty w) (t : AccessTokenID)
    (info : HapTokenInfoInner) (hlive : w.hapTokenInfoMap[t]? = some info) (l : List BriefPermData)
    (hl : w.requestedPermData[t]? = some l) (d : BriefPermData) (hd : d ∈ l) :
    isRestricted d.flag = true ↔
      isPermissionRestricted w.policy.records t info.userID d.permCode = true := by
  have h := hrun.invariant (fun _ op h hk => h.step hk) flagged_empty
  have he := entry_of_mem hl (h.brief.lists t l hl).nodup hd
  rw [h.follows t d.permCode info d hlive he]

def cameraRequested : List ServiceOp :=
  [.createHapTokenInfo .ok sampleParams asksCamera]

def cameraPolicy (isPersist : Bool) : List UserPermissionPolicy := [⟨camera, [⟨100, true⟩], isPersist⟩]

theorem flags_follow_policy_after_whitelist :
    let w := (cameraRequested ++ ([.setUserPolicy .ok (cameraPolicy true) 7,
      .grantPermission .ok sampleHap camera permissionUserFixed 0,
      .updatePolicyWhiteList .ok sampleHap 0 (some .add) 7,
      .updatePolicyWhiteList .ok sampleHap 0 (some .delete) 7] : List ServiceOp)).foldl
      (serviceStep sampleTable ∅) empty
    isRestricted (permissionUserFixed ||| permissionRestrictedByAdmin) = true ↔
      isPermissionRestricted w.policy.records sampleHap 100 0 = true :=
  restricted_flags_follow_policy sampleTable ∅ _ (Lib.reaches_foldl _ _ (by decide +kernel)) sampleHap
    (.ofParams sampleHap sampleParams) (by decide +kernel)
    [⟨permissionGranted, 0, 0, permissionUserFixed ||| permissionRestrictedByAdmin⟩] (by decide +kernel)
    ⟨permissionGranted, 0, 0, permissionUserFixed ||| permissionRestrictedByAdmin⟩ (by simp)

def cameraRowFails : Env := { Env.ok with failingRows := [(sampleHap, camera)] }

/-- **The bits and the records can disagree, both ways**: a grant may carry the restricted bit in its flag with no
policy there, and a policy whose refresh fails at a row stays in the records while the bits are rolled back. -/
theorem flags_disagree_with_policy :
    (∃ w d, Reaches (serviceStep sampleTable ∅) Always empty w ∧
        w.hapTokenInfoMap[sampleHap]? = some (.ofParams sampleHap sampleParams) ∧
        w.requestedPermData[sampleHap]? = some [d] ∧ isRestricted d.flag = true ∧
        isPermissionRestricted w.policy.records sampleHap 100 d.permCode = false) ∧
      ∃ w d, Reaches (serviceStep sampleTable ∅) Always empty w ∧
        w.hapTokenInfoMap[sampleHap]? = some (.ofParams sampleHap sampleParams) ∧
        w.requestedPermData[sampleHap]? = some [d] ∧ isRestricted d.flag = false ∧
        isPermissionRestricted w.policy.records sampleHap 100 d.permCode = true := by
  refine ⟨⟨(cameraRequested ++ [ServiceOp.grantPermission .ok sampleHap camera
        (permissionUserFixed ||| permissionRestrictedByAdmin) 0]).foldl (serviceStep sampleTable ∅) empty,
      ⟨permissionGranted, 0, 0, permissionUserFixed ||| permissionRestrictedByAdmin⟩, Lib.reaches_always _ _, ?_⟩,
    ⟨(cameraRequested ++ [ServiceOp.setUserPolicy cameraRowFails (cameraPolicy true) 7]).foldl
        (serviceStep sampleTable ∅) empty,
      ⟨permissionDenied, 0, 0, permissionDefaultFlag⟩, Lib.reaches_always _ _, ?_⟩⟩
  all_goals decide +kernel

end Service
end AccessToken
