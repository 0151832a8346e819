import AccessToken.Service.PermissionLemmas
/-!
# The restricted bit

What a refresh of the user policy does to one permission of one token: the bit of its entry is written, then its row if
the policy is persistent, then the kernel bit as the stored status says.  A row that cannot be written is the only way
to fail at a requested permission, and it leaves everything as it was.
-/
namespace AccessToken

open Lib (hasAny)

namespace Service

open PermissionDataBrief

variable {T : PermissionTable} {w : Service}

/-! ## One entry -/

def restrictEntry (r : Bool) (d : BriefPermData) : BriefPermData :=
  { d with flag := maskedFlag permissionRestrictedByAdmin r d.flag }

@[simp] theorem isRestricted_restrictEntry (r : Bool) (d : BriefPermData) :
    isRestricted (restrictEntry r d).flag = r := by
  unfold restrictEntry maskedFlag
  cases r with
  | true => simp only [if_true, isRestricted_or]; exact Bool.or_true _
  | false => exact isRestricted_without_restricted d.flag

@[simp] theorem isPermGrantedBySecComp_restrictEntry (r : Bool) (d : BriefPermData) :
    isPermGrantedBySecComp (restrictEntry r d).flag = isPermGrantedBySecComp d.flag := by
  unfold restrictEntry maskedFlag
  cases r with
  | true => simp only [if_true, isPermGrantedBySecComp_or]; exact Bool.or_false _
  | false => exact isPermGrantedBySecComp_without_restricted

theorem isRestricted_eq_getLsbD (f : Flag) : isRestricted f = f.getLsbD 9 := by
  have hbit : f &&& permissionRestrictedByAdmin = if f.getLsbD 9 then BitVec.twoPow 32 9
    else 0#32 := BitVec.and_twoPow f 9
  unfold isRestricted hasAny
  rw [hbit]
  cases f.getLsbD 9 <;> rfl

theorem restrictEntry_restrictEntry (r r' : Bool) (d : BriefPermData) :
    restrictEntry r (restrictEntry r' d) = restrictEntry r d := by
  refine congrArg (fun f => { d with flag := f }) (BitVec.eq_of_getLsbD_eq fun i hi => ?_)
  unfold restrictEntry maskedFlag
  cases r <;> cases r' <;> simp [hi] <;> cases d.flag[i] <;> simp

variable {s : PermissionDataBrief} {t : AccessTokenID} {c : Nat} {r persist : Bool} {d : BriefPermData}
    {live : AccessTokenID → Prop} {db : Database}

theorem restrictEntry_of_eq (h : isRestricted d.flag = r) : restrictEntry r d = d := by
  rw [isRestricted_eq_getLsbD] at h
  have hbit : ∀ i, permissionRestrictedByAdmin.getLsbD i = (decide (9 < 32) && decide (9 = i)) := fun i =>
    BitVec.getLsbD_twoPow 9 i
  refine congrArg (fun f => { d with flag := f }) (BitVec.eq_of_getLsbD_eq fun i hi => ?_)
  cases r with
  | true =>
    have hor : (d.flag ||| permissionRestrictedByAdmin).getLsbD i = d.flag.getLsbD i := by
      by_cases h9 : 9 = i
      · subst h9; rw [BitVec.getLsbD_or, h, Bool.true_or]
      · rw [BitVec.getLsbD_or, hbit]; simp [h9]
    exact hor
  | false =>
    have hand : (d.flag &&& ~~~permissionRestrictedByAdmin).getLsbD i = d.flag.getLsbD i := by
      by_cases h9 : 9 = i
      · subst h9; rw [BitVec.getLsbD_and, h, Bool.false_and]
      · rw [BitVec.getLsbD_and, BitVec.getLsbD_not, hbit]; simp [h9, hi]
    exact hand

theorem entry_restrict {t' : AccessTokenID} {c' : Nat} (s : PermissionDataBrief) :
    (s.modifyEntry t c (restrictEntry r)).entry t' c' =
      if t = t' ∧ c = c' then (s.entry t' c').map (restrictEntry r) else s.entry t' c' :=
  entry_modifyEntry fun _ => rfl

theorem modifyEntry_restrict_cancel (he : s.entry t c = some d) (h : isRestricted d.flag = r) {r' : Bool} :
    (s.modifyEntry t c (restrictEntry r')).modifyEntry t c (restrictEntry r) = s := by
  have hreq : ((s.modifyEntry t c (restrictEntry r')).modifyEntry t c (restrictEntry r)).requestedPermData =
      s.requestedPermData := by
    refine Std.ExtTreeMap.ext_getElem? fun x => ?_
    rw [requested_modifyEntry, requested_modifyEntry, requested_modifyEntry]
    split
    · rename_i hx
      obtain ⟨l, hl, hd⟩ := Option.bind_eq_some_iff.1 he
      simp only [if_true, ← hx, hl, Option.map_some, Option.some.injEq]
      have hkeep : ∀ a, hasCode c a = true →
          hasCode c (restrictEntry r' a) = true := fun _ ha => ha
      refine Lib.modifyFirst_modifyFirst_cancel hkeep fun a ha => ?_
      obtain rfl : d = a := Option.mem_unique hd ha
      rw [restrictEntry_restrictEntry, restrictEntry_of_eq h]
    · rfl
  exact congrArg (fun m => { s with requestedPermData := m }) hreq

/-- The row of a persistent policy has to be written, and cannot. -/
def RowWriteFails (T : PermissionTable) (failing : TokenPerms) (t : AccessTokenID) (c : Nat)
    (r persist : Bool) (d : BriefPermData) : Prop :=
  persist = true ∧ isRestricted d.flag ≠ r ∧ (t, T.transferOpcodeToPermission c) ∈ failing
deriving Decidable

theorem exists_state_of_entry (he : s.entry t c = some d) : ∃ vals st, s.permissionStateValues T t = some vals ∧
      vals.find? (·.permissionName == T.transferOpcodeToPermission c) = some st := by
  obtain ⟨l, hl, hd⟩ := mem_of_entry he
  have hfind : ((l.map fun d => (⟨T.transferOpcodeToPermission d.permCode, d.status, d.flag⟩ : PermissionStatus)).find?
      (·.permissionName == T.transferOpcodeToPermission c)).isSome := by
    refine List.find?_isSome.2 ⟨_, List.mem_map.2 ⟨d, hd, rfl⟩, ?_⟩
    rw [permCode_of_entry he]
    exact beq_self_eq_true _
  obtain ⟨st, hst⟩ := Option.isSome_iff_exists.1 hfind
  exact ⟨_, st, by rw [permissionStateValues, hl]; rfl, hst⟩

/-- What the write of the bit leaves of the rows: the row of a persistent policy is written when the bit changes. -/
def RowRefreshed (T : PermissionTable) (w : Service) (t : AccessTokenID) (c : Nat) (r persist : Bool)
    (d : BriefPermData) (db : Database) : Prop :=
  (¬(persist = true ∧ isRestricted d.flag ≠ r) ∧ db = w.db) ∨
    (persist = true ∧ isRestricted d.flag ≠ r ∧ ∃ st,
      ((w.brief.modifyEntry t c (restrictEntry r)).permissionStateValues T t).bind
        (List.find? (·.permissionName == T.transferOpcodeToPermission c)) = some st ∧
      db = w.db.modifyPermissionState t st)

theorem RowRefreshed.hapTokenInfo (h : w.RowRefreshed T t c r persist d db) : db.hapTokenInfo = w.db.hapTokenInfo := by
  rcases h with ⟨-, rfl⟩ | ⟨-, -, st, -, rfl⟩ <;> rfl

/-- **What the write of the restricted bit can do**: find no entry, fail at the row, or set the bit and write the row if
the policy is persistent and the bit changed. -/
theorem updateRestrictedFlag_cases (T : PermissionTable) (w : Service) (failing : TokenPerms)
    (t : AccessTokenID) (c : Nat) (r persist : Bool) :
    (w.entry t c = none ∧ ∃ e, updateRestrictedFlag T w failing t c r persist = (.error e, w)) ∨
      ∃ d, w.entry t c = some d ∧ ((RowWriteFails T failing t c r persist d ∧
            updateRestrictedFlag T w failing t c r persist = (.error .errDatabaseOperateFailed, w)) ∨
          (¬RowWriteFails T failing t c r persist d ∧ ∃ db, w.RowRefreshed T t c r persist d db ∧
            updateRestrictedFlag T w failing t c r persist =
              (.ok (), { w with brief := w.brief.modifyEntry t c (restrictEntry r), db := db }))) := by
  unfold updateRestrictedFlag
  rcases updatePermissionFlag_cases t c permissionRestrictedByAdmin r with
    ⟨hnone, e, heq⟩ | ⟨d, he, heq⟩
  · exact .inl ⟨hnone, e, by rw [heq]⟩
  refine .inr ⟨d, he, ?_⟩
  rw [heq]
  have hmod : (w.brief.modifyEntry t c fun d =>
      { d with flag := maskedFlag permissionRestrictedByAdmin r d.flag }) =
      w.brief.modifyEntry t c (restrictEntry r) := rfl
  rw [hmod]
  by_cases hr : isRestricted d.flag = r
  · have hflag : d.flag = maskedFlag permissionRestrictedByAdmin r d.flag :=
      (congrArg BriefPermData.flag (restrictEntry_of_eq hr)).symm
    rw [if_pos hflag]
    exact .inr ⟨fun h => h.2.1 hr, w.db, .inl ⟨fun h => h.2 hr, rfl⟩, rfl⟩
  have hflag : d.flag ≠ maskedFlag permissionRestrictedByAdmin r d.flag := by
    intro hflag
    have hbit := isRestricted_restrictEntry r d
    rw [restrictEntry, ← hflag] at hbit
    exact hr hbit
  rw [if_neg hflag]
  cases persist with
  | false => exact .inr ⟨fun h => Bool.false_ne_true h.1, w.db, .inl ⟨fun h => Bool.false_ne_true h.1, rfl⟩, rfl⟩
  | true =>
    have he' : (w.brief.modifyEntry t c (restrictEntry r)).entry t c = some (restrictEntry r d) := by
      rw [entry_restrict, if_pos ⟨rfl, rfl⟩, he]; rfl
    -- after a failure the bit is written back to what it was
    have hback : ({ w with brief := w.brief.modifyEntry t c (restrictEntry r) } : Service).rollbackRestrictedFlag t c
        r = w := by
      have hnot : isRestricted d.flag = !r := by cases r <;> simpa using hr
      unfold rollbackRestrictedFlag
      rcases updatePermissionFlag_cases t c permissionRestrictedByAdmin (!r) with ⟨hnone, -⟩ | ⟨d', -, heq'⟩
      · rw [he'] at hnone; cases hnone
      · simp only [heq']
        exact congrArg (fun b => { w with brief := b }) (modifyEntry_restrict_cancel he hnot)
    obtain ⟨vals, st, hvals, hfind⟩ := exists_state_of_entry (T := T) he'
    unfold updateRestrictedFlagToDb
    simp only [Bool.not_true, Bool.or_false, beq_iff_eq, reduceCtorEq, if_false, hvals, hfind]
    by_cases hfail : (t, T.transferOpcodeToPermission c) ∈ failing
    · rw [if_pos (List.contains_iff_mem.2 hfail)]
      exact .inl ⟨⟨rfl, hr, hfail⟩, congrArg (Prod.mk _) hback⟩
    · rw [if_neg (fun h => hfail (List.contains_iff_mem.1 h))]
      exact .inr ⟨fun h => hfail h.2.2, _, .inr ⟨rfl, hr, st, by rw [hvals]; exact hfind, rfl⟩, rfl⟩

theorem briefSound_restrict (h : BriefSound T live s) : BriefSound T live (s.modifyEntry t c (restrictEntry r)) := by
  have hcode : ∀ d, (restrictEntry r d).permCode = d.permCode := fun _ => rfl
  exact h.write hcode (fun _ hd => hd) rfl h.grantedNodup h.granted rfl

theorem stored_state_of_entry (h : BriefSound T live s) (he : s.entry t c = some d) :
    (s.permissionStateValues T t).bind (List.find? (·.permissionName == T.transferOpcodeToPermission c)) =
      some ⟨T.transferOpcodeToPermission c, d.status, d.flag⟩ := by
  obtain ⟨l, hl, hd⟩ := Option.bind_eq_some_iff.1 he
  have hgood := h.lists t l hl
  have hmem := List.mem_of_find?_eq_some hd
  have hcode := permCode_of_entry he
  rw [permissionStateValues, hl, Option.map_some, Option.bind_some, List.find?_map]
  have hfind : l.find? ((fun st : PermissionStatus => st.permissionName == T.transferOpcodeToPermission c) ∘
      fun d => ⟨T.transferOpcodeToPermission d.permCode, d.status, d.flag⟩) = some d := by
    have hkey : l.find? (fun x => T.transferOpcodeToPermission x.permCode == T.transferOpcodeToPermission d.permCode) =
        some d :=
      Lib.find?_key_of_mem (by simpa [List.map_map, Function.comp_def] using hgood.names_nodup) hmem
    rw [hcode] at hkey
    exact hkey
  rw [hfind, Option.map_some, hcode]

theorem queryStored_of_entry (h : s.entry t c = some d) :
    s.queryStoredPermissionStatusAndFlag t c = .ok (d.status, d.flag) := by
  obtain ⟨l, hl, hd⟩ := Option.bind_eq_some_iff.1 h
  simp only [queryStoredPermissionStatusAndFlag, hl, hd]

theorem queryStored_of_no_entry (h : s.entry t c = none) :
    ∃ e, s.queryStoredPermissionStatusAndFlag t c = .error e := by
  unfold queryStoredPermissionStatusAndFlag
  cases hl : s.requestedPermData[t]? with
  | none => exact ⟨_, rfl⟩
  | some l =>
    have hd : l.find? (hasCode c) = none := by simpa [entry, hl] using h
    simp only [hd]
    exact ⟨_, rfl⟩

def restrictedKernel (w : Service) (t : AccessTokenID) (c : Nat) (r : Bool) (d : BriefPermData) : KernelPerms :=
  if d.status = permissionGranted ∧ isRestricted d.flag ≠ r then w.kernel.setPermissionToKernel t c (!r) else w.kernel

theorem setPermToKernel_code (hc : c < T.permList.length) (t : AccessTokenID) (b : Bool) :
    w.setPermToKernel T t (T.transferOpcodeToPermission c) b =
      { w with kernel := w.kernel.setPermissionToKernel t c b } := by
  simp only [setPermToKernel, PermissionTable.transferPermissionToOpcode_transferOpcode hc]

theorem setPermToKernel_of_ge (hc : T.permList.length ≤ c) (t : AccessTokenID) (b : Bool) :
    w.setPermToKernel T t (T.transferOpcodeToPermission c) b = w := by
  simp only [setPermToKernel, PermissionTable.transferPermissionToOpcode_transferOpcode_of_ge hc]

theorem refreshedKernelStatus_ne {status : Int} {r' : Bool} :
    (refreshedKernelStatus status r != refreshedKernelStatus status r') = true ↔
      status = permissionGranted ∧ r ≠ r' := by
  unfold refreshedKernelStatus
  by_cases h : status = permissionGranted <;> cases r <;> cases r' <;> simp [h]

theorem refreshed_kernel (w' : Service) (hk : w'.kernel = w.kernel) :
    (if refreshedKernelStatus d.status (isRestricted d.flag) != refreshedKernelStatus d.status r then
        w'.setPermToKernel T t (T.transferOpcodeToPermission c) (refreshedKernelStatus d.status r)
      else w') =
      { w' with kernel := if c < T.permList.length then w.restrictedKernel t c r d else w.kernel } := by
  unfold restrictedKernel
  by_cases hcond : d.status = permissionGranted ∧ isRestricted d.flag ≠ r
  · rw [if_pos (refreshedKernelStatus_ne.2 hcond), if_pos hcond]
    by_cases hc : c < T.permList.length
    · rw [if_pos hc, setPermToKernel_code hc, hk]
      simp [refreshedKernelStatus, hcond.1]
    · rw [if_neg hc, setPermToKernel_of_ge (Nat.le_of_not_lt hc), ← hk]
  · rw [if_neg (fun h => hcond (refreshedKernelStatus_ne.1 h)), if_neg hcond, ite_self, ← hk]

/-- **What the refresh of one permission of one token can do**: find no data or no entry, fail at the row, or write the
restricted bit of the entry, its row if the policy is persistent, and the kernel bit as the stored status says. -/
theorem updateRestrictedFlagAndRefreshKernel_cases (T : PermissionTable) (w : Service)
    (failing : TokenPerms) (t : AccessTokenID) (c : Nat) (r persist : Bool) :
    (w.entry t c = none ∧ ∃ e, w.queryStoredPermissionStatusAndFlag t c = .error e ∧
        updateRestrictedFlagAndRefreshKernel T w failing t c r persist = (.error e, w)) ∨
      ∃ d, w.entry t c = some d ∧ ((RowWriteFails T failing t c r persist d ∧
            updateRestrictedFlagAndRefreshKernel T w failing t c r persist = (.error .errDatabaseOperateFailed, w)) ∨
          (¬RowWriteFails T failing t c r persist d ∧ ∃ db, w.RowRefreshed T t c r persist d db ∧
            updateRestrictedFlagAndRefreshKernel T w failing t c r persist = (.ok (), { w with
                brief := w.brief.modifyEntry t c (restrictEntry r)
                db := db
                kernel := if c < T.permList.length then w.restrictedKernel t c r d else w.kernel }))) := by
  unfold updateRestrictedFlagAndRefreshKernel
  cases he : w.entry t c with
  | none =>
    obtain ⟨e, hq⟩ := queryStored_of_no_entry he
    exact .inl ⟨rfl, e, hq, by rw [hq]⟩
  | some d =>
    rw [queryStored_of_entry he]
    refine .inr ⟨d, rfl, ?_⟩
    rcases updateRestrictedFlag_cases T w failing t c r persist with ⟨hnone, -⟩ | ⟨d', he', hrest⟩
    · rw [he] at hnone; cases hnone
    obtain rfl : d = d' := Option.mem_unique he he'
    rcases hrest with ⟨hfail, heq⟩ | ⟨hok, db, hdb, heq⟩
    · exact .inl ⟨hfail, by rw [heq]⟩
    refine .inr ⟨hok, db, hdb, ?_⟩
    rw [heq]
    dsimp only
    rw [← apply_ite (Prod.mk (Except.ok ()))]
    exact congrArg (Prod.mk _) (refreshed_kernel _ rfl)

def refreshedRows (T : PermissionTable) (w : Service) (t : AccessTokenID) (c : Nat) (r persist : Bool)
    (d : BriefPermData) : Database :=
  if persist = true ∧ isRestricted d.flag ≠ r then
    w.db.modifyPermissionState t ⟨T.transferOpcodeToPermission c, d.status, (restrictEntry r d).flag⟩
  else w.db

theorem refreshedRows_hapTokenInfo : (w.refreshedRows T t c r persist d).hapTokenInfo = w.db.hapTokenInfo := by
  unfold refreshedRows
  split <;> rfl

/-- **In a sound service** the row written is the one of the entry, and its code is in the table. -/
theorem Sound.rowRefreshed_eq (h : w.Sound T) (he : w.entry t c = some d)
    (hdb : w.RowRefreshed T t c r persist d db) : db = w.refreshedRows T t c r persist d ∧ c < T.permList.length := by
  obtain ⟨l, hl, hd⟩ := mem_of_entry he
  constructor
  · unfold refreshedRows
    rcases hdb with ⟨hno, rfl⟩ | ⟨hp, hr, st, hst, rfl⟩
    · rw [if_neg hno]
    have he' : (w.brief.modifyEntry t c (restrictEntry r)).entry t c = some (restrictEntry r d) := by
      rw [entry_restrict, if_pos ⟨rfl, rfl⟩, he]; rfl
    rw [stored_state_of_entry (briefSound_restrict h.brief) he'] at hst
    rw [if_pos ⟨hp, hr⟩, ← Option.some.inj hst]
    rfl
  · rw [← permCode_of_entry he]
    exact (h.brief.lists t l hl).inTable d hd

/-- The service after the restricted bit of an entry of a sound service is refreshed. -/
abbrev refreshed (T : PermissionTable) (w : Service) (t : AccessTokenID) (c : Nat) (r persist : Bool)
    (d : BriefPermData) : Service :=
  { w with
    brief := w.brief.modifyEntry t c (restrictEntry r)
    db := w.refreshedRows T t c r persist d
    kernel := w.restrictedKernel t c r d }

theorem Sound.updateRestrictedFlagAndRefreshKernel_cases (h : w.Sound T) (failing : TokenPerms)
    (t : AccessTokenID) (c : Nat) (r persist : Bool) :
    (∃ e, updateRestrictedFlagAndRefreshKernel T w failing t c r persist = (.error e, w) ∧
        ∀ d, w.entry t c = some d → RowWriteFails T failing t c r persist d) ∨
      ∃ d, w.entry t c = some d ∧
        updateRestrictedFlagAndRefreshKernel T w failing t c r persist = (.ok (), w.refreshed T t c r persist d) := by
  rcases Service.updateRestrictedFlagAndRefreshKernel_cases T w failing t c r persist with ⟨he, e, -, heq⟩ |
    ⟨d, he, ⟨hfail, heq⟩ | ⟨-, db, hdb, heq⟩⟩
  · exact .inl ⟨e, heq, fun d hd => by rw [he] at hd; cases hd⟩
  · exact .inl ⟨_, heq, fun d' hd => Option.mem_unique he hd ▸ hfail⟩
  · obtain ⟨hrows, hc⟩ := h.rowRefreshed_eq he hdb
    exact .inr ⟨d, he, by rw [heq, if_pos hc, hrows]⟩

theorem Sound.refreshed (h : w.Sound T) : (w.refreshed T t c r persist d).Sound T :=
  h.of_brief rfl rfl rfl refreshedRows_hapTokenInfo (briefSound_restrict h.brief)

theorem Sound.updateRestrictedFlagAndRefreshKernel (h : w.Sound T) (failing : TokenPerms)
    (t : AccessTokenID) (c : Nat) (r persist : Bool) :
    (updateRestrictedFlagAndRefreshKernel T w failing t c r persist).2.Sound T := by
  rcases h.updateRestrictedFlagAndRefreshKernel_cases failing t c r persist with ⟨e, heq, -⟩ | ⟨d, -, heq⟩
  · rw [heq]; exact h
  · rw [heq]; exact h.refreshed

/-! ## One turn of the loops -/

abbrev snapshotOf (v : RefreshVisit) (d : BriefPermData) : UserPolicyRefreshSnapshot :=
  ⟨v.tokenId, v.policy.permCode, d.status, d.flag⟩

theorem queryStored_of_not_mem (h : t ∉ s.requestedPermData) (c : Nat) :
    s.queryStoredPermissionStatusAndFlag t c = .error .errTokenInvalid := by
  rw [queryStoredPermissionStatusAndFlag, Std.ExtTreeMap.getElem?_eq_none h]

theorem queryStored_of_mem (h : t ∈ s.requestedPermData) (he : s.entry t c = none) :
    s.queryStoredPermissionStatusAndFlag t c = .error .errPermissionNotExist := by
  obtain ⟨l, hl⟩ := Lib.mem_iff_exists.1 h
  have hd : l.find? (hasCode c) = none := by simpa [entry, hl] using he
  simp only [queryStoredPermissionStatusAndFlag, hl, hd]

/-- **What one turn over a HAP token can do**: fail where the token has no data, pass over a permission the token does
not request, fail at the row, or refresh the entry and take a snapshot of it. -/
theorem refreshHapVisit_cases (T : PermissionTable) (failing : TokenPerms)
    (snapshots : List UserPolicyRefreshSnapshot) {v : RefreshVisit}
    (hr : UserPolicyManager.isPermissionRestricted w.policy.records v.tokenId v.userId v.policy.permCode = r) :
    (v.tokenId ∉ w.requestedPermData ∧ refreshHapVisit T failing (w, snapshots) v =
        (.error .errTokenInvalid, (w, snapshots))) ∨
      (v.tokenId ∈ w.requestedPermData ∧ w.entry v.tokenId v.policy.permCode = none ∧
        refreshHapVisit T failing (w, snapshots) v = (.ok (), (w, snapshots))) ∨
      ∃ d, w.entry v.tokenId v.policy.permCode = some d ∧
        ((RowWriteFails T failing v.tokenId v.policy.permCode r v.policy.isPersist d ∧
            refreshHapVisit T failing (w, snapshots) v = (.error .errDatabaseOperateFailed, (w, snapshots))) ∨
          (¬RowWriteFails T failing v.tokenId v.policy.permCode r v.policy.isPersist d ∧ ∃ db,
            w.RowRefreshed T v.tokenId v.policy.permCode r v.policy.isPersist d db ∧
            refreshHapVisit T failing (w, snapshots) v = (.ok (), ({ w with
                  brief := w.brief.modifyEntry v.tokenId v.policy.permCode (restrictEntry r)
                  db := db
                  kernel :=
                    if v.policy.permCode < T.permList.length then w.restrictedKernel v.tokenId v.policy.permCode r d
                    else w.kernel },
                snapshots ++ [snapshotOf v d])))) := by
  unfold refreshHapVisit
  dsimp only
  rw [hr]
  by_cases hmem : v.tokenId ∈ w.requestedPermData
  · rcases updateRestrictedFlagAndRefreshKernel_cases T w failing v.tokenId v.policy.permCode r v.policy.isPersist with
      ⟨he, -⟩ | ⟨d, he, hrest⟩
    · rw [queryStored_of_mem hmem he]
      exact .inr (.inl ⟨hmem, he, rfl⟩)
    rw [queryStored_of_entry he]
    refine .inr (.inr ⟨d, he, ?_⟩)
    rcases hrest with ⟨hfail, heq⟩ | ⟨hok, db, hdb, heq⟩
    · exact .inl ⟨hfail, by rw [heq]⟩
    · exact .inr ⟨hok, db, hdb, by rw [heq]⟩
  · rw [queryStored_of_not_mem hmem]
    exact .inl ⟨hmem, rfl⟩

end Service
end AccessToken
