import AccessToken.Service.EntryFilters
import AccessToken.Service.PolicyFlags
/-!
# The restricted bits in the database

A policy that is not persistent ends with the service, so its bits must not be in the rows a restart loads.
`RowsFollow` says that the restricted bit of a row is the bit of the entry for a persistent policy and absent otherwise;
`KeepsRows` says when a step keeps it, and the last section is what a restart then finds.
-/
namespace AccessToken

open Std.ExtTreeMap (getD_eq_getD_getElem? getElem?_eq_some_getElem getElem?_insert_self)
namespace Service

open Lib (hasAny Reaches Always)
open PermissionDataBrief PermissionTable Function Database
open UserPolicyManager

variable {T : PermissionTable} {D : DlpPermissionModeMap} {w w' : Service} {n : String} {c : Nat}
    {states : List PermissionStatus} {fl : Flag} {b : PermissionDataBrief} {inner : HapTokenInfoInner}
    {persisted : Nat → Bool} {d : BriefPermData} {t id caller : AccessTokenID} {env : Env} {g r persist : Bool}
    {policy : HapPolicy} {row : PermStateRow}

/-! ## The rows -/

/-- **The row carries the restricted bit of its entry, if the policy on the permission is persistent.** -/
def RowFollows (T : PermissionTable) (persisted : Nat → Bool) (b : PermissionDataBrief) (t : AccessTokenID) (n : String)
    (row : PermStateRow) : Prop :=
  ∃ c d, n = T.transferOpcodeToPermission c ∧ b.entry t c = some d ∧
    isRestricted row.grantFlag = (persisted c && isRestricted d.flag)

def RowsFollow (T : PermissionTable) (persisted : Nat → Bool) (w : Service) : Prop :=
  ∀ (t : AccessTokenID) (n : String) row, (w.db.permissionState t)[n]? = some row →
    RowFollows T persisted w.brief t n row

def AllKeepable (T : PermissionTable) (b : PermissionDataBrief) : Prop :=
  ∀ (t : AccessTokenID) l, b.requestedPermData[t]? = some l → ∀ d ∈ l, Keepable T d

structure PolicyStored (T : PermissionTable) (w : Service) : Prop extends Flagged T w where
  rows : RowsFollow T (isPolicyPersisted w.policy.records) w
  keepable : AllKeepable T w.brief

theorem policyStored_empty : empty.PolicyStored T :=
  { flagged_empty with
    rows := fun t n row h => by simp [empty, Database.empty] at h
    keepable := fun t l h => by simp [empty, PermissionDataBrief.empty] at h }

theorem RowFollows.of_sameBits {b' : PermissionDataBrief} (h : RowFollows T persisted b t n row)
    (hbits : SameBits b' b) : RowFollows T persisted b' t n row := by
  obtain ⟨c, d, hn, hd, hrow⟩ := h
  obtain ⟨d', hd', hbit⟩ := hbits t c d hd
  exact ⟨c, d', hn, hd', by rw [hrow, hbit]⟩

/-- **Rows written from states that follow the policy follow it**, and so do the rows left alone. -/
theorem RowsFollow.rowsFrom (h : RowsFollow T persisted w) (hbits : SameBits w'.brief w.brief)
    (hdb : RowsFrom w.db t states w'.db)
    (hst : ∀ s ∈ states, RowFollows T persisted w'.brief t s.permissionName ⟨s.grantStatus, s.grantFlag⟩) :
    RowsFollow T persisted w' := by
  intro x n row hrow
  rcases hdb.row x n row hrow with hold | ⟨rfl, s, hs, rfl, rfl⟩
  · exact (h x n row hold).of_sameBits hbits
  · exact hst s hs

theorem PolicyStored.load (h : w.PolicyStored T) (findOk : Bool) (id : AccessTokenID) :
    (getHapTokenInfoInner T w findOk id).2.PolicyStored T := by
  have hf := h.toFlagged.load findOk id
  obtain ⟨m, -, heq⟩ := h.toResident.lookup findOk id
  rw [heq] at hf ⊢
  exact { hf with rows := h.rows, keepable := h.keepable }

/-! ## Granting and revoking -/

/-- **A row is written only if a policy that restricts its permission is persistent.** -/
def WritesPersisted (T : PermissionTable) (w : Service) (inner : HapTokenInfoInner) (n : String) : Prop :=
  ∀ c ∈ T.transferPermissionToOpcode n,
    isPermissionRestricted w.policy.records inner.tokenID inner.userID c = true →
      isPolicyPersisted w.policy.records c = true
deriving Decidable

theorem PolicyStored.updateAndNotify (h : w.PolicyStored T) (hfl : LeavesRestricted fl)
    (hvalid : isPermissionFlagValid fl = true)
    (hget : w.hapTokenInfoMap[t]? = some inner) (hok : WritesPersisted T w inner n) :
    (updateAndNotify T w env inner n g fl).2.PolicyStored T := by
  have hf := h.toFlagged.updateAndNotify env hfl inner n g
  rcases updateAndNotify_cases T w env inner n g fl with ⟨e, heq⟩ | ⟨c, db, hc, hrows, heq⟩
  · rw [heq]; exact h
  rw [heq] at hf ⊢
  have hid : inner.tokenID = t := h.keyed t inner hget
  refine { hf with
    rows := h.rows.rowsFrom (sameBits_of_map fun x c => (grantedBrief_bits hfl x c).symm) hrows fun s hs => ?_
    keepable := AllEntries.updatePermissionStatus h.keepable (fun _ _ hd => hd.updated hvalid)
      fun _ hd => hd.component }
  obtain ⟨hs, hname⟩ := List.mem_filter.1 hs
  rw [beq_iff_eq] at hname
  obtain ⟨l, hl⟩ : ∃ l, (w.grantedBrief T inner n g fl).requestedPermData[inner.tokenID]? = some l := by
    refine ⟨_, getElem?_eq_some_getElem (mem_grantedBrief.2 ?_)⟩
    rw [hid]
    exact h.hasData t (mem_of_getElem? hget)
  rw [permissionStateValues, hl, Option.map_some, Option.getD_some] at hs
  obtain ⟨d', hd', rfl⟩ := List.mem_map.1 hs
  have hgood := hf.brief.lists _ l hl
  have he' := entry_of_mem hl hgood.nodup hd'
  have hcode : d'.permCode = c := by
    rw [← hname, transferPermissionToOpcode_transferOpcode (hgood.inTable d' hd')] at hc
    exact Option.some.inj hc
  refine ⟨d'.permCode, d', rfl, he', ?_⟩
  cases hbit : isRestricted d'.flag with
  | false => exact (Bool.and_false _).symm
  | true =>
    -- the bit is the policy's, and the policy is persistent
    obtain ⟨d, hd, hsame⟩ := sameBits_of_map (grantedBrief_bits hfl) _ _ d' he'
    have hrestricted := h.follows t d'.permCode inner d hget (by rw [← hid]; exact hd)
    rw [← hsame, hbit] at hrestricted
    rw [hcode] at hrestricted ⊢
    rw [hok c hc (by rw [hid]; exact hrestricted.symm)]
    rfl

/-! ## Resetting -/

/-- **No permission of the token is restricted by a policy that is not persistent.** -/
def StoresPersisted (w : Service) (t : AccessTokenID) : Prop :=
  ∀ d ∈ w.requestedPermData.getD t [], isRestricted d.flag = true →
    isPolicyPersisted w.policy.records d.permCode = true
deriving Decidable

theorem PolicyStored.lastingEntries (h : w.PolicyStored T) : AllEntries (LastingEntry T) w.brief := fun x l hl d hd =>
  { h.keepable x l hl d hd with
    code := (h.brief.lists x l hl).inTable d hd
    status := (h.brief.lists x l hl).status d hd }

theorem PolicyStored.sameBits_resetBrief_symm (h : w.PolicyStored T) (D : DlpPermissionModeMap)
    (hmem : inner.tokenID ∈ w.requestedPermData) :
    SameBits (resetBrief T D w inner) w.brief := by
  intro x c d hd
  by_cases hx : x = inner.tokenID
  · subst hx
    obtain ⟨d₀, hflag, hentry⟩ := entry_resetBrief h.lastingEntries D hd
    refine ⟨_, hentry, ?_⟩
    rw [isRestricted_updatePermStatus, hflag, isRestricted_resetPermState]
  · obtain ⟨-, hother, -⟩ := resetBrief_eq T D (getElem?_eq_some_getElem hmem)
    refine ⟨d, ?_, rfl⟩
    rw [entry, hother x hx]
    exact hd

/-- **A reset of a token whose restrictions are persistent** stores bits a restart may load. -/
theorem PolicyStored.clearUserGrantedPermission (h : w.PolicyStored T) (env : Env) (id : AccessTokenID)
    (hok : StoresPersisted w id) : (clearUserGrantedPermission T D w env id).2.PolicyStored T := by
  have hf := h.toFlagged.clearUserGrantedPermission (D := D) env id
  obtain ⟨m, -, heq | ⟨inner, db, k, hget, hmem, hrows, heq⟩⟩ := h.toResident.clearUserGrantedPermission_cases D env id
  · rw [heq] at hf ⊢
    exact { hf with rows := h.rows, keepable := h.keepable }
  rw [heq] at hf ⊢
  have hback := h.sameBits_resetBrief_symm D hmem
  refine { hf with rows := ?_, keepable := fun x l hl d hd =>
    (allLasting_resetBrief h.lastingEntries hmem x l hl d hd).toKeepable }
  -- whatever was written, each row is the old one or the reset entry's
  refine h.rows.rowsFrom hback hrows fun s hs => ?_
  obtain ⟨l, hl⟩ := Lib.mem_iff_exists.1 hmem
  obtain ⟨d, hd, hname, hflag⟩ := mem_resetStates hl hs
  have he := entry_of_mem hl (h.brief.lists _ l hl).nodup hd
  obtain ⟨d', hd', hbit⟩ := hback _ _ d he
  refine ⟨d.permCode, d', hname, hd', ?_⟩
  simp only [hflag, isRestricted_resetPermState, ← hbit]
  cases hr : isRestricted d.flag with
  | false => exact (Bool.and_false _).symm
  | true =>
    rw [hok d (by rw [getD_eq_getD_getElem?, ← h.keyed id inner hget, hl]; exact hd) hr]
    rfl

/-- A reset of one token leaves the others' permissions as persistent as they were. -/
theorem PolicyStored.clearUserGrantedPermission_frame (h : w.PolicyStored T) (D : DlpPermissionModeMap) (env : Env)
    (id : AccessTokenID) :
    (Service.clearUserGrantedPermission T D w env id).2.hapTokenInfoMap = w.hapTokenInfoMap ∧
      ∀ x, StoresPersisted w x → StoresPersisted (Service.clearUserGrantedPermission T D w env id).2 x := by
  have hf := h.toFlagged.clearUserGrantedPermission (D := D) env id
  obtain ⟨m, -, heq | ⟨inner, db, k, -, hmem, -, heq⟩⟩ := h.toResident.clearUserGrantedPermission_cases D env id
  · rw [heq]
    exact ⟨rfl, fun _ hx => hx⟩
  rw [heq] at hf ⊢
  refine ⟨rfl, fun x hx d' hd' hr => ?_⟩
  obtain ⟨l, hl, hd'⟩ := Lib.exists_of_mem_getD hd'
  have he' := entry_of_mem hl (hf.brief.lists x l hl).nodup hd'
  obtain ⟨d, hd, hbit⟩ := h.toSound.sameBits_resetBrief D hmem x _ d' he'
  obtain ⟨l₀, hl₀, hd₀⟩ := mem_of_entry hd
  rw [← permCode_of_entry hd]
  exact hx d (by rw [getD_eq_getD_getElem?, hl₀]; exact hd₀) (hbit ▸ hr)

theorem PolicyStored.clearUserGrantedPermissionState (h : w.PolicyStored T)
    (hok : ∀ x ∈ id :: w.getRelatedSandBoxHapList id, StoresPersisted w x) :
    (clearUserGrantedPermissionState T D w env id).2.PolicyStored T := by
  have h₁ := h.clearUserGrantedPermission (D := D) env id (hok id (by simp))
  obtain ⟨hinfo, hkeep⟩ := h.clearUserGrantedPermission_frame D env id
  unfold Service.clearUserGrantedPermissionState
  generalize Service.clearUserGrantedPermission T D w env id = res at h₁ hinfo hkeep ⊢
  obtain ⟨r, w₁⟩ := res
  cases r with
  | error => exact h₁
  | ok =>
    have hrelated : w₁.getRelatedSandBoxHapList id = w.getRelatedSandBoxHapList id := by
      unfold getRelatedSandBoxHapList
      rw [hinfo]
    have hfold := List.foldlRecOn (motive := fun w' : Service => w'.PolicyStored T ∧
        ∀ x ∈ w.getRelatedSandBoxHapList id, StoresPersisted w' x)
      (w.getRelatedSandBoxHapList id) (fun w id => (Service.clearUserGrantedPermission T D w env id).2)
      ⟨h₁, fun x hx => hkeep x (hok x (List.mem_cons_of_mem _ hx))⟩
      fun w' hw' x hx => ⟨hw'.1.clearUserGrantedPermission env x (hw'.2 x hx), fun y hy =>
        (hw'.1.clearUserGrantedPermission_frame D env x).2 y (hw'.2 y hy)⟩
    dsimp only
    rw [hrelated]
    exact hfold.1

/-! ## Creating and updating -/

/-- A state stored for a whole token carries the restricted bit of a persistent policy only. -/
theorem mem_storedStates {l : List BriefPermData} (hl : w.requestedPermData[t]? = some l)
    (hgood : GoodList T l) {s : PermissionStatus} (hs : s ∈ w.storedStates T t) :
    ∃ d ∈ l, s.permissionName = T.transferOpcodeToPermission d.permCode ∧
      isRestricted s.grantFlag = (isPolicyPersisted w.policy.records d.permCode && isRestricted d.flag) := by
  simp only [storedStates, clearNonPersistedUserPolicyFlags, permissionStateValues, hl,
    Option.map_some, Option.getD_some, List.map_map, List.mem_map, comp_apply] at hs
  obtain ⟨d, hd, rfl⟩ := hs
  rw [transferPermissionToOpcode_transferOpcode (hgood.inTable d hd)]
  refine ⟨d, hd, ?_⟩
  dsimp only
  split
  · rename_i hp
    exact ⟨rfl, by rw [hp, Bool.true_and]⟩
  · rename_i hp
    rw [Bool.not_eq_true] at hp
    exact ⟨rfl, by rw [hp, Bool.false_and]; exact isRestricted_without_restricted d.flag⟩

theorem PolicyStored.updateHapToken (h : w.PolicyStored T)
    {info : UpdateHapInfoParams} (hnd : ((freshList T states).map BriefPermData.permCode).Nodup)
    (htx : env.transactionOk = true) : (updateHapToken T w env id info states policy).2.PolicyStored T := by
  have hf := h.toFlagged.updateHapToken env id info policy hnd
  have h₁ := h.load env.findOk id
  revert hf
  rcases h.toSound.updateHapToken_cases info policy rfl (fun _ _ => hnd) with
    ⟨e, heq⟩ | ⟨e, heq⟩ | ⟨inner, hget, -, -, ⟨hno, -⟩ | ⟨-, db, hstate, -, hs', heq⟩⟩
  · rw [heq]; exact fun _ => h
  · rw [heq]; exact fun _ => h₁
  · rw [htx] at hno; cases hno
  rw [heq]
  generalize (getHapTokenInfoInner T w env.findOk id).2 = w₁ at h₁ hget hstate hs' ⊢
  intro hf
  obtain ⟨hreq, -⟩ := h₁.toSound.updatedFrom_brief T hget info states policy
  have hlist : (updatedFrom T w₁ id inner info states policy).requestedPermData[id]? =
      some (mergedList T w₁ id inner info states policy) := by
    rw [hreq, getElem?_insert_self]
  have hother : ∀ x : AccessTokenID, x ≠ id →
      (updatedFrom T w₁ id inner info states policy).requestedPermData[x]? = w₁.requestedPermData[x]? := by
    intro x hx
    rw [hreq, Lib.getElem?_insert_of_ne hx]
  have hgood := hf.brief.lists id _ hlist
  refine { hf with rows := fun x n row hrow => ?_, keepable := fun x l hl d hd => ?_ }
  · change (db.permissionState x)[n]? = some row at hrow
    rw [hstate, update_apply] at hrow
    split at hrow
    · rename_i hx
      subst hx
      rcases insertPermStates_row hrow with hno | ⟨s, hs, rfl, rfl⟩
      · simp at hno
      · obtain ⟨d, hd, hname, hbit⟩ := mem_storedStates hlist hgood hs
        exact ⟨d.permCode, d, hname, entry_of_mem hlist hgood.nodup hd, hbit⟩
    · rename_i hx
      obtain ⟨c, d, hn, hd, hbit⟩ := h₁.rows x n row hrow
      refine ⟨c, d, hn, ?_, hbit⟩
      rw [← hd]
      exact congrArg (Option.bind · _) (hother x hx)
  · by_cases hx : x = id
    · subst hx
      obtain rfl := Option.mem_unique hlist hl
      obtain ⟨d₀, hd₀, rfl⟩ := List.mem_map.1 hd
      refine (keepable_of_filtered hd₀).merge (fun o ho => ?_)
      obtain ⟨l₀, hl₀, ho⟩ := Lib.exists_of_mem_getD ho
      exact h₁.keepable x l₀ hl₀ o ho
    · exact h₁.keepable x l ((hother x hx).symm.trans hl) d hd

theorem PolicyStored.createHapTokenInfo (h : w.PolicyStored T) (hrem : env.removeOk = true)
    {info : HapInfoParams} (honce : InstallsOnce T D info policy) :
    (createHapTokenInfo T D w env info policy).2.PolicyStored T := by
  have hf := h.toFlagged.createHapTokenInfo env hrem info policy honce
  rcases h.toSound.createHapTokenInfo_cases env info policy honce with ⟨r, m, b, -, hreq, -, -, heq⟩ |
    ⟨t, db, w₁, r, m, hnew, hstate, -, hc, -, heq⟩
  · rw [heq] at hf ⊢
    refine { hf with rows := fun x n row hrow => ?_, keepable := fun x l hl => h.keepable x l (hreq ▸ hl) }
    exact (h.rows x n row hrow).of_sameBits (sameBits_of_requested hreq.symm)
  rw [heq] at hf ⊢
  -- a token with a row has data, so it is in memory
  have hlive : ∀ x (n : String) row, (w.db.permissionState x)[n]? = some row → x ∈ w.hapTokenInfoMap := by
    intro x n row hrow
    obtain ⟨c, d, -, hd, -⟩ := h.rows x n row hrow
    obtain ⟨l, hl, -⟩ := mem_of_entry hd
    exact h.brief.owned x (mem_of_getElem? hl)
  refine { hf with rows := fun x n row hrow => ?_, keepable := fun x l hl d hd => ?_ }
  · change (w₁.db.permissionState x)[n]? = some row at hrow
    rcases hc.rows hrem x with ⟨hmem, hrow', -⟩ | ⟨hnone, -⟩
    · rw [hrow', hstate, update_apply] at hrow
      by_cases hxt : x = t
      · subst hxt
        obtain ⟨-, -, hlist, -⟩ := hc.kept x hc.mem
        rw [if_pos rfl] at hlist hrow
        have hl₀ : (registered T D w x info policy w.db).requestedPermData[x]? =
            some (addedList T x (initialStates T D w x info policy) true) := by
          have hreq : (registered T D w x info policy w.db).requestedPermData = _ :=
            (addPermToBriefPermission_eq _ _ _ _).1
          rw [hreq, getElem?_insert_self]
        have hgood := hc.sound.brief.lists x _ hlist
        rcases insertPermStates_row hrow with hold | ⟨s, hs, rfl, rfl⟩
        · exact absurd (hlive x n row hold) hnew
        obtain ⟨d, hd, hname, hbit⟩ := mem_storedStates hl₀ hgood hs
        refine ⟨d.permCode, d, hname, entry_of_mem hlist hgood.nodup hd, ?_⟩
        change _ = (isPolicyPersisted w₁.policy.records d.permCode && _)
        rw [hc.policy_eq]
        exact hbit
      · rw [if_neg hxt] at hrow
        obtain ⟨-, -, hlist, -⟩ := hc.kept x (hmem (.inr (hlive x n row hrow)))
        rw [if_neg hxt] at hlist
        obtain ⟨c, d, hn, hd, hbit⟩ := h.rows x n row hrow
        refine ⟨c, d, hn, ?_, ?_⟩
        · rw [← hd]
          exact congrArg (Option.bind · _) hlist
        · change _ = (isPolicyPersisted w₁.policy.records c && _)
          rw [hc.policy_eq]
          exact hbit
    · rw [hnone] at hrow
      simp at hrow
  · have hx : x ∈ w₁.hapTokenInfoMap := hc.sound.brief.owned x (mem_of_getElem? hl)
    obtain ⟨-, -, hlist, -⟩ := hc.kept x hx
    have hl := hlist.symm.trans hl
    by_cases hxt : x = t
    · subst hxt
      rw [if_pos rfl] at hl
      obtain rfl := Option.some.inj hl
      unfold addedList keptPermStates at hd
      rw [if_pos rfl, hc.sound.hapId x hx] at hd
      exact keepable_of_filtered hd
    · rw [if_neg hxt] at hl
      exact h.keepable x l hl d hd

/-! ## Refreshing after a policy update -/

theorem RowsFollow.congr {persisted' : Nat → Bool} (h : RowsFollow T persisted w)
    (heq : ∀ t c d, w.entry t c = some d → isRestricted d.flag = true → persisted' c = persisted c) :
    RowsFollow T persisted' w := by
  intro t n row hrow
  obtain ⟨c, d, hn, hd, hbit⟩ := h t n row hrow
  refine ⟨c, d, hn, hd, ?_⟩
  rw [hbit]
  cases hr : isRestricted d.flag with
  | false => rw [Bool.and_false, Bool.and_false]
  | true => rw [heq t c d hd hr]

/-- **The refresh of one permission** writes its row if the policy is persistent, and touches no other row. -/
theorem RowsFollow.refreshed (h : RowsFollow T persisted w)
    (he : w.entry t c = some d) (hp : persist = true → r = true → persisted c = true)
    (hp' : persisted c = true → persist = true) : RowsFollow T persisted (w.refreshed T t c r persist d) := by
  have hhere : (w.brief.modifyEntry t c (restrictEntry r)).entry t c = some (restrictEntry r d) := by
    rw [entry_restrict, if_pos ⟨rfl, rfl⟩, he]; rfl
  -- a row the refresh leaves alone
  have hold : ∀ (x : AccessTokenID) (n : String) row, (w.db.permissionState x)[n]? = some row →
      ¬(persist = true ∧ isRestricted d.flag ≠ r ∧ x = t ∧ n = T.transferOpcodeToPermission c) →
      RowFollows T persisted (w.refreshed T t c r persist d).brief x n row := by
    intro x n row hrow hno
    obtain ⟨c', d', hn, hd', hbit⟩ := h x n row hrow
    by_cases hx : t = x ∧ c = c'
    · obtain ⟨rfl, rfl⟩ := hx
      obtain rfl : d = d' := Option.mem_unique he hd'
      refine ⟨c, restrictEntry r d, hn, hhere, ?_⟩
      rw [hbit, isRestricted_restrictEntry]
      by_cases hsame : isRestricted d.flag = r
      · rw [hsame]
      · have hnp : persisted c = false := by
          rw [← Bool.not_eq_true]
          exact fun hpc => hno ⟨hp' hpc, hsame, rfl, hn⟩
        rw [hnp, Bool.false_and, Bool.false_and]
    · exact ⟨c', d', hn, by rw [entry_restrict, if_neg hx]; exact hd', hbit⟩
  intro x n row hrow
  change ((w.refreshedRows T t c r persist d).permissionState x)[n]? = some row at hrow
  unfold refreshedRows at hrow
  split at hrow
  · rename_i hw
    simp only [modifyPermissionState, update_apply] at hrow
    split at hrow
    · rename_i hx
      subst hx
      rw [Lib.getElem?_modify] at hrow
      split at hrow
      · rename_i hn
        obtain ⟨-, -, rfl⟩ := Option.map_eq_some_iff.1 hrow
        refine ⟨c, restrictEntry r d, hn, hhere, ?_⟩
        rw [isRestricted_restrictEntry]
        cases r with
        | false => exact (Bool.and_false _).symm
        | true => rw [hp hw.1 rfl]; rfl
      · rename_i hn
        exact hold x n row hrow fun hh => hn hh.2.2.2
    · rename_i hx
      exact hold x n row hrow fun hh => hx hh.2.2.1
  · rename_i hw
    exact hold x n row hrow fun hh => hw ⟨hh.1, hh.2.1⟩

structure RowsRefreshing (T : PermissionTable) (policy : Store) (persisted : Nat → Bool) (w : Service) :
    Prop extends Sound T w where
  policy_eq : w.policy = policy
  rows : RowsFollow T persisted w
  keepable : AllKeepable T w.brief

theorem RowsRefreshing.refreshed {policy : Store} (h : RowsRefreshing T policy persisted w)
    (he : w.entry t c = some d) (hp : persist = true → r = true → persisted c = true)
    (hp' : persisted c = true → persist = true) : RowsRefreshing T policy persisted (w.refreshed T t c r persist d) :=
  { h.toSound.refreshed with
    policy_eq := h.policy_eq
    rows := h.rows.refreshed he hp hp'
    keepable := AllEntries.modifyEntry h.keepable fun _ hd => hd.restrict }

/-- **A refresh writes the rows of the persistent policies only**, whichever of its writes fail. -/
theorem RowsRefreshing.refreshUserPolicyFlag {policy : Store}
    (h : RowsRefreshing T policy persisted w) (env : Env) {changes : List UserPolicyChange}
    (hp : ∀ ch ∈ changes, ∀ t u, ch.isPersist = true → isPermissionRestricted policy.records t u ch.permCode = true →
      persisted ch.permCode = true) (hp' : ∀ ch ∈ changes, persisted ch.permCode = true → ch.isPersist = true) :
    RowsRefreshing T policy persisted (refreshUserPolicyFlag T w env changes).2.1 := by
  let Inv : Refreshing → Prop := fun st => RowsRefreshing T policy persisted st.1
  have hstart : Inv (w, []) := h
  refine Lib.forUntil_invariant _ _ (fun st v hv hst => ?_) hstart
  obtain ⟨w₁, snapshots⟩ := st
  obtain ⟨hch, -⟩ := mem_refreshVisits.1 hv
  rcases refreshHapVisit_cases T env.failingRows snapshots rfl with ⟨-, heq⟩ | ⟨-, -, heq⟩ |
    ⟨d, he, ⟨-, heq⟩ | ⟨-, db, hdb, heq⟩⟩
  · rw [heq]; exact hst
  · rw [heq]; exact hst
  · rw [heq]; exact hst
  obtain ⟨rfl, hc⟩ := hst.toSound.rowRefreshed_eq he hdb
  rw [heq, if_pos hc]
  refine hst.refreshed he (fun hpersist hr => ?_) (hp' v.policy hch)
  rw [hst.policy_eq] at hr
  exact hp v.policy hch _ _ hpersist hr

theorem PolicyStored.refreshing (h : w.PolicyStored T) (policy : Store)
    (hrows : RowsFollow T persisted w) : RowsRefreshing T policy persisted { w with policy := policy } :=
  { h.toSound with policy_eq := rfl, rows := hrows, keepable := h.keepable }

theorem Flagged.exists_record (h : w.Flagged T) (he : w.entry t c = some d) (hr : isRestricted d.flag = true) :
    ∃ r, w.policy.records[c]? = some r := by
  obtain ⟨l, hl, -⟩ := mem_of_entry he
  have hlive : t ∈ w.hapTokenInfoMap := h.brief.owned t (mem_of_getElem? hl)
  obtain ⟨info, hinfo⟩ := Lib.mem_iff_exists.1 hlive
  have hf := h.follows t c info d hinfo he
  rw [hr] at hf
  exact exists_record_of_restricted hf.symm

/-- **A committed policy update keeps the rows.**  While it runs, a permission counts as persistent if it is so before
or after the update: its changes never make a policy persistent that was not. -/
theorem PolicyStored.commitUserPolicy (h : w.PolicyStored T) (hrows : env.failingRows = [])
    {update : Except AccessTokenError (List UserPolicyChange) × Store} (hsync : Synced T update.2)
    (hup : (∃ e, update = (.error e, w.policy)) ∨ ∃ changes policy, update = (.ok changes, policy) ∧
      ChangesCover w.policy.records policy.records changes) :
    (commitUserPolicy T w env update).2.PolicyStored T := by
  have hf := h.toFlagged.commitUserPolicy hrows hsync hup
  rcases hup with ⟨e, rfl⟩ | ⟨changes, policy, rfl, hcover⟩
  · exact h
  have hboth : RowsFollow T (fun c => isPolicyPersisted w.policy.records c || isPolicyPersisted policy.records c)
      w := by
    refine h.rows.congr fun t c d he hr => ?_
    obtain ⟨r, hget⟩ := h.toFlagged.exists_record he hr
    rw [hcover.persisted_eq (.inl hget), isPolicyPersisted, hget]
    rfl
  have hnew : ∀ w' : Service, RowsRefreshing T policy
      (fun c => isPolicyPersisted w.policy.records c || isPolicyPersisted policy.records c) w' → w'.Flagged T →
      w'.PolicyStored T := by
    intro w' hw' hf'
    refine { hf' with rows := hw'.rows.congr fun t c d he hr => ?_, keepable := hw'.keepable }
    obtain ⟨r, hget⟩ := hf'.exists_record he hr
    rw [hw'.policy_eq] at hget ⊢
    rw [hcover.persisted_eq (.inr hget), isPolicyPersisted, hget]
    rfl
  have h₀ := h.refreshing policy hboth
  have hrefreshed := h₀.refreshUserPolicyFlag env (fun ch hch t u hpersist hr => by
      obtain ⟨r, hget⟩ := exists_record_of_restricted hr
      rw [hcover.persisted_eq (.inr hget), hcover.persist ch hch r (.inr hget)]
      exact hpersist)
    (fun ch hch hpersist => by
      rcases Bool.or_eq_true_iff.1 hpersist with hold | hnew
      · obtain ⟨r, hget, hr⟩ := exists_record_of_persisted hold
        rw [← hcover.persist ch hch r (.inl hget)]
        exact hr
      · obtain ⟨r, hget, hr⟩ := exists_record_of_persisted hnew
        rw [← hcover.persist ch hch r (.inr hget)]
        exact hr)
  revert hf
  unfold Service.commitUserPolicy refreshUserPolicyPermState
  dsimp only
  split
  · exact hnew _ h₀
  have hres₀ : ({ w with policy := policy } : Service).Resident T := h.toResident.setPolicy hsync
  obtain ⟨w', snapshots, heq, hres, -⟩ := hres₀.refreshUserPolicyFlag hrows changes
  rw [heq] at hrefreshed ⊢
  dsimp only
  rw [hres.refreshToolUserPolicyFlag]
  exact hnew w' hrefreshed

theorem PolicyStored.setUserPolicy (h : w.PolicyStored T) (hrows : env.failingRows = [])
    {list : List UserPermissionPolicy} : (setUserPolicy T w env list caller).2.PolicyStored T := by
  unfold Service.setUserPolicy
  split
  · exact h
  · split
    · exact h
    · exact h.commitUserPolicy hrows h.synced.setUserPolicy (setUserPolicy_cases T w.policy env.policyOk list caller)

theorem PolicyStored.clearUserPolicy (h : w.PolicyStored T) (hrows : env.failingRows = []) {list : List String} :
    (clearUserPolicy T w env list caller).2.PolicyStored T := by
  unfold Service.clearUserPolicy
  split
  · exact h
  split
  · exact h
  · split
    · exact h
    · exact h.commitUserPolicy hrows h.synced.clearUserPolicy
        clearUserPolicy_cases

/-- A whitelist update writes the row under the persistence of the record it updates. -/
theorem PolicyStored.handlePolicyWhiteListUpdate (h : w.PolicyStored T) {ctx : PolicyWhiteListUpdateInfo}
    (hf : (handlePolicyWhiteListUpdate T w env ctx).2.Flagged T) :
    (handlePolicyWhiteListUpdate T w env ctx).2.PolicyStored T := by
  have hpers := isPolicyPersisted_updatePolicyWhiteList T w.policy env.policyOk ctx
  revert hf hpers
  unfold Service.handlePolicyWhiteListUpdate
  rcases updatePolicyWhiteList_cases T w.policy env.policyOk ctx with ⟨e, heq, -⟩ |
    ⟨record, policy, hval, -, heq, -⟩
  · rw [heq]; exact fun _ _ => h
  rw [heq]
  intro hf hpers
  have hget := (validatePolicyWhiteList_ok.1 hval).1
  have hsame : isPolicyPersisted policy.records = isPolicyPersisted w.policy.records := funext hpers
  have h₀ := h.refreshing policy h.rows
  revert hf
  dsimp only
  rcases h₀.toSound.updateRestrictedFlagAndRefreshKernel_cases env.failingRows ctx.tokenId ctx.permCode
    (ctx.type == .delete) record.isPersist with ⟨e, heq', -⟩ | ⟨d, he, heq'⟩
  · rw [heq']
    intro hf
    refine { hf with rows := ?_, keepable := h.keepable }
    have hback : isPolicyPersisted (UserPolicyManager.updatePolicyWhiteList T policy env.rollbackPolicyOk
        (reversed ctx)).2.records = isPolicyPersisted w.policy.records :=
      (funext (isPolicyPersisted_updatePolicyWhiteList T policy _ _)).trans hsame
    change RowsFollow T (isPolicyPersisted (UserPolicyManager.updatePolicyWhiteList T policy env.rollbackPolicyOk
      (reversed ctx)).2.records) w
    rw [hback]
    exact h.rows
  · rw [heq']
    intro hf
    have hrec : isPolicyPersisted w.policy.records ctx.permCode = record.isPersist := by
      rw [isPolicyPersisted, hget]
      rfl
    have hdone : RowsRefreshing T policy (isPolicyPersisted w.policy.records)
        (refreshed T { w with policy := policy } ctx.tokenId ctx.permCode (ctx.type == .delete) record.isPersist d) :=
      h₀.refreshed he (fun hp _ => hrec.trans hp) (fun hp => hrec.symm.trans hp)
    refine { hf with rows := ?_, keepable := hdone.keepable }
    have hrows := hdone.rows
    rw [← hsame] at hrows
    exact hrows

theorem PolicyStored.updatePolicyWhiteList (h : w.PolicyStored T)
    (hok : env.failingRows = [] ∨ env.rollbackPolicyOk = true) {tokenId : AccessTokenID} {permCode : Nat}
    {type : Option UpdateWhiteListType} :
    (updatePolicyWhiteList T w env tokenId permCode type caller).2.PolicyStored T := by
  have hf := h.toFlagged.updatePolicyWhiteList hok tokenId permCode type caller
  revert hf
  unfold Service.updatePolicyWhiteList
  split
  · exact fun _ => h
  split
  · exact fun _ => h
  split
  · exact fun _ => h
  split
  · exact fun _ => h
  unfold getHapTokenInfo
  cases resolveQueryTokenID env.parent tokenId with
  | none => exact fun _ => h
  | some id =>
    have h₁ := h.load env.findOk id
    dsimp only
    generalize getHapTokenInfoInner T w env.findOk id = res at h₁ ⊢
    obtain ⟨found, w₁⟩ := res
    cases found with
    | none => exact fun _ => h₁
    | some => exact fun hf => h₁.handlePolicyWhiteListUpdate hf

/-! ## Whole runs -/

theorem PolicyStored.changePermission (h : w.PolicyStored T) (hfl : LeavesRestricted fl) {updateFlag : Int32}
    (hok : UpdatePermissionMeets T D env g fl (WritesPersisted T) (getHapTokenInfo T w env id).2 id n) :
    (changePermission T D w env id n g fl updateFlag).2.PolicyStored T :=
  changePermission_invariant (PolicyStored T) (fun _ id hw => hw.load env.findOk id)
    (fun hvalid _ _ _ _ hw hget _ hok => hw.updateAndNotify hfl hvalid hget hok) h hok

theorem PolicyStored.setPermissionStatusWithPolicy (h : w.PolicyStored T) {perms : List String} {status : Int}
    (hok : UpdateMultiMeets T env (status == permissionGranted) fl (WritesPersisted T) w id perms) :
    (setPermissionStatusWithPolicy T D w env id perms status fl).2.PolicyStored T :=
  setPermissionStatusWithPolicy_invariant (PolicyStored T) (fun _ id hw => hw.load env.findOk id)
    (fun hadmin _ _ _ _ hw hget _ hok => hw.updateAndNotify (leavesRestricted_of_admin hadmin)
      (isPermissionFlagValid_of_admin hadmin) hget hok) h hok

/-- **The condition on a step**: those of the restricted bits, and a row is written for a permission only while no
policy that is not persistent restricts it, by a grant, a revoke or a reset; the transaction of an update ends. -/
def KeepsRows (T : PermissionTable) (D : DlpPermissionModeMap) (w : Service) : ServiceOp → Prop
  | .setUserPolicy env _ _ => env.failingRows = []
  | .clearUserPolicy env _ _ => env.failingRows = []
  | .updatePolicyWhiteList env _ _ _ _ => env.failingRows = [] ∨ env.rollbackPolicyOk = true
  | .grantPermission env id n fl _ => LeavesRestricted fl ∧
    UpdatePermissionMeets T D env true fl (WritesPersisted T) (getHapTokenInfo T w env id).2 id n
  | .revokePermission env id n fl _ => LeavesRestricted fl ∧
    UpdatePermissionMeets T D env false fl (WritesPersisted T) (getHapTokenInfo T w env id).2 id n
  | .setPermissionStatusWithPolicy env id perms status fl =>
    UpdateMultiMeets T env (status == permissionGranted) fl (WritesPersisted T) w id perms
  | .clearUserGrantedPermissionState _ id => ∀ x ∈ id :: w.getRelatedSandBoxHapList id, StoresPersisted w x
  | .clearAllSecCompGrantedPerm | .getHapTokenInfo .. => True
  | .removeHapTokenInfo .. => False
  | .createHapTokenInfo env info policy => env.removeOk = true ∧ InstallsOnce T D info policy
  | .updateHapToken env _ _ states _ =>
    ((freshList T states).map BriefPermData.permCode).Nodup ∧ env.transactionOk = true

instance (T : PermissionTable) (D : DlpPermissionModeMap) (w : Service) : ∀ op, Decidable (KeepsRows T D w op) :=
  fun op => by
  apply op.casesOn (motive := (Decidable <| KeepsRows T D w ·)) <;> intros
  case clearUserGrantedPermissionState => exact List.decidableBAll (StoresPersisted w) _
  all_goals unfold KeepsRows; infer_instance

/-- **A step that meets the condition keeps the rows.** -/
theorem PolicyStored.step (h : w.PolicyStored T) {op : ServiceOp} (hk : KeepsRows T D w op) :
    (serviceStep T D w op).PolicyStored T := by
  cases op with
  | setUserPolicy => exact h.setUserPolicy hk
  | clearUserPolicy => exact h.clearUserPolicy hk
  | updatePolicyWhiteList => exact h.updatePolicyWhiteList hk
  | grantPermission => exact h.changePermission hk.1 hk.2
  | revokePermission => exact h.changePermission hk.1 hk.2
  | setPermissionStatusWithPolicy => exact h.setPermissionStatusWithPolicy hk
  | clearUserGrantedPermissionState => exact h.clearUserGrantedPermissionState hk
  | clearAllSecCompGrantedPerm =>
    exact { h.toFlagged.clearAllSecCompGrantedPerm with rows := h.rows, keepable := h.keepable }
  | getHapTokenInfo env => exact getHapTokenInfo_invariant (PolicyStored T) (fun _ id hw => hw.load env.findOk id) h _
  | removeHapTokenInfo => exact False.elim hk
  | createHapTokenInfo => exact h.createHapTokenInfo hk.1 hk.2
  | updateHapToken => exact h.updateHapToken hk.1 hk.2

/-! ## Restarting -/

theorem isRestricted_getFlagWroteToDb (fl : Flag) :
    isRestricted (getFlagWroteToDb fl) = isRestricted fl := isRestricted_without_component fl

/-- The service after a restart: nothing in memory but the policies read back from their table. -/
def restarted (T : PermissionTable) (w : Service) : Service :=
  { empty with
    db := w.db
    policy := ⟨loadPersistedPolicies T ∅ w.policy.table.toList, w.policy.table⟩ }

def readBack (T : PermissionTable) (w : Service) (ids : List AccessTokenID) : Service :=
  ids.foldl (fun w id => (getHapTokenInfoInner T w true id).2) (restarted T w)

/-- **What has been read back so far** comes from the rows of `w₀`. -/
structure Reloading (T : PermissionTable) (w₀ w : Service) : Prop where
  db : w.db = w₀.db
  policy : w.policy.records = w₀.policy.records.filter fun _ r => r.isPersist
  info : ∀ (t : AccessTokenID) info, w.hapTokenInfoMap[t]? = some info →
    ∃ row, w₀.db.hapTokenInfo[t]? = some row ∧ info.userID = row.userID
  entries : ∀ (t : AccessTokenID) l, w.requestedPermData[t]? = some l → ∀ d ∈ l, ∃ (n : String) (row : PermStateRow),
    (w₀.db.permissionState t)[n]? = some row ∧ T.transferPermissionToOpcode n = some d.permCode ∧
      isRestricted d.flag = isRestricted row.grantFlag

theorem reloading_restarted (h : Synced T w.policy) : Reloading T w (restarted T w) where
  db := rfl
  policy := h.loadPersistedPolicies (List.Perm.refl _)
  info := by simp [restarted, empty]
  entries := by simp [restarted, empty, PermissionDataBrief.empty]

theorem Sound.restarted (h : w.Sound T) : (restarted T w).Sound T :=
  { (sound_empty : empty.Sound T) with rowId := h.rowId }

theorem Reloading.load {w₀ : Service} (h : Reloading T w₀ w) {findOk : Bool} :
    Reloading T w₀ (getHapTokenInfoInner T w findOk id).2 := by
  obtain ⟨hdb, hpolicy⟩ : (getHapTokenInfoInner T w findOk id).2.db = w.db ∧
      (getHapTokenInfoInner T w findOk id).2.policy = w.policy := by
    rcases getHapTokenInfoInner_cases T w findOk id with ⟨_, -, heq⟩ | ⟨-, _, _, -, -, heq⟩ |
      ⟨-, -, _, _, -, -, -, heq⟩ <;>
      rw [heq] <;> exact ⟨rfl, rfl⟩
  refine ⟨hdb.trans h.db, by rw [hpolicy, h.policy], fun t info hinfo => ?_, fun t l hl d hd => ?_⟩
  · rcases getHapTokenInfoInner_cases T w findOk id with ⟨_, -, heq⟩ | ⟨-, _, _, -, -, heq⟩ |
      ⟨-, -, row, hap, hrow, -, hhap, heq⟩ <;> rw [heq] at hinfo
    · exact h.info t info hinfo
    · exact h.info t info hinfo
    change (w.hapTokenInfoMap.insert id hap)[t]? = some info at hinfo
    rcases Lib.getElem?_insert_eq_some.1 hinfo with ⟨rfl, rfl⟩ | ⟨-, hinfo⟩
    · exact ⟨row, h.db ▸ hrow, (restoreHapTokenBasicInfo_spec hhap).2.2.1⟩
    · exact h.info t info hinfo
  · obtain hl | ⟨-, -, hrows⟩ := requested_load hl
    · exact h.entries t l hl d hd
    obtain ⟨st, hst, hfrom⟩ := hrows d hd
    rw [h.db] at hst
    obtain ⟨⟨n, r⟩, hmem, rfl⟩ := List.mem_map.1 hst
    refine ⟨n, r, Std.ExtTreeMap.mem_toList_iff_getElem?_eq_some.1 hmem, hfrom.code, ?_⟩
    rw [hfrom.flag, isRestricted_getFlagWroteToDb]

theorem isPermissionRestricted_filter (records : UserPolicyRecords) (t : AccessTokenID) (u : Int32) (c : Nat) :
    isPermissionRestricted (records.filter fun _ r => r.isPersist) t u c =
      (isPolicyPersisted records c && isPermissionRestricted records t u c) := by
  unfold isPermissionRestricted isPolicyPersisted
  rw [Std.ExtTreeMap.getElem?_filter]
  cases records[c]? with
  | none => rfl
  | some r => cases hp : r.isPersist <;> simp [Option.filter, hp]

/-- **What is read back follows the policies read back**: the bit of an entry is the bit of a row, which is the bit of
an entry before the restart under a persistent policy. -/
theorem PolicyStored.followsPolicy_readBack (h : w.PolicyStored T) (hr : Reloading T w w') : w'.FollowsPolicy t c := by
  intro info d hinfo hd
  obtain ⟨l, hl, hmem⟩ := mem_of_entry hd
  obtain ⟨n, row, hrow, hcode, hbit⟩ := hr.entries t l hl d hmem
  obtain ⟨hap, hhap, huser⟩ := hr.info t info hinfo
  obtain ⟨info₀, hinfo₀, huser₀⟩ := h.rowsLive t hap hhap
  obtain ⟨c', d', rfl, hd', hstored⟩ := h.rows t n row hrow
  have hc' : c' = c := by
    obtain ⟨l', hl', hmem'⟩ := mem_of_entry hd'
    have hlt := (h.brief.lists t l' hl').inTable d' hmem'
    rw [permCode_of_entry hd'] at hlt
    rw [transferPermissionToOpcode_transferOpcode hlt] at hcode
    rw [Option.some.inj hcode, permCode_of_entry hd]
  subst hc'
  rw [hbit, hstored, hr.policy, isPermissionRestricted_filter, huser, ← huser₀, h.follows t c' info₀ d' hinfo₀ hd']

/-- **A restricted row belongs to a live token that a persistent policy restricts.** -/
theorem PolicyStored.row_restricted (h : w.PolicyStored T)
    (hrow : (w.db.permissionState t)[n]? = some row) (hr : isRestricted row.grantFlag = true) :
    ∃ c info, T.transferPermissionToOpcode n = some c ∧ w.hapTokenInfoMap[t]? = some info ∧
      isPolicyPersisted w.policy.records c = true ∧
      isPermissionRestricted w.policy.records t info.userID c = true := by
  obtain ⟨c, d, rfl, hd, hbit⟩ := h.rows t n row hrow
  obtain ⟨hp, hrestr⟩ := Bool.and_eq_true_iff.1 (hbit.symm.trans hr)
  obtain ⟨l, hl, hmem⟩ := mem_of_entry hd
  have hlt := (h.brief.lists t l hl).inTable d hmem
  rw [permCode_of_entry hd] at hlt
  have hlive : t ∈ w.hapTokenInfoMap := h.brief.owned t (mem_of_getElem? hl)
  obtain ⟨info, hinfo⟩ := Lib.mem_iff_exists.1 hlive
  refine ⟨c, info, transferPermissionToOpcode_transferOpcode hlt, hinfo, hp, ?_⟩
  rw [← h.follows t c info d hinfo hd]
  exact hrestr

/-- **Restrictions that end with the service never reach the database**, in every state reached by steps that meet
`KeepsRows`; so whatever tokens are loaded after a restart, their bits follow the policies read back. -/
theorem stored_restrictions_persistent (T : PermissionTable) (D : DlpPermissionModeMap) (w : Service)
    (hrun : Reaches (serviceStep T D) (KeepsRows T D) empty w) :
    (∀ (t : AccessTokenID) (n : String) row, (w.db.permissionState t)[n]? = some row →
      isRestricted row.grantFlag = true →
      ∃ c info, T.transferPermissionToOpcode n = some c ∧ w.hapTokenInfoMap[t]? = some info ∧
        isPolicyPersisted w.policy.records c = true ∧
        isPermissionRestricted w.policy.records t info.userID c = true) ∧
      ∀ (ids : List AccessTokenID) (t : AccessTokenID) info l, (readBack T w ids).hapTokenInfoMap[t]? = some info →
        (readBack T w ids).requestedPermData[t]? = some l → ∀ d ∈ l,
          (isRestricted d.flag = true ↔ isPermissionRestricted (readBack T w ids).policy.records t
            info.userID d.permCode = true) := by
  have h := hrun.invariant (fun _ op h hk => h.step hk) policyStored_empty
  refine ⟨fun t n row => h.row_restricted, fun ids t info l hinfo hl d hd => ?_⟩
  have hr : Reloading T w (readBack T w ids) :=
    List.foldlRecOn ids _ (reloading_restarted h.synced) fun w' hw' id _ => hw'.load
  have hs : (readBack T w ids).Sound T :=
    List.foldlRecOn ids _ (h.toSound.restarted) fun w' hw' id _ => hw'.load true id
  have he := entry_of_mem hl (hs.brief.lists t l hl).nodup hd
  rw [h.followsPolicy_readBack hr info d hinfo he]

theorem stored_restrictions_persistent_after_grant :
    let w := (cameraRequested ++ ([.setUserPolicy .ok (cameraPolicy true) 7,
      .grantPermission .ok sampleHap camera permissionUserFixed 0] :
        List ServiceOp)).foldl (serviceStep sampleTable ∅) empty
    ∃ c info, sampleTable.transferPermissionToOpcode camera = some c ∧
      w.hapTokenInfoMap[sampleHap]? = some info ∧ isPolicyPersisted w.policy.records c = true ∧
      isPermissionRestricted w.policy.records sampleHap info.userID c = true :=
  (stored_restrictions_persistent sampleTable ∅ _ (Lib.reaches_foldl _ _ (by decide +kernel))).1
    sampleHap camera
    ⟨permissionGranted, permissionUserFixed ||| permissionRestrictedByAdmin⟩ (by decide +kernel) (by decide)

/-- **A grant under a policy that is not persistent stores its bit**, and a restart reads it back with no policy
there. -/
theorem temporary_restriction_stored :
    ∃ w row, Reaches (serviceStep sampleTable ∅) Always empty w ∧
      (w.db.permissionState sampleHap)[camera]? = some row ∧
      isRestricted row.grantFlag = true ∧ isPolicyPersisted w.policy.records 0 = false ∧
      ∃ d, (readBack sampleTable w [sampleHap]).requestedPermData[sampleHap]? =
          some [d] ∧ isRestricted d.flag = true ∧
        isPermissionRestricted (readBack sampleTable w [sampleHap]).policy.records
          sampleHap 100 d.permCode = false := by
  refine ⟨(cameraRequested ++ ([.setUserPolicy .ok (cameraPolicy false) 7,
      .grantPermission .ok sampleHap camera permissionUserFixed 0] :
        List ServiceOp)).foldl (serviceStep sampleTable ∅) empty,
    ⟨permissionGranted, permissionUserFixed ||| permissionRestrictedByAdmin⟩, Lib.reaches_always _ _, ?_, ?_, ?_,
    ⟨permissionGranted, 0, 0, permissionUserFixed ||| permissionRestrictedByAdmin⟩, ?_, ?_, ?_⟩ <;> decide +kernel

end Service
end AccessToken
