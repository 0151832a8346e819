import AccessToken.Service.UserPolicy
import AccessToken.Service.Sound
/-!
# What the permission operations do to the service

Granting, revoking and resetting one token touch its entries, its rows and its kernel bits and nothing else.  One lemma
per operation says how, and that the service stays sound.
-/
namespace AccessToken

open Function Std.ExtTreeMap BriefPermData

open Lib (hasAny)

namespace Database

/-- `db'` differs from `db` in rows of token `t` that were there, and each of these now holds one of the states. -/
structure RowsFrom (db : Database) (t : AccessTokenID) (states : List PermissionStatus) (db' : Database) : Prop where
  hapTokenInfo : db'.hapTokenInfo = db.hapTokenInfo
  row : ∀ (x : AccessTokenID) (n : String) row, (db'.permissionState x)[n]? = some row →
    (db.permissionState x)[n]? = some row ∨
      (x = t ∧ ∃ s ∈ states, s.permissionName = n ∧ row = ⟨s.grantStatus, s.grantFlag⟩)
  there : ∀ (x : AccessTokenID) (n : String), n ∈ db'.permissionState x → n ∈ db.permissionState x

variable {db db' db'' : Database} {t : AccessTokenID} {states : List PermissionStatus}

theorem RowsFrom.refl : RowsFrom db t states db :=
  ⟨rfl, fun _ _ _ => .inl, fun _ _ => id⟩

theorem RowsFrom.trans (h : RowsFrom db t states db') (h' : RowsFrom db' t states db'') :
    RowsFrom db t states db'' where
  hapTokenInfo := h'.hapTokenInfo.trans h.hapTokenInfo
  row x n row hrow := (h'.row x n row hrow).elim (h.row x n row) .inr
  there x n hn := h.there x n (h'.there x n hn)

theorem rowsFrom_modify {s : PermissionStatus} (hs : s ∈ states) :
    RowsFrom db t states (db.modifyPermissionState t s) where
  hapTokenInfo := rfl
  row x n row hrow := by
    simp only [modifyPermissionState, update_apply] at hrow
    split at hrow
    · rename_i hx
      rw [Lib.getElem?_modify] at hrow
      split at hrow
      · rename_i hn
        obtain ⟨-, -, rfl⟩ := Option.map_eq_some_iff.1 hrow
        exact .inr ⟨hx, s, hs, hn.symm, rfl⟩
      · exact .inl (hx ▸ hrow)
    · exact .inl hrow
  there x n hn := by
    simp only [modifyPermissionState, update_apply] at hn
    split at hn
    · rename_i hx
      exact hx ▸ mem_modify.1 hn
    · exact hn

theorem rowsFrom_foldl : ∀ (l : List PermissionStatus) (db : Database), (∀ s ∈ l, s ∈ states) →
    RowsFrom db t states (l.foldl (fun db s => db.modifyPermissionState t s) db)
  | [], db, _ => RowsFrom.refl
  | s :: l, _, h => (rowsFrom_modify (h s (by simp))).trans (rowsFrom_foldl l _ fun s' hs' => h s' (by simp [hs']))

theorem rowsFrom_updateStatesToDB (failing : TokenPerms) :
    ∀ (l : List PermissionStatus) (db : Database), (∀ s ∈ l, s ∈ states) →
      RowsFrom db t states (Service.updateStatesToDB failing t db l).2
  | [], db, _ => RowsFrom.refl
  | s :: l, db, h => by
    rw [Service.updateStatesToDB]
    split
    · exact RowsFrom.refl
    · exact (rowsFrom_modify (h s (by simp))).trans
        (rowsFrom_updateStatesToDB failing l _ fun s' hs' => h s' (by simp [hs']))

end Database

namespace Service

open PermissionDataBrief

variable {T : PermissionTable} {D : DlpPermissionModeMap} {w w' : Service}

theorem Sound.of_brief (h : w.Sound T) (hinfo : w'.hapTokenInfoMap = w.hapTokenInfoMap)
    (hid : w'.hapTokenIdMap = w.hapTokenIdMap) (hm : w'.idManager = w.idManager)
    (hrow : w'.db.hapTokenInfo = w.db.hapTokenInfo) (hb : BriefSound T (· ∈ w.hapTokenInfoMap) w'.brief) :
    w'.Sound T := by
  have htokens := h.toTokensSound.of_eq hinfo hid (fun t => by rw [hm]) (fun t ht => hrow ▸ ht)
  exact { htokens with brief := hinfo ▸ hb }

/-! ## Granting and revoking -/

/-- The data of the service after `UpdatePermissionStatus` of one of its tokens. -/
def grantedBrief (T : PermissionTable) (w : Service) (inner : HapTokenInfoInner) (n : String) (g : Bool) (fl : Flag) :
    PermissionDataBrief :=
  (w.brief.updatePermissionStatus T inner.tokenID n g fl).2.2

/-- The states a row write after `UpdatePermissionStatus` can store. -/
def grantedStates (T : PermissionTable) (w : Service) (inner : HapTokenInfoInner) (n : String) (g : Bool) (fl : Flag) :
    List PermissionStatus :=
  (((w.grantedBrief T inner n g fl).permissionStateValues T inner.tokenID).getD []).filter
    (·.permissionName == n)

variable {perms : List String} {inner info : HapTokenInfoInner} {id t : AccessTokenID} {n : String}
    {l : List BriefPermData} {d : BriefPermData} {findOk g : Bool} {status : Int} {fl : Flag} {env : Env}
    {states : List PermissionStatus}

theorem mem_requested_of_grantedBrief_ne {g : Bool} {fl : Flag} (h : w.grantedBrief T inner n g fl ≠ w.brief) :
    (w.brief.updatePermissionStatus T inner.tokenID n g fl).1 = .ok () ∧
      inner.tokenID ∈ (w.grantedBrief T inner n g fl).requestedPermData := by
  unfold grantedBrief at h ⊢
  rcases updatePermissionStatus_cases inner.tokenID n g fl with
    hsame | ⟨c, -, ⟨-, d, he, -, hok, hs'⟩ | ⟨-, ht, -, -, hok, hs'⟩⟩
  · exact absurd hsame h
  · rw [hs']
    obtain ⟨l, hl, -⟩ := mem_of_entry he
    refine ⟨hok, mem_modifyEntry.2 ?_⟩
    rw [mem_iff_isSome_getElem?, hl]; rfl
  · rw [hs']
    exact ⟨hok, mem_setSecComp.2 ht⟩

/-- **What the update of one permission can do**: fail with the data as it was, or write the data and its row and report
whether the verified status changed. -/
theorem updatePermissionStatus_cases (T : PermissionTable) (w : Service) (env : Env) (inner : HapTokenInfoInner)
    (n : String) (g : Bool) (fl : Flag) :
    (∃ e, updatePermissionStatus T w env inner n g fl = (.error e, w) ∧ w.grantedBrief T inner n g fl = w.brief) ∨
      ∃ c db, T.transferPermissionToOpcode n = some c ∧
        Database.RowsFrom w.db inner.tokenID (w.grantedStates T inner n g fl) db ∧
        updatePermissionStatus T w env inner n g fl =
          (.ok (decide (w.verifyPermissionStatus inner.tokenID c ≠
              (w.grantedBrief T inner n g fl).verifyPermissionStatus inner.tokenID c)),
            { w with brief := w.grantedBrief T inner n g fl, db := db }) := by
  have hne := @mem_requested_of_grantedBrief_ne T w inner n g fl
  unfold updatePermissionStatus grantedStates
  unfold grantedBrief at hne ⊢
  dsimp only
  cases hcode : T.transferPermissionToOpcode n with
  | none =>
    refine .inl ⟨.errParamInvalid, ?_⟩
    simp [PermissionDataBrief.updatePermissionStatus, hcode]
  | some c =>
    have hchange : (w.brief.updatePermissionStatus T inner.tokenID n g fl).2.1 =
        changeTypeOf (w.verifyPermissionStatus inner.tokenID c)
          ((w.brief.updatePermissionStatus T inner.tokenID n g fl).2.2.verifyPermissionStatus
            inner.tokenID c)
          (w.queriedStatusAndFlag inner.tokenID c).2
          ((w.brief.updatePermissionStatus T inner.tokenID n g fl).2.2.queriedStatusAndFlag
            inner.tokenID c).2 := by
      simp only [PermissionDataBrief.updatePermissionStatus, hcode]
    generalize w.brief.updatePermissionStatus T inner.tokenID n g fl = res at hne hchange ⊢
    obtain ⟨ret, ct, b⟩ := res
    cases ret with
    | error e =>
      -- an error leaves the data as it was
      have hb : b = w.brief := by
        by_contra hb
        exact absurd (hne hb).1 (by simp)
      exact .inl ⟨e, by simp [hb], hb⟩
    | ok u =>
      right
      simp only at hne hchange ⊢
      have hstatus : (ct == .statusOnly || ct == .statusAndFlag) =
          decide (w.verifyPermissionStatus inner.tokenID c ≠
            b.verifyPermissionStatus inner.tokenID c) := by
        rw [hchange, changeTypeOf]
        split_ifs with h1 h2 h2 <;> simp [h1]
      have hvalues : ct ≠ .noChange → ∃ values, b.permissionStateValues T inner.tokenID = some values := by
        intro hct
        have hb : b ≠ w.brief := by
          rintro rfl
          exact hct (by simp [hchange, changeTypeOf])
        have hmem := (hne hb).2
        rw [permissionStateValues, getElem?_eq_some_getElem hmem]
        exact ⟨_, rfl⟩
      split
      · exact ⟨c, w.db, rfl, Database.RowsFrom.refl, by rw [hstatus]⟩
      rename_i hcond
      obtain ⟨values, hv⟩ := hvalues (by
        rintro rfl
        simp at hcond)
      rw [hv]
      simp only [Option.getD_some, writePermissionState, hstatus]
      split
      · exact ⟨c, w.db, rfl, Database.RowsFrom.refl, rfl⟩
      · exact ⟨c, _, rfl, Database.rowsFrom_foldl _ _ (fun _ hs => hs), rfl⟩

theorem notifyWhenPermissionStateUpdated_eq {c : Nat} (hc : T.transferPermissionToOpcode n = some c) (g : Bool) :
    w.notifyWhenPermissionStateUpdated T inner n g = { w with
        kernel := w.kernel.setPermissionToKernel inner.tokenID c
          (g && !UserPolicyManager.isPermissionRestricted w.policy.records inner.tokenID
            inner.userID c) } := by
  unfold notifyWhenPermissionStateUpdated setPermToKernel
  simp only [hc, Option.getD_some]
  split
  · rfl
  rename_i hsame
  -- the bit has the value already
  have hsame : w.kernel inner.tokenID c =
      (g && !UserPolicyManager.isPermissionRestricted w.policy.records inner.tokenID
        inner.userID c) := by simpa using hsame
  simp only [KernelPerms.setPermissionToKernel, ← hsame, update_eq_self]

def grantedKernel (T : PermissionTable) (w : Service) (inner : HapTokenInfoInner) (n : String) (c : Nat) (g : Bool)
    (fl : Flag) : KernelPerms :=
  if w.verifyPermissionStatus inner.tokenID c =
      (w.grantedBrief T inner n g fl).verifyPermissionStatus inner.tokenID c then w.kernel
  else
    w.kernel.setPermissionToKernel inner.tokenID c
      (g && !UserPolicyManager.isPermissionRestricted w.policy.records inner.tokenID
        inner.userID c)

/-- **What granting or revoking one permission of one token can do.** -/
theorem updateAndNotify_cases (T : PermissionTable) (w : Service) (env : Env) (inner : HapTokenInfoInner) (n : String)
    (g : Bool) (fl : Flag) :
    (∃ e, updateAndNotify T w env inner n g fl = (.error e, w)) ∨ ∃ c db, T.transferPermissionToOpcode n = some c ∧
        Database.RowsFrom w.db inner.tokenID (w.grantedStates T inner n g fl) db ∧
        updateAndNotify T w env inner n g fl = (.ok (), { w with
            brief := w.grantedBrief T inner n g fl
            db := db
            kernel := w.grantedKernel T inner n c g fl }) := by
  unfold updateAndNotify
  rcases updatePermissionStatus_cases T w env inner n g fl with ⟨e, he, -⟩ | ⟨c, db, hc, hrows, hok⟩
  · exact .inl ⟨e, by rw [he]⟩
  refine .inr ⟨c, db, hc, hrows, ?_⟩
  rw [hok]
  simp only [decide_eq_true_eq]
  split
  · rename_i hne
    have hk : w.grantedKernel T inner n c g fl = _ := if_neg hne
    rw [notifyWhenPermissionStateUpdated_eq hc, hk]
  · rename_i hsame
    have hk : w.grantedKernel T inner n c g fl = w.kernel := if_pos (not_not.1 hsame)
    rw [hk]

theorem mem_grantedBrief {x : AccessTokenID} :
    x ∈ (w.grantedBrief T inner n g fl).requestedPermData ↔ x ∈ w.requestedPermData := by
  unfold grantedBrief
  rcases PermissionDataBrief.updatePermissionStatus_cases inner.tokenID n g fl with
    hsame | ⟨c, -, ⟨-, d, -, -, -, hs'⟩ | ⟨-, -, -, -, -, hs'⟩⟩
  · rw [hsame]
  · rw [hs']; exact mem_modifyEntry
  · rw [hs']; exact mem_setSecComp

theorem Sound.updateAndNotify (h : w.Sound T) (env : Env) (inner : HapTokenInfoInner) (n : String) (g : Bool)
    (fl : Flag) : (updateAndNotify T w env inner n g fl).2.Sound T := by
  rcases updateAndNotify_cases T w env inner n g fl with ⟨e, he⟩ | ⟨c, db, -, hrows, hok⟩
  · rw [he]; exact h
  · rw [hok]
    exact h.of_brief rfl rfl rfl hrows.hapTokenInfo (h.brief.updatePermissionStatus _ n g fl)

/-! ### Call by call

A grant or revoke of the service updates several tokens and permissions in turn.  `ok` is a condition on one such
update; the operations below meet it when each of their updates meets it in the state it is made in. -/

section CallByCall

variable (T : PermissionTable) (D : DlpPermissionModeMap) (env : Env) (g : Bool) (fl : Flag)
variable (ok : Service → HapTokenInfoInner → String → Prop)

/-- The condition at the update `UpdateTokenPermissionState` makes after its lookup. -/
def TokenUpdateMeets (n : String) (w : Service) (id : AccessTokenID) : Prop :=
  ∀ inner ∈ (getHapTokenInfoInner T w env.findOk id).1, ok (getHapTokenInfoInner T w env.findOk id).2 inner n

def UpdatePermissionMeets (w : Service) (id : AccessTokenID) (n : String) : Prop :=
  TokenUpdateMeets T env ok n w id ∧
    Lib.AllMeet (fun w id => (updateTokenPermissionState T D w env id n g fl).2) (TokenUpdateMeets T env ok n)
      (updateTokenPermissionState T D w env id n g fl).2
      ((updateTokenPermissionState T D w env id n g fl).2.getRelatedSandBoxHapList id)

/-- The condition at the updates `UpdateMultiTokenPermissionState` makes. -/
def MultiUpdateMeets (perms : List String) (inner : HapTokenInfoInner) (w : Service) (id : AccessTokenID) : Prop :=
  Lib.AllMeet (fun w n => (updateAndNotify T w env inner n g fl).2) (fun w n => ok w inner n)
    (getHapTokenInfo T w env id).2 perms

def UpdateMultiMeets (w : Service) (id : AccessTokenID) (perms : List String) : Prop :=
  ∀ inner ∈ (getHapTokenInfoInner T w env.findOk id).1,
    MultiUpdateMeets T env g fl ok perms inner (getHapTokenInfoInner T w env.findOk id).2 id ∧
      Lib.AllMeet (fun w id => (updateMultiTokenPermissionState T w env inner id perms g fl).2)
        (MultiUpdateMeets T env g fl ok perms inner)
        (updateMultiTokenPermissionState T (getHapTokenInfoInner T w env.findOk id).2 env inner id perms g fl).2
        ((updateMultiTokenPermissionState T (getHapTokenInfoInner T w env.findOk id).2 env inner id perms g
          fl).2.getRelatedSandBoxHapList id)

variable {ok} in
theorem updatePermissionMeets_of_forall (h : ∀ w inner, ok w inner n) : UpdatePermissionMeets T D env g fl ok w id n :=
  ⟨fun _ _ => h _ _, Lib.allMeet_of_forall _ _ fun _ _ _ _ _ => h _ _⟩

variable {ok} in
theorem updateMultiMeets_of_forall (h : ∀ n ∈ perms, ∀ w inner, ok w inner n) :
    UpdateMultiMeets T env g fl ok w id perms := fun _ _ =>
  ⟨Lib.allMeet_of_forall _ _ fun n hn _ => h n hn _ _,
    Lib.allMeet_of_forall _ _ fun _ _ _ => Lib.allMeet_of_forall _ _ fun n hn _ => h n hn _ _⟩

instance decidableTokenUpdateMeets [∀ w inner n, Decidable (ok w inner n)] (n : String) (w : Service)
    (id : AccessTokenID) : Decidable (TokenUpdateMeets T env ok n w id) :=
  inferInstanceAs (Decidable (∀ inner ∈ _, _))

instance decidableUpdatePermissionMeets [∀ w inner n, Decidable (ok w inner n)] (w : Service) (id : AccessTokenID)
    (n : String) : Decidable (UpdatePermissionMeets T D env g fl ok w id n) :=
  inferInstanceAs (Decidable (_ ∧ _))

instance decidableMultiUpdateMeets [∀ w inner n, Decidable (ok w inner n)] (perms : List String)
    (inner : HapTokenInfoInner) (w : Service) (id : AccessTokenID) :
    Decidable (MultiUpdateMeets T env g fl ok perms inner w id) :=
  inferInstanceAs (Decidable (Lib.AllMeet _ _ _ _))

instance decidableUpdateMultiMeets [∀ w inner n, Decidable (ok w inner n)] (w : Service) (id : AccessTokenID)
    (perms : List String) : Decidable (UpdateMultiMeets T env g fl ok w id perms) :=
  inferInstanceAs (Decidable (∀ inner ∈ _, _))

end CallByCall

/-- The notification changes neither the data nor the rows. -/
theorem updateAndNotify_stores (T : PermissionTable) (w : Service) (env : Env) (inner : HapTokenInfoInner) (n : String)
    (g : Bool) (fl : Flag) : (updateAndNotify T w env inner n g fl).2.brief = w.grantedBrief T inner n g fl ∧
      (updateAndNotify T w env inner n g fl).2.db = (updatePermissionStatus T w env inner n g fl).2.db := by
  unfold updateAndNotify
  rcases updatePermissionStatus_cases T w env inner n g fl with ⟨e, he, hsame⟩ | ⟨c, db, hc, -, hok⟩
  · rw [he, hsame]
    exact ⟨rfl, rfl⟩
  rw [hok]
  dsimp only
  split
  · rw [notifyWhenPermissionStateUpdated_eq hc]
    exact ⟨rfl, rfl⟩
  · exact ⟨rfl, rfl⟩

theorem getHapTokenInfoInner_of_live
    (h : w.hapTokenInfoMap[t]? = some info) : getHapTokenInfoInner T w findOk t = (some info, w) := by
  unfold getHapTokenInfoInner
  rw [h]

theorem mem_of_related (hsound : w.TokensSound) {s : AccessTokenID} (h : s ∈ w.getRelatedSandBoxHapList t) :
    s ≠ t ∧ ∃ info, w.hapTokenInfoMap[s]? = some info := by
  unfold getRelatedSandBoxHapList at h
  split at h
  · cases h
  dsimp only at h
  split at h
  · cases h
  obtain ⟨basic, hbasic, rfl⟩ := List.mem_map.1 h
  obtain ⟨hmem, hcond⟩ := List.mem_filter.1 hbasic
  obtain ⟨⟨k, info⟩, he, rfl⟩ := List.mem_map.1 hmem
  have hget : w.hapTokenInfoMap[k]? = some info := mem_toList_iff_getElem?_eq_some.1 he
  have hk : info.tokenID = k := hsound.keyed k info hget
  simp only [Bool.and_eq_true, bne_iff_ne, ne_eq] at hcond
  exact ⟨hcond.1.2, info, by rw [hk]; exact hget⟩

theorem load_keeps (h : w.hapTokenInfoMap[t]? = some info) :
    (getHapTokenInfoInner T w findOk id).2.hapTokenInfoMap[t]? = some info := by
  rcases getHapTokenInfoInner_cases T w findOk id with ⟨info', -, heq⟩ | ⟨-, m, b, -, -, heq⟩ |
    ⟨hnone, -, row, basic, -, -, -, heq⟩
  · rw [heq]; exact h
  · rw [heq]; exact h
  rw [heq]
  have hne : t ≠ id := by
    rintro rfl
    rw [hnone] at h; cases h
  exact (Lib.getElem?_insert_of_ne hne).trans h

theorem entry_load {id s : AccessTokenID} (hs : s ∈ w.hapTokenInfoMap) (c : Nat) :
    (getHapTokenInfoInner T w findOk id).2.entry s c = w.entry s c := by
  have hne : w.hapTokenInfoMap[id]? = none → s ≠ id := by
    rintro hnone rfl
    exact not_mem_of_getElem? hnone hs
  unfold entry
  rcases getHapTokenInfoInner_cases T w findOk id with ⟨info, -, heq⟩ | ⟨hnone, m, b, -, hb, heq⟩ |
    ⟨hnone, -, row, basic, -, -, -, heq⟩
  · rw [heq]
  · rw [heq]
    rcases hb with rfl | rfl
    · rfl
    · rcases deleteBriefPermDataByTokenId_cases id with ⟨-, hdel⟩ | ⟨-, hdel⟩
      · rw [hdel]
      · rw [hdel, Lib.getElem?_erase_of_ne (hne hnone)]
  · rw [heq]
    show ((w.restoredBrief T id).requestedPermData[s]?).bind _ = _
    rw [restoredBrief_of_ne (hne hnone)]

theorem changePermission_of_invalid (hfl : ¬isPermissionFlagValid fl = true)
    {updateFlag : Int32} : (changePermission T D w env id n g fl updateFlag).2 = w := by
  obtain ⟨e, hno⟩ : ∃ e, checkPermissionUpdateParam id n fl updateFlag = .error e := by
    unfold checkPermissionUpdateParam
    simp only [hfl, Bool.not_false, Bool.true_or, if_true]
    split_ifs <;> exact ⟨_, rfl⟩
  unfold changePermission
  rw [hno]

theorem setPermissionStatusWithPolicy_of_invalid (hfl : ¬isPermissionFlagValidForAdmin fl = true) :
    (setPermissionStatusWithPolicy T D w env id perms status fl).2 = w := by
  have hno : checkMultiPermissionStatus T perms status fl = .error .errParamInvalid := by
    unfold checkMultiPermissionStatus
    simp [hfl]
  unfold setPermissionStatusWithPolicy
  rw [hno]
  split
  · rfl
  · split <;> rfl

/-- The permission is in the DLP range of the token, as the checks in front of an update ask. -/
def InDlpRange (D : DlpPermissionModeMap) (inner : HapTokenInfoInner) (n : String) : Prop :=
  isPermDlpModeAvailableToDlpHap inner.dlpType (getPermDlpMode D n) = true

theorem inDlpRange_of_check
    (h : updateTokenPermissionStateCheck D env inner n g fl = .ok ()) : InDlpRange D inner n := by
  unfold updateTokenPermissionStateCheck at h
  split_ifs at h with _ _ havailable
  exact havailable

theorem updateTokenPermissionState_of_live
    (hget : w.hapTokenInfoMap[id]? = some inner)
    (hcheck : updateTokenPermissionStateCheck D env inner n g fl = .ok ()) :
    updateTokenPermissionState T D w env id n g fl = updateAndNotify T w env inner n g fl := by
  unfold updateTokenPermissionState
  rw [getHapTokenInfoInner_of_live hget]
  simp only [hcheck]

theorem inDlpRange_of_multiCheck (h : updateMultiTokenPermissionStateCheck D inner perms = .ok ()) :
    ∀ n ∈ perms, InDlpRange D inner n := by
  unfold updateMultiTokenPermissionStateCheck at h
  split_ifs at h with _ hall
  exact List.all_eq_true.1 hall

section CallByCallInvariant

/-- One update of one token keeps the invariant where it meets the condition. -/
abbrev KeptByUpdate (T : PermissionTable) (D : DlpPermissionModeMap) (env : Env) (g : Bool) (fl : Flag)
    (ok : Service → HapTokenInfoInner → String → Prop) (Inv : Service → Prop) : Prop :=
  ∀ w (t : AccessTokenID) inner n, Inv w → w.hapTokenInfoMap[t]? = some inner → InDlpRange D inner n → ok w inner n →
    Inv (updateAndNotify T w env inner n g fl).2

variable {env : Env} {g : Bool} {fl : Flag} {ok : Service → HapTokenInfoInner → String → Prop} (Inv : Service → Prop)
variable (hload : ∀ w id, Inv w → Inv (getHapTokenInfoInner T w env.findOk id).2)
variable (hupdate : KeptByUpdate T D env g fl ok Inv)
include hload hupdate

theorem updateTokenPermissionState_invariant (h : Inv w) (hok : TokenUpdateMeets T env ok n w id) :
    Inv (updateTokenPermissionState T D w env id n g fl).2 := by
  have h₁ := hload w id h
  have hsome := @getHapTokenInfoInner_some T w env.findOk id
  unfold updateTokenPermissionState
  unfold TokenUpdateMeets at hok
  generalize getHapTokenInfoInner T w env.findOk id = res at h₁ hsome hok ⊢
  obtain ⟨found, w₁⟩ := res
  cases found with
  | none => exact h₁
  | some inner =>
    dsimp only
    split
    · exact h₁
    · rename_i hcheck
      exact hupdate w₁ id inner n h₁ (hsome rfl) (inDlpRange_of_check hcheck) (hok inner rfl)

theorem updatePermission_invariant (h : Inv w) (hok : UpdatePermissionMeets T D env g fl ok w id n) :
    Inv (updatePermission T D w env id n g fl).2 := by
  obtain ⟨hfirst, hrest⟩ := hok
  have h₁ := updateTokenPermissionState_invariant Inv hload hupdate h hfirst
  unfold updatePermission
  generalize updateTokenPermissionState T D w env id n g fl = res at h₁ hrest ⊢
  obtain ⟨r, w₁⟩ := res
  cases r with
  | error => exact h₁
  | ok =>
    exact hrest.invariant Inv (fun w id hw hid => updateTokenPermissionState_invariant Inv hload hupdate hw hid) h₁

omit hupdate in
theorem getHapTokenInfo_invariant (h : Inv w) (id : AccessTokenID) : Inv (getHapTokenInfo T w env id).2 := by
  unfold getHapTokenInfo
  split
  · exact h
  · exact hload w _ h

omit hupdate in
theorem changePermission_invariant (hupdate : isPermissionFlagValid fl = true → KeptByUpdate T D env g fl ok Inv)
    {updateFlag : Int32} (h : Inv w)
    (hok : UpdatePermissionMeets T D env g fl ok (getHapTokenInfo T w env id).2 id n) :
    Inv (changePermission T D w env id n g fl updateFlag).2 := by
  by_cases hvalid : isPermissionFlagValid fl = true
  swap
  · rw [changePermission_of_invalid hvalid]
    exact h
  have h₁ := getHapTokenInfo_invariant Inv hload h id
  unfold changePermission
  split
  · exact h
  split
  · exact h
  split
  · exact h
  unfold checkAndUpdatePermissionInner
  split
  · exact h
  generalize getHapTokenInfo T w env id = res at h₁ hok ⊢
  obtain ⟨found, w₁⟩ := res
  cases found with
  | none => exact h₁
  | some => exact updatePermission_invariant Inv hload (hupdate hvalid) h₁ hok

omit hload hupdate in
theorem updateAndNotify_keeps (h : w.hapTokenInfoMap[t]? = some info) :
    (updateAndNotify T w env inner n g fl).2.hapTokenInfoMap[t]? = some info := by
  rcases updateAndNotify_cases T w env inner n g fl with ⟨e, heq⟩ | ⟨c, db, -, -, heq⟩ <;> rw [heq] <;> exact h

theorem updateMultiTokenPermissionState_invariant (h : Inv w ∧ w.hapTokenInfoMap[t]? = some inner)
    (hrange : ∀ n ∈ perms, InDlpRange D inner n) (hok : MultiUpdateMeets T env g fl ok perms inner w id) :
    Inv (updateMultiTokenPermissionState T w env inner id perms g fl).2 ∧
      (updateMultiTokenPermissionState T w env inner id perms g fl).2.hapTokenInfoMap[t]? = some inner := by
  have h₁ := getHapTokenInfo_invariant (fun w => Inv w ∧ w.hapTokenInfoMap[t]? = some inner)
    (fun w id hw => ⟨hload w id hw.1, load_keeps hw.2⟩) h id
  unfold updateMultiTokenPermissionState
  unfold MultiUpdateMeets at hok
  generalize getHapTokenInfo T w env id = res at h₁ hok ⊢
  obtain ⟨found, w₁⟩ := res
  cases found with
  | none => exact h₁
  | some =>
    exact Lib.forUntil_allMeet (fun w => Inv w ∧ w.hapTokenInfoMap[t]? = some inner) perms w₁
      (fun w n hn hw hmeets => ⟨hupdate w t inner n hw.1 hw.2 (hrange n hn) hmeets, updateAndNotify_keeps hw.2⟩) hok h₁

omit hupdate in
theorem updateMultiPermissionStatus_invariant (hupdate : KeptByUpdate T D env (status == permissionGranted) fl ok Inv)
    (h : Inv w) (hok : UpdateMultiMeets T env (status == permissionGranted) fl ok w id perms) :
    Inv (updateMultiPermissionStatus T D w env id perms status fl).2 := by
  have h₁ := hload w id h
  have hsome := @getHapTokenInfoInner_some T w env.findOk id
  unfold updateMultiPermissionStatus
  generalize (status == permissionGranted) = g at hupdate hok ⊢
  unfold UpdateMultiMeets at hok
  generalize getHapTokenInfoInner T w env.findOk id = res at h₁ hsome hok ⊢
  obtain ⟨found, w₁⟩ := res
  cases found with
  | none => exact h₁
  | some inner =>
    dsimp only
    split
    · exact h₁
    rename_i hcheck
    have hrange := inDlpRange_of_multiCheck hcheck
    obtain ⟨hfirst, hrest⟩ := hok inner rfl
    have h₂ := updateMultiTokenPermissionState_invariant Inv hload hupdate ⟨h₁, hsome rfl⟩ hrange hfirst
    generalize updateMultiTokenPermissionState T w₁ env inner id perms g fl = res at h₂ hrest ⊢
    obtain ⟨r, w₂⟩ := res
    cases r with
    | error => exact h₂.1
    | ok =>
      exact (hrest.invariant (fun w => Inv w ∧ w.hapTokenInfoMap[id]? = some inner)
        (fun w x hw hx => updateMultiTokenPermissionState_invariant Inv hload hupdate hw hrange hx) h₂).1

omit hupdate in
theorem setPermissionStatusWithPolicy_invariant
    (hupdate : isPermissionFlagValidForAdmin fl = true → KeptByUpdate T D env (status == permissionGranted) fl ok Inv)
    (h : Inv w) (hok : UpdateMultiMeets T env (status == permissionGranted) fl ok w id perms) :
    Inv (setPermissionStatusWithPolicy T D w env id perms status fl).2 := by
  by_cases hadmin : isPermissionFlagValidForAdmin fl = true
  swap
  · rw [setPermissionStatusWithPolicy_of_invalid hadmin]
    exact h
  unfold setPermissionStatusWithPolicy
  split
  · exact h
  split
  · exact h
  · split
    · exact h
    · exact updateMultiPermissionStatus_invariant Inv hload (hupdate hadmin) h hok

end CallByCallInvariant

/-! ## Resetting -/

def resetStates (T : PermissionTable) (D : DlpPermissionModeMap) (w : Service) (inner : HapTokenInfoInner) :
    List PermissionStatus :=
  updatePermStateWithDlpInfo D inner.dlpType
    (((w.brief.resetUserGrantPermissionStatus inner.tokenID).2.permissionStateValues T
      inner.tokenID).getD [])

def resetBrief (T : PermissionTable) (D : DlpPermissionModeMap) (w : Service) (inner : HapTokenInfoInner) :
    PermissionDataBrief :=
  let b := (w.brief.resetUserGrantPermissionStatus inner.tokenID).2
  b.update T inner.tokenID (resetStates T D w inner)
    ((b.getExtendedValueList T inner.tokenID).foldl
      (fun (acl : AclExtendedMap) v => acl.insert v.permissionName v.value) ∅) false

theorem updateStatesToDB_of_rows (failing : TokenPerms) :
    ∀ (states : List PermissionStatus) (db : Database), (∀ s ∈ states, (t, s.permissionName) ∉ failing) →
      (updateStatesToDB failing t db states).1 = true
  | [], _, _ => rfl
  | s :: states, db, h => by
    rw [updateStatesToDB, if_neg (by simpa using h s List.mem_cons_self)]
    exact updateStatesToDB_of_rows failing states _ fun s' hs' => h s' (List.mem_cons_of_mem s hs')

/-- **What a reset of one token can do**: nothing, or reset its data and rows; it fails then only at the rows. -/
theorem resetUserGrantPermissionStatus_cases (T : PermissionTable) (D : DlpPermissionModeMap) (w : Service) (env : Env)
    (inner : HapTokenInfoInner) :
    (inner.tokenID ∉ w.requestedPermData ∧
        ∃ e, resetUserGrantPermissionStatus T D w env inner = (.error e, w)) ∨
      (inner.tokenID ∈ w.requestedPermData ∧ ∃ r db,
        Database.RowsFrom w.db inner.tokenID (resetStates T D w inner) db ∧
        ((∀ n, (inner.tokenID, n) ∉ env.failingRows) → r = .ok ()) ∧
        resetUserGrantPermissionStatus T D w env inner =
        (r, { w with brief := resetBrief T D w inner, db := db })) := by
  unfold resetUserGrantPermissionStatus resetBrief
  dsimp only
  rcases PermissionDataBrief.resetUserGrantPermissionStatus_cases inner.tokenID with
    ⟨hmem, heq⟩ | ⟨hmem, heq⟩
  · exact .inl ⟨hmem, _, by rw [heq]⟩
  refine .inr ⟨hmem, ?_⟩
  have hstates := congrArg (fun r => updatePermStateWithDlpInfo D inner.dlpType
    ((r.2.permissionStateValues T inner.tokenID).getD [])) heq
  have hstates : resetStates T D w inner = _ := hstates
  rw [heq]
  dsimp only at hstates ⊢
  rw [← hstates]
  generalize resetStates T D w inner = states
  have hrows := Database.rowsFrom_updateStatesToDB (t := inner.tokenID) env.failingRows states w.db
    fun _ hs => hs
  have hok := fun h : ∀ n, (inner.tokenID, n) ∉ env.failingRows =>
    updateStatesToDB_of_rows env.failingRows states w.db fun s _ => h s.permissionName
  generalize updateStatesToDB env.failingRows inner.tokenID w.db states = res at hrows hok ⊢
  obtain ⟨ok, db⟩ := res
  cases ok with
  | true => exact ⟨_, db, hrows, fun _ => rfl, rfl⟩
  | false => exact ⟨_, db, hrows, fun h => absurd (hok h) (by simp), rfl⟩

/-- **A reset of a token with permission data**, with the rows it writes. -/
theorem resetUserGrantPermissionStatus_eq (T : PermissionTable) (D : DlpPermissionModeMap) (env : Env)
    (hmem : inner.tokenID ∈ w.requestedPermData) :
    (resetUserGrantPermissionStatus T D w env inner).2 = { w with
        brief := resetBrief T D w inner
        db := (updateStatesToDB env.failingRows inner.tokenID w.db (resetStates T D w inner)).2 } := by
  unfold resetUserGrantPermissionStatus resetBrief resetStates
  dsimp only
  rcases PermissionDataBrief.resetUserGrantPermissionStatus_cases inner.tokenID with
    ⟨hno, -⟩ | ⟨-, heq⟩
  · exact absurd hmem hno
  rw [heq]
  dsimp only
  split <;> rename_i hdb <;> rw [hdb]

theorem filterInvalidPermissionState_sublist (tokenType : ATokenTypeEnum) (check : Bool) (l : List PermissionStatus) :
    (filterInvalidPermissionState T tokenType check l).Sublist l := by
  unfold filterInvalidPermissionState
  generalize ([] : List String) = seen
  induction l generalizing seen with
  | nil => exact List.Sublist.refl _
  | cons p l ih =>
    rw [filterInvalidPermissionStateFrom]
    split
    · exact (ih _).cons _
    · split
      · exact (ih _).cons _
      · exact (ih _).cons_cons _

/-- **The entries of a fresh list** come from its states. -/
theorem mem_freshList (h : d ∈ freshList T states) : ∃ st ∈ states, briefPermDataOf T st = some d := by
  obtain ⟨st, hst, hbrief⟩ := List.mem_filterMap.1 h
  exact ⟨st, (filterInvalidPermissionState_sublist .tokenHap true _).mem hst, hbrief⟩

open UserPolicyManager in
theorem mem_adjusted {records : UserPolicyRecords} {u : Int32}
    (h : d ∈ freshList T (updatePermissionStatusListForUserPolicy T records t u states)) :
    ∃ st ∈ states, ∃ d₀, briefPermDataOf T st = some d₀ ∧ withPolicyFlag records t u d₀ = d := by
  unfold freshList at h
  rw [filterMap_adjusted] at h
  obtain ⟨d₀, hd₀, heq⟩ := List.mem_map.1 h
  obtain ⟨st, hst, hbrief⟩ := mem_freshList hd₀
  exact ⟨st, hst, d₀, hbrief, heq⟩

/-- States that come from distinct codes of the table lead to entries with distinct codes. -/
theorem freshList_codes_nodup {codes : List Nat}
    (h : states.map (·.permissionName) = codes.map T.transferOpcodeToPermission) (hnd : codes.Nodup)
    (hlt : ∀ c ∈ codes, c < T.permList.length) : ((freshList T states).map permCode).Nodup := by
  have hall : states.filterMap (fun st => T.transferPermissionToOpcode st.permissionName) = codes := by
    have : states.filterMap (fun st => T.transferPermissionToOpcode st.permissionName) =
        (states.map (·.permissionName)).filterMap T.transferPermissionToOpcode := by
      rw [List.filterMap_map]; rfl
    rw [this, h, List.filterMap_map]
    refine (List.filterMap_congr fun c hc => ?_).trans List.filterMap_some
    exact PermissionTable.transferPermissionToOpcode_transferOpcode (hlt c hc)
  refine (hall ▸ hnd).sublist ?_
  refine List.Sublist.trans ?_ ((filterInvalidPermissionState_sublist (T := T) .tokenHap true states).filterMap _)
  unfold freshList
  generalize filterInvalidPermissionState T .tokenHap true states = l
  induction l with
  | nil => exact List.Sublist.refl _
  | cons st l ih =>
    cases hd : briefPermDataOf T st with
    | none =>
      rw [List.filterMap_cons_none hd]
      refine ih.trans (List.Sublist.filterMap _ (List.sublist_cons_self st l))
    | some =>
      have hcode := (briefPermDataOf_eq_some hd).2.2.1
      simp only [List.filterMap_cons, hd, hcode, List.map_cons]
      exact ih.cons_cons _

def resetState (T : PermissionTable) (D : DlpPermissionModeMap) (dlpType : Int32) (d : BriefPermData) :
    PermissionStatus where
  permissionName := T.transferOpcodeToPermission d.permCode
  grantStatus :=
    if (resetPermState d).status == permissionDenied ||
        isPermDlpModeAvailableToDlpHap dlpType (getPermDlpMode D (T.transferOpcodeToPermission d.permCode)) then
      (resetPermState d).status
    else permissionDenied
  grantFlag := (resetPermState d).flag

theorem resetStates_eq (T : PermissionTable) (D : DlpPermissionModeMap)
    (hl : w.requestedPermData[inner.tokenID]? = some l) :
    resetStates T D w inner = l.map (resetState T D inner.dlpType) := by
  have hmem : inner.tokenID ∈ w.requestedPermData := mem_of_getElem? hl
  unfold resetStates
  rcases PermissionDataBrief.resetUserGrantPermissionStatus_cases inner.tokenID with
    ⟨hno, -⟩ | ⟨-, heq⟩
  · exact absurd hmem hno
  rw [heq]
  simp only [permissionStateValues, getElem?_modify_self, hl, Option.map_some,
    Option.getD_some, updatePermStateWithDlpInfo, List.map_map]
  refine List.map_congr_left fun d _ => ?_
  simp only [comp_apply, resetState, resetPermState_permCode, Bool.or_eq_true]
  split
  · rename_i hdenied
    rw [if_pos (.inl hdenied)]
  rename_i hdenied
  split
  · rename_i havailable
    rw [if_pos (.inr havailable)]
  · rename_i havailable
    rw [if_neg (not_or.2 ⟨hdenied, havailable⟩)]

theorem isGrantStatusValid_resetState {dlpType : Int32}
    (h : isGrantStatusValid d.status = true) : isGrantStatusValid (resetState T D dlpType d).grantStatus = true := by
  unfold resetState
  split
  · exact isGrantStatusValid_resetPermState h
  · rfl

section

variable (hl : w.requestedPermData[inner.tokenID]? = some l)
include hl

theorem resetStates_names :
    (resetStates T D w inner).map (·.permissionName) =
      (l.map permCode).map T.transferOpcodeToPermission := by
  rw [resetStates_eq T D hl, List.map_map, List.map_map]
  rfl

theorem mem_resetStates {st : PermissionStatus}
    (hst : st ∈ resetStates T D w inner) : ∃ d ∈ l, st.permissionName = T.transferOpcodeToPermission d.permCode ∧
      st.grantFlag = (resetPermState d).flag := by
  rw [resetStates_eq T D hl] at hst
  obtain ⟨d, hd, rfl⟩ := List.mem_map.1 hst
  exact ⟨d, hd, rfl, rfl⟩

end

theorem resetStates_codes_nodup (h : w.Sound T) (hmem : inner.tokenID ∈ w.requestedPermData) :
    ((freshList T (resetStates T D w inner)).map permCode).Nodup := by
  have hl := getElem?_eq_some_getElem hmem
  have hgood := h.brief.lists _ _ hl
  refine freshList_codes_nodup (resetStates_names hl) hgood.nodup fun c hc => ?_
  obtain ⟨d, hd, rfl⟩ := List.mem_map.1 hc
  exact hgood.inTable d hd

theorem Sound.resetBrief (h : w.Sound T) (D : DlpPermissionModeMap)
    (hmem : inner.tokenID ∈ w.requestedPermData) :
    BriefSound T (· ∈ w.hapTokenInfoMap) (resetBrief T D w inner) :=
  h.brief.reset.update _ _ _ (h.brief.owned _ hmem) (resetStates_codes_nodup h hmem)

theorem resetBrief_eq (T : PermissionTable) (D : DlpPermissionModeMap)
    (hl : w.requestedPermData[inner.tokenID]? = some l) :
    (resetBrief T D w inner).requestedPermData[inner.tokenID]? =
        some ((freshList T (resetStates T D w inner)).map (mergeOnUpdate (l.map resetPermState) false)) ∧
      (∀ x : AccessTokenID, x ≠ inner.tokenID →
        (resetBrief T D w inner).requestedPermData[x]? = w.requestedPermData[x]?) ∧
      ∀ x c, (resetBrief T D w inner).HasSecComp x c ↔ x ≠ inner.tokenID ∧ w.HasSecComp x c := by
  unfold resetBrief
  dsimp only
  generalize (List.foldl _ _ _ : AclExtendedMap) = acl
  generalize resetStates T D w inner = states
  rcases PermissionDataBrief.resetUserGrantPermissionStatus_cases inner.tokenID with
    ⟨hno, -⟩ | ⟨-, heq⟩
  · exact absurd (mem_of_getElem? hl) hno
  rw [heq]
  obtain ⟨hreq, hsec⟩ := update_eq inner.tokenID states acl false
  refine ⟨?_, fun x hx => ?_, fun x c => ?_⟩
  · rw [hreq, getElem?_insert_self, getD_eq_getD_getElem?,
      getElem?_modify_self, hl]
    rfl
  · rw [hreq, Lib.getElem?_insert_of_ne hx, Lib.getElem?_modify, if_neg hx]
  · rw [HasSecComp, hsec]
    simp [HasSecComp, List.mem_filter, and_comm]

/-- **What clearing a token's grants can do**: no more than its lookup, or the reset of its data and rows; where no row
fails, the kernel then gets the grants left. -/
theorem clearUserGrantedPermission_cases (T : PermissionTable) (D : DlpPermissionModeMap) (w : Service) (env : Env)
    (id : AccessTokenID) :
    ∃ w₁ : Service, (getHapTokenInfoInner T w env.findOk id).2 = w₁ ∧
      ((clearUserGrantedPermission T D w env id).2 = w₁ ∨
        ∃ inner db k, w₁.hapTokenInfoMap[id]? = some inner ∧ inner.tokenID ∈ w₁.requestedPermData ∧
          Database.RowsFrom w₁.db inner.tokenID (resetStates T D w₁ inner) db ∧
          (env.failingRows = [] →
            k = w₁.kernel.addPermissionToKernel id ((resetBrief T D w₁ inner).getGrantedPermCodeList id)) ∧
          (clearUserGrantedPermission T D w env id).2 =
            { w₁ with brief := resetBrief T D w₁ inner, db := db, kernel := k }) := by
  refine ⟨_, rfl, ?_⟩
  have hsome := @getHapTokenInfoInner_some T w env.findOk id
  unfold clearUserGrantedPermission
  generalize getHapTokenInfoInner T w env.findOk id = res at hsome ⊢
  obtain ⟨found, w₁⟩ := res
  cases found with
  | none => exact .inl rfl
  | some inner =>
    dsimp only
    split
    · exact .inl rfl
    rcases resetUserGrantPermissionStatus_cases T D w₁ env inner with ⟨-, e, heq⟩ | ⟨hmem, r, db, hrows, hok, heq⟩
    · rw [heq]
      exact .inl rfl
    rw [heq]
    refine .inr ⟨inner, db, ?_⟩
    cases r with
    | error =>
      refine ⟨w₁.kernel, hsome rfl, hmem, hrows, fun hno => ?_, rfl⟩
      exact nomatch hok fun n hn => by simp [hno] at hn
    | ok => exact ⟨_, hsome rfl, hmem, hrows, fun _ => rfl, rfl⟩

/-- **A reset of a token and of its sandboxes** keeps what the reset of each one keeps. -/
theorem clearUserGrantedPermissionState_keeps {P : Service → Prop}
    (hclear : ∀ w id, P w → P (clearUserGrantedPermission T D w env id).2) (h : P w) (id : AccessTokenID) :
    P (clearUserGrantedPermissionState T D w env id).2 := by
  have hfirst := hclear w id h
  unfold clearUserGrantedPermissionState
  split <;> rename_i heq <;> rw [heq] at hfirst
  · exact hfirst
  · exact List.foldlRecOn _ _ hfirst fun w hw x _ => hclear w x hw

theorem Sound.addGranted (h : w.Sound T) : (w.addGrantedHapPermsToKernel t).Sound T :=
  h.of_brief rfl rfl rfl rfl h.brief

theorem Sound.clearUserGrantedPermission (h : w.Sound T) (env : Env) (id : AccessTokenID) :
    (clearUserGrantedPermission T D w env id).2.Sound T := by
  have h₁ := h.load env.findOk id
  obtain ⟨w₁, hw₁, heq | ⟨inner, db, k, -, hmem, hrows, -, heq⟩⟩ := clearUserGrantedPermission_cases T D w env id
  all_goals rw [hw₁] at h₁; rw [heq]
  · exact h₁
  · exact h₁.of_brief rfl rfl rfl hrows.hapTokenInfo (h₁.resetBrief D hmem)

end Service
end AccessToken
