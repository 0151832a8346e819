import AccessToken.Service.Lasting
/-!
# What an operation does to one entry

A token in memory is found there by every operation that names it, so what a grant, a revoke or an update makes of one
of its entries depends on the entry, the object and the arguments alone.
-/
namespace AccessToken.Service

open PermissionDataBrief Std.ExtTreeMap
open UserPolicyManager (withPolicyFlag)

variable {T : PermissionTable} {D : DlpPermissionModeMap} {w w' w₀ : Service} {t x : AccessTokenID} {c : Nat}
    {d : BriefPermData} {inner : HapTokenInfoInner} {n : String} {states : List PermissionStatus} {env : Env} {g : Bool}
    {fl : Flag}

theorem Lasting.live (h : w.Lasting T) (hd : w.entry t c = some d) : t ∈ w.hapTokenInfoMap := by
  obtain ⟨l, hl, -⟩ := mem_of_entry hd
  exact h.owned t (mem_of_getElem? hl)

theorem Lasting.getHapTokenInfo_of_live (h : w.Lasting T) (hget : w.hapTokenInfoMap[t]? = some inner) (env : Env) :
    getHapTokenInfo T w env t = (some inner.tokenInfoBasic, w) := by
  have hplain : AccessTokenIDInner.typeExt t = 0 := (h.ids.live t (mem_of_getElem? hget)).2.2
  unfold getHapTokenInfo resolveQueryTokenID
  rw [hplain, if_pos (by decide)]
  dsimp only
  rw [getHapTokenInfoInner_of_live hget]
  rfl

/-! ## Grants and revokes -/

theorem entry_updateAndNotify (env : Env) (g : Bool) (fl : Flag) (hid : inner.tokenID = t)
    (hc : T.transferPermissionToOpcode n = some c) (hd : w.entry t c = some d) :
    (updateAndNotify T w env inner n g fl).2.entry t c = some (grantedEntry g fl d) := by
  rw [(updateAndNotify_stores ..).1, grantedBrief, hid]
  exact entry_updatePermissionStatus g fl hc hd

theorem entry_updateAndNotify_of_ne (hne : inner.tokenID ≠ t) :
    (updateAndNotify T w env inner n g fl).2.entry t c = w.entry t c := by
  rw [(updateAndNotify_stores ..).1, grantedBrief]
  rcases PermissionDataBrief.updatePermissionStatus_cases inner.tokenID n g fl with
    hsame | ⟨c', -, ⟨-, d', -, -, -, hbrief⟩ | ⟨-, -, -, -, -, hbrief⟩⟩
  · rw [hsame]
  · rw [hbrief, entry_modifyEntry (updatedPermState_permCode g fl),
      if_neg (fun h => hne h.1)]
  · rw [hbrief, entry_setSecComp, if_neg (fun h => hne h.1)]

def SameTokens (w w' : Service) : Prop :=
  (∀ (x : AccessTokenID) info, w.hapTokenInfoMap[x]? = some info → w'.hapTokenInfoMap[x]? = some info) ∧
    w'.policy = w.policy

theorem SameTokens.refl : SameTokens w w := ⟨fun _ _ => id, rfl⟩

theorem SameTokens.load (h : SameTokens w₀ w) {findOk : Bool} :
    SameTokens w₀ (getHapTokenInfoInner T w findOk x).2 := by
  refine ⟨fun y info hy => load_keeps (h.1 y info hy), ?_⟩
  rcases getHapTokenInfoInner_cases T w findOk x with ⟨_, _, heq⟩ | ⟨_, m, b, _, _, heq⟩ |
    ⟨_, _, row, basic, _, _, _, heq⟩
  all_goals
    rw [heq]
    exact h.2

theorem SameTokens.updateAndNotify (h : SameTokens w₀ w) : SameTokens w₀ (updateAndNotify T w env inner n g fl).2 := by
  rcases updateAndNotify_cases T w env inner n g fl with ⟨e, heq⟩ | ⟨c, db, _, _, heq⟩ <;> rw [heq] <;> exact h

theorem sameTokens_changePermission (T : PermissionTable) (D : DlpPermissionModeMap) (w : Service) (env : Env)
    (id : AccessTokenID) (n : String) (g : Bool) (fl : Flag) (updateFlag : Int32) :
    SameTokens w (changePermission T D w env id n g fl updateFlag).2 :=
  changePermission_invariant (SameTokens w) (fun _ _ hw => hw.load)
    (fun _ _ _ _ _ hw _ _ (_ : True) => hw.updateAndNotify) .refl
    (updatePermissionMeets_of_forall T D env g fl (fun _ _ => trivial))

theorem Lasting.entry_updateTokenPermissionState_of_ne (h : w.Lasting T) (ht : t ∈ w.hapTokenInfoMap) (hx : x ≠ t) :
    (updateTokenPermissionState T D w env x n g fl).2.entry t c = w.entry t c := by
  have hload := h.load env.findOk x
  have hentry := @entry_load T w env.findOk x t ht c
  have hsome := @getHapTokenInfoInner_some T w env.findOk x
  unfold updateTokenPermissionState
  generalize getHapTokenInfoInner T w env.findOk x = res at hload hentry hsome ⊢
  obtain ⟨found, w₁⟩ := res
  cases found with
  | none => exact hentry
  | some inner =>
    dsimp only
    split
    · exact hentry
    · rw [entry_updateAndNotify_of_ne]
      · exact hentry
      · rw [hload.keyed x inner (hsome rfl)]
        exact hx

theorem isPermissionFlagValid_of_checked (h : checkPermissionParams T n fl = .ok ()) :
    isPermissionFlagValid fl = true := by
  unfold checkPermissionParams at h
  split at h
  · cases h
  split at h
  · cases h
  · split at h
    · cases h
    · rename_i hflag
      simpa using (not_or.1 (fun hor => hflag (Bool.or_eq_true_iff.2 hor))).1

/-- The write of the token reaches its entry, and the writes of its sandboxes leave it. -/
theorem Lasting.entry_updatePermission (h : w.Lasting T)
    (hfl : isPermissionFlagValid fl = true) (hcheck : updateTokenPermissionStateCheck D env inner n g fl = .ok ())
    (hget : w.hapTokenInfoMap[t]? = some inner) (hc : T.transferPermissionToOpcode n = some c)
    (hd : w.entry t c = some d) :
    (updatePermission T D w env t n g fl).2.entry t c = some (grantedEntry g fl d) := by
  have hw₁ := h.updateAndNotify env inner n g hfl
  have hlive₁ : t ∈ (Service.updateAndNotify T w env inner n g fl).2.hapTokenInfoMap :=
    mem_of_getElem? ((SameTokens.refl.updateAndNotify).1 t inner hget)
  have hentry₁ := entry_updateAndNotify env g fl (h.keyed t inner hget) hc hd
  unfold updatePermission
  rw [updateTokenPermissionState_of_live hget hcheck]
  generalize Service.updateAndNotify T w env inner n g fl = res at hw₁ hlive₁ hentry₁ ⊢
  obtain ⟨ret, w₁⟩ := res
  cases ret with
  | error => exact hentry₁
  | ok =>
    let Kept : Service → Prop := fun w => w.Lasting T ∧ t ∈ w.hapTokenInfoMap ∧ w.entry t c = some (grantedEntry g fl d)
    have hfold : Kept ((w₁.getRelatedSandBoxHapList t).foldl
        (fun w id => (updateTokenPermissionState T D w env id n g fl).2) w₁) := by
      refine List.foldlRecOn _ _ ⟨hw₁, hlive₁, hentry₁⟩ fun w₂ hw₂ x hx => ?_
      obtain ⟨hw₂, hlive₂, hentry₂⟩ := hw₂
      have hne := (mem_of_related hw₁.toTokensSound hx).1
      refine ⟨?_, ?_, (hw₂.entry_updateTokenPermissionState_of_ne hlive₂ hne).trans hentry₂⟩
      · exact updateTokenPermissionState_invariant (Lasting T) (fun _ x hw => hw.load env.findOk x)
          (fun _ _ inner n hw _ _ (_ : True) => hw.updateAndNotify env inner n g hfl) hw₂ (fun _ _ => trivial)
      obtain ⟨info, hinfo⟩ := Lib.mem_iff_exists.1 hlive₂
      have hsame : SameTokens w₂ (updateTokenPermissionState T D w₂ env x n g fl).2 :=
        updateTokenPermissionState_invariant (SameTokens w₂) (fun _ x hw => hw.load)
          (fun _ _ inner n hw _ _ (_ : True) => hw.updateAndNotify) .refl (fun _ _ => trivial)
      exact mem_of_getElem? (hsame.1 t info hinfo)
    exact hfold.2.2

/-- **Granting or revoking a permission of a token in memory**: whether the call gets past its checks is a matter of the
object and the arguments, and then the entry alone decides what becomes of it. -/
theorem exists_changePermission (D : DlpPermissionModeMap) (env : Env) (inner : HapTokenInfoInner)
    (t : AccessTokenID) (g : Bool) (fl : Flag) (updateFlag : Int32) (hc : T.transferPermissionToOpcode n = some c) :
    ∃ reaches : Bool, ∀ (w : Service) d, w.Lasting T → w.hapTokenInfoMap[t]? = some inner → w.entry t c = some d →
      (changePermission T D w env t n g fl updateFlag).2.entry t c =
        some (if reaches then grantedEntry g fl d else d) := by
  unfold changePermission
  cases hparam : checkPermissionUpdateParam t n fl updateFlag with
  | error => exact ⟨false, fun w d _ _ hd => hd⟩
  | ok =>
  cases hcaller : env.caller with
  | error => exact ⟨false, fun w d _ _ hd => hd⟩
  | ok =>
  dsimp only
  split
  · exact ⟨false, fun w d _ _ hd => hd⟩
  unfold checkAndUpdatePermissionInner
  cases hparams : checkPermissionParams T n fl with
  | error => exact ⟨false, fun w d _ _ hd => hd⟩
  | ok =>
  cases hcheck : updateTokenPermissionStateCheck D env inner n g fl with
  | error =>
    refine ⟨false, fun w d hw hget hd => ?_⟩
    rw [hw.getHapTokenInfo_of_live hget]
    simp only [updatePermission, updateTokenPermissionState, getHapTokenInfoInner_of_live hget, hcheck]
    exact hd
  | ok =>
    refine ⟨true, fun w d hw hget hd => ?_⟩
    rw [hw.getHapTokenInfo_of_live hget]
    have hvalid := isPermissionFlagValid_of_checked hparams
    exact hw.entry_updatePermission hvalid hcheck hget hc hd

/-! ## Updates -/

/-- The checks of `UpdateHapToken` before anything is changed, for a local token in memory. -/
def updateReaches (env : Env) (info : UpdateHapInfoParams) : Bool := isAppIdDescValid info.appIDDesc && env.oldStatesOk

def mergedEntry (need : Bool) (d n : BriefPermData) : BriefPermData :=
  if need && !Lib.hasAny d.flag permissionFixedByAdminPolicy then n else updatePermStatus d n

theorem Lasting.updateHapToken_of_live (h : w.Lasting T) (hget : w.hapTokenInfoMap[t]? = some inner) (env : Env)
    (info : UpdateHapInfoParams) (states : List PermissionStatus) (policy : HapPolicy) :
    (updateReaches env info = false ∧ (Service.updateHapToken T w env t info states policy).2 = w) ∨
      (updateReaches env info = true ∧ ∃ db k, (Service.updateHapToken T w env t info states policy).2 =
        { Service.updatedFrom T w t inner info states policy with db := db, kernel := k }) := by
  unfold Service.updateHapToken updateReaches
  cases isAppIdDescValid info.appIDDesc with
  | false => exact .inl ⟨rfl, rfl⟩
  | true =>
  rw [getHapTokenInfoInner_of_live hget]
  dsimp only
  rw [h.localOnly t inner hget, if_neg (by decide), if_neg Bool.false_ne_true]
  cases env.oldStatesOk with
  | false => exact .inl ⟨rfl, rfl⟩
  | true =>
    refine .inr ⟨rfl, ?_⟩
    generalize ((updateHapInfo T w t inner info _ policy).hapTokenInfoMap[t]?).getD inner = stored
    rcases addHapTokenInfoToDb_cases T (Service.updatedFrom T w t inner info states policy) env.transactionOk
      stored true with
      ⟨e, heq, -⟩ | ⟨-, heq⟩
    all_goals
      unfold Service.updatedFrom adjustedStates at heq
      rw [heq]
      exact ⟨_, _, rfl⟩

theorem find?_mergedList {n : BriefPermData} {info : UpdateHapInfoParams} {policy : HapPolicy}
    (hn : (freshList T states).find? (hasCode c) = some n) (hd : w.entry t c = some d) :
    (mergedList T w t inner info states policy).find? (hasCode c) =
      some (mergedEntry (needUpdatePermByProvision info policy (updatedAppAttr info inner.tokenAttr)) d
        (withPolicyFlag w.policy.records t inner.userID n)) := by
  obtain ⟨l, hl, hfind⟩ := Option.bind_eq_some_iff.1 hd
  have hcode : n.permCode = c := by simpa [hasCode] using List.find?_some hn
  have hmerge : ∀ old need, hasCode c ∘ mergeOnUpdate old need = hasCode c := by
    intro old need
    funext d
    simp [hasCode]
  have hflag : hasCode c ∘ withPolicyFlag w.policy.records t inner.userID = hasCode c := by
    funext d
    simp [hasCode, withPolicyFlag]
  unfold mergedList
  rw [List.find?_map, hmerge]
  unfold freshList adjustedStates
  rw [UserPolicyManager.filterMap_adjusted, List.find?_map, hflag]
  have hn' : List.find? (hasCode c) ((filterInvalidPermissionState T .tokenHap true states).filterMap
      (briefPermDataOf T)) = some n := hn
  rw [hn', Option.map_some, Option.map_some, getD_eq_getD_getElem?, hl]
  unfold mergeOnUpdate mergedEntry
  have hold : (Option.getD (some l) []).find? (hasCode (withPolicyFlag w.policy.records t inner.userID n).permCode) =
      some d := by
    rw [show (withPolicyFlag w.policy.records t inner.userID n).permCode = c from hcode]
    exact hfind
  rw [hold]

/-- **The entry of a permission an update keeps.** -/
theorem Lasting.entry_updatedFrom (h : w.Lasting T) (hget : w.hapTokenInfoMap[t]? = some inner) {n : BriefPermData}
    (info : UpdateHapInfoParams) (policy : HapPolicy)
    (hn : (freshList T states).find? (hasCode c) = some n) (hd : w.entry t c = some d) :
    (Service.updatedFrom T w t inner info states policy).entry t c =
      some (mergedEntry (needUpdatePermByProvision info policy (updatedAppAttr info inner.tokenAttr)) d
        (withPolicyFlag w.policy.records t inner.userID n)) := by
  rw [entry, (h.toTokensSound.updatedFrom_brief T hget info states policy).1,
    getElem?_insert_self, Option.bind_some]
  exact find?_mergedList hn hd

/-! ## Resets of a token and its sandboxes -/

theorem TokensSound.related_nodup (h : w.TokensSound) : (w.getRelatedSandBoxHapList t).Nodup := by
  unfold getRelatedSandBoxHapList
  split
  · exact List.nodup_nil
  dsimp only
  split
  · exact List.nodup_nil
  rw [List.filter_map, List.map_map]
  refine List.pairwise_map.2 (List.Pairwise.imp_of_mem (fun {a b} ha hb hne heq => hne ?_)
    (distinct_keys_toList.sublist List.filter_sublist))
  have hkey : ∀ e ∈ w.hapTokenInfoMap.toList, e.2.tokenID = e.1 := fun e he =>
    h.keyed e.1 e.2 (mem_toList_iff_getElem?_eq_some.1 he)
  rw [Std.compare_eq_iff_eq, ← hkey a (List.mem_of_mem_filter ha), ← hkey b (List.mem_of_mem_filter hb)]
  exact heq

theorem Lasting.clear_frame (h : w.Lasting T) (D : DlpPermissionModeMap) (env : Env) {y : AccessTokenID}
    (hx : x ∈ w.hapTokenInfoMap) (hy : y ≠ x) :
    (Service.clearUserGrantedPermission T D w env x).2.hapTokenInfoMap = w.hapTokenInfoMap ∧
      (Service.clearUserGrantedPermission T D w env x).2.policy = w.policy ∧
      (Service.clearUserGrantedPermission T D w env x).2.requestedPermData[y]? = w.requestedPermData[y]? := by
  obtain ⟨inner, hget⟩ := Lib.mem_iff_exists.1 hx
  obtain ⟨_, rfl, hcases⟩ := clearUserGrantedPermission_cases T D w env x
  rw [getHapTokenInfoInner_of_live hget] at hcases
  obtain heq | ⟨inner', db, k, hget', hmem, -, -, heq⟩ := hcases
  · rw [heq]
    exact ⟨rfl, rfl, rfl⟩
  have hother := (resetBrief_eq T D (getElem?_eq_some_getElem hmem)).2.1 y
    (by rw [h.keyed x inner' hget']; exact hy)
  rw [heq]
  exact ⟨rfl, rfl, hother⟩

theorem clearUserGrantedPermission_load (T : PermissionTable) (D : DlpPermissionModeMap) (w : Service) (env : Env)
    (id : AccessTokenID) :
    clearUserGrantedPermission T D w env id = (.error .errParamInvalid, (getHapTokenInfoInner T w env.findOk id).2) ∨
      (id ∈ (getHapTokenInfoInner T w env.findOk id).2.hapTokenInfoMap ∧
        clearUserGrantedPermission T D w env id =
          clearUserGrantedPermission T D (getHapTokenInfoInner T w env.findOk id).2 env id) := by
  have hsome := @getHapTokenInfoInner_some T w env.findOk id
  unfold clearUserGrantedPermission
  generalize getHapTokenInfoInner T w env.findOk id = res at hsome ⊢
  obtain ⟨found, w₁⟩ := res
  cases found with
  | none => exact .inl rfl
  | some inner =>
    have hget : w₁.hapTokenInfoMap[id]? = some inner := hsome rfl
    rw [getHapTokenInfoInner_of_live hget]
    exact .inr ⟨mem_of_getElem? hget, rfl⟩

section ResetInvariant

variable {env : Env} {Inv : Service → Prop} {ok : Service → AccessTokenID → Prop}
variable (hlast : ∀ w, Inv w → w.Lasting T) (hload : ∀ w id, Inv w → Inv (getHapTokenInfoInner T w env.findOk id).2)
variable (hclear : ∀ w id, Inv w → id ∈ w.hapTokenInfoMap → ok w id → Inv (clearUserGrantedPermission T D w env id).2)
variable
    (hframe : ∀ (w w' : Service) (y : AccessTokenID), w'.hapTokenInfoMap = w.hapTokenInfoMap → w'.policy = w.policy →
      w'.requestedPermData[y]? = w.requestedPermData[y]? → ok w y → ok w' y)

include hlast hclear hframe in
/-- **Resets of several tokens in memory**, each of them once. -/
theorem foldl_clear_invariant : ∀ (l : List AccessTokenID) (w : Service), l.Nodup → Inv w →
    (∀ x ∈ l, x ∈ w.hapTokenInfoMap ∧ ok w x) →
      Inv (l.foldl (fun w id => (clearUserGrantedPermission T D w env id).2) w)
  | [], _, _, h, _ => h
  | x :: l, w, hnd, h, hok => by
    obtain ⟨hx, hnd⟩ := List.nodup_cons.1 hnd
    obtain ⟨hlive, hsafe⟩ := hok x List.mem_cons_self
    refine foldl_clear_invariant l _ hnd (hclear w x h hlive hsafe) fun y hy => ?_
    have hne : y ≠ x := fun (heq : y = x) => hx (heq ▸ hy)
    obtain ⟨hylive, hysafe⟩ := hok y (List.mem_cons_of_mem x hy)
    obtain ⟨hmap, hpolicy, hlist⟩ := (hlast w h).clear_frame D env hlive hne
    exact ⟨by rw [hmap]; exact hylive, hframe w _ y hmap hpolicy hlist hysafe⟩

include hlast hload hclear hframe in
/-- **A reset of a token and of its sandboxes** keeps what the reset of each one keeps. -/
theorem clearUserGrantedPermissionState_invariant (h : Inv w) {id : AccessTokenID}
    (hok : ∀ x ∈ id :: (getHapTokenInfoInner T w env.findOk id).2.getRelatedSandBoxHapList id,
      ok (getHapTokenInfoInner T w env.findOk id).2 x) :
    Inv (clearUserGrantedPermissionState T D w env id).2 := by
  have hw₁ := hload w id h
  unfold clearUserGrantedPermissionState
  rcases clearUserGrantedPermission_load T D w env id with heq | ⟨hlive, heq⟩
  · rw [heq]
    exact hw₁
  rw [heq]
  generalize (getHapTokenInfoInner T w env.findOk id).2 = w₁ at hw₁ hlive hok ⊢
  have hfirst := hclear w₁ id hw₁ hlive (hok id List.mem_cons_self)
  have hothers := fun y (hy : y ≠ id) => (hlast w₁ hw₁).clear_frame D env hlive hy
  generalize clearUserGrantedPermission T D w₁ env id = res at hfirst hothers ⊢
  obtain ⟨r, w₂⟩ := res
  cases r with
  | error => exact hfirst
  | ok =>
    have hsound := (hlast w₂ hfirst).toTokensSound
    refine foldl_clear_invariant hlast hclear hframe _ _ hsound.related_nodup hfirst fun x hx => ?_
    obtain ⟨hne, info, hinfo⟩ := mem_of_related hsound hx
    obtain ⟨hmap, hpolicy, hlist⟩ := hothers x hne
    have hrelated : w₂.getRelatedSandBoxHapList id = w₁.getRelatedSandBoxHapList id := by
      unfold getRelatedSandBoxHapList
      rw [show w₂.hapTokenInfoMap = w₁.hapTokenInfoMap from hmap]
    exact ⟨mem_of_getElem? hinfo, hframe w₁ w₂ x hmap hpolicy hlist (hok x (List.mem_cons_of_mem id (hrelated ▸ hx)))⟩

end ResetInvariant

end AccessToken.Service
