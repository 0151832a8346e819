import AccessToken.Service.Callbacks
/-!
# What a subscriber of the permission callbacks knows

`Follows` says that a subscriber of one permission of one token knows what verification answers, and was told nothing
twice; `KeepsFollowing` says which steps keep it so.  A token that was removed must not come back by a lookup (`Gone`).
-/
namespace AccessToken

open Std.ExtTreeMap (getElem?_eq_some_getElem isEmpty_iff mem_iff_isSome_getElem?)
namespace Service

open Lib (hasAny Reaches Always mem_erase mem_insert)
open PermissionDataBrief UserPolicyManager AccessTokenIDManager

variable {T : PermissionTable} {D : DlpPermissionModeMap} {w w' : Service}

/-! ## What the subscriber knows -/

/-- The token is not in memory and no lookup brings it back. -/
structure Gone (w : Service) (t : AccessTokenID) : Prop where
  dead : t ∉ w.hapTokenInfoMap
  noLoad : t ∉ w.db.hapTokenInfo ∨
    (t ∉ w.tokenIdSet ∧ (t ∈ w.reservedTokenIdSet ∨ t ∈ w.untrustedTokenIdSet))

/-- **The subscriber of permission `c` of token `t` knows what verification answers**, and was told nothing twice. -/
structure Follows (T : PermissionTable) (t : AccessTokenID) (c : Nat) (w : Service) (v : View) : Prop where
  mirrored : w.Mirrored T
  seen : v.seen = w.isGranted t c
  clean : v.clean = true
  there : t ∈ w.hapTokenInfoMap ∨ w.Gone t

variable {t : AccessTokenID} {c : Nat} {v : View}

theorem Follows.follow (h : Follows T t c w v) (hm : w'.Mirrored T) (hthere : t ∈ w'.hapTokenInfoMap ∨ w'.Gone t) :
    Follows T t c w' (v.follow (w.isGranted t c) (w'.isGranted t c)) := by
  unfold View.follow
  split
  · rename_i heq
    exact ⟨hm, heq ▸ h.seen, h.clean, hthere⟩
  · rename_i hne
    refine ⟨hm, rfl, ?_, hthere⟩
    rw [h.clean, h.seen]
    simpa using hne

theorem Follows.silent (h : Follows T t c w v) (hm : w'.Mirrored T) (hsame : w'.isGranted t c = w.isGranted t c)
    (hthere : t ∈ w'.hapTokenInfoMap ∨ w'.Gone t) : Follows T t c w' v := by
  have := h.follow hm hthere
  rwa [hsame, View.follow_self] at this

theorem isGranted_of_dead (h : w.Sound T) (hdead : t ∉ w.hapTokenInfoMap) : w.isGranted t c = false := by
  unfold isGranted verifyPermissionStatus
  rw [Std.ExtTreeMap.getElem?_eq_none (h.not_requested hdead)]
  rfl

/-! ## Looking up -/

theorem Gone.of_eq (h : w.Gone t) (hinfo : w'.hapTokenInfoMap = w.hapTokenInfoMap)
    (hrows : w'.db.hapTokenInfo = w.db.hapTokenInfo) (hids : w'.idManager = w.idManager) : w'.Gone t :=
  ⟨hinfo ▸ h.dead, by rw [hrows, hids]; exact h.noLoad⟩

variable {m : AccessTokenIDManager} {x id : AccessTokenID} {failing : TokenPerms}
    {reserved dbOk held r g persist : Bool} {info inner : HapTokenInfoInner} {n : String} {c' : Nat} {env : Env}
    {fl : Flag} {d : BriefPermData} {e : AccessTokenError}

theorem Gone.of_ids (h : w.Gone t) (hactive : t ∈ m.tokenIdSet → t ∈ w.tokenIdSet)
    (hreserved : t ∈ w.reservedTokenIdSet → t ∈ m.reservedTokenIdSet)
    (huntrusted : t ∈ w.untrustedTokenIdSet → t ∈ m.untrustedTokenIdSet) (hids : w'.idManager = m)
    (hdead : t ∉ w'.hapTokenInfoMap) (hrow : t ∈ w'.db.hapTokenInfo → t ∈ w.db.hapTokenInfo) : w'.Gone t := by
  refine ⟨hdead, ?_⟩
  rw [hids]
  exact h.noLoad.imp (fun hh ht => hh (hrow ht)) fun hh => ⟨fun ht => hh.1 (hactive ht), hh.2.imp hreserved huntrusted⟩

theorem addReservedTokenId_sets (id : AccessTokenID) : (m.addReservedTokenId id).tokenIdSet = m.tokenIdSet ∧
      (∀ x ∈ m.reservedTokenIdSet, x ∈ (m.addReservedTokenId id).reservedTokenIdSet) ∧
      (m.addReservedTokenId id).untrustedTokenIdSet = m.untrustedTokenIdSet ∧
      (id ∉ m.tokenIdSet → id ∈ (m.addReservedTokenId id).reservedTokenIdSet ∨
        id ∈ (m.addReservedTokenId id).untrustedTokenIdSet) := by
  unfold addReservedTokenId
  split
  · rename_i hknown
    refine ⟨rfl, fun _ hx => hx, rfl, fun hout => ?_⟩
    rw [getTokenIdStatusLocked_isSome] at hknown
    exact hknown.resolve_left hout
  · exact ⟨rfl, fun x hx => Lib.mem_set_insert.2 (.inr hx), rfl, fun _ => .inl (Lib.mem_set_insert.2 (.inl rfl))⟩

theorem releaseTokenId_sets (id : AccessTokenID) : (m.releaseTokenId id).reservedTokenIdSet = m.reservedTokenIdSet ∧
      (m.releaseTokenId id).untrustedTokenIdSet = m.untrustedTokenIdSet := by
  unfold releaseTokenId
  split <;> exact ⟨rfl, rfl⟩

theorem Gone.load (h : w.Gone t) (findOk : Bool) (id : AccessTokenID) :
    (getHapTokenInfoInner T w findOk id).2.Gone t := by
  rcases getHapTokenInfoInner_cases T w findOk id with ⟨info, -, heq⟩ | ⟨-, m, b, hm, -, heq⟩ |
    ⟨-, hactive, row, basic, hrow, -, -, heq⟩
  · rw [heq]
    exact h
  · rw [heq]
    obtain ⟨-, hgrows, hsame, -⟩ := addReservedTokenId_sets id
    rcases hm with rfl | rfl
    · exact h.of_eq rfl rfl rfl
    · exact h.of_ids (by simp) (hgrows t) (fun ht => hsame ▸ ht) rfl h.dead fun ht => ht
  · -- the token loaded is another one: this one has no row, or its id is known but not active
    have hne : id ≠ t := by
      rintro rfl
      rcases h.noLoad with hnone | ⟨hout, hin⟩
      · exact hnone (mem_iff_isSome_getElem?.2 (by rw [hrow]; rfl))
      · exact hout (hactive (.inr hin))
    rw [heq]
    have hids := registerTokenId_cases (m := w.idManager) id .tokenHap
    refine h.of_ids (m := (w.idManager.registerTokenId id .tokenHap).2) ?_ ?_ ?_ rfl ?_ fun ht => ht
    · rcases hids with ⟨-, e, heq⟩ | ⟨-, -, heq⟩ <;> rw [heq]
      · exact fun ht => ht
      · exact fun ht => (Lib.mem_set_insert.1 ht).resolve_left (Ne.symm hne)
    · rcases hids with ⟨-, e, heq⟩ | ⟨-, -, heq⟩ <;> rw [heq] <;> exact fun ht => ht
    · rcases hids with ⟨-, e, heq⟩ | ⟨-, -, heq⟩ <;> rw [heq] <;> exact fun ht => ht
    · intro ht
      exact h.dead ((mem_insert.1 ht).resolve_left (Ne.symm hne))

theorem Follows.load (h : Follows T t c w v) (findOk : Bool) (id : AccessTokenID) :
    Follows T t c (getHapTokenInfoInner T w findOk id).2 v := by
  have hm := h.mirrored.load findOk id
  rcases h.there with hlive | hgone
  · obtain ⟨info, hinfo⟩ := Lib.mem_iff_exists.1 hlive
    refine h.silent hm ?_ (.inl (mem_of_getElem? (load_keeps hinfo)))
    -- a token in memory keeps its kernel bits, which are what verification answers before and after
    have hkernel : (getHapTokenInfoInner T w findOk id).2.kernel t c = w.kernel t c := by
      rcases getHapTokenInfoInner_cases T w findOk id with ⟨_, -, heq⟩ | ⟨-, m, b, -, -, heq⟩ |
        ⟨hnone, -, row, basic, -, -, -, heq⟩
      · rw [heq]
      · rw [heq]
      have hne : t ≠ id := by
        rintro rfl
        rw [hnone] at hinfo
        cases hinfo
      rw [heq]
      exact congrFun (addGranted_kernel_of_ne hne) c
    apply isGranted_congr
    rw [← h.mirrored.mirrors t hlive c, ← hm.mirrors t (mem_of_getElem? (load_keeps hinfo)) c, hkernel]
  · have hgone' := hgone.load (T := T) findOk id
    refine h.silent hm ?_ (.inr hgone')
    rw [isGranted_of_dead hm.toSound hgone'.dead, isGranted_of_dead h.mirrored.toSound hgone.dead]

/-! ## Granting and revoking -/

def NamedInTable (T : PermissionTable) (n : String) : Prop :=
  ∀ c ∈ T.transferPermissionToOpcode n, T.transferOpcodeToPermission c = n
deriving Decidable

/-- A subscriber to the permission takes a notification in. -/
abbrev hears (T : PermissionTable) (t : AccessTokenID) (c : Nat) : View → Notification → View :=
  View.receive t (T.transferOpcodeToPermission c)

theorem updateNotes_follow (h : w.Mirrored T) (hc : c < T.permList.length) (hlive : w.hapTokenInfoMap[x]? = some inner)
    (hpolicy : GrantFollowsPolicy T g fl w inner n) (hname : NamedInTable T n) :
    (updateNotes T w env inner n g fl).foldl (hears T t c) v =
      v.follow (w.isGranted t c) ((updateAndNotify T w env inner n g fl).2.isGranted t c) := by
  have hid := h.keyed x inner hlive
  have hbrief : (updateAndNotify T w env inner n g fl).2.isGranted t c =
      ((w.grantedBrief T inner n g fl).verifyPermissionStatus t c == permissionGranted) := by
    unfold isGranted
    rw [(updateAndNotify_stores ..).1]
  rw [hbrief]
  unfold updateNotes
  rcases updatePermissionStatus_cases T w env inner n g fl with ⟨e, heq, hsame⟩ | ⟨c', db, hc', -, heq⟩
  · rw [heq, hsame]
    exact (View.follow_self v _).symm
  rw [heq]
  -- another permission, or the same one of another token, is answered as before
  have hframe : ¬(inner.tokenID = t ∧ c' = c) →
      ((w.grantedBrief T inner n g fl).verifyPermissionStatus t c == permissionGranted) = w.isGranted t c := by
    intro hne
    rw [Bool.eq_iff_iff, isGranted_iff, beq_iff_eq]
    exact grantedBrief_of_ne h.toSound hc' hne
  by_cases hchanged : w.verifyPermissionStatus inner.tokenID c' =
      (w.grantedBrief T inner n g fl).verifyPermissionStatus inner.tokenID c'
  · have hsame : ((w.grantedBrief T inner n g fl).verifyPermissionStatus t c == permissionGranted) =
        w.isGranted t c := by
      by_cases hat : inner.tokenID = t ∧ c' = c
      · obtain ⟨rfl, rfl⟩ := hat
        rw [isGranted, hchanged]
      · exact hframe hat
    simp [hchanged, hsame]
  have hpushed := pushed_of_changed h.toSound hc' hpolicy hchanged
  have hbefore := h.mirrors x (mem_of_getElem? hlive) c'
  rw [← hid] at hbefore
  simp only [hchanged, ne_eq, not_false_eq_true, decide_true, if_true, stateUpdatedNotes, hc', Option.getD_some,
    List.foldl_append, View.foldl_paramUpdate]
  by_cases hat : inner.tokenID = t ∧ c' = c
  · obtain ⟨rfl, rfl⟩ := hat
    have heff : (g && !isPermissionRestricted w.policy.records inner.tokenID
        inner.userID c') =
        ((w.grantedBrief T inner n g fl).verifyPermissionStatus inner.tokenID c' == permissionGranted) := by
      rw [Bool.eq_iff_iff, beq_iff_eq]
      exact hpushed
    have hkernel : w.kernel inner.tokenID c' = w.isGranted inner.tokenID c' := by
      rw [Bool.eq_iff_iff, isGranted_iff]
      exact hbefore
    rw [hears, heff, hkernel, hname c' hc']
    unfold View.follow
    by_cases hsame : w.isGranted inner.tokenID c' =
        ((w.grantedBrief T inner n g fl).verifyPermissionStatus inner.tokenID c' == permissionGranted)
    · simp [hsame]
    · simp [hsame, View.receive]
  · have hother : ¬(inner.tokenID = t ∧ n = T.transferOpcodeToPermission c) := by
      rintro ⟨ht, hn⟩
      rw [← hname c' hc'] at hn
      exact hat ⟨ht, PermissionTable.transferOpcode_inj hc hn⟩
    rw [hframe hat, View.follow_self]
    split
    · exact View.receive_of_ne hother _
    · rfl

/-- **A step of a grant or revoke is told truly**: the kernel follows the policy, and the permission goes by its
name. -/
def TellsChange (T : PermissionTable) (g : Bool) (fl : Flag) (w : Service) (inner : HapTokenInfoInner)
    (n : String) : Prop :=
  GrantFollowsPolicy T g fl w inner n ∧ NamedInTable T n
deriving Decidable

theorem Follows.updateAndNotify (h : Follows T t c w v) (hc : c < T.permList.length) (env : Env)
    (hlive : w.hapTokenInfoMap[x]? = some inner) (hok : TellsChange T g fl w inner n) :
    Follows T t c (updateAndNotify T w env inner n g fl).2
      ((updateNotes T w env inner n g fl).foldl (hears T t c) v) := by
  rw [updateNotes_follow h.mirrored hc hlive hok.1 hok.2]
  refine h.follow (h.mirrored.updateAndNotify hok.1) ?_
  rcases updateAndNotify_cases T w env inner n g fl with ⟨e, heq⟩ | ⟨c', db, -, hrows, heq⟩
  · rw [heq]
    exact h.there
  · rw [heq]
    exact h.there.imp_right fun hgone => hgone.of_eq rfl hrows.hapTokenInfo rfl

section CallByCall

variable (hc : c < T.permList.length) {env : Env} {g : Bool} {fl : Flag} {perms : List String}
include hc

theorem Follows.updateTokenPermissionState (h : Follows T t c w v)
    (hok : TokenUpdateMeets T env (TellsChange T g fl) n w id) :
    Follows T t c (updateTokenPermissionState T D w env id n g fl).2
      ((updateTokenPermissionStateNotes T D w env id n g fl).foldl (hears T t c) v) := by
  have h₁ := h.load env.findOk id
  have hsome := @getHapTokenInfoInner_some T w env.findOk id
  unfold Service.updateTokenPermissionState updateTokenPermissionStateNotes
  unfold TokenUpdateMeets at hok
  generalize getHapTokenInfoInner T w env.findOk id = res at h₁ hsome hok ⊢
  obtain ⟨found, w₁⟩ := res
  cases found with
  | none => exact h₁
  | some inner =>
    dsimp only
    cases updateTokenPermissionStateCheck D env inner n g fl with
    | error => exact h₁
    | ok =>
      have h₂ := h₁.updateAndNotify hc env (hsome rfl) (hok inner rfl)
      rcases updateAndNotify_cases T w₁ env inner n g fl with ⟨e, heq⟩ | ⟨c', db, -, -, heq⟩
      · rw [heq]
        exact h₁
      · rw [heq] at h₂ ⊢
        simpa using h₂

theorem Follows.updatePermission (h : Follows T t c w v)
    (hok : UpdatePermissionMeets T D env g fl (TellsChange T g fl) w id n) :
    Follows T t c (updatePermission T D w env id n g fl).2
      ((updatePermissionNotes T D w env id n g fl).foldl (hears T t c) v) := by
  obtain ⟨hfirst, hrest⟩ := hok
  have h₁ := h.updateTokenPermissionState (D := D) hc hfirst
  unfold Service.updatePermission updatePermissionNotes
  rw [List.foldl_append]
  revert h₁ hrest
  generalize (updateTokenPermissionStateNotes T D w env id n g fl).foldl _ v = v₁
  generalize Service.updateTokenPermissionState T D w env id n g fl = res
  obtain ⟨r, w₁⟩ := res
  intro hrest h₁
  cases r with
  | error => exact h₁
  | ok =>
    exact Lib.traceFoldl_allMeet (Follows T t c) _ w₁ v₁
      (fun w v id hw hid => hw.updateTokenPermissionState hc hid) hrest h₁

omit hc in
theorem Follows.getHapTokenInfo (h : Follows T t c w v) (env : Env) (id : AccessTokenID) :
    Follows T t c (getHapTokenInfo T w env id).2 v :=
  getHapTokenInfo_invariant (fun w => Follows T t c w v) (fun _ id hw => hw.load env.findOk id) h id

theorem Follows.changePermission (h : Follows T t c w v) {updateFlag : Int32}
    (hok : UpdatePermissionMeets T D env g fl (TellsChange T g fl) (Service.getHapTokenInfo T w env id).2 id n) :
    Follows T t c (changePermission T D w env id n g fl updateFlag).2
      ((changePermissionNotes T D w env id n g fl updateFlag).foldl (hears T t c) v) := by
  have h₁ := h.getHapTokenInfo env id
  unfold Service.changePermission changePermissionNotes
  cases checkPermissionUpdateParam id n fl updateFlag with
  | error => exact h
  | ok u =>
    cases env.caller with
    | error => exact h
    | ok u =>
      dsimp only
      split
      · exact h
      unfold checkAndUpdatePermissionInner checkAndUpdatePermissionInnerNotes
      cases checkPermissionParams T n fl with
      | error => exact h
      | ok =>
        generalize Service.getHapTokenInfo T w env id = res at h₁ hok ⊢
        obtain ⟨found, w₁⟩ := res
        cases found with
        | none => exact h₁
        | some => exact h₁.updatePermission hc hok

theorem Follows.updateMultiTokenPermissionState (h : Follows T t c w v ∧ w.hapTokenInfoMap[x]? = some inner)
    (hok : MultiUpdateMeets T env g fl (TellsChange T g fl) perms inner w id) :
    Follows T t c (updateMultiTokenPermissionState T w env inner id perms g fl).2
        ((updateMultiTokenPermissionStateNotes T w env inner id perms g fl).foldl (hears T t c) v) ∧
      (updateMultiTokenPermissionState T w env inner id perms g fl).2.hapTokenInfoMap[x]? = some inner := by
  have h₁ := getHapTokenInfo_invariant (fun w => Follows T t c w v ∧ w.hapTokenInfoMap[x]? = some inner)
    (fun w id hw => ⟨hw.1.load env.findOk id, load_keeps hw.2⟩) h id
  unfold Service.updateMultiTokenPermissionState updateMultiTokenPermissionStateNotes
  unfold MultiUpdateMeets at hok
  generalize Service.getHapTokenInfo T w env id = res at h₁ hok ⊢
  obtain ⟨found, w₁⟩ := res
  cases found with
  | none => exact h₁
  | some =>
    have hloop : Follows T t c (Lib.forUntil (fun w n => Service.updateAndNotify T w env inner n g fl) w₁ perms).2
          ((Lib.traceUntil (fun w n => Service.updateAndNotify T w env inner n g fl)
            (fun w n => updateNotes T w env inner n g fl) w₁ perms).foldl (hears T t c) v) ∧ _ :=
      Lib.traceUntil_allMeet (fun w v => Follows T t c w v ∧ w.hapTokenInfoMap[x]? = some inner) perms w₁ v
        (fun w v n _ hw hn => ⟨hw.1.updateAndNotify hc env hw.2 hn, updateAndNotify_keeps hw.2⟩) hok h₁
    simp only [List.foldl_append]
    split
    · exact hloop
    · exact hloop

theorem Follows.setPermissionStatusWithPolicy (h : Follows T t c w v)
    {status : Int} (hg : (status == permissionGranted) = g)
    (hok : UpdateMultiMeets T env g fl (TellsChange T g fl) w id perms) :
    Follows T t c (setPermissionStatusWithPolicy T D w env id perms status fl).2
      ((setPermissionStatusWithPolicyNotes T D w env id perms status fl).foldl (hears T t c) v) := by
  unfold Service.setPermissionStatusWithPolicy setPermissionStatusWithPolicyNotes
  cases env.caller with
  | error => exact h
  | ok u =>
    dsimp only
    split
    · exact h
    cases checkMultiPermissionStatus T perms status fl with
    | error => exact h
    | ok u =>
      have h₁ := h.load env.findOk id
      have hsome := @getHapTokenInfoInner_some T w env.findOk id
      unfold updateMultiPermissionStatus updateMultiPermissionStatusNotes
      rw [hg]
      unfold UpdateMultiMeets at hok
      generalize getHapTokenInfoInner T w env.findOk id = res at h₁ hsome hok ⊢
      obtain ⟨found, w₁⟩ := res
      cases found with
      | none => exact h₁
      | some inner =>
        dsimp only
        cases updateMultiTokenPermissionStateCheck D inner perms with
        | error => exact h₁
        | ok u =>
          obtain ⟨hfirst, hrest⟩ := hok inner rfl
          have h₂ := Follows.updateMultiTokenPermissionState hc ⟨h₁, hsome rfl⟩ hfirst
          rw [List.foldl_append]
          revert h₂ hrest
          generalize (updateMultiTokenPermissionStateNotes T w₁ env inner id perms g fl).foldl _ v = v₁
          generalize Service.updateMultiTokenPermissionState T w₁ env inner id perms g fl = res
          obtain ⟨r, w₂⟩ := res
          intro hrest h₂
          cases r with
          | error => exact h₂.1
          | ok =>
            exact (Lib.traceFoldl_allMeet (fun w v => Follows T t c w v ∧ w.hapTokenInfoMap[id]? = some inner) _ w₂ v₁
              (fun w v y hw hy => Follows.updateMultiTokenPermissionState hc hw hy) hrest h₂).1

end CallByCall

/-! ## The user policy -/

/-- The stored status and the restricted bit alone decide an entry that is held by no security component only. -/
theorem effective_eq_refreshed (h : isPermGrantedBySecComp d.flag = true → d.status = permissionGranted) :
    (getEffectivePermissionStatus d == permissionGranted) = refreshedKernelStatus d.status (isRestricted d.flag) := by
  rw [Bool.eq_iff_iff, beq_iff_eq, getEffectivePermissionStatus, effectiveStatus_eq_granted]
  simp only [refreshedKernelStatus, Bool.and_eq_true, Bool.not_eq_true', beq_iff_eq]
  exact and_congr_right fun _ => ⟨fun hh => hh.elim h fun hs => hs, .inr⟩

theorem restrictedNotes_of_error (h : (updateRestrictedFlagAndRefreshKernel T w failing x c' r persist).1 = .error e) :
    updateRestrictedFlagAndRefreshKernelNotes T w failing x c' r persist = [] := by
  unfold updateRestrictedFlagAndRefreshKernel at h
  unfold updateRestrictedFlagAndRefreshKernelNotes
  cases hq : w.queryStoredPermissionStatusAndFlag x c' with
  | error => rfl
  | ok =>
    rw [hq] at h
    cases hu : updateRestrictedFlag T w failing x c' r persist with
    | mk res =>
      rw [hu] at h
      cases res with
      | error => rfl
      | ok =>
        dsimp only at h
        split at h <;> cases h

theorem restrictedNotes_of_ok (he : w.entry x c' = some d)
    (h : (updateRestrictedFlagAndRefreshKernel T w failing x c' r persist).1 = .ok ()) :
    (updateRestrictedFlagAndRefreshKernelNotes T w failing x c' r persist).foldl (hears T t c) v =
      if refreshedKernelStatus d.status (isRestricted d.flag) = refreshedKernelStatus d.status r then v
      else v.receive t (T.transferOpcodeToPermission c)
        (.stateChange x (T.transferOpcodeToPermission c') (refreshedKernelStatus d.status r)) := by
  unfold updateRestrictedFlagAndRefreshKernel at h
  unfold updateRestrictedFlagAndRefreshKernelNotes
  rw [queryStored_of_entry he] at h ⊢
  cases hu : updateRestrictedFlag T w failing x c' r persist with
  | mk res =>
    rw [hu] at h
    cases res with
    | error => cases h
    | ok =>
      rw [List.foldl_append]
      have hflag : ∀ b : Bool,
          ((if b then [.paramFlagUpdate] else []) : List Notification).foldl (hears T t c) v = v := by
        intro b
        cases b <;> rfl
      rw [hflag]
      by_cases hsame : refreshedKernelStatus d.status (isRestricted d.flag) = refreshedKernelStatus d.status r
      · simp [hsame]
      · simp [hsame]

theorem restrictedNotes_follow (h : w.Mirrored T) (hc : c < T.permList.length)
    (hok : ∀ d ∈ w.entry x c', isPermGrantedBySecComp d.flag = true → d.status = permissionGranted) :
    (updateRestrictedFlagAndRefreshKernelNotes T w failing x c' r persist).foldl (hears T t c) v =
      v.follow (w.isGranted t c)
      ((updateRestrictedFlagAndRefreshKernel T w failing x c' r persist).2.isGranted t c) := by
  rcases h.toSound.updateRestrictedFlagAndRefreshKernel_cases failing x c' r persist with ⟨e, heq, -⟩ | ⟨d, he, heq⟩
  · rw [restrictedNotes_of_error (by rw [heq]), heq, View.follow_self]
    rfl
  rw [restrictedNotes_of_ok he (by rw [heq]), heq]
  by_cases hat : x = t ∧ c' = c
  · obtain ⟨rfl, rfl⟩ := hat
    have he' : (w.brief.modifyEntry x c' (restrictEntry r)).entry x c' = some (restrictEntry r d) := by
      rw [entry_restrict, if_pos ⟨rfl, rfl⟩, he]
      rfl
    have hbefore : w.isGranted x c' = refreshedKernelStatus d.status (isRestricted d.flag) := by
      rw [isGranted, verifyPermissionStatus_of_entry he, effective_eq_refreshed (hok d he)]
    have hafter : (w.refreshed T x c' r persist d).isGranted x c' = refreshedKernelStatus d.status r := by
      have hopen : isPermGrantedBySecComp (restrictEntry r d).flag = true →
          (restrictEntry r d).status = permissionGranted := by
        rw [isPermGrantedBySecComp_restrictEntry]
        exact hok d he
      have hcalc := effective_eq_refreshed hopen
      rw [isRestricted_restrictEntry] at hcalc
      refine Eq.trans ?_ hcalc
      exact congrArg (· == permissionGranted) (verifyPermissionStatus_of_entry he')
    rw [hbefore, hafter, View.follow]
    split
    · rfl
    · exact if_pos ⟨rfl, rfl⟩
  · have hother : ¬(x = t ∧ T.transferOpcodeToPermission c' = T.transferOpcodeToPermission c) :=
      fun hh => hat ⟨hh.1, PermissionTable.transferOpcode_inj hc hh.2⟩
    have hsame : (w.refreshed T x c' r persist d).isGranted t c = w.isGranted t c := by
      apply isGranted_congr
      exact verifyPermissionStatus_granted_congr mem_modifyEntry (by rw [entry_restrict, if_neg hat]) Iff.rfl
    rw [hsame, View.follow_self, View.receive_of_ne hother, ite_self]

def NoneByComponentOnly (b : PermissionDataBrief) : Prop :=
  ∀ x c d, b.entry x c = some d → isPermGrantedBySecComp d.flag = true → d.status = permissionGranted

theorem Follows.updateRestrictedFlagAndRefreshKernel (h : Follows T t c w v) (hc : c < T.permList.length)
    (failing : TokenPerms) (x : AccessTokenID) (c' : Nat) (r persist : Bool)
    (hok : ∀ d ∈ w.entry x c', isPermGrantedBySecComp d.flag = true → d.status = permissionGranted) :
    Follows T t c (updateRestrictedFlagAndRefreshKernel T w failing x c' r persist).2
      ((updateRestrictedFlagAndRefreshKernelNotes T w failing x c' r persist).foldl (hears T t c) v) := by
  rw [restrictedNotes_follow h.mirrored hc hok]
  refine h.follow (h.mirrored.updateRestrictedFlagAndRefreshKernel fun d hd hcomp hne => absurd (hok d hd hcomp) hne) ?_
  rcases updateRestrictedFlagAndRefreshKernel_cases T w failing x c' r persist with ⟨-, e, -, heq⟩ |
    ⟨d, -, ⟨-, heq⟩ | ⟨-, db, hdb, heq⟩⟩
  · rw [heq]
    exact h.there
  · rw [heq]
    exact h.there
  · rw [heq]
    exact h.there.imp_right fun hgone => hgone.of_eq rfl hdb.hapTokenInfo rfl

theorem NoneByComponentOnly.restrict (h : NoneByComponentOnly w.brief) :
    NoneByComponentOnly (w.brief.modifyEntry x c' (restrictEntry r)) := by
  intro y e d hd hcomp
  rw [entry_restrict] at hd
  split at hd
  · obtain ⟨d₀, hd₀, rfl⟩ := Option.map_eq_some_iff.1 hd
    rw [isPermGrantedBySecComp_restrictEntry] at hcomp
    exact h _ _ d₀ hd₀ hcomp
  · exact h y e d hd hcomp

/-- **A policy refresh goes through and is told truly**: every token in memory has permission data, there are no tool
tokens, and no permission is held by a security component only. -/
structure Refreshable (w : Service) : Prop where
  hasData : ∀ x ∈ w.hapTokenInfoMap, x ∈ w.requestedPermData
  noTools : w.toolTokenInfoMap = ∅
  component : NoneByComponentOnly w.brief

theorem refreshHapVisit_state (failing : TokenPerms) (st : Refreshing) (x : RefreshVisit) :
    (refreshHapVisit T failing st x).2.1 = (updateRestrictedFlagAndRefreshKernel T st.1 failing x.tokenId
      x.policy.permCode (isPermissionRestricted st.1.policy.records x.tokenId x.userId x.policy.permCode)
      x.policy.isPersist).2 := by
  obtain ⟨w, snapshots⟩ := st
  unfold refreshHapVisit
  dsimp only
  cases hq : w.queryStoredPermissionStatusAndFlag x.tokenId x.policy.permCode with
  | error =>
    have hsame : ∀ r b, (updateRestrictedFlagAndRefreshKernel T w failing x.tokenId x.policy.permCode r b).2 = w := by
      intro r b
      unfold updateRestrictedFlagAndRefreshKernel
      rw [hq]
    rw [hsame]
    split <;> simp_all
  | ok =>
    dsimp only
    generalize updateRestrictedFlagAndRefreshKernel T w failing x.tokenId x.policy.permCode _ _ = res
    split <;> rfl

/-- One visit of a refresh: it goes through, and what was true before it still is. -/
theorem Follows.refreshHapVisit {st : Refreshing} (h : Follows T t c st.1 v) (hr : st.1.Refreshable)
    (hc : c < T.permList.length) (hrows : failing = []) {x : RefreshVisit} (hx : x.tokenId ∈ st.1.hapTokenInfoMap) :
    (refreshHapVisit T failing st x).1 = .ok () ∧ Follows T t c (refreshHapVisit T failing st x).2.1
        ((refreshHapVisitNotes T failing st x).foldl (hears T t c) v) ∧
      (refreshHapVisit T failing st x).2.1.Refreshable ∧
      (refreshHapVisit T failing st x).2.1.hapTokenInfoMap = st.1.hapTokenInfoMap := by
  obtain ⟨w, snapshots⟩ := st
  have hfollow := h.updateRestrictedFlagAndRefreshKernel hc failing x.tokenId x.policy.permCode
    (isPermissionRestricted w.policy.records x.tokenId x.userId x.policy.permCode) x.policy.isPersist
    (fun d hd => hr.component _ _ d hd)
  have hstate := refreshHapVisit_state (T := T) failing (w, snapshots) x
  rw [← hstate] at hfollow
  rcases refreshHapVisit_cases T failing snapshots rfl with ⟨hno, -⟩ | ⟨-, he, heq⟩ |
    ⟨d, he, ⟨hfail, -⟩ | ⟨-, db, hdb, heq⟩⟩
  · exact absurd (hr.hasData _ hx) hno
  · exact ⟨by rw [heq], hfollow, by rw [heq]; exact hr, by rw [heq]⟩
  · have hmem := hfail.2.2
    rw [hrows] at hmem
    exact absurd hmem List.not_mem_nil
  · refine ⟨by rw [heq], hfollow, ?_, by rw [heq]⟩
    rw [heq]
    exact ⟨fun y hy => mem_modifyEntry.2 (hr.hasData y hy), hr.noTools, hr.component.restrict⟩

theorem Refreshable.refreshToolUserPolicyFlag (hr : w.Refreshable) (env : Env) (changes : List UserPolicyChange) :
    refreshToolUserPolicyFlag T w env changes = (.ok (), (w, [])) ∧
      refreshVisits (w.getToolTokenIDByUserID env.order) changes = [] := by
  have hvisits := refreshVisits_of_noTools hr.noTools env changes
  refine ⟨?_, hvisits⟩
  unfold Service.refreshToolUserPolicyFlag
  rw [hvisits]
  rfl

theorem Follows.refreshUserPolicyPermState (h : Follows T t c w v) (hc : c < T.permList.length)
    (hrows : env.failingRows = []) (hr : w.Refreshable) {changes : List UserPolicyChange} :
    Follows T t c (refreshUserPolicyPermState T w env changes).2
      ((refreshUserPolicyPermStateNotes T w env changes).foldl (hears T t c) v) := by
  unfold Service.refreshUserPolicyPermState refreshUserPolicyPermStateNotes
  split
  · exact h
  -- the loop over the tokens keeps what the subscriber knows, and what makes the next visit go through
  have hmem : ∀ x ∈ refreshVisits (w.getTokenIDByUserID env.order) changes, x.tokenId ∈ w.hapTokenInfoMap := by
    intro x hx
    obtain ⟨info, hget, -⟩ :=
      (h.mirrored.toSound.mem_getTokenIDByUserID env).1 (mem_refreshVisits.1 hx).2.2
    exact mem_of_getElem? hget
  have hloop := Lib.traceUntil_goesThrough
    (fun (st : Refreshing) v => Follows T t c st.1 v ∧ st.1.Refreshable ∧ st.1.hapTokenInfoMap = w.hapTokenInfoMap)
    (refreshVisits (w.getTokenIDByUserID env.order) changes) (w, []) v
    (fun st v x hx hst => by
      obtain ⟨hok, hfollow, hr', hinfo⟩ := hst.1.refreshHapVisit hst.2.1 hc hrows (by rw [hst.2.2]; exact hmem x hx)
      exact ⟨hok, hfollow, hr', hinfo.trans hst.2.2⟩)
    ⟨h, hr, rfl⟩
  rw [List.foldl_append]
  unfold refreshUserPolicyFlag
  revert hloop
  generalize (Lib.traceUntil _ _ _ _).foldl _ v = v₁
  generalize Lib.forUntil _ _ _ = res
  obtain ⟨r, w₁, snapshots⟩ := res
  rintro ⟨rfl, hfollow, hr', -⟩
  obtain ⟨htools, hvisits⟩ := hr'.refreshToolUserPolicyFlag env changes
  dsimp only
  rw [htools, hvisits]
  exact hfollow

theorem Follows.setPolicy (h : Follows T t c w v) (policy : Store) :
    Follows T t c ({ w with policy := policy } : Service) v :=
  h.silent (h.mirrored.step (D := ∅) (.setPolicy policy) trivial) rfl
    (h.there.imp_right fun hgone => hgone.of_eq rfl rfl rfl)

theorem Refreshable.setPolicy (hr : w.Refreshable) {policy : Store} :
    ({ w with policy := policy } : Service).Refreshable :=
  ⟨hr.hasData, hr.noTools, hr.component⟩

section Policy

variable (hc : c < T.permList.length) (env : Env) {caller : AccessTokenID}
include hc

theorem Follows.commitUserPolicy (h : Follows T t c w v) (hrows : env.failingRows = []) (hr : w.Refreshable)
    {update : Except AccessTokenError (List UserPolicyChange) × Store} :
    Follows T t c (commitUserPolicy T w env update).2
      ((commitUserPolicyNotes T w env update).foldl (hears T t c) v) := by
  obtain ⟨r, policy⟩ := update
  cases r with
  | error => exact h.setPolicy policy
  | ok => exact (h.setPolicy policy).refreshUserPolicyPermState hc hrows hr.setPolicy

theorem Follows.setUserPolicy (h : Follows T t c w v) (hrows : env.failingRows = []) (hr : w.Refreshable)
    {list : List UserPermissionPolicy} : Follows T t c (setUserPolicy T w env list caller).2
      ((setUserPolicyNotes T w env list caller).foldl (hears T t c) v) := by
  unfold Service.setUserPolicy setUserPolicyNotes
  cases env.caller with
  | error => exact h
  | ok =>
    dsimp only
    split
    · exact h
    · exact h.commitUserPolicy hc env hrows hr

theorem Follows.clearUserPolicy (h : Follows T t c w v) (hrows : env.failingRows = []) (hr : w.Refreshable)
    {list : List String} : Follows T t c (clearUserPolicy T w env list caller).2
      ((clearUserPolicyNotes T w env list caller).foldl (hears T t c) v) := by
  unfold Service.clearUserPolicy clearUserPolicyNotes
  cases env.caller with
  | error => exact h
  | ok =>
    dsimp only
    split
    · exact h
    · split
      · exact h
      · exact h.commitUserPolicy hc env hrows hr

theorem Follows.handlePolicyWhiteListUpdate (h : Follows T t c w v) {ctx : PolicyWhiteListUpdateInfo}
    (hok : ∀ d ∈ w.entry ctx.tokenId ctx.permCode,
      isPermGrantedBySecComp d.flag = true → d.status = permissionGranted) :
    Follows T t c (handlePolicyWhiteListUpdate T w env ctx).2
      ((handlePolicyWhiteListUpdateNotes T w env ctx).foldl (hears T t c) v) := by
  unfold Service.handlePolicyWhiteListUpdate handlePolicyWhiteListUpdateNotes
  generalize UserPolicyManager.updatePolicyWhiteList T w.policy env.policyOk ctx = update
  obtain ⟨r, policy⟩ := update
  cases r with
  | error => exact h.setPolicy policy
  | ok isPersist =>
    have hrefresh := (h.setPolicy policy).updateRestrictedFlagAndRefreshKernel hc env.failingRows ctx.tokenId
      ctx.permCode (ctx.type == .delete) isPersist hok
    dsimp only at hrefresh ⊢
    revert hrefresh
    generalize (updateRestrictedFlagAndRefreshKernelNotes T _ env.failingRows _ _ _ isPersist).foldl _ v = v₁
    generalize Service.updateRestrictedFlagAndRefreshKernel T _ env.failingRows _ _ _ isPersist = res
    obtain ⟨ret, w₁⟩ := res
    intro hrefresh
    cases ret with
    | ok => exact hrefresh
    | error => exact hrefresh.setPolicy _

theorem Follows.updatePolicyWhiteList (h : Follows T t c w v) {permCode : Nat} {type : Option UpdateWhiteListType}
    (hok : ∀ d ∈ (Service.getHapTokenInfo T w env id).2.entry id permCode,
      isPermGrantedBySecComp d.flag = true → d.status = permissionGranted) :
    Follows T t c (updatePolicyWhiteList T w env id permCode type caller).2
      ((updatePolicyWhiteListNotes T w env id permCode type caller).foldl (hears T t c) v) := by
  unfold Service.updatePolicyWhiteList updatePolicyWhiteListNotes
  cases env.caller with
  | error => exact h
  | ok =>
    cases type with
    | none => exact h
    | some =>
      dsimp only
      split
      · exact h
      split
      · exact h
      have h₁ := h.getHapTokenInfo env id
      generalize Service.getHapTokenInfo T w env id = res at h₁ hok ⊢
      obtain ⟨found, w₁⟩ := res
      cases found with
      | none => exact h₁
      | some => exact h₁.handlePolicyWhiteListUpdate hc env hok

end Policy

/-! ## Resetting and removing -/

/-- The condition at one token of a reset, in the state after the token is looked up. -/
def ResetTold (T : PermissionTable) (env : Env) (w : Service) (id : AccessTokenID) : Prop :=
  GrantsApart (getHapTokenInfoInner T w env.findOk id).2.brief id
deriving Decidable

theorem Follows.clearUserGrantedPermission (h : Follows T t c w v) (hc : c < T.permList.length) (env : Env)
    (hrows : env.failingRows = []) (id : AccessTokenID) (hok : ResetTold T env w id) :
    Follows T t c (clearUserGrantedPermission T D w env id).2
      ((clearUserGrantedPermissionNotes T D w env id).foldl (hears T t c) v) := by
  have h₁ := h.load env.findOk id
  have hm := h.mirrored.clearUserGrantedPermission (D := D) env hrows id
  have hsome := @getHapTokenInfoInner_some T w env.findOk id
  unfold ResetTold at hok
  unfold Service.clearUserGrantedPermission at hm ⊢
  unfold clearUserGrantedPermissionNotes
  generalize getHapTokenInfoInner T w env.findOk id = res at h₁ hm hsome hok ⊢
  obtain ⟨found, w₁⟩ := res
  cases found with
  | none => exact h₁
  | some inner =>
    have hget : w₁.hapTokenInfoMap[id]? = some inner := hsome rfl
    have hid := h₁.mirrored.keyed id inner hget
    have hap := h₁.mirrored.hapId id (mem_of_getElem? hget)
    revert hm
    dsimp only
    split
    · exact fun _ => h₁
    rcases resetUserGrantPermissionStatus_cases T D w₁ env inner with ⟨-, e, heq⟩ | ⟨hmem, r, db, hdb, hok', heq⟩
    · rw [heq]
      exact fun _ => h₁
    rw [heq, hok' (by simp [hrows])]
    dsimp only
    intro hm
    obtain ⟨l, hold⟩ := Lib.mem_iff_exists.1 hmem
    obtain ⟨-, hlist, hsec⟩ := resetBrief_eq T D hold
    rw [hid] at hlist hsec
    have hapart : GrantsApart (resetBrief T D w₁ inner) id := fun g hg hgt =>
      absurd rfl ((hsec id g.permCode).1 (by rw [← hgt]; exact hg)).1
    have hs' : ({ w₁ with brief := resetBrief T D w₁ inner, db := db } : Service).Sound T :=
      h₁.mirrored.toSound.of_brief rfl rfl rfl hdb.hapTokenInfo (h₁.mirrored.toSound.resetBrief D hmem)
    have hthere : t ∈ w₁.hapTokenInfoMap ∨
        ({ w₁ with brief := resetBrief T D w₁ inner, db := db } : Service).Gone t :=
      h₁.there.imp_right fun hgone => hgone.of_eq rfl hdb.hapTokenInfo rfl
    rw [View.foldl_updatedPermListNotes (b := w₁.isGranted t c)
      (a := ({ w₁ with brief := resetBrief T D w₁ inner, db := db } : Service).isGranted t c)
      (by rintro rfl; exact hok.count h₁.mirrored.toSound hap hc)
      (by rintro rfl; exact GrantsApart.count hapart hs' hap hc)]
    split
    · exact h₁.follow hm (hthere.imp_right fun hgone => hgone.of_eq rfl rfl rfl)
    · rename_i hne
      refine h₁.silent hm (isGranted_congr ?_) (hthere.imp_right fun hgone => hgone.of_eq rfl rfl rfl)
      exact verifyPermissionStatus_granted_congr_list (hlist t (Ne.symm hne)) c
        ((hsec t c).trans (and_iff_right (Ne.symm hne)))

/-- The condition at the tokens `ClearUserGrantedPermissionState` resets: the token and its sandboxes. -/
def ResetAllTold (T : PermissionTable) (D : DlpPermissionModeMap) (env : Env) (w : Service)
    (id : AccessTokenID) : Prop :=
  ResetTold T env w id ∧
    Lib.AllMeet (fun w id => (clearUserGrantedPermission T D w env id).2) (ResetTold T env)
      (clearUserGrantedPermission T D w env id).2
      ((clearUserGrantedPermission T D w env id).2.getRelatedSandBoxHapList id)
deriving Decidable

theorem Follows.clearUserGrantedPermissionState (h : Follows T t c w v) (hc : c < T.permList.length)
    (hrows : env.failingRows = []) (hok : ResetAllTold T D env w id) :
    Follows T t c (clearUserGrantedPermissionState T D w env id).2
      ((clearUserGrantedPermissionStateNotes T D w env id).foldl (hears T t c) v) := by
  obtain ⟨hfirst, hrest⟩ := hok
  have h₁ := h.clearUserGrantedPermission (D := D) hc env hrows id hfirst
  unfold Service.clearUserGrantedPermissionState clearUserGrantedPermissionStateNotes
  rw [List.foldl_append]
  revert h₁ hrest
  generalize (clearUserGrantedPermissionNotes T D w env id).foldl _ v = v₁
  generalize Service.clearUserGrantedPermission T D w env id = res
  obtain ⟨r, w₁⟩ := res
  intro hrest h₁
  cases r with
  | error => exact h₁
  | ok =>
    exact Lib.traceFoldl_allMeet (Follows T t c) _ w₁ v₁
      (fun w v x hw hx => hw.clearUserGrantedPermission hc env hrows x hx) hrest h₁

/-- **A removal is told truly**: the granted list names nothing twice, and no lookup brings the token back, since its
row is gone or its id is reserved. -/
def RemovalTold (w : Service) (env : Env) (id : AccessTokenID) (isTokenReserved : Bool) : Prop :=
  GrantsApart w.brief id ∧ ∀ info ∈ w.hapTokenInfoMap[id]?,
    if isTokenReserved then info.getHapUniqueStr ∉ w.reservedHapTokenIdMap else env.removeOk = true
deriving Decidable

theorem addReservedHapTokenId_ids (u : Int32) (b : String) (i : Int32) (id : AccessTokenID) :
    ((w.addReservedHapTokenId u b i id).idManager = w.idManager ∨
        (w.addReservedHapTokenId u b i id).idManager = w.idManager.addReservedTokenId id) ∧
      (getHapUniqueStr u b i ∉ w.reservedHapTokenIdMap →
        (w.addReservedHapTokenId u b i id).idManager = w.idManager.addReservedTokenId id) := by
  unfold addReservedHapTokenId
  dsimp only
  split
  · rename_i hmem
    exact ⟨.inl rfl, fun hno => absurd hmem hno⟩
  · exact ⟨.inr rfl, fun _ => rfl⟩

theorem removeHapTokenInfoInner_ids {info' : HapTokenInfoInner} (hget : w.hapTokenInfoMap[id]? = some info)
    (h : w.removeHapTokenInfoInner id reserved = .ok (info', w')) :
    (w'.idManager = w.idManager.releaseTokenId id ∨
        w'.idManager = (w.idManager.releaseTokenId id).addReservedTokenId id) ∧
      (reserved = true → info.getHapUniqueStr ∉ w.reservedHapTokenIdMap →
        w'.idManager = (w.idManager.releaseTokenId id).addReservedTokenId id) := by
  unfold removeHapTokenInfoInner at h
  rw [hget] at h
  dsimp only at h
  split at h
  · cases h
  obtain ⟨-, rfl⟩ := Prod.mk.inj (Except.ok.inj h)
  cases reserved with
  | false => exact ⟨.inl rfl, fun hno => by cases hno⟩
  | true =>
    obtain ⟨hids, hfree⟩ := addReservedHapTokenId_ids
      info.userID info.bundleName info.instIndex id
    exact ⟨hids, fun _ hno => hfree hno⟩

theorem removeHapTokenInfoFromDb_deletes {rid : AccessTokenID} :
    info.tokenID ∉ (w.removeHapTokenInfoFromDb true info false rid).2.db.hapTokenInfo := by
  intro hmem
  exact (mem_erase.1 hmem).1 rfl

theorem removeHapTokenInfoNotes_of_error (h : w.removeHapTokenInfo dbOk held id reserved = (.error e, w')) :
    removeHapTokenInfoNotes T w id reserved = [] := by
  unfold removeHapTokenInfo at h
  unfold removeHapTokenInfoNotes
  split
  · rfl
  rename_i htype
  rw [if_neg htype] at h
  cases he : w.removeHapTokenInfoInner id reserved with
  | error => rfl
  | ok =>
    rw [he] at h
    cases h

theorem removeHapTokenInfoNotes_of_ok (h : w.removeHapTokenInfo dbOk held id reserved = (.ok (), w')) (n : String) :
    (removeHapTokenInfoNotes T w id reserved).foldl (View.receive t n) v =
      ((w.getGrantedPermList T id).map fun m => Notification.stateChange id m false).foldl (View.receive t n) v := by
  obtain ⟨htype, info, w₁, -, he, hbrief, -⟩ := removeHapTokenInfo_parts h
  have hlist : w₁.getGrantedPermList T id = w.getGrantedPermList T id := by
    unfold getGrantedPermList
    rw [hbrief]
  unfold removeHapTokenInfoNotes
  rw [if_neg (not_not.2 htype), he]
  dsimp only
  rw [hlist, List.foldl_append, List.foldl_append]
  cases w.getGrantedPermList T id with
  | nil => rfl
  | cons =>
    rfl

theorem gone_of_removed (hw : w.TokensSound) (hok : RemovalTold w env id reserved)
    (h : w.removeHapTokenInfo env.removeOk false id reserved = (.ok (), w')) (hdead : id ∉ w'.hapTokenInfoMap) :
    w'.Gone id := by
  obtain ⟨-, info, w₁, hget, he, -, hids, -, hdb⟩ := removeHapTokenInfo_parts h
  have hfree := hok.2 info hget
  refine ⟨hdead, ?_⟩
  cases reserved with
  | false =>
    left
    rw [hdb, hfree, ← hw.keyed id info hget]
    exact removeHapTokenInfoFromDb_deletes
  | true =>
    right
    rw [hids, (removeHapTokenInfoInner_ids hget he).2 rfl hfree]
    obtain ⟨hset, -, -, hin⟩ := addReservedTokenId_sets id
    have hout : id ∉ (w.idManager.releaseTokenId id).tokenIdSet := fun hmem =>
      (mem_releaseTokenId.1 hmem).1 rfl
    exact ⟨by rw [hset]; exact hout, hin hout⟩

theorem Gone.removed_other (hgone : w.Gone t) (hget : w.hapTokenInfoMap[id]? = some info)
    (hr : Removed w id info false w') (h : w.removeHapTokenInfo dbOk false id reserved = (.ok (), w')) :
    w'.Gone t := by
  have hne : t ≠ id := by
    rintro rfl
    exact hgone.dead (mem_of_getElem? hget)
  obtain ⟨-, info', w₁, hget', he, -, hids, -⟩ := removeHapTokenInfo_parts h
  have hsets : (∀ x ∈ w.reservedTokenIdSet, x ∈ w'.reservedTokenIdSet) ∧
      w'.untrustedTokenIdSet = w.untrustedTokenIdSet := by
    obtain ⟨hres, hun⟩ := releaseTokenId_sets id
    obtain ⟨-, hgrow, hsame, -⟩ := addReservedTokenId_sets id
    rw [hids]
    rcases (removeHapTokenInfoInner_ids hget' he).1 with heq | heq
    · rw [heq, hres, hun]
      exact ⟨fun _ hx => hx, rfl⟩
    · rw [heq, hsame, hun]
      exact ⟨fun x hx => hgrow x (hres ▸ hx), rfl⟩
  refine hgone.of_ids (fun ht => ((hr.tokenIds t).1 ht).2) (hsets.1 t) (fun ht => hsets.2 ▸ ht) rfl ?_ fun ht => ?_
  · rw [hr.infoMap]
    exact fun ht => hgone.dead (mem_erase.1 ht).2
  · exact (hr.hapRows t ht).resolve_right hne

theorem Follows.removeHapTokenInfo (h : Follows T t c w v) (hc : c < T.permList.length)
    (hok : RemovalTold w env id reserved) : Follows T t c (w.removeHapTokenInfo env.removeOk false id reserved).2
      ((removeHapTokenInfoNotes T w id reserved).foldl (hears T t c) v) := by
  have hm := h.mirrored.removeHapTokenInfo env.removeOk id reserved
  rcases removeHapTokenInfo_cases w env.removeOk false id reserved with ⟨-, e, heq⟩ | ⟨info, w', hget, -, heq, hr⟩
  · rw [heq, removeHapTokenInfoNotes_of_error heq]
    exact h
  rw [heq] at hm ⊢
  rw [removeHapTokenInfoNotes_of_ok heq]
  have hdead : id ∉ w'.hapTokenInfoMap := fun hmem => (hr.mem hmem).1 rfl
  by_cases ht : id = t
  · subst ht
    have hcount := hok.1.count h.mirrored.toSound (h.mirrored.hapId id (mem_of_getElem? hget)) hc
    have hnone : w'.isGranted id c = false := isGranted_of_dead hm.toSound hdead
    have hthere := Or.inr (a := id ∈ w'.hapTokenInfoMap) (gone_of_removed h.mirrored.toTokensSound hok heq hdead)
    cases hg : w.isGranted id c with
    | false =>
      rw [hg] at hcount
      rw [View.foldl_of_count_zero hcount]
      exact h.silent hm (by rw [hnone, hg]) hthere
    | true =>
      rw [hg] at hcount
      rw [View.foldl_of_count_one v hcount]
      have := h.follow hm hthere
      rw [hg, hnone] at this
      exact this
  · rw [View.foldl_of_ne _ _ fun hh => ht hh.1]
    obtain ⟨-, hlist, hsec⟩ := hr.of_ne (h.mirrored.keyed id info hget) (Ne.symm ht)
    refine h.silent hm (isGranted_congr (verifyPermissionStatus_granted_congr_list hlist c (hsec c))) ?_
    refine h.there.imp (fun hlive => ?_) fun hgone => hgone.removed_other hget hr heq
    rw [hr.infoMap]
    exact mem_erase.2 ⟨Ne.symm ht, hlive⟩

/-! ## Component grants and updates -/

/-- **Clearing all component grants is told truly**, that is, not at all: each grant is for a permission the token
requests and holds not. -/
def ClearingTold (w : Service) : Prop :=
  ∀ g ∈ w.secCompList,
    (w.entry g.tokenId g.permCode).any (getEffectivePermissionStatus · != permissionGranted) = true
deriving Decidable

theorem Follows.clearAllSecCompGrantedPerm (h : Follows T t c w v) (hok : ClearingTold w) :
    Follows T t c w.clearAllSecCompGrantedPerm v := by
  have hentry : ∀ g ∈ w.secCompList, ∃ d, w.entry g.tokenId g.permCode = some d ∧
      getEffectivePermissionStatus d ≠ permissionGranted := by
    intro g hg
    obtain ⟨d, hd, hne⟩ := (Option.any_eq_true _ _).1 (hok g hg)
    exact ⟨d, hd, by simpa using hne⟩
  have hm := h.mirrored.clearAllSecCompGrantedPerm fun g hg d hd => by
    obtain ⟨d', hd', hne⟩ := hentry g hg
    obtain rfl : d' = d := Option.mem_unique hd' hd
    exact hne
  refine h.silent hm (isGranted_congr ?_) (h.there.imp_right fun hgone => hgone.of_eq rfl rfl rfl)
  rw [verifyPermissionStatus_eq_granted, verifyPermissionStatus_eq_granted]
  refine and_congr Iff.rfl (or_congr Iff.rfl (and_congr_right fun hnone => ?_))
  refine ⟨fun hin => absurd hin List.not_mem_nil, fun hin => ?_⟩
  obtain ⟨d, hd, -⟩ := hentry ⟨c, t⟩ hin
  rw [show w.entry t c = none from hnone] at hd
  cases hd

def GrantsAsBefore (T : PermissionTable) (w : Service) (id : AccessTokenID) (l : List BriefPermData) : Prop :=
  ∀ c ∈ List.range T.permList.length,
    ({ w.brief with requestedPermData := w.requestedPermData.insert id l }.verifyPermissionStatus id c ==
      permissionGranted) = w.isGranted id c
deriving Decidable

/-- **An update is told truly**, that is, not at all: it goes through, and the new list grants what the old one did. -/
def UpdateTold (T : PermissionTable) (w : Service) (env : Env) (id : AccessTokenID) (info : UpdateHapInfoParams)
    (states : List PermissionStatus) (policy : HapPolicy) : Prop :=
  KeepsMirror T ∅ w (.updateHapToken env id info states policy) ∧
    ∀ inner ∈ (getHapTokenInfoInner T w env.findOk id).1,
      GrantsAsBefore T (getHapTokenInfoInner T w env.findOk id).2 id
        (mergedList T (getHapTokenInfoInner T w env.findOk id).2 id inner info states policy)
deriving Decidable

theorem foldl_updateHapTokenNotes (env : Env) (id : AccessTokenID) (info : UpdateHapInfoParams)
    (states : List PermissionStatus) (policy : HapPolicy) (n : String) :
    (updateHapTokenNotes T w env id info states policy).foldl (View.receive t n) v = v := by
  unfold updateHapTokenNotes
  split <;> rfl

theorem Follows.updateHapToken (h : Follows T t c w v) (hc : c < T.permList.length)
    {info : UpdateHapInfoParams} {states : List PermissionStatus} {policy : HapPolicy}
    (hok : UpdateTold T w env id info states policy) : Follows T t c (updateHapToken T w env id info states policy).2
      ((updateHapTokenNotes T w env id info states policy).foldl (hears T t c) v) := by
  rw [foldl_updateHapTokenNotes]
  obtain ⟨⟨htx, hinst⟩, hsame⟩ := hok
  have h₁ := h.load env.findOk id
  have hm := h.mirrored.updateHapToken htx fun inner hinner => hinst inner hinner
  revert hm
  rcases h.mirrored.toSound.updateHapToken_cases info policy rfl (fun inner hinner => by
    rw [← mergedList_codes id inner info states policy]; exact (hinst inner hinner).1) with
    ⟨e, heq⟩ | ⟨e, heq⟩ | ⟨inner, hget, hfound, -, ⟨hno, -⟩ | ⟨-, db, -, hrows, -, heq⟩⟩
  · rw [heq]
    exact fun _ => h
  · rw [heq]
    exact fun _ => h₁
  · rw [htx] at hno
    cases hno
  rw [heq]
  obtain ⟨hreq, hsec⟩ := h₁.mirrored.toSound.updatedFrom_brief T hget info states policy
  have hsame := hsame inner hfound
  generalize (getHapTokenInfoInner T w env.findOk id).2 = w₁ at h₁ hget hreq hsec hsame hrows ⊢
  intro hm
  refine h₁.silent hm (isGranted_congr ?_) ?_
  · have hsec' : ∀ x, (updatedFrom T w₁ id inner info states policy).HasSecComp x c ↔
        w₁.HasSecComp x c := fun x => by
      exact Iff.rfl
    by_cases ht : t = id
    · subst ht
      have hgrants := hsame c (List.mem_range.2 hc)
      rw [Bool.eq_iff_iff, beq_iff_eq, isGranted_iff] at hgrants
      rw [← hgrants]
      exact verifyPermissionStatus_granted_congr_list (by rw [← hreq]; rfl) c (hsec' t)
    · refine verifyPermissionStatus_granted_congr_list ?_ c (hsec' t)
      exact (congrArg (·[t]?) hreq).trans (Lib.getElem?_insert_of_ne ht)
  · refine h₁.there.imp (fun hlive => mem_insert.2 (.inr hlive)) fun hgone => ?_
    have hne : t ≠ id := by
      rintro rfl
      exact hgone.dead (mem_of_getElem? hget)
    refine hgone.of_ids (fun ht => ht) (fun ht => ht) (fun ht => ht) rfl (fun ht => ?_) fun ht => ?_
    · exact hgone.dead ((mem_insert.1 ht).resolve_left hne)
    · rcases hrows t _ (getElem?_eq_some_getElem ht) with hrow | ⟨hid, -⟩
      · exact mem_iff_isSome_getElem?.2 (by rw [hrow]; rfl)
      · exact absurd hid hne

/-! ## Runs -/

/-- The operations that change what a token may do, with the verdicts of their environment. -/
inductive ChangeOp where
  | grantPermission (env : Env) (tokenID : AccessTokenID) (permissionName : String) (flag : Flag) (updateFlag : Int32)
  | revokePermission (env : Env) (tokenID : AccessTokenID) (permissionName : String) (flag : Flag) (updateFlag : Int32)
  | setPermissionStatusWithPolicy (env : Env) (tokenID : AccessTokenID) (permissionList : List String) (status : Int)
      (flag : Flag)
  | clearAllSecCompGrantedPerm
  | setUserPolicy (env : Env) (userPermissionList : List UserPermissionPolicy) (callingToken : AccessTokenID)
  | clearUserPolicy (env : Env) (permissionList : List String) (callingToken : AccessTokenID)
  | updatePolicyWhiteList (env : Env) (tokenId : AccessTokenID) (permCode : Nat) (type : Option UpdateWhiteListType)
      (callingToken : AccessTokenID)
  | clearUserGrantedPermissionState (env : Env) (tokenID : AccessTokenID)
  | updateHapToken (env : Env) (tokenID : AccessTokenID) (info : UpdateHapInfoParams)
      (permStateList : List PermissionStatus) (hapPolicy : HapPolicy)
  | removeHapTokenInfo (env : Env) (id : AccessTokenID) (isTokenReserved : Bool)

def changeStep (T : PermissionTable) (D : DlpPermissionModeMap) (w : Service) : ChangeOp → Service
  | .grantPermission env id n fl updateFlag => (grantPermission T D w env id n fl updateFlag).2
  | .revokePermission env id n fl updateFlag => (revokePermission T D w env id n fl updateFlag).2
  | .setPermissionStatusWithPolicy env id perms status fl =>
    (setPermissionStatusWithPolicy T D w env id perms status fl).2
  | .clearAllSecCompGrantedPerm => w.clearAllSecCompGrantedPerm
  | .setUserPolicy env list caller => (setUserPolicy T w env list caller).2
  | .clearUserPolicy env list caller => (clearUserPolicy T w env list caller).2
  | .updatePolicyWhiteList env id c type caller => (updatePolicyWhiteList T w env id c type caller).2
  | .clearUserGrantedPermissionState env id => (clearUserGrantedPermissionState T D w env id).2
  | .updateHapToken env id info states policy => (updateHapToken T w env id info states policy).2
  | .removeHapTokenInfo env id reserved => (w.removeHapTokenInfo env.removeOk false id reserved).2

def changeNotes (T : PermissionTable) (D : DlpPermissionModeMap) (w : Service) : ChangeOp → List Notification
  | .grantPermission env id n fl updateFlag => changePermissionNotes T D w env id n true fl updateFlag
  | .revokePermission env id n fl updateFlag => changePermissionNotes T D w env id n false fl updateFlag
  | .setPermissionStatusWithPolicy env id perms status fl =>
    setPermissionStatusWithPolicyNotes T D w env id perms status fl
  | .clearAllSecCompGrantedPerm => []
  | .setUserPolicy env list caller => setUserPolicyNotes T w env list caller
  | .clearUserPolicy env list caller => clearUserPolicyNotes T w env list caller
  | .updatePolicyWhiteList env id c type caller => updatePolicyWhiteListNotes T w env id c type caller
  | .clearUserGrantedPermissionState env id => clearUserGrantedPermissionStateNotes T D w env id
  | .updateHapToken env id info states policy => updateHapTokenNotes T w env id info states policy
  | .removeHapTokenInfo _ id reserved => removeHapTokenInfoNotes T w id reserved

/-- The service and the subscriber of permission `c` of token `t`. -/
def subscribedStep (T : PermissionTable) (D : DlpPermissionModeMap) (t : AccessTokenID) (c : Nat) (st : Service × View)
    (op : ChangeOp) : Service × View :=
  (changeStep T D st.1 op, (changeNotes T D st.1 op).foldl (View.receive t (T.transferOpcodeToPermission c)) st.2)

/-- `Refreshable`, over the entries of the maps. -/
def RefreshTold (w : Service) : Prop :=
  w.toolTokenInfoMap.isEmpty = true ∧ (∀ e ∈ w.hapTokenInfoMap.toList, e.1 ∈ w.requestedPermData) ∧
    ∀ e ∈ w.requestedPermData.toList, ∀ d ∈ e.2,
      isPermGrantedBySecComp d.flag = true → d.status = permissionGranted
deriving Decidable

theorem RefreshTold.refreshable (h : RefreshTold w) : w.Refreshable where
  hasData x hx := h.2.1 (x, _) (Std.ExtTreeMap.mem_toList_iff_getElem?_eq_some.2 (getElem?_eq_some_getElem hx))
  noTools := isEmpty_iff.1 h.1
  component x c' d hd hcomp := by
    obtain ⟨l, hl, hmem⟩ := mem_of_entry hd
    exact h.2.2 (x, l) (Std.ExtTreeMap.mem_toList_iff_getElem?_eq_some.2 hl) d hmem hcomp

/-- **The operations whose callbacks tell every change of status, and tell it once.**  A grant or revoke follows the
policy and calls the permission by its name in the table; a policy change meets no failing row and no permission held by
a security component only; the lists a reset or a removal tells from name no permission twice; an update and a clearing
of the component grants, which tell nothing, change nothing. -/
def KeepsFollowing (T : PermissionTable) (D : DlpPermissionModeMap) (w : Service) : ChangeOp → Prop
  | .grantPermission env id n fl _ =>
    UpdatePermissionMeets T D env true fl (TellsChange T true fl) (getHapTokenInfo T w env id).2 id n
  | .revokePermission env id n fl _ =>
    UpdatePermissionMeets T D env false fl (TellsChange T false fl) (getHapTokenInfo T w env id).2 id n
  | .setPermissionStatusWithPolicy env id perms status fl =>
    UpdateMultiMeets T env (status == permissionGranted) fl (TellsChange T (status == permissionGranted) fl) w id perms
  | .clearAllSecCompGrantedPerm => ClearingTold w
  | .setUserPolicy env _ _ => env.failingRows = [] ∧ RefreshTold w
  | .clearUserPolicy env _ _ => env.failingRows = [] ∧ RefreshTold w
  | .updatePolicyWhiteList env id c _ _ => ∀ d ∈ (getHapTokenInfo T w env id).2.entry id c,
    isPermGrantedBySecComp d.flag = true → d.status = permissionGranted
  | .clearUserGrantedPermissionState env id => env.failingRows = [] ∧ ResetAllTold T D env w id
  | .updateHapToken env id info states policy => UpdateTold T w env id info states policy
  | .removeHapTokenInfo env id reserved => RemovalTold w env id reserved

instance (T : PermissionTable) (D : DlpPermissionModeMap) (w : Service) : ∀ op, Decidable (KeepsFollowing T D w op) :=
  fun op => by
  cases op <;> unfold KeepsFollowing <;> infer_instance

theorem Follows.step (hc : c < T.permList.length) {st : Service × View} (h : Follows T t c st.1 st.2) {op : ChangeOp}
    (hk : KeepsFollowing T D st.1 op) :
    Follows T t c (subscribedStep T D t c st op).1 (subscribedStep T D t c st op).2 := by
  cases op with
  | grantPermission => exact h.changePermission hc hk
  | revokePermission => exact h.changePermission hc hk
  | setPermissionStatusWithPolicy => exact h.setPermissionStatusWithPolicy hc rfl hk
  | clearAllSecCompGrantedPerm => exact h.clearAllSecCompGrantedPerm hk
  | setUserPolicy env => exact h.setUserPolicy hc env hk.1 hk.2.refreshable
  | clearUserPolicy env => exact h.clearUserPolicy hc env hk.1 hk.2.refreshable
  | updatePolicyWhiteList env => exact h.updatePolicyWhiteList hc env hk
  | clearUserGrantedPermissionState => exact h.clearUserGrantedPermissionState hc hk.1 hk.2
  | updateHapToken => exact h.updateHapToken hc hk
  | removeHapTokenInfo => exact h.removeHapTokenInfo hc hk

/-- **The callbacks tell the status.**  From a state in which the kernel mirrors verification, in every state of every
run whose steps meet `KeepsFollowing`, what a subscriber of a permission of a token makes of the callbacks is what
verification answers, and no callback repeated what the subscriber knew; a removed token is denied. -/
theorem subscriber_knows_status (T : PermissionTable) (D : DlpPermissionModeMap) (w₀ : Service)
    (hrun₀ : Reaches (mirrorStep T D) (KeepsMirror T D) empty w₀) (t : AccessTokenID) (info : HapTokenInfoInner)
    (hlive : w₀.hapTokenInfoMap[t]? = some info) (c : Nat) (hc : c < T.permList.length) (st : Service × View)
    (hrun : Reaches (subscribedStep T D t c) (fun st op => KeepsFollowing T D st.1 op) (w₀, ⟨w₀.isGranted t c, true⟩)
      st) :
    st.2.seen = st.1.isGranted t c ∧ st.2.clean = true ∧
      (t ∉ st.1.hapTokenInfoMap → st.1.isGranted t c = false) := by
  have hm₀ : w₀.Mirrored T := hrun₀.invariant (fun _ op h hk => h.step op hk) mirrored_empty
  have hstep : ∀ (st : Service × View) (op : ChangeOp), Follows T t c st.1 st.2 → KeepsFollowing T D st.1 op →
      Follows T t c (subscribedStep T D t c st op).1 (subscribedStep T D t c st op).2 :=
    fun st op h hk => h.step hc hk
  have hf := hrun.invariant hstep ⟨hm₀, rfl, rfl, .inl (mem_of_getElem? hlive)⟩
  exact ⟨hf.seen, hf.clean, fun hdead => isGranted_of_dead hf.mirrored.toSound hdead⟩

def cameraRefused : Service :=
  mirrorStep sampleTable ∅ empty (.createHapTokenInfo .ok sampleParams asksCamera)

/-- The token above, and a subscriber to its camera permission that starts from the status verification answers. -/
def cameraSubscribed : Service × View :=
  (cameraRefused, ⟨cameraRefused.isGranted sampleHap 0, true⟩)

theorem subscriber_knows_removed :
    let st := ([.grantPermission .ok sampleHap camera permissionUserSet 0,
      .setUserPolicy .ok (cameraPolicy true) 7, .clearUserPolicy .ok [camera] 7,
      .clearUserGrantedPermissionState .ok sampleHap,
      .removeHapTokenInfo .ok sampleHap false] : List ChangeOp).foldl
      (subscribedStep sampleTable ∅ sampleHap 0) cameraSubscribed
    st.2.seen = st.1.isGranted sampleHap 0 ∧ st.2.clean = true ∧
      (sampleHap ∉ st.1.hapTokenInfoMap → st.1.isGranted sampleHap 0 = false) :=
  subscriber_knows_status sampleTable ∅ cameraRefused
    (Reaches.refl.snoc (by decide))
    sampleHap (.ofParams sampleHap sampleParams) (by decide +kernel) 0 (by decide) _
    (Lib.reaches_foldl _ cameraSubscribed (by decide +kernel))

/-- An update that grants the permission calls nobody.  A removal of a token whose requested permission a security
component was granted calls twice. -/
theorem subscriber_misled :
    (∃ st, Reaches (subscribedStep sampleTable ∅ sampleHap 0) Always cameraSubscribed st ∧
        st.2.seen = false ∧ st.1.verifyPermissionStatus sampleHap 0 = permissionGranted) ∧
      ∃ st, Reaches (subscribedStep sampleTable ∅ sampleHap 0) Always cameraSubscribed st ∧
        st.2.clean = false := by
  refine ⟨⟨_, Lib.reaches_always [.updateHapToken .ok sampleHap ⟨"id", 20, false, false, "release", false⟩
      [⟨camera, permissionGranted, permissionPreAuthorizedCancelable⟩] samplePolicy] cameraSubscribed,
      by decide +kernel, by decide +kernel⟩,
    ⟨_, Lib.reaches_always [
      .grantPermission .ok sampleHap camera permissionComponentSet 0,
      .removeHapTokenInfo .ok sampleHap false] cameraSubscribed, by decide +kernel⟩⟩

end Service
end AccessToken
