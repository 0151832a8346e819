import AccessToken.Claw.TicketPermissions
import Mathlib.Data.List.Zip
/-!
# When a command needs a dialog

The loop over the required permissions of a command keeps the dialog decision in one flag, and each undecided permission
writes it.  So the flag is the last undecided permission's, and with two of them that differ the decision depends on
their order.
-/
namespace AccessToken.Claw

variable {T : PermissionTable} {M M' : ClawPermissionMetadata} {ctx : PermissionStatusMap}

/-! ## The unique values -/

variable {l required us pre : List String} {detail detail' : PermissionDialogDetail} {p n : String}
    {status : PermissionDecisionStatus} {cli : CliInfo} {b : Bool}

theorem foldl_keepUnique_of_nodup : ∀ (l acc : List String), (acc ++ l).Nodup → l.foldl keepUnique acc = acc ++ l
  | [], acc, _ => (List.append_nil acc).symm
  | a :: l, acc, h => by
    have ha : a ∉ acc := fun hmem => (List.nodup_append.1 h).2.2 a hmem a (by simp) rfl
    have hkeep : keepUnique acc a = acc ++ [a] := if_neg (by simpa using ha)
    have happ : acc ++ [a] ++ l = acc ++ a :: l := by simp
    rw [List.foldl_cons, hkeep, foldl_keepUnique_of_nodup l (acc ++ [a]) (by rw [happ]; exact h), happ]

theorem stableUnique_of_nodup (h : l.Nodup) : stableUnique l = l :=
  foldl_keepUnique_of_nodup l [] h

/-! ## The status of one permission -/

theorem decisionOf_ne_notDeclared (status : PermissionStatus) : decisionOf status ≠ .noDialogNotDeclared := by
  unfold decisionOf
  repeat' split
  all_goals decide

theorem notDeclared_iff : getPermissionDecisionStatus ctx p .noDialogNotDeclared = .noDialogNotDeclared ↔ p ∉ ctx := by
  unfold getPermissionDecisionStatus
  rw [Std.ExtTreeMap.mem_iff_isSome_getElem?]
  cases ctx[p]? with
  | none => simp
  | some => simp [decisionOf_ne_notDeclared]

/-- A used permission that is not in the map counts as undecided, so what the details name is in the map. -/
theorem used_mem (h : getPermissionDecisionStatus ctx p .needPermissionDialog ≠ .needPermissionDialog) :
    p ∈ ctx ∧ getPermissionDecisionStatus ctx p .needPermissionDialog ≠ .noDialogNotDeclared := by
  unfold getPermissionDecisionStatus at h ⊢
  rw [Std.ExtTreeMap.mem_iff_isSome_getElem?]
  cases hp : ctx[p]? with
  | none => rw [hp] at h; exact absurd rfl h
  | some status => exact ⟨rfl, decisionOf_ne_notDeclared status⟩

/-- The host has declared the permission and it is neither granted nor refused for good. -/
def Undecided (ctx : PermissionStatusMap) (p : String) : Prop :=
  getPermissionDecisionStatus ctx p .noDialogNotDeclared = .needPermissionDialog

/-- The permission has a used permission that is undecided or not declared. -/
def UsesUndecided (T : PermissionTable) (M : ClawPermissionMetadata) (ctx : PermissionStatusMap) (p : String) : Prop :=
  ∃ us, getUsedPermissionsByCliPermission T M p = .ok us ∧
    ∃ u ∈ us, getPermissionDecisionStatus ctx u .needPermissionDialog = .needPermissionDialog

theorem resolved_eq_need : getCliPermissionResolvedStatus ctx us = .needPermissionDialog ↔
    ∃ u ∈ us, getPermissionDecisionStatus ctx u .needPermissionDialog = .needPermissionDialog := by
  unfold getCliPermissionResolvedStatus
  simp only [List.any_eq_true, beq_iff_eq]
  split
  · rename_i h; exact ⟨fun _ => h, fun _ => rfl⟩
  · rename_i h; exact ⟨fun hne => (by cases hne), fun h' => absurd h' h⟩

/-- The status `BuildCliPermissionDetailByRequiredPermission` gives a required permission. -/
def HasStatus (T : PermissionTable) (M : ClawPermissionMetadata) (ctx : PermissionStatusMap) (p : String)
    (status : PermissionDecisionStatus) : Prop :=
  ∃ detail, buildCliPermissionDetailByRequiredPermission T M ctx p = .ok detail ∧ detail.cliPermissionStatus = status

theorem hasStatus_need : HasStatus T M ctx p .needPermissionDialog ↔ Undecided ctx p ∧ UsesUndecided T M ctx p := by
  unfold HasStatus buildCliPermissionDetailByRequiredPermission Undecided UsesUndecided
  cases hus : getUsedPermissionsByCliPermission T M p with
  | error => exact ⟨fun ⟨_, h, _⟩ => (by cases h), fun ⟨_, _, h, _⟩ => (by cases h)⟩
  | ok us =>
    have hused : (∃ us', (Except.ok us : Except AccessTokenError (List String)) = .ok us' ∧
        ∃ u ∈ us', getPermissionDecisionStatus ctx u .needPermissionDialog = .needPermissionDialog) ↔
          getCliPermissionResolvedStatus ctx us = .needPermissionDialog := by
      rw [resolved_eq_need]
      exact ⟨fun ⟨us', h, hu⟩ => by cases h; exact hu, fun hu => ⟨us, rfl, hu⟩⟩
    rw [hused]
    simp only [bind, Except.bind, beq_iff_eq]
    generalize getPermissionDecisionStatus ctx p .noDialogNotDeclared = status
    cases status <;> simp

theorem hasStatus_notDeclared (hus : ∃ us, getUsedPermissionsByCliPermission T M p = .ok us) :
    HasStatus T M ctx p .noDialogNotDeclared ↔ p ∉ ctx := by
  obtain ⟨us, hus⟩ := hus
  rw [← notDeclared_iff]
  have hne : getCliPermissionResolvedStatus ctx us ≠ .noDialogNotDeclared := by
    unfold getCliPermissionResolvedStatus
    split <;> decide
  unfold HasStatus buildCliPermissionDetailByRequiredPermission
  rw [hus]
  simp only [bind, Except.bind, beq_iff_eq]
  generalize getPermissionDecisionStatus ctx p .noDialogNotDeclared = status
  cases status <;> simp [hne]

/-! ## The details -/

theorem append_need :
    (appendDialogDetailStatus detail n status).needPermissionDialog = detail.needPermissionDialog := by
  unfold appendDialogDetailStatus
  split <;> rfl

theorem mem_names_append {x : String} (h : x ∈ (appendDialogDetailStatus detail n status).permissionNameList) :
    x ∈ detail.permissionNameList ∨ x = n := by
  unfold appendDialogDetailStatus at h
  split at h
  · exact .inl h
  · simpa using h

theorem hasNotDeclaredStatus_append_of_ne (h : status ≠ .noDialogNotDeclared) :
    hasNotDeclaredStatus (appendDialogDetailStatus detail n status) = hasNotDeclaredStatus detail := by
  unfold appendDialogDetailStatus hasNotDeclaredStatus
  split
  · rfl
  · simp [h]

theorem hasNotDeclaredStatus_append (h : n ∈ detail.permissionNameList → hasNotDeclaredStatus detail = true) :
    hasNotDeclaredStatus (appendDialogDetailStatus detail n .noDialogNotDeclared) = true := by
  unfold appendDialogDetailStatus
  split
  · rename_i hn
    exact h (by simpa using hn)
  · simp [hasNotDeclaredStatus]

/-- From `detail` to `detail'` the decision and the not-declared mark are the same, and only declared permissions have
been named. -/
structure NamesDeclared (ctx : PermissionStatusMap) (detail detail' : PermissionDialogDetail) : Prop where
  need : detail'.needPermissionDialog = detail.needPermissionDialog
  mark : hasNotDeclaredStatus detail' = hasNotDeclaredStatus detail
  names : ∀ n ∈ detail'.permissionNameList, n ∈ detail.permissionNameList ∨ n ∈ ctx

theorem namesDeclared_append (hn : n ∈ ctx) (hstatus : status ≠ .noDialogNotDeclared) :
    NamesDeclared ctx detail (appendDialogDetailStatus detail n status) where
  need := append_need
  mark := hasNotDeclaredStatus_append_of_ne hstatus
  names x hx := by
    rcases mem_names_append hx with hx | rfl
    · exact .inl hx
    · exact .inr hn

theorem NamesDeclared.refl : NamesDeclared ctx detail detail :=
  ⟨rfl, rfl, fun _ => .inl⟩

theorem NamesDeclared.trans {detail'' : PermissionDialogDetail} (h : NamesDeclared ctx detail detail')
    (h' : NamesDeclared ctx detail' detail'') : NamesDeclared ctx detail detail'' where
  need := h'.need.trans h.need
  mark := h'.mark.trans h.mark
  names n hn := (h'.names n hn).elim (h.names n) .inr

theorem namesDeclared_used : NamesDeclared ctx detail (appendUsedPermission ctx detail p) := by
  unfold appendUsedPermission
  dsimp only
  split
  · exact NamesDeclared.refl
  rename_i hne
  split
  · obtain ⟨hmem, hstatus⟩ := used_mem (by simpa using hne)
    exact namesDeclared_append hmem hstatus
  · exact NamesDeclared.refl

def Overwrites (T : PermissionTable) (M : ClawPermissionMetadata) (ctx : PermissionStatusMap) (p : String)
    (before after : Bool) : Prop :=
  (Undecided ctx p → (after = true ↔ UsesUndecided T M ctx p)) ∧ (¬Undecided ctx p → after = before)

/-- **What a declared permission does to the detail.** -/
theorem buildCliDialogDetailByRequiredPermission_ok (hp : p ∈ ctx)
    (h : buildCliDialogDetailByRequiredPermission T M ctx p detail = .ok detail') :
    Overwrites T M ctx p detail.needPermissionDialog detail'.needPermissionDialog ∧
      hasNotDeclaredStatus detail' = hasNotDeclaredStatus detail ∧
      ∀ n ∈ detail'.permissionNameList, n ∈ detail.permissionNameList ∨ n ∈ ctx := by
  obtain ⟨us, hus, h⟩ := Lib.bind_eq_ok.1 h
  have hstatus : getPermissionDecisionStatus ctx p .noDialogNotDeclared ≠ .noDialogNotDeclared := fun hnot =>
    notDeclared_iff.1 hnot hp
  rw [if_neg (by simpa using hstatus)] at h
  cases h
  -- the flag is written first; the rest only names declared permissions
  have hfold : ∀ start, NamesDeclared ctx start (us.foldl (appendUsedPermission ctx) start) := fun start =>
    List.foldlRecOn (motive := NamesDeclared ctx start) us _ NamesDeclared.refl
      fun _ hd u _ => hd.trans namesDeclared_used
  have hnamed : ∀ start, NamesDeclared ctx start
      (if shouldReturnDialogDetailStatus (getPermissionDecisionStatus ctx p .noDialogNotDeclared) then
        appendDialogDetailStatus start p (getPermissionDecisionStatus ctx p .noDialogNotDeclared) else start) := by
    intro start
    split
    · exact namesDeclared_append hp hstatus
    · exact NamesDeclared.refl
  have hrest := fun start => (hnamed start).trans (hfold _)
  by_cases hund : Undecided ctx p
  · have hund' : (getPermissionDecisionStatus ctx p .noDialogNotDeclared == .needPermissionDialog) = true := by
      rw [beq_iff_eq]
      exact hund
    rw [if_pos hund']
    refine ⟨⟨fun _ => ?_, fun hnot => absurd hund hnot⟩, (hrest _).mark, (hrest _).names⟩
    rw [(hrest _).need, beq_iff_eq, resolved_eq_need]
    exact ⟨fun hu => ⟨us, hus, hu⟩, fun ⟨us', hus', hu⟩ => by cases hus.symm.trans hus'; exact hu⟩
  · have hund' : ¬(getPermissionDecisionStatus ctx p .noDialogNotDeclared == .needPermissionDialog) = true := by
      rw [beq_iff_eq]
      exact hund
    rw [if_neg hund']
    exact ⟨⟨fun h => absurd h hund, fun _ => (hrest _).need⟩, (hrest _).mark, (hrest _).names⟩

/-! ## The loop over the required permissions -/

/-- The decision the undecided permissions of the list leave, one after the other. -/
inductive LastDecides (T : PermissionTable) (M : ClawPermissionMetadata) (ctx : PermissionStatusMap) :
    List String → Bool → Prop where
  | nil : LastDecides T M ctx [] false
  | snoc {pre : List String} {p : String} {before after : Bool} (h : LastDecides T M ctx pre before)
      (hp : Overwrites T M ctx p before after) : LastDecides T M ctx (pre ++ [p]) after

/-- The state of the loop after the permissions `pre`. -/
structure DialogLoop (T : PermissionTable) (M : ClawPermissionMetadata) (ctx : PermissionStatusMap) (pre : List String)
    (st : Bool × PermissionDialogDetail) : Prop where
  used : ∀ p ∈ pre, ∃ us, getUsedPermissionsByCliPermission T M p = .ok us
  flag : st.1 = true ↔ ∃ p ∈ pre, p ∉ ctx
  mark : hasNotDeclaredStatus st.2 = st.1
  names : ∀ n ∈ st.2.permissionNameList, n ∉ ctx → st.1 = true
  stopped : st.1 = true → st.2.needPermissionDialog = false
  decides : st.1 = false → LastDecides T M ctx pre st.2.needPermissionDialog

theorem dialogLoop_nil : DialogLoop T M ctx [] (false, {}) where
  used := by simp
  flag := by simp
  mark := rfl
  names := by simp
  stopped := by simp
  decides _ := .nil

theorem DialogLoop.step {st st' : Bool × PermissionDialogDetail} (h : DialogLoop T M ctx pre st)
    (hstep : dialogDetailStep T M ctx st p = .ok st') : DialogLoop T M ctx (pre ++ [p]) st' := by
  obtain ⟨us, hus, hstep⟩ := Lib.bind_eq_ok.1 hstep
  have hused : ∀ q ∈ pre ++ [p], ∃ us, getUsedPermissionsByCliPermission T M q = .ok us := by
    intro q hq
    rcases List.mem_append.1 hq with hq | hq
    · exact h.used q hq
    · exact ⟨us, List.mem_singleton.1 hq ▸ hus⟩
  have hmem : (∃ q ∈ pre ++ [p], q ∉ ctx) ↔ (∃ q ∈ pre, q ∉ ctx) ∨ p ∉ ctx := by
    simp [or_and_right, exists_or]
  by_cases hp : p ∈ ctx
  · have hdecl : ¬(getPermissionDecisionStatus ctx p .noDialogNotDeclared == .noDialogNotDeclared) = true := by
      rw [beq_iff_eq, notDeclared_iff]
      exact not_not.2 hp
    rw [if_neg hdecl] at hstep
    have hflag : (∃ q ∈ pre ++ [p], q ∉ ctx) ↔ ∃ q ∈ pre, q ∉ ctx := by
      rw [hmem]
      exact ⟨fun h => h.resolve_right (not_not.2 hp), .inl⟩
    cases hst : st.1 with
    | true =>
      rw [hst, if_pos rfl] at hstep
      cases hstep
      exact ⟨hused, h.flag.trans hflag.symm, h.mark, h.names, h.stopped, fun hf => by rw [hst] at hf; cases hf⟩
    | false =>
      rw [hst, if_neg (by decide)] at hstep
      obtain ⟨detail, hdetail, hstep⟩ := Lib.bind_eq_ok.1 hstep
      cases hstep
      obtain ⟨hover, hmark, hnames⟩ := buildCliDialogDetailByRequiredPermission_ok hp hdetail
      refine ⟨hused, ?_, ?_, ?_, fun hf => (by cases hf), fun _ => .snoc (h.decides hst) hover⟩
      · rw [hflag, ← h.flag, hst]
      · rw [hmark, h.mark, hst]
      · intro n hn hctx
        rw [← hst]
        exact h.names n ((hnames n hn).resolve_right hctx) hctx
  · have hdecl : (getPermissionDecisionStatus ctx p .noDialogNotDeclared == .noDialogNotDeclared) = true := by
      rw [beq_iff_eq]
      exact notDeclared_iff.2 hp
    rw [if_pos hdecl, beq_iff_eq.1 hdecl] at hstep
    cases hstep
    refine ⟨hused, ⟨fun _ => hmem.2 (.inr hp), fun _ => rfl⟩, ?_, fun _ _ _ => rfl, fun _ => append_need,
      fun hf => (by cases hf)⟩
    -- a permission that is not declared is named only with the mark
    exact hasNotDeclaredStatus_append fun hn => h.mark.trans (h.names p hn hp)

/-- **The detail of a command**: its mark says whether a required permission is not declared, and without one the last
undecided permission decides. -/
theorem buildCliPermissionDialogDetail_ok (h : buildCliPermissionDialogDetail T M ctx cli {} = .ok detail) :
    ∃ required, getRequiredCliPermissions M cli = .ok required ∧
      (∀ p ∈ required, ∃ us, getUsedPermissionsByCliPermission T M p = .ok us) ∧
      (hasNotDeclaredStatus detail = true ↔ ∃ p ∈ required, p ∉ ctx) ∧
      ((∃ p ∈ required, p ∉ ctx) → detail.needPermissionDialog = false) ∧
      ((∀ p ∈ required, p ∈ ctx) → LastDecides T M ctx required detail.needPermissionDialog) := by
  obtain ⟨required, hrequired, h⟩ := Lib.bind_eq_ok.1 h
  obtain ⟨st, hst, h⟩ := Lib.bind_eq_ok.1 h
  have hloop : DialogLoop T M ctx required st := by
    have hloop := Lib.foldlM_ok (DialogLoop T M ctx) (fun _ _ _ _ h hs => h.step hs) required [] _ st dialogLoop_nil hst
    rwa [List.nil_append] at hloop
  obtain ⟨notDeclared, final⟩ := st
  refine ⟨required, hrequired, hloop.used, ?_⟩
  have hmark : hasNotDeclaredStatus final = notDeclared := hloop.mark
  have hflag : notDeclared = true ↔ ∃ p ∈ required, p ∉ ctx := hloop.flag
  dsimp only at h
  rw [hmark, Bool.and_self] at h
  cases notDeclared with
  | true =>
    cases h
    obtain ⟨p, hp, hctx⟩ := hflag.1 rfl
    exact ⟨⟨fun _ => ⟨p, hp, hctx⟩, fun _ => hmark⟩, fun _ => rfl, fun hall => absurd (hall p hp) hctx⟩
  | false =>
    cases h
    have hall : ¬∃ p ∈ required, p ∉ ctx := fun hex => by cases hflag.2 hex
    exact ⟨⟨fun hm => (by rw [hmark] at hm; cases hm), fun hex => absurd hex hall⟩, fun hex => absurd hex hall,
      fun _ => hloop.decides rfl⟩

/-! ## When the last permission decides rightly -/

/-- A required permission is not declared, or the undecided ones agree on whether they use an undecided permission. -/
def UndecidedAgree (T : PermissionTable) (M : ClawPermissionMetadata) (ctx : PermissionStatusMap)
    (required : List String) : Prop :=
  (∃ p ∈ required, p ∉ ctx) ∨
    ∀ p ∈ required, ∀ q ∈ required, Undecided ctx p → Undecided ctx q → UsesUndecided T M ctx p →
    UsesUndecided T M ctx q

theorem LastDecides.iff_exists (h : LastDecides T M ctx l b)
    (hagree : ∀ p ∈ l, ∀ q ∈ l, Undecided ctx p → Undecided ctx q → UsesUndecided T M ctx p → UsesUndecided T M ctx q) :
    b = true ↔ ∃ p ∈ l, Undecided ctx p ∧ UsesUndecided T M ctx p := by
  induction h with
  | nil => simp
  | @snoc pre p before after h hp ih =>
    have ih := ih fun q hq r hr => hagree q (by simp [hq]) r (by simp [hr])
    by_cases hund : Undecided ctx p
    · rw [hp.1 hund]
      refine ⟨fun huse => ⟨p, by simp, hund, huse⟩, ?_⟩
      rintro ⟨q, hq, hqund, hquse⟩
      exact hagree q hq p (by simp) hqund hund hquse
    rw [hp.2 hund, ih]
    constructor
    · rintro ⟨q, hq, hqund⟩
      exact ⟨q, by simp [hq], hqund⟩
    rintro ⟨q, hq, hqund, hquse⟩
    rcases List.mem_append.1 hq with hq | hq
    · exact ⟨q, hq, hqund, hquse⟩
    · cases List.mem_singleton.1 hq
      exact absurd hqund hund

theorem LastDecides.last (h : LastDecides T M ctx (pre ++ [p]) b)
    (hund : Undecided ctx p) : b = true ↔ UsesUndecided T M ctx p := by
  generalize hl : pre ++ [p] = l at h
  cases h with
  | nil => simp at hl
  | snoc _ hp =>
    have hlast := congrArg List.getLast? hl
    simp only [List.getLast?_concat, Option.some.injEq] at hlast
    subst hlast
    exact hp.1 hund

theorem usesUndecided_congr (hM : M'.cliPermissionMap = M.cliPermissionMap) (p : String) :
    getUsedPermissionsByCliPermission T M' p = getUsedPermissionsByCliPermission T M p := by
  unfold getUsedPermissionsByCliPermission
  rw [hM]

theorem lastDecides_congr (hM : M'.cliPermissionMap = M.cliPermissionMap) (h : LastDecides T M' ctx l b) :
    LastDecides T M ctx l b := by
  induction h with
  | nil => exact .nil
  | snoc _ hp ih =>
    unfold Overwrites UsesUndecided at hp
    rw [usesUndecided_congr hM] at hp
    exact .snoc ih hp

theorem buildCliDialogDetailByRequiredPermission_succeeds (ctx : PermissionStatusMap)
    (h : getUsedPermissionsByCliPermission T M p = .ok us) (detail : PermissionDialogDetail) :
    ∃ detail', buildCliDialogDetailByRequiredPermission T M ctx p detail = .ok detail' := by
  unfold buildCliDialogDetailByRequiredPermission
  rw [h]
  simp only [bind, Except.bind]
  split
  · exact ⟨_, rfl⟩
  · exact ⟨_, rfl⟩

theorem buildCliPermissionDialogDetail_succeeds (ctx : PermissionStatusMap)
    (hrequired : getRequiredCliPermissions M cli = .ok required)
    (hused : ∀ p ∈ required, ∃ us, getUsedPermissionsByCliPermission T M p = .ok us) :
    ∃ detail, buildCliPermissionDialogDetail T M ctx cli {} = .ok detail := by
  have hstep : ∀ st, ∀ p ∈ required, ∃ st', dialogDetailStep T M ctx st p = .ok st' := by
    intro st p hp
    obtain ⟨us, hus⟩ := hused p hp
    unfold dialogDetailStep
    rw [hus]
    simp only [bind, Except.bind]
    split
    · exact ⟨_, rfl⟩
    split
    · exact ⟨_, rfl⟩
    · obtain ⟨detail, hdetail⟩ := buildCliDialogDetailByRequiredPermission_succeeds ctx hus st.2
      rw [hdetail]
      exact ⟨_, rfl⟩
  obtain ⟨⟨notDeclared, final⟩, hst⟩ := Lib.foldlM_succeeds required (false, {}) hstep
  unfold buildCliPermissionDialogDetail
  rw [hrequired]
  simp only [bind, Except.bind, hst]
  split
  · exact ⟨_, rfl⟩
  · exact ⟨_, rfl⟩

/-! ## The list handed to the ticket manager -/

/-- The entry is of a command among the items that needs no dialog and has no permission that is not declared. -/
def Handed (items : List ((PermissionDialogDetail × CliInfo) × Nat)) (e : Nat × CliAuthInfo) : Prop :=
  ∃ detail, ((detail, e.2.cliInfo), e.1) ∈ items ∧ detail.needPermissionDialog = false ∧
    hasNotDeclaredStatus detail = false

theorem handed_collected {items : List ((PermissionDialogDetail × CliInfo) × Nat)} {raw : List (Nat × CliAuthInfo)}
    (h : items.foldlM (collectRawAuthInfo M) [] = .ok raw) : ∀ e ∈ raw, Handed items e := by
  refine Lib.foldlM_ok (fun pre (raw : List (Nat × CliAuthInfo)) => ∀ e ∈ raw, Handed pre e) ?_ items [] []
    raw (by simp) h
  rintro pre acc ⟨⟨detail, cli⟩, i⟩ acc' hacc hok e he
  have hold : e ∈ acc → Handed (pre ++ [((detail, cli), i)]) e := fun he => by
    obtain ⟨d, hd, h⟩ := hacc e he
    exact ⟨d, List.mem_append_left _ hd, h⟩
  simp only [collectRawAuthInfo] at hok
  split at hok
  · cases hok
    exact hold he
  rename_i hneed
  split at hok
  · cases hok
    exact hold he
  rename_i hmark
  obtain ⟨names, -, hok⟩ := Lib.bind_eq_ok.1 hok
  cases hok
  rcases List.mem_append.1 he with he | he
  · exact hold he
  · cases List.mem_singleton.1 he
    exact ⟨detail, by simp, by simpa using hneed, by simpa using hmark⟩

section Tickets

variable {statusMap : Except AccessTokenError PermissionStatusMap} {cliInfos : List CliInfo}
  {details : List PermissionDialogDetail} {indexes : List Nat} {authInfos : List CliAuthInfo}

section

variable (h : cliTicketAuthInfos T M statusMap cliInfos details = .ok (indexes, authInfos))
include h

/-- **The indexes and the list go together.** -/
theorem cliTicketAuthInfos_handed :
    List.Forall₂ (fun i a => Handed (details.zip cliInfos).zipIdx (i, a)) indexes authInfos := by
  unfold cliTicketAuthInfos at h
  split at h
  · cases h
    exact .nil
  obtain ⟨raw, hraw, h⟩ := Lib.bind_eq_ok.1 h
  split at h
  · cases h
    exact .nil
  obtain ⟨infos, hinfos, h⟩ := Lib.bind_eq_ok.1 h
  cases h
  obtain ⟨smap, -, hinfos⟩ := Lib.bind_eq_ok.1 hinfos
  have hall := List.forall₂_map_left_iff.1 (Lib.mapM_ok hinfos)
  refine List.forall₂_map_left_iff.2 (((List.forall₂_and_left _ _).2 ⟨handed_collected hraw, hall⟩).imp ?_)
  rintro e a ⟨⟨d, hd, h⟩, ha⟩
  exact ⟨d, (ticketOf_of_resolved ha).cliInfo ▸ hd, h⟩

/-- **A command in the list has a detail without a dialog and without the not-declared mark.** -/
theorem cliTicketAuthInfos_mem :
    ∀ a ∈ authInfos, ∃ detail, (detail, a.cliInfo) ∈ details.zip cliInfos ∧ detail.needPermissionDialog = false ∧
      hasNotDeclaredStatus detail = false := by
  intro a ha
  obtain ⟨i, -, d, hd, h⟩ := Lib.forall₂_mem_right (cliTicketAuthInfos_handed h) a ha
  exact ⟨d, List.mem_of_getElem? (List.mem_zipIdx_iff_getElem?.1 hd), h⟩

end

theorem assigned_or_kept : ∀ (pairs : List (Nat × String)) (details : List PermissionDialogDetail) (i : Nat),
    let r := pairs.foldl (fun details p => details.modify p.1 fun detail => { detail with authResult := p.2 }) details
    r[i]? = details[i]? ∨ ∃ t, (i, t) ∈ pairs ∧ r[i]? = details[i]?.map ({ · with authResult := t })
  | [], _, _ => .inl rfl
  | (j, t) :: pairs, details, i => by
    have hset : (details.modify j ({ · with authResult := t }))[i]? =
        if j = i then details[i]?.map ({ · with authResult := t }) else details[i]? := by
      rw [List.getElem?_modify]
      split <;> simp
    rcases assigned_or_kept pairs (details.modify j ({ · with authResult := t })) i with h | ⟨t', ht, h⟩
    · rw [hset] at h
      split at h
      · subst i
        exact .inr ⟨t, List.mem_cons_self, h⟩
      · exact .inl h
    · refine .inr ⟨t', List.mem_cons_of_mem _ ht, h.trans ?_⟩
      rw [hset]
      split <;> simp [Function.comp_def]

/-- **A ticket reaches no other command**: whatever the ticket manager answers, each detail is as it was, or it needs no
dialog and has the ticket issued for its own command. -/
theorem tickets_reach_their_commands (generateCliTicket : List CliAuthInfo → Except AccessTokenError (List String)) :
    let r := fillCliDialogAuthResultsIfNoDialog T M statusMap generateCliTicket cliInfos details
    (∃ e, r = .error e) ∨ ∃ details' authInfos authResults, r = .ok details' ∧
      (authInfos = [] ∨ generateCliTicket authInfos = .ok authResults) ∧
      ∀ i, details'[i]? = details[i]? ∨ ∃ a t, (a, t) ∈ authInfos.zip authResults ∧
        Handed (details.zip cliInfos).zipIdx (i, a) ∧ details'[i]? = details[i]?.map ({ · with authResult := t }) := by
  simp only [fillCliDialogAuthResultsIfNoDialog]
  cases hinfos : cliTicketAuthInfos T M statusMap cliInfos details with
  | error e => exact .inl ⟨e, rfl⟩
  | ok r =>
    obtain ⟨indexes, infos⟩ := r
    by_cases hempty : indexes.isEmpty
    · exact .inr ⟨details, [], [], by simp [bind, Except.bind, hempty]; rfl, .inl rfl, fun _ => .inl rfl⟩
    cases hgen : generateCliTicket infos with
    | error e => exact .inl ⟨e, by simp [bind, Except.bind, hempty, hgen]⟩
    | ok authResults =>
      refine .inr ⟨_, infos, authResults, by simp [bind, Except.bind, hempty, hgen]; rfl, .inr hgen, fun i => ?_⟩
      refine (assigned_or_kept _ details i).imp_right fun ⟨t, hmem, ht⟩ => ?_
      obtain ⟨a, ha, hhanded⟩ := Lib.forall₂_mem_zip (cliTicketAuthInfos_handed hinfos) hmem
      exact ⟨a, t, ha, hhanded, ht⟩

end Tickets

/-! ## The decision -/

/-- What the dialog decision owes for the details of a list of commands: a dialog exactly where every required
permission is declared and one needs consent, no ticket for a command with a permission that needs consent, and the same
answer for every order of the required permissions. -/
structure DialogDecisionRight (T : PermissionTable) (M : ClawPermissionMetadata) (ctx : PermissionStatusMap)
    (cliInfos : List CliInfo) (details : List PermissionDialogDetail) : Prop where
  decision : ∀ cli detail, (cli, detail) ∈ cliInfos.zip details →
    ∀ required, getRequiredCliPermissions M cli = .ok required →
      (detail.needPermissionDialog = true ↔ (∀ p ∈ required, ¬HasStatus T M ctx p .noDialogNotDeclared) ∧
        ∃ p ∈ required, HasStatus T M ctx p .needPermissionDialog)
  handed : ∀ statusMap indexes authInfos, cliTicketAuthInfos T M statusMap cliInfos details = .ok (indexes, authInfos) →
    ∀ a ∈ authInfos, ∀ required, getRequiredCliPermissions M a.cliInfo = .ok required →
      ∀ p ∈ required, ¬HasStatus T M ctx p .needPermissionDialog
  order : ∀ cli detail, (cli, detail) ∈ cliInfos.zip details →
    ∀ required, getRequiredCliPermissions M cli = .ok required →
      ∀ M' : ClawPermissionMetadata, M'.cliPermissionMap = M.cliPermissionMap →
        ∀ required', getRequiredCliPermissions M' cli = .ok required' → required'.Perm required →
          ∃ detail', buildCliPermissionDialogDetail T M' ctx cli {} = .ok detail' ∧
            detail'.needPermissionDialog = detail.needPermissionDialog ∧
            hasNotDeclaredStatus detail' = hasNotDeclaredStatus detail

theorem getRequiredCliPermissions_nodup (h : getRequiredCliPermissions M cli = .ok required) : required.Nodup := by
  unfold getRequiredCliPermissions at h
  split at h
  · cases h
  · cases h
    exact nodup_stableUnique _

def withRequired (M : ClawPermissionMetadata) (required : List String) : ClawPermissionMetadata :=
  { M with queryCommandPermission := fun _ => .ok required }

theorem getRequiredCliPermissions_withRequired (h : required.Nodup) (cli : CliInfo) :
    getRequiredCliPermissions (withRequired M required) cli = .ok required := by
  simp only [getRequiredCliPermissions, withRequired, stableUnique_of_nodup h]

/-- **The decision of one command, where the undecided permissions agree.** -/
theorem need_iff (hdetail : buildCliPermissionDialogDetail T M ctx cli {} = .ok detail)
    (hrequired : getRequiredCliPermissions M cli = .ok required) (hagree : UndecidedAgree T M ctx required) :
    detail.needPermissionDialog = true ↔
      (∀ p ∈ required, p ∈ ctx) ∧ ∃ p ∈ required, Undecided ctx p ∧ UsesUndecided T M ctx p := by
  obtain ⟨required', hrequired', -, -, hfalse, hlast⟩ := buildCliPermissionDialogDetail_ok hdetail
  cases hrequired.symm.trans hrequired'
  by_cases hall : ∀ p ∈ required, p ∈ ctx
  · have hundecided := hagree.resolve_left fun ⟨p, hp, hctx⟩ => hctx (hall p hp)
    rw [(hlast hall).iff_exists hundecided]
    exact ⟨fun h => ⟨hall, h⟩, And.right⟩
  · have hex : ∃ p ∈ required, p ∉ ctx := by
      push Not at hall
      exact hall
    rw [hfalse hex]
    exact ⟨fun h => (by cases h), fun h => absurd h.1 hall⟩

theorem undecidedAgree_perm {required' : List String} (hM : M'.cliPermissionMap = M.cliPermissionMap)
    (hperm : required'.Perm required) (h : UndecidedAgree T M ctx required) : UndecidedAgree T M' ctx required' := by
  unfold UndecidedAgree UsesUndecided at h ⊢
  simp only [hperm.mem_iff, usesUndecided_congr hM]
  exact h

/-- **The dialog decision is right exactly where the undecided permissions of each command agree**: for every status
map, metadata and list of commands whose details are built. -/
theorem dialog_decision_right_iff (T : PermissionTable) (M : ClawPermissionMetadata) (ctx : PermissionStatusMap)
    (cliInfos : List CliInfo) (details : List PermissionDialogDetail)
    (hbuild : buildCliPermissionDialogInfo T M ctx cliInfos = .ok details) :
    DialogDecisionRight T M ctx cliInfos details ↔
      ∀ cli ∈ cliInfos, ∀ required, getRequiredCliPermissions M cli = .ok required →
      UndecidedAgree T M ctx required := by
  have hdetails := Lib.mapM_ok hbuild
  constructor
  · intro hright cli hcli required hrequired
    obtain ⟨detail, hzip, hdetail⟩ := Lib.forall₂_mem_left hdetails cli hcli
    obtain ⟨required', hrequired', hused, -⟩ := buildCliPermissionDialogDetail_ok hdetail
    cases hrequired.symm.trans hrequired'
    by_cases hall : ∀ p ∈ required, p ∈ ctx
    · -- the answer is that of each undecided permission, put last
      have hlast : ∀ p ∈ required, Undecided ctx p →
          (detail.needPermissionDialog = true ↔ UsesUndecided T M ctx p) := by
        intro p hp hund
        have hperm : (required.erase p ++ [p]).Perm required :=
          (List.perm_append_singleton p _).trans (List.perm_cons_erase hp).symm
        have hnodup := hperm.symm.nodup (getRequiredCliPermissions_nodup hrequired)
        have hreq' := getRequiredCliPermissions_withRequired (M := M) hnodup cli
        obtain ⟨detail', hdetail', hneed, -⟩ := hright.order cli detail hzip required hrequired
          (withRequired M (required.erase p ++ [p])) rfl _ hreq' hperm
        obtain ⟨required'', hrequired'', -, -, -, hdecides⟩ := buildCliPermissionDialogDetail_ok hdetail'
        cases hreq'.symm.trans hrequired''
        have hdecides := hdecides fun q hq => hall q (hperm.mem_iff.1 hq)
        have hsame : (withRequired M (required.erase p ++ [p])).cliPermissionMap = M.cliPermissionMap := rfl
        rw [← hneed]
        exact (lastDecides_congr hsame hdecides).last hund
      exact .inr fun p hp q hq hpund hqund huse => (hlast q hq hqund).1 ((hlast p hp hpund).2 huse)
    · push Not at hall
      exact .inl hall
  · intro hagree
    have hdecision : ∀ cli detail, (cli, detail) ∈ cliInfos.zip details → ∀ required,
        getRequiredCliPermissions M cli = .ok required →
          (detail.needPermissionDialog = true ↔ (∀ p ∈ required, ¬HasStatus T M ctx p .noDialogNotDeclared) ∧
            ∃ p ∈ required, HasStatus T M ctx p .needPermissionDialog) := by
      intro cli detail hzip required hrequired
      have hdetail := List.forall₂_zip hdetails hzip
      obtain ⟨required', hrequired', hused, -⟩ := buildCliPermissionDialogDetail_ok hdetail
      cases hrequired.symm.trans hrequired'
      rw [need_iff hdetail hrequired (hagree cli (List.of_mem_zip hzip).1 required hrequired)]
      have hdeclared : (∀ p ∈ required, p ∈ ctx) ↔ ∀ p ∈ required, ¬HasStatus T M ctx p .noDialogNotDeclared :=
        forall₂_congr fun p hp => by rw [hasStatus_notDeclared (hused p hp), not_not]
      simp only [hdeclared, hasStatus_need]
    refine ⟨hdecision, ?_, ?_⟩
    · intro statusMap indexes authInfos hok a ha required hrequired p hp hneeds
      obtain ⟨detail, hzip, hneed, hmark⟩ := cliTicketAuthInfos_mem hok a ha
      have hzip' : (a.cliInfo, detail) ∈ cliInfos.zip details := by
        have hswap := List.mem_map_of_mem (f := Prod.swap) hzip
        rwa [List.zip_swap] at hswap
      have hdetail := List.forall₂_zip hdetails hzip'
      obtain ⟨required', hrequired', hused, hmark', -⟩ := buildCliPermissionDialogDetail_ok hdetail
      cases hrequired.symm.trans hrequired'
      have hall : ∀ q ∈ required, ¬HasStatus T M ctx q .noDialogNotDeclared := fun q hq hnot => by
        rw [hmark'.2 ⟨q, hq, (hasStatus_notDeclared (hused q hq)).1 hnot⟩] at hmark
        cases hmark
      rw [(hdecision a.cliInfo detail hzip' required hrequired).2 ⟨hall, p, hp, hneeds⟩] at hneed
      cases hneed
    · intro cli detail hzip required hrequired M' hM required' hrequired' hperm
      have hdetail := List.forall₂_zip hdetails hzip
      obtain ⟨required₁, hrequired₁, hused, hmark, -⟩ := buildCliPermissionDialogDetail_ok hdetail
      cases hrequired.symm.trans hrequired₁
      obtain ⟨detail', hdetail'⟩ := buildCliPermissionDialogDetail_succeeds ctx hrequired'
        fun p hp => by rw [usesUndecided_congr hM]; exact hused p (hperm.mem_iff.1 hp)
      obtain ⟨required₂, hrequired₂, -, hmark', -⟩ := buildCliPermissionDialogDetail_ok hdetail'
      cases hrequired'.symm.trans hrequired₂
      have hag := hagree cli (List.of_mem_zip hzip).1 required hrequired
      refine ⟨detail', hdetail', ?_, ?_⟩
      · rw [Bool.eq_iff_iff, need_iff hdetail' hrequired' (undecidedAgree_perm hM hperm hag),
          need_iff hdetail hrequired hag]
        unfold UsesUndecided
        simp only [hperm.mem_iff, usesUndecided_congr hM]
      · rw [Bool.eq_iff_iff, hmark', hmark]
        simp only [hperm.mem_iff]

/-- A command that photographs and records: both CLI permissions are undecided, one stands for the camera and one for
the microphone. -/
def sampleMetadata (required : List String) : ClawPermissionMetadata where
  queryCommandPermission _ := .ok required
  cliPermissionMap p :=
    if p == "ohos.permission.cli.PHOTO" then some [camera]
    else if p == "ohos.permission.cli.RECORD" then some ["ohos.permission.MICROPHONE"]
    else none

def sampleStatusMap : PermissionStatusMap :=
  ((((∅ : PermissionStatusMap).insert "ohos.permission.cli.PHOTO"
      ⟨"ohos.permission.cli.PHOTO", permissionDenied, permissionDefaultFlag⟩).insert "ohos.permission.cli.RECORD"
      ⟨"ohos.permission.cli.RECORD", permissionDenied, permissionDefaultFlag⟩).insert camera
      deniedCamera).insert "ohos.permission.MICROPHONE"
    ⟨"ohos.permission.MICROPHONE", permissionGranted, permissionUserSet⟩

def sampleCli : CliInfo := ⟨"media", "run"⟩

/-- The microphone is undecided as well. -/
def bothUndecided : PermissionStatusMap :=
  sampleStatusMap.insert "ohos.permission.MICROPHONE" ⟨"ohos.permission.MICROPHONE", permissionDenied,
    permissionDefaultFlag⟩

theorem dialog_decision_right_both :
    DialogDecisionRight sampleTable (sampleMetadata ["ohos.permission.cli.PHOTO", "ohos.permission.cli.RECORD"])
      bothUndecided [sampleCli] [{ needPermissionDialog := true }] := by
  refine (dialog_decision_right_iff sampleTable _ bothUndecided [sampleCli] _ (by decide +kernel)).2 ?_
  intro cli _ required hrequired
  cases (show getRequiredCliPermissions (sampleMetadata ["ohos.permission.cli.PHOTO", "ohos.permission.cli.RECORD"])
    cli = .ok ["ohos.permission.cli.PHOTO", "ohos.permission.cli.RECORD"] from rfl).symm.trans hrequired
  refine .inr fun _ _ q hq _ _ _ => ?_
  rcases List.mem_pair.1 hq with rfl | rfl
  · exact ⟨[camera], by decide +kernel, by decide +kernel⟩
  · exact ⟨["ohos.permission.MICROPHONE"], by decide +kernel, by decide +kernel⟩

/-- **A command is authorised while its camera permission needs consent**: the microphone permission comes later in the
list, is resolved, and takes the dialog back; in the other order the dialog is shown. -/
theorem dialog_taken_back_by_later_permission :
    ∃ details indexes a,
      buildCliPermissionDialogInfo sampleTable
        (sampleMetadata ["ohos.permission.cli.PHOTO", "ohos.permission.cli.RECORD"]) sampleStatusMap [sampleCli] =
          .ok details ∧
      (∀ p ∈ ["ohos.permission.cli.PHOTO", "ohos.permission.cli.RECORD"], p ∈ sampleStatusMap) ∧
      (buildCliPermissionDetailByRequiredPermission sampleTable
        (sampleMetadata ["ohos.permission.cli.PHOTO", "ohos.permission.cli.RECORD"]) sampleStatusMap
        "ohos.permission.cli.PHOTO").map (·.cliPermissionStatus) = .ok .needPermissionDialog ∧
      cliTicketAuthInfos sampleTable
        (sampleMetadata ["ohos.permission.cli.PHOTO", "ohos.permission.cli.RECORD"]) (.ok sampleStatusMap) [sampleCli]
        details = .ok (indexes, [a]) ∧ a.cliInfo = sampleCli ∧
      (buildCliPermissionDialogInfo sampleTable
        (sampleMetadata ["ohos.permission.cli.RECORD", "ohos.permission.cli.PHOTO"]) sampleStatusMap [sampleCli]).map
          (·.map (·.needPermissionDialog)) = .ok [true] := by
  exact ⟨[{}], [0], ⟨sampleCli, [camera, "ohos.permission.MICROPHONE"], [true, true]⟩,
    by decide +kernel, by decide +kernel, by decide +kernel, by decide +kernel, rfl, by decide +kernel⟩

end AccessToken.Claw
