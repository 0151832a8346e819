import AccessToken.UserPolicy.Persist
/-!
# What a policy update reports as changed

An update of the user policy returns the permissions it changed with the users concerned; the tokens of these users are
refreshed afterwards.  `ChangesCover` is what makes that enough: whoever is restricted differently after the update is
among the reported users.
-/
namespace AccessToken.UserPolicyManager

open Std.ExtTreeSet

variable {T : PermissionTable} {st : Store}

/-- **The reported changes cover the update**, and carry the persistence of the record they are about. -/
structure ChangesCover (old new : UserPolicyRecords) (changes : List UserPolicyChange) : Prop where
  restricts : ∀ t u c, isPermissionRestricted new t u c ≠ isPermissionRestricted old t u c →
    ∃ ch ∈ changes, ch.permCode = c ∧ u ∈ ch.changedUserList
  persist : ∀ ch ∈ changes, ∀ r, old[ch.permCode]? = some r ∨ new[ch.permCode]? = some r → r.isPersist = ch.isPersist
  persistSame : ∀ (c : Nat) r r', old[c]? = some r → new[c]? = some r' → r'.isPersist = r.isPersist

variable {records old new : UserPolicyRecords} {ctx : PolicyWhiteListUpdateInfo} {record : UserPolicyRecord}
    {changes : List UserPolicyChange} {c : Nat} {caller t : AccessTokenID} {u : Int32} {st' : Store}

theorem exists_record_of_restricted (h : isPermissionRestricted records t u c = true) : ∃ r, records[c]? = some r := by
  unfold isPermissionRestricted at h
  split at h
  · cases h
  · exact ⟨_, by assumption⟩

theorem exists_record_of_persisted (h : isPolicyPersisted records c = true) :
    ∃ r, records[c]? = some r ∧ r.isPersist = true := by
  exact (Option.any_eq_true _ _).1 h

theorem ChangesCover.persisted_eq
    (h : ChangesCover old new changes) {r : UserPolicyRecord} (hr : old[c]? = some r ∨ new[c]? = some r) :
    (isPolicyPersisted old c || isPolicyPersisted new c) = r.isPersist := by
  unfold isPolicyPersisted
  cases ho : old[c]? with
  | none =>
    cases hn : new[c]? with
    | none => rw [ho, hn] at hr; rcases hr with hr | hr <;> cases hr
    | some =>
      rw [ho, hn] at hr
      rcases hr with hr | hr
      · cases hr
      · simp [Option.some.inj hr]
  | some r₀ =>
    cases hn : new[c]? with
    | none =>
      rw [ho, hn] at hr
      rcases hr with hr | hr
      · simp [Option.some.inj hr]
      · cases hr
    | some r' =>
      have hsame := h.persistSame c r₀ r' ho hn
      rw [ho, hn] at hr
      rcases hr with hr | hr <;> obtain rfl := Option.some.inj hr <;> simp [hsame]

theorem updateRestrictedUserList_spec : ∀ (items : List UserPolicyItem) (users : List Int32)
    (changed : Std.ExtTreeSet Int32), (∀ u, u ∈ changed → u ∈ (updateRestrictedUserList items users changed).2) ∧
      ∀ u, u ∉ (updateRestrictedUserList items users changed).2 →
        (u ∈ (updateRestrictedUserList items users changed).1 ↔ u ∈ users)
  | [], _, _ => ⟨fun _ h => h, fun _ _ => Iff.rfl⟩
  | item :: items, users, changed => by
    have ih := fun users' => updateRestrictedUserList_spec items users' (changed.insert item.userId)
    have hkeep := fun users' u (hu : u ∈ changed) => (ih users').1 u (mem_insert.2 (.inr hu))
    have hne : ∀ users' u, u ∉ (updateRestrictedUserList items users' (changed.insert item.userId)).2 →
        u ≠ item.userId := by
      rintro users' u hu rfl
      exact hu ((ih users').1 _ mem_insert_self)
    rw [updateRestrictedUserList]
    split
    · exact ⟨hkeep _, fun u hu => ((ih _).2 u hu).trans (List.mem_erase_of_ne (hne _ u hu))⟩
    split
    · exact ⟨hkeep _, fun u hu => ((ih _).2 u hu).trans (by simp [hne _ u hu])⟩
    · exact updateRestrictedUserList_spec items users changed

/-! ## SetUserPolicy -/

/-- A user an entry does not report is restricted by the record it leaves as by the one before. -/
theorem isPermissionRestricted_of_unreported {policy : UserPermissionPolicy}
    (hget : new[c]? = updatedRecord caller policy old[c]?) (hu : u ∉ (updatedUsers policy old[c]?).2) :
    isPermissionRestricted new t u c = isPermissionRestricted old t u c := by
  have husers : u ∈ (updatedUsers policy old[c]?).1 ↔ u ∈ (oldRecord policy old[c]?).userList :=
    (updateRestrictedUserList_spec policy.userPolicyList (oldRecord policy old[c]?).userList ∅).2 u hu
  unfold isPermissionRestricted
  rw [hget]
  unfold updatedRecord
  generalize updatedUsers policy old[c]? = users at husers
  by_cases hempty : users.1.isEmpty = true
  · rw [if_pos hempty]
    have hnot : u ∉ (oldRecord policy old[c]?).userList := by
      rw [← husers, List.isEmpty_iff.1 hempty]; simp
    cases hr : old[c]? with
    | none => rfl
    | some =>
      rw [hr] at hnot
      simpa [oldRecord] using fun _ => hnot
  · rw [if_neg hempty]
    have hmem : users.1.contains u = (oldRecord policy old[c]?).userList.contains u := by
      rw [Bool.eq_iff_iff, List.contains_iff_mem, List.contains_iff_mem, husers]
    dsimp only
    rw [hmem]
    cases old[c]? with
    | none => simp [oldRecord]
    | some => rfl

theorem PolicySet.changesCover {es : List (UserPermissionPolicy × Nat)} (h : PolicySet T st caller es changes st') :
    ChangesCover st.records st'.records changes where
  restricts := by
    intro t u c hne
    by_cases hmem : c ∈ es.map (·.2)
    · obtain ⟨e, he, rfl⟩ := List.mem_map.1 hmem
      by_cases hu : u ∈ (updatedUsers e.1 st.records[e.2]?).2
      · have hsome : ¬(updatedUsers e.1 st.records[e.2]?).2.isEmpty = true := fun hempty => by
          rw [isEmpty_iff.1 hempty] at hu
          exact not_mem_empty hu
        exact ⟨_, (mem_changes h.updated).2 ⟨e, he, if_neg hsome⟩, rfl, hu⟩
      · exact absurd (isPermissionRestricted_of_unreported (h.updated.named e he) hu) hne
    · unfold isPermissionRestricted at hne
      rw [show st'.records[c]? = _ from h.updated.other c hmem] at hne
      exact absurd rfl hne
  persist := by
    intro ch hch r hr
    obtain ⟨e, he, hrep⟩ := (mem_changes h.updated).1 hch
    rw [permCode_of_reportedChange hrep, show st'.records[e.2]? = _ from h.updated.named e he] at hr
    unfold reportedChange at hrep
    split at hrep
    · cases hrep
    rw [← Option.some.inj hrep]
    rcases hr with hr | hr
    · simp [hr, oldRecord]
    · exact updatedRecord_isPersist hr
  persistSame := by
    intro c r r' hr hr'
    by_cases hmem : c ∈ es.map (·.2)
    · obtain ⟨e, he, rfl⟩ := List.mem_map.1 hmem
      rw [show st'.records[e.2]? = _ from h.updated.named e he] at hr'
      rw [updatedRecord_isPersist hr', hr]
      rfl
    · rw [show st'.records[c]? = _ from h.updated.other c hmem] at hr'
      rw [Option.mem_unique hr' hr]

/-- **What `SetUserPolicy` can do**: fail with nothing changed, or replace the records and report what changed. -/
theorem setUserPolicy_cases (T : PermissionTable) (st : Store) (dbOk : Bool) (list : List UserPermissionPolicy)
    (caller : AccessTokenID) :
    (∃ e, setUserPolicy T st dbOk list caller = (.error e, st)) ∨
      ∃ changes st', setUserPolicy T st dbOk list caller = (.ok changes, st') ∧
        ChangesCover st.records st'.records changes :=
  (setUserPolicy_spec T st dbOk list caller).imp_right
    fun ⟨changes, st', _, heq, _, hset⟩ => ⟨changes, st', heq, hset.changesCover⟩

/-! ## ClearUserPolicy -/

theorem clearUserPolicy_cases {dbOk : Bool} {list : List String} :
    (∃ e, clearUserPolicy T st dbOk list caller = (.error e, st)) ∨
      ∃ changes st', clearUserPolicy T st dbOk list caller = (.ok changes, st') ∧
        ChangesCover st.records st'.records changes := by
  refine (clearUserPolicy_spec T st dbOk list caller).imp_right ?_
  rintro ⟨codes, out, table, heq, -, hcl, -⟩
  have hch : ∀ ch, ch ∈ out.changes ↔ ∃ c ∈ codes, ∃ r, st.records[c]? = some r ∧ ch = clearedChange c r := by
    intro ch
    rw [hcl.changes]
    simp
  refine ⟨_, _, heq, fun t u c hne => ?_, fun ch hmem r hr => ?_, fun c r r' hr hr' => ?_⟩
  · unfold isPermissionRestricted at hne
    rw [hcl.records] at hne
    by_cases hmem : c ∈ codes
    · rw [if_pos hmem] at hne
      cases hr : st.records[c]? with
      | none => rw [hr] at hne; exact absurd rfl hne
      | some r =>
        rw [hr] at hne
        refine ⟨clearedChange c r, (hch _).2 ⟨c, hmem, r, hr, rfl⟩, rfl, (Lib.mem_foldl_insert _ _).2 (.inl ?_)⟩
        by_contra hu
        exact hne (by simp [hu])
    · rw [if_neg hmem] at hne
      exact absurd rfl hne
  · obtain ⟨c, hc, r₀, hr₀, rfl⟩ := (hch ch).1 hmem
    have hcode : (clearedChange c r₀).permCode = c := rfl
    rw [hcode, hr₀, hcl.records, if_pos hc] at hr
    rcases hr with hr | hr
    · rw [← Option.some.inj hr]; rfl
    · cases hr
  · rw [hcl.records] at hr'
    split at hr'
    · cases hr'
    · rw [Option.mem_unique hr' hr]

/-! ## The whitelist -/

def whiteListed (records : UserPolicyRecords) (ctx : PolicyWhiteListUpdateInfo) (record : UserPolicyRecord) :
    UserPolicyRecords :=
  records.insert ctx.permCode { record with whiteList := updatedWhiteList ctx record.whiteList }

/-- **What a whitelist update can do**: fail with nothing changed, or let one token out of the record of one permission
or take it back in.  It fails only if it is not valid or the row of a persistent policy cannot be written. -/
theorem updatePolicyWhiteList_cases (T : PermissionTable) (st : Store) (dbOk : Bool) (ctx : PolicyWhiteListUpdateInfo) :
    (∃ e, updatePolicyWhiteList T st dbOk ctx = (.error e, st) ∧ ((T.transferOpcodeToPermission ctx.permCode).isEmpty ∨
        (∀ r, validatePolicyWhiteListUpdateLocked st.records ctx ≠ .ok r) ∨ dbOk = false)) ∨
      ∃ record st', validatePolicyWhiteListUpdateLocked st.records ctx = .ok record ∧
        (T.transferOpcodeToPermission ctx.permCode).isEmpty = false ∧
        updatePolicyWhiteList T st dbOk ctx = (.ok record.isPersist, st') ∧
        st'.records = whiteListed st.records ctx record := by
  unfold updatePolicyWhiteList whiteListed
  dsimp only
  split
  · rename_i hempty
    exact .inl ⟨_, rfl, .inl hempty⟩
  rename_i hname
  rw [Bool.not_eq_true] at hname
  cases hval : validatePolicyWhiteListUpdateLocked st.records ctx with
  | error e => exact .inl ⟨e, rfl, .inr (.inl fun r => by simp)⟩
  | ok record =>
    dsimp only
    split
    · rename_i hpersist
      split
      · exact .inr ⟨record, _, rfl, hname, by rw [hpersist], by rw [hpersist]⟩
      · rename_i hdb
        exact .inl ⟨_, rfl, .inr (.inr (by simpa using hdb))⟩
    · rename_i hpersist
      rw [Bool.not_eq_true] at hpersist
      exact .inr ⟨record, _, rfl, hname, by rw [hpersist], by rw [hpersist]⟩

theorem isPermissionRestricted_whiteListed (hr : records[ctx.permCode]? = some record)
    (t : AccessTokenID) (u : Int32) (c : Nat) :
    isPermissionRestricted (whiteListed records ctx record) t u c =
      if c = ctx.permCode ∧ t = ctx.tokenId then decide (ctx.type = .delete) && record.userList.contains u
      else isPermissionRestricted records t u c := by
  unfold isPermissionRestricted whiteListed
  rw [Lib.getElem?_insert]
  by_cases hc : c = ctx.permCode
  · subst hc
    rw [if_pos rfl, hr]
    unfold updatedWhiteList
    by_cases ht : t = ctx.tokenId
    · subst ht
      cases ctx.type <;> simp
    · cases ctx.type <;> simp [ht, Ne.symm ht]
  · rw [if_neg hc, if_neg (fun h => hc h.1)]

theorem isPolicyPersisted_updatePolicyWhiteList (T : PermissionTable) (st : Store) (dbOk : Bool)
    (ctx : PolicyWhiteListUpdateInfo) (c : Nat) :
    isPolicyPersisted (updatePolicyWhiteList T st dbOk ctx).2.records c = isPolicyPersisted st.records c := by
  rcases updatePolicyWhiteList_cases T st dbOk ctx with ⟨e, heq, -⟩ | ⟨record, st', hval, -, heq, hrec⟩
  · rw [heq]
  rw [heq, hrec]
  unfold isPolicyPersisted whiteListed
  rw [Lib.getElem?_insert]
  split
  · subst c
    rw [(validatePolicyWhiteList_ok.1 hval).1]
    rfl
  · rfl

def reversed (ctx : PolicyWhiteListUpdateInfo) : PolicyWhiteListUpdateInfo :=
  { ctx with type := if ctx.type = .add then .delete else .add }

/-- **A whitelist update can be taken back**, and then restricts whom the records restricted before. -/
theorem updatePolicyWhiteList_reversed (hsize : record.whiteList.size ≤ userPolicyMaxListSize)
    (hval : validatePolicyWhiteListUpdateLocked st.records ctx = .ok record)
    (hname : (T.transferOpcodeToPermission ctx.permCode).isEmpty = false)
    (hst' : st'.records = whiteListed st.records ctx record) :
    isPermissionRestricted (updatePolicyWhiteList T st' true (reversed ctx)).2.records t u c =
      isPermissionRestricted st.records t u c := by
  obtain ⟨hr, hcaller, huser, hmem, -⟩ := validatePolicyWhiteList_ok.1 hval
  have hr' : st'.records[ctx.permCode]? = some { record with whiteList := updatedWhiteList ctx record.whiteList } := by
    rw [hst', whiteListed, Std.ExtTreeMap.getElem?_insert_self]
  have hval' : validatePolicyWhiteListUpdateLocked st'.records (reversed ctx) =
      .ok { record with whiteList := updatedWhiteList ctx record.whiteList } := by
    refine validatePolicyWhiteList_ok.2 ⟨hr', hcaller, huser, ?_, ?_⟩
    · unfold updatedWhiteList reversed
      cases ctx.type <;> simp
    unfold updatedWhiteList reversed
    cases htype : ctx.type with
    | add => simp
    | delete =>
      intro _
      have hin := hmem.2 htype
      have hpos : 0 < record.whiteList.size := by
        rw [Nat.pos_iff_ne_zero]
        intro hzero
        rw [← eq_empty_iff_size_eq_zero] at hzero
        rw [hzero] at hin
        exact not_mem_empty hin
      rw [size_erase, if_pos (contains_iff_mem.2 hin)]
      omega
  rcases updatePolicyWhiteList_cases T st' true (reversed ctx) with ⟨e, -, hwhy⟩ | ⟨record', st'', hval'', -, heq, hrec⟩
  · rcases hwhy with hempty | hno | hdb
    · have hempty : (T.transferOpcodeToPermission ctx.permCode).isEmpty = true := hempty
      rw [hname] at hempty; cases hempty
    · exact absurd hval' (hno _)
    · cases hdb
  rw [heq, hrec]
  obtain rfl := Except.ok.inj (hval'.symm.trans hval'')
  have hr'' : st'.records[(reversed ctx).permCode]? = _ := hr'
  have hcode : (reversed ctx).permCode = ctx.permCode := rfl
  have hid : (reversed ctx).tokenId = ctx.tokenId := rfl
  rw [isPermissionRestricted_whiteListed hr'', hst', isPermissionRestricted_whiteListed hr, hcode, hid]
  split
  · rename_i hct
    obtain ⟨rfl, rfl⟩ := hct
    have hold : isPermissionRestricted st.records ctx.tokenId u ctx.permCode =
        (!decide (ctx.tokenId ∈ record.whiteList) && record.userList.contains u) := by
      unfold isPermissionRestricted
      rw [hr]
    rw [hold]
    unfold reversed
    cases htype : ctx.type with
    | add => simp [hmem, htype]
    | delete => simp [hmem, htype]
  · rfl

end AccessToken.UserPolicyManager
