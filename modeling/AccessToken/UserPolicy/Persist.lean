import AccessToken.UserPolicy.Manager
import AccessToken.Lib.Run
/-!
# The policy records and their table

Every operation stages a copy of the records, writes the difference to the table and then swaps the copy in.  `Synced`
says what this keeps: the table holds the row of every persisted record and nothing else, and every record fits the
limits the loader enforces, so loading the table gives the persisted records back.
-/
namespace AccessToken

open Std.ExtTreeMap (ext_getElem? filter getElem?_filter' getElem?_map mem_iff_isSome_getElem? mem_modify
  mem_toList_iff_getElem?_eq_some)
open PermissionTable Std.ExtTreeSet
namespace UserPolicyManager

open Lib (Reaches Always getElem?_erase getElem?_insert)

/-! ## Text form -/

theorem not_separator_of_mem_toDecimal {n : Int} {c : Char} (h : c ∈ Lib.toDecimal n) :
    c ≠ userPolicySeparator ∧ Lib.isBlank c = false := by
  rcases Lib.mem_toDecimal h with rfl | hd
  · decide
  refine ⟨?_, ?_⟩
  · rintro rfl
    exact absurd hd (by decide)
  cases hb : Lib.isBlank c with
  | false => rfl
  | true =>
    simp only [Lib.isBlank, Bool.or_eq_true, beq_iff_eq] at hb
    rcases hb with rfl | rfl <;> exact absurd hd (by decide)

theorem parseUserList_serialize {us : List Int32} (h : us.length ≤ userPolicyMaxListSize) :
    parseUserList (serializeUserList us) = some us := by
  rw [parseUserList, serializeUserList, String.toList_ofList]
  refine Lib.parseList_join (fun u _ => ?_) (fun u _ hm => (not_separator_of_mem_toDecimal hm).1 rfl)
    (fun u _ c hc => (not_separator_of_mem_toDecimal hc).2) (fun u _ => Lib.toDecimal_ne_nil) h
  have hlo := Int32.le_toInt u
  have hhi := Int32.toInt_lt u
  rw [parseInt32Value, Lib.fromCharsSigned_toDecimal (by omega) (by omega), Option.map_some, Int32.ofInt_toInt]

theorem foldl_insert_toList (s : Std.ExtTreeSet AccessTokenID) : s.toList.foldl (fun w id => w.insert id) ∅ = s := by
  refine ext_mem fun x => ?_
  rw [Lib.mem_foldl_insert]
  simp [mem_toList]

variable {s : Std.ExtTreeSet AccessTokenID} {records : UserPolicyRecords} {table' : UserPolicyTable}
  {adds : List (String × UserPolicyRow)} {r : UserPolicyRecord}

theorem parseWhiteTokenList_serialize (h : s.size ≤ userPolicyMaxListSize) :
    parseWhiteTokenList (serializeWhiteTokenList s) = some s := by
  have hparse : Lib.parseList parseTokenIdValue userPolicySeparator userPolicyMaxListSize
      (serializeWhiteTokenList s).toList = some s.toList := by
    rw [serializeWhiteTokenList, String.toList_ofList]
    refine Lib.parseList_join (fun t _ => ?_) (fun t _ hm => (not_separator_of_mem_toDecimal hm).1 rfl)
      (fun t _ c hc => (not_separator_of_mem_toDecimal hc).2) (fun t _ => Lib.toDecimal_ne_nil) ?_
    · rw [parseTokenIdValue, Lib.fromCharsUnsigned_toDecimal (by omega), Option.map_some, BitVec.ofNat_toNat,
        BitVec.setWidth_eq]
    · rw [length_toList]; exact h
  rw [parseWhiteTokenList, hparse, Option.map_some, foldl_insert_toList]

/-- **A record that fits the limits is read back from its row**, as a persisted one. -/
theorem recordOfRow_build (h : isUserPolicyRecordSizeValid r = true) :
    recordOfRow (buildUserPolicyValue r) = some { r with isPersist := true } := by
  simp only [isUserPolicyRecordSizeValid, Bool.and_eq_true, decide_eq_true_eq, Bool.not_eq_true'] at h
  obtain ⟨⟨hne, husers⟩, hwhite⟩ := h
  simp only [recordOfRow, buildUserPolicyValue, parseUserList_serialize husers, parseWhiteTokenList_serialize hwhite,
    hne, Bool.false_eq_true, if_false, BitVec.ofInt_toInt]

/-! ## The table calls -/

theorem foldl_erase_spec (dels : List String) (table : UserPolicyTable) (name : String) :
    (dels.foldl (fun t n => t.erase n) table)[name]? = if name ∈ dels then none else table[name]? := by
  induction dels generalizing table with
  | nil => simp
  | cons d dels ih =>
    rw [List.foldl_cons, ih, getElem?_erase]
    by_cases hd : name = d <;> simp [hd]

variable {dels : List String} {next : UserPolicyRecords} {codes : List Nat} {caller : AccessTokenID} {dbOk : Bool}

/-- **A transaction that succeeds** shows the inserted rows and hides the deleted ones. -/
theorem deleteAndInsertValues_spec {table : UserPolicyTable}
    (h : deleteAndInsertValues dbOk table dels adds = some table') (name : String) :
    (∃ row, (name, row) ∈ adds ∧ table'[name]? = some row) ∨
      (∀ row, (name, row) ∉ adds) ∧ table'[name]? = if name ∈ dels then none else table[name]? := by
  unfold deleteAndInsertValues at h
  split at h
  · cases h
    rw [← foldl_erase_spec]
    exact Lib.getElem?_insertAll ..
  · cases h

/-! ## What every operation keeps -/

def persistedRow (records : UserPolicyRecords) (code : Nat) : Option UserPolicyRow :=
  ((records[code]?).filter (·.isPersist)).map buildUserPolicyValue

structure Fitting (T : PermissionTable) (records : UserPolicyRecords) : Prop where
  codes : ∀ (code : Nat) r, records[code]? = some r → code < T.permList.length
  sized : ∀ (code : Nat) r, records[code]? = some r → isUserPolicyRecordSizeValid r = true

/-- **The table holds the row of every persisted record and nothing else.** -/
structure Synced (T : PermissionTable) (st : Store) : Prop extends Fitting T st.records where
  rows : ∀ code, code < T.permList.length → st.table[T.transferOpcodeToPermission code]? = persistedRow st.records code
  names : ∀ name, name ∈ st.table → ∃ code, code < T.permList.length ∧ name = T.transferOpcodeToPermission code

variable {T : PermissionTable} {st : Store} {old : Option UserPolicyRecord} {ch : UserPolicyChange}
  {policy : UserPermissionPolicy} {record : UserPolicyRecord} {t : AccessTokenID}

theorem synced_empty : Synced T Store.empty where
  codes := by intro code r h; simp [Store.empty] at h
  sized := by intro code r h; simp [Store.empty] at h
  rows := by intro code _; simp [Store.empty, persistedRow]
  names := by intro name h; simp [Store.empty] at h

/-- A successful transaction that inserts rows of the next records only, and otherwise deletes what they lost, keeps the
table in step. -/
theorem Synced.transaction (h : Synced T st) (hfit : Fitting T next)
    (hdb : deleteAndInsertValues dbOk st.table dels adds = some table')
    (hadds : ∀ e ∈ adds, ∃ code, code < T.permList.length ∧ e.1 = T.transferOpcodeToPermission code ∧
      persistedRow next code = some e.2)
    (hrest : ∀ code, code < T.permList.length → (∀ row, (T.transferOpcodeToPermission code, row) ∉ adds) →
      persistedRow next code =
        if T.transferOpcodeToPermission code ∈ dels then none else persistedRow st.records code) :
    Synced T ⟨next, table'⟩ where
  toFitting := hfit
  rows := by
    intro code hcode
    rcases deleteAndInsertValues_spec hdb (T.transferOpcodeToPermission code) with ⟨row, hmem, hget⟩ | ⟨hnone, hget⟩
    · obtain ⟨code', hcode', hname, hrow⟩ := hadds _ hmem
      rw [hget, transferOpcode_inj hcode' hname, hrow]
    · rw [hget, h.rows code hcode, hrest code hcode hnone]
  names := by
    intro name hname
    rcases deleteAndInsertValues_spec hdb name with ⟨row, hmem, -⟩ | ⟨-, hget⟩
    · obtain ⟨code, hcode, heq, -⟩ := hadds _ hmem
      exact ⟨code, hcode, heq⟩
    · rw [mem_iff_isSome_getElem?, hget] at hname
      split at hname
      · cases hname
      · exact h.names name (by simpa using hname)

/-! ## SetUserPolicy -/

theorem updateRestrictedUserList_unchanged : ∀ (items : List UserPolicyItem) (users : List Int32)
    (changed : Std.ExtTreeSet Int32), (updateRestrictedUserList items users changed).2.isEmpty = true →
      (updateRestrictedUserList items users changed).1 = users ∧ changed.isEmpty = true
  | [], _, _, h => ⟨rfl, h⟩
  | item :: items, users, changed, h => by
    rw [updateRestrictedUserList] at h ⊢
    split at h
    · obtain ⟨-, hc⟩ := updateRestrictedUserList_unchanged items _ _ h
      simp at hc
    split at h
    · obtain ⟨-, hc⟩ := updateRestrictedUserList_unchanged items _ _ h
      simp at hc
    · rename_i h1 h2
      rw [if_neg h1, if_neg h2]
      exact updateRestrictedUserList_unchanged items users changed h

structure Accepts (T : PermissionTable) (records : UserPolicyRecords) (caller : AccessTokenID)
    (policy : UserPermissionPolicy) (code : Nat) : Prop where
  named : ∃ briefDef, T.getPermissionBriefDef policy.permissionName = some (briefDef, code)
  owned : ∀ r, records[code]? = some r → r.controllerToken = caller

theorem validateSetUserPolicyFrom_spec (records : UserPolicyRecords) (caller : AccessTokenID) :
    ∀ (policies : List UserPermissionPolicy) (batch : Std.ExtTreeMap Nat Bool) (codes : List Nat),
      validateSetUserPolicyFrom T records caller batch policies = .ok codes →
        List.Forall₂ (Accepts T records caller) policies codes ∧ codes.Nodup ∧ ∀ c ∈ codes, c ∉ batch
  | [], _, codes, h => by
    cases h
    simp
  | policy :: policies, batch, codes, h => by
    rw [validateSetUserPolicyFrom] at h
    split at h
    · cases h
    rename_i briefDef code hdef
    split at h
    · cases h
    split at h
    · cases h
    split at h
    · split at h <;> cases h
    rename_i hbatch
    split at h
    · cases h
    rename_i hctrl
    split at h
    · cases h
    split at h
    · cases h
    cases hrest : validateSetUserPolicyFrom T records caller (batch.insert code policy.isPersist) policies with
    | error => rw [hrest] at h; cases h
    | ok codes' =>
      rw [hrest] at h
      cases h
      obtain ⟨hall, hnd, hnew⟩ := validateSetUserPolicyFrom_spec records caller policies _ codes' hrest
      refine ⟨.cons ⟨⟨briefDef, hdef⟩, fun r hr => by simpa [hr] using hctrl⟩ hall,
        List.nodup_cons.2 ⟨fun hc => hnew code hc Std.ExtTreeMap.mem_insert_self, hnd⟩, fun c hc => ?_⟩
      rcases List.mem_cons.1 hc with rfl | hc
      · rw [mem_iff_isSome_getElem?, hbatch]; simp
      · exact fun hmem => hnew c hc (Std.ExtTreeMap.mem_insert.2 (.inr hmem))

/-- The record `UpdateUserPolicyCache` starts from: the one there is, or an empty one. -/
def oldRecord (policy : UserPermissionPolicy) (old : Option UserPolicyRecord) : UserPolicyRecord :=
  old.getD ⟨[], invalidTokenId, ∅, policy.isPersist⟩

def updatedUsers (policy : UserPermissionPolicy) (old : Option UserPolicyRecord) :
    List Int32 × Std.ExtTreeSet Int32 :=
  updateRestrictedUserList policy.userPolicyList (oldRecord policy old).userList ∅

def updatedRecord (caller : AccessTokenID) (policy : UserPermissionPolicy) (old : Option UserPolicyRecord) :
    Option UserPolicyRecord :=
  if (updatedUsers policy old).1.isEmpty then none
  else some { oldRecord policy old with userList := (updatedUsers policy old).1, controllerToken := caller }

def reportedChange (e : UserPermissionPolicy × Nat) (old : Option UserPolicyRecord) : Option UserPolicyChange :=
  if (updatedUsers e.1 old).2.isEmpty then none
  else some ⟨e.2, (oldRecord e.1 old).isPersist, (updatedUsers e.1 old).2⟩

/-- What the loop of `UpdateUserPolicyCache` does to the records `st.1` and the changes `st.2`. -/
structure CacheUpdated (caller : AccessTokenID) (es : List (UserPermissionPolicy × Nat))
    (st st' : UserPolicyRecords × List UserPolicyChange) : Prop where
  named : ∀ e ∈ es, st'.1[e.2]? = updatedRecord caller e.1 st.1[e.2]?
  other : ∀ c, c ∉ es.map (·.2) → st'.1[c]? = st.1[c]?
  changes : st'.2 = st.2 ++ es.filterMap fun e => reportedChange e st.1[e.2]?

theorem getElem?_updateUserPolicyCacheStep (caller : AccessTokenID) (st : UserPolicyRecords × List UserPolicyChange)
    (e : UserPermissionPolicy × Nat) (c : Nat) : (updateUserPolicyCacheStep caller st e).1[c]? =
      if e.2 = c then updatedRecord caller e.1 st.1[e.2]? else st.1[c]? := by
  change (if (updatedUsers e.1 st.1[e.2]?).1.isEmpty then st.1.erase e.2 else st.1.insert e.2 _)[c]? = _
  unfold updatedRecord
  split <;> simp [getElem?_erase, getElem?_insert, oldRecord, updatedUsers, eq_comm]

theorem updateUserPolicyCacheStep_changes (caller : AccessTokenID) (st : UserPolicyRecords × List UserPolicyChange)
    (e : UserPermissionPolicy × Nat) :
    (updateUserPolicyCacheStep caller st e).2 = st.2 ++ (reportedChange e st.1[e.2]?).toList := by
  change (if (updatedUsers e.1 st.1[e.2]?).2.isEmpty then st.2 else st.2 ++ [_]) = _
  unfold reportedChange
  split <;> simp [oldRecord, updatedUsers]

theorem cacheUpdated_foldl (caller : AccessTokenID) :
    ∀ (es : List (UserPermissionPolicy × Nat)) (st : UserPolicyRecords × List UserPolicyChange),
      (es.map (·.2)).Nodup → CacheUpdated caller es st (es.foldl (updateUserPolicyCacheStep caller) st)
  | [], _, _ => ⟨by simp, fun _ _ => rfl, by simp⟩
  | e :: es, st, hnd => by
    obtain ⟨hp, hnd⟩ := List.nodup_cons.1 hnd
    have ih := cacheUpdated_foldl caller es (updateUserPolicyCacheStep caller st e) hnd
    -- the codes still to come are untouched by this step
    have hlater : ∀ e' ∈ es, (updateUserPolicyCacheStep caller st e).1[e'.2]? = st.1[e'.2]? := by
      intro e' he'
      have hne : e.2 ≠ e'.2 := fun heq => hp (List.mem_map.2 ⟨e', he', heq.symm⟩)
      rw [getElem?_updateUserPolicyCacheStep, if_neg hne]
    refine ⟨fun e' he' => ?_, fun c hc => ?_, ?_⟩
    · rcases List.mem_cons.1 he' with rfl | he'
      · rw [List.foldl_cons, ih.other _ hp, getElem?_updateUserPolicyCacheStep, if_pos rfl]
      · rw [List.foldl_cons, ih.named e' he', hlater e' he']
    · rw [List.map_cons, List.mem_cons, not_or] at hc
      rw [List.foldl_cons, ih.other c hc.2, getElem?_updateUserPolicyCacheStep, if_neg (Ne.symm hc.1)]
    · rw [List.foldl_cons, ih.changes, updateUserPolicyCacheStep_changes, List.append_assoc,
        List.filterMap_congr fun e' he' => by rw [hlater e' he']]
      cases hch : reportedChange e st.1[e.2]? <;> simp [hch]

/-- A transaction that is skipped because there is nothing to write is one that succeeds. -/
theorem transaction_call {table : UserPolicyTable}
    (h : (if dels.isEmpty && adds.isEmpty then some table else deleteAndInsertValues dbOk table dels adds) =
      some table') :
    ∃ ok, deleteAndInsertValues ok table dels adds = some table' := by
  split at h
  · rename_i hempty
    rw [Bool.and_eq_true, List.isEmpty_iff, List.isEmpty_iff] at hempty
    refine ⟨true, ?_⟩
    rw [hempty.1, hempty.2]
    exact h
  · exact ⟨dbOk, h⟩

/-- **An accepted `SetUserPolicy`** over the entries `es` of the request, each with its code. -/
structure PolicySet (T : PermissionTable) (st : Store) (caller : AccessTokenID) (es : List (UserPermissionPolicy × Nat))
    (changes : List UserPolicyChange) (st' : Store) : Prop where
  accepts : ∀ e ∈ es, Accepts T st.records caller e.1 e.2
  updated : CacheUpdated caller es (st.records, []) (st'.records, changes)
  size : ¬(!st'.records.isEmpty && !isUserPolicyRecordsSizeValid st'.records) = true
  written : ∃ ok, deleteAndInsertValues ok st.table (databaseUpdate T st.records st'.records changes).1
    (databaseUpdate T st.records st'.records changes).2 = some st'.table

theorem setUserPolicy_spec (T : PermissionTable) (st : Store) (dbOk : Bool) (list : List UserPermissionPolicy)
    (caller : AccessTokenID) :
    (∃ e, setUserPolicy T st dbOk list caller = (.error e, st)) ∨
      ∃ changes st' es, setUserPolicy T st dbOk list caller = (.ok changes, st') ∧ es.map (·.1) = list ∧
        PolicySet T st caller es changes st' := by
  unfold setUserPolicy
  cases hval : validateSetUserPolicy T st.records list caller with
  | error e => exact .inl ⟨e, rfl⟩
  | ok codes =>
    dsimp only
    obtain ⟨hall, hnd, -⟩ := validateSetUserPolicyFrom_spec st.records caller list ∅ codes hval
    have hlen := hall.length_eq
    have hcodes : (list.zip codes).map (·.2) = codes := List.map_snd_zip (by omega)
    rw [← hcodes] at hnd
    split
    · exact .inl ⟨_, rfl⟩
    rename_i hsize
    split
    · exact .inl ⟨_, rfl⟩
    · rename_i table' hdb
      exact .inr ⟨_, _, list.zip codes, rfl, List.map_fst_zip (by omega),
        fun e he => (List.forall₂_iff_zip.1 hall).2 he, cacheUpdated_foldl caller _ _ hnd, hsize, transaction_call hdb⟩

variable {es : List (UserPermissionPolicy × Nat)} {changes : List UserPolicyChange}

theorem mem_changes (h : CacheUpdated caller es (records, []) (next, changes)) :
    ch ∈ changes ↔ ∃ e ∈ es, reportedChange e records[e.2]? = some ch := by
  rw [show changes = _ from h.changes, List.nil_append, List.mem_filterMap]

theorem permCode_of_reportedChange {e : UserPermissionPolicy × Nat}
    (h : reportedChange e old = some ch) : ch.permCode = e.2 := by
  unfold reportedChange at h
  split at h
  · cases h
  · rw [← Option.some.inj h]

theorem Fitting.userList_ne_nil (h : Fitting T records) {c : Nat} (hr : records[c]? = some r) : r.userList ≠ [] := by
  have hsized := h.sized c r hr
  simp only [isUserPolicyRecordSizeValid, Bool.and_eq_true] at hsized
  simpa using hsized.1.1

theorem updatedRecord_of_unreported (hne : ∀ r, old = some r → r.userList ≠ [] ∧ r.controllerToken = caller)
    (h : (updatedUsers policy old).2.isEmpty = true) : updatedRecord caller policy old = old := by
  have hlist : (updatedUsers policy old).1 = (oldRecord policy old).userList :=
    (updateRestrictedUserList_unchanged _ _ _ h).1
  unfold updatedRecord
  rw [hlist]
  cases old with
  | none => simp [oldRecord]
  | some r =>
    obtain ⟨hnil, rfl⟩ := hne r rfl
    simp [oldRecord, hnil]

theorem updatedRecord_isPersist
    (h : updatedRecord caller policy old = some r) : r.isPersist = (oldRecord policy old).isPersist := by
  unfold updatedRecord at h
  split at h
  · cases h
  · rw [← Option.some.inj h]

section PolicySet

variable {st' : Store}

section

variable (hset : PolicySet T st caller es changes st')
include hset

theorem PolicySet.changed_lt (hch : ch ∈ changes) : ch.permCode < T.permList.length := by
  obtain ⟨e, he, hrep⟩ := (mem_changes hset.updated).1 hch
  obtain ⟨briefDef, hdef⟩ := (hset.accepts e he).named
  rw [permCode_of_reportedChange hrep]
  exact code_lt_of_getPermissionBriefDef hdef

theorem PolicySet.same (h : Fitting T st.records) {c : Nat}
    (hc : c ∉ changes.map (·.permCode)) : st'.records[c]? = st.records[c]? := by
  by_cases hmem : c ∈ es.map (·.2)
  · obtain ⟨e, he, rfl⟩ := List.mem_map.1 hmem
    rw [show st'.records[e.2]? = _ from hset.updated.named e he]
    refine updatedRecord_of_unreported (fun r hr => ⟨h.userList_ne_nil hr, (hset.accepts e he).owned r hr⟩) ?_
    by_contra hrep
    exact hc (List.mem_map.2 ⟨_, (mem_changes hset.updated).2 ⟨e, he, if_neg hrep⟩, rfl⟩)
  · exact hset.updated.other c hmem

theorem PolicySet.fitting (h : Fitting T st.records) : Fitting T st'.records where
  codes := by
    intro c r hr
    by_cases hmem : c ∈ changes.map (·.permCode)
    · obtain ⟨ch, hch, rfl⟩ := List.mem_map.1 hmem
      exact hset.changed_lt hch
    · exact h.codes c r (by rw [← hset.same h hmem]; exact hr)
  sized := by
    intro c r hr
    have hsize := hset.size
    have hne : st'.records.isEmpty = false := by
      by_contra he
      have hempty : st'.records = ∅ := by simpa using he
      simp [hempty] at hr
    simp only [hne, Bool.not_false, Bool.true_and, Bool.not_eq_true', Bool.not_eq_false] at hsize
    simp only [isUserPolicyRecordsSizeValid, Bool.and_eq_true, List.all_eq_true] at hsize
    exact hsize.2 (c, r) (mem_toList_iff_getElem?_eq_some.2 hr)

theorem PolicySet.synced (h : Synced T st) : Synced T st' := by
  obtain ⟨ok, hcall⟩ := hset.written
  refine h.transaction (hset.fitting h.toFitting) hcall ?_ ?_
  · intro e he
    simp only [databaseUpdate, List.mem_filterMap, Option.map_eq_some_iff] at he
    obtain ⟨ch, hch, r, hr, rfl⟩ := he
    exact ⟨ch.permCode, hset.changed_lt hch, rfl, by simp [persistedRow, hr]⟩
  intro code hcode hnone
  by_cases hmem : code ∈ changes.map (·.permCode)
  · obtain ⟨ch, hch, rfl⟩ := List.mem_map.1 hmem
    have hnext : persistedRow st'.records ch.permCode = none := by
      rw [persistedRow, Option.map_eq_none_iff]
      cases hr : (st'.records[ch.permCode]?).filter (·.isPersist) with
      | none => rfl
      | some r =>
        refine absurd ?_ (hnone (buildUserPolicyValue r))
        exact List.mem_filterMap.2 ⟨ch, hch, by rw [hr]; rfl⟩
    rw [hnext]
    split
    · rfl
    rename_i hdel
    -- a changed permission whose row is not deleted had no persisted record
    cases hr : st.records[ch.permCode]? with
    | none => simp [persistedRow, hr]
    | some r =>
      have hp : r.isPersist = false := by
        by_contra hp
        refine hdel (List.mem_map.2 ⟨ch, List.mem_filter.2 ⟨hch, ?_⟩, rfl⟩)
        simpa [hr] using hp
      simp [persistedRow, hr, hp]
  · have hdel : T.transferOpcodeToPermission code ∉ (databaseUpdate T st.records st'.records changes).1 := by
      intro hdel
      obtain ⟨ch, hfilter, hname⟩ := List.mem_map.1 hdel
      have hch := (List.mem_filter.1 hfilter).1
      rw [← transferOpcode_inj hcode hname] at hmem
      exact hmem (List.mem_map_of_mem hch)
    rw [if_neg hdel, persistedRow, persistedRow, hset.same h.toFitting hmem]

end

end PolicySet

theorem Synced.setUserPolicy (h : Synced T st) {list : List UserPermissionPolicy} :
    Synced T (setUserPolicy T st dbOk list caller).2 := by
  rcases setUserPolicy_spec T st dbOk list caller with ⟨e, heq⟩ | ⟨changes, st', es, heq, -, hset⟩
  · rw [heq]; exact h
  · rw [heq]; exact hset.synced h

/-! ## ClearUserPolicy -/

theorem validateClearUserPolicy_owned : ∀ {list : List String} {codes : List Nat},
    validateClearUserPolicy T records caller list = .ok codes →
      ∀ c ∈ codes, ∃ r, records[c]? = some r ∧ r.controllerToken = caller
  | [], codes, h, c, hc => by
    cases h
    cases hc
  | name :: list, codes, h, c, hc => by
    rw [validateClearUserPolicy] at h
    split at h
    · cases h
    split at h
    · cases h
    rename_i code _ r hr
    split at h
    · cases h
    rename_i hctrl
    cases hrest : validateClearUserPolicy T records caller list with
    | error => rw [hrest] at h; cases h
    | ok =>
      rw [hrest] at h
      cases h
      rcases List.mem_cons.1 hc with rfl | hc
      · exact ⟨r, hr, by simpa using hctrl⟩
      · exact validateClearUserPolicy_owned hrest c hc

def clearedChange (c : Nat) (r : UserPolicyRecord) : UserPolicyChange :=
  ⟨c, r.isPersist, r.userList.foldl (fun users u => users.insert u) ∅⟩

/-- What the loop of `ClearUserPolicy` does: every record it finds is dropped once, reported, and its row deleted. -/
structure Cleared (T : PermissionTable) (codes : List Nat) (staged out : StagedClear) : Prop where
  records : ∀ c : Nat, out.records[c]? = if c ∈ codes then none else staged.records[c]?
  changes : ∀ ch, ch ∈ out.changes ↔
    ch ∈ staged.changes ∨ ∃ c ∈ codes, ∃ r, staged.records[c]? = some r ∧ ch = clearedChange c r
  dels : ∀ name, name ∈ out.dels ↔ name ∈ staged.dels ∨ ∃ c ∈ codes, ∃ r, staged.records[c]? = some r ∧
    r.isPersist = true ∧ name = T.transferOpcodeToPermission c

theorem cleared_foldl (T : PermissionTable) : ∀ (codes : List Nat) (staged : StagedClear),
    Cleared T codes staged (codes.foldl (clearUserPolicyStep T) staged)
  | [], _ => ⟨by simp, by simp, by simp⟩
  | p :: codes, staged => by
    have ih := cleared_foldl T codes (clearUserPolicyStep T staged p)
    rw [List.foldl_cons]
    -- the records the rest of the loop finds are the others
    have hfound : ∀ P : Nat → UserPolicyRecord → Prop, (∃ c ∈ p :: codes, ∃ r, staged.records[c]? = some r ∧ P c r) ↔
        (∃ r, staged.records[p]? = some r ∧ P p r) ∨
          ∃ c ∈ codes, ∃ r, (clearUserPolicyStep T staged p).records[c]? = some r ∧ P c r := by
      intro P
      rw [clearUserPolicyStep]
      cases hr : staged.records[p]? with
      | none => simp [hr]
      | some =>
        simp only [List.exists_mem_cons_iff, hr, Lib.getElem?_erase_eq_some, ne_eq]
        constructor
        · rintro (h | ⟨c, hc, r, hcr, hP⟩)
          · exact .inl h
          · by_cases hpc : c = p
            · subst hpc
              exact .inl ⟨r, hr ▸ hcr, hP⟩
            · exact .inr ⟨c, hc, r, ⟨hpc, hcr⟩, hP⟩
        · rintro (h | ⟨c, hc, r, ⟨-, hcr⟩, hP⟩)
          · exact .inl h
          · exact .inr ⟨c, hc, r, hcr, hP⟩
    refine ⟨fun c => ?_, fun ch => ?_, fun name => ?_⟩
    · rw [ih.records, clearUserPolicyStep]
      cases hr : staged.records[p]? with
      | none => by_cases hc : c = p <;> simp [hc, hr]
      | some => by_cases hc : c = p <;> simp [hc, getElem?_erase]
    · rw [ih.changes, hfound, ← or_assoc]
      refine or_congr_left ?_
      rw [clearUserPolicyStep]
      cases staged.records[p]? <;> simp [clearedChange]
    · rw [ih.dels, hfound, ← or_assoc]
      refine or_congr_left ?_
      rw [clearUserPolicyStep]
      cases staged.records[p]? with
      | none => simp
      | some record => by_cases hp : record.isPersist = true <;> simp [hp]

/-- **What `ClearUserPolicy` can do**: fail with nothing changed, or drop records its caller controls. -/
theorem clearUserPolicy_spec (T : PermissionTable) (st : Store) (dbOk : Bool) (list : List String)
    (caller : AccessTokenID) : (∃ e, clearUserPolicy T st dbOk list caller = (.error e, st)) ∨
      ∃ (codes : List Nat) (out : StagedClear) (table : UserPolicyTable),
        clearUserPolicy T st dbOk list caller = (.ok out.changes, ⟨out.records, table⟩) ∧
        (∀ c ∈ codes, ∃ r, st.records[c]? = some r ∧ r.controllerToken = caller) ∧
        Cleared T codes ⟨st.records, [], []⟩ out ∧ ∃ ok, deleteAndInsertValues ok st.table out.dels
        [] = some table := by
  unfold clearUserPolicy
  cases hval : validateClearUserPolicy T st.records caller list with
  | error e => exact .inl ⟨e, rfl⟩
  | ok codes =>
    dsimp only
    split
    · exact .inl ⟨_, rfl⟩
    rename_i table' hwritten
    refine .inr ⟨codes, _, table', rfl, validateClearUserPolicy_owned hval, cleared_foldl T codes _, ?_⟩
    apply transaction_call
    rw [List.isEmpty_nil, Bool.and_true]
    exact hwritten

theorem Synced.clearUserPolicy (h : Synced T st) {list : List String} :
    Synced T (clearUserPolicy T st dbOk list caller).2 := by
  rcases clearUserPolicy_spec T st dbOk list caller with ⟨e, heq⟩ | ⟨codes, out, table, heq, hown, hcl, ok, hcall⟩
  · rw [heq]; exact h
  rw [heq]
  have hsub : ∀ (c : Nat) r, out.records[c]? = some r → st.records[c]? = some r := by
    intro c r hr
    rw [hcl.records] at hr
    split at hr
    · cases hr
    · exact hr
  refine h.transaction ⟨fun c r hr => h.codes c r (hsub c r hr), fun c r hr => h.sized c r (hsub c r hr)⟩ hcall
    (by simp) fun c hc _ => ?_
  rw [persistedRow, hcl.records]
  by_cases hmem : c ∈ codes
  · -- a dropped record that was persisted has its row deleted
    obtain ⟨r, hr, -⟩ := hown c hmem
    rw [if_pos hmem, Option.filter_none, Option.map_none]
    split
    · rfl
    · rename_i hdel
      have hp : ¬r.isPersist = true := fun hp => hdel ((hcl.dels _).2 (.inr ⟨c, hmem, r, hr, hp, rfl⟩))
      simp [persistedRow, hr, hp]
  · have hdel : T.transferOpcodeToPermission c ∉ out.dels := by
      intro hdel
      rcases (hcl.dels _).1 hdel with h' | ⟨c', hc', r, hr, -, hname⟩
      · cases h'
      · rw [transferOpcode_inj (h.codes c' r hr) hname] at hmem
        exact hmem hc'
    rw [if_neg hmem, if_neg hdel, persistedRow]

/-! ## The whitelist -/

theorem size_erase_le : (s.erase t).size ≤ s.size := by
  rw [size_erase]
  split <;> omega

/-- **When a whitelist update is valid**: the caller controls a policy on the user, and the token is not yet on the list
it is to join or still on the one it is to leave. -/
theorem validatePolicyWhiteList_ok {ctx : PolicyWhiteListUpdateInfo} :
    validatePolicyWhiteListUpdateLocked records ctx = .ok record ↔
      records[ctx.permCode]? = some record ∧ record.controllerToken = ctx.callerToken ∧ ctx.userId ∈ record.userList ∧
        (ctx.tokenId ∈ record.whiteList ↔ ctx.type = .delete) ∧
        (ctx.type = .add → record.whiteList.size + 1 ≤ userPolicyMaxListSize) := by
  unfold validatePolicyWhiteListUpdateLocked
  cases records[ctx.permCode]? with
  | none => simp
  | some =>
    dsimp only
    constructor
    · intro h
      cases htype : ctx.type with
      | add =>
        rw [htype] at h
        split_ifs at h with hcaller huser hmem hsize
        cases h
        exact ⟨rfl, not_not.1 hcaller, by simpa using huser, by simp [hmem], fun _ => not_lt.1 hsize⟩
      | delete =>
        rw [htype] at h
        split_ifs at h with hcaller huser hmem
        cases h
        exact ⟨rfl, not_not.1 hcaller, by simpa using huser, by simp [hmem], by simp⟩
    · rintro ⟨⟨rfl⟩, hcaller, huser, hmem, hsize⟩
      rw [if_neg (not_not_intro hcaller), if_neg (by simp [huser])]
      cases htype : ctx.type with
      | add => simp [hmem, htype, not_lt.2 (hsize htype)]
      | delete => simp [hmem, htype]

theorem validatePolicyWhiteList_spec {context : PolicyWhiteListUpdateInfo}
    (h : validatePolicyWhiteListUpdateLocked records context = .ok record) :
    records[context.permCode]? = some record ∧ (record.whiteList.size ≤ userPolicyMaxListSize →
        (updatedWhiteList context record.whiteList).size ≤ userPolicyMaxListSize) := by
  obtain ⟨hr, -, -, -, hadd⟩ := validatePolicyWhiteList_ok.1 h
  refine ⟨hr, fun hle => ?_⟩
  rw [updatedWhiteList]
  cases htype : context.type with
  | add => exact size_insert_le.trans (hadd htype)
  | delete => exact size_erase_le.trans hle

theorem Fitting.insert (h : Fitting T records) {p : Nat} (record' : UserPolicyRecord)
    (hr : records[p]? = some record) (hsized : isUserPolicyRecordSizeValid record' = true) :
    Fitting T (records.insert p record') := by
  refine ⟨fun c r hc => ?_, fun c r hc => ?_⟩ <;>
    rcases Lib.getElem?_insert_eq_some.1 hc with ⟨rfl, rfl⟩ | ⟨-, hc⟩
  · exact h.codes c record hr
  · exact h.codes c r hc
  · exact hsized
  · exact h.sized c r hc

theorem Synced.updatePolicyWhiteList (h : Synced T st) (dbOk : Bool) (context : PolicyWhiteListUpdateInfo) :
    Synced T (updatePolicyWhiteList T st dbOk context).2 := by
  rw [UserPolicyManager.updatePolicyWhiteList]
  split
  · exact h
  cases hval : validatePolicyWhiteListUpdateLocked st.records context with
  | error => exact h
  | ok record =>
    obtain ⟨hr, hsize⟩ := validatePolicyWhiteList_spec hval
    have hcode := h.codes _ record hr
    have hold := h.sized _ record hr
    simp only [isUserPolicyRecordSizeValid, Bool.and_eq_true, decide_eq_true_eq] at hold
    have hfit := h.toFitting.insert { record with whiteList := updatedWhiteList context record.whiteList } hr
      (by simp only [isUserPolicyRecordSizeValid, Bool.and_eq_true, decide_eq_true_eq]; exact ⟨hold.1, hsize hold.2⟩)
    simp only
    split
    · rename_i hpersist
      split
      · refine ⟨hfit, fun c hc => ?_, fun name hname => h.names name (mem_modify.1 hname)⟩
        rw [Lib.getElem?_modify]
        by_cases hcp : c = context.permCode
        · subst hcp
          simp [h.rows _ hcode, persistedRow, hr, hpersist, buildUserPolicyValue, Option.filter_some]
        · have hname : T.transferOpcodeToPermission c ≠ T.transferOpcodeToPermission context.permCode :=
            fun heq => hcp (transferOpcode_inj hcode heq)
          simp [hname, h.rows c hc, persistedRow, getElem?_insert, hcp]
      · exact h
    · rename_i hpersist
      refine ⟨hfit, fun c hc => ?_, h.names⟩
      rw [h.rows c hc, persistedRow, persistedRow, getElem?_insert]
      split
      · rename_i heq
        rw [heq, hr]
        simp [Option.filter_some, hpersist]
      · rfl

theorem Fitting.removeToken (h : Fitting T records) :
    Fitting T (records.map fun _ r => { r with whiteList := r.whiteList.erase t }) := by
  refine ⟨fun c r' hc => ?_, fun c r' hc => ?_⟩ <;> rw [getElem?_map, Option.map_eq_some_iff] at hc <;>
    obtain ⟨r, hr, rfl⟩ := hc
  · exact h.codes c r hr
  · have hsized := h.sized c r hr
    simp only [isUserPolicyRecordSizeValid, Bool.and_eq_true, decide_eq_true_eq] at hsized ⊢
    exact ⟨hsized.1, Nat.le_trans size_erase_le hsized.2⟩

theorem erase_of_not_mem (h : t ∉ s) : s.erase t = s := by
  ext k
  refine Lib.mem_set_erase.trans (and_iff_right_of_imp ?_)
  rintro hk rfl
  exact h hk

theorem Synced.removeTokenFromPolicyWhiteList (h : Synced T st) :
    Synced T (removeTokenFromPolicyWhiteList T st dbOk t).2 := by
  rw [UserPolicyManager.removeTokenFromPolicyWhiteList]
  split
  · exact h
  split
  · exact h
  rename_i table' hwritten
  obtain ⟨ok, hcall⟩ := transaction_call hwritten
  have hmem : ∀ e, e ∈ (st.records.toList.filter fun e => decide (t ∈ e.2.whiteList)).filter (fun e => e.2.isPersist) ↔
      st.records[e.1]? = some e.2 ∧ t ∈ e.2.whiteList ∧ e.2.isPersist = true := by
    intro e
    rw [List.mem_filter, List.mem_filter, mem_toList_iff_getElem?_eq_some, decide_eq_true_eq, and_assoc]
  refine h.transaction h.toFitting.removeToken hcall ?_ ?_
  · intro e' he'
    obtain ⟨e, he, rfl⟩ := List.mem_map.1 he'
    obtain ⟨hr, -, hpersist⟩ := (hmem e).1 he
    refine ⟨e.1, h.codes _ _ hr, rfl, ?_⟩
    rw [persistedRow, getElem?_map, hr]
    simp [Option.filter_some, hpersist]
  intro code hcode hnone
  -- a permission with no new row keeps its old one: nothing is deleted that is not written again
  have hkeep : ∀ r, st.records[code]? = some r → r.isPersist = true → t ∉ r.whiteList := by
    intro r hr hpersist ht
    exact hnone _ (List.mem_map.2 ⟨(code, r), (hmem (code, r)).2 ⟨hr, ht, hpersist⟩, rfl⟩)
  have hdel : T.transferOpcodeToPermission code ∉
      (((st.records.toList.filter fun e => decide (t ∈ e.2.whiteList)).filter fun e => e.2.isPersist).map
        fun e => T.transferOpcodeToPermission e.1) := by
    intro hdel
    obtain ⟨e, he, hname⟩ := List.mem_map.1 hdel
    obtain ⟨hr, ht, hpersist⟩ := (hmem e).1 he
    have heq := transferOpcode_inj hcode hname
    exact hkeep e.2 (heq ▸ hr) hpersist ht
  rw [if_neg hdel, persistedRow, persistedRow, getElem?_map]
  cases hr : st.records[code]? with
  | none => rfl
  | some r =>
    rw [Option.map_some, Option.filter_some, Option.filter_some]
    by_cases hpersist : r.isPersist = true
    · rw [erase_of_not_mem (hkeep r hr hpersist)]
    · simp [hpersist]

/-! ## A restart -/

theorem buildRow_of_persisted {code : Nat} {row : UserPolicyRow} (h : Fitting T records)
    (hrow : persistedRow records code = some row) :
    ∃ r, records[code]? = some r ∧ r.isPersist = true ∧ recordOfRow row = some r := by
  obtain ⟨r, hr, rfl⟩ := Option.map_eq_some_iff.1 hrow
  rw [Option.filter_eq_some_iff] at hr
  refine ⟨r, hr.1, hr.2, ?_⟩
  rw [recordOfRow_build (h.sized code r hr.1), ← hr.2]

theorem getElem?_foldl_loadStep {R : UserPolicyRecords} (c : Nat) : ∀ (rows : List (String × UserPolicyRow))
    (acc : UserPolicyRecords),
    (∀ e ∈ rows, ∃ code r, T.transferPermissionToOpcode e.1 = some code ∧ R[code]? = some r ∧
      recordOfRow e.2 = some r) → (rows.foldl (loadStep T) acc)[c]? =
        if c ∈ rows.filterMap (fun e => T.transferPermissionToOpcode e.1) then R[c]? else acc[c]?
  | [], acc, _ => by simp
  | e :: rows, acc, hrows => by
    obtain ⟨code, r, hcode, hr, hrow⟩ := hrows e (by simp)
    rw [List.foldl_cons, getElem?_foldl_loadStep c rows _ fun e' he' => hrows e' (by simp [he'])]
    have hstep : loadStep T acc e = acc.insert code r := by rw [loadStep, hcode, hrow]
    rw [hstep, getElem?_insert, List.filterMap_cons, hcode]
    by_cases hc : c = code
    · subst hc
      simp [hr]
    · rw [if_neg hc]
      exact if_congr (by rw [List.mem_cons, or_iff_right hc]) rfl rfl

theorem Synced.loadPersistedPolicies (h : Synced T st) {rows : List (String × UserPolicyRow)}
    (hperm : rows.Perm st.table.toList) :
    loadPersistedPolicies T ∅ rows = st.records.filter fun _ r => r.isPersist := by
  have hmem : ∀ e, e ∈ rows → ∃ code r, code < T.permList.length ∧ e.1 = T.transferOpcodeToPermission code ∧
      st.records[code]? = some r ∧ r.isPersist = true ∧ recordOfRow e.2 = some r := by
    intro e he
    have hget := mem_toList_iff_getElem?_eq_some.1 (hperm.mem_iff.1 he)
    obtain ⟨code, hcode, hname⟩ := h.names e.1 (Lib.mem_iff_exists.2 ⟨_, hget⟩)
    rw [hname, h.rows code hcode] at hget
    obtain ⟨r, hr, hpersist, hrow⟩ := buildRow_of_persisted h.toFitting hget
    exact ⟨code, r, hcode, hname, hr, hpersist, hrow⟩
  apply ext_getElem?
  intro c
  rw [UserPolicyManager.loadPersistedPolicies, getElem?_foldl_loadStep (R := st.records) c rows]
  · have hfresh : (filter (fun _ r => !r.isPersist) (∅ : UserPolicyRecords))[c]? = none := by
      simp
    rw [hfresh, getElem?_filter']
    by_cases hc : c ∈ rows.filterMap (fun e => T.transferPermissionToOpcode e.1)
    · rw [if_pos hc]
      obtain ⟨e, he, htransfer⟩ := List.mem_filterMap.1 hc
      obtain ⟨code, r, hcode, hname, hr, hpersist, -⟩ := hmem e he
      rw [hname, transferPermissionToOpcode_transferOpcode hcode, Option.some.injEq] at htransfer
      subst htransfer
      rw [hr, Option.filter_some, if_pos hpersist]
    · rw [if_neg hc]
      cases hr : (st.records[c]?).filter (fun r => r.isPersist) with
      | none => simp
      | some r =>
        -- a persisted record has its row, and that row was read
        have hcode := h.codes c r (Option.filter_eq_some_iff.1 hr).1
        have hrow : st.table[T.transferOpcodeToPermission c]? = some (buildUserPolicyValue r) := by
          rw [h.rows c hcode, persistedRow, hr, Option.map_some]
        refine absurd (List.mem_filterMap.2 ⟨_, hperm.mem_iff.2 (mem_toList_iff_getElem?_eq_some.2 hrow), ?_⟩) hc
        exact transferPermissionToOpcode_transferOpcode hcode
  · intro e he
    obtain ⟨code, r, hcode, hname, hr, -, hrow⟩ := hmem e he
    exact ⟨code, r, by rw [hname, transferPermissionToOpcode_transferOpcode hcode], hr, hrow⟩

/-! ## Runs -/

inductive Op where
  | setUserPolicy (dbOk : Bool) (userPermissionList : List UserPermissionPolicy) (callerToken : AccessTokenID)
  | clearUserPolicy (dbOk : Bool) (permissionList : List String) (callerToken : AccessTokenID)
  | updatePolicyWhiteList (dbOk : Bool) (context : PolicyWhiteListUpdateInfo)
  | removeTokenFromPolicyWhiteList (dbOk : Bool) (tokenId : AccessTokenID)

def step (T : PermissionTable) (st : Store) : Op → Store
  | .setUserPolicy dbOk list caller => (setUserPolicy T st dbOk list caller).2
  | .clearUserPolicy dbOk list caller => (clearUserPolicy T st dbOk list caller).2
  | .updatePolicyWhiteList dbOk context => (updatePolicyWhiteList T st dbOk context).2
  | .removeTokenFromPolicyWhiteList dbOk t => (removeTokenFromPolicyWhiteList T st dbOk t).2

theorem Synced.step (h : Synced T st) {op : Op} : Synced T (step T st op) := by
  cases op with
  | setUserPolicy => exact h.setUserPolicy
  | clearUserPolicy => exact h.clearUserPolicy
  | updatePolicyWhiteList dbOk context => exact h.updatePolicyWhiteList dbOk context
  | removeTokenFromPolicyWhiteList => exact h.removeTokenFromPolicyWhiteList

theorem synced_of_reaches (h : Lib.Reaches (step T) Lib.Always Store.empty st) : Synced T st :=
  h.invariant (fun _ _ hs _ => hs.step) synced_empty

/-- **Cache and table agree in every reached state and survive a restart.**  Every persisted record has its row, every
row is that of exactly one persisted record, and loading the rows in whatever order the query returns them gives exactly
the persisted records back. -/
theorem persisted_records_survive_restart (T : PermissionTable) (st : Store)
    (h : Lib.Reaches (step T) Lib.Always Store.empty st) :
    (∀ (code : Nat) record, st.records[code]? = some record → record.isPersist = true →
        st.table[T.transferOpcodeToPermission code]? = some (buildUserPolicyValue record)) ∧
      (∀ (name : String) row, st.table[name]? = some row → ∃! code : Nat, name = T.transferOpcodeToPermission code ∧
        ∃ record, st.records[code]? = some record ∧ record.isPersist = true ∧ row = buildUserPolicyValue record) ∧
      ∀ rows : List (String × UserPolicyRow), rows.Perm st.table.toList →
        loadPersistedPolicies T ∅ rows = st.records.filter fun _ r => r.isPersist := by
  have hs := synced_of_reaches h
  refine ⟨fun code record hr hpersist => ?_, fun name row hrow => ?_, fun rows hperm => hs.loadPersistedPolicies hperm⟩
  · rw [hs.rows code (hs.codes code record hr), persistedRow, hr, Option.filter_some, if_pos hpersist, Option.map_some]
  obtain ⟨code, hcode, rfl⟩ := hs.names name (Lib.mem_iff_exists.2 ⟨_, hrow⟩)
  rw [hs.rows code hcode] at hrow
  obtain ⟨record, hr, rfl⟩ := Option.map_eq_some_iff.1 hrow
  rw [Option.filter_eq_some_iff] at hr
  refine ⟨code, ⟨rfl, record, hr.1, hr.2, rfl⟩, ?_⟩
  rintro code' ⟨hname, record', hr', -, -⟩
  exact (transferOpcode_inj (hs.codes code' record' hr') hname).symm

/-- A persisted policy for two users, with a failing clear and a whitelisted token after it. -/
def samplePolicyRun : List Op :=
  [.setUserPolicy true [⟨camera, [⟨101, true⟩, ⟨100, true⟩], true⟩] 7,
    .clearUserPolicy false [camera] 7,
    .updatePolicyWhiteList true ⟨536870913, 100, 0, .add, 7⟩]

theorem sample_policy_survives_restart :
    let st := samplePolicyRun.foldl (step sampleTable) Store.empty
    st.records[0]? = some ⟨[101, 100], 7, (∅ : Std.ExtTreeSet AccessTokenID).insert 536870913, true⟩ ∧
      loadPersistedPolicies sampleTable ∅ st.table.toList = st.records.filter fun _ r => r.isPersist := by
  refine ⟨by decide, ?_⟩
  exact (persisted_records_survive_restart sampleTable _ (Lib.reaches_always samplePolicyRun Store.empty)).2.2 _
    (List.Perm.refl _)

end UserPolicyManager
end AccessToken
