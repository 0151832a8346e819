import AccessToken.Service.DlpRange
/-!
# What a restart brings back

After a restart the permissions of a token are what `RestorePermissionBriefData` reads from its rows.  Each operation
writes the rows by a route of its own, so the statement is a simulation: as long as the writes go through, the rows of a
token are its entries, one for one, with the user-policy bit only where the policy is persisted.
-/
namespace AccessToken

open BriefPermData

open Function (update_apply update_of_ne update_self)
open Std.ExtTreeMap (getD_eq_getD_getElem? getElem?_insert_self mem_iff_isSome_getElem? mem_toList_iff_getElem?_eq_some)
open UserPolicyManager PermissionTable

open Lib (hasAny modifyFirst Reaches getElem?_insert mem_insert)

variable {T : PermissionTable} {l : List BriefPermData}

/-! ## The rows that were written -/

namespace Database

variable {db : Database} {t : AccessTokenID}

theorem modifyPermissionState_of_ne {s : PermissionStatus} {x : AccessTokenID} (hx : x ≠ t) :
    (db.modifyPermissionState t s).permissionState x = db.permissionState x := update_of_ne hx ..

theorem modifyPermissionState_row (s : PermissionStatus) (n : String) :
    ((db.modifyPermissionState t s).permissionState t)[n]? =
      if s.permissionName = n then ((db.permissionState t)[n]?).map fun _ => ⟨s.grantStatus, s.grantFlag⟩
      else (db.permissionState t)[n]? := by
  unfold modifyPermissionState
  dsimp only
  rw [update_self, Lib.getElem?_modify]
  simp only [eq_comm]

/-- **A reset whose writes all go through** leaves in the row of each state that state, and the other rows alone. -/
theorem updateStatesToDB_rows {failing : TokenPerms} :
    ∀ (states : List PermissionStatus) (db : Database), (states.map (·.permissionName)).Nodup →
      (Service.updateStatesToDB failing t db states).1 = true →
      (∀ x, x ≠ t → (Service.updateStatesToDB failing t db states).2.permissionState x = db.permissionState x) ∧
      ∀ n, ((Service.updateStatesToDB failing t db states).2.permissionState t)[n]? =
        match states.find? (·.permissionName == n) with
        | some s => ((db.permissionState t)[n]?).map fun _ => ⟨s.grantStatus, s.grantFlag⟩
        | none => (db.permissionState t)[n]?
  | [], db, _, _ => ⟨fun _ _ => rfl, fun _ => rfl⟩
  | s :: states, db, hnd, hok => by
    obtain ⟨hnew, hnd⟩ := List.nodup_cons.1 hnd
    rw [Service.updateStatesToDB] at hok ⊢
    split at hok
    · cases hok
    rename_i hfail
    rw [if_neg hfail]
    obtain ⟨hother, hrow⟩ := updateStatesToDB_rows states (db.modifyPermissionState t s) hnd hok
    refine ⟨fun x hx => (hother x hx).trans (modifyPermissionState_of_ne hx), fun n => ?_⟩
    rw [hrow n, modifyPermissionState_row, List.find?_cons]
    by_cases hn : s.permissionName = n
    · subst hn
      have hnone : states.find? (·.permissionName == s.permissionName) = none := by
        rw [List.find?_eq_none]
        intro s' hs' heq
        exact hnew (List.mem_map.2 ⟨s', hs', by simpa using heq⟩)
      rw [hnone]
      simp
    · have hbeq : (s.permissionName == n) = false := by simpa using hn
      rw [hbeq, if_neg hn]

theorem updateStatesToDB_extendValue (failing : TokenPerms) :
    ∀ (states : List PermissionStatus) (db : Database),
      (Service.updateStatesToDB failing t db states).2.extendValue = db.extendValue
  | [], _ => rfl
  | s :: states, db => by
    rw [Service.updateStatesToDB]
    split
    · rfl
    · exact updateStatesToDB_extendValue failing states _

theorem foldl_modify_extendValue {states : List PermissionStatus} :
    (states.foldl (fun db s => db.modifyPermissionState t s) db).extendValue = db.extendValue :=
  List.foldlRecOn (motive := fun (db' : Database) => db'.extendValue = db.extendValue) states _ rfl fun _ h _ _ => h

theorem insertExtendValues_names {values : List PermissionWithValue} {rows : Std.ExtTreeMap String String} {n : String}
    (hn : n ∈ insertExtendValues rows values) : n ∈ rows ∨ ∃ v ∈ values, v.permissionName = n := by
  rcases Lib.getElem?_insertAll (values.map fun v => (v.permissionName, v.value)) rows n with ⟨x, hx, -⟩ | ⟨-, heq⟩
  · obtain ⟨v, hv, hpair⟩ := List.mem_map.1 hx
    exact .inr ⟨v, hv, congrArg Prod.fst hpair⟩
  · rw [mem_iff_isSome_getElem?, insertExtendValues, heq] at hn
    exact .inl (mem_iff_isSome_getElem?.2 hn)

end Database

/-! ## Restoring -/

namespace PermissionDataBrief

/-- The entry `RestorePermissionBriefData` makes of a row. -/
def restoredEntry (T : PermissionTable) (row : PermissionStatus) : Option BriefPermData :=
  ((translationIntoPermissionStatus row).bind (briefPermDataOf T)).map fun d =>
    { d with flag := getFlagWroteToDb d.flag }

theorem translationIntoAclExtendedMap_of_valid : ∀ (rows : List PermissionWithValue) (acl : AclExtendedMap),
    (∀ row ∈ rows, isPermissionNameValid row.permissionName = true) →
    ∃ acl', translationIntoAclExtendedMap rows acl = some acl'
  | [], acl, _ => ⟨acl, rfl⟩
  | row :: rows, acl, h => by
    rw [translationIntoAclExtendedMap, if_pos (h row (by simp))]
    exact translationIntoAclExtendedMap_of_valid rows _ fun r hr => h r (by simp [hr])

theorem mergePermBriefData_of_new {data : BriefPermData} (hnew : data.permCode ∉ l.map permCode) :
    mergePermBriefData l data = l ++ [{ data with flag := getFlagWroteToDb data.flag }] := by
  have hnone : l.find? (hasCode data.permCode) = none := by
    rw [List.find?_eq_none]
    intro d hd hcode
    exact hnew (List.mem_map.2 ⟨d, hd, by simpa [hasCode] using hcode⟩)
  simp only [mergePermBriefData, hnone]

/-- **Rows with different codes are restored one by one.** -/
theorem restoreLoop_fst_eq (t : AccessTokenID) (acl : AclExtendedMap) :
    ∀ (rows : List PermissionStatus) (l : List BriefPermData) (ext : ExtendedValueMap),
      ((l ++ rows.filterMap (restoredEntry T)).map permCode).Nodup →
        (restoreLoop T t acl rows l ext).1 = l ++ rows.filterMap (restoredEntry T)
  | [], l, ext, _ => by simp [restoreLoop]
  | row :: rows, l, ext, hnd => by
    rw [List.filterMap_cons] at hnd ⊢
    rw [restoreLoop]
    cases hst : translationIntoPermissionStatus row with
    | none =>
      have hnone : restoredEntry T row = none := by simp [restoredEntry, hst]
      rw [hnone] at hnd ⊢
      exact restoreLoop_fst_eq t acl rows l ext hnd
    | some st =>
      dsimp only
      have hfst := getPermissionBriefData_fst (T := T) t st acl ext
      generalize getPermissionBriefData T t st acl ext = res at hfst ⊢
      obtain ⟨data, ext'⟩ := res
      have hdata : data = briefPermDataOf T st := hfst
      cases data with
      | none =>
        have hnone : restoredEntry T row = none := by simp [restoredEntry, hst, ← hdata]
        rw [hnone] at hnd ⊢
        exact restoreLoop_fst_eq t acl rows l ext' hnd
      | some d =>
        have hsome : restoredEntry T row = some { d with flag := getFlagWroteToDb d.flag } := by
          simp [restoredEntry, hst, ← hdata]
        rw [hsome] at hnd ⊢
        have hnew : d.permCode ∉ l.map permCode := by
          intro hmem
          rw [List.map_append, List.map_cons, List.nodup_append] at hnd
          exact hnd.2.2 _ hmem _ (by simp) rfl
        dsimp only
        rw [mergePermBriefData_of_new hnew, restoreLoop_fst_eq t acl rows _ ext' (by simpa using hnd)]
        simp

end PermissionDataBrief

/-! ## The service -/

namespace Service

open PermissionDataBrief

variable {D : DlpPermissionModeMap} {w w' : Service}

/-- The flag the row of an entry is to hold: the user-policy bit is stored for persisted policies only. -/
def storedFlag (records : UserPolicyRecords) (d : BriefPermData) : Flag :=
  if isPolicyPersisted records d.permCode then d.flag
  else getFlagWithoutSpecifiedElement d.flag permissionRestrictedByAdmin

def storedRow (records : UserPolicyRecords) (d : BriefPermData) : PermStateRow := ⟨d.status, storedFlag records d⟩

variable {records : UserPolicyRecords} {b b' : PermissionDataBrief} {d : BriefPermData} {db : Database}
    {t : AccessTokenID}

theorem storedFlag_of_persisted (h : isRestricted d.flag = true → isPolicyPersisted records d.permCode = true) :
    storedFlag records d = d.flag := by
  unfold storedFlag
  split
  · rfl
  rename_i hp
  have hbit : isRestricted d.flag = false := by
    cases hr : isRestricted d.flag with
    | false => rfl
    | true => exact absurd (h hr) hp
  exact Lib.clear_of_hasAny_eq_false hbit

/-- **The rows of a token are its entries**, each under the name of its code. -/
def RowsMirror (T : PermissionTable) (records : UserPolicyRecords) (b : PermissionDataBrief) (db : Database)
    (t : AccessTokenID) : Prop :=
  ∀ (n : String) row, (db.permissionState t)[n]? = some row ↔
    ∃ c d, b.entry t c = some d ∧ n = T.transferOpcodeToPermission c ∧ row = storedRow records d

/-- A temporary grant is not read back from a row; the entries here hold none. -/
def Settled (d : BriefPermData) : Prop := hasAny d.flag permissionAllowThisTime = true → d.status = permissionDenied

/-- **What the operations keep when their writes go through.** -/
structure Stored (T : PermissionTable) (w : Service) : Prop extends Lasting T w, Sound T w where
  valueNames : ∀ t n, n ∈ w.db.extendValue t → isPermissionNameValid n = true
  present : ∀ t, t ∈ w.hapTokenInfoMap → t ∈ w.requestedPermData
  settled : AllEntries Settled w.brief
  rowsMirror : ∀ t, RowsMirror T w.policy.records w.brief w.db t

theorem stored_initial {policy : Store} : ({ empty with policy := policy } : Service).Stored T :=
  { (keptByParts_lasting T).policy _ policy lasting_empty with
    brief := (sound_empty).brief
    valueNames := fun t n hn => by simp [empty, Database.empty] at hn
    present := fun t ht => by simp [empty] at ht
    settled := fun t l hl => by simp [empty, PermissionDataBrief.empty] at hl
    rowsMirror := fun t n row => by
      simp [empty, Database.empty, PermissionDataBrief.entry, PermissionDataBrief.empty] }

/-! ### Reading the rows back -/

/-- What a restart is to bring back of an entry: its code, status and flag. -/
def core (d : BriefPermData) : Nat × Int × Flag := (d.permCode, d.status, d.flag)

/-- An entry without its component bit and without the bit of a policy that is not persisted. -/
def lastingCore (records : UserPolicyRecords) (d : BriefPermData) : Nat × Int × Flag :=
  (d.permCode, d.status, getFlagWroteToDb (storedFlag records d))

theorem hasAny_storedFlag_temp (records : UserPolicyRecords) (d : BriefPermData) :
    hasAny (storedFlag records d) permissionAllowThisTime = hasAny d.flag permissionAllowThisTime := by
  unfold storedFlag
  split
  · rfl
  · simp only [getFlagWithoutSpecifiedElement, Lib.hasAny_and]
    rfl

theorem isPermissionFlagValid_storedFlag :
    isPermissionFlagValid (storedFlag records d) = isPermissionFlagValid d.flag := by
  unfold storedFlag
  split
  · rfl
  · exact isPermissionFlagValid_without_restricted _

/-- **The row of a settled entry is read back as the entry.** -/
theorem restoredEntry_storedRow (records : UserPolicyRecords) (hd : LastingEntry T d) (hset : Settled d) :
    ∃ e, restoredEntry T ⟨T.transferOpcodeToPermission d.permCode, (storedRow records d).grantState,
        (storedRow records d).grantFlag⟩ = some e ∧ core e = lastingCore records d := by
  have hname : isPermissionNameValid (T.transferOpcodeToPermission d.permCode) = true :=
    isPermissionNameValid_transferOpcode hd.code
  have hcode := transferPermissionToOpcode_transferOpcode hd.code
  have hstatus : (if hasAny (storedRow records d).grantFlag permissionAllowThisTime then permissionDenied
      else (storedRow records d).grantState) = d.status := by
    change (if hasAny (storedFlag records d) permissionAllowThisTime then permissionDenied else d.status) = d.status
    rw [hasAny_storedFlag_temp]
    split
    · rename_i htemp
      exact (hset htemp).symm
    · rfl
  have hlt := hd.code
  have hdef : T.permList[d.permCode]? = some T.permList[d.permCode] := List.getElem?_eq_getElem hlt
  unfold restoredEntry translationIntoPermissionStatus
  simp only [hname, show isPermissionFlagValid (storedRow records d).grantFlag = true from
    isPermissionFlagValid_storedFlag.trans hd.flag,
    show isGrantStatusValid (storedRow records d).grantState = true from hd.status, Bool.and_self, if_true,
    Option.bind_some, hstatus, briefPermDataOf, hd.status, getPermissionBriefDef, hcode, hdef,
    Option.map_some]
  exact ⟨_, rfl, rfl⟩

theorem restoredEntry_permCode {row : PermissionStatus} (h : restoredEntry T row = some d) :
    T.transferPermissionToOpcode row.permissionName = some d.permCode := by
  obtain ⟨d₀, hd₀, rfl⟩ := Option.map_eq_some_iff.1 h
  obtain ⟨st, hst, hbrief⟩ := Option.bind_eq_some_iff.1 hd₀
  obtain ⟨-, -, hcode, -⟩ := briefPermDataOf_eq_some hbrief
  unfold translationIntoPermissionStatus at hst
  split at hst
  · cases hst
    exact hcode
  · cases hst

/-- Rows under different names of the table are restored to entries with different codes. -/
theorem restoredEntry_codes_nodup : ∀ {rows : List PermissionStatus}, (rows.map (·.permissionName)).Nodup →
    (∀ row ∈ rows, ∃ c, row.permissionName = T.transferOpcodeToPermission c) →
      ((rows.filterMap (restoredEntry T)).map permCode).Nodup
  | [], _, _ => List.nodup_nil
  | row :: rows, hnd, hname => by
    obtain ⟨hnew, hnd⟩ := List.nodup_cons.1 hnd
    have hrest := restoredEntry_codes_nodup hnd fun r hr => hname r (by simp [hr])
    rw [List.filterMap_cons]
    split
    · exact hrest
    rename_i e he
    refine List.nodup_cons.2 ⟨fun hmem => hnew ?_, hrest⟩
    obtain ⟨e', he', hcode⟩ := List.mem_map.1 hmem
    obtain ⟨row', hrow', hrestored⟩ := List.mem_filterMap.1 he'
    -- both rows bear the name of the one code
    have hback : ∀ r ∈ row :: rows, ∀ d, restoredEntry T r = some d →
        r.permissionName = T.transferOpcodeToPermission d.permCode := by
      intro r hr d hd
      obtain ⟨c, hc⟩ := hname r hr
      have hto := restoredEntry_permCode hd
      rw [hc] at hto
      rcases Nat.lt_or_ge c T.permList.length with hlt | hge
      · rw [transferPermissionToOpcode_transferOpcode hlt] at hto
        cases hto
        exact hc
      · rw [transferPermissionToOpcode_transferOpcode_of_ge hge] at hto
        cases hto
    refine List.mem_map.2 ⟨row', hrow', ?_⟩
    rw [hback row' (by simp [hrow']) e' hrestored, hcode, ← hback row (by simp) e he]

theorem findPermissionState_names_nodup : ((db.findPermissionState t).map (·.permissionName)).Nodup := by
  unfold Database.findPermissionState
  rw [List.map_map]
  refine List.pairwise_map.2 (List.Pairwise.imp (fun {a b} hne heq => hne ?_) Std.ExtTreeMap.distinct_keys_toList)
  exact Std.compare_eq_iff_eq.2 heq

variable {db db' : Database} {t id : AccessTokenID} {info inner : HapTokenInfoInner} {policy : HapPolicy} {fl : Flag}
    {f : BriefPermData → BriefPermData} {g dbOk : Bool} {old rows : PermStateRows} {env : Env} {s : PermissionDataBrief}
    {c : Nat} {n : String}

theorem mem_findPermissionState {st : PermissionStatus} : st ∈ db.findPermissionState t ↔
      (db.permissionState t)[st.permissionName]? = some ⟨st.grantStatus, st.grantFlag⟩ := by
  unfold Database.findPermissionState
  rw [List.mem_map]
  constructor
  · rintro ⟨⟨n, row⟩, hmem, rfl⟩
    exact mem_toList_iff_getElem?_eq_some.1 hmem
  · exact fun h => ⟨(st.permissionName, _), mem_toList_iff_getElem?_eq_some.2 h, rfl⟩

theorem Stored.values_read (h : w.Stored T) (t : AccessTokenID) :
    ∃ acl, translationIntoAclExtendedMap (w.db.findExtendValue t) ∅ = some acl :=
  translationIntoAclExtendedMap_of_valid (w.db.findExtendValue t) ∅ fun v hv => by
    obtain ⟨⟨n, x⟩, hmem, rfl⟩ := List.mem_map.1 hv
    exact h.valueNames t n (Lib.mem_iff_exists.2 ⟨_, mem_toList_iff_getElem?_eq_some.1 hmem⟩)

/-- **Restoring a token brings its entries back**, up to order. -/
theorem Stored.restores (h : w.Stored T) (ht : t ∈ w.hapTokenInfoMap) : ∃ l l', w.requestedPermData[t]? = some l ∧
      (s.restorePermissionBriefData T t (w.db.findPermissionState t) (w.db.findExtendValue t)).requestedPermData[t]? =
        some l' ∧
      (l'.map core).Perm (l.map (lastingCore w.policy.records)) := by
  obtain ⟨l, hl⟩ := Lib.mem_iff_exists.1 (h.present t ht)
  have hlast := h.entries t l hl
  have hset := h.settled t l hl
  have hcodes := (h.brief.lists t l hl).nodup
  -- the rows are the stored rows of the entries
  have hrows : ∀ st, st ∈ w.db.findPermissionState t ↔ ∃ d ∈ l, st =
      ⟨T.transferOpcodeToPermission d.permCode, (storedRow w.policy.records d).grantState,
        (storedRow w.policy.records d).grantFlag⟩ := by
    intro st
    rw [mem_findPermissionState, h.rowsMirror t]
    constructor
    · rintro ⟨c, d, hd, hn, hrow⟩
      obtain ⟨l', hl', hmem⟩ := mem_of_entry hd
      obtain rfl := Option.mem_unique hl hl'
      refine ⟨d, hmem, ?_⟩
      rw [permCode_of_entry hd, ← hn, ← hrow]
    · rintro ⟨d, hmem, rfl⟩
      exact ⟨d.permCode, d, entry_of_mem hl hcodes hmem, rfl, rfl⟩
  have hnd : (((w.db.findPermissionState t).filterMap (restoredEntry T)).map permCode).Nodup :=
    restoredEntry_codes_nodup findPermissionState_names_nodup fun st hst => by
      obtain ⟨d, -, rfl⟩ := (hrows st).1 hst
      exact ⟨d.permCode, rfl⟩
  obtain ⟨acl, hacl⟩ := h.values_read t
  refine ⟨l, (w.db.findPermissionState t).filterMap (restoredEntry T), hl, ?_, ?_⟩
  · have hloop := restoreLoop_fst_eq t acl (w.db.findPermissionState t) [] s.extendedValue (by simpa using hnd)
    unfold restorePermissionBriefData
    rw [hacl]
    rw [addBriefPermDataByTokenId_requested, getElem?_insert_self, hloop, List.nil_append]
  have hfst : ∀ f : BriefPermData → Nat × Int × Flag, (∀ d, (f d).1 = d.permCode) → ∀ k : List BriefPermData,
      (k.map permCode).Nodup → (k.map f).Nodup := by
    intro f hf k hk
    refine List.Nodup.of_map Prod.fst ?_
    rw [List.map_map, show Prod.fst ∘ f = permCode from funext hf]
    exact hk
  refine (List.perm_ext_iff_of_nodup (hfst core (fun _ => rfl) _ hnd) (hfst _ (fun _ => rfl) _ hcodes)).2 fun x => ?_
  simp only [List.mem_map, List.mem_filterMap]
  constructor
  · rintro ⟨e, ⟨st, hst, he⟩, rfl⟩
    obtain ⟨d, hmem, rfl⟩ := (hrows st).1 hst
    obtain ⟨e', he', hcore⟩ := restoredEntry_storedRow w.policy.records (hlast d hmem) (hset d hmem)
    obtain rfl := Option.mem_unique he' he
    exact ⟨d, hmem, hcore.symm⟩
  · rintro ⟨d, hmem, rfl⟩
    obtain ⟨e, he, hcore⟩ := restoredEntry_storedRow w.policy.records (hlast d hmem) (hset d hmem)
    exact ⟨e, ⟨_, (hrows _).2 ⟨d, hmem, rfl⟩, he⟩, hcore⟩

/-! ### What keeps rows and entries together -/

theorem RowsMirror.congr (h : RowsMirror T records b db t)
    (hentry : ∀ c, b'.entry t c = b.entry t c) (hrows : db'.permissionState t = db.permissionState t) :
    RowsMirror T records b' db' t := by
  intro n row
  rw [hrows, h n row]
  simp only [hentry]

theorem entry_congr (h : b'.requestedPermData[t]? = b.requestedPermData[t]?) (c : Nat) :
    b'.entry t c = b.entry t c := by
  unfold entry
  rw [h]

theorem RowsMirror.of_empty (hentry : ∀ c, b.entry t c = none)
    (hrows : ∀ n : String, (db.permissionState t)[n]? = none) : RowsMirror T records b db t := by
  intro n row
  simp [hentry, hrows]

theorem RowsMirror.rows_of_no_entry (h : RowsMirror T records b db t) (hentry : ∀ c, b.entry t c = none) (n : String) :
    (db.permissionState t)[n]? = none := by
  cases hrow : (db.permissionState t)[n]? with
  | none => rfl
  | some row =>
    obtain ⟨c, d, hd, -⟩ := (h n row).1 hrow
    rw [hentry c] at hd
    cases hd

theorem Stored.entry_of_not_live (h : w.Stored T) (ht : t ∉ w.hapTokenInfoMap) (c : Nat) : w.entry t c = none :=
  entry_eq_none_of_not_mem (fun hmem => ht (h.owned t hmem))

/-- **Loading a token**: one that is not in memory has no rows either. -/
theorem Stored.load (h : w.Stored T) (findOk : Bool) (id : AccessTokenID) :
    (getHapTokenInfoInner T w findOk id).2.Stored T := by
  have hlast := h.toLasting.load findOk id
  have hsound := h.toSound.load findOk id
  rcases getHapTokenInfoInner_cases T w findOk id with ⟨_, _, heq⟩ | ⟨hout, m, b, _, hb, heq⟩ |
    ⟨hout, _, row, basic, hrow, _, _, heq⟩
  · rw [heq]
    exact h
  · -- the data that is dropped is that of a token without any
    rw [heq] at hlast hsound ⊢
    obtain rfl : b = w.brief := by
      rwa [delete_of_not_mem (h.toSound.not_requested (not_mem_of_getElem? hout)), or_self] at hb
    exact { hlast, hsound with
      valueNames := h.valueNames, present := h.present, settled := h.settled, rowsMirror := h.rowsMirror }
  rw [heq] at hlast hsound ⊢
  have hnot := not_mem_of_getElem? hout
  have hnone : ∀ n, (w.db.permissionState id)[n]? = none :=
    (h.rowsMirror id).rows_of_no_entry (h.entry_of_not_live hnot)
  have hfind : w.db.findPermissionState id = [] := by
    refine List.eq_nil_iff_forall_not_mem.2 fun st hst => ?_
    rw [mem_findPermissionState, hnone] at hst
    cases hst
  obtain ⟨acl, hacl⟩ := h.values_read id
  have hbrief : (w.loadedFrom T basic id).brief = w.brief.addBriefPermDataByTokenId id [] := by
    change w.brief.restorePermissionBriefData T id (w.db.findPermissionState id) (w.db.findExtendValue id) = _
    rw [hfind]
    simp only [restorePermissionBriefData, hacl, restoreLoop]
  have hlist : ∀ x : AccessTokenID, (w.loadedFrom T basic id).requestedPermData[x]? =
      if x = id then some [] else w.requestedPermData[x]? := by
    intro x
    rw [hbrief, addBriefPermDataByTokenId_requested, getElem?_insert]
  refine { hlast, hsound with
    valueNames := h.valueNames
    present := fun x hx => ?_
    settled := fun x l hl => ?_
    rowsMirror := fun x => ?_ }
  · rw [hbrief, addBriefPermDataByTokenId_requested]
    exact mem_insert.2 ((mem_insert.1 hx).imp_right (h.present x))
  · rw [hlist] at hl
    split at hl
    · cases hl
      simp
    · exact h.settled x l hl
  · by_cases hx : x = id
    · subst hx
      refine RowsMirror.of_empty (fun c => ?_) hnone
      unfold entry
      rw [hlist, if_pos rfl]
      rfl
    · exact (h.rowsMirror x).congr (entry_congr (by rw [hlist, if_neg hx])) rfl

/-! ### One permission -/

/-- The permission of a row keeps its row: the entry is `f` of the old one, the row what such an entry is to have. -/
theorem RowsMirror.modify (h : RowsMirror T records b db t) (row' : PermStateRow) (hc : c < T.permList.length)
    (hentry : ∀ c', b'.entry t c' = if c = c' then (b.entry t c').map f else b.entry t c')
    (hrows : ∀ n : String, (db'.permissionState t)[n]? =
      if T.transferOpcodeToPermission c = n then ((db.permissionState t)[n]?).map fun _ => row'
      else (db.permissionState t)[n]?) (hrow : ∀ d, b.entry t c = some d → row' = storedRow records (f d)) :
    RowsMirror T records b' db' t := by
  intro n row
  rw [hrows n]
  by_cases hn : T.transferOpcodeToPermission c = n
  · rw [if_pos hn, Option.map_eq_some_iff]
    constructor
    · rintro ⟨row₀, hrow₀, rfl⟩
      obtain ⟨c', d, hd, hn', -⟩ := (h n row₀).1 hrow₀
      obtain rfl : c = c' := (transferOpcode_inj hc (hn.trans hn').symm).symm
      exact ⟨c, f d, by rw [hentry, if_pos rfl, hd]; rfl, hn.symm, hrow d hd⟩
    rintro ⟨c', d', hd', hn', rfl⟩
    have hcc : c = c' := by
      by_contra hne
      exact hne (transferOpcode_inj hc (hn.trans hn').symm).symm
    subst hcc
    rw [hentry, if_pos rfl] at hd'
    obtain ⟨d, hd, rfl⟩ := Option.map_eq_some_iff.1 hd'
    exact ⟨storedRow records d, (h n _).2 ⟨c, d, hd, hn', rfl⟩, hrow d hd⟩
  · rw [if_neg hn, h n row]
    constructor <;> rintro ⟨c', d, hd, hn', hrow'⟩ <;> refine ⟨c', d, ?_, hn', hrow'⟩
    · rw [hentry, if_neg (fun hcc => hn (by rw [hcc, hn']))]
      exact hd
    · rw [hentry, if_neg (fun hcc => hn (by rw [hcc, hn']))] at hd
      exact hd

theorem RowsMirror.keep (h : RowsMirror T records b db t)
    (hentry : ∀ c', b'.entry t c' = if c = c' then (b.entry t c').map f else b.entry t c')
    (hrows : db'.permissionState t = db.permissionState t)
    (hrow : ∀ d, b.entry t c = some d → storedRow records (f d) = storedRow records d) :
    RowsMirror T records b' db' t := by
  intro n row
  rw [hrows, h n row]
  refine exists_congr fun c' => ?_
  rw [hentry]
  split
  · rename_i hcc
    subst hcc
    constructor
    · rintro ⟨d, hd, hn, rfl⟩
      exact ⟨f d, by rw [hd]; rfl, hn, (hrow d hd).symm⟩
    · rintro ⟨d', hd', hn, rfl⟩
      obtain ⟨d, hd, rfl⟩ := Option.map_eq_some_iff.1 hd'
      exact ⟨d, hd, hn, hrow d hd⟩
  · rfl

theorem entry_grantedBrief {inner : HapTokenInfoInner} {n : String} {c : Nat} (g : Bool) (fl : Flag)
    (hc : T.transferPermissionToOpcode n = some c) (x : AccessTokenID) (c' : Nat) :
    (w.grantedBrief T inner n g fl).entry x c' =
      if inner.tokenID = x ∧ c = c' then
        (w.entry x c').map (grantedEntry g fl)
      else w.entry x c' := by
  by_cases hhit : (inner.tokenID = x ∧ c = c') ∧ (w.entry x c').isSome = true
  · obtain ⟨⟨rfl, rfl⟩, hd⟩ := hhit
    obtain ⟨d, hd⟩ := Option.isSome_iff_exists.1 hd
    rw [if_pos ⟨rfl, rfl⟩, hd]
    exact entry_updatePermissionStatus g fl hc hd
  -- there is no entry to change
  have hsame : ∀ f, (if inner.tokenID = x ∧ c = c' then (w.entry x c').map f
      else w.entry x c') = w.entry x c' := by
    intro f
    split
    · rename_i hkey
      rw [Option.not_isSome_iff_eq_none.1 fun hd => hhit ⟨hkey, hd⟩]
      rfl
    · rfl
  rw [hsame]
  unfold grantedBrief
  rcases PermissionDataBrief.updatePermissionStatus_cases inner.tokenID n g fl
    with heq | ⟨c₁, hc₁, ⟨_, d, _, _, _, heq⟩ | ⟨_, _, _, _, _, heq⟩⟩
  · rw [heq]
  · obtain rfl := Option.mem_unique hc hc₁
    rw [heq, entry_modifyEntry (updatedPermState_permCode g fl), hsame]
  · obtain rfl := Option.mem_unique hc hc₁
    rw [heq, entry_setSecComp, hsame]

theorem changeTypeOf_eq_noChange {a b : Int} {k k' : Flag} (h : changeTypeOf a b k k' = .noChange) :
    a = b ∧ k = k' := by
  unfold changeTypeOf at h
  split_ifs at h with hstatus _ hflag
  exact ⟨not_not.1 hstatus, not_not.1 hflag⟩

/-- **The write of one permission**: its states go to the rows, unless nothing was seen to change. -/
theorem updatePermissionStatus_db {env : Env} {inner : HapTokenInfoInner} {n : String} {c : Nat} (g : Bool) (fl : Flag)
    (hlocal : inner.isRemote = false) (hshort : isShortGrantPermission n = false)
    (hrow : (inner.tokenID, n) ∉ env.failingRows) (hc : T.transferPermissionToOpcode n = some c) :
    (updatePermissionStatus T w env inner n g fl).2.db =
        (w.grantedStates T inner n g fl).foldl (fun db s => db.modifyPermissionState inner.tokenID s) w.db ∨
      ((updatePermissionStatus T w env inner n g fl).2.db = w.db ∧ (w.grantedBrief T inner n g fl = w.brief ∨
          (w.verifyPermissionStatus inner.tokenID c =
              (w.grantedBrief T inner n g fl).verifyPermissionStatus inner.tokenID c ∧
            (w.queriedStatusAndFlag inner.tokenID c).2 =
              ((w.grantedBrief T inner n g fl).queriedStatusAndFlag inner.tokenID c).2))) := by
  have hne := @mem_requested_of_grantedBrief_ne T w inner n g fl
  have hsame : (w.brief.updatePermissionStatus T inner.tokenID n g fl).2.1 = .noChange →
      w.verifyPermissionStatus inner.tokenID c =
          (w.grantedBrief T inner n g fl).verifyPermissionStatus inner.tokenID c ∧
        (w.queriedStatusAndFlag inner.tokenID c).2 =
          ((w.grantedBrief T inner n g fl).queriedStatusAndFlag inner.tokenID c).2 := by
    simp only [grantedBrief, PermissionDataBrief.updatePermissionStatus, hc]
    exact changeTypeOf_eq_noChange
  unfold updatePermissionStatus grantedStates
  unfold grantedBrief at hne hsame ⊢
  dsimp only
  generalize w.brief.updatePermissionStatus T inner.tokenID n g fl = res at hne hsame ⊢
  obtain ⟨ret, ct, b⟩ := res
  cases ret with
  | error =>
    refine .inr ⟨rfl, .inl ?_⟩
    by_contra hb
    exact absurd (hne hb).1 (by simp)
  | ok u =>
    dsimp only at hne hsame ⊢
    rw [hshort, hlocal, Bool.false_or, Bool.false_or]
    split
    · rename_i hct
      exact .inr ⟨rfl, .inr (hsame (by simpa using hct))⟩
    cases hv : b.permissionStateValues T inner.tokenID with
    | none => exact .inl rfl
    | some =>
      have hok : env.failingRows.contains (inner.tokenID, n) = false := by simpa using hrow
      exact .inl (by simp only [writePermissionState, hok, Bool.false_eq_true, if_false, Option.getD_some])

/-- **The states written for one permission**: the state of its entry, if the token requests it. -/
theorem Stored.grantedStates_eq (h : w.Stored T)
    (hc : c < T.permList.length) (hn : n = T.transferOpcodeToPermission c) : w.grantedStates T inner n g fl =
      (((w.grantedBrief T inner n g fl).entry inner.tokenID c).map
        fun d => (⟨n, d.status, d.flag⟩ : PermissionStatus)).toList := by
  have hsound := h.brief.updatePermissionStatus inner.tokenID n g fl
  have hbrief : w.grantedBrief T inner n g fl =
    (w.brief.updatePermissionStatus T inner.tokenID n g fl).2.2 := rfl
  rw [← hbrief] at hsound
  unfold grantedStates
  cases hl : (w.grantedBrief T inner n g fl).requestedPermData[inner.tokenID]? with
  | none => simp [permissionStateValues, entry, hl]
  | some l =>
    have hgood := hsound.lists _ l hl
    have hvalues : (w.grantedBrief T inner n g fl).permissionStateValues T inner.tokenID =
        some (l.map fun d => ⟨T.transferOpcodeToPermission d.permCode, d.status, d.flag⟩) := by
      rw [permissionStateValues, hl, Option.map_some]
    have hnames : ((l.map fun d => (⟨T.transferOpcodeToPermission d.permCode, d.status, d.flag⟩ : PermissionStatus)).map
        (·.permissionName)).Nodup := by
      have hnd := hgood.names_nodup
      rw [List.map_map] at hnd ⊢
      exact hnd
    rw [hvalues, Option.getD_some, Lib.filter_key_eq_toList (fun s : PermissionStatus => s.permissionName) n hnames]
    cases hd : (w.grantedBrief T inner n g fl).entry inner.tokenID c with
    | some =>
      have hfind := stored_state_of_entry hsound hd
      rw [hvalues, Option.bind_some, ← hn] at hfind
      rw [hfind]
      rfl
    | none =>
      have hnone :
        (l.map fun d => (⟨T.transferOpcodeToPermission d.permCode, d.status, d.flag⟩ : PermissionStatus)).find?
          (fun s => s.permissionName == n) = none := by
        rw [entry, hl, Option.bind_some, List.find?_eq_none] at hd
        rw [List.find?_eq_none]
        intro s hs heq
        obtain ⟨d, hmem, rfl⟩ := List.mem_map.1 hs
        have hcode := transferOpcode_inj hc ((by simpa using heq : _ = n).trans hn)
        exact hd d hmem (by simp [hasCode, hcode])
      rw [hnone]
      rfl

/-- **What a change of a permission may ask for so that it reaches the row**: the permission by its own name and not one
for short grants, no temporary grant, and no change of a restricted permission unless the policy is persisted and the
change shows in the flag. -/
@[mk_iff]
structure StoresChange (T : PermissionTable) (env : Env) (g : Bool) (fl : Flag) (w : Service)
    (inner : HapTokenInfoInner) (n : String) : Prop where
  name : cStr n = n
  lasting : isShortGrantPermission n = false
  row : (inner.tokenID, n) ∉ env.failingRows
  notTemporary : g = true → hasAny fl permissionAllowThisTime = true → isPermGrantedBySecComp fl = true
  policy : ∀ c ∈ T.transferPermissionToOpcode n, ∀ d ∈ w.entry inner.tokenID c,
    isRestricted d.flag = true ∨ isRestricted fl = true →
      isPolicyPersisted w.policy.records c = true ∧
      (isPermGrantedBySecComp fl = true ∨ updateWithNewFlag d.flag fl ≠ d.flag ∨
        d.status = if g then permissionGranted else permissionDenied)

theorem restricted_of_grantedEntry (h : isRestricted (grantedEntry g fl d).flag = true) :
    isRestricted d.flag = true ∨ isRestricted fl = true := by
  unfold grantedEntry at h
  split_ifs at h
  · exact .inl h
  · exact .inl h
  · exact .inl (by rw [isRestricted_withComponentFlag] at h; exact h)
  · exact .inl (by rw [isRestricted_withComponentFlag] at h; exact h)
  · have hor : isRestricted (updateWithNewFlag d.flag fl) = true := h
    rw [isRestricted_updateWithNewFlag, Bool.or_eq_true] at hor
    exact hor.symm
  · exact .inl h

/-- A valid flag that allows a temporary grant does not cancel an administrator's policy. -/
theorem not_cancel_of_temp (hfl : isPermissionFlagValid fl = true)
    (htemp : hasAny fl permissionAllowThisTime = true) : fl &&& permissionAdminPoliciesCancel = 0 := by
  have hbase : ∀ k : Flag, ~~~additiveFlags &&& k = k → hasAny fl k = hasAny (fl &&& ~~~additiveFlags) k := by
    intro k hk
    rw [Lib.hasAny_and, hk]
  rw [hbase _ (by decide)] at htemp
  refine Lib.hasAny_eq_false.1 ?_
  rw [hbase _ (by decide)]
  revert htemp
  unfold additiveFlags
  simp only [isPermissionFlagValid, Bool.or_eq_true, beq_iff_eq] at hfl
  rcases hfl with ((((((h | h) | h) | h) | h) | h) | h) | h <;> rw [h] <;> decide

theorem Settled.component (h : Settled d) {b : Bool} : Settled (withComponentFlag b d) := by
  intro hb
  refine h ?_
  cases b with
  | true =>
    have hor : hasAny (d.flag ||| permissionComponentSet) permissionAllowThisTime = true := hb
    rwa [Lib.hasAny_or, show hasAny permissionComponentSet permissionAllowThisTime = false by decide,
      Bool.or_false] at hor
  | false =>
    have hand : hasAny (d.flag &&& ~~~permissionComponentSet) permissionAllowThisTime = true := hb
    rw [Lib.hasAny_and] at hand
    exact hand

theorem settled_updated (hfl : isPermissionFlagValid fl = true)
    (htemp : g = true → hasAny fl permissionAllowThisTime = true → isPermGrantedBySecComp fl = true)
    (hc : isPermGrantedBySecComp fl = false) : Settled (updatedPermState g fl d) := by
  intro hbit
  have hor : hasAny (updateWithNewFlag d.flag fl) permissionAllowThisTime = true := hbit
  rw [updateWithNewFlag, Lib.hasAny_or, Lib.hasAny_and] at hor
  have hzero : (permissionPreAuthorizedCancelable ||| permissionRestrictedByAdmin) &&&
      permissionAllowThisTime = 0#32 := by
    decide
  rw [hzero, Lib.hasAny_zero, Bool.or_false] at hor
  have hcancel := not_cancel_of_temp hfl hor
  have hg : g = false := by
    cases g with
    | false => rfl
    | true => exact absurd (htemp rfl hor) (by simp [hc])
  simp [updatedPermState, hcancel, hg]

/-- A change the service does not see leaves status and flag alone, except under the user policy. -/
theorem storedRow_of_unseen (hstatus : getEffectivePermissionStatus d =
      getEffectivePermissionStatus (grantedEntry g fl d))
    (hflag : d.flag = (grantedEntry g fl d).flag)
    (hpolicy : isRestricted d.flag = true → isPermGrantedBySecComp fl = true ∨ updateWithNewFlag d.flag fl ≠ d.flag ∨
      d.status = if g then permissionGranted else permissionDenied) :
    storedRow records (grantedEntry g fl d) = storedRow records d := by
  suffices hst : (grantedEntry g fl d).status = d.status by
    unfold storedRow storedFlag
    rw [hst, ← hflag, grantedEntry_permCode]
  revert hstatus hflag
  unfold grantedEntry
  split_ifs with hc
  · exact fun _ _ => rfl
  · exact fun _ _ => rfl
  · exact fun _ _ => rfl
  · exact fun _ _ => rfl
  · intro hstatus hflag
    have hnew : (updatedPermState g fl d).status = d.status ∨
        (updatedPermState g fl d).status = if g then permissionGranted else permissionDenied := by
      unfold updatedPermState
      split
      · exact .inr rfl
      · exact .inl rfl
    have hkept : updateWithNewFlag d.flag fl = d.flag := hflag.symm
    cases hr : isRestricted d.flag with
    | true =>
      have hsame := ((hpolicy hr).resolve_left hc).resolve_left (fun hne => hne hkept)
      exact hnew.elim id fun h => h.trans hsame.symm
    | false =>
      -- without the policy's and the component's bit the effective status is the stored one
      have hcomp : isPermGrantedBySecComp d.flag = false := by
        rw [← hkept, isPermGrantedBySecComp_updateWithNewFlag]
        simpa using hc
      have heff : ∀ e : BriefPermData, e.flag = d.flag → getEffectivePermissionStatus e = e.status := by
        intro e he
        simp [getEffectivePermissionStatus, effectiveStatus, he, hr, hcomp]
      rw [heff d rfl, heff _ hflag.symm] at hstatus
      exact hstatus.symm
  · exact fun _ _ => rfl

/-- **A change of one permission** that reaches its row. -/
theorem Stored.updateAndNotify (h : w.Stored T)
    (hget : w.hapTokenInfoMap[t]? = some inner) (hfl : isPermissionFlagValid fl = true)
    (hok : StoresChange T env g fl w inner n) : (updateAndNotify T w env inner n g fl).2.Stored T := by
  have hlast := h.toLasting.updateAndNotify env inner n g hfl
  have hsound := h.toSound.updateAndNotify env inner n g fl
  have hid : inner.tokenID = t := h.keyed t inner hget
  have hwritten := fun c =>
    @updatePermissionStatus_db T w env inner n c g fl (h.localOnly t inner hget) hok.lasting hok.row
  have hdb := (updateAndNotify_stores T w env inner n g fl).2
  rcases updateAndNotify_cases T w env inner n g fl with ⟨e, heq⟩ | ⟨c, db, hc, _, heq⟩
  · rw [heq]
    exact h
  rw [heq] at hlast hsound hdb ⊢
  have hdb : db = (updatePermissionStatus T w env inner n g fl).2.db := hdb
  have hlt := code_lt_of_transfer hc
  have hn : n = T.transferOpcodeToPermission c := by
    rw [transferOpcode_of_transfer hc, hok.name]
  have hentry := fun x c' => @entry_grantedBrief T w inner n c g fl hc x c'
  rw [hid] at hentry
  have hvalues : db.extendValue = w.db.extendValue := by
    rcases hwritten c hc with hall | ⟨hall, -⟩
    · rw [hdb, hall]
      exact Database.foldl_modify_extendValue
    · rw [hdb, hall]
  refine { hlast, hsound with
    valueNames := fun x n hx => h.valueNames x n (by rw [← hvalues]; exact hx)
    present := fun x hx => mem_grantedBrief.2 (h.present x hx)
    settled := h.settled.updatePermissionStatus (fun hc d _ => settled_updated hfl hok.notTemporary hc)
      fun _ hd => hd.component
    rowsMirror := fun x => ?_ }
  · by_cases hx : t = x
    · subst hx
      have hentry' : ∀ c', (w.grantedBrief T inner n g fl).entry t c' =
          if c = c' then (w.entry t c').map (grantedEntry g fl) else w.entry t c' := by
        intro c'
        rw [hentry t c']
        simp
      have hpolicy : ∀ d, w.entry t c = some d → _ := fun d hd => hok.policy c hc d (by rw [hid]; exact hd)
      rcases hwritten c hc with hall | ⟨hall, hunseen⟩
      · rw [h.grantedStates_eq hlt hn, hid, hentry' c, if_pos rfl] at hall
        cases hd : w.entry t c with
        | none =>
          rw [hd] at hall
          refine (h.rowsMirror t).congr (fun c' => ?_) (by rw [hdb, hall]; rfl)
          rw [hentry' c']
          split
          · rename_i hcc
            rw [← hcc, hd]
            rfl
          · rfl
        | some d =>
          rw [hd] at hall
          refine (h.rowsMirror t).modify ⟨(grantedEntry g fl d).status, (grantedEntry g fl d).flag⟩ hlt hentry'
            (fun n' => ?_) fun d' hd' => ?_
          · rw [hdb, hall]
            rw [← hn]
            exact Database.modifyPermissionState_row ⟨n, (grantedEntry g fl d).status, (grantedEntry g fl d).flag⟩ n'
          · obtain rfl := Option.mem_unique hd hd'
            unfold storedRow
            rw [storedFlag_of_persisted fun hr => ?_]
            rw [grantedEntry_permCode, permCode_of_entry hd]
            exact (hpolicy d hd (restricted_of_grantedEntry hr)).1
      · refine (h.rowsMirror t).keep hentry' (by rw [hdb, hall]) fun d hd => ?_
        rcases hunseen with hsame | ⟨hverify, hflag⟩
        · have hd' := hentry' c
          rw [hsame, if_pos rfl, hd, Option.map_some] at hd'
          rw [← Option.some.inj hd']
        rw [hid] at hverify hflag
        have hd' : (w.grantedBrief T inner n g fl).entry t c = some (grantedEntry g fl d) := by
          rw [hentry' c, if_pos rfl, hd]
          rfl
        rw [verifyPermissionStatus_of_entry hd, verifyPermissionStatus_of_entry hd']
          at hverify
        rw [queriedStatusAndFlag_of_entry hd, queriedStatusAndFlag_of_entry hd']
          at hflag
        exact storedRow_of_unseen hverify hflag fun hr => (hpolicy d hd (.inl hr)).2
    · refine (h.rowsMirror x).congr (fun c' => ?_) ?_
      · exact (hentry x c').trans (if_neg fun hh => hx hh.1)
      rcases hwritten c hc with hall | ⟨hall, -⟩
      · rw [hdb, hall, hid]
        exact List.foldlRecOn (motive := fun (db' : Database) => db'.permissionState x = w.db.permissionState x) _ _ rfl
          fun db' hdb' s _ => (Database.modifyPermissionState_of_ne (Ne.symm hx)).trans hdb'
      · rw [hdb, hall]

/-! ### Resets -/

/-- An entry outside the DLP range whose reset memory and row agree on: it ends denied, or under exactly the flag for
which the merge takes the filtered state. -/
def FilterKept (d : BriefPermData) : Prop :=
  if hasAny d.flag permissionSystemFixed then d.status = permissionDenied ∨ d.flag = permissionSystemFixed
  else if hasAny d.flag permissionPreAuthorizedCancelable then
    hasAny d.flag (permissionFixedByAdminPolicy ||| permissionRestrictedByAdmin) = false
  else hasAny d.flag (permissionFixedByAdminPolicy ||| permissionRestrictedByAdmin) = true → d.status = permissionDenied

instance (d : BriefPermData) : Decidable (FilterKept d) := by
  unfold FilterKept
  infer_instance

theorem FilterKept.reset (h : FilterKept d) :
    (resetPermState d).status = permissionDenied ∨ (resetPermState d).flag = permissionSystemFixed ∨
      (resetPermState d).flag = permissionPreAuthorizedCancelable := by
  unfold FilterKept at h
  unfold resetPermState
  dsimp only
  split_ifs at h ⊢ with h₁ h₂ h₃ h₄
  · exact h.imp id .inl
  · refine .inr (.inr ?_)
    rw [Lib.hasAny_eq_false.1 h]
    simp
  · exact .inl (h (by rw [Lib.hasAny_or_right, h₃, Bool.true_or]))
  · exact .inl (h (by rw [Lib.hasAny_or_right, h₄, Bool.or_true]))
  · exact .inl rfl

/-- **The entries of a token a reset may be asked for**: no row of theirs fails, a restricted one is under a persisted
policy, and the DLP filter does not part memory and row. -/
def ResetsStored (T : PermissionTable) (D : DlpPermissionModeMap) (env : Env) (w : Service)
    (x : AccessTokenID) : Prop :=
  ∀ info ∈ w.hapTokenInfoMap[x]?, ∀ d ∈ w.requestedPermData.getD x [],
    (x, T.transferOpcodeToPermission d.permCode) ∉ env.failingRows ∧
    (isRestricted d.flag = true → isPolicyPersisted w.policy.records d.permCode = true) ∧
    (isPermissionAvailableToDlpHap T D info.dlpType d.permCode = true ∨ FilterKept d)

instance (T : PermissionTable) (D : DlpPermissionModeMap) (env : Env) (w : Service) (x : AccessTokenID) :
    Decidable (ResetsStored T D env w x) := Option.decidableForallMem w.hapTokenInfoMap[x]?

theorem Settled.reset (h : Settled d) : Settled (resetPermState d) := by
  unfold resetPermState
  dsimp only
  split_ifs
  · exact h
  · intro hbit
    rw [Lib.hasAny_or, Lib.hasAny_and,
      show hasAny permissionPreAuthorizedCancelable permissionAllowThisTime = false by decide, Bool.false_or] at hbit
    exact absurd hbit (by
      rw [show (permissionFixedByAdminPolicy ||| permissionRestrictedByAdmin) &&& permissionAllowThisTime =
        0#32 by decide, Lib.hasAny_zero]
      decide)
  · exact h
  · exact h
  · exact fun _ => rfl

/-- What a reset leaves of an entry: its flag is the one it was reset to, its status that or denied. -/
theorem resetEntry_spec (hd : LastingEntry T d) (D : DlpPermissionModeMap) (dlpType : Int32) :
    (resetEntry T D dlpType d).permCode = d.permCode ∧ (resetEntry T D dlpType d).flag = (resetPermState d).flag ∧
      ((resetEntry T D dlpType d).status = (resetPermState d).status ∨
        (resetEntry T D dlpType d).status = (resetState T D dlpType d).grantStatus) ∧
      ((resetPermState d).flag = permissionSystemFixed ∨ (resetPermState d).flag = permissionPreAuthorizedCancelable →
        (resetEntry T D dlpType d).status = (resetState T D dlpType d).grantStatus) := by
  obtain ⟨d₀, hbrief, hcode, hstatus, hflag⟩ := (hd.stateOf_reset D dlpType).brief hd
  have hflag : d₀.flag = (resetPermState d).flag := hflag
  have hjoin : getFlagWithoutSpecifiedElement (resetPermState d).flag permissionRestrictedByAdmin |||
      ((resetPermState d).flag &&& permissionRestrictedByAdmin) = (resetPermState d).flag := by
    refine BitVec.eq_of_getLsbD_eq fun i hi => ?_
    simp only [getFlagWithoutSpecifiedElement, BitVec.getLsbD_or, BitVec.getLsbD_and, BitVec.getLsbD_not,
      hi, decide_true, Bool.true_and]
    cases (resetPermState d).flag.getLsbD i <;> cases permissionRestrictedByAdmin.getLsbD i <;> rfl
  unfold resetEntry
  rw [hbrief, Option.getD_some]
  unfold updatePermStatus
  split
  · exact ⟨hcode, hflag, .inr hstatus, fun _ => hstatus⟩
  · rename_i hkeep
    refine ⟨hcode, by dsimp only; rw [hflag, hjoin], .inl rfl, fun hexact => absurd ?_ hkeep⟩
    simp only [keepsInitializedState, Bool.or_eq_true, beq_iff_eq]
    exact .inr hexact

/-- **The row a reset writes is the one its entry is to have.** -/
theorem storedRow_resetEntry (hd : LastingEntry T d) {dlpType : Int32}
    (hpolicy : isRestricted d.flag = true → isPolicyPersisted records d.permCode = true)
    (hrange : isPermissionAvailableToDlpHap T D dlpType d.permCode = true ∨ FilterKept d) :
    (⟨(resetState T D dlpType d).grantStatus, (resetState T D dlpType d).grantFlag⟩ : PermStateRow) =
      storedRow records (resetEntry T D dlpType d) := by
  obtain ⟨hcode, hflag, hstatus, hexact⟩ := resetEntry_spec hd D dlpType
  have hfl : storedFlag records (resetEntry T D dlpType d) = (resetPermState d).flag := by
    rw [storedFlag_of_persisted, hflag]
    rw [hflag, hcode]
    exact fun hr => hpolicy (by rwa [isRestricted_resetPermState] at hr)
  have hsame : (resetPermState d).status = (resetState T D dlpType d).grantStatus →
      (resetEntry T D dlpType d).status = (resetState T D dlpType d).grantStatus := fun heq =>
    hstatus.elim (fun h => h.trans heq) id
  unfold storedRow
  rw [hfl]
  suffices hst : (resetEntry T D dlpType d).status = (resetState T D dlpType d).grantStatus by
    rw [hst]
    rfl
  rcases hrange with havailable | hkept
  · refine hsame ?_
    have hto := transferPermissionToOpcode_transferOpcode hd.code
    rw [isPermissionAvailableToDlpHap_of_transfer hto (transferOpcode_of_transfer hto).symm] at havailable
    simp [resetState, havailable]
  · rcases hkept.reset with hdenied | hfixed
    · exact hsame (by simp [resetState, hdenied])
    · exact hexact hfixed

theorem Stored.clearUserGrantedPermission (h : w.Stored T) (hlive : id ∈ w.hapTokenInfoMap)
    (hok : ResetsStored T D env w id) : (clearUserGrantedPermission T D w env id).2.Stored T := by
  have hlast := h.toLasting.clearUserGrantedPermission (D := D) env id
  have hsound := h.toSound.clearUserGrantedPermission (D := D) env id
  obtain ⟨inner, hget⟩ := Lib.mem_iff_exists.1 hlive
  obtain rfl : inner.tokenID = id := h.keyed id inner hget
  have hmem := h.present _ hlive
  obtain ⟨l, hl⟩ := Lib.mem_iff_exists.1 hmem
  have hentries := h.entries _ l hl
  have hgood := h.brief.lists _ l hl
  have hstates := resetStates_eq T D hl
  have hok : ∀ d ∈ l, _ := fun d hd => hok inner hget d (by rw [getD_eq_getD_getElem?, hl]; exact hd)
  have hwritten := updateStatesToDB_of_rows env.failingRows (resetStates T D w inner) w.db fun s hs => by
      rw [hstates] at hs
      obtain ⟨d, hd, rfl⟩ := List.mem_map.1 hs
      exact (hok d hd).1
  have hnames : ((resetStates T D w inner).map (·.permissionName)).Nodup := by
    rw [resetStates_names hl]
    exact hgood.names_nodup
  obtain ⟨hother, hrow⟩ := Database.updateStatesToDB_rows _ w.db hnames hwritten
  have hvalues := Database.updateStatesToDB_extendValue (t := inner.tokenID) env.failingRows
    (resetStates T D w inner) w.db
  obtain ⟨-, hothers, -⟩ := resetBrief_eq T D hl
  obtain ⟨k, hafter⟩ := clearUserGrantedPermission_of_live (T := T) D env hget (h.localOnly _ inner hget) hmem
  rw [hafter] at hlast hsound ⊢
  refine { hlast, hsound with
    valueNames := fun x n hx => h.valueNames x n (by rw [← hvalues]; exact hx)
    present := fun x hx => mem_resetBrief hmem (h.present x hx)
    settled := fun x l' hl' d' hd' => ?_
    rowsMirror := fun x => ?_ }
  · by_cases hx' : x = inner.tokenID
    · subst hx'
      have hd := entry_of_mem hl' (hsound.brief.lists _ l' hl').nodup hd'
      rw [entry_resetBrief_eq h.entries hmem] at hd
      obtain ⟨d, hd, rfl⟩ := Option.map_eq_some_iff.1 hd
      obtain ⟨l₀, hl₀, hmem₀⟩ := mem_of_entry hd
      obtain ⟨-, hflag, hstatus, -⟩ := resetEntry_spec (h.entries _ l₀ hl₀ d hmem₀) D inner.dlpType
      intro htemp
      rw [hflag] at htemp
      have hdenied := (h.settled _ l₀ hl₀ d hmem₀).reset htemp
      rcases hstatus with hst | hst
      · exact hst.trans hdenied
      · rw [hst]
        simp [resetState, hdenied]
    · exact h.settled x l' ((hothers x hx').symm.trans hl') d' hd'
  by_cases hx' : x = inner.tokenID
  · subst hx'
    have hmirror := h.rowsMirror inner.tokenID
    have hkey : ∀ d ∈ l, (resetStates T D w inner).find? (·.permissionName == T.transferOpcodeToPermission d.permCode) =
          some (resetState T D inner.dlpType d) := by
      intro d hd
      exact Lib.find?_key_of_mem hnames (by rw [hstates]; exact List.mem_map.2 ⟨d, hd, rfl⟩)
    have hentry : ∀ c d, w.entry inner.tokenID c = some d → d ∈ l ∧ d.permCode = c := by
      intro c d hd
      obtain ⟨l', hl', hmem'⟩ := mem_of_entry hd
      obtain rfl := Option.mem_unique hl hl'
      exact ⟨hmem', permCode_of_entry hd⟩
    have hnewRow : ∀ d ∈ l, (⟨(resetState T D inner.dlpType d).grantStatus,
        (resetState T D inner.dlpType d).grantFlag⟩ : PermStateRow) =
          storedRow w.policy.records (resetEntry T D inner.dlpType d) := fun d hd =>
      storedRow_resetEntry (hentries d hd) (hok d hd).2.1 (hok d hd).2.2
    intro n row
    rw [hrow n]
    constructor
    · intro hrow'
      cases hold : (w.db.permissionState inner.tokenID)[n]? with
      | none =>
        rw [hold] at hrow'
        split at hrow' <;> cases hrow'
      | some old =>
        obtain ⟨c, d, hd, rfl, -⟩ := (hmirror n old).1 hold
        obtain ⟨hdl, rfl⟩ := hentry c d hd
        rw [hkey d hdl, hold] at hrow'
        have hrow' := Option.some.inj hrow'
        refine ⟨d.permCode, resetEntry T D inner.dlpType d, ?_, rfl, ?_⟩
        · rw [entry_resetBrief_eq h.entries hmem, hd]
          rfl
        · rw [← hrow', hnewRow d hdl]
    · rintro ⟨c, d', hd', rfl, rfl⟩
      rw [entry_resetBrief_eq h.entries hmem] at hd'
      obtain ⟨d, hd, rfl⟩ := Option.map_eq_some_iff.1 hd'
      obtain ⟨hdl, rfl⟩ := hentry c d hd
      rw [hkey d hdl, (hmirror _ _).2 ⟨d.permCode, d, hd, rfl, rfl⟩]
      exact congrArg some (hnewRow d hdl)
  · exact (h.rowsMirror x).congr (entry_congr (hothers x hx')) (hother x hx')

theorem Stored.clearUserGrantedPermissionState (h : w.Stored T)
    (hok : ∀ x ∈ id :: (getHapTokenInfoInner T w env.findOk id).2.getRelatedSandBoxHapList id,
      ResetsStored T D env (getHapTokenInfoInner T w env.findOk id).2 x) :
    (clearUserGrantedPermissionState T D w env id).2.Stored T := by
  refine clearUserGrantedPermissionState_invariant (fun _ hw => hw.toLasting) (fun w id hw => hw.load env.findOk id)
    (fun w x hw hlive hsafe => hw.clearUserGrantedPermission hlive hsafe)
    (fun w w' y hmap hpolicy hlist hsafe => ?_) h hok
  unfold ResetsStored at hsafe ⊢
  rw [hmap, hpolicy, getD_eq_getD_getElem?, hlist, ← getD_eq_getD_getElem?]
  exact hsafe

/-! ### Whole tokens -/

/-- The value rows after a token is stored: those that were there, and the values of the token. -/
theorem extendValue_of_stored {isUpdate : Bool}
    (hok : addHapTokenInfoToDb T w dbOk info isUpdate = (.ok (), { w with db := db })) {x : AccessTokenID}
    (hn : n ∈ db.extendValue x) :
    n ∈ w.db.extendValue x ∨
      ∃ v ∈ w.getExtendedValueList T info.tokenID, v.permissionName = n := by
  obtain ⟨-, rfl⟩ := insertedDb_of_stored hok
  have hcleared : ∀ y m, m ∈ (w.clearedDb info isUpdate).extendValue y → m ∈ w.db.extendValue y := by
    intro y m hm
    rw [clearedDb_extendValue] at hm
    split at hm
    · rw [update_apply] at hm
      split at hm
      · simp at hm
      · exact hm
    · exact hm
  rw [insertedDb, Database.insertToken] at hn
  dsimp only at hn
  rw [update_apply] at hn
  split at hn
  · rename_i hx
    rw [hx]
    exact (Database.insertExtendValues_names hn).imp_left (hcleared _ n)
  · exact .inl (hcleared x n hn)

theorem isPermissionNameValid_of_value (h : ValuesInTable T s.extendedValue)
    {v : PermissionWithValue} (hv : v ∈ s.getExtendedValueList T t) :
    isPermissionNameValid v.permissionName = true := by
  obtain ⟨⟨key, value⟩, hkey, rfl⟩ := List.mem_map.1 hv
  refine isPermissionNameValid_transferOpcode (h key (mem_iff_isSome_getElem?.2 ?_))
  rw [mem_toList_iff_getElem?_eq_some.1 (List.mem_of_mem_filter hkey)]
  rfl

theorem mem_storedStates_iff (hl : w.requestedPermData[t]? = some l)
    (hgood : GoodList T l) {s : PermissionStatus} :
    s ∈ w.storedStates T t ↔
      ∃ d ∈ l, s = ⟨T.transferOpcodeToPermission d.permCode, d.status, storedFlag w.policy.records d⟩ := by
  unfold storedStates clearNonPersistedUserPolicyFlags permissionStateValues
  rw [hl, Option.map_some, Option.getD_some, List.map_map, List.mem_map]
  refine exists_congr fun d => and_congr_right fun hd => ?_
  dsimp only [Function.comp_apply]
  rw [transferPermissionToOpcode_transferOpcode (hgood.inTable d hd)]
  dsimp only
  unfold storedFlag
  split <;> exact eq_comm

/-- **A token written whole** has its entries in its rows, if it had no rows before. -/
theorem RowsMirror.of_inserted
    (hl : w.requestedPermData[t]? = some l) (hgood : GoodList T l) (hold : ∀ n : String, old[n]? = none)
    (hstate : db.permissionState t = Database.insertPermStates old (w.storedStates T t)) :
    RowsMirror T w.policy.records w.brief db t := by
  intro n row
  rw [hstate]
  constructor
  · intro hrow
    rcases Database.insertPermStates_row hrow with hnone | ⟨s, hs, rfl, rfl⟩
    · rw [hold n] at hnone
      cases hnone
    · obtain ⟨d, hd, rfl⟩ := (mem_storedStates_iff hl hgood).1 hs
      exact ⟨d.permCode, d, entry_of_mem hl hgood.nodup hd, rfl, rfl⟩
  · rintro ⟨c, d, hd, rfl, rfl⟩
    obtain ⟨l', hl', hmem⟩ := mem_of_entry hd
    obtain rfl := Option.mem_unique hl hl'
    have hown := (mem_storedStates_iff hl hgood).2 ⟨d, hmem, rfl⟩
    have hcode := permCode_of_entry hd
    -- the state that was written last under the name is the one of the entry, as each code occurs once
    rcases Database.getElem?_insertPermStates old (w.storedStates T t) (T.transferOpcodeToPermission c) with
      ⟨s, hs, hname, hget⟩ | ⟨hno, -⟩
    · obtain ⟨d', hd', rfl⟩ := (mem_storedStates_iff hl hgood).1 hs
      have hsame : d'.permCode = c := (transferOpcode_inj (hgood.inTable d' hd') hname.symm).symm
      have hentry := entry_of_mem hl hgood.nodup hd'
      rw [hsame, hd] at hentry
      cases hentry
      exact hget
    · exact absurd (List.mem_map.2 ⟨_, hown, congrArg T.transferOpcodeToPermission hcode⟩) hno

def NotTemporary (s : PermissionStatus) : Prop :=
  hasAny s.grantFlag permissionAllowThisTime = true → s.grantStatus = permissionDenied
deriving Decidable

theorem NotTemporary.settled {s : PermissionStatus} (h : NotTemporary s) (hd : briefPermDataOf T s = some d) :
    Settled d := by
  obtain ⟨hstatus, hflag, -, -⟩ := briefPermDataOf_eq_some hd
  intro htemp
  rw [hflag] at htemp
  exact hstatus.trans (h htemp)

theorem Settled.withPolicyFlag (h : Settled d) {u : Int32} : Settled (withPolicyFlag records t u d) := by
  intro htemp
  refine h ?_
  unfold UserPolicyManager.withPolicyFlag UserPolicyManager.policyFlag at htemp
  split at htemp
  · rwa [Lib.hasAny_or, show hasAny permissionRestrictedByAdmin permissionAllowThisTime = false by decide,
      Bool.or_false] at htemp
  · rw [getFlagWithoutSpecifiedElement, Lib.hasAny_and] at htemp
    exact htemp

theorem Settled.merge {n : BriefPermData} (hn : Settled n) {old : List BriefPermData} (hold : ∀ o ∈ old, Settled o)
    {need : Bool} : Settled (mergeOnUpdate old need n) := by
  unfold mergeOnUpdate
  split
  · exact hn
  rename_i o ho
  split
  · exact hn
  unfold updatePermStatus
  split
  · exact hn
  intro htemp
  refine hold o (List.mem_of_find?_eq_some ho) ?_
  rw [Lib.hasAny_or, getFlagWithoutSpecifiedElement, Lib.hasAny_and, Lib.hasAny_and,
    show permissionRestrictedByAdmin &&& permissionAllowThisTime = 0#32 by decide, Lib.hasAny_zero,
    Bool.or_false] at htemp
  exact htemp

theorem settled_of_installed (ht : getTokenIdTypeEnum t = .tokenHap) {info : HapInfoParams}
    (h : ∀ s ∈ policy.permStateList, NotTemporary s) :
    ∀ d ∈ addedList T t (initialStates T D w t info policy) true, Settled d := by
  intro d hd
  unfold addedList keptPermStates initialStates at hd
  rw [if_pos rfl, ht] at hd
  obtain ⟨st, hst, d₀, hbrief, rfl⟩ := mem_adjusted hd
  refine (NotTemporary.settled ?_ hbrief).withPolicyFlag
  unfold installStates at hst
  split at hst
  · obtain ⟨s, hs, rfl⟩ := List.mem_map.1 hst
    split
    · exact h s hs
    · split
      · exact h s hs
      · exact fun _ => rfl
  · exact h st hst

theorem Stored.removed (h : w.Stored T) (hget : w.hapTokenInfoMap[t]? = some info) (hr : Removed w t info false w')
    (hrows : w'.db.permissionState = Function.update w.db.permissionState t ∅)
    (hvalues : ∀ x n, n ∈ w'.db.extendValue x → n ∈ w.db.extendValue x) : w'.Stored T := by
  have hid : info.tokenID = t := h.keyed t info hget
  have hother := fun x (hx : x ≠ t) => (hr.of_ne hid hx).2.1
  have hlast := h.toLasting.removed hget hr
  have hgone : t ∉ w'.hapTokenInfoMap := by
    rw [hr.infoMap]
    simp
  refine { hlast, h.toSound.removed hget hr with
    valueNames := fun x n hx => h.valueNames x n (hvalues x n hx)
    present := fun x hx => ?_
    settled := fun x l hl => ?_
    rowsMirror := fun x => ?_ }
  · obtain ⟨hne, hx⟩ := hr.mem hx
    have hpresent := mem_iff_isSome_getElem?.1 (h.present x hx)
    rw [← hother x hne] at hpresent
    exact mem_iff_isSome_getElem?.2 hpresent
  · have hne : x ≠ t := by
      rintro rfl
      exact hgone (hlast.owned x (mem_iff_isSome_getElem?.2 (by rw [hl]; rfl)))
    exact h.settled x l ((hother x hne).symm.trans hl)
  rw [hr.policy]
  by_cases hx : x = t
  · subst hx
    refine RowsMirror.of_empty (fun c => ?_) fun n => ?_
    · exact entry_eq_none_of_not_mem (fun hmem => hgone (hlast.owned x hmem))
    · rw [hrows, update_self]
      simp
  · exact (h.rowsMirror x).congr (entry_congr (hother x hx)) (by rw [hrows, update_of_ne hx])

theorem removeHapTokenInfo_deleted {held reserved : Bool}
    (hinfo : w.hapTokenInfoMap[id]? = some info) (hid : info.tokenID = id)
    (h : w.removeHapTokenInfo true held id reserved = (.ok (), w')) :
    w'.db.permissionState = Function.update w.db.permissionState id ∅ ∧
      w'.db.extendValue = Function.update w.db.extendValue id ∅ := by
  obtain ⟨-, info', w₁, hinfo', -, -, -, hdb, hw'⟩ := removeHapTokenInfo_parts h
  obtain rfl := Option.mem_unique hinfo hinfo'
  rw [hw']
  unfold removeHapTokenInfoFromDb
  rw [if_neg (by decide), hid, hdb]
  split <;> exact ⟨rfl, rfl⟩

/-- **A list written with its rows**: the token has a new list with a row for each permission, and the others keep
theirs. -/
theorem Stored.rewritten (h : w.Stored T) (hlast : w'.Lasting T) (hsound : w'.Sound T) (hpolicy : w'.policy = w.policy)
    (hreq : w'.requestedPermData = w.requestedPermData.insert t l)
    (hlive : ∀ x, x ≠ t → x ∈ w'.hapTokenInfoMap → x ∈ w.hapTokenInfoMap) (hsettled : ∀ d ∈ l, Settled d)
    (hvalues : ∀ x n, n ∈ w'.db.extendValue x → n ∈ w.db.extendValue x ∨ isPermissionNameValid n = true)
    (hold : ∀ n : String, old[n]? = none) (hstate : w'.db.permissionState =
      Function.update w.db.permissionState t (Database.insertPermStates old (w'.storedStates T t))) : w'.Stored T := by
  have hown : w'.requestedPermData[t]? = some l := by rw [hreq, getElem?_insert_self]
  have hother : ∀ x : AccessTokenID, x ≠ t → w'.requestedPermData[x]? = w.requestedPermData[x]? :=
    fun x hx => by rw [hreq, Lib.getElem?_insert_of_ne hx]
  refine { hlast, hsound with
    valueNames := fun x n hx => (hvalues x n hx).elim (h.valueNames x n) id
    present := fun x hx => ?_
    settled := fun x l' hl' => ?_
    rowsMirror := fun x => ?_ }
  all_goals by_cases hxt : x = t
  · exact hxt ▸ mem_iff_isSome_getElem?.2 (Option.isSome_iff_exists.2 ⟨l, hown⟩)
  · rw [hreq]
    exact mem_insert.2 (.inr (h.present x (hlive x hxt hx)))
  · subst hxt
    obtain rfl := Option.mem_unique hown hl'
    exact hsettled
  · exact h.settled x l' ((hother x hxt).symm.trans hl')
  · subst hxt
    refine RowsMirror.of_inserted hown (hsound.brief.lists x l hown) hold ?_
    rw [hstate]
    exact update_self ..
  · rw [hpolicy]
    refine (h.rowsMirror x).congr (entry_congr (hother x hxt)) ?_
    rw [hstate]
    exact update_of_ne hxt ..

theorem Stored.installed (h : w.Stored T) (hnew : t ∉ w.hapTokenInfoMap)
    (hform : AccessTokenIDManager.WellFormedId t .tokenHap) {info : HapInfoParams}
    (hstates : ∀ s ∈ policy.permStateList, NotTemporary s) (honce : InstallsOnce T D info policy)
    (hok : addHapTokenInfoToDb T (registered T D w t info policy w.db) dbOk (.ofParams t info) false =
      (.ok (), registered T D w t info policy db)) : (installed T D w t info policy db).Stored T := by
  have hsound := h.toSound.installed hnew hform honce hok
  obtain ⟨hstate, -⟩ := rows_of_stored hok
  refine h.rewritten (h.toLasting.installed hnew hform hok) hsound rfl (addPermToBriefPermission_eq _ _ _ _).1
    (fun x hxt hx => (mem_insert.1 hx).resolve_left hxt) (settled_of_installed hform.type hstates)
    (fun x n hx => (extendValue_of_stored hok hx).imp_right ?_)
    ((h.rowsMirror t).rows_of_no_entry (h.entry_of_not_live hnew)) hstate
  rintro ⟨v, hv, rfl⟩
  exact isPermissionNameValid_of_value hsound.brief.values hv

theorem Stored.createHapTokenInfo (h : w.Stored T) {info : HapInfoParams}
    (hstates : ∀ s ∈ policy.permStateList, NotTemporary s) (honce : InstallsOnce T D info policy)
    (hremove : env.removeOk = true ∨ getHapUniqueStr info.userID info.bundleName info.instIndex ∉ w.hapTokenIdMap)
    (hsuccess : (createHapTokenInfo T D w env info policy).1.isOk = true) :
    (createHapTokenInfo T D w env info policy).2.Stored T := by
  have hlast := h.toLasting.createHapTokenInfo (D := D) env info policy
  have hsound := h.toSound.create env info policy honce
  revert hlast hsound hsuccess
  rcases createHapTokenInfo_cases T D w env info policy with ⟨e, heq⟩ | ⟨t, hform, hknown, hrest⟩
  · rw [heq]
    exact fun hok => absurd hok Bool.false_ne_true
  have hnew : t ∉ w.hapTokenInfoMap := fun hmem => hknown (.inl (h.registered t hmem hform))
  rcases hrest with ⟨e, db, _, heq⟩ | ⟨db, w₁, r, m, _, hok, hdisp, _, heq⟩
  · rw [heq]
    exact fun hok => absurd hok Bool.false_ne_true
  have hplaced : (Service.installed T D w t info policy db).Stored T :=
    h.installed hnew hform hstates honce hok
  have hw₁ : w₁.Stored T := by
    refine h.toTokensSound.of_displaced hnew hplaced (fun o old w' hold hr hkey hdb => ?_) hdisp
    have hdb := hdb (hremove.resolve_right fun hno => hno (mem_iff_isSome_getElem?.2 (by
      rw [show getHapUniqueStr info.userID info.bundleName info.instIndex =
        (HapTokenInfoInner.ofParams t info).getHapUniqueStr from rfl, hkey]
      rfl)))
    have hid := hplaced.keyed o old hold
    refine hplaced.removed hold hr ?_ fun x n hn => ?_
    · rw [hdb, hid]
      rfl
    rw [hdb, hid, Database.deleteToken] at hn
    dsimp only at hn
    rw [update_apply] at hn
    split at hn
    · simp at hn
    · exact hn
  -- nothing is left of a token that is not in memory
  have hsame : ∀ w' : Service, w'.brief = w₁.brief → (if t ∈ w₁.hapTokenInfoMap then w' else w'.destroyHap t) = w' := by
    intro w' hb
    split
    · rfl
    · rename_i hout
      unfold destroyHap
      rw [hb, delete_of_not_mem fun hmem => hout (hw₁.owned t hmem), ← hb]
  rw [heq, hsame]
  · exact fun _ hlast hsound => { hlast, hsound with
      valueNames := hw₁.valueNames, present := hw₁.present, settled := hw₁.settled, rowsMirror := hw₁.rowsMirror }
  · rfl

/-- **An update that succeeds.** -/
theorem Stored.updateHapToken (h : w.Stored T) {info : UpdateHapInfoParams}
    {states : List PermissionStatus} (hstates : ∀ s ∈ states, NotTemporary s)
    (hnd : ((freshList T states).map permCode).Nodup)
    (hsuccess : (updateHapToken T w env id info states policy).1 = .ok ()) :
    (updateHapToken T w env id info states policy).2.Stored T := by
  have hlast := h.toLasting.updateHapToken env id info states policy
  have hload := h.load env.findOk id
  revert hlast hsuccess
  rcases updateHapToken_cases T w env id info states policy with ⟨e, heq⟩ | ⟨e, heq⟩ |
    ⟨inner, _, hget, _, _, rfl, ⟨e, _, heq⟩ | ⟨db, hok, heq⟩⟩
  · rw [heq]
    exact fun hok => absurd hok (by simp)
  · rw [heq]
    exact fun hok => absurd hok (by simp)
  · rw [heq]
    exact fun hok => absurd hok (by simp)
  rw [heq]
  generalize (getHapTokenInfoInner T w env.findOk id).2 = w₁ at hload hget hok ⊢
  intro _ hlast
  have hid : (updatedInner inner info).tokenID = id := hload.keyed id inner hget
  obtain ⟨hreq, -⟩ := hload.toTokensSound.updatedFrom_brief T hget info states policy
  have hown : (updatedFrom T w₁ id inner info states policy).requestedPermData[id]? =
      some (mergedList T w₁ id inner info states policy) := by
    rw [hreq, getElem?_insert_self]
  obtain ⟨hstate, -⟩ := rows_of_stored hok
  rw [hid] at hstate
  have hsound := hload.toSound.updatedFrom hget info hnd policy
  refine hload.rewritten hlast { hlast with brief := hsound.brief } rfl hreq
    (fun x _ hx => (mem_updatedFrom (T := T) hget info states policy x).1 hx) (fun d hd => ?_)
    (fun x n hx => (extendValue_of_stored hok hx).imp_right ?_) (fun n => by simp) hstate
  · obtain ⟨d₁, hd₁, rfl⟩ := List.mem_map.1 hd
    obtain ⟨st, hst, d₀, hbrief, rfl⟩ := mem_adjusted hd₁
    refine (((hstates st hst).settled hbrief).withPolicyFlag).merge (fun o ho => ?_)
    obtain ⟨l₁, hl₁, ho⟩ := Lib.exists_of_mem_getD ho
    exact hload.settled id l₁ hl₁ o ho
  · rintro ⟨v, hv, rfl⟩
    exact isPermissionNameValid_of_value hsound.brief.values hv

/-! ## Runs -/

def succeeds (T : PermissionTable) (D : DlpPermissionModeMap) (w : Service) : ServiceOp → Bool
  | .createHapTokenInfo env info policy => (createHapTokenInfo T D w env info policy).1.isOk
  | .updateHapToken env id info states policy => (updateHapToken T w env id info states policy).1.isOk
  | .removeHapTokenInfo env id reserved => (w.removeHapTokenInfo env.removeOk false id reserved).1.isOk
  | .getHapTokenInfo env id => (getHapTokenInfo T w env id).1.isSome
  | .grantPermission env id n fl updateFlag => (grantPermission T D w env id n fl updateFlag).1.isOk
  | .revokePermission env id n fl updateFlag => (revokePermission T D w env id n fl updateFlag).1.isOk
  | .setPermissionStatusWithPolicy env id perms status fl =>
    (setPermissionStatusWithPolicy T D w env id perms status fl).1.isOk
  | .clearUserGrantedPermissionState env id => (clearUserGrantedPermissionState T D w env id).1.isOk
  | .clearAllSecCompGrantedPerm => true
  | .setUserPolicy env list caller => (setUserPolicy T w env list caller).1.isOk
  | .clearUserPolicy env list caller => (clearUserPolicy T w env list caller).1.isOk
  | .updatePolicyWhiteList env id c type caller => (updatePolicyWhiteList T w env id c type caller).1.isOk

instance (T : PermissionTable) (env : Env) (g : Bool) (fl : Flag) (w : Service) (inner : HapTokenInfoInner)
    (n : String) : Decidable (StoresChange T env g fl w inner n) := decidable_of_iff' _ (storesChange_iff ..)

/-- **The condition on a step**: no write fails without being reported, no permission is brought twice by an install or
an update, no temporary or short grant, no permission changed under another spelling of its name, and no change of a
restricted permission that its row cannot show. -/
def KeepsStored (T : PermissionTable) (D : DlpPermissionModeMap) (w : Service) : ServiceOp → Prop
  | .createHapTokenInfo env info policy => (∀ s ∈ policy.permStateList, NotTemporary s) ∧ InstallsOnce T D info policy ∧
      (env.removeOk = true ∨ getHapUniqueStr info.userID info.bundleName info.instIndex ∉ w.hapTokenIdMap)
  | .updateHapToken _ _ _ states _ =>
      (∀ s ∈ states, NotTemporary s) ∧ ((freshList T states).map permCode).Nodup
  | .removeHapTokenInfo env _ _ => env.removeOk = true
  | .grantPermission env id n fl _ =>
      UpdatePermissionMeets T D env true fl (StoresChange T env true fl) (getHapTokenInfo T w env id).2 id n
  | .revokePermission env id n fl _ =>
      UpdatePermissionMeets T D env false fl (StoresChange T env false fl) (getHapTokenInfo T w env id).2 id n
  | .setPermissionStatusWithPolicy env id perms status fl =>
      UpdateMultiMeets T env (status == permissionGranted) fl
      (StoresChange T env (status == permissionGranted) fl) w id perms
  | .clearUserGrantedPermissionState env id =>
      ∀ x ∈ id :: (getHapTokenInfoInner T w env.findOk id).2.getRelatedSandBoxHapList id,
        ResetsStored T D env (getHapTokenInfoInner T w env.findOk id).2 x
  | .getHapTokenInfo .. | .clearAllSecCompGrantedPerm => True
  | .setUserPolicy .. | .clearUserPolicy .. | .updatePolicyWhiteList .. => False

instance (T : PermissionTable) (D : DlpPermissionModeMap) (w : Service) : ∀ op, Decidable (KeepsStored T D w op) :=
  fun op => by
  apply op.casesOn (motive := (Decidable <| KeepsStored T D w ·)) <;> intros
  case clearUserGrantedPermissionState env _ => exact List.decidableBAll (ResetsStored T D env _) _
  all_goals unfold KeepsStored; infer_instance

theorem Stored.changePermission (h : w.Stored T) {updateFlag : Int32}
    (hok : UpdatePermissionMeets T D env g fl (StoresChange T env g fl) (getHapTokenInfo T w env id).2 id n) :
    (changePermission T D w env id n g fl updateFlag).2.Stored T :=
  changePermission_invariant (Stored T) (fun _ id hw => hw.load env.findOk id)
    (fun hvalid _ _ _ _ hw hget _ hok => hw.updateAndNotify hget hvalid hok) h hok

theorem Stored.setPermissionStatusWithPolicy (h : w.Stored T) {perms : List String} {status : Int}
    (hok : UpdateMultiMeets T env (status == permissionGranted) fl (StoresChange T env (status == permissionGranted) fl)
      w id perms) : (setPermissionStatusWithPolicy T D w env id perms status fl).2.Stored T :=
  setPermissionStatusWithPolicy_invariant (Stored T) (fun _ id hw => hw.load env.findOk id)
    (fun hadmin _ _ _ _ hw hget _ hok => hw.updateAndNotify hget (isPermissionFlagValid_of_admin hadmin) hok) h hok

theorem Stored.step (h : w.Stored T) {op : ServiceOp} (hsuccess : succeeds T D w op = true)
    (hk : KeepsStored T D w op) : (serviceStep T D w op).Stored T := by
  cases op with
  | createHapTokenInfo => exact h.createHapTokenInfo hk.1 hk.2.1 hk.2.2 hsuccess
  | updateHapToken env id info states policy =>
    refine h.updateHapToken hk.1 hk.2 ?_
    have hok : (Service.updateHapToken T w env id info states policy).1.isOk = true := hsuccess
    revert hok
    cases (Service.updateHapToken T w env id info states policy).1 with
    | error => exact fun hok => absurd hok Bool.false_ne_true
    | ok => exact fun _ => rfl
  | removeHapTokenInfo env id reserved =>
    have hremove : env.removeOk = true := hk
    rcases removeHapTokenInfo_cases w env.removeOk false id reserved with ⟨_, e, heq⟩ | ⟨info, w', hget, _, heq, hr⟩
    · rw [serviceStep, heq]
      exact h
    have hid := h.keyed id info hget
    obtain ⟨hrows, hvalues⟩ := removeHapTokenInfo_deleted hget hid (by rw [← hremove]; exact heq)
    rw [serviceStep, heq]
    refine h.removed hget hr hrows fun x n hn => ?_
    rw [hvalues, update_apply] at hn
    split at hn
    · simp at hn
    · exact hn
  | getHapTokenInfo env id => exact getHapTokenInfo_invariant (Stored T) (fun w id hw => hw.load env.findOk id) h id
  | grantPermission => exact h.changePermission hk
  | revokePermission => exact h.changePermission hk
  | setPermissionStatusWithPolicy => exact h.setPermissionStatusWithPolicy hk
  | clearUserGrantedPermissionState => exact h.clearUserGrantedPermissionState hk
  | clearAllSecCompGrantedPerm =>
    exact { (keptByOps_lasting D).clearSecComp w h.toLasting with
      brief := h.brief.clearAllSecComp
      valueNames := h.valueNames, present := h.present, settled := h.settled, rowsMirror := h.rowsMirror }
  | setUserPolicy => exact False.elim hk
  | clearUserPolicy => exact False.elim hk
  | updatePolicyWhiteList => exact False.elim hk

/-- **A restart brings the permissions back**, in any run of operations that report success and meet the condition: what
`RestorePermissionBriefData` reads from the rows of a token are its entries, without the component bits and without the
bits of policies that are not persisted. -/
theorem restart_restores_permissions (T : PermissionTable) (D : DlpPermissionModeMap) (policy : Store)
    {w : Service}
    (hrun : Reaches (serviceStep T D) (fun w op => succeeds T D w op = true ∧ KeepsStored T D w op)
      { empty with policy := policy } w) {t : AccessTokenID} {info : HapTokenInfoInner}
    (hget : w.hapTokenInfoMap[t]? = some info) (s : PermissionDataBrief) :
    ∃ l l', w.requestedPermData[t]? = some l ∧
      (s.restorePermissionBriefData T t (w.db.findPermissionState t) (w.db.findExtendValue t)).requestedPermData[t]? =
        some l' ∧
      (l'.map core).Perm (l.map (lastingCore w.policy.records)) := by
  have hstep : ∀ w op, Stored T w → succeeds T D w op = true ∧ KeepsStored T D w op → (serviceStep T D w op).Stored T :=
    fun w op hw hk => hw.step hk.1 hk.2
  exact (hrun.invariant hstep stored_initial).restores (mem_of_getElem? hget)

def installCamera : ServiceOp :=
  .createHapTokenInfo .ok sampleParams asksCamera

def answeredCamera : Service :=
  [installCamera, .grantPermission .ok sampleHap camera permissionUserSet 0].foldl
    (serviceStep sampleTable ∅) empty

theorem restart_restores_user_choice :
    ∃ l l', answeredCamera.requestedPermData[PermissionDataBrief.sampleHap]? = some l ∧
      (PermissionDataBrief.empty.restorePermissionBriefData sampleTable PermissionDataBrief.sampleHap
        (answeredCamera.db.findPermissionState PermissionDataBrief.sampleHap)
        (answeredCamera.db.findExtendValue PermissionDataBrief.sampleHap)).requestedPermData[
          PermissionDataBrief.sampleHap]? = some l' ∧
      (l'.map core).Perm (l.map (lastingCore answeredCamera.policy.records)) := by
  have hinfo : answeredCamera.hapTokenInfoMap[sampleHap]? = some (.ofParams sampleHap sampleParams) := by decide +kernel
  exact restart_restores_permissions sampleTable ∅ .empty (Lib.reaches_foldl _ _ (by decide +kernel)) hinfo .empty

/-- The camera of a token in memory and as it would be restored, after operations that all report success. -/
def cameraAndRestored (D : DlpPermissionModeMap) (t : AccessTokenID) (ops : List ServiceOp) :
    Bool × Option (Int × Flag) × Option (Int × Flag) :=
  let w := ops.foldl (serviceStep sampleTable D) empty
  let restored := PermissionDataBrief.empty.restorePermissionBriefData sampleTable t (w.db.findPermissionState t)
    (w.db.findExtendValue t)
  (decide (Lib.AllMeet (serviceStep sampleTable D) (fun w op => succeeds sampleTable D w op = true) empty ops),
    (w.entry t 0).map fun d => (d.status, d.flag), (restored.entry t 0).map fun d => (d.status, d.flag))

/-- **A reported success is not always stored**: a grant whose row cannot be written, a temporary grant, a grant under a
name with a NUL, and a reset in a sandbox whose camera is pre-authorised under the administrator's flag. -/
theorem reported_success_not_stored :
    cameraAndRestored ∅ PermissionDataBrief.sampleHap [installCamera,
        .grantPermission { Env.ok with failingRows := [(sampleHap, camera)] }
          sampleHap camera permissionUserSet 0] =
      (true, some (permissionGranted, permissionUserSet), some (permissionDenied, permissionDefaultFlag)) ∧
    cameraAndRestored ∅ sampleHap [installCamera,
        .grantPermission .ok sampleHap camera permissionAllowThisTime 0] =
      (true, some (permissionGranted, permissionAllowThisTime), some (permissionDenied, permissionAllowThisTime)) ∧
    cameraAndRestored ∅ sampleHap [installCamera,
        .grantPermission .ok sampleHap "ohos.permission.CAMERA\x00" permissionUserSet 0] =
      (true, some (permissionGranted, permissionUserSet), some (permissionDenied, permissionDefaultFlag)) ∧
    cameraAndRestored cameraFullControl sampleSandbox
        [installSandbox
          (cameraState permissionDenied (permissionPreAuthorizedCancelable ||| permissionFixedByAdminPolicy)),
          .clearUserGrantedPermissionState .ok sampleSandbox] =
      (true, some (permissionGranted, permissionPreAuthorizedCancelable ||| permissionFixedByAdminPolicy),
        some (permissionDenied, permissionPreAuthorizedCancelable ||| permissionFixedByAdminPolicy)) := by
  refine ⟨by decide +kernel, by decide +kernel, by decide +kernel, by decide +kernel⟩

end Service
end AccessToken
