import AccessToken.Service.TokenInfoLemmas
/-!
# What every operation on the local tokens keeps

The permission data belongs to the tokens in memory, each under its own id, and holds no code twice.  These are the
facts the invariants of the kernel bits and of the user-policy flags rest on.
-/
namespace AccessToken

open Std.ExtTreeMap (ext_getElem? getElem?_insert_self mem_iff_isSome_getElem? mem_insert_self mem_modify)
open PermissionTable AccessTokenIDManager UserPolicyManager Function BriefPermData Database AccessTokenIDInner

open Lib
  (hasAny modifyFirst getElem?_erase getElem?_erase_eq_some getElem?_insert getElem?_insert_eq_some
    mem_erase mem_insert)

variable {l : List BriefPermData} {ext : ExtendedValueMap} {t id : AccessTokenID} {inner info : HapTokenInfoInner}
  {f : BriefPermData → BriefPermData} {states : List PermissionStatus}

namespace PermissionDataBrief

/-- A list no search can misread: codes of the table, each once, with a valid status. -/
structure GoodList (T : PermissionTable) (l : List BriefPermData) : Prop where
  nodup : (l.map permCode).Nodup
  inTable : ∀ d ∈ l, d.permCode < T.permList.length
  status : ∀ d ∈ l, isGrantStatusValid d.status = true

variable {T : PermissionTable} {s s' : PermissionDataBrief} {st : PermissionStatus} {d : BriefPermData}

theorem goodList_nil : GoodList T [] := ⟨by simp, by simp, by simp⟩

theorem GoodList.of_states (hnd : ((states.filterMap (briefPermDataOf T)).map permCode).Nodup) :
    GoodList T (states.filterMap (briefPermDataOf T)) where
  nodup := hnd
  inTable d hd := by
    obtain ⟨st, -, hst⟩ := List.mem_filterMap.1 hd
    exact code_lt_of_transfer (briefPermDataOf_eq_some hst).2.2.1
  status d hd := by
    obtain ⟨st, -, hst⟩ := List.mem_filterMap.1 hd
    obtain ⟨hstatus, -, -, hvalid⟩ := briefPermDataOf_eq_some hst
    rw [hstatus]; exact hvalid

section

variable (h : GoodList T l)
include h

theorem GoodList.modifyFirst {p : BriefPermData → Bool} (hcode : ∀ d, (f d).permCode = d.permCode)
    (hstatus : ∀ d, isGrantStatusValid d.status = true → isGrantStatusValid (f d).status = true) :
    GoodList T (Lib.modifyFirst p f l) where
  nodup := by rw [Lib.map_modifyFirst (fun a _ => hcode a)]; exact h.nodup
  inTable d hd := by
    rcases Lib.mem_modifyFirst hd with hd | ⟨a, ha, rfl⟩
    · exact h.inTable d hd
    · rw [hcode]; exact h.inTable a (List.mem_of_find?_eq_some ha)
  status d hd := by
    rcases Lib.mem_modifyFirst hd with hd | ⟨a, ha, rfl⟩
    · exact h.status d hd
    · exact hstatus a (h.status a (List.mem_of_find?_eq_some ha))

theorem GoodList.map (hcode : ∀ d, (f d).permCode = d.permCode)
    (hstatus : ∀ d ∈ l, isGrantStatusValid (f d).status = true) :
    GoodList T (l.map f) where
  nodup := by simpa [List.map_map, comp_def, hcode] using h.nodup
  inTable d hd := by
    obtain ⟨a, ha, rfl⟩ := List.mem_map.1 hd
    rw [hcode]; exact h.inTable a ha
  status d hd := by
    obtain ⟨a, ha, rfl⟩ := List.mem_map.1 hd
    exact hstatus a ha

theorem GoodList.names_nodup :
    ((l.map permCode).map T.transferOpcodeToPermission).Nodup := by
  refine h.nodup.map_on fun a ha b hb heq => ?_
  obtain ⟨d, hd, rfl⟩ := List.mem_map.1 ha
  obtain ⟨d', hd', rfl⟩ := List.mem_map.1 hb
  have hcode := transferPermissionToOpcode_transferOpcode (h.inTable d hd)
  rw [heq, transferPermissionToOpcode_transferOpcode (h.inTable d' hd')] at hcode
  exact (Option.some.inj hcode).symm

theorem GoodList.merge
    (hd : briefPermDataOf T st = some d) : GoodList T (mergePermBriefData l d) := by
  obtain ⟨hstatus, -, hcode, hvalid⟩ := briefPermDataOf_eq_some hd
  refine ⟨mergePermBriefData_codes_nodup h.nodup, fun x hx => ?_, fun x hx => ?_⟩
  · rcases mem_mergePermBriefData hx with hx | ⟨hc, -, -⟩
    · exact h.inTable x hx
    · rw [hc]; exact code_lt_of_transfer hcode
  · rcases mem_mergePermBriefData hx with hx | ⟨-, hs, -⟩
    · exact h.status x hx
    · rw [hs, hstatus]; exact hvalid

end

/-! ## Restoring -/

/-- The entry the row is read back as. -/
structure Restored (T : PermissionTable) (row : PermissionStatus) (d : BriefPermData) : Prop where
  code : T.transferPermissionToOpcode row.permissionName = some d.permCode
  status : d.status = if hasAny row.grantFlag permissionAllowThisTime then permissionDenied else row.grantStatus
  flag : d.flag = getFlagWroteToDb row.grantFlag
  flagValid : isPermissionFlagValid row.grantFlag = true

theorem restored_of_translated {row : PermissionStatus} {e : BriefPermData}
    (hst : translationIntoPermissionStatus row = some st) (he : briefPermDataOf T st = some e)
    (hd : d.permCode = e.permCode ∧ d.status = e.status ∧ d.flag = getFlagWroteToDb e.flag) : Restored T row d := by
  obtain ⟨hestatus, heflag, hecode, -⟩ := briefPermDataOf_eq_some he
  obtain ⟨hcode, hstatus, hflag⟩ := hd
  unfold translationIntoPermissionStatus at hst
  split at hst
  · rename_i hvalid
    cases hst
    simp only [Bool.and_eq_true] at hvalid
    exact ⟨hcode ▸ hecode, hstatus.trans hestatus, by rw [hflag, heflag], hvalid.1.2⟩
  · cases hst

/-- **What every merged row keeps, the restored list keeps.** -/
theorem restoreLoop_induction {P : List BriefPermData → Prop} (t : AccessTokenID) (acl : AclExtendedMap) :
    ∀ (rows : List PermissionStatus) (l : List BriefPermData) (ext : ExtendedValueMap),
      (∀ row ∈ rows, ∀ st d l, translationIntoPermissionStatus row = some st → briefPermDataOf T st = some d → P l →
        P (mergePermBriefData l d)) →
      P l → P (restoreLoop T t acl rows l ext).1
  | [], _, _, _, h => h
  | row :: rows, l, ext, hmerge, h => by
    have hrest := fun row' (hrow : row' ∈ rows) => hmerge row' (List.mem_cons_of_mem _ hrow)
    rw [restoreLoop]
    split
    · exact restoreLoop_induction t acl rows l ext hrest h
    rename_i st hst
    have hfst := getPermissionBriefData_fst (T := T) t st acl ext
    split
    · exact restoreLoop_induction t acl rows l _ hrest h
    · rename_i d ext' hd
      rw [hd] at hfst
      exact restoreLoop_induction t acl rows _ _ hrest (hmerge row (by simp) st d l hst hfst.symm h)

/-! ## The permission data of the live tokens -/

def ValuesInTable (T : PermissionTable) (ext : ExtendedValueMap) : Prop :=
  ∀ key, key ∈ ext → (key.setWidth 32).toNat < T.permList.length

theorem valuesInTable_delete (h : ValuesInTable T ext) : ValuesInTable T (deleteExtendedValue t ext) := by
  intro key hkey
  exact h key (Std.ExtTreeMap.mem_of_mem_filter hkey)

theorem valuesInTable_insert (h : ValuesInTable T ext) {c : Nat} (hc : c < T.permList.length)
    {v : String} : ValuesInTable T (ext.insert (extendedKey t c) v) := by
  intro key hkey
  rcases mem_insert.1 hkey with rfl | hkey
  · have hlow : ((extendedKey t c).setWidth 32).toNat = c % 2 ^ 32 := by
      have : (extendedKey t c).setWidth 32 = BitVec.ofNat 32 c := by
        refine BitVec.eq_of_getLsbD_eq fun i hi => ?_
        simp [extendedKey, hi]
      rw [this, BitVec.toNat_ofNat]
    rw [hlow]
    exact Nat.lt_of_le_of_lt (Nat.mod_le _ _) hc
  · exact h key hkey

theorem valuesInTable_getPermissionBriefData (h : ValuesInTable T ext) (t : AccessTokenID) (st : PermissionStatus)
    (acl : AclExtendedMap) : ValuesInTable T (getPermissionBriefData T t st acl ext).2 := by
  unfold getPermissionBriefData
  split
  · exact h
  · rename_i d hd
    split
    · exact valuesInTable_insert h (code_lt_of_transfer (briefPermDataOf_eq_some hd).2.2.1)
    · exact h

theorem valuesInTable_getPermissionBriefDataList (t : AccessTokenID) (acl : AclExtendedMap)
    (states : List PermissionStatus) (h : ValuesInTable T ext) :
    ValuesInTable T (getPermissionBriefDataList T t states acl ext).2 := by
  have hloop : ∀ (states : List PermissionStatus) (ext : ExtendedValueMap), ValuesInTable T ext →
      ValuesInTable T (getPermissionBriefDataLoop T t acl states ext).2 := by
    intro states
    induction states with
    | nil => exact fun _ h => h
    | cons st states ih => exact fun ext h => ih _ (valuesInTable_getPermissionBriefData h t st acl)
  exact hloop states _ (valuesInTable_delete h)

theorem valuesInTable_restoreLoop (t : AccessTokenID) (acl : AclExtendedMap) :
    ∀ (rows : List PermissionStatus) (l : List BriefPermData) (ext : ExtendedValueMap), ValuesInTable T ext →
      ValuesInTable T (restoreLoop T t acl rows l ext).2
  | [], _, _, h => h
  | row :: rows, l, ext, h => by
    rw [restoreLoop]
    split
    · exact valuesInTable_restoreLoop t acl rows l ext h
    rename_i st hst
    have hval := valuesInTable_getPermissionBriefData h t st acl
    split
    · rename_i ext' hd
      rw [hd] at hval
      exact valuesInTable_restoreLoop t acl rows _ _ hval
    · rename_i d ext' hd
      rw [hd] at hval
      exact valuesInTable_restoreLoop t acl rows _ _ hval

theorem restorePermissionBriefData_cases (t : AccessTokenID) (rows : List PermissionStatus)
    (values : List PermissionWithValue) :
    restorePermissionBriefData T s t rows values = s ∨ ∃ l ext, restorePermissionBriefData T s t rows values =
          { s with requestedPermData := s.requestedPermData.insert t l, extendedValue := ext } ∧
        (ValuesInTable T s.extendedValue → ValuesInTable T ext) ∧ GoodList T l ∧
        ∀ d ∈ l, ∃ row ∈ rows, Restored T row d := by
  unfold restorePermissionBriefData
  split
  · exact .inl rfl
  rename_i acl hacl
  refine .inr ⟨_, _, rfl, valuesInTable_restoreLoop t acl rows [] _, ?_, ?_⟩
  · exact restoreLoop_induction t acl rows [] _ (fun _ _ _ _ _ _ hd h => h.merge hd) goodList_nil
  refine restoreLoop_induction (P := fun l => ∀ d ∈ l, ∃ row ∈ rows, Restored T row d) t acl rows [] _
    (fun row hrow st d l hst hd h x hx => ?_) (by simp)
  rcases mem_mergePermBriefData hx with hx | hx
  · exact h x hx
  · exact ⟨row, hrow, restored_of_translated hst hd hx⟩

structure BriefSound (T : PermissionTable) (live : AccessTokenID → Prop) (s : PermissionDataBrief) : Prop where
  owned : ∀ t, t ∈ s.requestedPermData → live t
  granted : ∀ t c, s.HasSecComp t c → t ∈ s.requestedPermData
  grantedNodup : s.secCompList.Nodup
  lists : ∀ (t : AccessTokenID) l, s.requestedPermData[t]? = some l → GoodList T l
  values : ValuesInTable T s.extendedValue

variable {live live' : AccessTokenID → Prop} {d : BriefPermData}

section

variable (h : BriefSound T live s)
include h

theorem BriefSound.mono (hlive : ∀ t, live t → live' t) : BriefSound T live' s :=
  { h with owned := fun t ht => hlive t (h.owned t ht) }

theorem BriefSound.of_eq (hreq : s'.requestedPermData = s.requestedPermData)
    (hsec : s'.secCompList = s.secCompList) (hval : ValuesInTable T s'.extendedValue) : BriefSound T live s' where
  owned := hreq ▸ h.owned
  granted := by unfold HasSecComp; rw [hreq, hsec]; exact h.granted
  grantedNodup := hsec ▸ h.grantedNodup
  lists := hreq ▸ h.lists
  values := hval

theorem BriefSound.install (hl : GoodList T l) (hlive : ∀ x, live x → live' x)
    (ht : live' t) (hreq : s'.requestedPermData = s.requestedPermData.insert t l)
    (hsec : s'.secCompList = s.secCompList) (hval : ValuesInTable T s'.extendedValue) : BriefSound T live' s' where
  owned x hx := by
    rw [hreq] at hx
    rcases mem_insert.1 hx with rfl | hx
    · exact ht
    · exact hlive x (h.owned x hx)
  granted x c hx := by
    rw [hreq, mem_insert]
    exact .inr (h.granted x c (by rw [HasSecComp, ← hsec]; exact hx))
  grantedNodup := hsec ▸ h.grantedNodup
  lists x l' hx := by
    rw [hreq] at hx
    rcases getElem?_insert_eq_some.1 hx with ⟨-, rfl⟩ | ⟨-, hx⟩
    · exact hl
    · exact h.lists x l' hx
  values := hval

theorem BriefSound.write {c : Nat} (hcode : ∀ d, (f d).permCode = d.permCode)
    (hstatus : ∀ d, isGrantStatusValid d.status = true → isGrantStatusValid (f d).status = true)
    (hreq : s'.requestedPermData = (s.modifyEntry t c f).requestedPermData) (hnd : s'.secCompList.Nodup)
    (hsec : ∀ t' c', s'.HasSecComp t' c' → t' ∈ s.requestedPermData) (hval : s'.extendedValue = s.extendedValue) :
    BriefSound T live s' where
  owned x hx := h.owned x (by rw [hreq] at hx; exact mem_modifyEntry.1 hx)
  granted x c' hx := by rw [hreq]; exact mem_modifyEntry.2 (hsec x c' hx)
  grantedNodup := hnd
  lists x l hx := by
    rw [hreq, requested_modifyEntry] at hx
    split at hx
    · obtain ⟨l₀, hl₀, rfl⟩ := Option.map_eq_some_iff.1 hx
      exact (h.lists t l₀ hl₀).modifyFirst hcode hstatus
    · exact h.lists x l hx
  values := hval ▸ h.values

end

theorem isGrantStatusValid_updatedPermState {g : Bool} {fl : Flag} (d : BriefPermData)
    (h : isGrantStatusValid d.status = true) : isGrantStatusValid (updatedPermState g fl d).status = true := by
  simp only [updatedPermState]
  split
  · cases g <;> rfl
  · exact h

theorem BriefSound.updatePermissionStatus (h : BriefSound T live s) (t : AccessTokenID) (name : String) (g : Bool)
    (fl : Flag) : BriefSound T live (updatePermissionStatus T s t name g fl).2.2 := by
  rcases updatePermissionStatus_cases t name g fl with
    hsame | ⟨c, -, ⟨-, d, -, -, -, hs'⟩ | ⟨-, ht, -, -, -, hs'⟩⟩
  · rw [hsame]; exact h
  · rw [hs']
    exact h.write (updatedPermState_permCode g fl) isGrantStatusValid_updatedPermState rfl h.grantedNodup h.granted rfl
  rw [hs']
  refine h.write withComponentFlag_permCode (fun _ hd => hd) rfl (secCompList_setSecComp_nodup h.grantedNodup) ?_
    rfl
  intro t' c' hc'
  cases g with
  | true =>
    rcases hasSecComp_setSecComp_true.1 hc' with ⟨rfl, -⟩ | hc'
    · exact ht
    · exact h.granted t' c' hc'
  | false => exact h.granted t' c' ((hasSecComp_setSecComp_false h.grantedNodup).1 hc').2

theorem isGrantStatusValid_resetPermState (h : isGrantStatusValid d.status = true) :
    isGrantStatusValid (resetPermState d).status = true := by
  unfold resetPermState
  simp only
  split_ifs
  · exact h
  · rfl
  · exact h
  · exact h
  · rfl

section

variable (h : BriefSound T live s)
include h

theorem BriefSound.reset : BriefSound T live (s.resetUserGrantPermissionStatus t).2 := by
  rcases resetUserGrantPermissionStatus_cases t with ⟨-, heq⟩ | ⟨-, heq⟩
  · rw [heq]; exact h
  rw [heq]
  refine ⟨fun x hx => h.owned x (mem_modify.1 hx), fun x c hx => ?_, h.grantedNodup.filter _,
    fun x l hx => ?_, h.values⟩
  · exact mem_modify.2 (h.granted x c (List.mem_of_mem_filter hx))
  rw [Lib.getElem?_modify] at hx
  split at hx
  · obtain ⟨l₀, hl₀, rfl⟩ := Option.map_eq_some_iff.1 hx
    have hgood := h.lists x l₀ hl₀
    exact hgood.map resetPermState_permCode fun d hd => isGrantStatusValid_resetPermState (hgood.status d hd)
  · exact h.lists x l hx

theorem BriefSound.clearAllSecComp : BriefSound T live s.clearAllSecCompGrantedPerm.2 where
  owned := h.owned
  granted t c hx := by cases hx
  grantedNodup := List.nodup_nil
  lists := h.lists
  values := h.values

theorem BriefSound.delete : BriefSound T (fun x => x ≠ t ∧ live x) (s.deleteBriefPermDataByTokenId t).2 := by
  rcases deleteBriefPermDataByTokenId_cases t with ⟨hmem, heq⟩ | ⟨hmem, heq⟩
  · rw [heq]
    refine { h with owned := fun x hx => ⟨?_, h.owned x hx⟩ }
    rintro rfl
    exact hmem hx
  rw [heq]
  refine ⟨fun x hx => (mem_erase.1 hx).imp_right (h.owned x), fun x c hx => ?_, h.grantedNodup.filter _,
    fun x l hx => h.lists x l (getElem?_erase_eq_some.1 hx).2, valuesInTable_delete h.values⟩
  obtain ⟨hx, hne⟩ := List.mem_filter.1 hx
  exact mem_erase.2 ⟨bne_iff_ne.1 hne, h.granted x c hx⟩

theorem BriefSound.install_delete (ht : t ∉ s.requestedPermData)
    (hreq : s'.requestedPermData = s.requestedPermData.insert t l) (hsec : s'.secCompList = s.secCompList)
    (hval : ValuesInTable T s'.extendedValue) :
    (s'.deleteBriefPermDataByTokenId t).2.requestedPermData = s.requestedPermData ∧
      (s'.deleteBriefPermDataByTokenId t).2.secCompList = s.secCompList ∧
      ValuesInTable T (s'.deleteBriefPermDataByTokenId t).2.extendedValue := by
  rcases deleteBriefPermDataByTokenId_cases t with ⟨hmem, -⟩ | ⟨-, heq⟩
  · rw [hreq] at hmem
    exact absurd (mem_insert_self ..) hmem
  rw [heq]
  refine ⟨?_, ?_, valuesInTable_delete hval⟩
  · refine ext_getElem? fun x => ?_
    rw [hreq, ← Lib.erase_of_not_mem ht]
    simp only [getElem?_erase, getElem?_insert]
    split <;> simp [*]
  · rw [hsec, List.filter_eq_self]
    intro c hc
    simp only [bne_iff_ne, ne_eq]
    rintro rfl
    exact ht (h.granted c.tokenId c.permCode hc)

end

theorem isGrantStatusValid_mergeOnUpdate {old : List BriefPermData}
    (hold : ∀ d ∈ old, isGrantStatusValid d.status = true) {need : Bool} (h : isGrantStatusValid d.status = true) :
    isGrantStatusValid (mergeOnUpdate old need d).status = true := by
  unfold mergeOnUpdate updatePermStatus
  split
  · exact h
  rename_i o ho
  split
  · exact h
  · split
    · exact h
    · exact hold o (List.mem_of_find?_eq_some ho)

theorem BriefSound.update (h : BriefSound T live s) (states : List PermissionStatus) (acl : AclExtendedMap)
    (need : Bool) (ht : live t) (hnd : ((freshList T states).map permCode).Nodup) :
    BriefSound T live (update T s t states acl need) := by
  obtain ⟨hreq, hsec⟩ := update_eq t states acl need
  have hfresh : GoodList T (freshList T states) := GoodList.of_states hnd
  have hold : ∀ d ∈ s.requestedPermData.getD t [], isGrantStatusValid d.status = true := by
    rw [Std.ExtTreeMap.getD_eq_getD_getElem?]
    cases hl : s.requestedPermData[t]? with
    | none => simp
    | some l => exact (h.lists t l hl).status
  exact h.install (hfresh.map (mergeOnUpdate_permCode _ need) fun d hd =>
    isGrantStatusValid_mergeOnUpdate hold (hfresh.status d hd)) (fun _ hx => hx) ht hreq hsec
    (valuesInTable_getPermissionBriefDataList t acl _ h.values)

end PermissionDataBrief

namespace Service

open PermissionDataBrief

variable {T : PermissionTable} {D : DlpPermissionModeMap} {w w' w₁ : Service} {db : Database} {policy : HapPolicy}
    {x : AccessTokenID} {held removeOk : Bool}

/-- The tokens in memory are local HAP tokens under their own ids, registered if their id can be, and every index entry
points to one of them. -/
structure TokensSound (w : Service) : Prop where
  keyed : ∀ (t : AccessTokenID) info, w.hapTokenInfoMap[t]? = some info → info.tokenID = t
  localOnly : ∀ (t : AccessTokenID) info, w.hapTokenInfoMap[t]? = some info → info.isRemote = false
  indexed : ∀ (key : String) o, w.hapTokenIdMap[key]? = some o →
    ∃ info, w.hapTokenInfoMap[o]? = some info ∧ info.getHapUniqueStr = key
  hapId : ∀ t, t ∈ w.hapTokenInfoMap → getTokenIdTypeEnum t = .tokenHap
  rowId : ∀ t, t ∈ w.db.hapTokenInfo → getTokenIdTypeEnum t = .tokenHap
  plainId : ∀ t, t ∈ w.tokenIdSet → typeExt t = 0
  registered : ∀ t, t ∈ w.hapTokenInfoMap → WellFormedId t .tokenHap → t ∈ w.tokenIdSet

/-- **What every operation on the local tokens keeps.** -/
structure Sound (T : PermissionTable) (w : Service) : Prop extends TokensSound w where
  brief : BriefSound T (· ∈ w.hapTokenInfoMap) w.brief

theorem sound_empty : empty.Sound T where
  keyed := by simp [empty]
  localOnly := by simp [empty]
  indexed := by simp [empty]
  hapId := by simp [empty]
  rowId := by simp [empty, Database.empty]
  plainId := by simp [empty, AccessTokenIDManager.empty]
  registered := by simp [empty]
  brief := by
    constructor <;>
      simp [empty, PermissionDataBrief.empty, PermissionDataBrief.HasSecComp, PermissionDataBrief.ValuesInTable]

theorem TokensSound.of_eq (h : w.TokensSound) (hinfo : w'.hapTokenInfoMap = w.hapTokenInfoMap)
    (hid : w'.hapTokenIdMap = w.hapTokenIdMap) (hset : ∀ t, t ∈ w'.tokenIdSet ↔ t ∈ w.tokenIdSet)
    (hrow : ∀ t, t ∈ w'.db.hapTokenInfo → t ∈ w.db.hapTokenInfo) : w'.TokensSound where
  keyed := hinfo ▸ h.keyed
  localOnly := hinfo ▸ h.localOnly
  indexed := by rw [hinfo, hid]; exact h.indexed
  hapId := hinfo ▸ h.hapId
  rowId t ht := h.rowId t (hrow t ht)
  plainId t ht := h.plainId t ((hset t).1 ht)
  registered t ht hform := (hset t).2 (h.registered t (hinfo ▸ ht) hform)

theorem mem_of_getElem? {V : Type} {m : Std.ExtTreeMap AccessTokenID V} {v : V} (h : m[t]? = some v) : t ∈ m :=
  Lib.mem_iff_exists.2 ⟨_, h⟩

theorem not_mem_of_getElem? (h : w.hapTokenInfoMap[t]? = none) : t ∉ w.hapTokenInfoMap := by
  rw [mem_iff_isSome_getElem?, h]; simp

/-- **A new token under its own id** with its key written to the index. -/
theorem TokensSound.place (h : w.TokensSound) (hnew : t ∉ w.hapTokenInfoMap)
    (hkeyed : info.tokenID = t) (hlocal : info.isRemote = false)
    (htype : getTokenIdTypeEnum t = .tokenHap) (hinfo : w'.hapTokenInfoMap = w.hapTokenInfoMap.insert t info)
    (hid : w'.hapTokenIdMap = w.hapTokenIdMap.insert info.getHapUniqueStr t)
    (hset : ∀ x, x ∈ w.tokenIdSet → x ∈ w'.tokenIdSet)
    (hplain : ∀ x, x ∈ w'.tokenIdSet → typeExt x = 0)
    (hreg : WellFormedId t .tokenHap → t ∈ w'.tokenIdSet)
    (hrow : ∀ x, x ∈ w'.db.hapTokenInfo → x ∈ w.db.hapTokenInfo ∨ x = t) : w'.TokensSound := by
  have hget : ∀ x info', w'.hapTokenInfoMap[x]? = some info' →
      (x = t ∧ info' = info) ∨ w.hapTokenInfoMap[x]? = some info' := by
    intro x info' hx
    rw [hinfo, getElem?_insert_eq_some] at hx
    exact hx.imp (.imp_right Eq.symm) And.right
  have hmem : ∀ x, x ∈ w'.hapTokenInfoMap → x = t ∨ x ∈ w.hapTokenInfoMap := by
    intro x hx
    rwa [hinfo, mem_insert] at hx
  refine ⟨fun x info' hx => ?_, fun x info' hx => ?_, fun key o ho => ?_, fun x hx => ?_, fun x hx => ?_, hplain,
    fun x hx hform => ?_⟩
  · rcases hget x info' hx with ⟨rfl, rfl⟩ | hx
    · exact hkeyed
    · exact h.keyed x info' hx
  · rcases hget x info' hx with ⟨rfl, rfl⟩ | hx
    · exact hlocal
    · exact h.localOnly x info' hx
  · rw [hid] at ho
    rw [hinfo]
    rcases getElem?_insert_eq_some.1 ho with ⟨rfl, rfl⟩ | ⟨-, ho⟩
    · exact ⟨info, getElem?_insert_self, rfl⟩
    · -- an entry that stays points to a token that stays
      obtain ⟨info', hget', hkey'⟩ := h.indexed key o ho
      refine ⟨info', ?_, hkey'⟩
      rwa [Lib.getElem?_insert_of_ne]
      rintro rfl
      exact hnew (mem_of_getElem? hget')
  · rcases hmem x hx with rfl | hx
    · exact htype
    · exact h.hapId x hx
  · rcases hrow x hx with hx | rfl
    · exact h.rowId x hx
    · exact htype
  · rcases hmem x hx with rfl | hx
    · exact hreg hform
    · exact hset x (h.registered x hx hform)

theorem TokensSound.removed (h : w.TokensSound) (hget : w.hapTokenInfoMap[t]? = some info)
    (hr : Removed w t info held w') : w'.TokensSound := by
  have hget' : ∀ (x : AccessTokenID) info', w'.hapTokenInfoMap[x]? = some info' →
      w.hapTokenInfoMap[x]? = some info' := by
    intro x info' hx
    rw [hr.infoMap] at hx
    exact (getElem?_erase_eq_some.1 hx).2
  have hmem : ∀ x, x ∈ w'.hapTokenInfoMap → x ≠ t ∧ x ∈ w.hapTokenInfoMap := by
    intro x hx
    rwa [hr.infoMap, mem_erase] at hx
  refine ⟨fun x i hx => h.keyed x i (hget' x i hx), fun x i hx => h.localOnly x i (hget' x i hx), fun key o ho => ?_,
    fun x hx => h.hapId x (hmem x hx).2, fun x hx => ?_, fun x hx => h.plainId x ((hr.tokenIds x).1 hx).2,
    fun x hx hform => (hr.tokenIds x).2 ⟨(hmem x hx).1, h.registered x (hmem x hx).2 hform⟩⟩
  · -- an entry of the removed token can only be the one under its own key, which is erased
    have ho' : w.hapTokenIdMap[key]? = some o ∧ o ≠ t := by
      have hid := hr.idMap
      split at hid
      · rw [hid] at ho
        obtain ⟨hne, ho⟩ := getElem?_erase_eq_some.1 ho
        refine ⟨ho, ?_⟩
        rintro rfl
        obtain ⟨info', hinfo', hk⟩ := h.indexed key o ho
        obtain rfl : info = info' := Option.mem_unique hget hinfo'
        exact hne hk.symm
      · rename_i hkey
        rw [hid] at ho
        refine ⟨ho, ?_⟩
        rintro rfl
        obtain ⟨info', hinfo', hk⟩ := h.indexed key o ho
        obtain rfl : info = info' := Option.mem_unique hget hinfo'
        exact hkey (by rw [hk]; exact ho)
    obtain ⟨info', hinfo', hk⟩ := h.indexed key o ho'.1
    refine ⟨info', ?_, hk⟩
    rwa [hr.infoMap, Lib.getElem?_erase_of_ne ho'.2]
  · rcases hr.hapRows x hx with hx | rfl
    · exact h.rowId x hx
    · exact h.hapId x (mem_of_getElem? hget)

/-! ## Looking up, removing -/

theorem plainId_register (h : w.TokensSound) (t x : AccessTokenID)
    (hx : x ∈ (w.idManager.registerTokenId t .tokenHap).2.tokenIdSet) : typeExt x = 0 := by
  rcases registerTokenId_cases t .tokenHap with ⟨-, e, he⟩ | ⟨hform, -, hok⟩
  · rw [he] at hx; exact h.plainId x hx
  rw [hok] at hx
  rcases Lib.mem_set_insert.1 hx with rfl | hx
  · exact hform.2.2
  · exact h.plainId x hx

theorem restoredBrief_secCompList (T : PermissionTable) (w : Service) (id : AccessTokenID) :
    (w.restoredBrief T id).secCompList = w.secCompList := by
  unfold restoredBrief
  rcases restorePermissionBriefData_cases id (w.db.findPermissionState id)
    (w.db.findExtendValue id) with hsame | ⟨l, ext, hins, -⟩
  · rw [hsame]
  · rw [hins]

theorem restoredBrief_of_ne (h : x ≠ id) :
    (w.restoredBrief T id).requestedPermData[x]? = w.requestedPermData[x]? := by
  unfold restoredBrief
  rcases restorePermissionBriefData_cases id (w.db.findPermissionState id)
    (w.db.findExtendValue id) with hsame | ⟨l, ext, hins, -⟩
  · rw [hsame]
  · rw [hins, Lib.getElem?_insert_of_ne h]

theorem TokensSound.load (h : w.TokensSound) (findOk : Bool) (id : AccessTokenID) :
    (getHapTokenInfoInner T w findOk id).2.TokensSound := by
  rcases getHapTokenInfoInner_cases T w findOk id with ⟨info, -, heq⟩ | ⟨hnone, m, b, hm, hb, heq⟩ |
    ⟨hnone, hactive, row, hap, hrow, -, hbasic, heq⟩
  · rw [heq]; exact h
  · rw [heq]
    have hset : m.tokenIdSet = w.tokenIdSet := by rcases hm with rfl | rfl <;> simp
    exact h.of_eq rfl rfl (fun t => by rw [hset]) (fun _ ht => ht)
  rw [heq]
  have hnew := not_mem_of_getElem? hnone
  have hmemrow : id ∈ w.db.hapTokenInfo := mem_of_getElem? hrow
  have hset : ∀ x, x ∈ w.tokenIdSet → x ∈ (w.idManager.registerTokenId id .tokenHap).2.tokenIdSet := by
    intro x hx
    rcases registerTokenId_cases id .tokenHap with ⟨-, e, he⟩ | ⟨-, -, hok⟩
    · rw [he]; exact hx
    · rw [hok]; exact Std.ExtTreeSet.mem_insert.2 (.inr hx)
  have hreg : WellFormedId id .tokenHap → id ∈ (w.idManager.registerTokenId id .tokenHap).2.tokenIdSet := by
    intro hform
    rcases registerTokenId_cases id .tokenHap with ⟨hwhy, e, he⟩ | ⟨-, -, hok⟩
    · rw [he]
      exact hactive (hwhy.resolve_left (not_not_intro hform))
    · rw [hok]; exact Std.ExtTreeSet.mem_insert_self
  obtain ⟨hid, hlocal, -⟩ := restoreHapTokenBasicInfo_spec hbasic
  exact h.place hnew hid hlocal (h.rowId id hmemrow) rfl rfl hset (plainId_register h id) hreg (fun _ hx => .inl hx)

/-- A list after a lookup is one there was, or that of the loaded token, restored from its rows. -/
theorem requested_load {findOk : Bool}
    (hl : (getHapTokenInfoInner T w findOk id).2.requestedPermData[x]? = some l) :
    w.requestedPermData[x]? = some l ∨
      (x ∈ (getHapTokenInfoInner T w findOk id).2.hapTokenInfoMap ∧ GoodList T l ∧
        ∀ d ∈ l, ∃ row ∈ w.db.findPermissionState x, Restored T row d) := by
  rcases getHapTokenInfoInner_cases T w findOk id with ⟨_, -, heq⟩ | ⟨-, m, b, -, hb, heq⟩ |
    ⟨-, -, _, basic, -, -, -, heq⟩
  · exact .inl (by rwa [heq] at hl)
  · rw [heq] at hl
    rcases hb with rfl | rfl
    · exact .inl hl
    · exact .inl (requested_of_delete hl)
  rw [heq] at hl ⊢
  have hl : (w.restoredBrief T id).requestedPermData[x]? = some l := hl
  by_cases hx : x = id
  · subst hx
    unfold restoredBrief at hl
    rcases restorePermissionBriefData_cases x (w.db.findPermissionState x) (w.db.findExtendValue x) with
      hsame | ⟨l', ext, hins, -, hgood, hrows⟩
    · exact .inl (by rwa [hsame] at hl)
    rw [hins, getElem?_insert_self] at hl
    cases hl
    exact .inr ⟨mem_insert_self .., hgood, hrows⟩
  · exact .inl (by rwa [restoredBrief_of_ne hx] at hl)

theorem Sound.load (h : w.Sound T) (findOk : Bool) (id : AccessTokenID) :
    (getHapTokenInfoInner T w findOk id).2.Sound T := by
  refine { h.toTokensSound.load findOk id with brief := ?_ }
  rcases getHapTokenInfoInner_cases T w findOk id with ⟨info, -, heq⟩ | ⟨-, m, b, -, hb, heq⟩ |
    ⟨-, -, row, basic, -, -, -, heq⟩
  · rw [heq]; exact h.brief
  · rw [heq]
    rcases hb with rfl | rfl
    · exact h.brief
    · exact h.brief.delete.mono fun _ hx => hx.2
  rw [heq]
  have hlive : ∀ x, x ∈ w.hapTokenInfoMap → x ∈ (w.loadedFrom T basic id).hapTokenInfoMap := fun x hx =>
    mem_insert.2 (.inr hx)
  have hbrief : (w.loadedFrom T basic id).brief = w.restoredBrief T id := rfl
  rw [hbrief, restoredBrief]
  rcases restorePermissionBriefData_cases id (w.db.findPermissionState id)
    (w.db.findExtendValue id) with hsame | ⟨l, ext, hins, hval, hgood, -⟩
  · rw [hsame]; exact h.brief.mono hlive
  · rw [hins]; exact h.brief.install hgood hlive (mem_insert_self ..) rfl rfl (hval h.brief.values)

theorem Sound.removed (h : w.Sound T) (hget : w.hapTokenInfoMap[t]? = some info) (hr : Removed w t info false w') :
    w'.Sound T where
  toTokensSound := h.toTokensSound.removed hget hr
  brief := by
    rw [hr.brief, if_neg Bool.false_ne_true, h.keyed t info hget]
    refine h.brief.delete.mono fun x hx => ?_
    rwa [hr.infoMap, mem_erase]

theorem Sound.not_requested (h : w.Sound T) (ht : t ∉ w.hapTokenInfoMap) :
    t ∉ w.requestedPermData := fun hmem => ht (h.brief.owned t hmem)

theorem Sound.no_secComp (h : w.Sound T) (ht : t ∉ w.hapTokenInfoMap) {c : Nat} :
    ¬w.HasSecComp t c := fun hc => h.not_requested ht (h.brief.granted t c hc)

theorem Removed.of_ne (hr : Removed w t info false w') (hkeyed : info.tokenID = t) (hx : x ≠ t) :
    w'.kernel x = w.kernel x ∧ w'.requestedPermData[x]? = w.requestedPermData[x]? ∧
      ∀ c, w'.HasSecComp x c ↔ w.HasSecComp x c := by
  have hb : w'.brief = (w.brief.deleteBriefPermDataByTokenId t).2 := hkeyed ▸ hr.brief
  refine ⟨?_, ?_, fun c => ?_⟩
  · funext c
    rw [hr.kernel, KernelPerms.removePermissionFromKernel_apply, if_neg hx]
  · rw [hb]
    rcases deleteBriefPermDataByTokenId_cases t with ⟨-, heq⟩ | ⟨-, heq⟩
    · rw [heq]
    · rw [heq, Lib.getElem?_erase_of_ne hx]
  · rw [hb]
    rcases deleteBriefPermDataByTokenId_cases t with ⟨-, heq⟩ | ⟨-, heq⟩
    · rw [heq]
    · rw [heq]
      simp [HasSecComp, List.mem_filter, hx]

theorem Removed.mem (hr : Removed w t info held w') (hx : x ∈ w'.hapTokenInfoMap) : x ≠ t ∧ x ∈ w.hapTokenInfoMap := by
  rwa [hr.infoMap, mem_erase] at hx

/-! ## Creating -/

/-- The service with the new token in its data, rows and maps, before the owner its key had is looked at. -/
abbrev installed (T : PermissionTable) (D : DlpPermissionModeMap) (w : Service) (t : AccessTokenID)
    (info : HapInfoParams) (policy : HapPolicy) (db : Database) : Service :=
  (registered T D w t info policy db).placed (.ofParams t info)

theorem TokensSound.installed (h : w.TokensSound) (hnew : t ∉ w.hapTokenInfoMap)
    (hform : WellFormedId t .tokenHap) (info : HapInfoParams) (policy : HapPolicy)
    (hrow : ∀ x, x ∈ db.hapTokenInfo → x ∈ w.db.hapTokenInfo ∨ x = t) :
    (installed T D w t info policy db).TokensSound := by
  refine h.place hnew rfl rfl hform.type rfl rfl
    (fun x hx => Std.ExtTreeSet.mem_insert.2 (.inr hx)) (fun x hx => ?_) (fun _ => Std.ExtTreeSet.mem_insert_self) hrow
  rcases Lib.mem_set_insert.1 hx with rfl | hx
  · exact hform.2.2
  · exact h.plainId x hx

/-- **The states of an installation** that pass its filters name each permission once. -/
abbrev InstallsOnce (T : PermissionTable) (D : DlpPermissionModeMap) (info : HapInfoParams)
    (policy : HapPolicy) : Prop :=
  ((freshList T (installStates D info policy)).map permCode).Nodup

theorem InstallsOnce.goodList {info : HapInfoParams} (h : InstallsOnce T D info policy)
    (hform : WellFormedId t .tokenHap)
    (w : Service) : GoodList T (addedList T t (initialStates T D w t info policy) true) := by
  refine GoodList.of_states ?_
  rw [keptPermStates, if_pos rfl, hform.type, initialStates, filterMap_adjusted, List.map_map]
  exact h

theorem Sound.installed (h : w.Sound T) (hnew : t ∉ w.hapTokenInfoMap)
    (hform : WellFormedId t .tokenHap) {info : HapInfoParams} (honce : InstallsOnce T D info policy) {dbOk : Bool}
    (hok : addHapTokenInfoToDb T (registered T D w t info policy w.db) dbOk (.ofParams t info) false =
      (.ok (), registered T D w t info policy db)) : (Service.installed T D w t info policy db).Sound T := by
  obtain ⟨hreq, hsec⟩ := addPermToBriefPermission_eq t (initialStates T D w t info policy) policy.aclExtendedMap true
  have hval := valuesInTable_getPermissionBriefDataList t policy.aclExtendedMap
    (keptPermStates T t (initialStates T D w t info policy) true) h.brief.values
  obtain ⟨-, hrow⟩ := rows_of_stored hok
  have htokens : (Service.installed T D w t info policy db).TokensSound :=
    h.toTokensSound.installed hnew hform info policy fun x hx => by
      obtain ⟨row, hx⟩ := Lib.mem_iff_exists.1 hx
      exact (hrow x row hx).imp (mem_of_getElem?) And.left
  exact { htokens with
    brief :=
      h.brief.install (honce.goodList hform w) (fun x hx => mem_insert.2 (.inr hx)) (mem_insert_self ..)
        hreq hsec hval }

/-- **A new token in place**, and the owner its key had gone: a token that is there is the new one or as it was, and its
rows are as stored or, if the removal was stored, gone with it. -/
structure Created (T : PermissionTable) (D : DlpPermissionModeMap) (w : Service) (t : AccessTokenID)
    (info : HapInfoParams) (policy : HapPolicy) (db : Database) (removeOk : Bool) (w₁ : Service) : Prop where
  sound : w₁.Sound T
  mem : t ∈ w₁.hapTokenInfoMap
  policy_eq : w₁.policy = w.policy
  tools : w₁.toolTokenInfoMap = w.toolTokenInfoMap
  kept : ∀ x ∈ w₁.hapTokenInfoMap,
    w₁.hapTokenInfoMap[x]? = (if x = t then some (.ofParams t info) else w.hapTokenInfoMap[x]?) ∧
      w₁.kernel x = w.kernel x ∧
      w₁.requestedPermData[x]? =
        (if x = t then some (addedList T t (initialStates T D w t info policy) true)
          else w.requestedPermData[x]?) ∧
      ∀ c, w₁.HasSecComp x c ↔ w.HasSecComp x c
  rows : removeOk = true → ∀ x,
    (x = t ∨ x ∈ w.hapTokenInfoMap → x ∈ w₁.hapTokenInfoMap) ∧ w₁.db.permissionState x = db.permissionState x ∧
        w₁.db.hapTokenInfo[x]? = db.hapTokenInfo[x]? ∨
      w₁.db.permissionState x = ∅ ∧ w₁.db.hapTokenInfo[x]? = none

theorem created_installed {info : HapInfoParams}
    (hinst : (installed T D w t info policy db).Sound T) (removeOk : Bool) :
    Created T D w t info policy db removeOk (installed T D w t info policy db) := by
  obtain ⟨hreq, hsec⟩ := addPermToBriefPermission_eq t (initialStates T D w t info policy) policy.aclExtendedMap true
  have hreq : (installed T D w t info policy db).requestedPermData = _ := hreq
  have hinfo : (installed T D w t info policy db).hapTokenInfoMap = w.hapTokenInfoMap.insert t (.ofParams t info) := rfl
  refine ⟨hinst, mem_insert_self .., rfl, rfl, fun x _ => ⟨?_, rfl, ?_, fun c => ?_⟩, fun _ x =>
    .inl ⟨fun hx => ?_, rfl, rfl⟩⟩
  · rw [hinfo, getElem?_insert]
  · rw [hreq, getElem?_insert]
  · unfold HasSecComp
    rw [← hsec]
    rfl
  · exact mem_insert.2 hx

theorem Created.removed {info : HapInfoParams} {o : AccessTokenID}
    {old : HapTokenInfoInner} (h : Created T D w t info policy db removeOk (installed T D w t info policy db))
    (hne : o ≠ t) (hold : (installed T D w t info policy db).hapTokenInfoMap[o]? = some old)
    (hr : Removed (installed T D w t info policy db) o old false w₁)
    (hgone : removeOk = true → w₁.db = db.deleteToken o) :
    Created T D w t info policy db removeOk w₁ := by
  have hmem : ∀ x, x ≠ o → x ∈ (installed T D w t info policy db).hapTokenInfoMap → x ∈ w₁.hapTokenInfoMap :=
    fun x hx hx' => by
      rw [hr.infoMap, mem_erase]
      exact ⟨hx, hx'⟩
  refine ⟨h.sound.removed hold hr, hmem t hne.symm h.mem, hr.policy, hr.tools, fun x hx => ?_, fun hrem x => ?_⟩
  · obtain ⟨hxo, hx⟩ := hr.mem hx
    obtain ⟨hget, hk, hlist, hsec⟩ := h.kept x hx
    obtain ⟨hk', hlist', hsec'⟩ := hr.of_ne (h.sound.keyed o old hold) hxo
    refine ⟨?_, hk'.trans hk, hlist'.trans hlist, fun c => (hsec' c).trans (hsec c)⟩
    rw [hr.infoMap, Lib.getElem?_erase_of_ne hxo, hget]
  · rw [hgone hrem, deleteToken]
    by_cases hxo : x = o
    · subst hxo
      exact .inr ⟨update_self .., Std.ExtTreeMap.getElem?_erase_self⟩
    · refine .inl ⟨fun hx => hmem x hxo ?_, update_of_ne hxo _ _, Lib.getElem?_erase_of_ne hxo⟩
      exact mem_insert.2 hx

theorem Created.mem_old {info : HapInfoParams}
    (h : Created T D w t info policy db removeOk w₁) (hx : x ∈ w₁.hapTokenInfoMap) (hxt : x ≠ t) :
    x ∈ w.hapTokenInfoMap := by
  obtain ⟨hget, -⟩ := h.kept x hx
  rw [if_neg hxt] at hget
  rw [mem_iff_isSome_getElem?, ← hget, ← mem_iff_isSome_getElem?]
  exact hx

/-- **What creating a token can do to a sound service**: nothing but to the id sets and the extended values, or put a
new token in place and take away the owner its key had. -/
theorem Sound.createHapTokenInfo_cases (h : w.Sound T) (env : Env) (info : HapInfoParams) (policy : HapPolicy)
    (honce : InstallsOnce T D info policy) :
    (∃ r m b, (∀ x, x ∈ m.tokenIdSet ↔ x ∈ w.tokenIdSet) ∧
        b.requestedPermData = w.requestedPermData ∧ b.secCompList = w.secCompList ∧
        ValuesInTable T b.extendedValue ∧
        createHapTokenInfo T D w env info policy = (r, { w with idManager := m, brief := b })) ∨
      ∃ t db w₁ r m, t ∉ w.hapTokenInfoMap ∧
        db.permissionState = update w.db.permissionState t (insertPermStates (w.db.permissionState t)
          ((registered T D w t info policy w.db).storedStates T t)) ∧
        (∀ (x : AccessTokenID) row, db.hapTokenInfo[x]? = some row →
          w.db.hapTokenInfo[x]? = some row ∨ (x = t ∧ row.userID = info.userID)) ∧
        Created T D w t info policy db env.removeOk w₁ ∧ m.tokenIdSet = w₁.tokenIdSet ∧
        createHapTokenInfo T D w env info policy =
          (.ok t, { w₁.addGrantedHapPermsToKernel t with reservedHapTokenIdMap := r, idManager := m }) := by
  rcases Service.createHapTokenInfo_cases T D w env info policy with ⟨e, heq⟩ | ⟨t, hform, hknown, hrest⟩
  · exact .inl ⟨_, w.idManager, w.brief, fun _ => Iff.rfl, rfl, rfl, h.brief.values, heq⟩
  have hnotSet : t ∉ w.tokenIdSet := fun hmem => hknown (.inl hmem)
  have hnew : t ∉ w.hapTokenInfoMap := fun hmem => hnotSet (h.registered t hmem hform)
  have hnoData : t ∉ w.requestedPermData := fun hmem => hnew (h.brief.owned t hmem)
  obtain ⟨hreq, hsec⟩ := addPermToBriefPermission_eq t (initialStates T D w t info policy) policy.aclExtendedMap true
  have hval := valuesInTable_getPermissionBriefDataList t policy.aclExtendedMap
    (keptPermStates T t (initialStates T D w t info policy) true) h.brief.values
  rcases hrest with ⟨e, db, hdb, heq⟩ | ⟨db, w₁, r, m, -, hok, hd, hm, heq⟩
  · -- the data of the token goes as it came
    obtain rfl : db = w.db := hdb.resolve_right hnew
    obtain ⟨hreq', hsec', hval'⟩ := h.brief.install_delete hnoData hreq hsec hval
    refine .inl ⟨_, _, _, fun x => ?_, hreq', hsec', hval', heq⟩
    simp only [mem_releaseTokenId, addToSet, Lib.mem_set_insert]
    refine ⟨fun hx => hx.2.resolve_left hx.1, fun hx => ⟨?_, .inr hx⟩⟩
    rintro rfl
    exact hnotSet hx
  obtain ⟨hstate, hrow⟩ := rows_of_stored hok
  have hinstalled := created_installed (h.installed hnew hform honce hok) env.removeOk
  have hcreated : Created T D w t info policy db env.removeOk w₁ := by
    cases hd with
    | keyFree => exact hinstalled
    | kept => exact hinstalled
    | removed o old _ hkey hold hr hgone =>
      -- the entry of the key pointed to a token in memory, so not to the new one
      have hne : o ≠ t := by
        rintro rfl
        obtain ⟨info', hinfo', -⟩ := h.indexed _ o hkey
        exact hnew (mem_of_getElem? hinfo')
      have hheld : (o == (HapTokenInfoInner.ofParams t info).tokenID) = false :=
        beq_false_of_ne hne
      rw [hheld] at hr
      rw [hinstalled.sound.keyed o old hold] at hgone
      exact hinstalled.removed hne hold hr hgone
  rw [if_pos hcreated.mem] at heq
  exact .inr ⟨t, db, w₁, r, m, hnew, hstate,
    fun x row hx => (hrow x row hx).imp_right fun hx' => ⟨hx'.1, by rw [hx'.2]; rfl⟩, hcreated, hm, heq⟩

theorem Sound.create (h : w.Sound T) (env : Env) (info : HapInfoParams) (policy : HapPolicy)
    (honce : InstallsOnce T D info policy) : (createHapTokenInfo T D w env info policy).2.Sound T := by
  rcases h.createHapTokenInfo_cases env info policy honce with ⟨r, m, b, hm, hreq, hsec, hval, heq⟩ |
    ⟨t, db, w₁, r, m, -, -, -, ⟨h₁, -⟩, hm, heq⟩
  · rw [heq]
    have htokens : ({ w with idManager := m, brief := b } : Service).TokensSound :=
      h.toTokensSound.of_eq rfl rfl hm (fun _ ht => ht)
    exact { htokens with brief := h.brief.of_eq hreq hsec hval }
  · rw [heq]
    have htokens : ({ w₁.addGrantedHapPermsToKernel t with reservedHapTokenIdMap := r, idManager := m } :
        Service).TokensSound := h₁.toTokensSound.of_eq rfl rfl (fun x => by rw [hm]) (fun _ ht => ht)
    exact { htokens with brief := h₁.brief }

/-! ## Updating -/

def mergedList (T : PermissionTable) (w : Service) (id : AccessTokenID) (inner : HapTokenInfoInner)
    (info : UpdateHapInfoParams) (states : List PermissionStatus) (policy : HapPolicy) : List BriefPermData :=
  (freshList T (adjustedStates T w id inner states)).map
    (mergeOnUpdate (w.requestedPermData.getD id [])
      (needUpdatePermByProvision info policy (updatedAppAttr info inner.tokenAttr)))

theorem mergedList_codes (id : AccessTokenID) (inner : HapTokenInfoInner) (info : UpdateHapInfoParams)
    (states : List PermissionStatus) (policy : HapPolicy) :
    (mergedList T w id inner info states policy).map permCode =
      (freshList T states).map permCode := by
  unfold mergedList adjustedStates freshList
  rw [filterMap_adjusted, List.map_map, List.map_map]
  refine List.map_congr_left fun d _ => ?_
  simp [withPolicyFlag]

theorem TokensSound.updatedFrom_brief (T : PermissionTable) (h : w.TokensSound)
    (hget : w.hapTokenInfoMap[id]? = some inner) (info : UpdateHapInfoParams) (states : List PermissionStatus)
    (policy : HapPolicy) :
    (updatedFrom T w id inner info states policy).requestedPermData =
        w.requestedPermData.insert id (mergedList T w id inner info states policy) ∧
      (updatedFrom T w id inner info states policy).secCompList = w.secCompList := by
  have hid := h.keyed id inner hget
  rw [← hid]
  exact update_eq _ _ _ _

theorem mem_updatedFrom (hget : w.hapTokenInfoMap[id]? = some inner) (info : UpdateHapInfoParams)
    (states : List PermissionStatus) (policy : HapPolicy) (x : AccessTokenID) :
    x ∈ (updatedFrom T w id inner info states policy).hapTokenInfoMap ↔ x ∈ w.hapTokenInfoMap := by
  refine mem_insert.trans ⟨fun hx => ?_, .inr⟩
  rcases hx with rfl | hx
  · exact mem_of_getElem? hget
  · exact hx

theorem TokensSound.updatedFrom (h : w.TokensSound) (hget : w.hapTokenInfoMap[id]? = some inner)
    (info : UpdateHapInfoParams) (states : List PermissionStatus) (policy : HapPolicy) :
    (Service.updatedFrom T w id inner info states policy).TokensSound := by
  have hinfo : ∀ (x : AccessTokenID) info', (Service.updatedFrom T w id inner info states policy).hapTokenInfoMap[x]? =
      some info' → (x = id ∧ info' = updatedInner inner info) ∨ w.hapTokenInfoMap[x]? = some info' := by
    intro x info' hx
    exact (getElem?_insert_eq_some.1 hx).imp (.imp_right Eq.symm) And.right
  have hlive := mem_updatedFrom (T := T) hget info states policy
  refine
    { keyed := fun x info' hx => ?_
      localOnly := fun x info' hx => ?_
      indexed := fun key o ho => ?_
      hapId := fun x hx => h.hapId x ((hlive x).1 hx)
      rowId := h.rowId
      plainId := h.plainId
      registered := fun x hx => h.registered x ((hlive x).1 hx) }
  · rcases hinfo x info' hx with ⟨rfl, rfl⟩ | hx
    · exact h.keyed x inner hget
    · exact h.keyed x info' hx
  · rcases hinfo x info' hx with ⟨rfl, rfl⟩ | hx
    · exact h.localOnly x inner hget
    · exact h.localOnly x info' hx
  obtain ⟨info', hinfo', hk⟩ := h.indexed key o ho
  simp only [updateHapInfo, getElem?_insert]
  split
  · -- the update leaves the identity of the token alone
    subst o
    obtain rfl : inner = info' := Option.mem_unique hget hinfo'
    exact ⟨_, rfl, hk⟩
  · exact ⟨info', hinfo', hk⟩

theorem Sound.updatedFrom (h : w.Sound T) (hget : w.hapTokenInfoMap[id]? = some inner) (info : UpdateHapInfoParams)
    (hnd : ((freshList T states).map permCode).Nodup) (policy : HapPolicy) :
    (updatedFrom T w id inner info states policy).Sound T := by
  refine { h.toTokensSound.updatedFrom hget info states policy with brief := ?_ }
  have hbrief := h.brief.update (t := inner.tokenID) (adjustedStates T w id inner states)
    policy.aclExtendedMap (needUpdatePermByProvision info policy (updatedAppAttr info inner.tokenAttr))
    (by rw [h.keyed id inner hget]; exact mem_of_getElem? hget)
    (by
      rw [← mergedList_codes id inner info states policy, mergedList, List.map_map] at hnd
      simpa [comp_def] using hnd)
  exact hbrief.mono fun x hx => (mem_updatedFrom hget info states policy x).2 hx

/-- **What updating a token can do to a sound service**: nothing beyond the lookup, or change the token in memory and,
unless the database fails, in its rows and in the kernel. -/
theorem Sound.updateHapToken_cases (h : w.Sound T) {env : Env} (info : UpdateHapInfoParams)
    (policy : HapPolicy) (hw₁ : (getHapTokenInfoInner T w env.findOk id).2 = w₁)
    (hnd : ∀ inner, (getHapTokenInfoInner T w env.findOk id).1 = some inner →
      ((freshList T states).map permCode).Nodup) :
    (∃ e, updateHapToken T w env id info states policy = (.error e, w)) ∨
      (∃ e, updateHapToken T w env id info states policy = (.error e, w₁)) ∨
      ∃ inner, w₁.hapTokenInfoMap[id]? = some inner ∧ (getHapTokenInfoInner T w env.findOk id).1 = some inner ∧
        (Service.updatedFrom T w₁ id inner info states policy).Sound T ∧
        ((env.transactionOk = false ∧ ∃ e, updateHapToken T w env id info states policy =
            (.error e, Service.updatedFrom T w₁ id inner info states policy)) ∨
          (env.transactionOk = true ∧ ∃ db,
            db.permissionState = update w₁.db.permissionState id (insertPermStates ∅
              ((Service.updatedFrom T w₁ id inner info states policy).storedStates T id)) ∧
            (∀ (x : AccessTokenID) row, db.hapTokenInfo[x]? = some row →
              w₁.db.hapTokenInfo[x]? = some row ∨ (x = id ∧ row.userID = inner.userID)) ∧
            ({ Service.updatedFrom T w₁ id inner info states policy with db := db } : Service).Sound T ∧
            updateHapToken T w env id info states policy = (.ok (),
              { Service.updatedFrom T w₁ id inner info states policy with db := db }.addGrantedHapPermsToKernel
              id))) := by
  have h₁ : w₁.Sound T := hw₁ ▸ h.load env.findOk id
  rcases Service.updateHapToken_cases T w env id info states policy with herr | herr |
    ⟨inner, hfound, hget, -, _, rfl, hrest⟩
  · exact .inl herr
  · rw [hw₁] at herr; exact .inr (.inl herr)
  rw [hw₁] at hget hrest
  have hid := h₁.keyed id inner hget
  have h₂ := h₁.updatedFrom hget info (hnd inner hfound) policy
  have hget₂ : (Service.updatedFrom T w₁ id inner info states policy).hapTokenInfoMap[id]? =
      some (updatedInner inner info) := getElem?_insert_self
  refine .inr (.inr ⟨inner, hget, hfound, h₂, ?_⟩)
  rcases hrest with ⟨e, hfail, he⟩ | ⟨db, hok, heq⟩
  · -- the rows of a local token can always be rewritten, unless the database fails
    refine .inl ⟨?_, e, he⟩
    rcases addHapTokenInfoToDb_cases T (Service.updatedFrom T w₁ id inner info states policy) env.transactionOk
      (updatedInner inner info) true with ⟨-, -, hremote | hfalse⟩ | ⟨-, hok⟩
    · rw [h₂.localOnly id _ hget₂] at hremote
      cases hremote
    · exact hfalse
    · rw [hok] at hfail
      cases hfail
  obtain ⟨hstate, hrow⟩ := rows_of_stored hok
  have hid' : (updatedInner inner info).tokenID = id := hid
  rw [hid'] at hstate hrow
  have hhap : ∀ (x : AccessTokenID) row, db.hapTokenInfo[x]? = some row →
      w₁.db.hapTokenInfo[x]? = some row ∨ (x = id ∧ row.userID = inner.userID) := fun x row hx =>
    (hrow x row hx).imp_right fun hx' => ⟨hx'.1, by rw [hx'.2]; rfl⟩
  have htokens : ({ Service.updatedFrom T w₁ id inner info states policy with db := db } : Service).TokensSound :=
    { h₂.toTokensSound with
      rowId := fun x hx => by
        obtain ⟨row, hrow⟩ := Lib.mem_iff_exists.1 hx
        rcases hhap x row hrow with hold | ⟨rfl, -⟩
        · exact h₂.rowId x (mem_of_getElem? hold)
        · exact h₂.hapId x (mem_of_getElem? hget₂) }
  exact .inr ⟨(insertedDb_of_stored hok).1, db, hstate, hhap, { htokens with brief := h₂.brief }, heq⟩

end Service
end AccessToken
