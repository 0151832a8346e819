import AccessToken.Service.Run
import AccessToken.Service.PolicyRows
/-!
# Entries that outlast a reset

A reset and an update put the entries of a token through the filters again.  In every state the service reaches an entry
passes them: its code is in the table, its status and flag are valid and its permission is available to an application
(`LastingEntry`).  The rows a token is loaded from name such permissions too.
-/
namespace AccessToken

open Std.ExtTreeMap (mem_iff_isSome_getElem?)
open PermissionTable AccessTokenIDManager Database

namespace Service

open Lib (Reaches Always mem_erase mem_insert)
open PermissionDataBrief

variable {T : PermissionTable} {D : DlpPermissionModeMap} {w w' : Service} {d : BriefPermData} {t id x : AccessTokenID}
    {inner info : HapTokenInfoInner} {db : Database} {s : PermissionStatus} {dbOk : Bool} {policy : HapPolicy}

/-- **The entries a token is loaded with** come from rows that name available permissions. -/
theorem lastingEntry_of_restored {row : PermissionStatus} (h : Restored T row d)
    (hrow : isPermissionAvailable T .tokenHap row.permissionName = true)
    (hstatus : isGrantStatusValid d.status = true) :
    LastingEntry T d where
  flag := by rw [h.flag]; exact (isPermissionFlagValid_without (by decide)).trans h.flagValid
  available := isPermissionAvailable_of_code h.code hrow
  code := code_lt_of_transfer h.code
  status := hstatus

/-! ## The service -/

def RowsAvailable (T : PermissionTable) (db : Database) : Prop :=
  ∀ (t : AccessTokenID) (n : String) row, (db.permissionState t)[n]? = some row →
    isPermissionAvailable T .tokenHap n = true

/-- The ids in memory and in the rows are those of applications, and no tool token has such an id. -/
structure WellFormedIds (w : Service) : Prop where
  live : ∀ t, t ∈ w.hapTokenInfoMap → WellFormedId t .tokenHap
  stored : ∀ t, t ∈ w.db.hapTokenInfo → WellFormedId t .tokenHap
  tools : ∀ t, t ∈ w.toolTokenInfoMap → getTokenIdTypeEnum t ≠ .tokenHap

theorem WellFormedIds.of_new (h : w.WellFormedIds)
    (hlive : ∀ t, t ∈ w'.hapTokenInfoMap → t ∈ w.hapTokenInfoMap ∨ WellFormedId t .tokenHap)
    (hstored : ∀ t, t ∈ w'.db.hapTokenInfo → t ∈ w.db.hapTokenInfo ∨ WellFormedId t .tokenHap)
    (htools : w'.toolTokenInfoMap = w.toolTokenInfoMap) : w'.WellFormedIds where
  live t ht := (hlive t ht).elim (h.live t) id
  stored t ht := (hstored t ht).elim (h.stored t) id
  tools t ht := h.tools t (htools ▸ ht)

/-- **What every operation keeps of the permission data**: it belongs to tokens in memory, its entries last, and the
rows name permissions an application may have. -/
structure Lasting (T : PermissionTable) (w : Service) : Prop extends TokensSound w where
  ids : w.WellFormedIds
  owned : ∀ t, t ∈ w.requestedPermData → t ∈ w.hapTokenInfoMap
  entries : AllEntries (LastingEntry T) w.brief
  rows : RowsAvailable T w.db

theorem lasting_empty : empty.Lasting T :=
  { (sound_empty (T := T)).toTokensSound with
    ids := ⟨by simp [empty], by simp [empty, Database.empty], by simp [empty]⟩
    owned := by simp [empty, PermissionDataBrief.empty]
    entries := fun t l h => by simp [empty, PermissionDataBrief.empty] at h
    rows := fun t n row h => by simp [empty, Database.empty] at h }

theorem Lasting.load (h : w.Lasting T) (findOk : Bool) (id : AccessTokenID) :
    (getHapTokenInfoInner T w findOk id).2.Lasting T := by
  have htokens := h.toTokensSound.load (T := T) findOk id
  have hentries : AllEntries (LastingEntry T) (getHapTokenInfoInner T w findOk id).2.brief := by
    intro t l hl d hd
    obtain hl | ⟨-, hgood, hrows⟩ := requested_load hl
    · exact h.entries t l hl d hd
    obtain ⟨row, hrow, hfrom⟩ := hrows d hd
    refine lastingEntry_of_restored hfrom ?_ (hgood.status d hd)
    obtain ⟨⟨n, r⟩, hmem, rfl⟩ := List.mem_map.1 hrow
    exact h.rows t n r (Std.ExtTreeMap.mem_toList_iff_getElem?_eq_some.1 hmem)
  have howned : ∀ t, t ∈ (getHapTokenInfoInner T w findOk id).2.requestedPermData →
      t ∈ w.hapTokenInfoMap ∨ t ∈ (getHapTokenInfoInner T w findOk id).2.hapTokenInfoMap := by
    intro t ht
    obtain ⟨l, hl⟩ := Lib.mem_iff_exists.1 ht
    obtain hl | ⟨hlive, -⟩ := requested_load hl
    · exact .inl (h.owned t (mem_of_getElem? hl))
    · exact .inr hlive
  rcases getHapTokenInfoInner_cases T w findOk id with ⟨_, _, heq⟩ | ⟨_, m, b, _, hb, heq⟩ |
    ⟨_, _, row, basic, hrow, _, _, heq⟩
  · rw [heq]
    exact h
  all_goals rw [heq] at htokens hentries howned ⊢
  · exact { htokens with
      ids := ⟨h.ids.live, h.ids.stored, h.ids.tools⟩
      owned := fun t ht => or_self_iff.1 (howned t ht)
      entries := hentries
      rows := h.rows }
  refine { htokens with
    ids := h.ids.of_new (fun t ht => ?_) (fun _ ht => .inl ht) rfl
    owned := fun t ht => (howned t ht).elim (fun hx => mem_insert.2 (.inr hx)) fun hx => hx
    entries := hentries
    rows := h.rows }
  rcases mem_insert.1 ht with rfl | ht
  · exact .inr (h.ids.stored t (mem_of_getElem? hrow))
  · exact .inl ht

theorem available_of_states {b : PermissionDataBrief} (h : AllEntries (LastingEntry T) b)
    (hs : s ∈ (b.permissionStateValues T t).getD []) : isPermissionAvailable T .tokenHap s.permissionName = true := by
  unfold permissionStateValues at hs
  cases hl : b.requestedPermData[t]? with
  | none => rw [hl] at hs; cases hs
  | some l =>
    rw [hl] at hs
    obtain ⟨d, hd, rfl⟩ := List.mem_map.1 hs
    exact (h t l hl d hd).available

theorem available_of_storedStates (h : AllEntries (LastingEntry T) w.brief)
    (hs : s ∈ w.storedStates T t) : isPermissionAvailable T .tokenHap s.permissionName = true := by
  obtain ⟨s₀, hs₀, rfl⟩ := List.mem_map.1 hs
  have havailable := available_of_states h hs₀
  split
  · exact havailable
  · split <;> exact havailable

theorem RowsAvailable.rowsFrom {db' : Database} (h : RowsAvailable T db) {states : List PermissionStatus}
    (hrows : RowsFrom db t states db')
    (hst : ∀ s ∈ states, isPermissionAvailable T .tokenHap s.permissionName = true) : RowsAvailable T db' := by
  intro x n row hrow
  rcases hrows.row x n row hrow with hold | ⟨-, s, hs, rfl, -⟩
  · exact h x n row hold
  · exact hst s hs

theorem RowsAvailable.stored (h : RowsAvailable T w.db) (hentries : AllEntries (LastingEntry T) w.brief)
    {isUpdate : Bool}
    (hok : addHapTokenInfoToDb T w dbOk info isUpdate = (.ok (), { w with db := db })) : RowsAvailable T db := by
  obtain ⟨hstate, -⟩ := rows_of_stored hok
  intro x n row hrow
  rw [hstate, Function.update_apply] at hrow
  split at hrow
  · rcases insertPermStates_row hrow with hold | ⟨s, hs, rfl, -⟩
    · split at hold
      · simp at hold
      · exact h _ n row hold
    · exact available_of_storedStates hentries hs
  · exact h x n row hrow

theorem Lasting.updateAndNotify (h : w.Lasting T) (env : Env) (inner : HapTokenInfoInner) (n : String) (g : Bool)
    {fl : Flag} (hfl : isPermissionFlagValid fl = true) : (updateAndNotify T w env inner n g fl).2.Lasting T := by
  have htokens := h.toTokensSound.updateAndNotify (T := T) env inner n g fl
  revert htokens
  have hentries : AllEntries (LastingEntry T) (w.grantedBrief T inner n g fl) :=
    h.entries.updatePermissionStatus (fun _ _ hd => hd.updated hfl) (fun _ hd => hd.component)
  rcases updateAndNotify_cases T w env inner n g fl with ⟨e, heq⟩ | ⟨c, db, _, hrows, heq⟩
  · rw [heq]
    exact fun _ => h
  rw [heq]
  exact fun htokens => { htokens with
    ids := ⟨h.ids.live, fun t ht => h.ids.stored t (hrows.hapTokenInfo ▸ ht), h.ids.tools⟩
    owned := fun t ht => h.owned t (mem_grantedBrief.1 ht)
    entries := hentries
    rows := h.rows.rowsFrom hrows fun s hs => available_of_states hentries (List.mem_of_mem_filter hs) }

theorem keptByParts_lasting (T : PermissionTable) : KeptByParts T (Lasting T) where
  load _ findOk id hw := hw.load findOk id
  flag w t c r hw := by
    refine { (keptByParts_tokensSound T).flag w t c r hw.toTokensSound with
      ids := ⟨hw.ids.live, hw.ids.stored, hw.ids.tools⟩, owned := fun x hx => ?_, entries := ?_, rows := hw.rows }
    all_goals
      rcases updatePermissionFlag_cases t c permissionRestrictedByAdmin r with
        ⟨-, e, heq⟩ | ⟨d, -, heq⟩
    · exact hw.owned x (by rw [heq] at hx; exact hx)
    · rw [heq] at hx
      exact hw.owned x (mem_modifyEntry.1 hx)
    · rw [heq]
      exact hw.entries
    · rw [heq]
      exact hw.entries.modifyEntry fun _ hd => hd.restrict
  row w t values s hw hvalues hs := by
    refine { (keptByParts_tokensSound T).row w t values s hw.toTokensSound hvalues hs with
      ids := ⟨hw.ids.live, hw.ids.stored, hw.ids.tools⟩, owned := hw.owned, entries := hw.entries, rows := ?_ }
    refine hw.rows.rowsFrom (rowsFrom_modify (List.mem_singleton.2 rfl)) fun s' hs' => ?_
    rw [List.mem_singleton.1 hs']
    exact available_of_states hw.entries (by rw [hvalues]; exact hs)
  kernel w k hw := { (keptByParts_tokensSound T).kernel w k hw.toTokensSound with
    ids := ⟨hw.ids.live, hw.ids.stored, hw.ids.tools⟩, owned := hw.owned, entries := hw.entries, rows := hw.rows }
  policy w p hw := { (keptByParts_tokensSound T).policy w p hw.toTokensSound with
    ids := ⟨hw.ids.live, hw.ids.stored, hw.ids.tools⟩, owned := hw.owned, entries := hw.entries, rows := hw.rows }

theorem Lasting.removed (h : w.Lasting T) (hget : w.hapTokenInfoMap[t]? = some info)
    (hr : Removed w t info false w') : w'.Lasting T := by
  have hbrief : w'.brief = (w.brief.deleteBriefPermDataByTokenId t).2 := by
    rw [hr.brief, h.keyed t info hget]
    rfl
  refine { h.toTokensSound.removed hget hr with
    ids := h.ids.of_new (fun x hx => .inl (hr.mem hx).2)
      (fun x hx => (hr.hapRows x hx).imp_right fun (hx : x = t) => hx ▸ h.ids.live t (mem_of_getElem? hget)) hr.tools
    owned := fun x hx => ?_, entries := ?_, rows := fun x n row hrow => ?_ }
  · rw [hbrief] at hx
    rw [hr.infoMap, mem_erase]
    exact (mem_delete hx).imp_right (h.owned x)
  · rw [hbrief]
    exact h.entries.delete
  · rcases hr.permRows x with hsame | ⟨-, hnone⟩
    · rw [hsame] at hrow
      exact h.rows x n row hrow
    · rw [hnone] at hrow
      simp at hrow

theorem Lasting.removeHapTokenInfo (h : w.Lasting T) {reserved : Bool} :
    (w.removeHapTokenInfo dbOk false id reserved).2.Lasting T := by
  rcases removeHapTokenInfo_cases w dbOk false id reserved with ⟨_, e, heq⟩ | ⟨info, w', hget, _, heq, hr⟩
  · rw [heq]
    exact h
  · rw [heq]
    exact h.removed hget hr

theorem registered_brief (T : PermissionTable) (D : DlpPermissionModeMap) (w : Service)
    (ht : getTokenIdTypeEnum t = .tokenHap) (info : HapInfoParams) (policy : HapPolicy) (db : Database) :
    ∃ l, (registered T D w t info policy db).requestedPermData = w.requestedPermData.insert t l ∧
      ∀ d ∈ l, LastingEntry T d := by
  refine ⟨_, (addPermToBriefPermission_eq _ _ _ _).1, fun d hd => ?_⟩
  unfold addedList keptPermStates at hd
  rw [if_pos rfl, ht] at hd
  exact lastingEntry_of_filtered hd

/-- A displacement by a new token is the two map writes, or these and the removal of another token. -/
theorem TokensSound.of_displaced (h : w.TokensSound) (hnew : t ∉ w.hapTokenInfoMap) {info : HapInfoParams}
    {removeOk : Bool} {Inv : Service → Prop} (hplaced : Inv (Service.installed T D w t info policy db))
    (hremoved : ∀ (o : AccessTokenID) old w',
      (Service.installed T D w t info policy db).hapTokenInfoMap[o]? = some old →
      Removed (Service.installed T D w t info policy db) o old false w' →
      w.hapTokenIdMap[(HapTokenInfoInner.ofParams t info).getHapUniqueStr]? = some o →
      (removeOk = true → w'.db = db.deleteToken old.tokenID) → Inv w')
    (hd : Displaced (Service.registered T D w t info policy db) removeOk (.ofParams t info) w') : Inv w' := by
  cases hd with
  | keyFree => exact hplaced
  | kept => exact hplaced
  | removed o old _ hkey hold hr hrows =>
    -- the key's owner was there before, so it is not the new token
    obtain ⟨info', hinfo', -⟩ := h.indexed _ o hkey
    have hne : (o == (HapTokenInfoInner.ofParams t info).tokenID) = false :=
      beq_eq_false_iff_ne.2 fun (heq : o = t) => hnew (heq ▸ mem_of_getElem? hinfo')
    rw [hne] at hr
    exact hremoved o old w' hold hr hkey hrows

theorem Lasting.registered_entries (h : w.Lasting T) (hform : WellFormedId t .tokenHap)
    (info : HapInfoParams) (policy : HapPolicy) :
    AllEntries (LastingEntry T) (registered T D w t info policy w.db).brief := by
  obtain ⟨l, hreq, hl⟩ := registered_brief T D w hform.type info policy w.db
  exact h.entries.insert hreq hl

theorem Lasting.installed (h : w.Lasting T) (hnew : t ∉ w.hapTokenInfoMap)
    (hform : WellFormedId t .tokenHap) {info : HapInfoParams}
    (hok : addHapTokenInfoToDb T (registered T D w t info policy w.db) dbOk (.ofParams t info) false =
      (.ok (), registered T D w t info policy db)) :
    (installed T D w t info policy db).Lasting T := by
  have hentries := h.registered_entries (D := D) hform info policy
  obtain ⟨l, hreq, -⟩ := registered_brief T D w hform.type info policy w.db
  refine { h.toTokensSound.installed hnew hform info policy (fun x => hapRow_of_stored hok) with
    ids := h.ids.of_new (fun x hx => ?_) (fun x hx => ?_) rfl
    owned := fun x hx => ?_
    entries := hentries
    rows := RowsAvailable.stored (w := registered T D w t info policy w.db) h.rows hentries hok }
  · rcases mem_insert.1 hx with rfl | hx
    · exact .inr hform
    · exact .inl hx
  · exact (hapRow_of_stored hok hx).imp_right fun (hx : x = t) => hx ▸ hform
  · have hx : x ∈ (registered T D w t info policy w.db).requestedPermData := hx
    rw [hreq, mem_insert] at hx
    exact mem_insert.2 (hx.imp_right (h.owned x))

theorem Lasting.createHapTokenInfo (h : w.Lasting T) (env : Env) (info : HapInfoParams) (policy : HapPolicy) :
    (createHapTokenInfo T D w env info policy).2.Lasting T := by
  have htokens := h.toTokensSound.createHapTokenInfo (T := T) (D := D) env info policy
  revert htokens
  rcases createHapTokenInfo_cases T D w env info policy with ⟨e, heq⟩ | ⟨t, hform, hknown, hrest⟩
  · rw [heq]
    exact fun _ => h
  have hnew : t ∉ w.hapTokenInfoMap := fun hmem => hknown (.inl (h.registered t hmem hform))
  rcases hrest with ⟨e, db, hdb, heq⟩ | ⟨db, w₁, r, m, _, hok, hdisp, hm, heq⟩
  · rw [heq]
    obtain rfl : db = w.db := hdb.resolve_right hnew
    obtain ⟨l, hreq, -⟩ := registered_brief T D w hform.type info policy w.db
    intro htokens
    refine { htokens with
      ids := ⟨h.ids.live, h.ids.stored, h.ids.tools⟩
      owned := fun x hx => ?_, entries := (h.registered_entries hform info policy).delete, rows := h.rows }
    obtain ⟨hne, hx⟩ := mem_delete hx
    rw [hreq, mem_insert] at hx
    exact h.owned x (hx.resolve_left hne)
  · have hinstalled := h.installed hnew hform hok
    have hw₁ : w₁.Lasting T :=
      h.toTokensSound.of_displaced hnew hinstalled (fun _ _ _ hold hr _ _ => hinstalled.removed hold hr) hdisp
    rw [heq]
    split
    · exact fun htokens => { htokens with
        ids := ⟨hw₁.ids.live, hw₁.ids.stored, hw₁.ids.tools⟩, owned := hw₁.owned,
          entries := hw₁.entries, rows := hw₁.rows }
    exact fun htokens => { htokens with
      ids := ⟨hw₁.ids.live, hw₁.ids.stored, hw₁.ids.tools⟩
      owned := fun x hx => hw₁.owned x (mem_delete hx).2
      entries := hw₁.entries.delete
      rows := hw₁.rows }

theorem Lasting.updatedFrom (h : w.Lasting T) (hget : w.hapTokenInfoMap[id]? = some inner)
    (info : UpdateHapInfoParams) (states : List PermissionStatus) (policy : HapPolicy) :
    (updatedFrom T w id inner info states policy).Lasting T := by
  obtain ⟨hreq, -⟩ := h.toTokensSound.updatedFrom_brief T hget info states policy
  refine { h.toTokensSound.updatedFrom hget info states policy with
    ids := h.ids.of_new (fun x hx => .inl ((mem_updatedFrom hget info states policy x).1 hx)) (fun _ hx => .inl hx) rfl
    owned := fun x hx => ?_, entries := ?_, rows := h.rows }
  · rw [hreq, mem_insert] at hx
    rw [mem_updatedFrom hget]
    rcases hx with rfl | hx
    · exact mem_of_getElem? hget
    · exact h.owned x hx
  · refine h.entries.insert hreq fun d hd => ?_
    obtain ⟨d₀, hd₀, rfl⟩ := List.mem_map.1 hd
    refine (lastingEntry_of_filtered hd₀).merge (fun o ho => ?_)
    obtain ⟨l, hl, ho⟩ := Lib.exists_of_mem_getD ho
    exact h.entries id l hl o ho

theorem Lasting.updateHapToken (h : w.Lasting T) (env : Env) (id : AccessTokenID) (info : UpdateHapInfoParams)
    (states : List PermissionStatus) (policy : HapPolicy) :
    (updateHapToken T w env id info states policy).2.Lasting T := by
  have htokens := h.toTokensSound.updateHapToken (T := T) env id info states policy
  have hload := h.load env.findOk id
  rcases updateHapToken_cases T w env id info states policy with ⟨e, heq⟩ | ⟨e, heq⟩ |
    ⟨inner, _, hget, _, _, rfl, ⟨e, _, heq⟩ | ⟨db, hok, heq⟩⟩
  · rw [heq]
    exact h
  · rw [heq]
    exact hload
  · rw [heq]
    exact hload.updatedFrom hget info states policy
  have hupd := hload.updatedFrom hget info states policy
  rw [heq] at htokens ⊢
  have hid : (updatedInner inner info).tokenID = id := hload.keyed id inner hget
  exact { htokens with
    ids := hupd.ids.of_new (fun _ hx => .inl hx) (fun x hx => (hapRow_of_stored hok hx).imp_right
      fun (hx : x = (updatedInner inner info).tokenID) =>
        (hx.trans hid) ▸ hload.ids.live id (mem_of_getElem? hget)) rfl
    owned := hupd.owned
    entries := hupd.entries
    rows := hupd.rows.stored hupd.entries hok }

theorem Lasting.clearUserGrantedPermission (h : w.Lasting T) (env : Env) (id : AccessTokenID) :
    (clearUserGrantedPermission T D w env id).2.Lasting T := by
  have htokens := h.toTokensSound.clearUserGrantedPermission (T := T) (D := D) env id
  have hload := h.load env.findOk id
  obtain ⟨w₁, hw₁, heq | ⟨inner, db, k, -, hmem, hrows, -, heq⟩⟩ := clearUserGrantedPermission_cases T D w env id
  all_goals rw [hw₁] at hload; rw [heq] at htokens ⊢
  · exact hload
  obtain ⟨l, hl⟩ := Lib.mem_iff_exists.1 hmem
  have howned : ∀ x, x ∈ (resetBrief T D w₁ inner).requestedPermData → x ∈ w₁.hapTokenInfoMap := by
    intro x hx
    by_cases hxt : x = inner.tokenID
    · exact hload.owned x (hxt ▸ hmem)
    · rw [mem_iff_isSome_getElem?, (resetBrief_eq T D hl).2.1 x hxt, ← mem_iff_isSome_getElem?] at hx
      exact hload.owned x hx
  have hdb : RowsAvailable T db := hload.rows.rowsFrom hrows fun s hs => by
    obtain ⟨d, hd, hname, -⟩ := mem_resetStates hl hs
    rw [hname]
    exact (hload.entries _ l hl d hd).available
  exact { htokens with
    ids := ⟨hload.ids.live, fun t ht => hload.ids.stored t (hrows.hapTokenInfo ▸ ht), hload.ids.tools⟩
    owned := howned, entries := allLasting_resetBrief hload.entries hmem, rows := hdb }

/-- **Every operation keeps the permission data lasting.** -/
theorem keptByOps_lasting (D : DlpPermissionModeMap) : KeptByOps T D (Lasting T) where
  toKeptByParts := keptByParts_lasting T
  create _ env info policy hw := hw.createHapTokenInfo env info policy
  update _ env id info states policy hw := hw.updateHapToken env id info states policy
  remove _ _ _ _ hw := hw.removeHapTokenInfo
  change _ env _ inner n g _ hw _ hfl := hw.updateAndNotify env inner n g hfl
  clear _ env id hw := hw.clearUserGrantedPermission env id
  clearSecComp w hw := { (keptByOps_tokensSound T D).clearSecComp w hw.toTokensSound with
    ids := ⟨hw.ids.live, hw.ids.stored, hw.ids.tools⟩, owned := hw.owned, entries := hw.entries, rows := hw.rows }

theorem lasting_of_reaches (hrun : Reaches (serviceStep T D) Always empty w) : w.Lasting T :=
  (keptByOps_lasting D).of_reaches lasting_empty hrun

theorem clearUserGrantedPermission_of_live (D : DlpPermissionModeMap) (env : Env)
    (hget : w.hapTokenInfoMap[x]? = some inner) (hlocal : inner.isRemote = false)
    (hmem : inner.tokenID ∈ w.requestedPermData) :
    ∃ k, (clearUserGrantedPermission T D w env x).2 = { w with
        brief := resetBrief T D w inner
        db := (updateStatesToDB env.failingRows inner.tokenID w.db (resetStates T D w inner)).2
        kernel := k } := by
  have hreset := resetUserGrantPermissionStatus_eq T D env hmem
  unfold clearUserGrantedPermission
  rw [getHapTokenInfoInner_of_live hget]
  dsimp only
  rw [hlocal, if_neg Bool.false_ne_true]
  split <;> rename_i heq <;> rw [heq] at hreset <;> dsimp only at hreset <;> rw [hreset] <;> exact ⟨_, rfl⟩

theorem Lasting.entry_clear_of_ne (h : w.Lasting T) {env : Env}
    (ht : t ∈ w.hapTokenInfoMap) (hx : x ≠ t) {c : Nat} :
    (Service.clearUserGrantedPermission T D w env x).2.entry t c = w.entry t c := by
  have hload := h.load env.findOk x
  have hentry := @entry_load T w env.findOk x t ht c
  obtain ⟨w₁, hw₁, heq | ⟨inner, db, k, hget, hmem, -, -, heq⟩⟩ := clearUserGrantedPermission_cases T D w env x
  all_goals rw [hw₁] at hload hentry; rw [heq]
  · exact hentry
  obtain ⟨l, hl⟩ := Lib.mem_iff_exists.1 hmem
  have hne : t ≠ inner.tokenID := by
    rw [hload.keyed x inner hget]
    exact Ne.symm hx
  have hother : (resetBrief T D w₁ inner).entry t c = w₁.entry t c := by
    rw [entry, (resetBrief_eq T D hl).2.1 t hne]
    rfl
  exact hother.trans hentry

/-! ## Tokens that come and go -/

theorem Lasting.denied (h : w.Lasting T) (ht : t ∉ w.hapTokenInfoMap) (c : Nat) :
    w.verifyPermissionStatus t c = permissionDenied := by
  unfold verifyPermissionStatus
  rw [Std.ExtTreeMap.getElem?_eq_none fun hmem => ht (h.owned t hmem)]

/-- **Only a registered local token is granted anything**, whatever was done and whatever write failed. -/
theorem denied_or_registered (ops : List ServiceOp) (t : AccessTokenID) (c : Nat) :
    let w := ops.foldl (serviceStep T D) empty
    w.verifyPermissionStatus t c = permissionDenied ∨
      t ∈ w.tokenIdSet ∧ WellFormedId t .tokenHap ∧
        ∃ info, w.hapTokenInfoMap[t]? = some info ∧ info.tokenID = t ∧ info.isRemote = false := by
  intro w
  have h : w.Lasting T := lasting_of_reaches (Lib.reaches_always ops empty)
  by_cases ht : t ∈ w.hapTokenInfoMap
  · obtain ⟨info, hget⟩ := Lib.mem_iff_exists.1 ht
    have hform := h.ids.live t ht
    exact .inr ⟨h.registered t ht hform, hform, info, hget, h.keyed t info hget, h.localOnly t info hget⟩
  · exact .inl (h.denied ht c)

/-- **A removal fails without effect, or nothing is left of the token** and the others are as they were. -/
theorem removal_leaves_nothing (ops : List ServiceOp) (dbOk : Bool) (id : AccessTokenID) (reserved : Bool) :
    let w := ops.foldl (serviceStep T D) empty
    let r := w.removeHapTokenInfo dbOk false id reserved
    (∃ e, r = (.error e, w)) ∨
      id ∉ r.2.hapTokenInfoMap ∧ id ∉ r.2.tokenIdSet ∧ (∀ key : String, r.2.hapTokenIdMap[key]? ≠ some id) ∧
        (∀ c, r.2.verifyPermissionStatus id c = permissionDenied ∧ r.2.kernel id c = false) ∧
        ∀ t, t ≠ id → r.2.hapTokenInfoMap[t]? = w.hapTokenInfoMap[t]? ∧ r.2.kernel t = w.kernel t ∧
          ∀ c, r.2.verifyPermissionStatus t c = w.verifyPermissionStatus t c := by
  intro w r
  have h : w.Lasting T := lasting_of_reaches (Lib.reaches_always ops empty)
  have hafter : r.2.Lasting T := h.removeHapTokenInfo
  obtain ⟨-, e, heq⟩ | ⟨info, w', hget, -, heq, hr⟩ := removeHapTokenInfo_cases w dbOk false id reserved
  · exact .inl ⟨e, heq⟩
  have hr' : r.2 = w' := congrArg Prod.snd heq
  rw [hr'] at hafter ⊢
  have hgone : id ∉ w'.hapTokenInfoMap := fun hmem => (hr.mem hmem).1 rfl
  refine .inr ⟨hgone, fun hmem => ((hr.tokenIds id).1 hmem).1 rfl, fun key hkey => ?_, fun c =>
    ⟨hafter.denied hgone c, ?_⟩, fun t ht => ?_⟩
  · obtain ⟨info', hinfo', -⟩ := hafter.indexed key id hkey
    exact hgone (mem_of_getElem? hinfo')
  · rw [hr.kernel, KernelPerms.removePermissionFromKernel_apply, if_pos rfl]
  · obtain ⟨hkernel, hlist, hsec⟩ := hr.of_ne (h.keyed id info hget) ht
    refine ⟨by rw [hr.infoMap, Lib.getElem?_erase_of_ne ht], hkernel, fun c => ?_⟩
    simp only [verifyPermissionStatus, hlist, List.contains_iff_mem, HasSecComp] at hsec ⊢
    simp only [hsec]

end Service
end AccessToken
