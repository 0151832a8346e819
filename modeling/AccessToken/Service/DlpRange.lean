import AccessToken.Service.EntrySteps
/-!
# The DLP range of a sandbox

A permission outside the range of a token's DLP type is refused by every grant, but an update initialises the
permissions of a sandbox without the filter, and the filter of an install edits the stored status only.
`WithinDlpRange` is what is kept when neither brings such a permission in: it is denied in memory and in the rows,
without a component grant.
-/
namespace AccessToken

open UserPolicyManager Database

open Std.ExtTreeMap (getD_eq_getD_getElem? getElem?_eq_some_getElem getElem?_insert_self mem_iff_isSome_getElem?)
open Lib (hasAny getElem?_insert mem_erase mem_insert)
open PermissionDataBrief PermissionTable

/-- `DlpPermissionSetManager::IsPermissionAvailableToDlpHap` of a permission code. -/
def isPermissionAvailableToDlpHap (T : PermissionTable) (D : DlpPermissionModeMap) (hapDlpType : Int32)
    (permCode : Nat) : Bool :=
  let permissionName := T.transferOpcodeToPermission permCode
  !permissionName.isEmpty && isPermDlpModeAvailableToDlpHap hapDlpType (getPermDlpMode D permissionName)

variable {T : PermissionTable} {D : DlpPermissionModeMap} {c : Nat}

/-- A name of the table leads to a code of the same range; a name the table only knows up to a NUL need not. -/
theorem isPermissionAvailableToDlpHap_of_transfer {n : String} (hc : T.transferPermissionToOpcode n = some c)
    (hn : cStr n = n) (dlpType : Int32) :
    isPermissionAvailableToDlpHap T D dlpType c = isPermDlpModeAvailableToDlpHap dlpType (getPermDlpMode D n) := by
  have hname : T.transferOpcodeToPermission c = n := (transferOpcode_of_transfer hc).trans hn
  have hvalid := Service.isPermissionNameValid_transferOpcode (code_lt_of_transfer hc)
  rw [hname] at hvalid
  have hempty : n.isEmpty = false := by
    unfold isPermissionNameValid at hvalid
    rw [Bool.not_eq_true', Bool.or_eq_false_iff] at hvalid
    exact hvalid.1
  unfold isPermissionAvailableToDlpHap
  rw [hname]
  dsimp only
  rw [hempty]
  rfl

theorem isPermissionAvailableToDlpHap_common (hc : c < T.permList.length) :
    isPermissionAvailableToDlpHap T D dlpCommon c = true := by
  have hcode := transferPermissionToOpcode_transferOpcode hc
  have hname := transferOpcode_of_transfer hcode
  rw [isPermissionAvailableToDlpHap_of_transfer hcode hname.symm]
  rfl

/-! ## One entry -/

/-- Denied, and not granted by a component either. -/
structure Withheld (d : BriefPermData) : Prop where
  status : d.status = permissionDenied
  component : hasAny d.flag permissionComponentSet = false

variable {d n d' : BriefPermData} {ty u : Int32} {t : AccessTokenID} {l old : List BriefPermData} {fl : Flag}
    {records : UserPolicyRecords} {need : Bool}

theorem Withheld.denied (h : Withheld d) : getEffectivePermissionStatus d = permissionDenied := by
  unfold getEffectivePermissionStatus effectiveStatus
  rw [isPermGrantedBySecComp, h.component, h.status]
  split <;> rfl

theorem Withheld.of_eq (h : Withheld d) (hstatus : d'.status = d.status)
    (hflag : hasAny d'.flag permissionComponentSet = hasAny d.flag permissionComponentSet) : Withheld d' :=
  ⟨hstatus.trans h.status, hflag.trans h.component⟩

theorem component_maskedFlag (r : Bool) (f : Flag) :
    hasAny (maskedFlag permissionRestrictedByAdmin r f) permissionComponentSet = hasAny f permissionComponentSet := by
  unfold maskedFlag
  cases r with
  | true =>
    rw [if_pos rfl, Lib.hasAny_or]
    exact Bool.or_false _
  | false =>
    rw [if_neg Bool.false_ne_true, Lib.hasAny_and]
    rfl

theorem component_policyFlag {f : Flag} :
    hasAny (policyFlag records t u c f) permissionComponentSet = hasAny f permissionComponentSet := by
  unfold policyFlag
  split
  · exact component_maskedFlag true f
  · exact component_maskedFlag false f

/-- **A revoke leaves the permission withheld**, whatever its flag. -/
theorem Withheld.revoked (h : Withheld d) (hfl : isPermGrantedBySecComp fl = false) :
    Withheld (updatedPermState false fl d) := by
  unfold updatedPermState
  refine ⟨?_, ?_⟩
  · split
    · rfl
    · exact h.status
  · have hmask : permissionComponentSet &&& (permissionPreAuthorizedCancelable ||| permissionRestrictedByAdmin) =
        0#32 := by
      decide
    unfold updateWithNewFlag
    rw [Lib.hasAny_or, Lib.hasAny_and, BitVec.and_comm, hmask, Lib.hasAny_zero, Bool.or_false]
    exact hfl

theorem Withheld.componentRevoked (h : Withheld d) : Withheld (withComponentFlag false d) :=
  ⟨h.status, Lib.hasAny_clear_self d.flag permissionComponentSet⟩

/-- **The merge of withheld states is withheld.** -/
theorem Withheld.update {o : BriefPermData} (ho : Withheld o) (hn : Withheld n) : Withheld (updatePermStatus o n) := by
  have hmask : permissionRestrictedByAdmin &&& permissionComponentSet = 0#32 := by decide
  have hclear : ∀ f : Flag,
    hasAny (getFlagWithoutSpecifiedElement f permissionRestrictedByAdmin) permissionComponentSet =
      hasAny f permissionComponentSet := component_maskedFlag false
  unfold updatePermStatus
  split
  · exact hn
  · refine ⟨ho.status, ?_⟩
    rw [Lib.hasAny_or, hclear, ho.component, Lib.hasAny_and, hmask, Lib.hasAny_zero]
    rfl

theorem Withheld.merge (hn : Withheld n)
    (hold : ∀ o ∈ old, o.permCode = n.permCode → Withheld o) : Withheld (mergeOnUpdate old need n) := by
  unfold mergeOnUpdate
  split
  · exact hn
  rename_i o ho
  have hcode : o.permCode = n.permCode := by simpa [hasCode] using List.find?_some ho
  split
  · exact hn
  · exact (hold o (List.mem_of_find?_eq_some ho) hcode).update hn

/-- **The flags a reset does not grant under**: a pre-authorised permission of the administrator is granted by a reset
and keeps a flag the merge takes over. -/
def ResetSafe (f : Flag) : Prop :=
  hasAny f permissionSystemFixed = true ∨ hasAny f permissionPreAuthorizedCancelable = false ∨
    hasAny f (permissionFixedByAdminPolicy ||| permissionRestrictedByAdmin) = false
deriving Decidable

/-- What a reset makes of an entry with a safe flag: it stays withheld, or it is granted as pre-authorised only. -/
theorem ResetSafe.reset (h : ResetSafe d.flag) :
    (resetPermState d).flag = permissionPreAuthorizedCancelable ∨ (Withheld d → Withheld (resetPermState d)) := by
  unfold resetPermState
  dsimp only
  split
  · exact .inr id
  rename_i hsystem
  split
  · rename_i hpre
    have hadmin : d.flag &&& (permissionFixedByAdminPolicy ||| permissionRestrictedByAdmin) = 0#32 :=
      Lib.hasAny_eq_false.1 ((h.resolve_left hsystem).resolve_left (by rw [hpre]; decide))
    rw [hadmin]
    exact .inl rfl
  split
  · exact .inr id
  split
  · exact .inr id
  · exact .inr fun _ => ⟨rfl, Lib.zero_hasAny⟩

theorem Withheld.component_reset (h : Withheld d) : hasAny (resetPermState d).flag permissionComponentSet = false := by
  have hpre : hasAny permissionPreAuthorizedCancelable permissionComponentSet = false := by decide
  have hadmin : (permissionFixedByAdminPolicy ||| permissionRestrictedByAdmin) &&& permissionComponentSet =
    0#32 := by decide
  unfold resetPermState
  dsimp only
  split
  · exact h.component
  split
  · rw [Lib.hasAny_or, hpre, Lib.hasAny_and, hadmin, Lib.hasAny_zero]
    rfl
  split
  · exact h.component
  split
  · exact h.component
  · exact Lib.zero_hasAny

/-- **The merge at the end of a reset**: an entry that was granted as pre-authorised takes the state the DLP filter
denied, any other one was withheld already. -/
theorem Withheld.merge_reset (hn : Withheld n) (hl : ∀ o ∈ l, o.permCode = n.permCode → Withheld o ∧ ResetSafe o.flag) :
    Withheld (mergeOnUpdate (l.map resetPermState) false n) := by
  unfold mergeOnUpdate
  split
  · exact hn
  rename_i o' ho'
  have hcode : o'.permCode = n.permCode := by simpa [hasCode] using List.find?_some ho'
  obtain ⟨o, ho, rfl⟩ := List.mem_map.1 (List.mem_of_find?_eq_some ho')
  obtain ⟨hold, hsafe⟩ := hl o ho ((resetPermState_permCode o).symm.trans hcode)
  rcases hsafe.reset with hpre | hkept
  · have hkeeps : keepsInitializedState (resetPermState o) n = true := by
      unfold keepsInitializedState
      rw [hpre]
      simp
    rw [updatePermStatus, if_pos hkeeps]
    exact hn
  · exact (hkept hold).update hn

def Allowed (T : PermissionTable) (D : DlpPermissionModeMap) (dlpType : Int32) (d : BriefPermData) : Prop :=
  isPermissionAvailableToDlpHap T D dlpType d.permCode = true ∨ Withheld d

theorem Allowed.keep {dlpType : Int32} (h : Allowed T D dlpType d)
    (hcode : d'.permCode = d.permCode) (hw : Withheld d → Withheld d') : Allowed T D dlpType d' :=
  Or.imp (fun hin => hcode ▸ hin) hw h

theorem Allowed.merge (hn : Allowed T D ty n) (hold : ∀ o ∈ old, Allowed T D ty o) :
    Allowed T D ty (mergeOnUpdate old need n) := by
  have hcode := mergeOnUpdate_permCode old need n
  cases hin : isPermissionAvailableToDlpHap T D ty n.permCode with
  | true => exact .inl (by rw [hcode]; exact hin)
  | false =>
    have hout : ∀ {d}, Allowed T D ty d → d.permCode = n.permCode → Withheld d := fun hd hc =>
      hd.resolve_left (by rw [hc, hin]; decide)
    exact .inr ((hout hn rfl).merge (fun o ho hc => hout (hold o ho) hc))

/-! ## The permission data -/

structure BriefWithin (T : PermissionTable) (D : DlpPermissionModeMap) (type : AccessTokenID → Option Int32)
    (b : PermissionDataBrief) : Prop where
  lists : ∀ (t : AccessTokenID) ty l, type t = some ty → b.requestedPermData[t]? = some l → ∀ d ∈ l, Allowed T D ty d
  secOwned : ∀ t c, b.HasSecComp t c → t ∈ b.requestedPermData
  secComp : ∀ t ty c, type t = some ty → b.HasSecComp t c → isPermissionAvailableToDlpHap T D ty c = true

variable {type type' : AccessTokenID → Option Int32} {b b' : PermissionDataBrief} {g : Bool}

section

variable (h : BriefWithin T D type b)
include h

/-- **A new list of one token**, whose type may be new too. -/
theorem BriefWithin.insert
    (hreq : b'.requestedPermData = b.requestedPermData.insert t l) (hsec : b'.secCompList = b.secCompList)
    (htype : ∀ x, x ≠ t → type' x = type x) (hnew : ∀ ty, type' t = some ty → (∀ d ∈ l, Allowed T D ty d) ∧
      ∀ c, b.HasSecComp t c → isPermissionAvailableToDlpHap T D ty c = true) : BriefWithin T D type' b' where
  lists x ty l' hx hl' := by
    rw [hreq] at hl'
    rcases Lib.getElem?_insert_eq_some.1 hl' with ⟨rfl, rfl⟩ | ⟨hne, hl'⟩
    · exact (hnew ty hx).1
    · exact h.lists x ty l' (htype x hne ▸ hx) hl'
  secOwned x c hc := by
    unfold HasSecComp at hc
    rw [hsec] at hc
    rw [hreq]
    exact mem_insert.2 (.inr (h.secOwned x c hc))
  secComp x ty c hx hc := by
    unfold HasSecComp at hc
    rw [hsec] at hc
    by_cases hxt : x = t
    · subst hxt
      exact (hnew ty hx).2 c hc
    · exact h.secComp x ty c (htype x hxt ▸ hx) hc

theorem BriefWithin.retype (ht : t ∉ b.requestedPermData)
    (htype : ∀ x, x ≠ t → type' x = type x) : BriefWithin T D type' b where
  lists x ty l hx hl := by
    have hne : x ≠ t := by
      rintro rfl
      exact ht (Service.mem_of_getElem? hl)
    exact h.lists x ty l (htype x hne ▸ hx) hl
  secOwned := h.secOwned
  secComp x ty c hx hc := by
    have hne : x ≠ t := by
      rintro rfl
      exact ht (h.secOwned x c hc)
    exact h.secComp x ty c (htype x hne ▸ hx) hc

theorem BriefWithin.delete (htype : ∀ x, x ≠ t → type' x = type x) :
    BriefWithin T D type' (b.deleteBriefPermDataByTokenId t).2 := by
  rcases deleteBriefPermDataByTokenId_cases t with ⟨hno, heq⟩ | ⟨-, heq⟩
  · rw [heq]
    exact h.retype hno htype
  rw [heq]
  have hne : ∀ {x c}, (⟨c, x⟩ : BriefSecCompData) ∈ b.secCompList.filter (fun c => c.tokenId != t) →
      x ≠ t ∧ b.HasSecComp x c := by
    intro x c hc
    obtain ⟨hmem, hx⟩ := List.mem_filter.1 hc
    exact ⟨by simpa using hx, hmem⟩
  refine ⟨fun x ty l hx hl => ?_, fun x c hc => ?_, fun x ty c hx hc => ?_⟩
  · obtain ⟨hxt, hl⟩ := Lib.getElem?_erase_eq_some.1 hl
    exact h.lists x ty l (htype x hxt ▸ hx) hl
  · exact mem_erase.2 ((hne hc).imp_right (h.secOwned x c))
  · obtain ⟨hxt, hc⟩ := hne hc
    exact h.secComp x ty c (htype x hxt ▸ hx) hc

theorem BriefWithin.modifyEntry {f : BriefPermData → BriefPermData}
    (hf : ∀ ty d, type t = some ty → d.permCode = c → Allowed T D ty d → Allowed T D ty (f d)) :
    BriefWithin T D type (b.modifyEntry t c f) where
  lists x ty l hx hl d hd := by
    rw [requested_modifyEntry] at hl
    split at hl
    · rename_i heq
      subst heq
      obtain ⟨l₀, hl₀, rfl⟩ := Option.map_eq_some_iff.1 hl
      rcases Lib.mem_modifyFirst hd with hd | ⟨d₀, hd₀, rfl⟩
      · exact h.lists t ty l₀ hx hl₀ d hd
      · have hcode : d₀.permCode = c := by simpa [hasCode] using List.find?_some hd₀
        exact hf ty d₀ hx hcode (h.lists t ty l₀ hx hl₀ d₀ (List.mem_of_find?_eq_some hd₀))
    · exact h.lists x ty l hx hl d hd
  secOwned x c' hc := mem_modifyEntry.2 (h.secOwned x c' hc)
  secComp x ty c' hx hc := h.secComp x ty c' hx hc

end

/-- **A change of a permission in the range of its token, or a revoke**, keeps the data in range. -/
theorem BriefWithin.updatePermissionStatus (h : BriefWithin T D type b) {n : String}
    (hrange : g = true → ∀ ty c, type t = some ty → T.transferPermissionToOpcode n = some c →
      isPermissionAvailableToDlpHap T D ty c = true) :
    BriefWithin T D type (updatePermissionStatus T b t n g fl).2.2 := by
  rcases updatePermissionStatus_cases t n g fl with
    hsame | ⟨c, hc, ⟨hcomp, d, -, -, -, hb'⟩ | ⟨-, ht, -, -, -, hb'⟩⟩
  · rw [hsame]
    exact h
  · rw [hb']
    refine h.modifyEntry fun ty d hty hcode hd => ?_
    cases g with
    | true => exact .inl (hcode ▸ hrange rfl ty c hty hc)
    | false => exact hd.keep (updatedPermState_permCode false fl d) (fun hw => hw.revoked hcomp)
  rw [hb']
  cases g with
  | true =>
    have hgranted : BriefWithin T D type { b with secCompList := if b.secCompList.contains ⟨c, t⟩ then b.secCompList
        else b.secCompList ++ [⟨c, t⟩] } := by
      have hmem : ∀ {x c'}, (⟨c', x⟩ : BriefSecCompData) ∈ (if b.secCompList.contains ⟨c, t⟩ then b.secCompList
          else b.secCompList ++ [⟨c, t⟩]) → b.HasSecComp x c' ∨ (x = t ∧ c' = c) := by
        intro x c' hx
        split at hx
        · exact .inl hx
        · rcases List.mem_append.1 hx with hx | hx
          · exact .inl hx
          · cases List.mem_singleton.1 hx
            exact .inr ⟨rfl, rfl⟩
      refine ⟨h.lists, fun x c' hx => ?_, fun x ty c' hty hx => ?_⟩
      · rcases hmem hx with hx | ⟨rfl, -⟩
        · exact h.secOwned x c' hx
        · exact ht
      · rcases hmem hx with hx | ⟨rfl, rfl⟩
        · exact h.secComp x ty c' hty hx
        · exact hrange rfl ty c' hty hc
    exact hgranted.modifyEntry fun ty d hty hcode _ => .inl (hcode ▸ hrange rfl ty c hty hc)
  | false =>
    have hrevoked : BriefWithin T D type { b with secCompList := b.secCompList.erase ⟨c, t⟩ } :=
      ⟨h.lists, fun x c' hx => h.secOwned x c' (List.mem_of_mem_erase hx),
        fun x ty c' hty hx => h.secComp x ty c' hty (List.mem_of_mem_erase hx)⟩
    exact hrevoked.modifyEntry fun ty d _ _ hd => hd.keep rfl Withheld.componentRevoked

/-! ## The rows -/

/-- The rows respect the DLP type stored with them, which is the type of the token in memory. -/
structure RowsWithin (T : PermissionTable) (D : DlpPermissionModeMap) (type : AccessTokenID → Option Int32)
    (db : Database) : Prop where
  sameType : ∀ (t : AccessTokenID) ty row, type t = some ty → db.hapTokenInfo[t]? = some row → row.dlpType = ty
  states : ∀ (t : AccessTokenID) (n : String) r, (db.permissionState t)[n]? = some r →
    ∃ row, db.hapTokenInfo[t]? = some row ∧ ∀ c, T.transferPermissionToOpcode n = some c →
      isPermissionAvailableToDlpHap T D row.dlpType c = true ∨ r.grantState = permissionDenied

def StoredAllowed (T : PermissionTable) (D : DlpPermissionModeMap) (ty : Int32) (s : PermissionStatus) : Prop :=
  ∀ c ∈ T.transferPermissionToOpcode s.permissionName,
    isPermissionAvailableToDlpHap T D ty c = true ∨ s.grantStatus = permissionDenied
deriving Decidable

theorem Allowed.stored (h : Allowed T D ty d) (hcode : d.permCode < T.permList.length) {s : PermissionStatus}
    (hname : s.permissionName = T.transferOpcodeToPermission d.permCode)
    (hstatus : Withheld d → s.grantStatus = permissionDenied) : StoredAllowed T D ty s := by
  intro c hc
  rw [hname, transferPermissionToOpcode_transferOpcode hcode] at hc
  cases hc
  exact Or.imp_right hstatus h

variable {db db' : Database}

section

variable (h : RowsWithin T D type db)
include h

/-- **Rows written from allowed states** of a token that has its row. -/
theorem RowsWithin.rowsFrom (ht : type t = some ty) {states : List PermissionStatus}
    (hrows : RowsFrom db t states db') (hst : ∀ s ∈ states, StoredAllowed T D ty s) :
    RowsWithin T D type db' where
  sameType x ty' row hx hrow := h.sameType x ty' row hx (hrows.hapTokenInfo ▸ hrow)
  states x n r hr := by
    have hmem : n ∈ db.permissionState x := hrows.there x n (Lib.mem_iff_exists.2 ⟨_, hr⟩)
    obtain ⟨row, hrow, hold⟩ := h.states x n _ (getElem?_eq_some_getElem hmem)
    refine ⟨row, by rw [hrows.hapTokenInfo]; exact hrow, fun c hc => ?_⟩
    rcases hrows.row x n r hr with hsame | ⟨rfl, s, hs, rfl, rfl⟩
    · obtain ⟨row', hrow', hall⟩ := h.states x n r hsame
      obtain rfl : row = row' := Option.mem_unique hrow hrow'
      exact hall c hc
    · rw [h.sameType x ty row ht hrow]
      exact hst s hs c hc

/-- **The rows of one token rewritten**, with its own row. -/
theorem RowsWithin.store {row₀ : HapTokenRow} (htype : ∀ x, x ≠ t → type' x = type x)
    (hty : ∀ ty, type' t = some ty → row₀.dlpType = ty)
    (hhap : ∀ x, db'.hapTokenInfo[x]? = if t = x then some row₀ else db.hapTokenInfo[x]?)
    (hother : ∀ x, x ≠ t → db'.permissionState x = db.permissionState x)
    (hown : ∀ n r, (db'.permissionState t)[n]? = some r → ∃ s, StoredAllowed T D row₀.dlpType s ∧ s.permissionName = n ∧
      s.grantStatus = r.grantState) : RowsWithin T D type' db' where
  sameType x ty row hx hrow := by
    rw [hhap] at hrow
    split at hrow
    · rename_i heq
      subst heq
      cases hrow
      exact hty ty hx
    · rename_i hne
      exact h.sameType x ty row (htype x (Ne.symm hne) ▸ hx) hrow
  states x n r hr := by
    by_cases hx : t = x
    · subst hx
      obtain ⟨s, hs, rfl, hstatus⟩ := hown n r hr
      exact ⟨row₀, by rw [hhap, if_pos rfl], fun c hc => hstatus ▸ hs c hc⟩
    · rw [hother x (Ne.symm hx)] at hr
      obtain ⟨row, hrow, hall⟩ := h.states x n r hr
      exact ⟨row, by rw [hhap, if_neg hx]; exact hrow, hall⟩

theorem RowsWithin.retype (htype : ∀ x, x ≠ t → type' x = type x)
    (hty : ∀ ty row, type' t = some ty → db.hapTokenInfo[t]? = some row → row.dlpType = ty) :
    RowsWithin T D type' db where
  sameType x ty row hx hrow := by
    by_cases hxt : x = t
    · subst hxt
      exact hty ty row hx hrow
    · exact h.sameType x ty row (htype x hxt ▸ hx) hrow
  states := h.states

theorem RowsWithin.remove (htype : ∀ x, x ≠ t → type' x = type x)
    (hnone : type' t = none) (hhap : ∀ x, x ≠ t → db'.hapTokenInfo[x]? = db.hapTokenInfo[x]?)
    (hperm : ∀ x, x ≠ t → db'.permissionState x = db.permissionState x)
    (hwhole : db' = db ∨ db'.permissionState t = ∅) :
    RowsWithin T D type' db' where
  sameType x ty row hx hrow := by
    have hxt : x ≠ t := by
      rintro rfl
      rw [hnone] at hx
      cases hx
    exact h.sameType x ty row (htype x hxt ▸ hx) (hhap x hxt ▸ hrow)
  states x n r hr := by
    by_cases hxt : x = t
    · subst hxt
      rcases hwhole with rfl | hempty
      · exact h.states x n r hr
      · rw [hempty] at hr
        simp at hr
    · obtain ⟨row, hrow, hall⟩ := h.states x n r (hperm x hxt ▸ hr)
      exact ⟨row, (hhap x hxt).trans hrow, hall⟩

end

theorem allowed_of_restored {row : PermissionStatus} (h : Restored T row d) (hrow : StoredAllowed T D ty row) :
    Allowed T D ty d := by
  rcases hrow d.permCode h.code with hin | hdenied
  · exact .inl hin
  refine .inr ⟨?_, ?_⟩
  · rw [h.status]
    split
    · rfl
    · exact hdenied
  · rw [h.flag]
    exact Lib.hasAny_clear_self row.grantFlag permissionComponentSet

namespace Service

variable {w w' : Service}

def dlpTypeOf (w : Service) (t : AccessTokenID) : Option Int32 :=
  (w.hapTokenInfoMap[t]?).map fun info => info.dlpType

variable {t id : AccessTokenID} {inner info : HapTokenInfoInner} {states : List PermissionStatus} {s : PermissionStatus}
    {policy : HapPolicy} {env : Env} {dbOk : Bool}

theorem dlpTypeOf_of_live (h : w.hapTokenInfoMap[t]? = some info) :
    w.dlpTypeOf t = some info.dlpType := by
  rw [dlpTypeOf, h]
  rfl

/-- **What the operations keep of the DLP range**, when no step brings a permission outside it in. -/
structure WithinDlpRange (T : PermissionTable) (D : DlpPermissionModeMap) (w : Service) : Prop extends Lasting T w where
  briefWithin : BriefWithin T D w.dlpTypeOf w.brief
  rowsWithin : RowsWithin T D w.dlpTypeOf w.db

theorem withinDlpRange_empty : empty.WithinDlpRange T D :=
  { lasting_empty with
    briefWithin := ⟨by simp [empty, dlpTypeOf], by simp [empty, PermissionDataBrief.empty,
      HasSecComp], by simp [empty, dlpTypeOf]⟩
    rowsWithin := ⟨by simp [empty, dlpTypeOf], by simp [empty, Database.empty]⟩ }

theorem storedAllowed_of_values (hlast : AllEntries (LastingEntry T) b)
    (hall : ∀ l, b.requestedPermData[t]? = some l → ∀ d ∈ l, Allowed T D ty d)
    (hs : s ∈ (b.permissionStateValues T t).getD []) : StoredAllowed T D ty s := by
  unfold permissionStateValues at hs
  cases hl : b.requestedPermData[t]? with
  | none => rw [hl] at hs; cases hs
  | some l =>
    rw [hl] at hs
    obtain ⟨d, hd, rfl⟩ := List.mem_map.1 hs
    exact (hall l hl d hd).stored (hlast t l hl d hd).code rfl Withheld.status

theorem storedAllowed_of_stored (hlast : AllEntries (LastingEntry T) w.brief)
    (hall : ∀ l, w.requestedPermData[t]? = some l → ∀ d ∈ l, Allowed T D ty d) (hs : s ∈ w.storedStates T t) :
    StoredAllowed T D ty s := by
  obtain ⟨s₀, hs₀, rfl⟩ := List.mem_map.1 hs
  have hallowed := storedAllowed_of_values hlast hall hs₀
  split
  · exact hallowed
  · split <;> exact hallowed

/-! ## The operations -/

theorem WithinDlpRange.load (h : w.WithinDlpRange T D) (findOk : Bool) (id : AccessTokenID) :
    (getHapTokenInfoInner T w findOk id).2.WithinDlpRange T D := by
  have hlast := h.toLasting.load findOk id
  rcases getHapTokenInfoInner_cases T w findOk id with ⟨_, _, heq⟩ | ⟨_, m, b, _, hb, heq⟩ |
    ⟨hnone, _, row, hap, hrow, _, hhap, heq⟩
  · rw [heq]
    exact h
  · rw [heq] at hlast ⊢
    rcases hb with rfl | rfl
    · exact { hlast with briefWithin := h.briefWithin, rowsWithin := h.rowsWithin }
    · exact { hlast with briefWithin := h.briefWithin.delete fun _ _ => rfl, rowsWithin := h.rowsWithin }
  rw [heq] at hlast ⊢
  have hdlp : hap.dlpType = row.dlpType := by
    unfold HapTokenRow.restoreHapTokenBasicInfo at hhap
    split at hhap
    · cases hhap
      rfl
    · cases hhap
  have hown : (w.loadedFrom T hap id).dlpTypeOf id = some row.dlpType := by
    rw [← hdlp]
    exact dlpTypeOf_of_live (w := w.loadedFrom T hap id) getElem?_insert_self
  have htype : ∀ x, x ≠ id → (w.loadedFrom T hap id).dlpTypeOf x = w.dlpTypeOf x := by
    exact fun x hx => congrArg (Option.map _) (Lib.getElem?_insert_of_ne hx)
  have hfree : id ∉ w.requestedPermData := fun hmem => not_mem_of_getElem? hnone (h.owned id hmem)
  have hrows : ∀ r ∈ w.db.findPermissionState id, StoredAllowed T D row.dlpType r := by
    intro r hr c hc
    obtain ⟨⟨n, st⟩, hmem, rfl⟩ := List.mem_map.1 hr
    obtain ⟨row', hrow', hall⟩ := h.rowsWithin.states id n st (Std.ExtTreeMap.mem_toList_iff_getElem?_eq_some.1 hmem)
    obtain rfl : row = row' := Option.mem_unique hrow hrow'
    exact hall c hc
  refine { hlast with briefWithin := ?_, rowsWithin := h.rowsWithin.retype htype fun ty r hty hr => ?_ }
  · rcases restorePermissionBriefData_cases id (w.db.findPermissionState id) (w.db.findExtendValue id) with
      hsame | ⟨l, ext, hins, -, -, hl⟩
    · have hbrief : (w.loadedFrom T hap id).brief = w.brief := hsame
      rw [hbrief]
      exact h.briefWithin.retype hfree htype
    have hbrief : (w.loadedFrom T hap id).brief =
        { w.brief with requestedPermData := w.requestedPermData.insert id l, extendedValue := ext } := hins
    rw [hbrief]
    refine h.briefWithin.insert rfl rfl htype fun ty hty => ?_
    obtain rfl : row.dlpType = ty := Option.mem_unique hown hty
    refine ⟨fun d hd => ?_, fun c hc => absurd (h.briefWithin.secOwned id c hc) hfree⟩
    obtain ⟨r, hr, hfrom⟩ := hl d hd
    exact allowed_of_restored hfrom (hrows r hr)
  · obtain rfl : row = r := Option.mem_unique hrow hr
    exact Option.mem_unique hown hty

/-- **A grant in the range of the token, or a revoke.** -/
theorem WithinDlpRange.updateAndNotify (h : w.WithinDlpRange T D)
    (hget : w.hapTokenInfoMap[t]? = some inner) {n : String} (hrange : InDlpRange D inner n)
    (hname : g = true → cStr n = n) (hfl : isPermissionFlagValid fl = true) :
    (updateAndNotify T w env inner n g fl).2.WithinDlpRange T D := by
  have hlast := h.toLasting.updateAndNotify env inner n g hfl
  revert hlast
  have hid : inner.tokenID = t := h.keyed t inner hget
  have hty := dlpTypeOf_of_live hget
  have hbrief : BriefWithin T D w.dlpTypeOf (w.grantedBrief T inner n g fl) := by
    unfold grantedBrief
    rw [hid]
    refine h.briefWithin.updatePermissionStatus fun hg ty c hty' hc => ?_
    obtain rfl := Option.mem_unique hty hty'
    rw [isPermissionAvailableToDlpHap_of_transfer hc (hname hg)]
    exact hrange
  rcases updateAndNotify_cases T w env inner n g fl with ⟨e, heq⟩ | ⟨c, db, _, hrows, heq⟩
  · rw [heq]
    exact fun _ => h
  rw [heq]
  rw [hid] at hrows
  intro hlast
  refine { hlast with briefWithin := hbrief, rowsWithin := h.rowsWithin.rowsFrom hty hrows fun s hs => ?_ }
  have hs := List.mem_of_mem_filter hs
  rw [hid] at hs
  exact storedAllowed_of_values hlast.entries (fun l hl => hbrief.lists t _ l hty hl) hs

theorem keptByParts_withinDlpRange : KeptByParts T (WithinDlpRange T D) where
  load _ findOk id hw := hw.load findOk id
  flag w t c r hw := by
    refine { (keptByParts_lasting T).flag w t c r hw.toLasting with briefWithin := ?_, rowsWithin := hw.rowsWithin }
    rcases updatePermissionFlag_cases t c permissionRestrictedByAdmin r with
      ⟨-, e, heq⟩ | ⟨d, -, heq⟩
    · rw [heq]
      exact hw.briefWithin
    · rw [heq]
      exact hw.briefWithin.modifyEntry fun ty d _ _ hd =>
        hd.keep rfl fun hd => hd.of_eq rfl (component_maskedFlag r d.flag)
  row w t values s hw hvalues hs := by
    have hlast := (keptByParts_lasting T).row w t values s hw.toLasting hvalues hs
    have hmem : t ∈ w.requestedPermData := by
      obtain ⟨l, hl, -⟩ := Option.map_eq_some_iff.1 hvalues
      rw [mem_iff_isSome_getElem?, hl]
      rfl
    obtain ⟨info, hinfo⟩ := Lib.mem_iff_exists.1 (hw.owned t hmem)
    have hty := dlpTypeOf_of_live hinfo
    refine { hlast with
      briefWithin := hw.briefWithin
      rowsWithin := hw.rowsWithin.rowsFrom hty (rowsFrom_modify (List.mem_singleton.2 rfl)) fun s' hs' => ?_ }
    rw [List.mem_singleton.1 hs']
    exact storedAllowed_of_values hw.entries (fun l hl => hw.briefWithin.lists t _ l hty hl) (by rw [hvalues]; exact hs)
  kernel w k hw := { (keptByParts_lasting T).kernel w k hw.toLasting with
    briefWithin := hw.briefWithin, rowsWithin := hw.rowsWithin }
  policy w p hw := { (keptByParts_lasting T).policy w p hw.toLasting with
    briefWithin := hw.briefWithin, rowsWithin := hw.rowsWithin }

theorem WithinDlpRange.removed (h : w.WithinDlpRange T D) (hget : w.hapTokenInfoMap[t]? = some info)
    (hr : Removed w t info false w') : w'.WithinDlpRange T D := by
  have hid : info.tokenID = t := h.keyed t info hget
  have hbrief : w'.brief = (w.brief.deleteBriefPermDataByTokenId t).2 := by
    rw [hr.brief, hid]
    rfl
  have htype : ∀ x, x ≠ t → w'.dlpTypeOf x = w.dlpTypeOf x := by
    intro x hx
    unfold dlpTypeOf
    rw [hr.infoMap, Lib.getElem?_erase_of_ne hx]
  have hnone : w'.dlpTypeOf t = none := by
    unfold dlpTypeOf
    rw [hr.infoMap]
    simp
  refine { h.toLasting.removed hget hr with briefWithin := ?_, rowsWithin := ?_ }
  · rw [hbrief]
    exact h.briefWithin.delete htype
  · refine h.rowsWithin.remove htype hnone (fun x hx => hr.otherRows x hx (by rw [hid]; exact hx)) (fun x hx => ?_) ?_
    · exact (hr.permRows x).resolve_right fun heq => hx (heq.1.trans hid)
    · rw [← hid]
      exact hr.wholeRows

/-- **A state an install may bring**: in range, or without the component bit and under the name the filter knows. -/
def InstallsWithin (T : PermissionTable) (D : DlpPermissionModeMap) (dlpType : Int32) (s : PermissionStatus) : Prop :=
  ∀ c ∈ T.transferPermissionToOpcode s.permissionName, isPermissionAvailableToDlpHap T D dlpType c = true ∨
    (hasAny s.grantFlag permissionComponentSet = false ∧
      (s.grantStatus = permissionDenied ∨ cStr s.permissionName = s.permissionName))
deriving Decidable

/-- **A state an update may bring**: in range, or denied and without the component bit. -/
def UpdatesWithin (T : PermissionTable) (D : DlpPermissionModeMap) (dlpType : Int32) (s : PermissionStatus) : Prop :=
  ∀ c ∈ T.transferPermissionToOpcode s.permissionName, isPermissionAvailableToDlpHap T D dlpType c = true ∨
    (hasAny s.grantFlag permissionComponentSet = false ∧ s.grantStatus = permissionDenied)
deriving Decidable

theorem UpdatesWithin.allowed (h : UpdatesWithin T D ty s) (hd : briefPermDataOf T s = some d) : Allowed T D ty d := by
  obtain ⟨hstatus, hflag, hcode, -⟩ := briefPermDataOf_eq_some hd
  refine Or.imp_right (fun hs => ⟨hstatus.trans hs.2, hflag ▸ hs.1⟩) (h d.permCode hcode)

/-- **The filter of an install makes its states ones an update may bring too.** -/
theorem InstallsWithin.filtered (h : ∀ s ∈ states, InstallsWithin T D ty s) :
    ∀ s ∈ updatePermStateWithDlpInfo D ty states, UpdatesWithin T D ty s := by
  intro st hst c hc
  obtain ⟨s, hs, rfl⟩ := List.mem_map.1 hst
  split at hc
  · rename_i hdenied
    rw [if_pos hdenied]
    exact Or.imp_right (fun hs => ⟨hs.1, by simpa using hdenied⟩) (h s hs c hc)
  rename_i hstatus
  have hname : T.transferPermissionToOpcode s.permissionName = some c := by
    split at hc <;> exact hc
  rw [if_neg hstatus]
  rcases h s hs c hname with hin | ⟨hflag, hdenied | hcstr⟩
  · exact .inl hin
  · exact absurd (by simpa using hdenied) hstatus
  rw [isPermissionAvailableToDlpHap_of_transfer hname hcstr]
  split
  · rename_i hin
    exact .inl hin
  · exact .inr ⟨hflag, rfl⟩

theorem allowed_withPolicyFlag (h : Allowed T D ty d) : Allowed T D ty (withPolicyFlag records t u d) :=
  h.keep rfl fun hd => hd.of_eq rfl component_policyFlag

/-- **The entries a token is installed with** are allowed. -/
theorem allowed_of_installed (ht : getTokenIdTypeEnum t = .tokenHap) {info : HapInfoParams}
    (h : ∀ s ∈ policy.permStateList, InstallsWithin T D info.dlpType s) :
    ∀ d ∈ addedList T t (initialStates T D w t info policy) true, Allowed T D info.dlpType d := by
  intro d hd
  unfold addedList keptPermStates initialStates at hd
  rw [if_pos rfl, ht] at hd
  obtain ⟨st, hst, d₀, hbrief, rfl⟩ := mem_adjusted hd
  refine allowed_withPolicyFlag ?_
  unfold installStates at hst
  split at hst
  · exact (InstallsWithin.filtered h st hst).allowed hbrief
  · rename_i hcommon
    obtain ⟨-, -, hcode, -⟩ := briefPermDataOf_eq_some hbrief
    rw [not_not.1 hcommon]
    exact .inl (isPermissionAvailableToDlpHap_common (code_lt_of_transfer hcode))

theorem rowsWithin_of_stored (h : RowsWithin T D type w.db) {isUpdate : Bool}
    (hok : addHapTokenInfoToDb T w dbOk info isUpdate = (.ok (), { w with db := db }))
    (hstale : isUpdate = false → ∀ s ∈ w.db.findPermissionState info.tokenID,
      StoredAllowed T D info.dlpType s)
    (hreserved : w.reservedHapTokenIdMap = ∅) (htype : ∀ x, x ≠ info.tokenID → type' x = type x)
    (hty : ∀ ty, type' info.tokenID = some ty → info.dlpType = ty)
    (hlast : AllEntries (LastingEntry T) w.brief)
    (hall : ∀ l, w.requestedPermData[info.tokenID]? = some l →
      ∀ d ∈ l, Allowed T D info.dlpType d) : RowsWithin T D type' db := by
  have hres : w.getReservedHapTokenId info.userID info.bundleName
      info.instIndex = invalidTokenId := by
    unfold getReservedHapTokenId
    rw [hreserved]
    simp
  have hhap := fun t => hapRows_of_stored hres hok (t := t) (.inr rfl)
  obtain ⟨hstate, -⟩ := rows_of_stored hok
  refine h.store htype hty hhap (fun x hx => by rw [hstate, Function.update_of_ne hx]) fun n r hr => ?_
  rw [hstate, Function.update_self] at hr
  rcases insertPermStates_row hr with hold | ⟨s, hs, hname, rfl⟩
  · -- an updated token has lost its rows, under a new id they may be those of an earlier one
    cases isUpdate with
    | true => simp at hold
    | false =>
      have hmem := Std.ExtTreeMap.mem_toList_iff_getElem?_eq_some.2 hold
      exact ⟨_, hstale rfl _ (List.mem_map_of_mem hmem), rfl, rfl⟩
  · exact ⟨s, storedAllowed_of_stored hlast hall hs, hname, rfl⟩

theorem WithinDlpRange.installed (h : w.WithinDlpRange T D) (hreserved : w.reservedHapTokenIdMap = ∅)
    (hnew : t ∉ w.hapTokenInfoMap) (hform : AccessTokenIDManager.WellFormedId t .tokenHap) {info : HapInfoParams}
    (hstates : ∀ s ∈ policy.permStateList, InstallsWithin T D info.dlpType s)
    (hstale : ∀ s ∈ w.db.findPermissionState t, StoredAllowed T D info.dlpType s)
    (hok : addHapTokenInfoToDb T (registered T D w t info policy w.db) dbOk (.ofParams t info) false =
      (.ok (), registered T D w t info policy db)) :
    (installed T D w t info policy db).WithinDlpRange T D := by
  have hallowed := allowed_of_installed (w := w) hform.type hstates
  obtain ⟨hreq, hsec⟩ := addPermToBriefPermission_eq t (initialStates T D w t info policy) policy.aclExtendedMap true
  have hlive : (Service.installed T D w t info policy db).hapTokenInfoMap[t]? = some (.ofParams t info) :=
    getElem?_insert_self
  have hown : (Service.installed T D w t info policy db).dlpTypeOf t = some info.dlpType := dlpTypeOf_of_live hlive
  have htype : ∀ x, x ≠ t → (Service.installed T D w t info policy db).dlpTypeOf x = w.dlpTypeOf x := by
    exact fun x hx => congrArg (Option.map _) (Lib.getElem?_insert_of_ne hx)
  have hlist : ∀ l, (registered T D w t info policy w.db).requestedPermData[t]? = some l →
      ∀ d ∈ l, Allowed T D info.dlpType d := by
    intro l hl
    have hl : (w.brief.addPermToBriefPermission T t (initialStates T D w t info policy) policy.aclExtendedMap
      true).requestedPermData[t]? = some l := hl
    rw [hreq, getElem?_insert_self] at hl
    cases hl
    exact hallowed
  refine { h.toLasting.installed hnew hform hok with
    briefWithin := h.briefWithin.insert hreq hsec htype fun ty hty => ?_
    rowsWithin :=
      rowsWithin_of_stored (w := registered T D w t info policy w.db) h.rowsWithin hok (fun _ => hstale) hreserved htype
      (fun ty hty => Option.mem_unique hown hty) (h.toLasting.registered_entries hform info policy) hlist }
  obtain rfl := Option.mem_unique hown hty
  exact ⟨hallowed, fun c hc => absurd (h.owned t (h.briefWithin.secOwned t c hc)) hnew⟩

/-- The rows that an earlier token left under the id of the new one are in its range. -/
def StaleWithin (T : PermissionTable) (D : DlpPermissionModeMap) (w : Service) (env : Env)
    (info : HapInfoParams) : Prop :=
  ∀ t ∈ (w.registerTokenId env.rand info).toOption.map Prod.fst, ∀ s ∈ w.db.findPermissionState t,
    StoredAllowed T D info.dlpType s

instance (T : PermissionTable) (D : DlpPermissionModeMap) (w : Service) (env : Env) (info : HapInfoParams) :
    Decidable (StaleWithin T D w env info) :=
  Option.decidableForallMem _

theorem WithinDlpRange.createHapTokenInfo (h : w.WithinDlpRange T D) (hreserved : w.reservedHapTokenIdMap = ∅)
    {info : HapInfoParams} (hstates : ∀ s ∈ policy.permStateList, InstallsWithin T D info.dlpType s)
    (hstale : StaleWithin T D w env info) :
    (createHapTokenInfo T D w env info policy).2.WithinDlpRange T D := by
  have hlast := h.toLasting.createHapTokenInfo (D := D) env info policy
  revert hlast
  rcases createHapTokenInfo_cases T D w env info policy with ⟨e, heq⟩ | ⟨t, hform, hknown, hrest⟩
  · rw [heq]
    exact fun _ => h
  have hnew : t ∉ w.hapTokenInfoMap := fun hmem => hknown (.inl (h.registered t hmem hform))
  obtain ⟨hreq, hsec⟩ := addPermToBriefPermission_eq t (initialStates T D w t info policy) policy.aclExtendedMap true
  rcases hrest with ⟨e, db, hdb, heq⟩ | ⟨db, w₁, r, m, _, hok, hdisp, hm, heq⟩
  · rw [heq]
    obtain rfl : db = w.db := hdb.resolve_right hnew
    have hnone : w.dlpTypeOf t = none := by
      unfold dlpTypeOf
      rw [Std.ExtTreeMap.getElem?_eq_none hnew]
      rfl
    have hinserted : BriefWithin T D w.dlpTypeOf (registered T D w t info policy w.db).brief := by
      refine h.briefWithin.insert hreq hsec (fun _ _ => rfl) fun ty hty => ?_
      rw [hnone] at hty
      cases hty
    exact fun hlast => { hlast with briefWithin := hinserted.delete fun _ _ => rfl, rowsWithin := h.rowsWithin }
  · have hreg := registerTokenId_of_created (congrArg Prod.fst heq)
    have hinstalled := h.installed hreserved hnew hform hstates (hstale t hreg) hok
    have hw₁ : w₁.WithinDlpRange T D :=
      h.toTokensSound.of_displaced hnew hinstalled (fun _ _ _ hold hr _ _ => hinstalled.removed hold hr) hdisp
    rw [heq]
    split
    · exact fun hlast => { hlast with briefWithin := hw₁.briefWithin, rowsWithin := hw₁.rowsWithin }
    · exact fun hlast => { hlast with
        briefWithin := hw₁.briefWithin.delete fun _ _ => rfl, rowsWithin := hw₁.rowsWithin }

theorem WithinDlpRange.updatedFrom (h : w.WithinDlpRange T D)
    (hget : w.hapTokenInfoMap[id]? = some inner) (info : UpdateHapInfoParams)
    (hstates : ∀ s ∈ states, UpdatesWithin T D inner.dlpType s) (policy : HapPolicy) :
    (updatedFrom T w id inner info states policy).WithinDlpRange T D := by
  obtain ⟨hreq, hsec⟩ := h.toTokensSound.updatedFrom_brief T hget info states policy
  have hown : w.dlpTypeOf id = some inner.dlpType := dlpTypeOf_of_live hget
  have htype : (Service.updatedFrom T w id inner info states policy).dlpTypeOf = w.dlpTypeOf := by
    funext x
    unfold dlpTypeOf
    simp only [updateHapInfo, getElem?_insert]
    split
    · subst x
      rw [hget]
      rfl
    · rfl
  refine { h.toLasting.updatedFrom hget info states policy with
    briefWithin := h.briefWithin.insert hreq hsec (fun x _ => congrFun htype x) fun ty hty => ?_
    rowsWithin := by rw [htype]; exact h.rowsWithin }
  rw [htype] at hty
  obtain rfl := Option.mem_unique hown hty
  refine ⟨fun d hd => ?_, fun c hc => h.briefWithin.secComp id _ c hown hc⟩
  obtain ⟨d₁, hd₁, rfl⟩ := List.mem_map.1 hd
  obtain ⟨st, hst, d₀, hbrief, rfl⟩ := mem_adjusted hd₁
  refine (allowed_withPolicyFlag ((hstates st hst).allowed hbrief)).merge (fun o ho => ?_)
  obtain ⟨l, hl, ho⟩ := Lib.exists_of_mem_getD ho
  exact h.briefWithin.lists id _ l hown hl o ho

theorem load_reserved (T : PermissionTable) (w : Service) (findOk : Bool) (id : AccessTokenID) :
    (getHapTokenInfoInner T w findOk id).2.reservedHapTokenIdMap = w.reservedHapTokenIdMap := by
  rcases getHapTokenInfoInner_cases T w findOk id with ⟨_, _, heq⟩ | ⟨_, m, b, _, _, heq⟩ |
    ⟨_, _, row, basic, _, _, _, heq⟩
  · rw [heq]
  · rw [heq]
  · rw [heq]
    rfl

theorem WithinDlpRange.updateHapToken (h : w.WithinDlpRange T D) (hreserved : w.reservedHapTokenIdMap = ∅)
    {info : UpdateHapInfoParams} (hstates : ∀ inner ∈ (getHapTokenInfoInner T w env.findOk id).1, ∀ s ∈ states,
      UpdatesWithin T D inner.dlpType s) :
    (updateHapToken T w env id info states policy).2.WithinDlpRange T D := by
  have hlast := h.toLasting.updateHapToken env id info states policy
  have hload := h.load env.findOk id
  have hload_reserved := (load_reserved T w env.findOk id).trans hreserved
  rcases updateHapToken_cases T w env id info states policy with ⟨e, heq⟩ | ⟨e, heq⟩ |
    ⟨inner, hfound, hget, _, _, rfl, ⟨e, _, heq⟩ | ⟨db, hok, heq⟩⟩
  · rw [heq]
    exact h
  · rw [heq]
    exact hload
  · rw [heq]
    exact hload.updatedFrom hget info (hstates inner hfound) policy
  have hupd := hload.updatedFrom hget info (hstates inner hfound) policy
  rw [heq] at hlast ⊢
  have hid : (updatedInner inner info).tokenID = id := hload.keyed id inner hget
  have hlive : (Service.updatedFrom T (getHapTokenInfoInner T w env.findOk id).2 id inner info states
      policy).hapTokenInfoMap[id]? = some (updatedInner inner info) := getElem?_insert_self
  have hown := dlpTypeOf_of_live hlive
  refine { hlast with
    briefWithin := hupd.briefWithin
    rowsWithin := rowsWithin_of_stored hupd.rowsWithin hok (fun hno => absurd hno (by decide)) hload_reserved
      (fun _ _ => rfl) (fun ty hty => ?_) hupd.entries fun l hl => ?_ }
  · rw [hid] at hty
    exact Option.mem_unique hown hty
  · rw [hid] at hl
    exact hupd.briefWithin.lists id _ l hown hl

/-- **The entries of the token a reset may be asked for**: in range, or with a flag a reset does not grant under. -/
def ResetsWithin (T : PermissionTable) (D : DlpPermissionModeMap) (w : Service) (x : AccessTokenID) : Prop :=
  ∀ ty ∈ w.dlpTypeOf x, ∀ d ∈ w.requestedPermData.getD x [],
    isPermissionAvailableToDlpHap T D ty d.permCode = true ∨ ResetSafe d.flag

instance (T : PermissionTable) (D : DlpPermissionModeMap) (w : Service) (x : AccessTokenID) :
    Decidable (ResetsWithin T D w x) := Option.decidableForallMem (w.dlpTypeOf x)

theorem resetState_allowed
    (hl : w.requestedPermData[inner.tokenID]? = some l) (hlast : ∀ d ∈ l, LastingEntry T d)
    {st : PermissionStatus} (hst : st ∈ resetStates T D w inner) :
    ∃ d ∈ l, st.permissionName = T.transferOpcodeToPermission d.permCode ∧ st.grantFlag = (resetPermState d).flag ∧
      (isPermissionAvailableToDlpHap T D inner.dlpType d.permCode = true ∨
        st.grantStatus = permissionDenied) := by
  obtain ⟨d, hd, hname, hflag⟩ := mem_resetStates hl hst
  refine ⟨d, hd, hname, hflag, ?_⟩
  have hcode := transferPermissionToOpcode_transferOpcode (hlast d hd).code
  have hcstr := transferOpcode_of_transfer hcode
  rw [isPermissionAvailableToDlpHap_of_transfer hcode hcstr.symm, ← hname]
  obtain ⟨s, -, rfl⟩ := List.mem_map.1 hst
  split
  · rename_i hdenied
    exact .inr (by simpa using hdenied)
  · split
    · rename_i hin
      exact .inl hin
    · exact .inr rfl

theorem WithinDlpRange.resetBrief (h : w.WithinDlpRange T D)
    (hty : w.dlpTypeOf inner.tokenID = some inner.dlpType)
    (hl : w.requestedPermData[inner.tokenID]? = some l)
    (hok : ResetsWithin T D w inner.tokenID) :
    BriefWithin T D w.dlpTypeOf (resetBrief T D w inner) := by
  obtain ⟨hnew, hother, hsec⟩ := resetBrief_eq T D hl
  have hlast := h.entries _ l hl
  have hallowed := h.briefWithin.lists _ _ l hty hl
  have hsafe : ∀ d ∈ l, isPermissionAvailableToDlpHap T D inner.dlpType d.permCode = true ∨
      ResetSafe d.flag := by
    intro d hd
    exact hok _ hty d (by rw [getD_eq_getD_getElem?, hl]; exact hd)
  refine ⟨fun x ty l' hx hl' d' hd' => ?_, fun x c hc => ?_, fun x ty c hx hc =>
    h.briefWithin.secComp x ty c hx ((hsec x c).1 hc).2⟩
  · by_cases hxt : x = inner.tokenID
    · subst hxt
      obtain rfl := Option.mem_unique hty hx
      obtain rfl := Option.mem_unique hnew hl'
      obtain ⟨n, hn, rfl⟩ := List.mem_map.1 hd'
      obtain ⟨st, hst, hbrief⟩ := mem_freshList hn
      obtain ⟨d, hd, hname, hflag, hdenied⟩ := resetState_allowed hl hlast hst
      obtain ⟨hstatus, hnflag, hncode, -⟩ := briefPermDataOf_eq_some hbrief
      rw [hname, transferPermissionToOpcode_transferOpcode (hlast d hd).code] at hncode
      have hcode : d.permCode = n.permCode := Option.some.inj hncode
      cases hin : isPermissionAvailableToDlpHap T D inner.dlpType n.permCode with
      | true => exact .inl (by rw [mergeOnUpdate_permCode]; exact hin)
      | false =>
        have hout : ∀ o ∈ l, o.permCode = n.permCode → Withheld o ∧ ResetSafe o.flag := fun o ho hc =>
          ⟨(hallowed o ho).resolve_left (by rw [hc, hin]; decide), (hsafe o ho).resolve_left (by rw [hc, hin]; decide)⟩
        refine .inr (Withheld.merge_reset ⟨?_, ?_⟩ hout)
        · exact hstatus.trans (hdenied.resolve_left (by rw [hcode, hin]; decide))
        · rw [hnflag, hflag]
          exact (hout d hd hcode).1.component_reset
    · exact h.briefWithin.lists x ty l' hx (hother x hxt ▸ hl') d' hd'
  · obtain ⟨hxt, hc⟩ := (hsec x c).1 hc
    rw [mem_iff_isSome_getElem?, hother x hxt, ← mem_iff_isSome_getElem?]
    exact h.briefWithin.secOwned x c hc

/-- **A reset of one token** whose entries a reset does not grant. -/
theorem WithinDlpRange.clearUserGrantedPermission (h : w.WithinDlpRange T D)
    (hok : ResetsWithin T D (getHapTokenInfoInner T w env.findOk id).2 id) :
    (clearUserGrantedPermission T D w env id).2.WithinDlpRange T D := by
  have hlast := h.toLasting.clearUserGrantedPermission (D := D) env id
  have hload := h.load env.findOk id
  obtain ⟨w₁, hw₁, heq | ⟨inner, db, k, hget, hmem, hrows, -, heq⟩⟩ := clearUserGrantedPermission_cases T D w env id
  all_goals rw [hw₁] at hload hok; rw [heq] at hlast ⊢
  · exact hload
  have hid : inner.tokenID = id := hload.keyed id inner hget
  have hty : w₁.dlpTypeOf inner.tokenID = some inner.dlpType := by
    rw [hid]
    exact dlpTypeOf_of_live hget
  obtain ⟨l, hl⟩ := Lib.mem_iff_exists.1 hmem
  have hbrief := hload.resetBrief hty hl (by rw [hid]; exact hok)
  have hdb : RowsWithin T D w₁.dlpTypeOf db := hload.rowsWithin.rowsFrom hty hrows fun s hs => by
    obtain ⟨d, hd, hname, -, hdenied⟩ := resetState_allowed hl (hload.entries _ l hl) hs
    intro c hc
    rw [hname, transferPermissionToOpcode_transferOpcode (hload.entries _ l hl d hd).code] at hc
    cases hc
    exact hdenied
  exact { hlast with briefWithin := hbrief, rowsWithin := hdb }

theorem WithinDlpRange.clearUserGrantedPermissionState (h : w.WithinDlpRange T D)
    (hok : ∀ x ∈ id :: (getHapTokenInfoInner T w env.findOk id).2.getRelatedSandBoxHapList id,
      ResetsWithin T D (getHapTokenInfoInner T w env.findOk id).2 x) :
    (clearUserGrantedPermissionState T D w env id).2.WithinDlpRange T D := by
  refine clearUserGrantedPermissionState_invariant (fun _ hw => hw.toLasting) (fun w id hw => hw.load env.findOk id)
    (fun w x hw hlive hsafe => ?_) (fun w w' y hmap _ hlist hsafe => ?_) h hok
  · obtain ⟨inner, hget⟩ := Lib.mem_iff_exists.1 hlive
    refine hw.clearUserGrantedPermission ?_
    rw [getHapTokenInfoInner_of_live hget]
    exact hsafe
  · unfold ResetsWithin dlpTypeOf at hsafe ⊢
    rw [hmap, getD_eq_getD_getElem?, hlist, ← getD_eq_getD_getElem?]
    exact hsafe

/-! ## No reserved ids -/

theorem removeHapTokenInfo_reserved (w : Service) (dbOk held : Bool) (id : AccessTokenID) :
    (w.removeHapTokenInfo dbOk held id false).2.reservedHapTokenIdMap = w.reservedHapTokenIdMap := by
  unfold removeHapTokenInfo
  split
  · rfl
  unfold removeHapTokenInfoInner
  split
  · rename_i heq
    split at heq <;> rfl
  rename_i info w₁ heq
  have hsame : w₁.reservedHapTokenIdMap = w.reservedHapTokenIdMap := by
    split at heq
    · cases heq
    · split at heq
      · cases heq
      · simp only [Bool.false_eq_true, if_false] at heq
        rw [← (Prod.mk.inj (Except.ok.inj heq)).2]
  obtain ⟨db, hdb, -⟩ := removeHapTokenInfoFromDb_cases dbOk info false id
  rw [hdb]
  split <;> exact hsame

theorem addHapTokenInfo_reserved {removeOk : Bool} :
    (w.addHapTokenInfo removeOk info).2.reservedHapTokenIdMap = w.reservedHapTokenIdMap := by
  unfold addHapTokenInfo
  dsimp only
  split
  · rfl
  · show (ite _ _ _ : Service).reservedHapTokenIdMap = _
    rw [apply_ite reservedHapTokenIdMap, removeHapTokenInfo_reserved, ite_self]

theorem createHapTokenInfo_reserved (h : w.reservedHapTokenIdMap = ∅) {info : HapInfoParams} :
    (createHapTokenInfo T D w env info policy).2.reservedHapTokenIdMap = ∅ := by
  unfold createHapTokenInfo
  split
  · exact h
  split
  · exact h
  rename_i t w₀ hreg
  obtain ⟨-, -, rfl⟩ := registerTokenId_eq_ok hreg
  dsimp only
  generalize hw₁ : ({ w with idManager := _, brief := _ } : Service) = w₁
  have h₁ : w₁.reservedHapTokenIdMap = ∅ := by rw [← hw₁]; exact h
  rcases addHapTokenInfoToDb_cases T w₁ env.transactionOk (.ofParams t info) false with ⟨e, heq, -⟩ | ⟨-, heq⟩
  · rw [heq]
    exact h₁
  rw [heq]
  dsimp only
  have h₂ : (({ w₁ with db := insertedDb T w₁ (.ofParams t info) false } : Service).addHapTokenInfo env.removeOk
      (.ofParams t info)).2.reservedHapTokenIdMap = ∅ :=
    addHapTokenInfo_reserved.trans h₁
  generalize ({ w₁ with db := _ } : Service).addHapTokenInfo env.removeOk (.ofParams t info) = res at h₂ ⊢
  obtain ⟨r, w₂⟩ := res
  cases r with
  | error =>
    dsimp only
    obtain ⟨db', hdb', -⟩ := removeHapTokenInfoFromDb_cases
      env.removeOk (.ofParams t info) true (getReservedHapTokenId _ info.userID info.bundleName info.instIndex)
    rw [hdb']
    exact h₂
  | ok =>
    have hremove : w₂.removeReservedHapTokenId info.userID info.bundleName info.instIndex = w₂ := by
      unfold removeReservedHapTokenId
      rw [h₂]
      simp
    dsimp only
    rw [hremove]
    split <;> exact h₂

/-! ## Runs -/

structure Confined (T : PermissionTable) (D : DlpPermissionModeMap) (w : Service) :
    Prop extends WithinDlpRange T D w where
  noReserved : w.reservedHapTokenIdMap = ∅

theorem keptByParts_confined : KeptByParts T (Confined T D) where
  load w findOk id hw := ⟨hw.toWithinDlpRange.load findOk id, (load_reserved T w findOk id).trans hw.noReserved⟩
  flag w t c r hw := ⟨keptByParts_withinDlpRange.flag w t c r hw.toWithinDlpRange, hw.noReserved⟩
  row w t values s hw hvalues hs :=
    ⟨keptByParts_withinDlpRange.row w t values s hw.toWithinDlpRange hvalues hs, hw.noReserved⟩
  kernel w k hw := ⟨keptByParts_withinDlpRange.kernel w k hw.toWithinDlpRange, hw.noReserved⟩
  policy w p hw := ⟨keptByParts_withinDlpRange.policy w p hw.toWithinDlpRange, hw.noReserved⟩

theorem Confined.updateAndNotify (h : w.Confined T D) (hget : w.hapTokenInfoMap[t]? = some inner)
    {n : String} (hrange : InDlpRange D inner n) (hname : g = true → cStr n = n)
    (hfl : isPermissionFlagValid fl = true) : (updateAndNotify T w env inner n g fl).2.Confined T D := by
  refine ⟨h.toWithinDlpRange.updateAndNotify hget hrange hname hfl, ?_⟩
  rcases updateAndNotify_cases T w env inner n g fl with ⟨e, heq⟩ | ⟨c, db, _, _, heq⟩
  all_goals
    rw [heq]
    exact h.noReserved

theorem Confined.changePermission (h : w.Confined T D) {n : String}
    (hname : g = true → cStr n = n) {updateFlag : Int32} :
    (changePermission T D w env id n g fl updateFlag).2.Confined T D :=
  changePermission_invariant (Confined T D) (fun w id hw => keptByParts_confined.load w env.findOk id hw)
    (fun hvalid _ _ _ _ hw hget hrange hname => hw.updateAndNotify hget hrange hname hvalid) h
    (updatePermissionMeets_of_forall T D env g fl (fun _ _ => hname))

theorem Confined.setPermissionStatusWithPolicy (h : w.Confined T D) {perms : List String}
    {status : Int} (hname : status = permissionGranted → ∀ n ∈ perms, cStr n = n) :
    (setPermissionStatusWithPolicy T D w env id perms status fl).2.Confined T D :=
  setPermissionStatusWithPolicy_invariant (Confined T D)
    (fun w id hw => keptByParts_confined.load w env.findOk id hw)
    (fun hadmin _ _ _ _ hw hget hrange hname =>
      hw.updateAndNotify hget hrange hname (isPermissionFlagValid_of_admin hadmin))
    h (updateMultiMeets_of_forall T env _ fl (fun n hn _ _ hg => hname (by simpa using hg) n hn))

theorem clearUserGrantedPermission_reserved :
    (clearUserGrantedPermission T D w env id).2.reservedHapTokenIdMap = w.reservedHapTokenIdMap := by
  have hload := load_reserved T w env.findOk id
  obtain ⟨w₁, hw₁, heq | ⟨inner, db, k, -, -, -, -, heq⟩⟩ := clearUserGrantedPermission_cases T D w env id
  all_goals
    rw [hw₁] at hload
    rw [heq]
    exact hload

theorem clearUserGrantedPermissionState_reserved :
    (clearUserGrantedPermissionState T D w env id).2.reservedHapTokenIdMap = w.reservedHapTokenIdMap :=
  clearUserGrantedPermissionState_keeps (P := fun w' => w'.reservedHapTokenIdMap = w.reservedHapTokenIdMap)
    (fun _ _ hw' => clearUserGrantedPermission_reserved.trans hw') rfl id

theorem updateHapToken_reserved {info : UpdateHapInfoParams} :
    (updateHapToken T w env id info states policy).2.reservedHapTokenIdMap = w.reservedHapTokenIdMap := by
  have hload := load_reserved T w env.findOk id
  rcases updateHapToken_cases T w env id info states policy with ⟨e, heq⟩ | ⟨e, heq⟩ |
    ⟨inner, _, _, _, _, rfl, ⟨e, _, heq⟩ | ⟨db, _, heq⟩⟩
  · rw [heq]
  all_goals
    rw [heq]
    exact hload

/-- **The condition on a step**: an install brings no component grant and no unfiltered name of a permission outside the
range and takes no id whose rows an earlier token left granted outside it, an update neither grants such a permission
nor marks it granted by a component, a grant names its permission as the table does, and a reset finds no such
permission pre-authorised under the administrator's flags. -/
def KeepsDlpRange (T : PermissionTable) (D : DlpPermissionModeMap) (w : Service) : ServiceOp → Prop
  | .createHapTokenInfo env info policy =>
      (∀ s ∈ policy.permStateList, InstallsWithin T D info.dlpType s) ∧ StaleWithin T D w env info
  | .updateHapToken env id _ states _ => ∀ inner ∈ (getHapTokenInfoInner T w env.findOk id).1, ∀ s ∈ states,
      UpdatesWithin T D inner.dlpType s
  | .removeHapTokenInfo _ _ isTokenReserved => isTokenReserved = false
  | .grantPermission _ _ n _ _ => cStr n = n
  | .setPermissionStatusWithPolicy _ _ perms status _ => status = permissionGranted → ∀ n ∈ perms, cStr n = n
  | .clearUserGrantedPermissionState env id =>
      ∀ x ∈ id :: (getHapTokenInfoInner T w env.findOk id).2.getRelatedSandBoxHapList id,
        ResetsWithin T D (getHapTokenInfoInner T w env.findOk id).2 x
  | .getHapTokenInfo .. | .revokePermission .. | .clearAllSecCompGrantedPerm | .setUserPolicy .. | .clearUserPolicy ..
  | .updatePolicyWhiteList .. => True

instance (T : PermissionTable) (D : DlpPermissionModeMap) (w : Service) : ∀ op, Decidable (KeepsDlpRange T D w op) :=
  fun op => by
  apply op.casesOn (motive := (Decidable <| KeepsDlpRange T D w ·)) <;> intros
  case clearUserGrantedPermissionState => exact List.decidableBAll (ResetsWithin T D _) _
  all_goals unfold KeepsDlpRange; infer_instance

theorem Confined.step (h : w.Confined T D) {op : ServiceOp} (hk : KeepsDlpRange T D w op) :
    (serviceStep T D w op).Confined T D := by
  cases op with
  | createHapTokenInfo =>
    exact ⟨h.toWithinDlpRange.createHapTokenInfo h.noReserved hk.1 hk.2, createHapTokenInfo_reserved h.noReserved⟩
  | updateHapToken =>
    exact ⟨h.toWithinDlpRange.updateHapToken h.noReserved hk, updateHapToken_reserved.trans h.noReserved⟩
  | removeHapTokenInfo env id reserved =>
    obtain rfl : reserved = false := hk
    refine ⟨?_, (removeHapTokenInfo_reserved w env.removeOk false id).trans h.noReserved⟩
    rcases removeHapTokenInfo_cases w env.removeOk false id false with ⟨_, e, heq⟩ | ⟨info, w', hget, _, heq, hr⟩
    · rw [serviceStep, heq]
      exact h.toWithinDlpRange
    · rw [serviceStep, heq]
      exact h.toWithinDlpRange.removed hget hr
  | getHapTokenInfo env id => exact keptByParts_confined.getHapTokenInfo h env id
  | grantPermission => exact h.changePermission (fun _ => hk)
  | revokePermission => exact h.changePermission (by simp)
  | setPermissionStatusWithPolicy => exact h.setPermissionStatusWithPolicy hk
  | clearUserGrantedPermissionState =>
    exact ⟨h.toWithinDlpRange.clearUserGrantedPermissionState hk,
      clearUserGrantedPermissionState_reserved.trans h.noReserved⟩
  | clearAllSecCompGrantedPerm =>
    refine ⟨{ (keptByOps_lasting D).clearSecComp w h.toLasting with
      briefWithin := ⟨h.briefWithin.lists, fun _ _ hc => absurd hc List.not_mem_nil, fun _ _ _ _ hc =>
        absurd hc List.not_mem_nil⟩
      rowsWithin := h.rowsWithin }, h.noReserved⟩
  | setUserPolicy => exact keptByParts_confined.setUserPolicy h
  | clearUserPolicy => exact keptByParts_confined.clearUserPolicy h
  | updatePolicyWhiteList =>
    exact keptByParts_confined.updatePolicyWhiteList h

/-- **A DLP sandbox holds no permission outside its range** in any run whose steps meet the condition. -/
theorem dlp_range_respected (T : PermissionTable) (D : DlpPermissionModeMap) {w : Service}
    (hrun : Lib.Reaches (serviceStep T D) (KeepsDlpRange T D) empty w) {t : AccessTokenID} {info : HapTokenInfoInner}
    (hget : w.hapTokenInfoMap[t]? = some info) {c : Nat}
    (hout : isPermissionAvailableToDlpHap T D info.dlpType c = false) :
    w.verifyPermissionStatus t c = permissionDenied := by
  have hstep : ∀ w op, Confined T D w → KeepsDlpRange T D w op → (serviceStep T D w op).Confined T D :=
    fun w op hw hk => hw.step hk
  have hw := hrun.invariant hstep ⟨withinDlpRange_empty, rfl⟩
  have hty := dlpTypeOf_of_live hget
  unfold verifyPermissionStatus
  split
  · rfl
  rename_i l hl
  split
  · rename_i d hd
    have hcode : d.permCode = c := by simpa [hasCode] using List.find?_some hd
    have hallowed := hw.briefWithin.lists t _ l hty hl d (List.mem_of_find?_eq_some hd)
    exact (hallowed.resolve_left (by rw [hcode, hout]; decide)).denied
  · rw [if_neg]
    intro hc
    have hin := hw.briefWithin.secComp t _ c hty (by simpa [HasSecComp] using hc)
    rw [hout] at hin
    cases hin

/-! ## Runs that leave the range -/

def getHapTokenID (w : Service) (userID : Int32) (bundleName : String) (instIndex : Int32) : AccessTokenID :=
  match w.hapTokenIdMap[getHapUniqueStr userID bundleName instIndex]? with
  | none => invalidTokenId
  | some tokenId =>
    match w.hapTokenInfoMap[tokenId]? with
    | none => invalidTokenId
    | some info => info.tokenID

/-- `PermissionManager::InitDlpPermissionList`: a sandbox starts from the states of the original application. -/
def initDlpPermissionList (T : PermissionTable) (w : Service) (findOk : Bool) (info : HapInfoParams) :
    Option (List PermissionStatus) :=
  match getHapTokenInfoInner T w findOk (w.getHapTokenID info.userID info.bundleName 0) with
  | (none, _) => none
  | (some inner, w) => some ((w.permissionStateValues T inner.tokenID).getD [])

def cameraFullControl : DlpPermissionModeMap := (∅ : DlpPermissionModeMap).insert camera dlpPermFullControl

def readOnlyParams : HapInfoParams := { sampleParams with instIndex := 1, dlpType := dlpRead }

def cameraState (grantStatus : Int) (grantFlag : Flag) : List PermissionStatus :=
  [⟨camera, grantStatus, grantFlag⟩]

def installSandbox (states : List PermissionStatus) : ServiceOp :=
  .createHapTokenInfo .ok readOnlyParams { samplePolicy with permStateList := states }

def sandboxReset : Service :=
  [installSandbox (cameraState permissionGranted permissionPreAuthorizedCancelable),
    .clearUserGrantedPermissionState .ok sampleSandbox].foldl (serviceStep sampleTable cameraFullControl) empty

theorem dlp_range_respected_after_reset :
    sandboxReset.verifyPermissionStatus sampleSandbox 0 = permissionDenied := by
  have hinfo : sandboxReset.hapTokenInfoMap[sampleSandbox]? = some (.ofParams sampleSandbox readOnlyParams) := by
    decide +kernel
  exact dlp_range_respected sampleTable cameraFullControl (Lib.reaches_foldl _ _ (by decide +kernel)) hinfo (by decide)

/-- The camera of the sandbox, after its install from the given states and one more operation. -/
def cameraAfter (states : List PermissionStatus) (op : ServiceOp) : Int :=
  ([installSandbox states, op].foldl (serviceStep sampleTable cameraFullControl) empty).verifyPermissionStatus
    sampleSandbox 0

def masterWithComponent : Service :=
  [.createHapTokenInfo .ok sampleParams asksCamera,
    .grantPermission .ok sampleHap camera permissionComponentSet 0].foldl
      (serviceStep sampleTable cameraFullControl) empty

/-- **A read-only sandbox gets the camera** by an update, from a component grant of the original application, by a reset
of a pre-authorisation under the administrator's flag, and by a grant under a name with a NUL. -/
theorem dlp_range_left :
    isPermissionAvailableToDlpHap sampleTable cameraFullControl dlpRead 0 = false ∧
      cameraAfter (cameraState permissionDenied permissionDefaultFlag) (.updateHapToken .ok sampleSandbox
        ⟨"id", 20, false, false, "release", false⟩ (cameraState permissionGranted permissionSystemFixed) samplePolicy) =
          permissionGranted ∧
      (∃ states, initDlpPermissionList sampleTable masterWithComponent true readOnlyParams = some states ∧
        (serviceStep sampleTable cameraFullControl masterWithComponent (installSandbox states)).verifyPermissionStatus
          sampleSandbox 0 = permissionGranted) ∧
      cameraAfter (cameraState permissionDenied (permissionPreAuthorizedCancelable ||| permissionFixedByAdminPolicy))
        (.clearUserGrantedPermissionState .ok sampleSandbox) = permissionGranted ∧
      cameraAfter (cameraState permissionDenied permissionDefaultFlag) (.grantPermission .ok sampleSandbox
        "ohos.permission.CAMERA\x00" permissionUserFixed 0) = permissionGranted := by
  refine ⟨by decide, by decide +kernel, ⟨cameraState permissionDenied permissionComponentSet, by decide +kernel,
    by decide +kernel⟩, by decide +kernel, by decide +kernel⟩

end Service
end AccessToken
