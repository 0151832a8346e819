import AccessToken.Service.RestrictedFlag
/-!
# Entries that pass the filters again

An update and a reset build their entries anew from the states they read, and drop what the filters refuse.  The entries
of a token were let through once and keep what the filters ask for, so a reset loses none of them: `entry_resetBrief_eq`
says what it makes of each.
-/
namespace AccessToken

open Std.ExtTreeMap (getElem?_eq_some_getElem mem_iff_isSome_getElem?)

namespace Service

open PermissionDataBrief PermissionTable

variable {T : PermissionTable} {w : Service}

/-! ## Entries every filter lets through -/

structure Keepable (T : PermissionTable) (d : BriefPermData) : Prop where
  flag : isPermissionFlagValid d.flag = true
  available : isPermissionAvailable T .tokenHap (T.transferOpcodeToPermission d.permCode) = true

variable {n : String} {c : Nat} {states : List PermissionStatus} {fl : Flag} {d : BriefPermData}
  {old : List BriefPermData} {r g need : Bool}

theorem isPermissionAvailable_of_code (hc : T.transferPermissionToOpcode n = some c)
    (h : isPermissionAvailable T .tokenHap n = true) :
    isPermissionAvailable T .tokenHap (T.transferOpcodeToPermission c) = true := by
  have hdef : T.getPermissionBriefDef (T.transferOpcodeToPermission c) = T.getPermissionBriefDef n := by
    unfold getPermissionBriefDef
    rw [hc, transferPermissionToOpcode_transferOpcode (code_lt_of_transfer hc)]
  simp only [isPermissionAvailable, if_true, isPermissionValidForHap] at h ⊢
  rw [hdef]
  exact h

theorem keepable_of_filtered
    (h : d ∈ (filterInvalidPermissionState T .tokenHap true states).filterMap (briefPermDataOf T)) :
    Keepable T d := by
  obtain ⟨st, hst, hbrief⟩ := List.mem_filterMap.1 h
  obtain ⟨hvalid, havailable⟩ := mem_filterInvalidPermissionState hst
  obtain ⟨-, hflag, hcode, -⟩ := briefPermDataOf_eq_some hbrief
  simp only [isPermissionStateValid, Bool.and_eq_true] at hvalid
  refine ⟨hflag ▸ hvalid.2.2, ?_⟩
  exact isPermissionAvailable_of_code hcode havailable

section

variable (h : Keepable T d)
include h

theorem Keepable.of_flag {d' : BriefPermData} (hcode : d'.permCode = d.permCode)
    (hflag : isPermissionFlagValid d'.flag = true) : Keepable T d' :=
  ⟨hflag, by rw [hcode]; exact h.available⟩

theorem Keepable.restrict : Keepable T (restrictEntry r d) := by
  refine h.of_flag rfl ?_
  cases r with
  | true => exact isPermissionFlagValid_or_restricted.trans h.flag
  | false => exact (isPermissionFlagValid_without_restricted d.flag).trans h.flag

theorem Keepable.component : Keepable T (withComponentFlag g d) := by
  refine h.of_flag rfl ?_
  cases g with
  | true => exact (isPermissionFlagValid_or (by decide)).trans h.flag
  | false => exact (isPermissionFlagValid_without (by decide)).trans h.flag

theorem Keepable.updated (hfl : isPermissionFlagValid fl = true) : Keepable T (updatedPermState g fl d) := by
  refine h.of_flag rfl ?_
  have hmask : (permissionPreAuthorizedCancelable ||| permissionRestrictedByAdmin) &&& ~~~additiveFlags = 0 := by decide
  have hold : (d.flag &&& (permissionPreAuthorizedCancelable ||| permissionRestrictedByAdmin)) &&&
      ~~~additiveFlags = 0 := by
    rw [BitVec.and_assoc, hmask]
    exact BitVec.and_zero
  exact (isPermissionFlagValid_or hold).trans hfl

theorem Keepable.reset : Keepable T (resetPermState d) := by
  refine h.of_flag (resetPermState_permCode d) ?_
  unfold resetPermState
  dsimp only
  split
  · exact h.flag
  split
  · -- what is kept of the old flag is at most the administrator's base flag
    have hbit : d.flag &&& permissionFixedByAdminPolicy =
        if d.flag.getLsbD 7 then BitVec.twoPow 32 7 else 0#32 := BitVec.and_twoPow d.flag 7
    have hsplit : d.flag &&& (permissionFixedByAdminPolicy ||| permissionRestrictedByAdmin) =
        (d.flag &&& permissionFixedByAdminPolicy) ||| (d.flag &&& permissionRestrictedByAdmin) := by
      refine BitVec.eq_of_getLsbD_eq fun i _ => ?_
      simp only [BitVec.getLsbD_and, BitVec.getLsbD_or, Bool.and_or_distrib_left]
    have hrest : (d.flag &&& permissionRestrictedByAdmin) &&& ~~~additiveFlags = 0 := by
      rw [BitVec.and_assoc]
      exact BitVec.and_zero
    rw [hsplit, ← BitVec.or_assoc, isPermissionFlagValid_or hrest, hbit]
    split <;> decide
  split
  · exact h.flag
  split
  · exact h.flag
  · exact (by decide : isPermissionFlagValid permissionDefaultFlag = true)

theorem Keepable.merge (hold : ∀ d ∈ old, Keepable T d) : Keepable T (mergeOnUpdate old need d) := by
  refine h.of_flag (mergeOnUpdate_permCode old need d) ?_
  unfold mergeOnUpdate
  split
  · exact h.flag
  rename_i o ho
  split
  · exact h.flag
  unfold updatePermStatus
  split
  · exact h.flag
  have hrest : (d.flag &&& permissionRestrictedByAdmin) &&& ~~~additiveFlags = 0 := by
    rw [BitVec.and_assoc]
    exact BitVec.and_zero
  rw [isPermissionFlagValid_or hrest, isPermissionFlagValid_without_restricted]
  exact (hold o (List.mem_of_find?_eq_some ho)).flag

end

structure LastingEntry (T : PermissionTable) (d : BriefPermData) : Prop extends Keepable T d where
  code : d.permCode < T.permList.length
  status : isGrantStatusValid d.status = true

theorem lastingEntry_of_filtered (h : d ∈ freshList T states) : LastingEntry T d := by
  obtain ⟨st, -, hbrief⟩ := List.mem_filterMap.1 h
  obtain ⟨hstatus, -, hcode, hvalid⟩ := briefPermDataOf_eq_some hbrief
  exact { keepable_of_filtered h with
    code := code_lt_of_transfer hcode
    status := hstatus ▸ hvalid }

section

variable (h : LastingEntry T d)
include h

theorem LastingEntry.restrict : LastingEntry T (restrictEntry r d) :=
  { h.toKeepable.restrict with code := h.code, status := h.status }

theorem LastingEntry.component : LastingEntry T (withComponentFlag g d) :=
  { h.toKeepable.component with code := h.code, status := h.status }

theorem LastingEntry.updated (hfl : isPermissionFlagValid fl = true) :
    LastingEntry T (updatedPermState g fl d) := by
  refine { h.toKeepable.updated hfl with code := h.code, status := ?_ }
  unfold updatedPermState
  dsimp only
  split
  · cases g <;> decide
  · exact h.status

theorem LastingEntry.reset : LastingEntry T (resetPermState d) :=
  { h.toKeepable.reset with
    code := (resetPermState_permCode d).symm ▸ h.code
    status := isGrantStatusValid_resetPermState h.status }

theorem LastingEntry.merge (hold : ∀ d ∈ old, LastingEntry T d) : LastingEntry T (mergeOnUpdate old need d) := by
  refine { h.toKeepable.merge (fun d hd => (hold d hd).toKeepable) with
    code := (mergeOnUpdate_permCode old need d).symm ▸ h.code
    status := ?_ }
  unfold mergeOnUpdate
  split
  · exact h.status
  rename_i o ho
  split
  · exact h.status
  · unfold updatePermStatus
    split
    · exact h.status
    · exact (hold o (List.mem_of_find?_eq_some ho)).status

end

/-! ## Through a reset -/

theorem isPermissionNameValid_transferOpcode (hc : c < T.permList.length) :
    isPermissionNameValid (T.transferOpcodeToPermission c) = true := by
  rw [transferOpcodeToPermission, List.getElem?_eq_getElem hc]
  exact T.names_valid _ (List.getElem_mem hc)

variable {inner : HapTokenInfoInner} {st : PermissionStatus}

structure StateOf (T : PermissionTable) (d : BriefPermData) (st : PermissionStatus) : Prop where
  name : st.permissionName = T.transferOpcodeToPermission d.permCode
  status : isGrantStatusValid st.grantStatus = true
  flag : isPermissionFlagValid st.grantFlag = true

theorem StateOf.valid (h : StateOf T d st) (hd : LastingEntry T d) :
    isPermissionStateValid st = true ∧ isPermissionAvailable T .tokenHap st.permissionName = true := by
  rw [isPermissionStateValid, h.name, h.status, h.flag, isPermissionNameValid_transferOpcode hd.code]
  exact ⟨rfl, hd.available⟩

theorem StateOf.brief (h : StateOf T d st) (hd : LastingEntry T d) :
    ∃ d₀, briefPermDataOf T st = some d₀ ∧ d₀.permCode = d.permCode ∧ d₀.status = st.grantStatus ∧
      d₀.flag = st.grantFlag := by
  have hcode := transferPermissionToOpcode_transferOpcode hd.code
  unfold briefPermDataOf getPermissionBriefDef
  rw [if_pos h.status, h.name, hcode, Option.bind_some, List.getElem?_eq_getElem hd.code]
  exact ⟨_, rfl, rfl, rfl, rfl⟩

/-- **The first state of a code is the one kept for it**, since states with its name only come after it. -/
theorem find?_freshList {g : BriefPermData → PermissionStatus} :
    ∀ {l : List BriefPermData}, (∀ d ∈ l, LastingEntry T d ∧ StateOf T d (g d)) →
      (freshList T (l.map g)).find? (hasCode c) = (l.find? (hasCode c)).bind (fun d => briefPermDataOf T (g d)) := by
  intro l hl
  unfold freshList filterInvalidPermissionState
  have hseen : ∀ d ∈ l, d.permCode = c → T.transferOpcodeToPermission d.permCode ∉ ([] : List String) := by simp
  revert hseen
  generalize ([] : List String) = seen
  induction l generalizing seen with
  | nil => exact fun _ => rfl
  | cons d l ih =>
    intro hseen
    obtain ⟨hd, hst⟩ := hl d List.mem_cons_self
    obtain ⟨hvalid, havailable⟩ := hst.valid hd
    obtain ⟨d₀, hbrief, hcode, -⟩ := hst.brief hd
    have ih := fun seen => ih (fun d hd => hl d (List.mem_cons_of_mem _ hd)) seen
    rw [List.map_cons, filterInvalidPermissionStateFrom, hvalid, havailable]
    by_cases hc : d.permCode = c
    · have hnew : seen.contains (g d).permissionName = false := by
        rw [hst.name]
        simpa using hseen d List.mem_cons_self hc
      rw [hnew, if_neg (by decide), if_neg (by decide), List.filterMap_cons, hbrief,
        List.find?_cons_of_pos (by simp [hasCode, hcode, hc]), List.find?_cons_of_pos (by simp [hasCode, hc])]
      exact hbrief.symm
    rw [List.find?_cons_of_neg (by simp [hasCode, hc])]
    have hrest := fun d hd => hseen d (List.mem_cons_of_mem _ hd)
    by_cases hmem : seen.contains (g d).permissionName = true
    · rw [hmem, if_pos (by decide)]
      exact ih seen hrest
    rw [Bool.not_eq_true] at hmem
    rw [hmem, if_neg (by decide), if_neg (by decide), List.filterMap_cons, hbrief,
      List.find?_cons_of_neg (by simp [hasCode, hcode, hc])]
    refine ih _ fun e he hec => ?_
    -- another code has another name
    rw [List.mem_cons, not_or, hst.name]
    refine ⟨fun heq => hc ?_, hrest e he hec⟩
    have hinj := congrArg T.transferPermissionToOpcode heq
    rw [transferPermissionToOpcode_transferOpcode hd.code,
      transferPermissionToOpcode_transferOpcode (hl e (List.mem_cons_of_mem _ he)).1.code] at hinj
    rw [← hec]
    exact (Option.some.inj hinj).symm

/-- What a reset makes of an entry: the entry it was reset to, merged with the state the DLP filter leaves of it. -/
def resetEntry (T : PermissionTable) (D : DlpPermissionModeMap) (dlpType : Int32) (d : BriefPermData) : BriefPermData :=
  updatePermStatus (resetPermState d)
    ((briefPermDataOf T (resetState T D dlpType d)).getD (resetPermState d))

theorem LastingEntry.stateOf_reset (h : LastingEntry T d) (D : DlpPermissionModeMap) (dlpType : Int32) :
    StateOf T d (resetState T D dlpType d) :=
  ⟨rfl, isGrantStatusValid_resetState h.status, h.reset.flag⟩

section

variable (h : AllEntries (LastingEntry T) w.brief)
include h

/-- **A reset keeps every entry**, merged with the state it was reset to. -/
theorem entry_resetBrief_eq {D : DlpPermissionModeMap}
    (hmem : inner.tokenID ∈ w.requestedPermData) (c : Nat) :
    (resetBrief T D w inner).entry inner.tokenID c =
      (w.entry inner.tokenID c).map (resetEntry T D inner.dlpType) := by
  obtain ⟨l, hl⟩ := Lib.mem_iff_exists.1 hmem
  obtain ⟨hnew, -, -⟩ := resetBrief_eq T D hl
  have hall : ∀ d ∈ l, LastingEntry T d ∧ StateOf T d (resetState T D inner.dlpType d) := fun d hd =>
    ⟨h _ l hl d hd, (h _ l hl d hd).stateOf_reset D _⟩
  have hmerge : hasCode c ∘ mergeOnUpdate (l.map resetPermState) false = hasCode c := by
    funext d
    simp [hasCode]
  have hreset : hasCode c ∘ resetPermState = hasCode c := by
    funext d
    simp [hasCode]
  unfold entry
  rw [hnew, hl, Option.bind_some, Option.bind_some, List.find?_map, hmerge, resetStates_eq T D hl, find?_freshList hall]
  cases hfind : l.find? (hasCode c) with
  | none => rfl
  | some d =>
    have hd := hall d (List.mem_of_find?_eq_some hfind)
    obtain ⟨d₀, hbrief, hcode, -⟩ := hd.2.brief hd.1
    have hc : d₀.permCode = c := hcode.trans (by simpa [hasCode] using List.find?_some hfind)
    have hold : (l.map resetPermState).find? (hasCode c) = some (resetPermState d) := by
      rw [List.find?_map, hreset, hfind]
      rfl
    rw [Option.bind_some, hbrief, Option.map_some, Option.map_some, resetEntry, hbrief, Option.getD_some]
    unfold mergeOnUpdate
    rw [hc, hold]
    rfl

theorem entry_resetBrief (D : DlpPermissionModeMap)
    (hd : w.entry inner.tokenID c = some d) : ∃ d₀, d₀.flag = (resetPermState d).flag ∧
      (resetBrief T D w inner).entry inner.tokenID c =
        some (updatePermStatus (resetPermState d) d₀) := by
  obtain ⟨l, hl, hmem⟩ := mem_of_entry hd
  have hlast := h _ l hl d hmem
  obtain ⟨d₀, hbrief, -, -, hflag⟩ := (hlast.stateOf_reset D inner.dlpType).brief hlast
  refine ⟨d₀, hflag, ?_⟩
  rw [entry_resetBrief_eq h (mem_iff_isSome_getElem?.2 (by rw [hl]; rfl)), hd, Option.map_some, resetEntry, hbrief,
    Option.getD_some]

theorem allLasting_resetBrief {D : DlpPermissionModeMap}
    (hmem : inner.tokenID ∈ w.requestedPermData) :
    AllEntries (LastingEntry T) (resetBrief T D w inner) := by
  obtain ⟨hnew, hother, -⟩ := resetBrief_eq T D (getElem?_eq_some_getElem hmem)
  intro x l' hl' d' hd'
  by_cases hx : x = inner.tokenID
  · subst hx
    obtain rfl := Option.mem_unique hnew hl'
    obtain ⟨d₀, hd₀, rfl⟩ := List.mem_map.1 hd'
    refine (lastingEntry_of_filtered hd₀).merge (fun d hd => ?_)
    obtain ⟨d₁, hd₁, rfl⟩ := List.mem_map.1 hd
    exact (h _ _ (getElem?_eq_some_getElem hmem) d₁ hd₁).reset
  · rw [hother x hx] at hl'
    exact h x l' hl' d' hd'

end

end Service

end AccessToken
