import AccessToken.Service.PolicyFlags
/-!
# Policy updates that fail half-way

`SetUserPolicy` and `ClearUserPolicy` commit the records and their table, then walk over the tokens of the changed
users, HAP tokens first, and take the walk back when a turn fails.  What the walk can do depends on the restricted bits
alone, so it is described on the permission data (`appliedTurns`); the rollback restores every flag, sets the kernel bit
of every entry it passes to the value the entry implies, and leaves the policy as committed.
-/
namespace AccessToken

open PermissionDataBrief
namespace Service

open UserPolicyManager

variable {T : PermissionTable} {w w' : Service}

/-! ## Turns -/

/-- A turn of the refresh: over a HAP token, whose permissions have rows, or over a tool token. -/
structure RefreshTurn where
  visit : RefreshVisit
  hasRow : Bool

namespace RefreshTurn

def tokenId (x : RefreshTurn) : AccessTokenID := x.visit.tokenId

def permCode (x : RefreshTurn) : Nat := x.visit.policy.permCode

def wanted (records : UserPolicyRecords) (x : RefreshTurn) : Bool :=
  isPermissionRestricted records x.visit.tokenId x.visit.userId x.visit.policy.permCode

/-- The turn cannot be taken: the token has no permission data, or the row of the entry cannot be written. -/
def isBlocked (T : PermissionTable) (failing : TokenPerms) (records : UserPolicyRecords)
    (b : PermissionDataBrief) (x : RefreshTurn) : Bool :=
  match b.entry x.tokenId x.permCode with
  | none => !decide (x.tokenId ∈ b.requestedPermData)
  | some d =>
    x.hasRow && decide (RowWriteFails T failing x.tokenId x.permCode (x.wanted records) x.visit.policy.isPersist d)

def apply (records : UserPolicyRecords) (b : PermissionDataBrief) (x : RefreshTurn) : PermissionDataBrief :=
  b.modifyEntry x.tokenId x.permCode (restrictEntry (x.wanted records))

def run (T : PermissionTable) (failing : TokenPerms) (x : RefreshTurn) (st : Refreshing) :
    Ret × Refreshing :=
  if x.hasRow then refreshHapVisit T failing st x.visit else refreshToolVisit T st x.visit

end RefreshTurn

/-- **The turns taken before the first one that is blocked.** -/
def appliedTurns (T : PermissionTable) (failing : TokenPerms) (records : UserPolicyRecords)
    (b : PermissionDataBrief) : List RefreshTurn → List RefreshTurn
  | [] => []
  | x :: xs =>
    if x.isBlocked T failing records b then [] else x :: appliedTurns T failing records (x.apply records b) xs

structure TurnDone (T : PermissionTable) (w : Service) (x : RefreshTurn) (w' : Service)
    (new : List UserPolicyRefreshSnapshot) : Prop where
  policy : w'.policy = w.policy
  tools : w'.toolTokenInfoMap = w.toolTokenInfoMap
  brief : w'.brief = x.apply w.policy.records w.brief
  kernel : ∀ t c, w'.kernel t c ≠ w.kernel t c → c < T.permList.length ∧ ∃ s ∈ new, s.tokenId = t ∧ s.permCode = c
  snapshots : (w.entry x.tokenId x.permCode = none ∧ new = []) ∨
    ∃ d, w.entry x.tokenId x.permCode = some d ∧ new = [snapshotOf x.visit d]

variable {b : PermissionDataBrief} {t : AccessTokenID} {c c' : Nat} {f : BriefPermData → BriefPermData}
    {xs ys : List RefreshTurn} {new snapshots : List UserPolicyRefreshSnapshot} {failing : TokenPerms}
    {v : RefreshVisit} {r : Bool} {x : RefreshTurn}

theorem modifyEntry_eq_self (h : ∀ d, b.entry t c = some d → f d = d) : b.modifyEntry t c f = b := by
  have hreq : (b.modifyEntry t c f).requestedPermData = b.requestedPermData := by
    refine Std.ExtTreeMap.ext_getElem? fun x => ?_
    rw [requested_modifyEntry]
    split
    · rename_i hx
      subst hx
      cases hl : b.requestedPermData[t]? with
      | none => rfl
      | some =>
        rw [Option.map_some, Lib.modifyFirst_eq_self fun d hd => h d (by simp [entry, hl, hd])]
    · rfl
  exact congrArg (fun m => { b with requestedPermData := m }) hreq

theorem modifyEntry_of_no_entry (h : b.entry t c = none) : b.modifyEntry t c f = b :=
  modifyEntry_eq_self fun d hd => by rw [h] at hd; cases hd

theorem restrictedKernel_ne {x : AccessTokenID} {d : BriefPermData}
    (h : (if c < T.permList.length then w.restrictedKernel x c r d else w.kernel) t c' ≠ w.kernel t c') :
    c' < T.permList.length ∧ x = t ∧ c = c' := by
  split at h
  · rename_i hc
    unfold restrictedKernel at h
    split at h
    · rw [KernelPerms.setPermissionToKernel_apply] at h
      split at h
      · rename_i htc
        exact ⟨htc.2 ▸ hc, htc.1.symm, htc.2.symm⟩
      · exact absurd rfl h
    · exact absurd rfl h
  · exact absurd rfl h

theorem RefreshTurn.run_hap_cases : (isBlocked T failing w.policy.records w.brief ⟨v, true⟩ = true ∧
        ∃ e, refreshHapVisit T failing (w, snapshots) v = (.error e, (w, snapshots))) ∨
      (isBlocked T failing w.policy.records w.brief ⟨v, true⟩ = false ∧ ∃ w' new,
        refreshHapVisit T failing (w, snapshots) v = (.ok (), (w', snapshots ++ new)) ∧
        TurnDone T w ⟨v, true⟩ w' new) := by
  rcases refreshHapVisit_cases T failing snapshots rfl with ⟨hmem, heq⟩ | ⟨hmem, he, heq⟩ |
    ⟨d, he, ⟨hfail, heq⟩ | ⟨hok, db, -, heq⟩⟩
  · have he : w.entry v.tokenId v.policy.permCode = none := entry_eq_none_of_not_mem hmem
    exact .inl ⟨by simp [isBlocked, tokenId, permCode, he, hmem], _, heq⟩
  · have hsame : w.brief = apply w.policy.records w.brief ⟨v, true⟩ := (modifyEntry_of_no_entry he).symm
    refine .inr ⟨by simp [isBlocked, tokenId, permCode, he, hmem], w, [], by rw [heq, List.append_nil], ?_⟩
    exact ⟨rfl, rfl, hsame, fun t c h => absurd rfl h, .inl ⟨he, rfl⟩⟩
  · refine .inl ⟨?_, _, heq⟩
    simp only [isBlocked, tokenId, permCode, he, Bool.true_and]
    exact decide_eq_true hfail
  · refine .inr ⟨?_, _, _, heq, rfl, rfl, rfl, fun t c h => ?_, .inr ⟨d, he, rfl⟩⟩
    · simp only [isBlocked, tokenId, permCode, he, Bool.true_and]
      exact decide_eq_false hok
    · obtain ⟨hc, ht, hc'⟩ := restrictedKernel_ne h
      exact ⟨hc, _, List.mem_singleton_self _, ht, hc'⟩

theorem RefreshTurn.run_tool_cases : (isBlocked T failing w.policy.records w.brief ⟨v, false⟩ = true ∧
        ∃ e, refreshToolVisit T (w, snapshots) v = (.error e, (w, snapshots))) ∨
      (isBlocked T failing w.policy.records w.brief ⟨v, false⟩ = false ∧ ∃ w' new,
        refreshToolVisit T (w, snapshots) v = (.ok (), (w', snapshots ++ new)) ∧ TurnDone T w ⟨v, false⟩ w' new) := by
  unfold refreshToolVisit
  dsimp only
  cases he : w.entry v.tokenId v.policy.permCode with
  | none =>
    by_cases hmem : v.tokenId ∈ w.requestedPermData
    · have hsame : w.brief = apply w.policy.records w.brief ⟨v, false⟩ := (modifyEntry_of_no_entry he).symm
      rw [queryStored_of_mem hmem he]
      refine .inr ⟨by simp [isBlocked, tokenId, permCode, he, hmem], w, [], by rw [List.append_nil], ?_⟩
      exact ⟨rfl, rfl, hsame, fun t c h => absurd rfl h, .inl ⟨he, rfl⟩⟩
    · rw [queryStored_of_not_mem hmem]
      exact .inl ⟨by simp [isBlocked, tokenId, permCode, he, hmem], _, rfl⟩
  | some d =>
    rw [queryStored_of_entry he]
    rcases updatePermissionFlag_cases v.tokenId v.policy.permCode
      permissionRestrictedByAdmin (isPermissionRestricted w.policy.records v.tokenId v.userId v.policy.permCode) with
      ⟨hnone, -⟩ | ⟨d', -, heq⟩
    · rw [he] at hnone; cases hnone
    have hkernel := refreshed_kernel (T := T) (t := v.tokenId) (c := v.policy.permCode)
      (r := isPermissionRestricted w.policy.records v.tokenId v.userId v.policy.permCode) (d := d)
      { w with brief := apply w.policy.records w.brief ⟨v, false⟩ } rfl
    simp only [heq]
    refine .inr ⟨by simp [isBlocked, tokenId, permCode, he], _, _, congrArg (fun w' => (Except.ok (), w', _)) hkernel,
      ?_⟩
    refine ⟨rfl, rfl, rfl, fun t c h => ?_, .inr ⟨d, he, rfl⟩⟩
    obtain ⟨hc, ht, hc'⟩ := restrictedKernel_ne h
    exact ⟨hc, _, List.mem_singleton_self _, ht, hc'⟩

/-- **What a turn can do**: nothing, if it is blocked, and otherwise write the bit of its entry. -/
theorem RefreshTurn.run_cases (T : PermissionTable) (failing : TokenPerms) (w : Service)
    (snapshots : List UserPolicyRefreshSnapshot) (x : RefreshTurn) :
    (x.isBlocked T failing w.policy.records w.brief = true ∧
        ∃ e, x.run T failing (w, snapshots) = (.error e, (w, snapshots))) ∨
      (x.isBlocked T failing w.policy.records w.brief = false ∧ ∃ w' new,
        x.run T failing (w, snapshots) = (.ok (), (w', snapshots ++ new)) ∧ TurnDone T w x w' new) := by
  obtain ⟨v, hasRow⟩ := x
  cases hasRow with
  | true => exact run_hap_cases
  | false => exact run_tool_cases

/-! ## Taking turns back -/

def undoFlags (b : PermissionDataBrief) (snapshots : List UserPolicyRefreshSnapshot) : PermissionDataBrief :=
  snapshots.foldr (fun s b => b.modifyEntry s.tokenId s.permCode (restrictEntry (isRestricted s.originalFlag))) b

/-- The kernel bits after the snapshots are taken back; a code outside the table has none. -/
def undoKernel (T : PermissionTable) (k : KernelPerms) (snapshots : List UserPolicyRefreshSnapshot) : KernelPerms :=
  snapshots.foldr (fun s k => if s.permCode < T.permList.length then k.setPermissionToKernel s.tokenId s.permCode
    (refreshedKernelStatus s.originalStatus (isRestricted s.originalFlag)) else k) k

theorem isSome_entry_restrict {t' : AccessTokenID} :
    ((b.modifyEntry t c (restrictEntry r)).entry t' c').isSome = (b.entry t' c').isSome := by
  rw [entry_restrict]
  split
  · exact Option.isSome_map
  · rfl

theorem isSome_entry_undoFlags :
    ∀ snapshots : List UserPolicyRefreshSnapshot, ((undoFlags b snapshots).entry t c).isSome = (b.entry t c).isSome
  | [] => rfl
  | _ :: rest => isSome_entry_restrict.trans (isSome_entry_undoFlags rest)

/-- **Restoring a flag writes the bit of the snapshot**, if the entry is there. -/
theorem restoreRestrictedFlag_eq (w : Service) (s : UserPolicyRefreshSnapshot) :
    ((w.entry s.tokenId s.permCode).isSome = true → (w.restoreRestrictedFlag s).1 = .ok ()) ∧
      (w.restoreRestrictedFlag s).2 =
        { w with brief := w.brief.modifyEntry s.tokenId s.permCode (restrictEntry (isRestricted s.originalFlag)) } := by
  unfold restoreRestrictedFlag
  cases he : w.entry s.tokenId s.permCode with
  | none =>
    obtain ⟨e, hq⟩ := queryStored_of_no_entry he
    rw [hq, modifyEntry_of_no_entry he]
    exact ⟨fun h => absurd h Bool.false_ne_true, rfl⟩
  | some d =>
    rw [queryStored_of_entry he]
    dsimp only
    split
    · rename_i hsame
      have hkeep : w.brief.modifyEntry s.tokenId s.permCode (restrictEntry (isRestricted s.originalFlag)) = w.brief :=
        modifyEntry_eq_self fun d' hd' => restrictEntry_of_eq (by rw [← Option.mem_unique he hd', hsame])
      rw [hkeep]
      exact ⟨fun _ => rfl, rfl⟩
    · rcases updatePermissionFlag_cases s.tokenId s.permCode
        permissionRestrictedByAdmin (isRestricted s.originalFlag) with ⟨hnone, -⟩ | ⟨d', -, heq⟩
      · rw [he] at hnone; cases hnone
      · rw [heq]
        exact ⟨fun _ => rfl, rfl⟩

theorem updateRestrictedFlagToDb_frame (T : PermissionTable) (w : Service) (failing : TokenPerms)
    (t : AccessTokenID) (c : Nat) : ∃ db, (updateRestrictedFlagToDb T w failing t c).2 = { w with db := db } := by
  unfold updateRestrictedFlagToDb
  dsimp only
  split
  · exact ⟨w.db, rfl⟩
  split
  · exact ⟨w.db, rfl⟩
  · split
    · exact ⟨w.db, rfl⟩
    · exact ⟨_, rfl⟩

theorem restoreKernelPermissionState_eq (T : PermissionTable) (w : Service) (s : UserPolicyRefreshSnapshot) :
    restoreKernelPermissionState T w s = { w with kernel := undoKernel T w.kernel [s] } := by
  unfold restoreKernelPermissionState undoKernel
  by_cases hc : s.permCode < T.permList.length
  · rw [setPermToKernel_code hc]
    simp [hc]
  · rw [setPermToKernel_of_ge (Nat.le_of_not_lt hc)]
    simp [hc]

/-- **The rollback of the HAP tokens** restores flags and kernel bits from the snapshots, whatever its row writes do. -/
theorem rollbackUserPolicyFlag_eq (T : PermissionTable) (w : Service) (env : Env) :
    ∀ snapshots : List UserPolicyRefreshSnapshot, ∃ db, rollbackUserPolicyFlag T w env snapshots =
      { w with brief := undoFlags w.brief snapshots, kernel := undoKernel T w.kernel snapshots, db := db } := by
  intro snapshots
  unfold rollbackUserPolicyFlag
  rw [List.foldl_reverse]
  induction snapshots with
  | nil => exact ⟨w.db, rfl⟩
  | cons s rest ih =>
    obtain ⟨db, ih⟩ := ih
    rw [List.foldr_cons, ih]
    unfold rollbackHapSnapshot
    dsimp only
    rw [(restoreRestrictedFlag_eq _ s).2]
    obtain ⟨db', hdb⟩ := updateRestrictedFlagToDb_frame T { w with
        brief := (undoFlags w.brief rest).modifyEntry s.tokenId s.permCode (restrictEntry (isRestricted s.originalFlag))
        kernel := undoKernel T w.kernel rest
        db := db } env.rollbackFailingRows s.tokenId s.permCode
    rw [hdb, restoreKernelPermissionState_eq]
    exact ⟨db', rfl⟩

theorem rollbackToolUserPolicyFlag_eq : ∀ snapshots : List UserPolicyRefreshSnapshot,
      (∀ s ∈ snapshots, (w.entry s.tokenId s.permCode).isSome = true) →
      rollbackToolUserPolicyFlag T w snapshots =
        { w with brief := undoFlags w.brief snapshots, kernel := undoKernel T w.kernel snapshots } := by
  intro snapshots hentries
  unfold rollbackToolUserPolicyFlag
  rw [List.foldl_reverse]
  induction snapshots with
  | nil => rfl
  | cons s rest ih =>
    rw [List.foldr_cons, ih fun s' hs' => hentries s' (List.mem_cons_of_mem _ hs')]
    unfold rollbackToolSnapshot
    obtain ⟨hok, heq⟩ := restoreRestrictedFlag_eq
      { w with brief := undoFlags w.brief rest, kernel := undoKernel T w.kernel rest } s
    have hsome := (isSome_entry_undoFlags rest).trans (hentries s List.mem_cons_self)
    have hres : restoreRestrictedFlag
        { w with brief := undoFlags w.brief rest, kernel := undoKernel T w.kernel rest } s = (.ok (), _) :=
      Prod.ext (hok hsome) heq
    rw [hres]
    exact restoreKernelPermissionState_eq T _ s

/-! ## Loops over turns -/

def Passed (xs : List RefreshTurn) (t : AccessTokenID) (c : Nat) : Prop := ∃ x ∈ xs, x.tokenId = t ∧ x.permCode = c
deriving Decidable

theorem passed_append : Passed (xs ++ ys) t c ↔ Passed xs t c ∨ Passed ys t c := by
  unfold Passed
  simp only [List.mem_append, or_and_right, exists_or]

theorem passed_singleton : Passed [x] t c ↔ x.tokenId = t ∧ x.permCode = c := by
  unfold Passed
  simp

/-- The kernel bits after a walk over the turns is taken back: where an entry was passed, the bit the entry implies. -/
def undoneKernel (T : PermissionTable) (b : PermissionDataBrief) (xs : List RefreshTurn) (k : KernelPerms) :
    KernelPerms :=
  fun t c =>
    if c < T.permList.length ∧ Passed xs t c then
      match b.entry t c with
      | none => k t c
      | some d => refreshedKernelStatus d.status (isRestricted d.flag)
    else k t c

/-- **What a walk over turns leaves**, and what taking its snapshots back would restore. -/
structure TurnsDone (T : PermissionTable) (w : Service) (xs : List RefreshTurn) (w' : Service)
    (new : List UserPolicyRefreshSnapshot) : Prop where
  policy : w'.policy = w.policy
  tools : w'.toolTokenInfoMap = w.toolTokenInfoMap
  brief : w'.brief = xs.foldl (fun b x => x.apply w.policy.records b) w.brief
  entries : ∀ t c, (w'.entry t c).isSome = (w.entry t c).isSome
  undo : undoFlags w'.brief new = w.brief
  kernel : ∀ t c, w'.kernel t c ≠ w.kernel t c → c < T.permList.length ∧ ∃ s ∈ new, s.tokenId = t ∧ s.permCode = c
  undoKernel : ∀ k, undoKernel T k new = undoneKernel T w.brief xs k
  snapshots : ∀ s ∈ new, (w.entry s.tokenId s.permCode).isSome = true ∧ Passed xs s.tokenId s.permCode
  untouched : ∀ t c, ¬Passed xs t c → w'.entry t c = w.entry t c

theorem turnsDone_nil : TurnsDone T w [] w [] where
  policy := rfl
  tools := rfl
  brief := rfl
  entries := fun _ _ => rfl
  undo := rfl
  kernel := fun _ _ h => absurd rfl h
  undoKernel := fun k => by funext t c; simp [undoKernel, undoneKernel, Passed]
  snapshots := by simp
  untouched := fun _ _ _ => rfl

theorem TurnDone.turnsDone (h : TurnDone T w x w' new) : TurnsDone T w [x] w' new where
  policy := h.policy
  tools := h.tools
  brief := h.brief
  entries t c := by
    rw [h.brief]
    exact isSome_entry_restrict
  undo := by
    rw [h.brief]
    rcases h.snapshots with ⟨hnone, rfl⟩ | ⟨d, hd, rfl⟩
    · exact modifyEntry_of_no_entry hnone
    · exact modifyEntry_restrict_cancel hd rfl
  kernel := h.kernel
  undoKernel k := by
    funext t c
    rcases h.snapshots with ⟨hnone, rfl⟩ | ⟨d, hd, rfl⟩
    · simp only [undoKernel, List.foldr_nil, undoneKernel, passed_singleton]
      split
      · rename_i htc
        obtain ⟨-, rfl, rfl⟩ := htc
        rw [hnone]
      · rfl
    simp only [undoneKernel, passed_singleton]
    by_cases hc : x.permCode < T.permList.length
    · have hset : undoKernel T k [snapshotOf x.visit d] =
          k.setPermissionToKernel x.tokenId x.permCode (refreshedKernelStatus d.status (isRestricted d.flag)) :=
          if_pos hc
      rw [hset, KernelPerms.setPermissionToKernel_apply]
      by_cases htc : x.tokenId = t ∧ x.permCode = c
      · obtain ⟨rfl, rfl⟩ := htc
        rw [if_pos ⟨rfl, rfl⟩, if_pos ⟨hc, rfl, rfl⟩, hd]
      · rw [if_neg fun hh => htc ⟨hh.1.symm, hh.2.symm⟩, if_neg fun hh => htc hh.2]
    · have hset : undoKernel T k [snapshotOf x.visit d] = k := if_neg hc
      have hno : ¬(c < T.permList.length ∧ x.tokenId = t ∧ x.permCode = c) := fun hh => hc (hh.2.2 ▸ hh.1)
      rw [hset, if_neg hno]
  snapshots s hs := by
    rcases h.snapshots with ⟨-, rfl⟩ | ⟨d, hd, rfl⟩
    · exact absurd hs List.not_mem_nil
    · obtain rfl := List.mem_singleton.1 hs
      exact ⟨Option.isSome_of_eq_some hd, passed_singleton.2 ⟨rfl, rfl⟩⟩
  untouched t c hno := by
    rw [h.brief]
    exact (entry_restrict _).trans (if_neg fun hat => hno (passed_singleton.2 hat))

/-- **Two walks in a row.** -/
theorem TurnsDone.append {w₁ : Service} {new₁ new₂ : List UserPolicyRefreshSnapshot}
    (h₁ : TurnsDone T w xs w₁ new₁) (h₂ : TurnsDone T w₁ ys w' new₂) : TurnsDone T w (xs ++ ys) w' (new₁ ++ new₂) where
  policy := h₂.policy.trans h₁.policy
  tools := h₂.tools.trans h₁.tools
  brief := by rw [h₂.brief, h₁.brief, h₁.policy, List.foldl_append]
  entries t c := (h₂.entries t c).trans (h₁.entries t c)
  undo := by
    unfold undoFlags
    rw [List.foldr_append]
    exact (congrArg (undoFlags · new₁) h₂.undo).trans h₁.undo
  kernel t c hne := by
    by_cases h : w₁.kernel t c = w.kernel t c
    · obtain ⟨hc, s, hs, hat⟩ := h₂.kernel t c (by rw [h]; exact hne)
      exact ⟨hc, s, List.mem_append_right _ hs, hat⟩
    · obtain ⟨hc, s, hs, hat⟩ := h₁.kernel t c h
      exact ⟨hc, s, List.mem_append_left _ hs, hat⟩
  undoKernel k := by
    have hsplit : Service.undoKernel T k (new₁ ++ new₂) = Service.undoKernel T (Service.undoKernel T k new₂) new₁ := by
      unfold Service.undoKernel
      rw [List.foldr_append]
    rw [hsplit, h₁.undoKernel, h₂.undoKernel]
    funext t c
    simp only [undoneKernel, passed_append]
    by_cases hc : c < T.permList.length
    · by_cases hx : Passed xs t c
      · have hxs : c < T.permList.length ∧ Passed xs t c := ⟨hc, hx⟩
        have hxy : c < T.permList.length ∧ (Passed xs t c ∨ Passed ys t c) := ⟨hc, .inl hx⟩
        rw [if_pos hxs, if_pos hxy]
        have hsome := h₁.entries t c
        cases he : w.entry t c with
        | some => rfl
        | none =>
          have hnone : w₁.entry t c = none := by
            rw [he] at hsome
            exact Option.not_isSome_iff_eq_none.1 (by rw [hsome]; exact Bool.false_ne_true)
          rw [hnone]
          exact ite_self _
      · -- the first walk did not pass the entry
        rw [if_neg fun hh => hx hh.2, h₁.untouched t c hx]
        exact if_congr (and_congr_right fun _ => (or_iff_right hx).symm) rfl rfl
    · rw [if_neg fun hh => hc hh.1, if_neg fun hh => hc hh.1, if_neg fun hh => hc hh.1]
  snapshots s hs := by
    rcases List.mem_append.1 hs with hs | hs
    · obtain ⟨hsome, hat⟩ := h₁.snapshots s hs
      exact ⟨hsome, passed_append.2 (.inl hat)⟩
    · obtain ⟨hsome, hat⟩ := h₂.snapshots s hs
      exact ⟨(h₁.entries _ _).symm.trans hsome, passed_append.2 (.inr hat)⟩
  untouched t c hno := by
    rw [h₂.untouched t c fun hy => hno (passed_append.2 (.inr hy))]
    exact h₁.untouched t c fun hx => hno (passed_append.2 (.inl hx))

/-- **A loop over turns takes those before the first one that is blocked**, and succeeds if it takes all. -/
theorem run_turns (T : PermissionTable) (failing : TokenPerms) :
    ∀ (xs : List RefreshTurn) (w : Service) (snapshots : List UserPolicyRefreshSnapshot), ∃ r w' new,
      Lib.forUntil (fun st x => RefreshTurn.run T failing x st) (w, snapshots) xs = (r, (w', snapshots ++ new)) ∧
        TurnsDone T w (appliedTurns T failing w.policy.records w.brief xs) w' new ∧
        ((r = .ok () ∧ appliedTurns T failing w.policy.records w.brief xs = xs) ∨
          ((∃ e, r = .error e) ∧ appliedTurns T failing w.policy.records w.brief xs ≠ xs))
  | [], w, snapshots => ⟨_, w, [], by rw [List.append_nil]; rfl, turnsDone_nil, .inl ⟨rfl, rfl⟩⟩
  | x :: xs, w, snapshots => by
    rw [appliedTurns, Lib.forUntil]
    rcases x.run_cases T failing w snapshots with ⟨hblocked, e, heq⟩ | ⟨hfree, w₁, new₁, heq, hdone⟩
    · rw [if_pos hblocked, heq]
      exact ⟨_, w, [], by rw [List.append_nil], turnsDone_nil, .inr ⟨⟨e, rfl⟩, (List.cons_ne_nil _ _).symm⟩⟩
    obtain ⟨r, w', new₂, hloop, hrest, hr⟩ := run_turns T failing xs w₁ (snapshots ++ new₁)
    rw [hdone.policy, hdone.brief] at hrest hr
    rw [if_neg (by rw [hfree]; exact Bool.false_ne_true), heq]
    refine ⟨r, w', new₁ ++ new₂, by rw [← List.append_assoc]; exact hloop, hdone.turnsDone.append hrest, ?_⟩
    refine hr.imp (fun hok => ⟨hok.1, congrArg _ hok.2⟩) fun hstop => ⟨hstop.1, fun hall => hstop.2 ?_⟩
    exact (List.cons.inj hall).2

theorem length_appliedTurns_le (T : PermissionTable) (failing : TokenPerms)
    (records : UserPolicyRecords) : ∀ (xs : List RefreshTurn) (b : PermissionDataBrief),
      (appliedTurns T failing records b xs).length ≤ xs.length
  | [], _ => Nat.le_refl _
  | x :: xs, b => by
    rw [appliedTurns]
    split
    · exact Nat.zero_le _
    · exact Nat.succ_le_succ (length_appliedTurns_le T failing records xs _)

theorem appliedTurns_append (T : PermissionTable) (failing : TokenPerms) (records : UserPolicyRecords) :
    ∀ (xs : List RefreshTurn) (b : PermissionDataBrief) (ys : List RefreshTurn),
      (appliedTurns T failing records b xs = xs → appliedTurns T failing records b (xs ++ ys) =
        xs ++ appliedTurns T failing records (xs.foldl (fun b x => x.apply records b) b) ys) ∧
      (appliedTurns T failing records b xs ≠ xs →
        appliedTurns T failing records b (xs ++ ys) = appliedTurns T failing records b xs)
  | [], b, ys => ⟨fun _ => rfl, fun h => absurd rfl h⟩
  | x :: xs, b, ys => by
    simp only [List.cons_append, appliedTurns]
    split
    · exact ⟨fun h => absurd h (List.cons_ne_nil _ _).symm, fun _ => rfl⟩
    obtain ⟨hall, hstop⟩ := appliedTurns_append T failing records xs (x.apply records b) ys
    refine ⟨fun h => ?_, fun h => ?_⟩
    · rw [hall (List.cons.inj h).2]
      rfl
    · rw [hstop fun hh => h (congrArg _ hh)]

def refreshTurns (w : Service) (env : Env) (changes : List UserPolicyChange) : List RefreshTurn :=
  (refreshVisits (w.getTokenIDByUserID env.order) changes).map (fun v => ⟨v, true⟩) ++
    (refreshVisits (w.getToolTokenIDByUserID env.order) changes).map (fun v => ⟨v, false⟩)

theorem TurnsDone.undo_kernel (h : TurnsDone T w xs w' new) :
    Service.undoKernel T w'.kernel new = undoneKernel T w.brief xs w.kernel := by
  rw [h.undoKernel]
  funext t c
  unfold undoneKernel
  by_cases hk : w'.kernel t c = w.kernel t c
  · rw [hk]
  · obtain ⟨hc, s, hs, rfl, rfl⟩ := h.kernel t c hk
    obtain ⟨hsome, hat⟩ := h.snapshots s hs
    obtain ⟨d, hd⟩ := Option.isSome_iff_exists.1 hsome
    rw [if_pos ⟨hc, hat⟩, if_pos ⟨hc, hat⟩, hd]

/-- **What a refresh can do**: succeed, if no turn is blocked, and otherwise end with every flag as it was, with the
kernel bits the passed entries imply, and with the policy it was called under. -/
theorem refreshUserPolicyPermState_cases (T : PermissionTable) (w : Service) (env : Env)
    (changes : List UserPolicyChange) :
    (appliedTurns T env.failingRows w.policy.records w.brief (w.refreshTurns env changes) = w.refreshTurns env changes ∧
        (refreshUserPolicyPermState T w env changes).1 = .ok ()) ∨
      (appliedTurns T env.failingRows w.policy.records w.brief (w.refreshTurns env changes) ≠
          w.refreshTurns env changes ∧
        ∃ e w', refreshUserPolicyPermState T w env changes = (.error e, w') ∧ w'.policy = w.policy ∧
          w'.brief = w.brief ∧ w'.kernel = undoneKernel T w.brief
            (appliedTurns T env.failingRows w.policy.records w.brief (w.refreshTurns env changes)) w.kernel) := by
  unfold refreshUserPolicyPermState
  split
  · rename_i hempty
    obtain rfl := List.isEmpty_iff.1 hempty
    exact .inl ⟨rfl, rfl⟩
  unfold refreshTurns refreshUserPolicyFlag
  obtain ⟨r, w₁, new₁, hloop, hdone, hr⟩ := run_turns T env.failingRows
    ((refreshVisits (w.getTokenIDByUserID env.order) changes).map (fun v => ⟨v, true⟩)) w []
  rw [Lib.forUntil_map] at hloop
  have hloop : Lib.forUntil (refreshHapVisit T env.failingRows) (w, [])
      (refreshVisits (w.getTokenIDByUserID env.order) changes) = (r, (w₁, new₁)) := hloop
  rw [hloop]
  obtain ⟨happ, hstop⟩ := appliedTurns_append T env.failingRows w.policy.records
    ((refreshVisits (w.getTokenIDByUserID env.order) changes).map (fun v => ⟨v, true⟩)) w.brief
    ((refreshVisits (w.getToolTokenIDByUserID env.order) changes).map (fun v => ⟨v, false⟩))
  rcases hr with ⟨rfl, hall⟩ | ⟨⟨e, rfl⟩, hblocked⟩
  · -- every HAP turn was taken
    dsimp only
    unfold refreshToolUserPolicyFlag
    obtain ⟨r, w₂, new₂, hloop₂, hdone₂, hr₂⟩ := run_turns T env.failingRows
      ((refreshVisits (w₁.getToolTokenIDByUserID env.order) changes).map (fun v => ⟨v, false⟩)) w₁ []
    rw [Lib.forUntil_map] at hloop₂
    have hloop₂ : Lib.forUntil (refreshToolVisit T) (w₁, [])
        (refreshVisits (w₁.getToolTokenIDByUserID env.order) changes) = (r, (w₂, new₂)) := hloop₂
    rw [hloop₂]
    have htools : w₁.getToolTokenIDByUserID = w.getToolTokenIDByUserID := by
      unfold getToolTokenIDByUserID
      rw [hdone.tools]
    rw [htools, hdone.policy] at hdone₂ hr₂
    rw [happ hall]
    rw [hall] at hdone
    rw [hdone.brief] at hdone₂ hr₂
    have hboth := hdone.append hdone₂
    rcases hr₂ with ⟨rfl, hall₂⟩ | ⟨⟨e, rfl⟩, hblocked₂⟩
    · exact .inl ⟨by rw [hall₂], rfl⟩
    refine .inr ⟨fun hh => hblocked₂ (List.append_cancel_left hh), e, _, rfl, ?_⟩
    have hsome : ∀ s ∈ new₂, (w₂.entry s.tokenId s.permCode).isSome = true := fun s hs =>
      (hboth.entries _ _).trans (hboth.snapshots s (List.mem_append_right _ hs)).1
    rw [rollbackToolUserPolicyFlag_eq new₂ hsome]
    obtain ⟨db, hback⟩ := rollbackUserPolicyFlag_eq T
      { w₂ with brief := undoFlags w₂.brief new₂, kernel := undoKernel T w₂.kernel new₂ } env new₁
    rw [hback]
    have hundo := hboth.undo
    have hkernel := hboth.undo_kernel
    unfold undoFlags at hundo
    unfold undoKernel at hkernel
    rw [List.foldr_append] at hundo hkernel
    exact ⟨hboth.policy, hundo, hkernel⟩
  · rw [hstop hblocked]
    obtain ⟨db, hback⟩ := rollbackUserPolicyFlag_eq T w₁ env new₁
    refine .inr ⟨fun hh => hblocked ?_, e, _, rfl, ?_⟩
    · have hlen := length_appliedTurns_le T env.failingRows w.policy.records
        ((refreshVisits (w.getTokenIDByUserID env.order) changes).map (fun v => ⟨v, true⟩)) w.brief
      have hnil : (refreshVisits (w.getToolTokenIDByUserID env.order) changes).map
          (fun v => (⟨v, false⟩ : RefreshTurn)) = [] := by
        rw [hh, List.length_append] at hlen
        exact List.eq_nil_of_length_eq_zero (by omega)
      rw [hh, hnil, List.append_nil]
    · rw [hback]
      exact ⟨hdone.policy, hdone.undo, hdone.undo_kernel⟩

/-! ## Requests -/

inductive PolicyRequest where
  | setUserPolicy (userPermissionList : List UserPermissionPolicy) (callingToken : AccessTokenID)
  | clearUserPolicy (permissionList : List String) (callingToken : AccessTokenID)

namespace PolicyRequest

def run (T : PermissionTable) (w : Service) (env : Env) : PolicyRequest → Ret × Service
  | .setUserPolicy list caller => Service.setUserPolicy T w env list caller
  | .clearUserPolicy list caller => Service.clearUserPolicy T w env list caller

def IsAdmitted (env : Env) : PolicyRequest → Prop
  | .setUserPolicy list _ => env.caller = .ok () ∧ list ≠ [] ∧ list.length ≤ maxSetUserPolicySize
  | .clearUserPolicy list _ => env.caller = .ok () ∧ isListSizeValid list.length = true

def update (T : PermissionTable) (st : Store) (policyOk : Bool) :
    PolicyRequest → Except AccessTokenError (List UserPolicyChange) × Store
  | .setUserPolicy list caller => UserPolicyManager.setUserPolicy T st policyOk list caller
  | .clearUserPolicy list caller => UserPolicyManager.clearUserPolicy T st policyOk list caller

end PolicyRequest

theorem PolicyRequest.run_cases (T : PermissionTable) (w : Service) (env : Env) (req : PolicyRequest) :
    (¬req.IsAdmitted env ∧ ∃ e, req.run T w env = (.error e, w)) ∨
      (req.IsAdmitted env ∧ req.run T w env = commitUserPolicy T w env (req.update T w.policy env.policyOk)) := by
  cases req with
  | setUserPolicy list caller =>
    simp only [PolicyRequest.run, PolicyRequest.IsAdmitted, PolicyRequest.update, Service.setUserPolicy]
    cases env.caller with
    | error e => exact .inl ⟨fun h => absurd h.1 (by simp), e, rfl⟩
    | ok u =>
      dsimp only
      split
      · rename_i hsize
        simp only [Bool.or_eq_true, List.isEmpty_iff, decide_eq_true_eq] at hsize
        refine .inl ⟨fun h => ?_, _, rfl⟩
        rcases hsize with hsize | hsize
        · exact h.2.1 hsize
        · omega
      · rename_i hsize
        simp only [Bool.or_eq_true, List.isEmpty_iff, decide_eq_true_eq, not_or, Nat.not_lt] at hsize
        exact .inr ⟨⟨rfl, hsize⟩, rfl⟩
  | clearUserPolicy list caller =>
    simp only [PolicyRequest.run, PolicyRequest.IsAdmitted, PolicyRequest.update, Service.clearUserPolicy]
    cases env.caller with
    | error e => exact .inl ⟨fun h => absurd h.1 (by simp), e, rfl⟩
    | ok u =>
      dsimp only
      split
      · rename_i hempty
        obtain rfl := List.isEmpty_iff.1 hempty
        exact .inl ⟨fun h => absurd h.2 (by decide), _, rfl⟩
      split
      · rename_i hsize
        exact .inl ⟨fun h => by simp [h.2] at hsize, _, rfl⟩
      · rename_i hsize
        exact .inr ⟨⟨rfl, by simpa using hsize⟩, rfl⟩

/-- **Nothing the request is about has changed**: neither the policy records and their rows, nor a restricted flag, nor
a kernel bit. -/
structure Untouched (w w' : Service) : Prop where
  records : w'.policy.records = w.policy.records
  rows : w'.policy.table = w.policy.table
  flags : ∀ t c, (w'.entry t c).map (fun d => isRestricted d.flag) = (w.entry t c).map fun d => isRestricted d.flag
  kernel : ∀ t c, w'.kernel t c = w.kernel t c

/-- The kernel bit of an entry the refresh passes is the one the stored status and the restricted bit imply. -/
def KernelInLine (T : PermissionTable) (w : Service) (xs : List RefreshTurn) : Prop :=
  ∀ x ∈ xs, x.permCode < T.permList.length → ∀ d, w.entry x.tokenId x.permCode = some d →
    w.kernel x.tokenId x.permCode = refreshedKernelStatus d.status (isRestricted d.flag)

/-- **When a failure goes unnoticed**: the refresh runs through, or the update changes no record and no row, and the
kernel bits of the entries passed before the blocked turn are in line. -/
def RefreshSafe (T : PermissionTable) (w : Service) (env : Env) (changes : List UserPolicyChange)
    (policy : Store) : Prop :=
  appliedTurns T env.failingRows policy.records w.brief (w.refreshTurns env changes) = w.refreshTurns env changes ∨
    (policy = w.policy ∧
      KernelInLine T w (appliedTurns T env.failingRows policy.records w.brief (w.refreshTurns env changes)))

theorem undoneKernel_eq_iff {k : KernelPerms} : (∀ t c, undoneKernel T b xs k t c = k t c) ↔
      ∀ x ∈ xs, x.permCode < T.permList.length → ∀ d, b.entry x.tokenId x.permCode = some d →
        k x.tokenId x.permCode = refreshedKernelStatus d.status (isRestricted d.flag) := by
  constructor
  · intro h x hx hc d hd
    have hat := h x.tokenId x.permCode
    have hpassed : x.permCode < T.permList.length ∧ Passed xs x.tokenId x.permCode := ⟨hc, x, hx, rfl, rfl⟩
    rw [undoneKernel, if_pos hpassed, hd] at hat
    exact hat.symm
  · intro h t c
    unfold undoneKernel
    split
    · rename_i hpassed
      obtain ⟨hc, x, hx, rfl, rfl⟩ := hpassed
      cases hd : b.entry x.tokenId x.permCode with
      | none => rfl
      | some d => exact (h x hx hc d hd).symm
    · rfl

/-- **When a policy request is all-or-nothing.**  For every state, every request and every verdict of the database, an
error leaves no trace if and only if the request is refused before the policy is committed or the refresh is safe. -/
theorem policy_request_all_or_nothing_iff (T : PermissionTable) (w : Service) (env : Env) (req : PolicyRequest) :
    (∀ e, (req.run T w env).1 = .error e → Untouched w (req.run T w env).2) ↔
      (req.IsAdmitted env → ∀ changes, (req.update T w.policy env.policyOk).1 = .ok changes →
        RefreshSafe T w env changes (req.update T w.policy env.policyOk).2) := by
  have hfail : (∃ e, req.update T w.policy env.policyOk = (.error e, w.policy)) ∨
      ∃ changes policy, req.update T w.policy env.policyOk = (.ok changes, policy) := by
    cases req with
    | setUserPolicy list caller =>
      exact (setUserPolicy_cases T w.policy env.policyOk list caller).imp_right
        fun ⟨changes, policy, heq, _⟩ => ⟨changes, policy, heq⟩
    | clearUserPolicy =>
      exact clearUserPolicy_cases.imp_right
        fun ⟨changes, policy, heq, _⟩ => ⟨changes, policy, heq⟩
  rcases req.run_cases T w env with ⟨hno, e, heq⟩ | ⟨hyes, heq⟩
  · rw [heq]
    exact ⟨fun _ h => absurd h hno, fun _ _ _ => ⟨rfl, rfl, fun _ _ => rfl, fun _ _ => rfl⟩⟩
  rw [heq]
  rcases hfail with ⟨e, hup⟩ | ⟨changes, policy, hup⟩
  · rw [hup]
    exact ⟨fun _ _ changes h => absurd h (by simp), fun _ _ _ => ⟨rfl, rfl, fun _ _ => rfl, fun _ _ => rfl⟩⟩
  rw [hup]
  -- the turns do not depend on the policy committed
  have hturns : ({ w with policy := policy } : Service).refreshTurns env changes = w.refreshTurns env changes := rfl
  change (∀ e, (refreshUserPolicyPermState T { w with policy := policy } env changes).1 = .error e →
    Untouched w (refreshUserPolicyPermState T { w with policy := policy } env changes).2) ↔ _
  have hsafe : (req.IsAdmitted env → ∀ changes', (.ok changes : Except AccessTokenError _) = .ok changes' →
      RefreshSafe T w env changes' policy) ↔ RefreshSafe T w env changes policy :=
    ⟨fun h => h hyes changes rfl, fun h _ changes' heq => by cases heq; exact h⟩
  refine Iff.trans ?_ hsafe.symm
  rcases refreshUserPolicyPermState_cases T { w with policy := policy } env changes with
    ⟨hall, hok⟩ | ⟨hstop, e, w', hrun, hpolicy, hbrief, hkernel⟩
  · rw [hok]
    exact ⟨fun _ => .inl hall, fun _ e h => absurd h (by simp)⟩
  rw [hrun]
  constructor
  · intro h
    obtain ⟨hrec, hrows, -, hk⟩ := h e rfl
    rw [hpolicy] at hrec hrows
    refine .inr ⟨?_, undoneKernel_eq_iff.1 fun t c => ?_⟩
    · exact congr (congrArg Store.mk hrec) hrows
    · have hat := hk t c
      rw [hkernel] at hat
      exact hat
  · rintro (hall | ⟨hsame, hline⟩) e' -
    · exact absurd hall hstop
    · refine ⟨by rw [hpolicy, hsame], by rw [hpolicy, hsame], fun t c => by rw [hbrief], fun t c => ?_⟩
      rw [hkernel]
      exact undoneKernel_eq_iff.2 hline t c

/-- **A failed request can leave its policy behind**: the row of the application cannot be written, the request is
refused, and the records and their table hold the new policy. -/
theorem failed_request_leaves_policy :
    let w := cameraRequested.foldl (serviceStep sampleTable ∅) Service.empty
    let res := (PolicyRequest.setUserPolicy (cameraPolicy true) 7).run sampleTable w cameraRowFails
    res.1 = .error .errDatabaseOperateFailed ∧ w.policy.records = ∅ ∧ w.policy.table = ∅ ∧
      (0 : Nat) ∈ res.2.policy.records ∧ camera ∈ res.2.policy.table := by
  decide +kernel

end Service
end AccessToken
