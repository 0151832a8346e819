import AccessToken.Claw.DecisionEngine
import AccessToken.Lib.ExceptLoop
import AccessToken.Service.Sound
/-!
# The permissions of a CLI ticket

`BuildCliTicketAuthInfos` turns the permissions a command was answered for into the permissions behind them.  What it
builds is the table of all uses: each used permission once, authorised when one of its uses is.  A use is decided by the
stored status and flag of the host, and `IsRestrictedFlag` does not test `PERMISSION_RESTRICTED_BY_ADMIN`.
-/
namespace AccessToken.Claw

open Lib (hasAny)
open PermissionDataBrief PermissionTable

/-! ## The status map of the host -/

section StatusMap

variable (T : PermissionTable) (s : PermissionDataBrief) (tokenId : AccessTokenID)

/-- `GetReqPermissions` of a token in memory. -/
def getReqPermissions (isSystemGrant : Bool) : Except AccessTokenError (List PermissionStatus) :=
  match s.permissionStateValues T tokenId with
  | none => .error .errTokenInvalid
  | some tmpList => .ok (tmpList.filter fun perm =>
      (T.getPermissionBriefDef perm.permissionName).any fun briefDef =>
        isSystemGrant == (briefDef.1.grantMode == .systemGrant))

def addPermissionStatus (permissionStatusMap : PermissionStatusMap) (permission : PermissionStatus) :
    PermissionStatusMap := permissionStatusMap.insert permission.permissionName permission

def buildPermissionStatusMap : Except AccessTokenError PermissionStatusMap := do
  let userGrantPermissions ← getReqPermissions T s tokenId false
  let systemGrantPermissions ← getReqPermissions T s tokenId true
  .ok (systemGrantPermissions.foldl addPermissionStatus (userGrantPermissions.foldl addPermissionStatus ∅))

end StatusMap

variable {T : PermissionTable} {M : ClawPermissionMetadata} {statusMap : PermissionStatusMap} {cliInfo : CliInfo}
  {raw info : CliAuthInfo} {s : PermissionDataBrief} {host : AccessTokenID} {p : String} {b : Bool} {c : Nat}
  {d : BriefPermData}

theorem getElem?_foldl_add (st : PermissionStatus) : ∀ (l : List PermissionStatus) (m : PermissionStatusMap),
    (∀ x ∈ l, x.permissionName = p → x = st) →
      (l.foldl addPermissionStatus m)[p]? = if ∃ x ∈ l, x.permissionName = p then some st else m[p]?
  | [], _, _ => by simp
  | x :: l, m, h => by
    rw [List.foldl_cons, getElem?_foldl_add st l _ fun y hy => h y (List.mem_cons_of_mem x hy), addPermissionStatus,
      Std.ExtTreeMap.getElem?_insert]
    by_cases hx : x.permissionName = p
    · obtain rfl := h x List.mem_cons_self hx
      simp [hx]
    · simp [hx]

/-- **The map of the host has the stored status and flag of each of its permissions**, under the name in the table. -/
theorem statusMap_of_entry (hgood : ∀ l, s.requestedPermData[host]? = some l → GoodList T l)
    (hmap : buildPermissionStatusMap T s host = .ok statusMap) (hc : T.transferPermissionToOpcode p = some c)
    (hd : s.entry host c = some d) :
    statusMap[p]? = if cStr p = p then some ⟨p, d.status, d.flag⟩ else none := by
  obtain ⟨l, hl, hmem⟩ := mem_of_entry hd
  simp only [buildPermissionStatusMap, getReqPermissions, permissionStateValues, hl, Option.map_some, bind, Except.bind,
    Except.ok.injEq] at hmap
  obtain ⟨briefDef, hdef, -⟩ := transferPermissionToOpcode_eq_some.1 hc
  have hbrief : T.getPermissionBriefDef p = some (briefDef, c) := by simp [getPermissionBriefDef, hc, hdef]
  rw [← hmap, ← List.foldl_append, getElem?_foldl_add ⟨p, d.status, d.flag⟩]
  · refine if_congr ⟨?_, fun hp => ⟨⟨p, d.status, d.flag⟩, ?_, rfl⟩⟩ rfl rfl
    · rintro ⟨x, hx, rfl⟩
      obtain ⟨d', hd', rfl⟩ : ∃ d' ∈ l, _ := List.mem_map.1 (by
        rcases List.mem_append.1 hx with hx | hx <;> exact List.mem_of_mem_filter hx)
      exact (transferOpcode_of_transfer (transferPermissionToOpcode_transferOpcode ((hgood l hl).inTable d' hd'))).symm
    · have hname : T.transferOpcodeToPermission d.permCode = p := by
        rw [permCode_of_entry hd, transferOpcode_of_transfer hc, hp]
      have hin : (⟨p, d.status, d.flag⟩ : PermissionStatus) ∈ l.map fun d =>
          ⟨T.transferOpcodeToPermission d.permCode, d.status, d.flag⟩ := List.mem_map.2 ⟨d, hmem, by rw [hname]⟩
      cases hmode : briefDef.grantMode == .systemGrant
      · exact List.mem_append_left _ (List.mem_filter.2 ⟨hin, by simp [hbrief, hmode]⟩)
      · exact List.mem_append_right _ (List.mem_filter.2 ⟨hin, by simp [hbrief, hmode]⟩)
  · rintro x hx rfl
    obtain ⟨d', hd', rfl⟩ : ∃ d' ∈ l, _ := List.mem_map.1 (by
      rcases List.mem_append.1 hx with hx | hx <;> exact List.mem_of_mem_filter hx)
    obtain rfl := Option.some.inj
      ((transferPermissionToOpcode_transferOpcode ((hgood l hl).inTable d' hd')).symm.trans hc)
    rw [Option.some.inj ((entry_of_mem hl (hgood l hl).nodup hd').symm.trans hd)]

/-! ## The table of the uses -/

theorem nodup_keepUnique {l : List String} (h : l.Nodup) {a : String} : (keepUnique l a).Nodup := by
  unfold keepUnique
  split
  · exact h
  · rename_i ha
    exact List.nodup_append.2 ⟨h, by simp, by
      rintro x hx y hy rfl
      exact ha (by simpa [List.mem_singleton.1 hy] using hx)⟩

theorem nodup_stableUnique (l : List String) : (stableUnique l).Nodup :=
  List.foldlRecOn l _ (by simp) fun _ h a _ => nodup_keepUnique h

theorem stableUnique_concat (l : List String) (a : String) : stableUnique (l ++ [a]) = keepUnique (stableUnique l) a :=
  List.foldl_concat ..

theorem mem_stableUnique (l : List String) : p ∈ stableUnique l ↔ p ∈ l := by
  induction l using List.reverseRecOn with
  | nil => rfl
  | append_singleton l a ih =>
    rw [stableUnique_concat, keepUnique]
    split
    · rename_i ha
      have ha : a ∈ stableUnique l := by simpa using ha
      grind
    · simp [ih]

/-- The table of a list of uses: each permission once, authorised when one of its uses is. -/
def tableOf (cliInfo : CliInfo) (uses : List (String × Bool)) : CliAuthInfo :=
  let names := stableUnique (uses.map (·.1))
  ⟨cliInfo, names, names.map fun p => decide ((p, true) ∈ uses)⟩

/-- The uses of a raw entry: the permissions behind it, each with what it resolves to. -/
def resolvedUses (T : PermissionTable) (M : ClawPermissionMetadata) (statusMap : PermissionStatusMap)
    (entry : String × Bool) : List (String × Bool) :=
  match getUsedPermissionsByCliPermission T M entry.1 with
  | .error _ => []
  | .ok used => used.map fun p => (p, resolveCliGrantedPermission statusMap p entry.2)

theorem appendResolvedPermission_tableOf (uses : List (String × Bool)) (p : String) (b : Bool) :
    appendResolvedPermission (tableOf cliInfo uses) p b = tableOf cliInfo (uses ++ [(p, b)]) := by
  have hnd := nodup_stableUnique (uses.map (·.1))
  have hmem := fun q => @mem_stableUnique q (uses.map (·.1))
  have hnew : ∀ q,
    decide ((q, true) ∈ uses ++ [(p, b)]) = (decide ((q, true) ∈ uses) || (decide (q = p) && b)) := by simp
  unfold appendResolvedPermission tableOf
  dsimp only
  simp only [List.map_append, List.map_singleton, stableUnique_concat, keepUnique, hnew]
  generalize stableUnique (uses.map (·.1)) = names at hnd hmem ⊢
  cases hidx : names.findIdx? (· == p) with
  | none =>
    have hothers : ∀ q ∈ names, q ≠ p := by simpa using hidx
    have hp : p ∉ names := fun hp => hothers p hp rfl
    have hno : (p, true) ∉ uses := fun hx => hp ((hmem p).2 (List.mem_map.2 ⟨_, hx, rfl⟩))
    rw [if_neg (by simpa using hp), List.map_append]
    dsimp only
    congr 2
    · exact List.map_congr_left fun q hq => by simp [hothers q hq]
    · simp [hno]
  | some i =>
    obtain ⟨hlt, hi, -⟩ := List.findIdx?_eq_some_iff_getElem.1 hidx
    have hi : names[i] = p := by simpa using hi
    rw [if_pos (by simp [← hi])]
    dsimp only
    congr 1
    refine List.ext_getElem (by simp) fun j _ hj => ?_
    have hj : j < names.length := by simpa using hj
    rw [List.getElem_modify, List.getElem_map, List.getElem_map]
    split
    · subst i
      simp [hi]
    · rename_i hij
      have hne : names[j] ≠ p := fun heq => hij (hnd.getElem_inj_iff.1 (hi.trans heq.symm))
      simp [hne]

theorem foldl_append_tableOf (cliInfo : CliInfo) : ∀ (new uses : List (String × Bool)),
    new.foldl (fun info u => appendResolvedPermission info u.1 u.2)
    (tableOf cliInfo uses) = tableOf cliInfo (uses ++ new)
  | [], uses => by rw [List.append_nil]; rfl
  | u :: new, uses => by
    rw [List.foldl_cons, appendResolvedPermission_tableOf, foldl_append_tableOf cliInfo new, List.append_assoc]
    rfl

theorem foldlM_resolvePermission : ∀ (entries uses : List (String × Bool)),
    entries.foldlM (resolvePermission T M statusMap) (tableOf cliInfo uses) = .ok info ↔
      (∀ e ∈ entries, ∃ used, getUsedPermissionsByCliPermission T M e.1 = .ok used) ∧
        info = tableOf cliInfo (uses ++ entries.flatMap (resolvedUses T M statusMap))
  | [], uses => by simp [pure, Except.pure, eq_comm]
  | e :: entries, uses => by
    rw [List.foldlM_cons, resolvePermission, List.flatMap_cons, List.forall_mem_cons, resolvedUses]
    cases hused : getUsedPermissionsByCliPermission T M e.1 with
    | error => simp [bind, Except.bind]
    | ok used =>
      have htable := foldl_append_tableOf cliInfo
        (used.map fun p => (p, resolveCliGrantedPermission statusMap p e.2)) uses
      rw [List.foldl_map] at htable
      simp only [bind, Except.bind, htable]
      rw [foldlM_resolvePermission entries, List.append_assoc]
      simp

/-- The permissions of a command with their marks. -/
def CliAuthInfo.marks (info : CliAuthInfo) : List (String × Bool) := info.permissionNames.zip info.authorizationResults

/-- **A command resolves to the table of its uses**, when all its permissions have a mapping or a definition. -/
theorem resolveAuthInfo_eq_ok : resolveAuthInfo T M statusMap raw = .ok info ↔
    (∀ e ∈ raw.marks, ∃ used, getUsedPermissionsByCliPermission T M e.1 = .ok used) ∧
      info = tableOf raw.cliInfo (raw.marks.flatMap (resolvedUses T M statusMap)) :=
  foldlM_resolvePermission _ []

theorem mem_marks_tableOf {uses : List (String × Bool)} :
    (p, b) ∈ (tableOf cliInfo uses).marks ↔ p ∈ uses.map (·.1) ∧ b = decide ((p, true) ∈ uses) := by
  rw [← mem_stableUnique]
  unfold CliAuthInfo.marks tableOf
  dsimp only
  rw [← List.map_prod_left_eq_zip, List.mem_map]
  constructor
  · rintro ⟨q, hq, heq⟩
    cases heq
    exact ⟨hq, rfl⟩
  · rintro ⟨hp, rfl⟩
    exact ⟨p, hp, rfl⟩

/-! ## The permissions of a ticket -/

/-- `GetUsedPermissionsByCliPermission` lists the permission for the raw one. -/
def MapsTo (T : PermissionTable) (M : ClawPermissionMetadata) (rawPermission p : String) : Prop :=
  ∃ used, getUsedPermissionsByCliPermission T M rawPermission = .ok used ∧ p ∈ used

theorem mem_resolvedUses {e : String × Bool} : (p, b) ∈ resolvedUses T M statusMap e ↔
    MapsTo T M e.1 p ∧ resolveCliGrantedPermission statusMap p e.2 = b := by
  unfold resolvedUses MapsTo
  cases getUsedPermissionsByCliPermission T M e.1 <;> simp

/-- What the resolved list of a command owes its raw list. -/
structure TicketOf (T : PermissionTable) (M : ClawPermissionMetadata) (statusMap : PermissionStatusMap)
    (raw info : CliAuthInfo) : Prop where
  cliInfo : info.cliInfo = raw.cliInfo
  authorised : ∀ p, (p, true) ∈ info.marks ↔
    ∃ e ∈ raw.marks, MapsTo T M e.1 p ∧ resolveCliGrantedPermission statusMap p e.2 = true
  once : info.permissionNames.Nodup
  order : ∀ raw' : CliAuthInfo, raw'.marks.Perm raw.marks →
    ∃ info', resolveAuthInfo T M statusMap raw' = .ok info' ∧ ∀ mark, mark ∈ info'.marks ↔ mark ∈ info.marks

theorem ticketOf_of_resolved (h : resolveAuthInfo T M statusMap raw = .ok info) : TicketOf T M statusMap raw info := by
  obtain ⟨hused, rfl⟩ := resolveAuthInfo_eq_ok.1 h
  refine ⟨rfl, fun p => ?_, nodup_stableUnique _, fun raw' hperm => ⟨_, resolveAuthInfo_eq_ok.2 ⟨fun e he =>
    hused e (hperm.mem_iff.1 he), rfl⟩, fun (q, b) => ?_⟩⟩
  · have huse : (p, true) ∈ raw.marks.flatMap (resolvedUses T M statusMap) ↔
        ∃ e ∈ raw.marks, MapsTo T M e.1 p ∧ resolveCliGrantedPermission statusMap p e.2 = true := by
      simp only [List.mem_flatMap, mem_resolvedUses]
    rw [mem_marks_tableOf, eq_comm (a := true), decide_eq_true_iff, ← huse]
    exact and_iff_right_of_imp fun h => List.mem_map.2 ⟨_, h, rfl⟩
  · have huses := hperm.flatMap_right (resolvedUses T M statusMap)
    rw [mem_marks_tableOf, mem_marks_tableOf, (huses.map _).mem_iff, decide_eq_decide.2 huses.mem_iff]

/-- `USER_FIXED`, `SYSTEM_FIXED`, `FIXED_FOR_SECURITY_POLICY`, `FIXED_BY_ADMIN_POLICY` and `RESTRICTED_BY_ADMIN`. -/
def fixingFlags : Flag :=
  permissionUserFixed ||| permissionSystemFixed ||| permissionFixedForSecurityPolicy |||
    permissionFixedByAdminPolicy ||| permissionRestrictedByAdmin

/-- The host is denied the permission, and its flag fixes that. -/
def DeniedForGood (T : PermissionTable) (s : PermissionDataBrief) (host : AccessTokenID) (p : String)
    (d : BriefPermData) : Prop :=
  ∃ c, T.transferPermissionToOpcode p = some c ∧ s.entry host c = some d ∧
    s.verifyPermissionStatus host c = permissionDenied ∧ hasAny d.flag fixingFlags = true

/-- **The condition on a raw entry** that maps to a permission the host is denied for good: a permission restricted by
an admin is not stored as granted without a dialog, and a positive answer meets one of the flags
`ResolveCliGrantedPermission` tests, under the name in the table. -/
def KeepsDenied (T : PermissionTable) (M : ClawPermissionMetadata) (s : PermissionDataBrief) (host : AccessTokenID)
    (e : String × Bool) : Prop :=
  ∀ p d, MapsTo T M e.1 p → DeniedForGood T s host p d →
    (cStr p = p → isRestricted d.flag = true → isGrantedWithoutDialog ⟨p, d.status, d.flag⟩ = false) ∧
      (e.2 = true → cStr p = p ∧ (isRestrictedFlag d.flag || isUserDeniedFlag d.flag) = true)

theorem resolve_denied_iff (hgood : ∀ l, s.requestedPermData[host]? = some l → GoodList T l)
    (hmap : buildPermissionStatusMap T s host = .ok statusMap) (hd : DeniedForGood T s host p d) :
    resolveCliGrantedPermission statusMap p b = false ↔
      (cStr p = p → isRestricted d.flag = true → isGrantedWithoutDialog ⟨p, d.status, d.flag⟩ = false) ∧
        (b = true → cStr p = p ∧ (isRestrictedFlag d.flag || isUserDeniedFlag d.flag) = true) := by
  obtain ⟨c, hc, hentry, hdenied, -⟩ := hd
  rw [verifyPermissionStatus_of_entry hentry, getEffectivePermissionStatus, effectiveStatus] at hdenied
  rw [resolveCliGrantedPermission, statusMap_of_entry hgood hmap hc hentry]
  by_cases hp : cStr p = p
  · have hgranted : isRestricted d.flag = false → isGrantedWithoutDialog ⟨p, d.status, d.flag⟩ = false := by
      intro hr
      rw [hr, if_neg Bool.false_ne_true] at hdenied
      split at hdenied
      · cases hdenied
      · rw [isGrantedWithoutDialog, hdenied]
        rfl
    rw [if_pos hp]
    cases hr : isRestricted d.flag <;> cases b <;> grind
  · simp [hp]

/-- **Which permissions a ticket carries**: those some raw entry resolves as granted, each once, whatever the order of
the entries.  A permission the host is denied for good is never among them exactly under the condition. -/
theorem cli_ticket_permissions_iff {raws infos : List CliAuthInfo}
    (h : buildCliTicketAuthInfos T M (.ok statusMap) raws = .ok infos) :
    List.Forall₂ (TicketOf T M statusMap) raws infos ∧
      ∀ s host, (∀ l, s.requestedPermData[host]? = some l → GoodList T l) →
        buildPermissionStatusMap T s host = .ok statusMap →
          ((∀ info ∈ infos, ∀ p d, DeniedForGood T s host p d → (p, true) ∉ info.marks) ↔
            ∀ raw ∈ raws, ∀ e ∈ raw.marks, KeepsDenied T M s host e) := by
  have hall := (Lib.mapM_ok h).imp fun _ _ => ticketOf_of_resolved
  refine ⟨hall, fun s host hgood hmap =>
    ⟨fun hnever raw hraw e he p d hp hd => ?_, fun hkeeps info hinfo p d hd hmark => ?_⟩⟩
  · obtain ⟨info, hinfo, hticket⟩ := Lib.forall₂_mem_left hall raw hraw
    refine (resolve_denied_iff hgood hmap hd).1 (Bool.eq_false_iff.2 fun hres => ?_)
    exact hnever info (List.of_mem_zip hinfo).2 p d hd ((hticket.authorised p).2 ⟨e, he, hp, hres⟩)
  · obtain ⟨raw, hraw, hticket⟩ := Lib.forall₂_mem_right hall info hinfo
    obtain ⟨e, he, hp, hres⟩ := (hticket.authorised p).1 hmark
    rw [(resolve_denied_iff hgood hmap hd).2 (hkeeps raw hraw e he p d hp hd)] at hres
    cases hres

/-- A command answered for the camera. -/
def cameraRaw (answer : Bool) : CliAuthInfo := ⟨⟨"shoot", ""⟩, [camera], [answer]⟩

def noMetadata : ClawPermissionMetadata := ⟨fun _ => .ok [], fun _ => none⟩

/-- A command that names the camera twice, answered no and yes. -/
def cameraTwice : CliAuthInfo := ⟨⟨"shoot", ""⟩, [camera, camera], [false, true]⟩

/-- A host whose user denied the camera for good. -/
def cameraDenied : PermissionDataBrief :=
  empty.addBriefPermDataByTokenId 7 [⟨permissionDenied, 0, 0, permissionUserFixed⟩]

def cameraDeniedMap : PermissionStatusMap :=
  (∅ : PermissionStatusMap).insert camera ⟨camera, permissionDenied, permissionUserFixed⟩

theorem user_denial_kept :
    buildPermissionStatusMap sampleTable cameraDenied 7 = .ok cameraDeniedMap ∧
      List.Forall₂ (TicketOf sampleTable noMetadata cameraDeniedMap) [cameraTwice] [cameraRaw false] ∧
      ∀ p d, DeniedForGood sampleTable cameraDenied 7 p d → (p, true) ∉ (cameraRaw false).marks := by
  have h : buildCliTicketAuthInfos sampleTable noMetadata (.ok cameraDeniedMap) [cameraTwice] =
      .ok [cameraRaw false] := by
    decide +kernel
  have hmap : buildPermissionStatusMap sampleTable cameraDenied 7 = .ok cameraDeniedMap := by
    rfl
  have hused : getUsedPermissionsByCliPermission sampleTable noMetadata camera =
      .ok [camera] := by
    decide +kernel
  obtain ⟨hticket, hiff⟩ := cli_ticket_permissions_iff h
  refine ⟨hmap, hticket, fun p d hd => (hiff cameraDenied 7 ?_ hmap).2 ?_ _ List.mem_cons_self p d hd⟩
  · rintro l ⟨⟩
    exact ⟨by decide, by decide, by decide⟩
  · rintro raw hraw e he p d ⟨used, hu, hp⟩ ⟨c, hc, hentry, -⟩
    obtain rfl := List.mem_singleton.1 hraw
    have hcamera : e.1 = camera := by
      simp only [CliAuthInfo.marks, cameraTwice, List.zip_cons_cons, List.zip_nil_right, List.mem_cons,
        List.not_mem_nil, or_false] at he
      rcases he with rfl | rfl <;> rfl
    rw [hcamera, hused] at hu
    cases hu
    obtain rfl := List.mem_singleton.1 hp
    cases hc
    cases hentry
    exact ⟨fun _ hr => absurd hr (by decide), fun _ => by decide +kernel⟩

/-- **A permission restricted by an admin is authorised** when the user answers yes. -/
theorem admin_restriction_authorised :
    let s := empty.addBriefPermDataByTokenId 7 [⟨permissionDenied, 0, 0, permissionRestrictedByAdmin⟩]
    s.verifyPermissionStatus 7 0 = permissionDenied ∧
      buildCliTicketAuthInfos sampleTable noMetadata (buildPermissionStatusMap sampleTable s 7) [cameraRaw true] =
        .ok [cameraRaw true] := by
  decide +kernel

end AccessToken.Claw
