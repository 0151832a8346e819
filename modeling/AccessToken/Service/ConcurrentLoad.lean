import AccessToken.Service.Sound
/-!
# Several threads looking a token up

A token that is not in memory is restored from its rows by every thread of `GetHapTokenInfoInner` that missed it: each
restores the permission data under the token's id, the first to come back publishes its object, and the others drop
theirs, whose destructor deletes the permission data of the id.  A step is one section under a lock, one read of the
database, or one constructor or destructor.
-/
namespace AccessToken

open PermissionDataBrief Function Std.ExtTreeMap AccessTokenIDManager
namespace Service

variable {T : PermissionTable} {w : Service}

/-! ## The steps of a call -/

inductive LoadPc where
  | lookup | status | mapSize | findHap | findStates | findValues | construct | restoreBasic | restoreData | publish
  | destroy | done
deriving DecidableEq

structure LoadReads where
  hap : Bool
  states : Bool
  values : Bool

def LoadReads.succeed (r : LoadReads) : Bool := r.hap && r.states && r.values

structure Loading (ι : Type) extends service : Service where
  pc : ι → LoadPc

variable {ι : Type} [DecidableEq ι] {r reads : LoadReads} {p : LoadPc} {id : AccessTokenID} {schedule : List ι}

/-- One step of a call; the object it builds is determined by the row of the token, which no step changes. -/
def loadCall (T : PermissionTable) (id : AccessTokenID) (reads : LoadReads) (w : Service) : LoadPc → LoadPc × Service
  | .lookup => if id ∈ w.hapTokenInfoMap then (.done, w) else (.status, w)
  | .status =>
    match w.getTokenIdStatusLocked id with
    | some .reserved => (.done, w)
    | some .untrusted => (.done, w)
    | _ => (.mapSize, w)
  | .mapSize => (.findHap, w)
  | .findHap =>
    if reads.hap then
      match w.db.hapTokenInfo[id]? with
      | none => (.done, w)
      | some row =>
        if row.reserved then (.done, { w with idManager := w.idManager.addReservedTokenId id }) else (.findStates, w)
    else (.done, w)
  | .findStates => if reads.states then (.findValues, w) else (.done, w)
  | .findValues => if reads.values then (.construct, w) else (.done, w)
  | .construct => (.restoreBasic, w)
  | .restoreBasic =>
    match (w.db.hapTokenInfo[id]?).bind (·.restoreHapTokenBasicInfo id) with
    | none => (.destroy, w)
    | some _ => (.restoreData, w)
  | .restoreData => (.publish, { w with brief := w.restoredBrief T id })
  | .publish =>
    if id ∈ w.hapTokenInfoMap then (.destroy, w)
    else
      match (w.db.hapTokenInfo[id]?).bind (·.restoreHapTokenBasicInfo id) with
      | none => (.destroy, w)
      | some hap => (.done, w.publishLoaded hap id)
  | .destroy => (.done, w.destroyHap id)
  | .done => (.done, w)

def loadStep (T : PermissionTable) (id : AccessTokenID) (reads : ι → LoadReads) (s : Loading ι) (i : ι) : Loading ι :=
  let (pc, w) := loadCall T id (reads i) s.service (s.pc i)
  ⟨w, update s.pc i pc⟩

/-- **An interleaving**: in each place, the call that takes its next step. -/
def interleave (T : PermissionTable) (id : AccessTokenID) (reads : ι → LoadReads) (w : Service) (schedule : List ι) :
    Loading ι :=
  schedule.foldl (loadStep T id reads) ⟨w, fun _ => .lookup⟩

def loadAlone (T : PermissionTable) (id : AccessTokenID) (reads : LoadReads) (x : LoadPc × Service) :
    LoadPc × Service :=
  loadCall T id reads x.2 x.1

theorem interleave_replicate (T : PermissionTable) (id : AccessTokenID) (reads : LoadReads) (n : Nat) :
    ∀ (p : LoadPc) (w : Service), (List.replicate n ()).foldl (loadStep T id fun _ => reads) ⟨w, fun _ => p⟩ =
      ⟨((loadAlone T id reads)^[n] (p, w)).2, fun _ => ((loadAlone T id reads)^[n] (p, w)).1⟩ := by
  induction n with
  | zero => exact fun _ _ => rfl
  | succ n ih =>
    intro p w
    have hstep : loadStep T id (fun _ : Unit => reads) ⟨w, fun _ => p⟩ () =
        ⟨(loadCall T id reads w p).2, fun _ => (loadCall T id reads w p).1⟩ := by
      unfold loadStep
      congr 1
    rw [List.replicate_succ, List.foldl_cons, hstep, ih, iterate_succ_apply]
    rfl

theorem loadAlone_done {n : Nat} : (loadAlone T id reads)^[n] (.done, w) = (.done, w) := iterate_fixed rfl n

/-- The answer of the reads together: the row of a reserved token is all that is read of it. -/
def LoadReads.findOk (r : LoadReads) (row : Option HapTokenRow) : Bool :=
  r.hap && (row.all (·.reserved) || r.states && r.values)

theorem loadAlone_fromDb (reads : LoadReads) (hmem : id ∉ w.hapTokenInfoMap) :
    (loadAlone T id reads)^[8] (.mapSize, w) =
      (.done, (getHapTokenInfoInnerFromDb T w (reads.findOk w.db.hapTokenInfo[id]?) id).2) := by
  unfold getHapTokenInfoInnerFromDb LoadReads.findOk
  rw [iterate_succ_apply, loadAlone, loadCall, iterate_succ_apply, loadAlone, loadCall]
  cases hhap : reads.hap with
  | false => exact loadAlone_done
  | true =>
    cases hrow : w.db.hapTokenInfo[id]? with
    | none => exact loadAlone_done
    | some row =>
      cases hres : row.reserved with
      | true =>
        simp only [if_true, Option.all_some, hres]
        exact loadAlone_done
      | false =>
        simp only [if_true, Option.all_some, hres, Bool.true_and, Bool.false_or, Bool.false_eq_true, if_false]
        rw [iterate_succ_apply, loadAlone, loadCall]
        cases hstates : reads.states with
        | false => exact loadAlone_done
        | true =>
          rw [if_pos rfl, iterate_succ_apply, loadAlone, loadCall]
          cases hvalues : reads.values with
          | false => exact loadAlone_done
          | true =>
            rw [if_pos rfl, iterate_succ_apply, loadAlone, loadCall, iterate_succ_apply, loadAlone,
              loadCall, hrow, Option.bind_some]
            cases hbasic : row.restoreHapTokenBasicInfo id with
            | none => exact loadAlone_done
            | some =>
              have hpub : (loadAlone T id reads)^[2] (.restoreData, w) =
                  loadCall T id reads { w with brief := w.restoredBrief T id } .publish := rfl
              rw [hpub, loadCall, if_neg hmem, hrow, Option.bind_some, hbasic]
              rfl

theorem loadAlone_lookup (reads : LoadReads) : (loadAlone T id reads)^[10] (.lookup, w) =
    (.done, (getHapTokenInfoInner T w (reads.findOk w.db.hapTokenInfo[id]?) id).2) := by
  unfold getHapTokenInfoInner
  rw [iterate_succ_apply, loadAlone, loadCall]
  cases hget : w.hapTokenInfoMap[id]? with
  | some =>
    rw [if_pos (mem_of_getElem? hget)]
    exact loadAlone_done
  | none =>
    have hrest := loadAlone_fromDb (T := T) reads (not_mem_of_getElem? hget)
    rw [if_neg (not_mem_of_getElem? hget), iterate_succ_apply, loadAlone, loadCall]
    cases hst : w.getTokenIdStatusLocked id with
    | none => exact hrest
    | some st =>
      cases st with
      | active => exact hrest
      | reserved => exact loadAlone_done
      | untrusted => exact loadAlone_done

/-- **A call that runs alone does what the lookup does**, whichever of its reads fail; what the lookup returns is what
then stands in the map. -/
theorem interleave_alone (reads : LoadReads) :
    let found := getHapTokenInfoInner T w (reads.findOk w.db.hapTokenInfo[id]?) id
    interleave T id (fun _ : Unit => reads) w (List.replicate 10 ()) = ⟨found.2, fun _ => .done⟩ ∧
      found.1 = found.2.hapTokenInfoMap[id]? := by
  refine ⟨?_, ?_⟩
  · unfold interleave
    rw [interleave_replicate, loadAlone_lookup]
  · rcases getHapTokenInfoInner_cases T w (reads.findOk w.db.hapTokenInfo[id]?) id with
      ⟨info, hget, heq⟩ | ⟨hnone, m, b, -, -, heq⟩ | ⟨-, -, row, hap, -, -, -, heq⟩ <;> rw [heq]
    · exact hget.symm
    · exact hnone.symm
    · exact getElem?_insert_self.symm

/-! ## What is restored -/

/-- **The permission list the rows of a token restore**, or none if its extended values are malformed. -/
def restoredList (T : PermissionTable) (db : Database) (id : AccessTokenID) : Option (List BriefPermData) :=
  (translationIntoAclExtendedMap (db.findExtendValue id) ∅).map fun acl =>
    (restoreLoop T id acl (db.findPermissionState id) [] ∅).1

theorem restoreLoop_fst (T : PermissionTable) (id : AccessTokenID) (acl : AclExtendedMap) :
    ∀ (rows : List PermissionStatus) (l : List BriefPermData) (ext ext' : ExtendedValueMap),
      (restoreLoop T id acl rows l ext).1 = (restoreLoop T id acl rows l ext').1
  | [], _, _, _ => rfl
  | row :: rows, l, ext, ext' => by
    simp only [restoreLoop]
    cases translationIntoPermissionStatus row with
    | none => exact restoreLoop_fst T id acl rows l ext ext'
    | some st =>
      have h := getPermissionBriefData_fst (T := T) id st acl ext
      have h' := getPermissionBriefData_fst (T := T) id st acl ext'
      dsimp only
      revert h h'
      generalize getPermissionBriefData T id st acl ext = res
      generalize getPermissionBriefData T id st acl ext' = res'
      obtain ⟨d, e⟩ := res
      obtain ⟨d', e'⟩ := res'
      rintro h h'
      obtain rfl : d = d' := h.trans h'.symm
      cases d with
      | none => exact restoreLoop_fst T id acl rows l e e'
      | some => exact restoreLoop_fst T id acl rows _ e e'

theorem restoredBrief_list {l : List BriefPermData} (h : restoredList T w.db id = some l) :
    (w.restoredBrief T id).requestedPermData[id]? = some l := by
  obtain ⟨acl, hacl, rfl⟩ := Option.map_eq_some_iff.1 h
  unfold restoredBrief restorePermissionBriefData
  simp only [hacl, addBriefPermDataByTokenId_requested, getElem?_insert_self]
  rw [restoreLoop_fst T id acl _ _ _ ∅]

/-! ## Tokens that cannot be loaded -/

/-- **The token can be loaded from its row**: its id is neither reserved nor untrusted, and the row is a live one that
can be read back. -/
structure Loadable (w : Service) (id : AccessTokenID) : Prop where
  notReserved : w.getTokenIdStatusLocked id ≠ some .reserved
  notUntrusted : w.getTokenIdStatusLocked id ≠ some .untrusted
  row : ∃ row basic, w.db.hapTokenInfo[id]? = some row ∧ row.reserved = false ∧
    row.restoreHapTokenBasicInfo id = some basic

theorem loadCall_db (T : PermissionTable) (id : AccessTokenID) (reads : LoadReads) (w : Service) (p : LoadPc) :
    (loadCall T id reads w p).2.db = w.db := by
  cases p <;> simp only [loadCall] <;> (repeat' split) <;> rfl

theorem loadCall_map (hp : p ≠ .publish) : (loadCall T id reads w p).2.hapTokenInfoMap = w.hapTokenInfoMap := by
  cases p with
  | publish => exact absurd rfl hp
  | _ => simp only [loadCall] <;> (repeat' split) <;> rfl

/-- **A set of program points that no call leaves and that publishes nothing** keeps the token out of memory; `M` is
what the calls keep of the id manager. -/
theorem not_published {reads : ι → LoadReads} {P : LoadPc → Prop} {M : AccessTokenIDManager → Prop}
    (hmap : id ∉ w.hapTokenInfoMap) (hM : M w.idManager) (hstart : P .lookup) (hpub : ¬P .publish)
    (hstep : ∀ r w' p, w'.db = w.db → M w'.idManager → P p →
      P (loadCall T id r w' p).1 ∧ M (loadCall T id r w' p).2.idManager) (schedule : List ι) :
    id ∉ (interleave T id reads w schedule).hapTokenInfoMap := by
  have hinv := List.foldlRecOn (motive := fun s : Loading ι => s.db = w.db ∧
      s.hapTokenInfoMap = w.hapTokenInfoMap ∧ M s.idManager ∧ ∀ i, P (s.pc i))
    schedule (loadStep T id reads) (b := ⟨w, fun _ => .lookup⟩) ⟨rfl, rfl, hM, fun _ => hstart⟩ (by
      rintro s ⟨hdb, hsame, hm, hok⟩ i -
      obtain ⟨hok', hm'⟩ := hstep (reads i) s.service (s.pc i) hdb hm (hok i)
      have hne : s.pc i ≠ .publish := fun heq => hpub (heq ▸ hok i)
      refine ⟨(loadCall_db T id _ _ _).trans hdb, (loadCall_map hne).trans hsame, hm', fun j => ?_⟩
      change P (update s.pc i _ j)
      by_cases hj : j = i
      · subst hj
        rw [update_self]
        exact hok'
      · rw [update_of_ne hj]
        exact hok j)
  unfold interleave
  rw [hinv.2.1]
  exact hmap

/-- **A token that cannot be loaded never gets into memory.** -/
theorem not_published_of_not_loadable {reads : ι → LoadReads} (hmap : id ∉ w.hapTokenInfoMap) (h : ¬Loadable w id) :
    id ∉ (interleave T id reads w schedule).hapTokenInfoMap := by
  by_cases hrow : ∃ row, w.db.hapTokenInfo[id]? = some row ∧ row.reserved = false
  · obtain ⟨row, hrow, hres⟩ := hrow
    cases hbasic : row.restoreHapTokenBasicInfo id with
    | none =>
      -- every object built is dropped again
      refine not_published (P := fun p => p ≠ .restoreData ∧ p ≠ .publish) (M := fun _ => True) hmap trivial
        (by simp) (by simp) (fun r w' p hdb _ hp => ⟨?_, trivial⟩) schedule
      cases p <;> simp only [loadCall, hdb, hrow, hbasic, Option.bind_some] at hp ⊢ <;> (repeat' split) <;> simp_all
    | some basic =>
      have hstatus : w.getTokenIdStatusLocked id = some .reserved ∨
          w.getTokenIdStatusLocked id = some .untrusted := by
        by_contra hno
        rw [not_or] at hno
        exact h ⟨hno.1, hno.2, row, basic, hrow, hres, hbasic⟩
      refine not_published (P := fun p => p = .lookup ∨ p = .status ∨ p = .done)
        (M := fun m => m = w.idManager) hmap rfl (by simp) (by simp) (fun r w' p _ hm hp => ?_) schedule
      rcases hp with rfl | rfl | rfl
      · simp only [loadCall]
        split <;> simp [hm]
      · simp only [loadCall, hm]
        rcases hstatus with hst | hst <;> simp [hst, hm]
      · exact ⟨by simp [loadCall], hm⟩
  · refine not_published (P := fun p => p = .lookup ∨ p = .status ∨ p = .mapSize ∨ p = .findHap ∨ p = .done)
      (M := fun _ => True) hmap trivial (by simp) (by simp) (fun r w' p hdb _ hp => ⟨?_, trivial⟩) schedule
    rcases hp with rfl | rfl | rfl | rfl | rfl <;> simp only [loadCall, hdb]
    · split <;> simp
    · split <;> simp
    · simp
    · split
      · split
        · simp
        rename_i row hget
        have hres : row.reserved = true := by
          by_contra hres
          exact hrow ⟨row, hget, by simpa using hres⟩
        simp [hres]
      · simp
    · simp

/-! ## Tokens that can be loaded -/

section Loadable

variable {id : AccessTokenID}

section

variable (h : Loadable w id)
include h

section

variable (T)

theorem Loadable.status (r : LoadReads) : loadCall T id r w .status = (.mapSize, w) := by
  cases hst : w.getTokenIdStatusLocked id with
  | none => simp only [loadCall, hst]
  | some st =>
    cases st with
    | active => simp only [loadCall, hst]
    | reserved => exact absurd hst h.notReserved
    | untrusted => exact absurd hst h.notUntrusted

theorem Loadable.findHap (r : LoadReads) :
    loadCall T id r w .findHap = (if r.hap then .findStates else .done, w) := by
  obtain ⟨row, basic, hrow, hres, -⟩ := h.row
  cases hhap : r.hap <;> simp [loadCall, hrow, hres, hhap]

theorem Loadable.restoreBasic (r : LoadReads) :
    loadCall T id r w .restoreBasic = (.restoreData, w) := by
  obtain ⟨row, basic, hrow, -, hbasic⟩ := h.row
  simp only [loadCall, hrow, Option.bind_some, hbasic]

theorem Loadable.publish (r : LoadReads) (hmap : id ∉ w.hapTokenInfoMap) :
    ∃ hap, loadCall T id r w .publish = (.done, w.publishLoaded hap id) := by
  obtain ⟨row, hap, hrow, -, hhap⟩ := h.row
  exact ⟨hap, by simp only [loadCall, if_neg hmap, hrow, Option.bind_some, hhap]⟩

end

theorem Loadable.of_eq {w' : Service} (hid : w'.idManager = w.idManager) (hdb : w'.db = w.db) : Loadable w' id :=
  ⟨by rw [hid]; exact h.notReserved, by rw [hid]; exact h.notUntrusted, by rw [hdb]; exact h.row⟩

/-- A published token can still be loaded: its id has become active or is what it was. -/
theorem Loadable.publishLoaded {hap : HapTokenInfoInner} : Loadable (w.publishLoaded hap id) id := by
  have hid : (w.publishLoaded hap id).idManager = (w.idManager.registerTokenId id .tokenHap).2 := rfl
  rcases registerTokenId_cases id .tokenHap with ⟨-, e, heq⟩ | ⟨-, -, heq⟩
  · rw [heq] at hid
    exact h.of_eq hid rfl
  rw [heq] at hid
  have hactive : (w.publishLoaded hap id).getTokenIdStatusLocked id = some .active := by
    rw [hid]
    simp [getTokenIdStatusLocked, addToSet]
  exact ⟨by rw [hactive]; simp, by rw [hactive]; simp, h.row⟩

end

def LoadPc.allowed (r : LoadReads) : LoadPc → Bool
  | .lookup | .status | .mapSize | .findHap | .done => true
  | .findStates => r.hap
  | .findValues => r.hap && r.states
  | .construct | .restoreBasic | .restoreData | .publish | .destroy => r.succeed

theorem Loadable.allowed (h : Loadable w id) (hp : p.allowed r = true) : (loadCall T id r w p).1.allowed r = true := by
  cases p with
  | status => rw [h.status]; rfl
  | findHap =>
    rw [h.findHap]
    cases hhap : r.hap with
    | true => exact hhap
    | false => rfl
  | findStates =>
    have hhap : r.hap = true := hp
    cases hst : r.states <;> simp [loadCall, LoadPc.allowed, hst, hhap]
  | findValues =>
    have hboth : (r.hap && r.states) = true := hp
    cases hval : r.values <;> simp [loadCall, LoadPc.allowed, LoadReads.succeed, hval, hboth]
  | restoreBasic => rw [h.restoreBasic]; exact hp
  | publish =>
    by_cases hmap : id ∈ w.hapTokenInfoMap
    · simp only [loadCall, if_pos hmap]; exact hp
    · obtain ⟨basic, heq⟩ := h.publish T r hmap
      rw [heq]; rfl
  | lookup => simp only [loadCall]; split <;> rfl
  | mapSize => rfl
  | construct => exact hp
  | restoreData => exact hp
  | destroy => rfl
  | done => rfl

/-- **A call with a failing read changes nothing.** -/
theorem Loadable.unchanged (h : Loadable w id) (hr : r.succeed = false)
    (hp : p.allowed r = true) : (loadCall T id r w p).2 = w := by
  cases p with
  | status => rw [h.status]
  | findHap => rw [h.findHap]
  | findStates => simp only [loadCall]; split <;> rfl
  | findValues => simp only [loadCall]; split <;> rfl
  | lookup => simp only [loadCall]; split <;> rfl
  | mapSize => rfl
  | done => rfl
  | _ => exact absurd (hr.symm.trans hp) Bool.false_ne_true

end Loadable

/-! ## Before and after the first call publishes -/

section Interleaved

variable {id : AccessTokenID} {reads : ι → LoadReads} {s : Loading ι} {pre : List ι} {i : ι} {n : Nat}

def publishStep : Nat := 10

/-- **The calls take turns**: wherever two of those that read the database have begun, one has already published. -/
def InTurn (reads : ι → LoadReads) (schedule : List ι) : Prop :=
  ∀ pre, pre <+: schedule → ∀ i j, i ≠ j → (reads i).succeed = true → (reads j).succeed = true → i ∈ pre → j ∈ pre →
    ∃ k, (reads k).succeed = true ∧ publishStep ≤ pre.count k

/-- The points of a call whose reads succeed, while nobody has published. -/
def pcAt : Nat → LoadPc
  | 0 => .lookup
  | 1 => .status
  | 2 => .mapSize
  | 3 => .findHap
  | 4 => .findStates
  | 5 => .findValues
  | 6 => .construct
  | 7 => .restoreBasic
  | 8 => .restoreData
  | 9 => .publish
  | _ => .done

theorem pcAt_ne_done : ∀ {n : Nat}, n < publishStep → pcAt n ≠ .done
  | 0, _ | 1, _ | 2, _ | 3, _ | 4, _ | 5, _ | 6, _ | 7, _ | 8, _ | 9, _ => by decide
  | n + 10, h => by unfold publishStep at h; omega

theorem pcAt_ne_lookup (h : 0 < n) : pcAt n ≠ .lookup := by
  unfold pcAt
  split <;> first | omega | decide

/-- Nobody has published: the calls that read are where their number of steps says. -/
structure Unpublished (T : PermissionTable) (w : Service) (id : AccessTokenID) (reads : ι → LoadReads) (pre : List ι)
    (s : Loading ι) : Prop where
  idManager : s.idManager = w.idManager
  db : s.db = w.db
  map : s.hapTokenInfoMap = w.hapTokenInfoMap
  allowed : ∀ i, (s.pc i).allowed (reads i) = true
  counts : ∀ i, (reads i).succeed = true → pre.count i < publishStep ∧ s.pc i = pcAt (pre.count i)
  restored : ∀ l, restoredList T w.db id = some l → ∀ i, (reads i).succeed = true → pre.count i = 9 →
    s.requestedPermData[id]? = some l

/-- A call that read has missed the token and not returned. -/
def Pending (reads : ι → LoadReads) (s : Loading ι) : Prop :=
  ∃ i, (reads i).succeed = true ∧ s.pc i ≠ .lookup ∧ s.pc i ≠ .done

/-- **Somebody has published.**  If the calls took turns, no other call will drop an object; if not, one still will, or
has deleted the permission data last. -/
structure Published (T : PermissionTable) (w : Service) (id : AccessTokenID) (reads : ι → LoadReads) (pre : List ι)
    (s : Loading ι) : Prop where
  db : s.db = w.db
  loadable : Loadable s.service id
  map : id ∈ s.hapTokenInfoMap
  allowed : ∀ i, (s.pc i).allowed (reads i) = true
  count : ∃ k, (reads k).succeed = true ∧ publishStep ≤ pre.count k
  data : (InTurn reads pre ∧ ¬Pending reads s ∧
      ∀ l, restoredList T w.db id = some l → s.requestedPermData[id]? = some l) ∨
    (¬InTurn reads pre ∧ (Pending reads s ∨ s.requestedPermData[id]? = none))

omit [DecidableEq ι] in
theorem pc_loadStep [DecidableEq ι] (s : Loading ι) (i j : ι) : (loadStep T id reads s i).pc j =
    if j = i then (loadCall T id (reads i) s.service (s.pc i)).1 else s.pc j := by
  exact update_apply ..

theorem inTurn_snoc (h : ∃ k, (reads k).succeed = true ∧ publishStep ≤ pre.count k) :
    InTurn reads (pre ++ [i]) ↔ InTurn reads pre := by
  obtain ⟨k, hk, hcount⟩ := h
  constructor
  · exact fun hturn p hp => hturn p (hp.trans (List.prefix_append _ _))
  · intro hturn p hp a b hne ha hb hia hib
    rcases List.prefix_concat_iff.1 hp with rfl | hp
    · exact ⟨k, hk, hcount.trans (List.Sublist.count_le k (List.sublist_append_left _ _))⟩
    · exact hturn p hp a b hne ha hb hia hib

/-- **A step of a call whose reads succeed, once somebody has published**: at its ends the call returns, and in between
it stays in between until it drops its object. -/
theorem Loadable.afterPublished (h : Loadable w id) (T : PermissionTable) (hr : r.succeed = true)
    (hmap : id ∈ w.hapTokenInfoMap) (p : LoadPc) :
    (p = .lookup ∨ p = .done) ∧ loadCall T id r w p = (.done, w) ∨ p = .destroy ∨
      (p ≠ .lookup ∧ p ≠ .done) ∧ ((loadCall T id r w p).1 ≠ .lookup ∧ (loadCall T id r w p).1 ≠ .done) ∧
        (loadCall T id r w p).2.idManager = w.idManager ∧
        (loadCall T id r w p).2.hapTokenInfoMap = w.hapTokenInfoMap := by
  simp only [LoadReads.succeed, Bool.and_eq_true] at hr
  cases p with
  | status => simp [h.status]
  | findHap => simp [h.findHap, hr]
  | restoreBasic => simp [h.restoreBasic]
  | _ => simp [loadCall, hmap, hr]

theorem allowed_loadStep (hl : Loadable s.service id) (h : ∀ j, (s.pc j).allowed (reads j) = true) (i j : ι) :
    ((loadStep T id reads s i).pc j).allowed (reads j) = true := by
  rw [pc_loadStep]
  split
  · rename_i hj
    rw [hj]
    exact hl.allowed (h i)
  · exact h j

theorem pending_loadStep (hold : (reads i).succeed = true → s.pc i = .lookup ∨ s.pc i = .done)
    (hnew : (reads i).succeed = true → (loadCall T id (reads i) s.service (s.pc i)).1 = .done) :
    Pending reads (loadStep T id reads s i) ↔ Pending reads s := by
  refine exists_congr fun j => and_congr_right fun hj => ?_
  rw [pc_loadStep]
  split
  · rename_i hji
    subst hji
    rw [hnew hj]
    rcases hold hj with h | h <;> simp [h]
  · rfl

/-- After a call has published, every call that has begun drops its object in the end. -/
theorem Published.step (h : Published T w id reads pre s) :
    Published T w id reads (pre ++ [i]) (loadStep T id reads s i) := by
  have hallowed := allowed_loadStep (T := T) h.loadable h.allowed i
  have hcount : ∃ k, (reads k).succeed = true ∧ publishStep ≤ (pre ++ [i]).count k := by
    obtain ⟨k, hk, hle⟩ := h.count
    exact ⟨k, hk, hle.trans (List.Sublist.count_le k (List.sublist_append_left _ _))⟩
  have hservice : (loadStep T id reads s i).service = (loadCall T id (reads i) s.service (s.pc i)).2 := rfl
  have hdb : (loadStep T id reads s i).db = s.db := loadCall_db ..
  -- a step that changes nothing and after which a call is pending if and only if it was
  have hquiet : (loadCall T id (reads i) s.service (s.pc i)).2 = s.service →
      (Pending reads (loadStep T id reads s i) ↔ Pending reads s) →
      Published T w id reads (pre ++ [i]) (loadStep T id reads s i) := by
    intro hsame hpending
    rw [hsame] at hservice
    refine ⟨hdb.trans h.db, by rw [hservice]; exact h.loadable, by rw [hservice]; exact h.map, hallowed, hcount, ?_⟩
    rw [hservice, inTurn_snoc h.count, hpending]
    exact h.data
  -- a call that is pending shows that the calls did not take turns
  have hturn : Pending reads s → ¬InTurn reads (pre ++ [i]) := by
    intro hpending
    rw [inTurn_snoc h.count]
    rcases h.data with ⟨-, hno, -⟩ | ⟨hturn, -⟩
    · exact absurd hpending hno
    · exact hturn
  by_cases hr : (reads i).succeed = true
  · rcases h.loadable.afterPublished T hr h.map (s.pc i) with ⟨hends, hcall⟩ | hpc | ⟨hold, hnew, hid, hmap⟩
    · exact hquiet (by rw [hcall]) (pending_loadStep (fun _ => hends) fun _ => by rw [hcall])
    · have hdestroy : (loadStep T id reads s i).service = s.service.destroyHap id := by rw [hservice, hpc]; rfl
      have hnone : (s.service.destroyHap id).requestedPermData[id]? = none := by
        unfold destroyHap
        rcases deleteBriefPermDataByTokenId_cases id with ⟨hno, heq⟩ | ⟨-, heq⟩
        · rw [heq]; exact getElem?_eq_none hno
        · rw [heq]; exact getElem?_erase_self
      refine ⟨hdb.trans h.db, by rw [hdestroy]; exact h.loadable.of_eq rfl rfl, by rw [hdestroy]; exact h.map, hallowed,
        hcount, .inr ⟨hturn ⟨i, hr, by rw [hpc]; decide, by rw [hpc]; decide⟩, .inr ?_⟩⟩
      rw [hdestroy]
      exact hnone
    · refine ⟨hdb.trans h.db, h.loadable.of_eq hid hdb, by rw [hservice, hmap]; exact h.map, hallowed, hcount,
        .inr ⟨hturn ⟨i, hr, hold⟩, .inl ⟨i, hr, ?_⟩⟩⟩
      rw [pc_loadStep, if_pos rfl]
      exact hnew
  · exact hquiet (h.loadable.unchanged (by simpa using hr) (h.allowed i))
      (pending_loadStep (fun h => absurd h hr) fun h => absurd h hr)

/-- A call whose reads succeed advances to its restore while nobody has published. -/
theorem Loadable.advance (h : Loadable w id) (T : PermissionTable) (hmap : id ∉ w.hapTokenInfoMap)
    (hr : r.succeed = true) (hn : n < 8) : loadCall T id r w (pcAt n) = (pcAt (n + 1), w) := by
  unfold LoadReads.succeed at hr
  simp only [Bool.and_eq_true] at hr
  match n, hn with
  | 0, _ => simp only [pcAt, loadCall, if_neg hmap]
  | 1, _ => exact h.status T r
  | 2, _ => rfl
  | 3, _ => rw [show pcAt 3 = .findHap from rfl, h.findHap, hr.1.1]; rfl
  | 4, _ => simp only [pcAt, loadCall, hr.1.2, if_true]
  | 5, _ => simp only [pcAt, loadCall, hr.2, if_true]
  | 6, _ => rfl
  | 7, _ => exact h.restoreBasic T r

theorem count_snoc (pre : List ι) (i j : ι) : (pre ++ [i]).count j = pre.count j + if j = i then 1 else 0 := by
  by_cases h : j = i
  · subst h; simp
  · have h' : i ≠ j := fun hh => h hh.symm
    simp [h, h']

/-- **Until somebody publishes nobody has**, and the first to publish does so with the restored data in place. -/
theorem Unpublished.step (hl : Loadable w id) (hmap : id ∉ w.hapTokenInfoMap) (h : Unpublished T w id reads pre s) :
    Unpublished T w id reads (pre ++ [i]) (loadStep T id reads s i) ∨
      Published T w id reads (pre ++ [i]) (loadStep T id reads s i) := by
  have hload : Loadable s.service id := hl.of_eq h.idManager h.db
  have hno : id ∉ s.hapTokenInfoMap := by rw [h.map]; exact hmap
  have hallowed := allowed_loadStep (T := T) hload h.allowed i
  have hother : ∀ j, j ≠ i → (reads j).succeed = true → (pre ++ [i]).count j < publishStep ∧
      (loadStep T id reads s i).pc j = pcAt ((pre ++ [i]).count j) := by
    intro j hj hr
    rw [count_snoc, if_neg hj, Nat.add_zero, pc_loadStep, if_neg hj]
    exact h.counts j hr
  have hservice : (loadStep T id reads s i).service = (loadCall T id (reads i) s.service (s.pc i)).2 := rfl
  by_cases hr : (reads i).succeed = true
  · obtain ⟨hlt, hpc⟩ := h.counts i hr
    have hcount : (pre ++ [i]).count i = pre.count i + 1 := by rw [count_snoc, if_pos rfl]
    have hself : (loadStep T id reads s i).pc i = (loadCall T id (reads i) s.service (pcAt (pre.count i))).1 := by
      rw [pc_loadStep, if_pos rfl, hpc]
    rw [hpc] at hservice
    rcases Nat.lt_or_ge (pre.count i) 8 with hn | hn
    · -- a step on the way to the restore
      have hcall := hload.advance T hno hr hn
      rw [hcall] at hself hservice
      left
      refine ⟨by rw [hservice]; exact h.idManager, by rw [hservice]; exact h.db, by rw [hservice]; exact h.map,
        hallowed, fun j hj => ?_, fun l hlist j hj h9 => ?_⟩
      · by_cases hji : j = i
        · subst hji
          rw [hcount]
          exact ⟨by unfold publishStep; omega, hself⟩
        · exact hother j hji hj
      · rw [hservice]
        rw [count_snoc] at h9
        split at h9
        · rename_i hji
          subst hji
          omega
        · exact h.restored l hlist j hj h9
    rcases Nat.eq_or_lt_of_le hn with h8 | h9
    · -- the restore
      rw [← h8] at hself hservice hcount
      left
      refine ⟨by rw [hservice]; exact h.idManager, by rw [hservice]; exact h.db, by rw [hservice]; exact h.map,
        hallowed, fun j hj => ?_, fun l hlist j hj _ => ?_⟩
      · by_cases hji : j = i
        · subst hji
          rw [hcount]
          exact ⟨by decide, hself⟩
        · exact hother j hji hj
      · rw [hservice]
        exact restoredBrief_list (by rw [h.db]; exact hlist)
    · -- the first call to publish
      have h9 : pre.count i = 9 := by unfold publishStep at hlt; omega
      obtain ⟨basic, hcall⟩ := hload.publish T (reads i) hno
      have h10 : publishStep ≤ (pre ++ [i]).count i := by rw [hcount, h9]; exact Nat.le_refl _
      rw [h9] at hself hservice
      rw [show pcAt 9 = .publish from rfl, hcall] at hself hservice
      right
      refine ⟨by rw [hservice]; exact h.db, by rw [hservice]; exact hload.publishLoaded,
        by rw [hservice]; exact mem_insert_self, hallowed, ⟨i, hr, h10⟩, ?_⟩
      have hmem : i ∈ pre := List.count_pos_iff.1 (by omega)
      by_cases hclean : ∀ j, (reads j).succeed = true → j ∈ pre → j = i
      · refine .inl ⟨fun p hp a b hne ha hb hia hib => ?_, ?_, fun l hlist => ?_⟩
        · rcases List.prefix_concat_iff.1 hp with rfl | hp
          · exact ⟨i, hr, h10⟩
          · exact absurd ((hclean a ha (hp.subset hia)).trans (hclean b hb (hp.subset hib)).symm) hne
        · rintro ⟨j, hj, hjl, hjd⟩
          by_cases hji : j = i
          · subst hji
            exact hjd hself
          · have hzero : pre.count j = 0 := List.count_eq_zero.2 fun hjm => hji (hclean j hj hjm)
            rw [(hother j hji hj).2, count_snoc, if_neg hji, hzero] at hjl
            exact hjl rfl
        · rw [hservice]
          exact h.restored l hlist i hr h9
      · simp only [not_forall] at hclean
        obtain ⟨j, hj, hjm, hji⟩ := hclean
        refine .inr ⟨fun hturn => ?_, .inl ⟨j, hj, ?_, ?_⟩⟩
        · obtain ⟨k, hk, hle⟩ := hturn pre (List.prefix_append _ _) i j (fun heq => hji heq.symm) hr hj hmem hjm
          exact absurd (h.counts k hk).1 (Nat.not_lt.2 hle)
        · rw [(hother j hji hj).2]
          exact pcAt_ne_lookup (by rw [count_snoc, if_neg hji]; exact List.count_pos_iff.2 hjm)
        · rw [(hother j hji hj).2]
          exact pcAt_ne_done (hother j hji hj).1
  · have hfail : (reads i).succeed = false := by simpa using hr
    rw [hload.unchanged hfail (h.allowed i)] at hservice
    left
    refine ⟨by rw [hservice]; exact h.idManager, by rw [hservice]; exact h.db, by rw [hservice]; exact h.map, hallowed,
      fun j hj => hother j (fun heq => hr (heq ▸ hj)) hj, fun l hlist j hj h9 => ?_⟩
    have hne : j ≠ i := fun heq => hr (heq ▸ hj)
    rw [count_snoc, if_neg hne] at h9
    rw [hservice]
    exact h.restored l hlist j hj h9

theorem interleave_cases (hl : Loadable w id) (hmap : id ∉ w.hapTokenInfoMap) :
    Unpublished T w id reads schedule (interleave T id reads w schedule) ∨
      Published T w id reads schedule (interleave T id reads w schedule) := by
  induction schedule using List.reverseRecOn with
  | nil =>
    left
    exact ⟨rfl, rfl, rfl, fun _ => rfl, fun i _ => ⟨Nat.zero_lt_succ 9, rfl⟩, fun l _ i _ h9 => by simp at h9⟩
  | append_singleton pre i ih =>
    have hsnoc : interleave T id reads w (pre ++ [i]) = loadStep T id reads (interleave T id reads w pre) i := by
      unfold interleave
      rw [List.foldl_append]
      rfl
    rw [hsnoc]
    rcases ih with h | h
    · exact h.step hl hmap
    · exact .inr h.step

/-- **When concurrent lookups of a token keep its permission data.**  Once all calls have returned, a token in memory
has the permission list its rows restore, if and only if it could not be loaded at all, or its extended values are well
formed and the calls took turns. -/
theorem concurrent_load_keeps_data_iff (T : PermissionTable) (w : Service) (id : AccessTokenID) (reads : ι → LoadReads)
    (schedule : List ι) (hmap : id ∉ w.hapTokenInfoMap)
    (hreturned : ∀ i, (interleave T id reads w schedule).pc i = .done) :
    (id ∈ (interleave T id reads w schedule).hapTokenInfoMap → ∃ l, restoredList T w.db id = some l ∧
        (interleave T id reads w schedule).requestedPermData[id]? = some l) ↔
      (¬Loadable w id ∨ (∀ i, (reads i).succeed = false) ∨
        ((restoredList T w.db id).isSome = true ∧ InTurn reads schedule)) := by
  by_cases hl : Loadable w id
  swap
  · exact ⟨fun _ => .inl hl, fun _ hmem => absurd hmem (not_published_of_not_loadable hmap hl)⟩
  have hcases : Unpublished T w id reads schedule (interleave T id reads w schedule) ∨
      Published T w id reads schedule (interleave T id reads w schedule) := interleave_cases hl hmap
  rcases hcases with h | h
  · -- nobody published, so nobody read
    have hnone : ∀ i, (reads i).succeed = false := by
      intro i
      by_contra hr
      have hr : (reads i).succeed = true := by simpa using hr
      obtain ⟨hlt, hpc⟩ := h.counts i hr
      exact pcAt_ne_done hlt (hpc.symm.trans (hreturned i))
    refine ⟨fun _ => .inr (.inl hnone), fun _ hmem => ?_⟩
    rw [h.map] at hmem
    exact absurd hmem hmap
  obtain ⟨k, hk, -⟩ := h.count
  have hquiet : ¬Pending reads (interleave T id reads w schedule) := fun ⟨i, _, _, hd⟩ => hd (hreturned i)
  have hcond : (¬Loadable w id ∨ (∀ i, (reads i).succeed = false) ∨
      ((restoredList T w.db id).isSome = true ∧ InTurn reads schedule)) ↔
      ((restoredList T w.db id).isSome = true ∧ InTurn reads schedule) := by
    refine ⟨fun hor => ?_, fun hh => .inr (.inr hh)⟩
    rcases hor with hh | hh | hh
    · exact absurd hl hh
    · rw [hh k] at hk; cases hk
    · exact hh
  rw [hcond]
  rcases h.data with ⟨hturn, -, hdata⟩ | ⟨hturn, hlost⟩
  · refine ⟨fun hh => ?_, fun hh _ => ?_⟩
    · obtain ⟨l, hlist, -⟩ := hh h.map
      exact ⟨by rw [hlist]; rfl, hturn⟩
    · obtain ⟨l, hlist⟩ := Option.isSome_iff_exists.1 hh.1
      exact ⟨l, hlist, hdata l hlist⟩
  · refine ⟨fun hh => ?_, fun hh => absurd hh.2 hturn⟩
    obtain ⟨l, -, hget⟩ := hh h.map
    rw [hlost.resolve_left hquiet] at hget
    cases hget

end Interleaved

/-- A service that has started over an installed application: the rows are there, the memory is empty. -/
def sampleStored : Service :=
  { empty with
    db := (createHapTokenInfo sampleTable ∅ empty .ok sampleParams asksCamera).2.db }

def allReads : Bool → LoadReads := fun _ => ⟨true, true, true⟩

theorem concurrent_load_one_after_another :
    ∃ l, restoredList sampleTable sampleStored.db sampleHap = some l ∧
      (interleave sampleTable sampleHap allReads sampleStored
        (List.replicate 10 false ++ [true])).requestedPermData[sampleHap]? = some l := by
  have hturn : InTurn allReads (List.replicate 10 false ++ [true]) := by
    intro pre hpre i j hne _ _ hi hj
    rcases List.prefix_concat_iff.1 hpre with rfl | hpre
    · exact ⟨false, rfl, by decide⟩
    · have hfalse : ∀ b ∈ pre, b = false := fun b hb => List.eq_of_mem_replicate (hpre.subset hb)
      exact absurd ((hfalse i hi).trans (hfalse j hj).symm) hne
  exact (concurrent_load_keeps_data_iff sampleTable sampleStored sampleHap allReads
    (List.replicate 10 false ++ [true]) (by decide +kernel) (by decide +kernel)).2
    (.inr (.inr ⟨by decide +kernel, hturn⟩)) (by decide +kernel)

/-- **Two calls in step lose the data**: both miss the token and restore it, the second drops its object. -/
theorem concurrent_load_loses_data :
    ∃ s, s = interleave sampleTable sampleHap allReads sampleStored
        ((List.replicate 10 [false, true]).flatten ++ [true]) ∧
      sampleHap ∉ sampleStored.hapTokenInfoMap ∧ (∀ i, s.pc i = .done) ∧
      sampleHap ∈ s.hapTokenInfoMap ∧
      sampleHap ∉ s.requestedPermData := by
  refine ⟨_, rfl, ?_, ?_, ?_, ?_⟩ <;> decide +kernel

end Service
end AccessToken
