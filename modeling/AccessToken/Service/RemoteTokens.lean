import AccessToken.Service.HapCache
import AccessToken.Service.Sound
import AccessToken.Lib.TwoWay
/-!
# The tokens of other devices

A remote token is known by its pair of device and remote id, by the local id the pair is mapped to, by that id in the id
manager, and by its object in memory.  The mapping and the objects are two readings of one relation (`Lib.Inverse`), as
long as no object fails to be created: the mapping that was made for it is then looked up under the wrong id.
-/
namespace AccessToken

open Function (update_apply)
open Std.ExtTreeMap (isEmpty_iff)
open AccessTokenIDManager
namespace Service

open Lib (Inverse Reaches Always getElem?_erase getElem?_insert mem_erase mem_insert)

variable {T : PermissionTable} {w w' : Service}

/-! ## The three stores -/

def mapping (w : Service) (p : String × AccessTokenID) : Option AccessTokenID :=
  (w.remoteDeviceMap[p.1]?).bind (·[p.2]?)

def isRemoteToken (w : Service) (id : AccessTokenID) : Bool := (w.hapTokenInfoMap[id]?).any (·.isRemote)

variable {dev : String} {p : String × AccessTokenID} {r id : AccessTokenID}
  {device : Std.ExtTreeMap AccessTokenID AccessTokenID}

theorem isRemoteToken_iff :
    w.isRemoteToken id = true ↔ ∃ info, w.hapTokenInfoMap[id]? = some info ∧ info.isRemote = true :=
  Option.any_eq_true _ _

theorem mapping_insert (h : w'.remoteDeviceMap = w.remoteDeviceMap.insert dev device) (p : String × AccessTokenID) :
    w'.mapping p = if p.1 = dev then device[p.2]? else w.mapping p := by
  unfold mapping
  rw [h, getElem?_insert]
  split <;> rfl

theorem mapping_device : w.mapping (dev, r) = (w.remoteDeviceMap.getD dev ∅)[r]? := by
  unfold mapping
  rw [Std.ExtTreeMap.getD_eq_getD_getElem?]
  cases w.remoteDeviceMap[dev]? with
  | none => rfl
  | some => rfl

theorem mapping_insert_same (h : w'.remoteDeviceMap = w.remoteDeviceMap.insert dev (w.remoteDeviceMap.getD dev ∅)) :
    w'.mapping = w.mapping := by
  funext p
  rw [mapping_insert h]
  split
  · rename_i hp
    rw [← mapping_device, ← hp]
  · rfl

theorem mapping_insert_pair
    (h : w'.remoteDeviceMap = w.remoteDeviceMap.insert dev ((w.remoteDeviceMap.getD dev ∅).insert r id)) :
    w'.mapping = Function.update w.mapping (dev, r) (some id) := by
  funext p
  obtain ⟨dev', r'⟩ := p
  rw [mapping_insert h, update_apply, getElem?_insert, ← mapping_device]
  by_cases hd : dev' = dev <;> by_cases hr : r' = r <;> simp [hd, hr]

theorem mapping_erase_pair (hdev : w.remoteDeviceMap[dev]? = some device)
    (h : w'.remoteDeviceMap = if (device.erase r).isEmpty then w.remoteDeviceMap.erase dev
      else w.remoteDeviceMap.insert dev (device.erase r)) : w'.mapping = Function.update w.mapping (dev, r) none := by
  have hdevice : ∀ p : String × AccessTokenID,
      w'.mapping p = if p.1 = dev then (device.erase r)[p.2]? else w.mapping p := by
    intro p
    by_cases hempty : (device.erase r).isEmpty = true
    · rw [if_pos hempty] at h
      unfold mapping
      rw [h, getElem?_erase, isEmpty_iff.1 hempty]
      split <;> simp
    · rw [if_neg hempty] at h
      exact mapping_insert h p
  funext p
  obtain ⟨dev', r'⟩ := p
  rw [hdevice, update_apply, getElem?_erase]
  by_cases hd : dev' = dev <;> by_cases hr : r' = r <;> simp [hd, hr, mapping, hdev]

/-! ## The operations -/

/-- `CreateRemoteHapTokenInfo`, whose `AddHapTokenInfo` may fail: the object is destroyed again then, and its permission
data with it. -/
def createRemoteHapTokenInfoIf (T : PermissionTable) (createOk removeOk : Bool) (w : Service) (mapID : AccessTokenID)
    (hapSync : HapTokenInfoForSync) : Ret × Service :=
  if createOk then createRemoteHapTokenInfo T w removeOk mapID hapSync
  else
    (.error .errTokenidHasExisted,
      { w with brief := w.brief.addPermToBriefPermission T mapID hapSync.permStateList ∅ false }.destroyHap
        hapSync.tokenID)

inductive RemoteOp where
  | setRemoteHapTokenInfo (env : Env) (createOk : Bool) (deviceID : String) (hapSync : HapTokenInfoForSync)
  | deleteRemoteToken (deviceID : String) (tokenID : AccessTokenID)
  | deleteRemoteDeviceTokens (deviceID : String)

def remoteCall (T : PermissionTable) (w : Service) : RemoteOp → Ret × Service
  | .setRemoteHapTokenInfo env createOk deviceID hapSync =>
    setRemoteHapTokenInfoBy T w (createRemoteHapTokenInfoIf T createOk env.removeOk) env deviceID hapSync
  | .deleteRemoteToken deviceID tokenID => w.deleteRemoteToken deviceID tokenID
  | .deleteRemoteDeviceTokens deviceID => w.deleteRemoteDeviceTokens deviceID

def CreationSucceeds (_ : Service) : RemoteOp → Prop
  | .setRemoteHapTokenInfo _ createOk _ _ => createOk = true
  | _ => True

instance (w : Service) : ∀ op, Decidable (CreationSucceeds w op) := fun op => by
  cases op <;> unfold CreationSucceeds <;> infer_instance

/-! ## The invariant -/

/-- **The mapping and the remote tokens are one relation**: every mapped id is the id of a remote token that is mapped
from nowhere else, and every remote token is mapped. -/
structure RemoteSound (w : Service) : Prop where
  owners : ∃ owner : AccessTokenID → Option (String × AccessTokenID), Inverse w.mapping owner ∧
    ∀ id, (owner id).isSome = w.isRemoteToken id
  mapped : ∀ p id, w.mapping p = some id →
    isNameLengthValid p.1 = true ∧ p.2 ≠ invalidTokenId ∧ id ≠ 0 ∧ WellFormedId id .tokenHap
  registered : ∀ id, id ∈ w.hapTokenInfoMap → WellFormedId id .tokenHap → id ∈ w.tokenIdSet

theorem RemoteSound.injective (h : w.RemoteSound) {q : String × AccessTokenID} (hp : w.mapping p = some id)
    (hq : w.mapping q = some id) : p = q := by
  obtain ⟨owner, hinv, -⟩ := h.owners
  exact Option.some.inj (((hinv p id).1 hp).symm.trans ((hinv q id).1 hq))

theorem RemoteSound.remote_iff (h : w.RemoteSound) (id : AccessTokenID) :
    w.isRemoteToken id = true ↔ ∃ p, w.mapping p = some id := by
  obtain ⟨owner, hinv, hlive⟩ := h.owners
  rw [← hlive, Option.isSome_iff_exists]
  exact exists_congr fun p => (hinv p id).symm

theorem RemoteSound.live (h : w.RemoteSound) (hp : w.mapping p = some id) :
    ∃ info, w.hapTokenInfoMap[id]? = some info ∧ info.isRemote = true :=
  isRemoteToken_iff.1 ((h.remote_iff id).2 ⟨p, hp⟩)

theorem TokensSound.remoteSound (h : w.TokensSound) (hnone : w.remoteDeviceMap = ∅) : w.RemoteSound where
  owners := by
    refine ⟨fun _ => none, fun p id => ?_, fun id => ?_⟩
    · simp [mapping, hnone]
    cases hr : w.isRemoteToken id with
    | false => rfl
    | true =>
      obtain ⟨info, hinfo, hremote⟩ := isRemoteToken_iff.1 hr
      rw [h.localOnly id info hinfo] at hremote
      cases hremote
  mapped p id hp := by simp [mapping, hnone] at hp
  registered := h.registered

section

variable (h : w.RemoteSound)
include h

theorem RemoteSound.of_eq (hmap : w'.mapping = w.mapping)
    (hremote : ∀ id, w'.isRemoteToken id = w.isRemoteToken id)
    (hmem : ∀ id, id ∈ w'.hapTokenInfoMap → id ∈ w.hapTokenInfoMap) (hids : w'.idManager = w.idManager) :
    w'.RemoteSound where
  owners := by
    obtain ⟨owner, hinv, hlive⟩ := h.owners
    exact ⟨owner, hmap ▸ hinv, fun id => (hlive id).trans (hremote id).symm⟩
  mapped := hmap ▸ h.mapped
  registered id hid hform := by
    rw [hids]
    exact h.registered id (hmem id hid) hform

/-- **A token created for a new pair.** -/
theorem RemoteSound.created {info : HapTokenInfoInner} (hname : isNameLengthValid p.1 = true)
    (hr : p.2 ≠ invalidTokenId) (hid : id ≠ 0) (hform : WellFormedId id .tokenHap)
    (hfree : w.mapping p = none) (hnew : id ∉ w.hapTokenInfoMap) (hremote : info.isRemote = true)
    (hmap : w'.mapping = Function.update w.mapping p (some id))
    (hinfo : w'.hapTokenInfoMap = w.hapTokenInfoMap.insert id info)
    (hids : w'.idManager = w.idManager.addToSet id .active) : w'.RemoteSound where
  owners := by
    obtain ⟨owner, hinv, hlive⟩ := h.owners
    have hnone : owner id = none := by
      rw [← Option.not_isSome_iff_eq_none, hlive id]
      intro hr
      obtain ⟨info', hinfo', -⟩ := isRemoteToken_iff.1 hr
      exact hnew (mem_of_getElem? hinfo')
    refine ⟨Function.update owner id (some p), hmap ▸ hinv.bind (.inl hfree) (.inl hnone), fun x => ?_⟩
    rw [update_apply, isRemoteToken, hinfo, getElem?_insert]
    split
    · exact hremote.symm
    · exact hlive x
  mapped q x hq := by
    rw [hmap, update_apply] at hq
    split at hq
    · rename_i hqp
      cases hq
      rw [hqp]
      exact ⟨hname, hr, hid, hform⟩
    · exact h.mapped q x hq
  registered x hx hx' := by
    rw [hids]
    rw [hinfo] at hx
    exact Lib.mem_set_insert.2 ((mem_insert.1 hx).imp_right fun hx => h.registered x hx hx')

/-- **A token deleted with its pair and its id.** -/
theorem RemoteSound.deleted (hp : w.mapping p = some id)
    (hmap : w'.mapping = Function.update w.mapping p none) (hinfo : w'.hapTokenInfoMap = w.hapTokenInfoMap.erase id)
    (hids : w'.idManager = w.idManager.releaseTokenId id) : w'.RemoteSound where
  owners := by
    obtain ⟨owner, hinv, hlive⟩ := h.owners
    refine ⟨Function.update owner id none, hmap ▸ hinv.release ((hinv p id).1 hp), fun x => ?_⟩
    rw [update_apply, isRemoteToken, hinfo, getElem?_erase]
    split
    · rfl
    · exact hlive x
  mapped q x hq := by
    rw [hmap, update_apply] at hq
    split at hq
    · cases hq
    · exact h.mapped q x hq
  registered x hx hx' := by
    rw [hinfo] at hx
    obtain ⟨hne, hx⟩ := mem_erase.1 hx
    rw [hids]
    exact mem_releaseTokenId.2 ⟨hne, h.registered x hx hx'⟩

/-! ## One call -/

theorem RemoteSound.getDeviceMappingTokenID (dev : String) (r : AccessTokenID) :
    (w.getDeviceMappingTokenID dev r = 0 ∧
      (isNameLengthValid dev = true → r ≠ invalidTokenId → w.mapping (dev, r) = none)) ∨
      (w.getDeviceMappingTokenID dev r ≠ 0 ∧ w.mapping (dev, r) = some (w.getDeviceMappingTokenID dev r)) := by
  unfold Service.getDeviceMappingTokenID
  split
  · rename_i hbad
    refine .inl ⟨rfl, fun hname hr => ?_⟩
    simp [hname, hr] at hbad
  · have hpair : (w.remoteDeviceMap[dev]?).bind (·[r]?) = w.mapping (dev, r) := rfl
    rw [hpair]
    cases hm : w.mapping (dev, r) with
    | none => exact .inl ⟨rfl, fun _ _ => rfl⟩
    | some id => exact .inr ⟨(h.mapped _ id hm).2.2.1, rfl⟩

end

/-- **What mapping a new pair can do**: fail, with nothing mapped and no id registered, or map it to a fresh id. -/
theorem mapRemoteDeviceTokenToLocal_cases (rand : Nat → BitVec 32) (htype : getTokenIdTypeEnum r = .tokenHap)
    (hfree : isNameLengthValid dev = true → r ≠ invalidTokenId → w.mapping (dev, r) = none) :
    (∃ w', w.mapRemoteDeviceTokenToLocal rand dev r = (0, w') ∧ w'.mapping = w.mapping ∧
        w'.hapTokenInfoMap = w.hapTokenInfoMap ∧ w'.idManager = w.idManager) ∨
      ∃ id w', w.mapRemoteDeviceTokenToLocal rand dev r = (id, w') ∧ id ≠ 0 ∧ ¬w.Known id ∧
        WellFormedId id .tokenHap ∧ isNameLengthValid dev = true ∧ r ≠ invalidTokenId ∧
        w'.mapping = Function.update w.mapping (dev, r) (some id) ∧ w'.hapTokenInfoMap = w.hapTokenInfoMap ∧
        w'.idManager = w.idManager.addToSet id .active := by
  unfold mapRemoteDeviceTokenToLocal
  split
  · exact .inl ⟨w, rfl, rfl, rfl, rfl⟩
  rename_i hgood
  have hname : isNameLengthValid dev = true := by
    by_contra hno
    simp [hno] at hgood
  have hr : r ≠ invalidTokenId := by
    rintro rfl
    simp at hgood
  have hnone : (w.remoteDeviceMap.getD dev ∅)[r]? = none := mapping_device.symm.trans (hfree hname hr)
  dsimp only
  rw [if_neg (by rw [htype]; decide), hnone, htype]
  rcases createAndRegisterLoop_cases .tokenHap _ _ _ rand _ 0 with
    heq | ⟨id, hid, hform, hnew, heq⟩
  · rw [createAndRegisterTokenId, heq]
    exact .inl ⟨_, rfl, mapping_insert_same rfl, rfl, rfl⟩
  · rw [createAndRegisterTokenId, heq]
    rw [if_neg (show ¬id = 0 from hid)]
    exact .inr ⟨id, _, rfl, hid, hnew, hform, hname, hr, mapping_insert_pair rfl, rfl, rfl⟩

theorem removeDeviceMappingTokenID_of_mapped (hname : isNameLengthValid dev = true) (hr : r ≠ invalidTokenId)
    (hp : w.mapping (dev, r) = some id) :
    ∃ w', w.removeDeviceMappingTokenID dev r = (.ok (), w') ∧ w'.mapping = Function.update w.mapping (dev, r) none ∧
      w'.hapTokenInfoMap = w.hapTokenInfoMap ∧ w'.idManager = w.idManager.releaseTokenId id := by
  obtain ⟨device, hdev, hget⟩ := Option.bind_eq_some_iff.1 hp
  unfold removeDeviceMappingTokenID
  rw [if_neg (by simp [hname, hr])]
  simp only [show w.remoteDeviceMap[dev]? = some device from hdev, hget]
  exact ⟨_, rfl, mapping_erase_pair hdev rfl, rfl, rfl⟩

/-- **Deleting a token**: an unmapped pair is refused, a mapped one loses its token, its pair and its id. -/
theorem RemoteSound.deleteRemoteToken_cases (h : w.RemoteSound) (dev : String) (r : AccessTokenID) :
    ((∃ e, w.deleteRemoteToken dev r = (.error e, w)) ∧ w.mapping (dev, r) = none) ∨
      ∃ id w', w.mapping (dev, r) = some id ∧ w.deleteRemoteToken dev r = (.ok (), w') ∧
        w'.mapping = Function.update w.mapping (dev, r) none ∧ w'.hapTokenInfoMap = w.hapTokenInfoMap.erase id ∧
        w'.idManager = w.idManager.releaseTokenId id := by
  cases hp : w.mapping (dev, r) with
  | none =>
    refine .inl ⟨?_, rfl⟩
    unfold deleteRemoteToken
    split
    · exact ⟨_, rfl⟩
    · rcases h.getDeviceMappingTokenID dev r with ⟨hzero, -⟩ | ⟨-, hsome⟩
      · exact ⟨.errTokenMapFailed, if_pos hzero⟩
      · rw [hp] at hsome
        cases hsome
  | some id =>
    right
    obtain ⟨hname, hr, hid, hform⟩ := h.mapped _ id hp
    obtain ⟨info, hinfo, -⟩ := h.live hp
    have hget : w.getDeviceMappingTokenID dev r = id := by
      rcases h.getDeviceMappingTokenID dev r with ⟨-, hnone⟩ | ⟨-, hsome⟩
      · rw [hnone hname hr] at hp
        cases hp
      · exact Option.mem_unique hsome hp
    unfold deleteRemoteToken
    rw [if_neg (by simp [hname]), hget]
    rw [if_neg hid, hform.type]
    rw [hinfo]
    obtain ⟨w', heq, hmap, hmem, hids⟩ := removeDeviceMappingTokenID_of_mapped
      (w := { ({ w with hapTokenInfoMap := w.hapTokenInfoMap.erase id }.destroyHap info.tokenID) with
        kernel := w.kernel.removePermissionFromKernel id
        brief := ((w.brief.deleteBriefPermDataByTokenId info.tokenID).2.deleteBriefPermDataByTokenId id).2 })
      hname hr hp
    exact ⟨id, w', rfl, heq, hmap, hmem, hids⟩

theorem createRemoteHapTokenInfo_new (hapSync : HapTokenInfoForSync) (removeOk : Bool)
    (hid : hapSync.tokenID = id) (hnew : id ∉ w.hapTokenInfoMap) :
    ∃ w', createRemoteHapTokenInfo T w removeOk id hapSync = (.ok (), w') ∧ w'.mapping = w.mapping ∧
      w'.hapTokenInfoMap = w.hapTokenInfoMap.insert id ⟨hapSync.baseInfo, true, false⟩ ∧
      w'.idManager = w.idManager := by
  unfold createRemoteHapTokenInfo addHapTokenInfo
  dsimp only
  rw [hid, if_neg hnew]
  exact ⟨_, rfl, rfl, rfl, rfl⟩

/-- **What setting a remote token can do**: be refused before anything is made, update the token of a mapped pair, or
create a token under a fresh id. -/
theorem RemoteSound.setRemote_cases (h : w.RemoteSound) (env : Env) (dev : String) (hapSync : HapTokenInfoForSync) :
    (∃ e w', setRemoteHapTokenInfo T w env dev hapSync = (.error e, w') ∧ w'.mapping = w.mapping ∧
        w'.hapTokenInfoMap = w.hapTokenInfoMap ∧ w'.idManager = w.idManager) ∨
      (∃ id info w', w.mapping (dev, hapSync.tokenID) = some id ∧ info.isRemote = true ∧
        setRemoteHapTokenInfo T w env dev hapSync = (.ok (), w') ∧ w'.mapping = w.mapping ∧
        w'.hapTokenInfoMap = w.hapTokenInfoMap.insert id info ∧ w'.idManager = w.idManager) ∨
      ∃ w', setRemoteHapTokenInfo T w env dev hapSync = (.ok (), w') ∧ w'.RemoteSound := by
  unfold setRemoteHapTokenInfo setRemoteHapTokenInfoBy
  split
  · exact .inl ⟨_, w, rfl, rfl, rfl, rfl⟩
  rename_i hvalid
  have htype : getTokenIdTypeEnum hapSync.tokenID = .tokenHap := by
    have hvalid : isRemoteHapTokenValid dev hapSync = true := by simpa using hvalid
    unfold isRemoteHapTokenValid at hvalid
    simp only [Bool.and_eq_true, beq_iff_eq] at hvalid
    exact hvalid.2
  dsimp only
  rcases h.getDeviceMappingTokenID dev hapSync.tokenID with ⟨hzero, hfree⟩ | ⟨hne, hp⟩
  · rw [if_neg (not_not.2 hzero)]
    rcases mapRemoteDeviceTokenToLocal_cases env.rand htype hfree with ⟨w₁, heq, hmap, hinfo, hids⟩ |
      ⟨id, w₁, heq, hid, hnew, hform, hname, hr, hmap, hinfo, hids⟩
    · rw [heq]
      exact .inl ⟨_, w₁, rfl, hmap, hinfo, hids⟩
    have hnew' : id ∉ w.hapTokenInfoMap := fun hmem => hnew (.inl (h.registered id hmem hform))
    obtain ⟨w', hcreate, hmap', hinfo', hids'⟩ := createRemoteHapTokenInfo_new
      { hapSync with baseInfo := { hapSync.baseInfo with tokenID := id } } env.removeOk rfl
      (by rw [hinfo]; exact hnew')
    rw [heq]
    rw [if_neg hid, hcreate]
    refine .inr (.inr ⟨w', rfl, ?_⟩)
    exact h.created hname hr hid hform (hfree hname hr) hnew' rfl (hmap'.trans hmap) (by rw [hinfo', hinfo])
      (hids'.trans hids)
  · rw [if_pos hne]
    obtain ⟨info, hinfo, hremote⟩ := h.live hp
    unfold updateRemoteHapTokenInfo getHapTokenInfoInner
    rw [hinfo]
    simp only [hremote, Bool.not_true, Bool.false_eq_true, if_false]
    exact .inr (.inl ⟨_, ⟨_, true, _⟩, _, hp, rfl, rfl, rfl, rfl, rfl⟩)

theorem RemoteSound.setRemote (h : w.RemoteSound) (env : Env) (dev : String) (hapSync : HapTokenInfoForSync) :
    (setRemoteHapTokenInfo T w env dev hapSync).2.RemoteSound := by
  rcases h.setRemote_cases env dev hapSync with ⟨e, w', heq, hmap, hinfo, hids⟩ |
    ⟨id, info, w', hp, hremote, heq, hmap, hinfo, hids⟩ | ⟨w', heq, h'⟩
  · rw [heq]
    exact h.of_eq hmap (fun x => by rw [isRemoteToken, hinfo]; rfl) (fun x hx => hinfo ▸ hx) hids
  · rw [heq]
    have hlive := (h.remote_iff id).2 ⟨_, hp⟩
    refine h.of_eq hmap (fun x => ?_) (fun x hx => ?_) hids
    · rw [isRemoteToken, hinfo, getElem?_insert]
      split
      · rename_i hx
        rw [Option.any_some, hremote, hx, hlive]
      · rfl
    · rw [hinfo] at hx
      rcases mem_insert.1 hx with rfl | hx
      · obtain ⟨old, hold, -⟩ := isRemoteToken_iff.1 hlive
        exact mem_of_getElem? hold
      · exact hx
  · rw [heq]
    exact h'

/-! ## All tokens of a device -/

/-- **What deletions leave**: pairs and tokens that were there. -/
structure Shrunk (w w' : Service) : Prop where
  sound : w'.RemoteSound
  mapped : ∀ p id, w'.mapping p = some id → w.mapping p = some id
  live : ∀ (id : AccessTokenID) info, w'.hapTokenInfoMap[id]? = some info → w.hapTokenInfoMap[id]? = some info

theorem Shrunk.refl (h : w.RemoteSound) : Shrunk w w := ⟨h, fun _ _ hp => hp, fun _ _ hi => hi⟩

theorem Shrunk.trans {w'' : Service} (h : Shrunk w w') (h' : Shrunk w' w'') : Shrunk w w'' :=
  ⟨h'.sound, fun p id hp => h.mapped p id (h'.mapped p id hp), fun id info hi => h.live id info (h'.live id info hi)⟩

theorem Shrunk.unmapped (h : Shrunk w w') (hp : w.mapping p = none) : w'.mapping p = none := by
  cases hp' : w'.mapping p with
  | none => rfl
  | some id =>
    rw [h.mapped p id hp'] at hp
    cases hp

theorem Shrunk.dead (h : Shrunk w w') (hw : w.RemoteSound) (hp : w.mapping p = some id) (hp' : w'.mapping p = none) :
    id ∉ w'.hapTokenInfoMap := by
  intro hmem
  obtain ⟨info, hinfo, hremote⟩ := hw.live hp
  have hinfo' : w'.hapTokenInfoMap[id]? = some info := by
    have hget := Std.ExtTreeMap.getElem?_eq_some_getElem hmem
    rw [hget, ← h.live id _ hget, hinfo]
  obtain ⟨q, hq⟩ := (h.sound.remote_iff id).1 (isRemoteToken_iff.2 ⟨info, hinfo', hremote⟩)
  rw [hw.injective (h.mapped q id hq) hp, hp'] at hq
  cases hq

theorem RemoteSound.delete_shrinks (h : w.RemoteSound) (dev : String) (r : AccessTokenID) :
    Shrunk w (w.deleteRemoteToken dev r).2 ∧ (w.deleteRemoteToken dev r).2.mapping (dev, r) = none := by
  rcases h.deleteRemoteToken_cases dev r with ⟨⟨e, heq⟩, hnone⟩ | ⟨id, w', hp, heq, hmap, hinfo, hids⟩
  · rw [heq]
    exact ⟨.refl h, hnone⟩
  rw [heq]
  refine ⟨⟨h.deleted hp hmap hinfo hids, fun q x hq => ?_, fun x info hx => ?_⟩, by rw [hmap, Function.update_self]⟩
  · rw [hmap, update_apply] at hq
    split at hq
    · cases hq
    · exact hq
  · rw [hinfo, getElem?_erase] at hx
    split at hx
    · cases hx
    · exact hx

/-- **The loop over the tokens of a device**, started with any result. -/
theorem RemoteSound.deleteLoop (dev : String) : ∀ (rs : List AccessTokenID) (st : Ret × Service), st.2.RemoteSound →
    Shrunk st.2 (rs.foldl (fun st r => st.2.deleteRemoteToken dev r) st).2 ∧
      ∀ r ∈ rs, (rs.foldl (fun st r => st.2.deleteRemoteToken dev r) st).2.mapping (dev, r) = none
  | [], _, h => ⟨.refl h, fun _ hr => absurd hr List.not_mem_nil⟩
  | r :: rs, st, h => by
    obtain ⟨hstep, hnone⟩ := h.delete_shrinks dev r
    obtain ⟨hrest, hgone⟩ := deleteLoop dev rs (st.2.deleteRemoteToken dev r) hstep.sound
    rw [List.foldl_cons]
    refine ⟨hstep.trans hrest, fun x hx => ?_⟩
    rcases List.mem_cons.1 hx with rfl | hx
    · exact hrest.unmapped hnone
    · exact hgone x hx

/-- **Deleting the tokens of a device** that has any deletes them all. -/
theorem RemoteSound.deleteRemoteDeviceTokens_cases (h : w.RemoteSound) (dev : String) :
    (∃ e, w.deleteRemoteDeviceTokens dev = (.error e, w)) ∨
      (Shrunk w (w.deleteRemoteDeviceTokens dev).2 ∧
        ∀ r, (w.deleteRemoteDeviceTokens dev).2.mapping (dev, r) = none) := by
  unfold deleteRemoteDeviceTokens
  split
  · exact .inl ⟨_, rfl⟩
  cases hdev : w.remoteDeviceMap[dev]? with
  | none => exact .inl ⟨_, rfl⟩
  | some device =>
    obtain ⟨hshrunk, hgone⟩ := deleteLoop dev (device.toList.map (·.1)) (.ok (), w) h
    refine .inr ⟨hshrunk, fun r => ?_⟩
    cases hr : device[r]? with
    | none =>
      refine hshrunk.unmapped ?_
      show (w.remoteDeviceMap[dev]?).bind (·[r]?) = none
      rw [hdev]
      exact hr
    | some id =>
      exact hgone r (List.mem_map.2 ⟨(r, id), Std.ExtTreeMap.mem_toList_iff_getElem?_eq_some.2 hr, rfl⟩)

/-! ## Runs -/

theorem RemoteSound.step (h : w.RemoteSound) {op : RemoteOp} (hk : CreationSucceeds w op) :
    (remoteCall T w op).2.RemoteSound := by
  cases op with
  | setRemoteHapTokenInfo env createOk dev hapSync =>
    obtain rfl : createOk = true := hk
    have hset := h.setRemote (T := T) env dev hapSync
    rw [setRemoteHapTokenInfo] at hset
    exact hset
  | deleteRemoteToken dev r => exact (h.delete_shrinks dev r).1.sound
  | deleteRemoteDeviceTokens dev =>
    rcases h.deleteRemoteDeviceTokens_cases dev with ⟨e, heq⟩ | ⟨hshrunk, -⟩
    · show (w.deleteRemoteDeviceTokens dev).2.RemoteSound
      rw [heq]
      exact h
    · exact hshrunk.sound

/-- **The mapping of remote tokens stays consistent** in every run in which no token fails to be created, from a state
with local tokens only: a local id is mapped from one pair; the mapped ids are the remote tokens in memory, and are
registered; a call that fails for a new pair leaves neither pair nor id; and a device whose tokens were deleted has
neither pairs nor tokens. -/
theorem remote_mapping_consistent (T : PermissionTable) (w₀ : Service) (hlocal : w₀.TokensSound)
    (hnone : w₀.remoteDeviceMap = ∅) (w : Service)
    (hrun : Reaches (fun w op => (remoteCall T w op).2) CreationSucceeds w₀ w) :
    (∀ p q id, w.mapping p = some id → w.mapping q = some id → p = q) ∧
      (∀ id, (∃ p, w.mapping p = some id) ↔ ∃ info, w.hapTokenInfoMap[id]? = some info ∧ info.isRemote = true) ∧
      (∀ p id, w.mapping p = some id → id ∈ w.tokenIdSet) ∧
      (∀ env dev hapSync e w', w.mapping (dev, hapSync.tokenID) = none →
        remoteCall T w (.setRemoteHapTokenInfo env true dev hapSync) = (.error e, w') →
        w'.mapping (dev, hapSync.tokenID) = none ∧ w'.idManager = w.idManager) ∧
      ∀ dev w', remoteCall T w (.deleteRemoteDeviceTokens dev) = (.ok (), w') →
        (∀ r, w'.mapping (dev, r) = none) ∧ ∀ r id, w.mapping (dev, r) = some id → id ∉ w'.hapTokenInfoMap := by
  have h : w.RemoteSound := hrun.invariant (fun _ op h hk => h.step hk) (hlocal.remoteSound hnone)
  refine ⟨fun p q id hp hq => h.injective hp hq, fun id => ?_,
    fun p id hp => ?_, fun env dev hapSync e w' hfree heq => ?_, fun dev w' heq => ?_⟩
  · rw [← h.remote_iff, isRemoteToken_iff]
  · obtain ⟨info, hinfo, -⟩ := h.live hp
    exact h.registered id (mem_of_getElem? hinfo) (h.mapped p id hp).2.2.2
  · have heq : setRemoteHapTokenInfo T w env dev hapSync = (.error e, w') := heq
    rcases h.setRemote_cases (T := T) env dev hapSync with ⟨e', w'', heq', hmap, -, hids⟩ |
      ⟨id, info, w'', -, -, heq', -⟩ | ⟨w'', heq', -⟩
    · rw [heq] at heq'
      cases heq'
      exact ⟨by rw [hmap]; exact hfree, hids⟩
    · rw [heq] at heq'
      cases heq'
    · rw [heq] at heq'
      cases heq'
  · have heq : w.deleteRemoteDeviceTokens dev = (.ok (), w') := heq
    rcases h.deleteRemoteDeviceTokens_cases dev with ⟨e, heq'⟩ | ⟨hshrunk, hgone⟩
    · rw [heq] at heq'
      cases heq'
    · rw [heq] at hshrunk hgone
      exact ⟨hgone, fun r id hp => hshrunk.dead h hp (hgone r)⟩

def sampleSync (remoteID : AccessTokenID) : HapTokenInfoForSync where
  baseInfo := ⟨defaultTokenVer, 100, "app", 20, 0, dlpCommon, remoteID, 0⟩
  permStateList := []

theorem remote_mapping_after_delete :
    let w := [RemoteOp.setRemoteHapTokenInfo .ok true "device" (sampleSync 536870920),
      .deleteRemoteToken "device" 536870920].foldl (fun w op => (remoteCall sampleTable w op).2)
      empty
    (∀ p q id, w.mapping p = some id → w.mapping q = some id → p = q) ∧
      (∀ id, (∃ p, w.mapping p = some id) ↔ ∃ info, w.hapTokenInfoMap[id]? = some info ∧ info.isRemote = true) ∧
      (∀ p id, w.mapping p = some id → id ∈ w.tokenIdSet) ∧
      (∀ env dev hapSync e w', w.mapping (dev, hapSync.tokenID) = none →
        remoteCall sampleTable w (.setRemoteHapTokenInfo env true dev hapSync) = (.error e, w') →
        w'.mapping (dev, hapSync.tokenID) = none ∧ w'.idManager = w.idManager) ∧
      ∀ dev w', remoteCall sampleTable w (.deleteRemoteDeviceTokens dev) = (.ok (), w') →
        (∀ r, w'.mapping (dev, r) = none) ∧ ∀ r id, w.mapping (dev, r) = some id → id ∉ w'.hapTokenInfoMap :=
  remote_mapping_consistent sampleTable empty (sound_empty (T := sampleTable)).toTokensSound rfl _
    (Lib.reaches_foldl _ empty (by decide +kernel))

/-- A token that could not be created keeps its pair and its id, since the pair is looked up under the local id; and the
device is reported deleted although the pair stays. -/
theorem failed_remote_token_stays_mapped :
    ∃ w, Reaches (fun w op => (remoteCall sampleTable w op).2) Always empty w ∧
      w.mapping ("device", 536870920) = some 536870913 ∧ 536870913 ∈ w.tokenIdSet ∧
      536870913 ∉ w.hapTokenInfoMap ∧ (w.deleteRemoteDeviceTokens "device").1 = .ok () ∧
      (w.deleteRemoteDeviceTokens "device").2.mapping ("device", 536870920) = some 536870913 :=
  ⟨_, Lib.reaches_always [.setRemoteHapTokenInfo .ok false "device" (sampleSync 536870920),
      .setRemoteHapTokenInfo .ok true "device" (sampleSync 536870921)] empty,
    by decide +kernel⟩

end Service
end AccessToken
