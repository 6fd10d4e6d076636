import Hbalinux.DeviceNames

/-! # The two layouts of a device directory

A device is named by a link `block:sda` or by an entry of a directory `block`, and
likewise for SCSI-generic devices.  Either way the reader finds the same names, in
whatever order the entries come, and it puts everything back that it changes on the
way: the path in its context and the colon in the name of a link.
-/

namespace Hbalinux

open Outcome

/-- `get_binding_os_names` on the entry itself, whose colon it overwrites for a while. -/
def getBindingOsNamesInPlace (sysfs : Sysfs) (dp : DirEnt) (names : OsNames) :
    Outcome (Int × DirEnt × OsNames) :=
  match dp.dType, strchr dp.dName ':' with
  | .lnk, some (before, _) =>
      let sep := before.length
      let dp := { dp with dName := dp.dName.set sep '\x00' }
      let name := cstr dp.dName
      let names :=
        if name = "block" then
          { names with osDeviceName := snprintf 256 (devPath (dp.dName.drop (sep + 1))) }
        else if name = "scsi_generic" then
          { names with ocSg := snprintf 32 (devPath (dp.dName.drop (sep + 1))) }
        else names
      .ok (0, { dp with dName := dp.dName.set sep ':' }, names)
  | .dir, none =>
      if dp.dName = "block" ∨ dp.dName = "scsi_generic" then do
        let buf := saStrncpySafe 256 names.ocPath 256
        let path := snprintf 256 (joinPath buf dp.dName)
        let names ← Except.map Prod.snd
          (saDirRead sysfs path getDeprecatedDeviceName { names with ocPath := path })
        .ok (0, dp, { names with ocPath := saStrncpySafe 256 buf 256 })
      else .ok (0, dp, names)
  | _, _ => .ok (0, dp, names)

/-- What `strchr` finds stands between the two parts. -/
theorem strchr_eq_some {s before after : CStr} {c : Char} (found : strchr s c = some (before, after)) :
    s = before ++ c :: after := by
  induction s generalizing before with
  | nil => cases found
  | cons d ds ih =>
      rw [strchr] at found
      split at found
      · rename_i here
        cases found
        rw [here, List.nil_append]
      · obtain ⟨⟨first, rest⟩, later, same⟩ := Option.map_eq_some_iff.mp found
        cases same
        rw [ih later, List.cons_append]

theorem strchr_append {before : CStr} {c : Char} (absent : c ∉ before) (after : CStr) :
    strchr (before ++ c :: after) c = some (before, after) := by
  induction before with
  | nil => rw [List.nil_append, strchr, if_pos rfl]
  | cons d ds ih =>
      rw [List.mem_cons, not_or] at absent
      rw [List.cons_append, strchr, if_neg (Ne.symm absent.1), ih absent.2]
      rfl

theorem strchr_eq_none {s : CStr} {c : Char} (absent : c ∉ s) : strchr s c = none := by
  cases found : strchr s c with
  | none => rfl
  | some parts =>
      rw [strchr_eq_some found] at absent
      exact absurd (List.mem_append_right _ (List.mem_cons_self ..)) absent

/-- Overwriting and restoring a character. -/
theorem set_set_colon {before after : CStr} :
    ((before ++ ':' :: after).set before.length '\x00').set before.length ':' =
      before ++ ':' :: after := by
  simp

/-- The edited name is the part before the colon. -/
theorem cstr_set_colon {before : CStr} (clean : ∀ c ∈ before, c ≠ '\x00') (after : CStr) :
    cstr ((before ++ ':' :: after).set before.length '\x00') = before := by
  rw [List.set_append_right _ _ le_rfl, Nat.sub_self, List.set_cons_zero]
  exact cstr_append clean after

theorem drop_set_colon (before after : CStr) :
    ((before ++ ':' :: after).set before.length '\x00').drop (before.length + 1) = after := by
  simp

/-- The callback of the directory reader leaves the entry as it is. -/
theorem getBindingOsNamesInPlace_eq {sysfs : Sysfs} {dp : DirEnt} (clean : ∀ c ∈ dp.dName, c ≠ '\x00')
    (names : OsNames) : getBindingOsNamesInPlace sysfs dp names =
      (getBindingOsNames sysfs dp names).map fun r => (r.1, dp, r.2) := by
  unfold getBindingOsNamesInPlace getBindingOsNames
  obtain ⟨dName, dType⟩ := dp
  cases dType with
  | other => rfl
  | lnk =>
      cases colon : strchr dName ':' with
      | none => rfl
      | some parts =>
          obtain ⟨before, after⟩ := parts
          have joined := strchr_eq_some colon
          subst joined
          have name := cstr_set_colon (fun c member => clean c (List.mem_append_left _ member)) after
          simp only [set_set_colon, name, drop_set_colon]
          by_cases block : before = "block"
          · simp only [if_pos block]
            rfl
          · by_cases generic : before = "scsi_generic"
            · simp only [if_neg block, if_pos generic]
              rfl
            · simp only [if_neg block, if_neg generic]
              rfl
  | dir =>
      cases colon : strchr dName ':' with
      | some parts => rfl
      | none =>
          by_cases known : dName = "block" ∨ dName = "scsi_generic"
          · simp only [if_pos known]
            generalize Except.map Prod.snd (saDirRead sysfs _ getDeprecatedDeviceName _) = read
            cases read <;> rfl
          · simp only [if_neg known]
            rfl

/-- A callback on any entry leaves a sanitised path, and the entry, as it found them. -/
theorem getBindingOsNamesInPlace_restores (sysfs : Sysfs) (dp : DirEnt) {names : OsNames}
    (again : saStrncpySafe 256 names.ocPath 256 = names.ocPath) :
    ∃ names', getBindingOsNamesInPlace sysfs dp names = .ok (0, dp, names') ∧
      names'.ocPath = names.ocPath := by
  unfold getBindingOsNamesInPlace
  obtain ⟨dName, dType⟩ := dp
  cases dType with
  | other => exact ⟨names, rfl, rfl⟩
  | lnk =>
      cases colon : strchr dName ':' with
      | none => exact ⟨names, rfl, rfl⟩
      | some parts =>
          obtain ⟨before, after⟩ := parts
          have joined := strchr_eq_some colon
          subst joined
          simp only [set_set_colon]
          refine ⟨_, rfl, ?_⟩
          split
          · rfl
          · split <;> rfl
  | dir =>
      cases colon : strchr dName ':' with
      | some parts => exact ⟨names, rfl, rfl⟩
      | none =>
          simp only
          split
          · obtain ⟨inner, walked, -⟩ := getDeprecatedDeviceName_walk
              (sysfs.listing (snprintf 256 (joinPath names.ocPath dName)))
              { names with ocPath := snprintf 256 (joinPath names.ocPath dName) }
            rw [again, saDirRead_state, walked]
            exact ⟨_, rfl, again⟩
          · exact ⟨names, rfl, rfl⟩

/-! ## Naming a device in either layout -/

/-- An entry that names the device `dev`: a link, or a directory with this one entry. -/
inductive NamesDevice (sysfs : Sysfs) (path word dev : CStr) : DirEnt → Prop where
  | link : NamesDevice sysfs path word dev ⟨word ++ ':' :: dev, .lnk⟩
  | directory {type : DType} (only : sysfs.listing (joinPath path word) = [⟨dev, type⟩]) :
      NamesDevice sysfs path word dev ⟨word, .dir⟩

/-- An entry that has no meaning for devices of this kind. -/
def Unrelated (word : CStr) (dp : DirEnt) : Prop :=
  (∀ dev, dp ≠ ⟨word ++ ':' :: dev, .lnk⟩) ∧ dp ≠ ⟨word, .dir⟩

/-- A directory with one block device and one SCSI-generic device, in any order and among any
    other entries. -/
def Offers (sysfs : Sysfs) (path block sg : CStr) : Prop :=
  ∃ blockEntry sgEntry others,
    (sysfs.listing path).Perm (blockEntry :: sgEntry :: others) ∧
    NamesDevice sysfs path "block" block blockEntry ∧
    NamesDevice sysfs path "scsi_generic" sg sgEntry ∧
    ∀ dp ∈ others, Unrelated "block" dp ∧ Unrelated "scsi_generic" dp

/-- The directory of a device that is named in one layout as a disk and in the other as a
    SCSI-generic device. -/
example : Offers (.ofLists [] [("/d", [⟨"power", .dir⟩, ⟨"scsi_generic", .dir⟩, ⟨"block:sda", .lnk⟩]),
    ("/d/scsi_generic", [⟨"sg1", .dir⟩])] []) "/d" "sda" "sg1" := by
  refine ⟨⟨"block:sda", .lnk⟩, ⟨"scsi_generic", .dir⟩, [⟨"power", .dir⟩], by decide, .link,
    .directory rfl, fun dp member => ?_⟩
  rw [List.mem_singleton] at member
  subst member
  exact ⟨⟨nofun, by decide⟩, nofun, by decide⟩

section

variable {sysfs : Sysfs} {path word dev : CStr} {dp : DirEnt}

theorem NamesDevice.devEntry (noColon : ':' ∉ word) (named : NamesDevice sysfs path word dev dp) :
    sysfs.devEntry word path dp = [dev] := by
  cases named with
  | link =>
      simp only [Sysfs.devEntry, strchr_append noColon, if_true]
  | directory only =>
      simp only [Sysfs.devEntry, strchr_eq_none noColon, if_true, only]
      rfl

theorem Unrelated.devEntry (unrelated : Unrelated word dp) : sysfs.devEntry word path dp = [] := by
  obtain ⟨dName, dType⟩ := dp
  unfold Sysfs.devEntry
  cases dType with
  | other => rfl
  | lnk =>
      cases colon : strchr dName ':' with
      | none => rfl
      | some parts =>
          obtain ⟨before, after⟩ := parts
          have joined := strchr_eq_some colon
          refine if_neg fun same => unrelated.1 after ?_
          rw [joined, same]
  | dir =>
      cases colon : strchr dName ':' with
      | some parts => rfl
      | none => exact if_neg fun same => unrelated.2 (congrArg (DirEnt.mk · .dir) same)

/-- An entry for one kind of device has no meaning for the other. -/
theorem NamesDevice.unrelated {other : CStr} (noColon : ':' ∉ word) (noColon' : ':' ∉ other)
    (different : word ≠ other) (named : NamesDevice sysfs path word dev dp) : Unrelated other dp := by
  cases named with
  | link =>
      refine ⟨fun dev' same => different ?_, nofun⟩
      have names : word ++ ':' :: dev = other ++ ':' :: dev' := congrArg DirEnt.dName same
      have colon := strchr_append noColon dev
      rw [names, strchr_append noColon' dev'] at colon
      cases colon
      rfl
  | directory only =>
      refine ⟨nofun, fun same => different (congrArg DirEnt.dName same)⟩

theorem flatMap_unrelated {others : List DirEnt} (unrelated : ∀ dp ∈ others, Unrelated word dp) :
    others.flatMap (sysfs.devEntry word path) = [] :=
  List.flatMap_eq_nil_iff.mpr fun dp member => (unrelated dp member).devEntry

/-- A directory that offers two devices names exactly these. -/
theorem Offers.devices {block sg : CStr} (offers : Offers sysfs path block sg) :
    (sysfs.listing path).flatMap (sysfs.devEntry "block" path) = [block] ∧
      (sysfs.listing path).flatMap (sysfs.devEntry "scsi_generic" path) = [sg] := by
  obtain ⟨blockEntry, sgEntry, others, order, namesBlock, namesSg, unrelated⟩ := offers
  have noBlock : Unrelated "block" sgEntry :=
    namesSg.unrelated (by decide) (by decide) (by decide)
  have noSg : Unrelated "scsi_generic" blockEntry :=
    namesBlock.unrelated (by decide) (by decide) (by decide)
  constructor
  · have gathered := order.flatMap_right (sysfs.devEntry "block" path)
    rwa [List.flatMap_cons, List.flatMap_cons, namesBlock.devEntry (by decide), noBlock.devEntry,
      flatMap_unrelated fun dp member => (unrelated dp member).1, List.nil_append, List.append_nil,
      List.perm_singleton] at gathered
  · have gathered := order.flatMap_right (sysfs.devEntry "scsi_generic" path)
    rwa [List.flatMap_cons, List.flatMap_cons, namesSg.devEntry (by decide), noSg.devEntry,
      flatMap_unrelated fun dp member => (unrelated dp member).2, List.nil_append, List.append_nil,
      List.perm_singleton] at gathered

theorem Offers.exists {block sg : CStr} (offers : Offers sysfs path block sg) :
    ∃ es, sysfs.dir path = some es := by
  obtain ⟨blockEntry, sgEntry, others, order, -⟩ := offers
  cases opened : sysfs.dir path with
  | some es => exact ⟨es, rfl⟩
  | none =>
      rw [show sysfs.listing path = [] by rw [Sysfs.listing, opened]; rfl] at order
      exact absurd order.length_eq (by simp)

end

/-! ## The directory of a SCSI device -/

/-- The directory of a SCSI device, also when it is cut short. -/
def LunDirectory (path : CStr) : Prop :=
  ∃ address len,
    path = snprintf len (joinPath (joinPath sysfsLunDir (scsiName address)) "device")

theorem scsiName_length (address : ScsiAddress) : (scsiName address).length ≤ 43 := by
  have digits (n : UInt32) : (decimal n.toNat).length ≤ 10 :=
    decimal_length (n.toNat_lt.trans (by decide)) (by decide)
  have hba := digits address.hba
  have port := digits address.port
  have tgt := digits address.tgt
  have lun := digits address.lun
  simp only [scsiName, List.length_append, List.length_cons]
  omega

theorem LunDirectory.safePath {path : CStr} (lun : LunDirectory path) : SafePath path := by
  obtain ⟨address, len, rfl⟩ := lun
  have digits := scsiName_length address
  have short : (snprintf len (joinPath (joinPath sysfsLunDir (scsiName address)) "device")).length <
      240 := by
    refine (List.take_sublist _ _).length_le.trans_lt ?_
    have fixed : sysfsLunDir.length = 22 ∧ "device".toList.length = 6 := by decide
    simp only [joinPath, List.length_append, List.length_cons, fixed.1, fixed.2]
    omega
  refine ⟨saStrncpySafe_self (fun c member => ?_) (fun c last => ?_) (by omega) (by omega), short⟩
  · exact (lunPath_chars (List.mem_of_mem_take member)).1.1
  · exact (lunPath_chars (List.mem_of_mem_take (List.mem_of_getLast? last))).1.2

/-- Neither kind of devices is mistaken for the other by its path. -/
theorem LunDirectory.wordless {path : CStr} (lun : LunDirectory path) :
    (strstr path "block").isSome = false ∧ (strstr path "scsi_generic").isSome = false := by
  obtain ⟨address, len, rfl⟩ := lun
  rw [Bool.eq_false_iff, Bool.eq_false_iff]
  constructor
  · intro found
    exact (lunPath_chars (List.mem_of_mem_take (strstr_subset found 'k' (by decide)))).2.2 rfl
  · intro found
    exact (lunPath_chars (List.mem_of_mem_take (strstr_subset found 'g' (by decide)))).2.1 rfl

/-- Names that fit are written in full. -/
theorem devPath_fits {name : CStr} {len : Nat} (fits : (devPath name).length < len) :
    snprintf len (devPath name) = devPath name := List.take_of_length_le (by omega)

/-- After the directory of a SCSI device is read, both names are those of its two devices. -/
theorem LunDirectory.names {sysfs : Sysfs} {path block sg : CStr} (lun : LunDirectory path)
    (offers : Offers sysfs path block sg) (fitsBlock : (devPath block).length < 256)
    (fitsSg : (devPath sg).length < 32) (osDeviceName ocSg : CStr) :
    saDirRead sysfs path (getBindingOsNames sysfs) ⟨osDeviceName, ocSg, path⟩ =
      .ok (0, ⟨devPath block, devPath sg, path⟩) := by
  obtain ⟨names, walked, herePath, readBlock, readSg⟩ := @getBindingOsNames_walk sysfs path
    lun.safePath (sysfs.listing path) ⟨osDeviceName, ocSg, path⟩ rfl
  obtain ⟨es, opened⟩ := offers.exists
  have same : names = ⟨devPath block, devPath sg, path⟩ := by
    obtain ⟨osDeviceName', ocSg', path'⟩ := names
    rw [offers.devices.1] at readBlock
    rw [offers.devices.2] at readSg
    have first : osDeviceName' = devPath block :=
      (readBlock lun.wordless.1).trans (devPath_fits fitsBlock)
    have second : ocSg' = devPath sg := (readSg lun.wordless.2).trans (devPath_fits fitsSg)
    rw [first, second, show path' = path from herePath]
  rw [saDirRead, opened]
  exact walked.trans (by rw [same])

/-- The reading of `get_binding_target_mapping`. -/
theorem osNames_offers {sysfs : Sysfs} {address : ScsiAddress} {block sg : CStr}
    (offers : Offers sysfs (deviceDir (scsiName address)) block sg)
    (fitsBlock : (devPath block).length < 256) (fitsSg : (devPath sg).length < 32) :
    osNames sysfs (scsiName address) =
      .ok ⟨devPath block, devPath sg, deviceDir (scsiName address)⟩ := by
  have lun : LunDirectory (deviceDir (scsiName address)) := ⟨address, 50, rfl⟩
  have saved : saStrncpySafe 256 (deviceDir (scsiName address)) 50 = deviceDir (scsiName address) :=
    (deviceDir_plain address).safe (by decide)
  rw [osNames, saved, lun.names offers fitsBlock fitsSg]
  rfl

/-- Both layouts give the same names in every order, and every call of the reader restores what
    it changes. -/
theorem osNames_eitherLayout (sysfs : Sysfs) :
    (∀ path block sg, LunDirectory path → Offers sysfs path block sg →
      (devPath block).length < 256 → (devPath sg).length < 32 → ∀ osDeviceName ocSg,
        saDirRead sysfs path (getBindingOsNames sysfs) ⟨osDeviceName, ocSg, path⟩ =
          .ok (0, ⟨devPath block, devPath sg, path⟩)) ∧
    (∀ address block sg, Offers sysfs (deviceDir (scsiName address)) block sg →
      (devPath block).length < 256 → (devPath sg).length < 32 →
        osNames sysfs (scsiName address) =
          .ok ⟨devPath block, devPath sg, deviceDir (scsiName address)⟩) ∧
    ∀ dp names src srcLen, names.ocPath = saStrncpySafe 256 src srcLen →
      ∃ names', getBindingOsNamesInPlace sysfs dp names = .ok (0, dp, names') ∧
        names'.ocPath = names.ocPath ∧
        ((∀ c ∈ dp.dName, c ≠ '\x00') → getBindingOsNames sysfs dp names = .ok (0, names')) := by
  refine ⟨fun path block sg lun offers fitsBlock fitsSg => lun.names offers fitsBlock fitsSg,
    fun address block sg => osNames_offers, fun dp names src srcLen saved => ?_⟩
  have again : saStrncpySafe 256 names.ocPath 256 = names.ocPath := by
    rw [saved]
    exact saStrncpySafe_again (by decide) le_rfl (by decide)
  obtain ⟨names', called, path⟩ := getBindingOsNamesInPlace_restores sysfs dp again
  refine ⟨names', called, path, fun clean => ?_⟩
  rw [getBindingOsNamesInPlace_eq clean, Outcome.map_eq_ok] at called
  obtain ⟨⟨rc, names''⟩, reads, same⟩ := called
  cases same
  exact reads

/-! ## The room for the path -/

/-- The directory of a SCSI device in full. -/
def lunPath (address : ScsiAddress) : CStr :=
  joinPath (joinPath sysfsLunDir (scsiName address)) "device"

/-- The number of digits in the name of a SCSI device. -/
def ScsiAddress.digits (address : ScsiAddress) : Nat :=
  (decimal address.hba.toNat).length + (decimal address.port.toNat).length +
    (decimal address.tgt.toNat).length + (decimal address.lun.toNat).length

/-- What `get_binding_target_mapping` does in its own directory: the path it hands on, the path it
    saves, and where the names of an entry come from. -/
structure OwnDirectory (address : ScsiAddress) : Prop where
  handed : deviceDir (scsiName address) = lunPath address
  saved : saStrncpySafe 256 (deviceDir (scsiName address)) 50 = lunPath address
  names : ∀ env ver type rp lib entry filled sg,
    fillEntry env ver (DirEnt.mk (scsiName address) type).dName address rp lib entry =
      .ok (filled, sg) →
    Except.map Prod.snd (saDirRead env.sysfs (lunPath address) (getBindingOsNames env.sysfs)
      ⟨[], [], lunPath address⟩) = .ok ⟨filled.scsiId.osDeviceName, sg, lunPath address⟩

theorem lunPath_length (address : ScsiAddress) : (lunPath address).length = 33 + address.digits := by
  have fixed : sysfsLunDir.length = 22 ∧ "device".toList.length = 6 := by decide
  simp only [lunPath, joinPath, scsiName, List.length_append, List.length_cons, fixed.1, fixed.2,
    ScsiAddress.digits]
  omega

theorem deviceDir_eq_iff (address : ScsiAddress) :
    deviceDir (scsiName address) = lunPath address ↔ address.digits ≤ 16 := by
  have length := lunPath_length address
  rw [deviceDir, snprintf, ← lunPath, List.take_eq_self_iff, length]
  omega

/-- The directory of a SCSI device is its own exactly when its name has at most sixteen digits. -/
theorem ownDirectory_iff (address : ScsiAddress) : OwnDirectory address ↔ address.digits ≤ 16 := by
  rw [← deviceDir_eq_iff]
  constructor
  · exact OwnDirectory.handed
  · intro handed
    have saved : saStrncpySafe 256 (deviceDir (scsiName address)) 50 = deviceDir (scsiName address) :=
      (deviceDir_plain address).safe (by decide)
    refine ⟨handed, saved.trans handed, ?_⟩
    intro env ver type rp lib entry filled sg called
    obtain ⟨fcpId, -, rest⟩ := bind_eq_ok.mp called
    obtain ⟨names, read, done⟩ := bind_eq_ok.mp rest
    cases done
    obtain ⟨last, walked, here, -⟩ := @getBindingOsNames_walk env.sysfs _
      (deviceDir_plain address).safePath (env.sysfs.listing (deviceDir (scsiName address)))
      ⟨[], [], deviceDir (scsiName address)⟩ rfl
    have found : Except.map Prod.snd (saDirRead env.sysfs (deviceDir (scsiName address))
        (getBindingOsNames env.sysfs) ⟨[], [], deviceDir (scsiName address)⟩) = .ok last := by
      rw [saDirRead_state, walked]
      rfl
    rw [osNames, saved, found, Except.ok.injEq] at read
    rw [handed] at found here
    rw [found, ← read, ← here]

/-- A name of seventeen digits, as a host has after many resets. -/
def longAddress : ScsiAddress := ⟨12345678, 0, 12345, 100⟩

/-- The last letter of its path is lost. -/
theorem longAddress_cut :
    deviceDir (scsiName longAddress) = "/sys/class/scsi_device/12345678:0:12345:100/devic".toList ∧
      ¬ OwnDirectory longAddress := by
  have cut : deviceDir (scsiName longAddress) =
      "/sys/class/scsi_device/12345678:0:12345:100/devic".toList ∧
      longAddress.digits = 17 := by decide +kernel
  refine ⟨cut.1, fun own => ?_⟩
  have fits := (deviceDir_eq_iff longAddress).mp own.handed
  rw [cut.2] at fits
  exact absurd fits (by decide)

end Hbalinux
