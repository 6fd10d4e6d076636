import Hbalinux.MappingSpec

/-! # SCSI-generic names

The directory of a SCSI device names its SCSI-generic device by a symbolic link
`scsi_generic:sgN` or by an entry of a directory `scsi_generic`.  The reader takes
both, each found name replacing the one before, and tells the directory by its
path: a path without this word in it is that of a block device.
-/

namespace Hbalinux

open Outcome

/-- What is left when values are written one over the other. -/
def overwritten {α : Type} (before : α) (writes : List α) : α := writes.getLast?.getD before

@[simp] theorem overwritten_nil {α : Type} (before : α) : overwritten before [] = before := rfl

@[simp] theorem overwritten_singleton {α : Type} (before a : α) : overwritten before [a] = a := rfl

theorem overwritten_append {α : Type} (before : α) (first second : List α) :
    overwritten before (first ++ second) = overwritten (overwritten before first) second := by
  unfold overwritten
  rw [List.getLast?_append]
  cases second.getLast? <;> rfl

theorem overwritten_ite {α β : Type} {p : Prop} [Decidable p] (before : β) (writes : List α)
    (f : α → β) : overwritten before ((if p then writes else []).map f) =
      if p then overwritten before (writes.map f) else before := by
  split <;> rfl

/-- The devices of one kind that an entry of a directory names, where `word` is what the
    directory of this kind is called. -/
def Sysfs.devEntry (sysfs : Sysfs) (word path : CStr) (dp : DirEnt) : List CStr :=
  match dp.dType, strchr dp.dName ':' with
  | .lnk, some (before, after) => if before = word then [after] else []
  | .dir, none =>
      if dp.dName = word then (sysfs.listing (joinPath path dp.dName)).map DirEnt.dName else []
  | _, _ => []

def Sysfs.sgEntry (sysfs : Sysfs) : CStr → DirEnt → List CStr := sysfs.devEntry "scsi_generic"

/-- The SCSI-generic devices named in a directory. -/
def Sysfs.sgDevices (sysfs : Sysfs) (path : CStr) : List CStr :=
  (sysfs.listing path).flatMap (sysfs.sgEntry path)

theorem Sysfs.sgDevices_eq (sysfs : Sysfs) (path : CStr) : sysfs.sgDevices path =
    (sysfs.listing path).flatMap (sysfs.devEntry "scsi_generic" path) := rfl

/-- The name of a SCSI-generic device, in the 32 bytes there are for it. -/
def sgName (sg : CStr) : CStr := snprintf 32 (devPath sg)

/-- The name of a block device, in the 256 bytes there are for it. -/
def blockName (block : CStr) : CStr := snprintf 256 (devPath block)

/-- A path that survives its copies and has room for a subdirectory. -/
structure SafePath (path : CStr) : Prop where
  again : saStrncpySafe 256 path 256 = path
  room : path.length < 240

/-- A path of at most 49 visible characters, none of them in doubt with those of
    `scsi_generic`. -/
structure PlainPath (path : CStr) : Prop where
  short : path.length < 50
  visible : ∀ c ∈ path, isprint c = true ∧ isspace c = false
  other : 'g' ∉ path

theorem PlainPath.safe {path : CStr} (plain : PlainPath path) {srcLen : Nat} (whole : 50 ≤ srcLen) :
    saStrncpySafe 256 path srcLen = path := by
  have short := plain.short
  apply saStrncpySafe_self
  · exact fun c member => (plain.visible c member).1
  · exact fun c last => (plain.visible c (List.mem_of_getLast? last)).2
  · omega
  · omega

theorem PlainPath.safePath {path : CStr} (plain : PlainPath path) : SafePath path :=
  ⟨plain.safe (by decide), plain.short.trans (by decide)⟩

theorem PlainPath.generic {path : CStr} (plain : PlainPath path) :
    (strstr path "scsi_generic").isSome = false := by
  rw [Bool.eq_false_iff]
  exact fun found => plain.other (strstr_subset found 'g' (by decide))

theorem getDeprecatedDeviceName_walk (es : List DirEnt) (names : OsNames) :
    ∃ names', untilNonzero getDeprecatedDeviceName es names = .ok (0, names') ∧
      names'.osDeviceName = (if (strstr names.ocPath "block").isSome then
        overwritten names.osDeviceName (es.map fun dp => blockName dp.dName)
        else names.osDeviceName) ∧
      names'.ocSg = if (strstr names.ocPath "scsi_generic").isSome then
        overwritten names.ocSg (es.map fun dp => sgName dp.dName) else names.ocSg := by
  induction es generalizing names with
  | nil => exact ⟨names, rfl, by split <;> rfl, by split <;> rfl⟩
  | cons dp es ih =>
      obtain ⟨mid, called, path, block, sg⟩ : ∃ mid,
          getDeprecatedDeviceName dp names = .ok (0, mid) ∧ mid.ocPath = names.ocPath ∧
          mid.osDeviceName = (if (strstr names.ocPath "block").isSome then blockName dp.dName
            else names.osDeviceName) ∧
          mid.ocSg = if (strstr names.ocPath "scsi_generic").isSome then sgName dp.dName
            else names.ocSg := by
        unfold getDeprecatedDeviceName
        refine ⟨_, rfl, ?_, ?_, ?_⟩ <;> split <;> split <;> rfl
      obtain ⟨names', walked, lastBlock, lastSg⟩ := ih mid
      refine ⟨names', ?_, ?_, ?_⟩
      · rw [untilNonzero_cons, called, ok_bind, if_pos rfl, walked]
      · rw [lastBlock, path, block, List.map_cons, ← List.singleton_append, overwritten_append]
        split <;> rfl
      · rw [lastSg, path, sg, List.map_cons, ← List.singleton_append, overwritten_append]
        split <;> rfl

/-- A word without a slash is in a path or in the last component. -/
theorem strstr_join {word : CStr} (noSlash : '/' ∉ word) (path name : CStr) :
    (strstr (joinPath path name) word).isSome =
      ((strstr path word).isSome || (strstr name word).isSome) := by
  rw [Bool.eq_iff_iff, Bool.or_eq_true]
  simp only [strstr_isSome_iff]
  exact inside_append_cons noSlash path name

/-- The subdirectory for one kind of device. -/
theorem SafePath.join {path word : CStr} (safe : SafePath path) (short : word.length < 15) :
    snprintf 256 (joinPath (saStrncpySafe 256 path 256) word) = joinPath path word := by
  have room := safe.room
  rw [safe.again, snprintf, List.take_of_length_le]
  rw [joinPath, List.length_append, List.length_cons]
  omega

/-- One entry of the directory of a SCSI device.  A name is right where its word cannot be
    mistaken for a part of the path. -/
theorem getBindingOsNames_step {sysfs : Sysfs} {path : CStr} (safe : SafePath path) (dp : DirEnt)
    {names : OsNames} (here : names.ocPath = path) :
    ∃ names', getBindingOsNames sysfs dp names = .ok (0, names') ∧ names'.ocPath = path ∧
      ((strstr path "block").isSome = false → names'.osDeviceName =
        overwritten names.osDeviceName ((sysfs.devEntry "block" path dp).map blockName)) ∧
      ((strstr path "scsi_generic").isSome = false → names'.ocSg =
        overwritten names.ocSg ((sysfs.devEntry "scsi_generic" path dp).map sgName)) := by
  unfold getBindingOsNames Sysfs.devEntry
  cases type : dp.dType with
  | other => exact ⟨names, rfl, here, fun _ => rfl, fun _ => rfl⟩
  | lnk =>
      cases colon : strchr dp.dName ':' with
      | none => exact ⟨names, rfl, here, fun _ => rfl, fun _ => rfl⟩
      | some parts =>
          obtain ⟨before, after⟩ := parts
          by_cases block : before = "block"
          · have other : before ≠ "scsi_generic" := by
              rw [block]
              decide
            simp only [if_pos block, if_neg other]
            exact ⟨_, rfl, here, fun _ => rfl, fun _ => rfl⟩
          · by_cases generic : before = "scsi_generic"
            · simp only [if_neg block, if_pos generic]
              exact ⟨_, rfl, here, fun _ => rfl, fun _ => rfl⟩
            · simp only [if_neg block, if_neg generic]
              exact ⟨_, rfl, here, fun _ => rfl, fun _ => rfl⟩
  | dir =>
      cases colon : strchr dp.dName ':' with
      | some parts => exact ⟨names, rfl, here, fun _ => rfl, fun _ => rfl⟩
      | none =>
          simp only
          by_cases known : dp.dName = "block" ∨ dp.dName = "scsi_generic"
          · have short : dp.dName.length < 15 := by
              rcases known with same | same <;> rw [same] <;> decide
            obtain ⟨inner, walked, block, sg⟩ := getDeprecatedDeviceName_walk
              (sysfs.listing (joinPath path dp.dName)) { names with ocPath := joinPath path dp.dName }
            rw [if_pos known, here, safe.join short, saDirRead_state, walked]
            refine ⟨_, rfl, ?_, fun plain => ?_, fun plain => ?_⟩
            · rw [safe.again, safe.again]
            · have kind : (strstr dp.dName "block").isSome = decide (dp.dName = "block") := by
                rcases known with same | same <;> rw [same] <;> decide
              simp only [strstr_join (show '/' ∉ "block".toList by decide), plain, Bool.false_or, kind,
                decide_eq_true_eq] at block
              rw [block, overwritten_ite, List.map_map]
              rfl
            · have kind : (strstr dp.dName "scsi_generic").isSome =
                  decide (dp.dName = "scsi_generic") := by
                rcases known with same | same <;> rw [same] <;> decide
              simp only [strstr_join (show '/' ∉ "scsi_generic".toList by decide), plain,
                Bool.false_or, kind, decide_eq_true_eq] at sg
              rw [sg, overwritten_ite, List.map_map]
              rfl
          · rw [if_neg known]
            rw [not_or] at known
            rw [if_neg known.1, if_neg known.2]
            exact ⟨_, rfl, here, fun _ => rfl, fun _ => rfl⟩

theorem getBindingOsNames_walk {sysfs : Sysfs} {path : CStr} (safe : SafePath path)
    (es : List DirEnt) {names : OsNames} (here : names.ocPath = path) :
    ∃ names', untilNonzero (getBindingOsNames sysfs) es names = .ok (0, names') ∧
      names'.ocPath = path ∧
      ((strstr path "block").isSome = false → names'.osDeviceName =
        overwritten names.osDeviceName ((es.flatMap (sysfs.devEntry "block" path)).map blockName)) ∧
      ((strstr path "scsi_generic").isSome = false → names'.ocSg =
        overwritten names.ocSg ((es.flatMap (sysfs.devEntry "scsi_generic" path)).map sgName)) := by
  induction es generalizing names with
  | nil => exact ⟨names, rfl, here, fun _ => rfl, fun _ => rfl⟩
  | cons dp es ih =>
      obtain ⟨mid, called, path, firstBlock, firstSg⟩ := getBindingOsNames_step safe dp here
      obtain ⟨names', walked, path', restBlock, restSg⟩ := ih path
      refine ⟨names', ?_, path', fun plain => ?_, fun plain => ?_⟩
      · rw [untilNonzero_cons, called, ok_bind, if_pos rfl, walked]
      · rw [restBlock plain, firstBlock plain, List.flatMap_cons, List.map_append,
          overwritten_append]
      · rw [restSg plain, firstSg plain, List.flatMap_cons, List.map_append, overwritten_append]

/-- Names that the kernel gives to SCSI devices are made of digits and colons. -/
theorem scsiName_chars {address : ScsiAddress} {c : Char} (member : c ∈ scsiName address) :
    c.isDigit = true ∨ c = ':' := by
  have digits : ∀ {n : Nat}, c ∈ decimal n → c.isDigit = true := decimal_isDigit
  simp only [scsiName, List.mem_append, List.mem_cons] at member
  rcases member with member | rfl | member | rfl | member | rfl | member
  · exact .inl (digits member)
  · exact .inr rfl
  · exact .inl (digits member)
  · exact .inr rfl
  · exact .inl (digits member)
  · exact .inr rfl
  · exact .inl (digits member)

/-- The path of a device directory is visible and has no letter that both words share. -/
theorem lunPath_chars {address : ScsiAddress} {c : Char}
    (member : c ∈ joinPath (joinPath sysfsLunDir (scsiName address)) "device") :
    (isprint c = true ∧ isspace c = false) ∧ c ≠ 'g' ∧ c ≠ 'k' := by
  have member : c ∈ sysfsLunDir ∨ c = '/' ∨ c ∈ scsiName address ∨ c ∈ "/device".toList := by
    simpa [joinPath] using member
  have fixed : ∀ d ∈ '/' :: sysfsLunDir ++ "/device".toList,
      (isprint d = true ∧ isspace d = false) ∧ d ≠ 'g' ∧ d ≠ 'k' := by
    intro d member
    have all : ('/' :: sysfsLunDir ++ "/device".toList).all
        (fun d => (isprint d && !isspace d) && (d != 'g' && d != 'k')) = true := by decide
    simpa using List.all_eq_true.mp all d member
  rcases member with member | rfl | member | member
  · exact fixed c (by simp [member])
  · exact fixed '/' (by simp)
  · rcases scsiName_chars member with digit | rfl
    · refine ⟨⟨isprint_of_isDigit digit, isspace_of_isDigit digit⟩, ?_, ?_⟩
      · rintro rfl
        cases digit
      · rintro rfl
        cases digit
    · decide
  · exact fixed c (List.mem_append_right _ member)

theorem deviceDir_plain (address : ScsiAddress) : PlainPath (deviceDir (scsiName address)) := by
  have chars {c : Char} (member : c ∈ deviceDir (scsiName address)) :=
    lunPath_chars (List.mem_of_mem_take member)
  refine ⟨?_, fun c member => (chars member).1, fun member => (chars member).2.1 rfl⟩
  rw [deviceDir, snprintf, List.length_take]
  omega

/-- The SCSI-generic name found for a device is that of the last one named in its
    directory. -/
theorem deviceNames_sg (sysfs : Sysfs) (address : ScsiAddress) :
    (deviceNames sysfs (scsiName address)).ocSg =
      overwritten [] ((sysfs.sgDevices (deviceDir (scsiName address))).map sgName) := by
  have plain := deviceDir_plain address
  obtain ⟨names, walked, -, -, sg⟩ := @getBindingOsNames_walk sysfs _ plain.safePath
    (sysfs.listing (deviceDir (scsiName address)))
    ⟨[], [], saStrncpySafe 256 (deviceDir (scsiName address)) 50⟩ (plain.safe (by decide))
  have read : osNames sysfs (scsiName address) = .ok names := by
    rw [osNames, saDirRead_state, walked]
    rfl
  rw [osNames_eq, Except.ok.injEq] at read
  rw [read, sg plain.generic, Sysfs.sgDevices_eq]

end Hbalinux
