import Hbalinux.AdapterInvariant
import Hbalinux.C.Items
import Hbalinux.Numbers

/-! # Binding support

`get_binding_support` and `set_binding_support` of `bind.c`, with the helpers of
`utils.c` they call.  The file behind them keeps the last line written.  Setting
reports success for every value of the table whether or not its line has been
written, since the writer returns a character count or a negative number and the
caller takes 0 for failure.  Getting reports success whether or not it has stored
anything.
-/

namespace Hbalinux

open Outcome

/-- The constants `HBA_CAN_BIND_TO_*`, which come with the API. -/
structure CanBindTo where
  dId : UInt32
  wwpn : UInt32
  wwnn : UInt32

/-- `BINDING_CAPABILITIES` -/
def CanBindTo.capabilities (can : CanBindTo) : UInt32 := can.dId ||| can.wwpn ||| can.wwnn

def sysfsBind : CStr := "tgtid_bind_type"

def bindingTypesTable (can : CanBindTo) : List (CStr × UInt32) :=
  [("none", 0), ("wwpn (World Wide Port Name)", can.wwpn), ("wwnn (World Wide Node Name)", can.wwnn),
    ("port_id (FC Address)", can.dId)]

/-- `"%X"` -/
def hexUpper (v : UInt32) : CStr := (Nat.toDigits 16 v.toNat).map Char.toUpper

/-- `sa_enum_decode` with a buffer of `len` bytes. -/
def saEnumDecode (len : Nat) (table : List (CStr × UInt32)) (val : UInt32) : CStr :=
  match table.find? fun entry => entry.2 = val with
  | some entry => entry.1
  | none => snprintf len ("Unknown (code 0x".toList ++ hexUpper val ++ [')'])

/-- How writing a line goes. -/
inductive WriteOutcome where
  /-- `fopen` fails. -/
  | notOpened
  /-- `fprintf` returns a negative number. -/
  | notPrinted (rc : Int) (negative : rc < 0)
  /-- `fprintf` succeeds, but `fclose` cannot write out the buffer. -/
  | notFlushed
  | written
  deriving DecidableEq

/-- The tree in which a file holds one line. -/
def Sysfs.write (sysfs : Sysfs) (path line : CStr) : Sysfs :=
  { sysfs with file := fun other => if other = path then some line else sysfs.file other }

/-- `sa_sys_write_line`: the result of `fprintf` is its character count. -/
def saSysWriteLine (write : WriteOutcome) (sysfs : Sysfs) (dir file string : CStr) : Int × Sysfs :=
  let fileName := snprintf 256 (joinPath dir file)
  let text := string ++ ['\n']
  match write with
  | .notOpened => (-1, sysfs)
  | .notPrinted rc _ => (rc, sysfs)
  | .notFlushed => (text.length, sysfs)
  | .written => (text.length, sysfs.write fileName text)

/-- `SYSFS_HOST_DIR "/host%u"` in the 50 bytes there are for it. -/
def bindDir (kernHba : UInt32) : CStr :=
  snprintf 50 (sysfsHostDir ++ "/host".toList ++ decimal kernHba.toNat)

/-- The status and what has been stored in `*cp`, if anything. -/
def getBindingSupport (can : CanBindTo) (sysfs : Sysfs) (handle : HbaHandle) (wwn : HbaWwn) (lib : Lib) :
    Outcome (HbaStatus × Option UInt32) := do
  let (found, count) ← adapterGetPortByWwn lib handle wwn
  if 1 < count then .ok (hbaStatusErrorAmbiguousWwn, none) else
    match found with
    | none => .ok (hbaStatusErrorIllegalWwn, none)
    | some pp => do
        let port ← lib.port pp
        let (rc, bind) := saSysReadLine sysfs (bindDir port.apKernHba) sysfsBind
          (List.replicate 50 '\x00') 50
        .ok (hbaStatusOk, if rc = 0 then saEnumEncode (bindingTypesTable can) (cstr bind) else none)

/-- The status and the files afterwards. -/
def setBindingSupport (can : CanBindTo) (write : WriteOutcome) (sysfs : Sysfs) (handle : HbaHandle)
    (wwn : HbaWwn) (flags : UInt32) (lib : Lib) : Outcome (HbaStatus × Sysfs) := do
  let (found, count) ← adapterGetPortByWwn lib handle wwn
  if 1 < count then .ok (hbaStatusErrorAmbiguousWwn, sysfs) else
    match found with
    | none => .ok (hbaStatusErrorIllegalWwn, sysfs)
    | some pp =>
        if flags &&& can.capabilities ≠ flags then .ok (hbaStatusErrorNotSupported, sysfs) else do
          let bind := saEnumDecode 50 (bindingTypesTable can) flags
          let port ← lib.port pp
          if (strstr bind "Unknown").isSome then .ok (hbaStatusErrorNotSupported, sysfs) else
            let (rc, sysfs) := saSysWriteLine write sysfs (bindDir port.apKernHba) sysfsBind bind
            .ok (if rc = 0 then hbaStatusErrorIncapable else hbaStatusOk, sysfs)

/-- A port that is found is live. -/
theorem portByWwnFrom_live {lib : Lib} {wwn : HbaWwn} {ports : SaTable Ptr} {count p : Nat}
    {found result : Nat × Option Ptr} {pp : Ptr}
    (ran : portByWwnFrom lib wwn ports count p found = .ok result) (named : result.2 = some pp) :
    found.2 = some pp ∨ ∃ port, lib.lports.get pp = some port := by
  induction count generalizing p found with
  | zero =>
      cases ran
      exact .inl named
  | succ count ih =>
      obtain ⟨cell, -, rest⟩ := bind_eq_ok.mp ran
      cases cell with
      | none => exact ih rest
      | some qq =>
          obtain ⟨port, live, rest⟩ := bind_eq_ok.mp rest
          rcases ih rest with before | now
          · split at before
            · rw [Option.some.injEq] at before
              exact .inr ⟨port, before ▸ demand_eq_ok.mp live⟩
            · exact .inl before
          · exact .inr now

theorem adapterGetPortByWwn_live {lib : Lib} {handle : HbaHandle} {wwn : HbaWwn} {pp : Ptr} {count : Nat}
    (found : adapterGetPortByWwn lib handle wwn = .ok (some pp, count)) :
    count ≤ 1 ∧ ∃ port, lib.lports.get pp = some port := by
  obtain ⟨adapter, -, rest⟩ := bind_eq_ok.mp found
  cases adapter with
  | none => cases rest
  | some ap =>
      obtain ⟨adapter, -, rest⟩ := bind_eq_ok.mp rest
      obtain ⟨⟨n, last⟩, ran, rest⟩ := bind_eq_ok.mp rest
      simp only [Except.ok.injEq, Prod.mk.injEq] at rest
      obtain ⟨named, rfl⟩ := rest
      split at named
      · cases named
      · rcases portByWwnFrom_live ran named with start | live
        · cases start
        · exact ⟨by omega, live⟩

/-- The flags of an entry are among the capabilities. -/
theorem capabilities_of_mem {can : CanBindTo} {entry : CStr × UInt32}
    (listed : entry ∈ bindingTypesTable can) : entry.2 &&& can.capabilities = entry.2 := by
  have all : can.capabilities = orAll [can.dId, can.wwpn, can.wwnn] := by
    simp [CanBindTo.capabilities, UInt32.or_assoc]
  simp only [bindingTypesTable, List.mem_cons, List.not_mem_nil, or_false] at listed
  rw [all]
  rcases listed with rfl | rfl | rfl | rfl
  · exact UInt32.zero_and
  · exact and_orAll_self (by simp)
  · exact and_orAll_self (by simp)
  · exact and_orAll_self (by simp)

theorem bindingTypes_known {can : CanBindTo} {entry : CStr × UInt32}
    (listed : entry ∈ bindingTypesTable can) : strstr entry.1 "Unknown" = none := by
  simp only [bindingTypesTable, List.mem_cons, List.not_mem_nil, or_false] at listed
  rcases listed with rfl | rfl | rfl | rfl <;> rfl

/-- The name of an entry stands for its flags. -/
theorem saEnumEncode_bindingTypes {can : CanBindTo} {entry : CStr × UInt32}
    (listed : entry ∈ bindingTypesTable can) :
    saEnumEncode (bindingTypesTable can) entry.1 = some entry.2 := by
  simp only [bindingTypesTable, List.mem_cons, List.not_mem_nil, or_false] at listed
  rcases listed with rfl | rfl | rfl | rfl <;> rfl

/-- The line of an entry comes back as its name. -/
theorem bindingTypes_line {can : CanBindTo} {entry : CStr × UInt32}
    (listed : entry ∈ bindingTypesTable can) :
    fgets 50 (entry.1 ++ ['\n']) ≠ [] ∧ cstr (trimLine (overlay (fgets 50 (entry.1 ++ ['\n']))
      (List.replicate 50 '\x00'))) = entry.1 := by
  simp only [bindingTypesTable, List.mem_cons, List.not_mem_nil, or_false] at listed
  rcases listed with rfl | rfl | rfl | rfl <;> dsimp only <;> exact ⟨by decide, by decide⟩

/-- The writer never returns 0. -/
theorem saSysWriteLine_nonzero (write : WriteOutcome) (sysfs : Sysfs) (dir file string : CStr) :
    (saSysWriteLine write sysfs dir file string).1 ≠ 0 := by
  cases write with
  | notOpened => simp [saSysWriteLine]
  | notPrinted rc negative => exact ne_of_lt negative
  | notFlushed => simp [saSysWriteLine]; omega
  | written => simp [saSysWriteLine]; omega

section Port

variable {can : CanBindTo} {lib : Lib} {handle : HbaHandle} {wwn : HbaWwn} {pp : Ptr} {count : Nat}
  {port : PortInfo}

/-- Setting for a port that its name finds: an unknown combination of flags is refused, and
    every value of the table reported as set. -/
theorem setBindingSupport_eq (found : adapterGetPortByWwn lib handle wwn = .ok (some pp, count))
    (live : lib.lports.get pp = some port) (write : WriteOutcome) (sysfs : Sysfs) (flags : UInt32) :
    setBindingSupport can write sysfs handle wwn flags lib = .ok
      (match (bindingTypesTable can).find? fun entry => entry.2 = flags with
      | none => (hbaStatusErrorNotSupported, sysfs)
      | some entry => (hbaStatusOk,
          (saSysWriteLine write sysfs (bindDir port.apKernHba) sysfsBind entry.1).2)) := by
  have few := (adapterGetPortByWwn_live found).1
  have notMany : ¬ 1 < count := by omega
  unfold setBindingSupport saEnumDecode
  rw [found, ok_bind]
  simp only [notMany, if_false, Lib.port, live, demand_some, ok_bind]
  cases known : (bindingTypesTable can).find? fun entry => entry.2 = flags with
  | none =>
      have unknown : (strstr (snprintf 50 ("Unknown (code 0x".toList ++ hexUpper flags ++ [')']))
          "Unknown").isSome = true := by
        rfl
      simp only [unknown, if_true]
      split <;> rfl
  | some entry =>
      have listed := List.mem_of_find?_eq_some known
      have value : entry.2 = flags := by simpa using List.find?_some known
      have capable := capabilities_of_mem listed
      rw [value] at capable
      simp only [capable, ne_eq, not_true_eq_false, if_false, bindingTypes_known listed,
        Option.isSome_none, Bool.false_eq_true, saSysWriteLine_nonzero]

/-- What getting reads. -/
def bindLine (sysfs : Sysfs) (kernHba : UInt32) : Option CStr :=
  match saSysReadLine sysfs (bindDir kernHba) sysfsBind (List.replicate 50 '\x00') 50 with
  | (0, bind) => some (cstr bind)
  | _ => none

theorem getBindingSupport_eq (found : adapterGetPortByWwn lib handle wwn = .ok (some pp, count))
    (live : lib.lports.get pp = some port) (sysfs : Sysfs) :
    getBindingSupport can sysfs handle wwn lib = .ok
      (hbaStatusOk, (bindLine sysfs port.apKernHba).bind (saEnumEncode (bindingTypesTable can))) := by
  have few := (adapterGetPortByWwn_live found).1
  have notMany : ¬ 1 < count := by omega
  unfold getBindingSupport bindLine
  rw [found, ok_bind]
  simp only [notMany, if_false, Lib.port, live, demand_some, ok_bind]
  generalize saSysReadLine sysfs (bindDir port.apKernHba) sysfsBind (List.replicate 50 '\x00') 50 = read
  obtain ⟨rc, bind⟩ := read
  by_cases success : rc = 0
  · simp [success]
  · simp [success]

/-- A line that has been written is read back. -/
theorem bindLine_write {entry : CStr × UInt32} (listed : entry ∈ bindingTypesTable can) (sysfs : Sysfs)
    (kernHba : UInt32) :
    bindLine (saSysWriteLine .written sysfs (bindDir kernHba) sysfsBind entry.1).2 kernHba =
      some entry.1 := by
  obtain ⟨nonempty, name⟩ := bindingTypes_line listed
  have content : (saSysWriteLine .written sysfs (bindDir kernHba) sysfsBind entry.1).2.file
      (snprintf 256 (joinPath (bindDir kernHba) sysfsBind)) = some (entry.1 ++ ['\n']) := if_pos rfl
  unfold bindLine saSysReadLine
  rw [content]
  simp only
  generalize fgets 50 (entry.1 ++ ['\n']) = line at nonempty name
  cases line with
  | nil => exact absurd rfl nonempty
  | cons c cs => exact congrArg some name

/-- What setting `flags` promises: success is reported when the flags are supported and have
    been written, they are read back then, and a failure changes nothing. -/
structure SetsBinding (can : CanBindTo) (flags : UInt32) (write : WriteOutcome) (before : Sysfs)
    (get : Sysfs → Outcome (HbaStatus × Option UInt32)) (result : HbaStatus × Sysfs) : Prop where
  reported : result.1 = hbaStatusOk ↔
    flags ∈ (bindingTypesTable can).map Prod.snd ∧ write = .written
  readBack : result.1 = hbaStatusOk → get result.2 = .ok (hbaStatusOk, some flags)
  unchanged : result.1 ≠ hbaStatusOk → result.2 = before

/-- Success of getting means that something has been stored. -/
def GetsBinding (result : HbaStatus × Option UInt32) : Prop :=
  result.1 = hbaStatusOk → result.2.isSome = true

/-- The file can be read and its line names an entry of the table. -/
def NamesBinding (can : CanBindTo) (sysfs : Sysfs) (kernHba : UInt32) : Prop :=
  ∃ line, bindLine sysfs kernHba = some line ∧
    ∃ entry ∈ bindingTypesTable can, strcasecmp entry.1 line = true

/-- When setting and getting keep their promises. -/
theorem bindingSupport_faithful_iff (found : adapterGetPortByWwn lib handle wwn = .ok (some pp, count))
    (live : lib.lports.get pp = some port) (write : WriteOutcome) (sysfs : Sysfs) (flags : UInt32) :
    (∃ result, setBindingSupport can write sysfs handle wwn flags lib = .ok result ∧
      (SetsBinding can flags write sysfs (fun after => getBindingSupport can after handle wwn lib) result ↔
        (flags ∉ (bindingTypesTable can).map Prod.snd ∨ write = .written))) ∧
    ∃ result, getBindingSupport can sysfs handle wwn lib = .ok result ∧
      (GetsBinding result ↔ NamesBinding can sysfs port.apKernHba) := by
  constructor
  · refine ⟨_, setBindingSupport_eq found live write sysfs flags, ?_⟩
    cases known : (bindingTypesTable can).find? fun entry => entry.2 = flags with
    | none =>
        have missing : flags ∉ (bindingTypesTable can).map Prod.snd := by
          rw [List.mem_map]
          rintro ⟨entry, listed, value⟩
          simpa [value] using List.find?_eq_none.mp known entry listed
        have refused : hbaStatusErrorNotSupported ≠ hbaStatusOk := by decide
        refine iff_of_true ⟨?_, fun success => absurd success refused, fun _ => rfl⟩ (.inl missing)
        exact iff_of_false refused fun supported => missing supported.1
    | some entry =>
        have listed := List.mem_of_find?_eq_some known
        have value : entry.2 = flags := by simpa using List.find?_some known
        have supported : flags ∈ (bindingTypesTable can).map Prod.snd :=
          List.mem_map.mpr ⟨entry, listed, value⟩
        constructor
        · intro sets
          exact .inr (sets.reported.mp rfl).2
        · rintro (missing | rfl)
          · exact absurd supported missing
          · refine ⟨iff_of_true rfl ⟨supported, rfl⟩, fun _ => ?_, fun failed => absurd rfl failed⟩
            simp only [getBindingSupport_eq found live, bindLine_write listed, Option.bind_some,
              saEnumEncode_bindingTypes listed, value]
  · refine ⟨_, getBindingSupport_eq found live sysfs, ?_⟩
    unfold GetsBinding NamesBinding
    cases bindLine sysfs port.apKernHba with
    | none => simp
    | some line => simp [saEnumEncode]

end Port

/-- The name of the sample host's port. -/
def smallWwn : HbaWwn := copyWwn 0x2000000000000001

private theorem smallPort_found : ∃ port,
    adapterGetPortByWwn (loadedState smallSystem) 0x100 smallWwn = .ok (some 0, 1) ∧
      (loadedState smallSystem).lports.get 0 = some port ∧ port.apKernHba = 3 := by
  have facts : (adapterGetPortByWwn (loadedState smallSystem) 0x100 smallWwn).toOption =
      some (some 0, 1) ∧
      ((loadedState smallSystem).lports.get 0).map PortInfo.apKernHba = some 3 := by
    decide +kernel
  obtain ⟨found, host⟩ := facts
  obtain ⟨port, live, kern⟩ := Option.map_eq_some_iff.mp host
  exact ⟨port, eq_ok_of_toOption found, live, kern⟩

/-- The values the API gives the constants. -/
def canBindTo : CanBindTo := ⟨1, 2, 4⟩

theorem bindingSupport_faithful_small :
    (∃ result, setBindingSupport canBindTo .written smallSystem.sysfs 0x100 smallWwn 2
        (loadedState smallSystem) = .ok result ∧
      SetsBinding canBindTo 2 .written smallSystem.sysfs
        (fun after => getBindingSupport canBindTo after 0x100 smallWwn (loadedState smallSystem)) result) ∧
    ∃ result, getBindingSupport canBindTo (.constant "None\n".toList) 0x100 smallWwn
        (loadedState smallSystem) = .ok result ∧ GetsBinding result := by
  obtain ⟨port, found, live, -⟩ := smallPort_found
  obtain ⟨⟨result, set, faithful⟩, -⟩ :=
    @bindingSupport_faithful_iff canBindTo _ _ _ _ _ _ found live .written smallSystem.sysfs 2
  obtain ⟨-, result', get, faithful'⟩ :=
    @bindingSupport_faithful_iff canBindTo _ _ _ _ _ _ found live .written (.constant "None\n".toList) 2
  have names : NamesBinding canBindTo (.constant "None\n".toList) port.apKernHba :=
    ⟨"None".toList, rfl, ("none".toList, 0), by decide, by decide⟩
  exact ⟨⟨result, set, faithful.mpr (.inr rfl)⟩, result', get, faithful'.mpr names⟩

/-- Without a file to write or to read both calls report success. -/
theorem bindingSupport_unfaithful : ∃ port,
    adapterGetPortByWwn (loadedState smallSystem) 0x100 smallWwn = .ok (some 0, 1) ∧
    (loadedState smallSystem).lports.get 0 = some port ∧
    setBindingSupport canBindTo .notOpened smallSystem.sysfs 0x100 smallWwn 2 (loadedState smallSystem) =
      .ok (hbaStatusOk, smallSystem.sysfs) ∧
    ¬ SetsBinding canBindTo 2 .notOpened smallSystem.sysfs
      (fun after => getBindingSupport canBindTo after 0x100 smallWwn (loadedState smallSystem))
      (hbaStatusOk, smallSystem.sysfs) ∧
    getBindingSupport canBindTo smallSystem.sysfs 0x100 smallWwn (loadedState smallSystem) =
      .ok (hbaStatusOk, none) ∧
    ¬ GetsBinding (hbaStatusOk, none) := by
  obtain ⟨port, found, live, host⟩ := smallPort_found
  have noLine : bindLine smallSystem.sysfs 3 = none := by decide +kernel
  refine ⟨port, found, live, setBindingSupport_eq found live .notOpened smallSystem.sysfs 2,
    fun sets => ?_, ?_, fun gets => ?_⟩
  · cases (sets.reported.mp rfl).2
  · rw [getBindingSupport_eq found live, host, noLine]
    rfl
  · cases gets rfl

end Hbalinux
