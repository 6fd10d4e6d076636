import Hbalinux.C.Loop
import Hbalinux.State

/-! # The serial number of a PCI device

`pci.c`: the serial number stands in an extended capability, which is looked for
after the list of capabilities has been searched for the PCI Express one.  The
offsets of both walks are read from the device.
-/

namespace Hbalinux

/-- The configuration space of a device: `none` is a failed read. -/
structure PciDevice where
  cfgReadU8 : UInt64 → Option UInt8
  cfgReadU16 : UInt64 → Option UInt16
  cfgReadU32 : UInt64 → Option UInt32

def pciStatus : UInt64 := 0x06
def pciStatusCapList : UInt16 := 0x10
def pciCapabilityList : UInt64 := 0x34
def pciCapListId : UInt64 := 0
def pciCapListNext : UInt64 := 1
def pciCapIdExp : UInt8 := 0x10
def pciExtCapIdDsn : UInt16 := 0x03

/-- One round of the search for the PCI Express capability; whether it was found. -/
def capabilityRound (dev : PciDevice) (offset : UInt64) : Round UInt64 Bool :=
  if offset = 0 then .done false else
    match dev.cfgReadU8 (offset + pciCapListId) with
    | none => .done false
    | some capId =>
        if capId ≠ pciCapIdExp then
          match dev.cfgReadU8 (offset + pciCapListNext) with
          | none => .done false
          | some nextCap => .again nextCap.toUInt64
        else .done true

/-- `"%02X"` -/
def hex2 (v : UInt32) : CStr :=
  let digits := (Nat.toDigits 16 v.toNat).map Char.toUpper
  List.replicate (2 - digits.length) '0' ++ digits

/-- `"%02X%02X%02X%02X%02X%02X\n"` -/
def serialNumber (low high : UInt32) : CStr :=
  snprintf 64 (hex2 (high >>> 24) ++ hex2 ((high >>> 16) &&& 0xff) ++ hex2 ((high >>> 8) &&& 0xff) ++
    hex2 ((low >>> 16) &&& 0xff) ++ hex2 ((low >>> 8) &&& 0xff) ++ hex2 (low &&& 0xff) ++ ['\n'])

/-- One round of the search for the serial number.  Its two halves are 0 where they
    cannot be read. -/
def extendedRound (dev : PciDevice) (offset : UInt64) : Round UInt64 (Option CStr) :=
  match dev.cfgReadU32 offset with
  | none => .done none
  | some header =>
      if header.toUInt16 ≠ pciExtCapIdDsn then
        let next := header.toUInt64 >>> 20
        if next = 0 then .done none else .again next
      else
        let low := (dev.cfgReadU32 (offset + 4)).getD 0
        let high := (dev.cfgReadU32 (offset + 8)).getD 0
        .done (some (serialNumber low high))

/-- The offset of the first capability, unless the device has none or cannot be read. -/
def PciDevice.capPtr (dev : PciDevice) : Option UInt64 := do
  let status ← dev.cfgReadU16 pciStatus
  if status &&& pciStatusCapList = 0 then none
  else do
    let capPtr ← dev.cfgReadU8 pciCapabilityList
    some capPtr.toUInt64

/-- The offset of the first extended capability. -/
def firstExtended : UInt64 := 0x100

/-- `get_device_serial_number` with a bound on the rounds of each loop: the serial
    number, or `none` when a loop goes on. -/
def getDeviceSerialNumber (dev : PciDevice) (fuel : Nat) : Option CStr :=
  match dev.capPtr with
  | none => some "Unknown".toList
  | some offset => do
      let found ← runLoop (capabilityRound dev) fuel offset
      if found then do
        let serial ← runLoop (extendedRound dev) fuel firstExtended
        some (serial.getD "Unknown".toList)
      else some "Unknown".toList

/-- The capability at `offset` is not the PCI Express one, and `next` comes after it. -/
def NextCapability (dev : PciDevice) (offset next : UInt64) : Prop :=
  offset ≠ 0 ∧ ∃ capId nextCap, dev.cfgReadU8 (offset + pciCapListId) = some capId ∧
    capId ≠ pciCapIdExp ∧ dev.cfgReadU8 (offset + pciCapListNext) = some nextCap ∧
    next = nextCap.toUInt64

/-- The extended capability at `offset` is not the serial number, and `next` comes
    after it. -/
def NextExtended (dev : PciDevice) (offset next : UInt64) : Prop :=
  ∃ header, dev.cfgReadU32 offset = some header ∧ header.toUInt16 ≠ pciExtCapIdDsn ∧
    next = header.toUInt64 >>> 20 ∧ next ≠ 0

theorem capabilityRound_goes (dev : PciDevice) : Goes (capabilityRound dev) = NextCapability dev := by
  funext offset next
  simp only [Goes, NextCapability, capabilityRound, eq_iff_iff]
  by_cases zero : offset = 0
  · simp [zero]
  · cases id : dev.cfgReadU8 (offset + pciCapListId) with
    | none => simp [zero]
    | some capId =>
        by_cases exp : capId = pciCapIdExp
        · simp [zero, exp]
        · cases after : dev.cfgReadU8 (offset + pciCapListNext) with
          | none => simp [zero, exp]
          | some nextCap => simp [zero, exp, eq_comm]

theorem extendedRound_goes (dev : PciDevice) : Goes (extendedRound dev) = NextExtended dev := by
  funext offset next
  simp only [Goes, NextExtended, extendedRound, eq_iff_iff]
  cases read : dev.cfgReadU32 offset with
  | none => simp
  | some header =>
      by_cases dsn : header.toUInt16 = pciExtCapIdDsn
      · simp [dsn]
      · by_cases zero : header.toUInt64 >>> 20 = 0
        · simp [dsn, zero]
        · simp only [ne_eq, dsn, not_false_eq_true, if_true, zero, if_false, Round.again.injEq,
            Option.some.injEq]
          constructor
          · rintro rfl
            exact ⟨header, rfl, dsn, rfl, zero⟩
          · rintro ⟨same, rfl, -, rfl, -⟩
            rfl

/-- From an offset on, the list that `next` links leads back to an offset it has passed. -/
def Cyclic (next : UInt64 → UInt64 → Prop) (offset : UInt64) : Prop :=
  ∃ o, Relation.ReflTransGen next offset o ∧ Relation.TransGen next o o

/-- The list of capabilities leads to the PCI Express one. -/
def HasExpress (dev : PciDevice) : Prop :=
  ∃ first offset, dev.capPtr = some first ∧ Relation.ReflTransGen (NextCapability dev) first offset ∧
    offset ≠ 0 ∧ dev.cfgReadU8 (offset + pciCapListId) = some pciCapIdExp

instance instFiniteUInt64 : Finite UInt64 := Finite.of_injective UInt64.toFin fun _ _ => UInt64.toFin_inj.mp

theorem capabilityRound_found (dev : PciDevice) (offset : UInt64) :
    capabilityRound dev offset = .done true ↔
      offset ≠ 0 ∧ dev.cfgReadU8 (offset + pciCapListId) = some pciCapIdExp := by
  unfold capabilityRound
  by_cases zero : offset = 0
  · simp [zero]
  · cases id : dev.cfgReadU8 (offset + pciCapListId) with
    | none => simp [zero]
    | some capId =>
        by_cases exp : capId = pciCapIdExp
        · simp [zero, exp]
        · cases after : dev.cfgReadU8 (offset + pciCapListNext) <;> simp [zero, exp]

theorem hasExpress_iff (dev : PciDevice) :
    HasExpress dev ↔ ∃ first, dev.capPtr = some first ∧ EndsWith (capabilityRound dev) first true := by
  simp only [HasExpress, endsWith_iff, capabilityRound_found, Reaches, capabilityRound_goes]
  constructor
  · rintro ⟨first, offset, start, way, here⟩
    exact ⟨first, start, offset, way, here⟩
  · rintro ⟨first, start, offset, way, here⟩
    exact ⟨first, offset, start, way, here⟩

/-- Each walk ends unless its list is cyclic. -/
theorem capabilityRound_ends_iff (dev : PciDevice) (first : UInt64) :
    (∃ found, EndsWith (capabilityRound dev) first found) ↔ ¬ Cyclic (NextCapability dev) first := by
  rw [ends_iff_not_circles, Circles, Reaches, capabilityRound_goes, Cyclic]

theorem extendedRound_ends_iff (dev : PciDevice) :
    (∃ serial, EndsWith (extendedRound dev) firstExtended serial) ↔
      ¬ Cyclic (NextExtended dev) firstExtended := by
  rw [ends_iff_not_circles, Circles, Reaches, extendedRound_goes, Cyclic]

/-- The serial number is found, or found missing, unless a list the search comes to is
    cyclic. -/
theorem serialNumber_ends_iff (dev : PciDevice) :
    (∃ fuel name, getDeviceSerialNumber dev fuel = some name) ↔
      (∀ first, dev.capPtr = some first → ¬ Cyclic (NextCapability dev) first) ∧
        (HasExpress dev → ¬ Cyclic (NextExtended dev) firstExtended) := by
  rw [hasExpress_iff, ← extendedRound_ends_iff]
  simp only [← capabilityRound_ends_iff, getDeviceSerialNumber]
  cases start : dev.capPtr with
  | none =>
      refine iff_of_true ⟨0, _, rfl⟩ ⟨fun first same => (by cases same), ?_⟩
      rintro ⟨first, same, -⟩
      cases same
  | some first =>
      simp only [Option.some.injEq, forall_eq', exists_eq_left', Option.bind_eq_bind]
      constructor
      · rintro ⟨fuel, name, ran⟩
        obtain ⟨found, searched, rest⟩ := Option.bind_eq_some_iff.mp ran
        have ends : EndsWith (capabilityRound dev) first found := ⟨fuel, searched⟩
        refine ⟨⟨found, ends⟩, fun express => ?_⟩
        rw [ends.unique express, if_pos rfl] at rest
        obtain ⟨serial, searched', -⟩ := Option.bind_eq_some_iff.mp rest
        exact ⟨serial, fuel, searched'⟩
      · rintro ⟨⟨found, fuel, searched⟩, extended⟩
        cases found with
        | false => exact ⟨fuel, "Unknown".toList, by rw [searched]; rfl⟩
        | true =>
            obtain ⟨serial, fuel', searched'⟩ := extended ⟨fuel, searched⟩
            refine ⟨max fuel fuel', serial.getD "Unknown".toList, ?_⟩
            rw [runLoop_more searched (Nat.le_max_left ..),
              runLoop_more searched' (Nat.le_max_right ..)]
            rfl

/-- A device that has been pulled out reads as all ones. -/
def absentDevice : PciDevice where
  cfgReadU8 _ := some 0xff
  cfgReadU16 _ := some 0xffff
  cfgReadU32 _ := some 0xffffffff

/-- On such a device the search goes on for ever. -/
theorem serialNumber_absent : ¬ ∃ fuel name, getDeviceSerialNumber absentDevice fuel = some name := by
  have start : absentDevice.capPtr = some 0xff := rfl
  have stuck : ∀ fuel, runLoop (capabilityRound absentDevice) fuel 0xff = none := by
    intro fuel
    induction fuel with
    | zero => rfl
    | succ fuel ih =>
        have round : Goes (capabilityRound absentDevice) 0xff 0xff := rfl
        rw [runLoop_again round, ih]
  rintro ⟨fuel, name, ran⟩
  rw [getDeviceSerialNumber, start] at ran
  obtain ⟨found, searched, -⟩ := Option.bind_eq_some_iff.mp ran
  rw [stuck] at searched
  cases searched

end Hbalinux
