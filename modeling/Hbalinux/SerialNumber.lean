import Hbalinux.NetTypes
import Hbalinux.Pci
import Hbalinux.Sysfs

/-! # What the serial number says

Six bytes of two dwords, as hexadecimal digits and a newline.  `sysfs_scan` copies
the text without the newline.
-/

namespace Hbalinux

def upperHex (n : Nat) : Char := "0123456789ABCDEF".toList.getD n '0'

/-- Two upper-case hexadecimal digits. -/
def hexPair (byte : UInt8) : CStr := [upperHex (byte.toNat / 16), upperHex (byte.toNat % 16)]

/-- The digits of the top three bytes of `high` and the low three bytes of `low`. -/
def serialDigits (low high : UInt32) : CStr :=
  [(high >>> 24).toUInt8, (high >>> 16).toUInt8, (high >>> 8).toUInt8,
    (low >>> 16).toUInt8, (low >>> 8).toUInt8, low.toUInt8].flatMap hexPair

theorem hex2_byte {v : UInt32} (byte : v.toNat < 256) : hex2 v = hexPair v.toUInt8 := by
  have all : ∀ n : Fin 256, hex2 (UInt32.ofNat n) = hexPair (UInt32.ofNat n).toUInt8 := by
    decide +kernel
  have here := all ⟨v.toNat, byte⟩
  rwa [UInt32.ofNat_toNat] at here

theorem hex2_masked (v : UInt32) : hex2 (v &&& 0xff) = hexPair v.toUInt8 := by
  have low : (v &&& 0xff).toNat = v.toNat % 256 := (UInt32.toNat_and v 0xff).trans (low_byte _)
  rw [hex2_byte (by rw [low]; exact Nat.mod_lt _ (by decide))]
  congr 1
  apply UInt8.toNat_inj.mp
  rw [UInt32.toNat_toUInt8, UInt32.toNat_toUInt8, low]
  exact Nat.mod_mod _ _

theorem upperHex_char {n : Nat} (digit : n < 16) :
    isprint (upperHex n) = true ∧ isspace (upperHex n) = false := by
  have all : ∀ n : Fin 16, isprint (upperHex n) = true ∧ isspace (upperHex n) = false := by decide
  exact all ⟨n, digit⟩

theorem hexPair_chars {byte : UInt8} {c : Char} (member : c ∈ hexPair byte) :
    isprint c = true ∧ isspace c = false := by
  have bound := byte.toNat_lt
  rcases List.mem_cons.mp member with rfl | member
  · exact upperHex_char (by omega)
  · rw [List.mem_singleton.mp member]
    exact upperHex_char (Nat.mod_lt _ (by decide))

theorem serialDigits_length (low high : UInt32) : (serialDigits low high).length = 12 := rfl

theorem serialDigits_chars {low high : UInt32} {c : Char} (member : c ∈ serialDigits low high) :
    isprint c = true ∧ isspace c = false := by
  obtain ⟨byte, -, digit⟩ := List.mem_flatMap.mp member
  exact hexPair_chars digit

/-- The text that is printed ends in a newline. -/
theorem serialNumber_eq (low high : UInt32) :
    serialNumber low high = serialDigits low high ++ ['\n'] := by
  have top : (high >>> 24).toNat < 256 := by
    have bound := high.toNat_lt
    rw [UInt32.toNat_shiftRight, Nat.shiftRight_eq_div_pow]
    simp
    omega
  rw [serialNumber, hex2_byte top, hex2_masked, hex2_masked, hex2_masked, hex2_masked, hex2_masked]
  rfl

/-- Its copy does not. -/
theorem serialNumber_copy (low high : UInt32) :
    saStrncpySafe 64 (serialNumber low high) 64 = serialDigits low high := by
  have length : (serialDigits low high ++ ['\n']).length = 13 := rfl
  have clean : ∀ c ∈ serialDigits low high ++ ['\n'], c ≠ '\x00' := by
    intro c member
    rcases List.mem_append.mp member with digit | newline
    · rintro rfl
      cases (serialDigits_chars digit).1
    · rw [List.mem_singleton.mp newline]
      decide
  have kept : ((serialDigits low high).map fun c =>
      if isprint c then c else if isspace c then ' ' else '.') = (serialDigits low high).map id :=
    List.map_congr_left fun c digit => if_pos (serialDigits_chars digit).1
  have whole : (serialDigits low high ++ ['\n']).take 64 = serialDigits low high ++ ['\n'] :=
    List.take_of_length_le (by omega)
  have blank : (if isprint '\n' then '\n' else if isspace '\n' then ' ' else '.') = ' ' := by decide
  rw [serialNumber_eq, saStrncpySafe, whole, cstr_of_clean clean, List.take_of_length_le (by omega),
    List.map_append, kept, List.map_id, List.map_singleton, blank,
    List.rdropWhile_concat_pos isspace _ ' ' rfl, List.rdropWhile_eq_self_iff]
  intro nonempty
  rw [(serialDigits_chars (List.getLast_mem nonempty)).2]
  exact Bool.false_ne_true

/-- The Device Serial Number capability the search comes to. -/
def SerialAt (dev : PciDevice) (o : UInt64) : Prop :=
  HasExpress dev ∧ Relation.ReflTransGen (NextExtended dev) firstExtended o ∧
    ∃ header, dev.cfgReadU32 o = some header ∧ header.toUInt16 = pciExtCapIdDsn

/-- Both dwords of the capability at `o`. -/
def SerialRead (dev : PciDevice) (o : UInt64) (low high : UInt32) : Prop :=
  SerialAt dev o ∧ dev.cfgReadU32 (o + 4) = some low ∧ dev.cfgReadU32 (o + 8) = some high

/-- A serial number is reported if one was read, and only then. -/
structure ReportsSerial (dev : PciDevice) (serial : CStr) : Prop where
  read : ∀ o low high, SerialRead dev o low high → serial = serialDigits low high
  unread : (¬ ∃ o low high, SerialRead dev o low high) → serial = "Unknown".toList

section

variable {dev : PciDevice}

theorem extendedRound_left {o : UInt64} :
    (∃ header, dev.cfgReadU32 o = some header ∧ header.toUInt16 = pciExtCapIdDsn) ↔
      extendedRound dev o = .done (some (serialNumber ((dev.cfgReadU32 (o + 4)).getD 0)
        ((dev.cfgReadU32 (o + 8)).getD 0))) := by
  unfold extendedRound
  cases dev.cfgReadU32 o with
  | none => simp
  | some header =>
      by_cases dsn : header.toUInt16 = pciExtCapIdDsn
      · simp [dsn]
      · simp only [ne_eq, dsn, not_false_eq_true, if_true, Option.some.injEq, exists_eq_left']
        refine iff_of_false id ?_
        split <;> nofun

/-- Only at such a capability does the search leave with a text. -/
theorem extendedRound_some {o : UInt64} {serial : CStr} (left : extendedRound dev o = .done (some serial)) :
    ∃ header, dev.cfgReadU32 o = some header ∧ header.toUInt16 = pciExtCapIdDsn := by
  unfold extendedRound at left
  cases read : dev.cfgReadU32 o with
  | none =>
      rw [read] at left
      cases left
  | some header =>
      refine ⟨header, rfl, ?_⟩
      by_contra other
      simp only [read, ne_eq, other, not_false_eq_true, if_true] at left
      split at left <;> cases left

theorem SerialAt.reaches {o : UInt64} (here : SerialAt dev o) :
    Reaches (extendedRound dev) firstExtended o := by
  rw [Reaches, extendedRound_goes]
  exact here.2.1

theorem SerialAt.unique {o o' : UInt64} (here : SerialAt dev o) (there : SerialAt dev o') : o = o' :=
  left_unique here.reaches (extendedRound_left.mp here.2.2) there.reaches
    (extendedRound_left.mp there.2.2)

/-- Without the PCI Express capability there is no serial number to be looked for. -/
theorem getDeviceSerialNumber_unexpressed
    (legacy : ∀ first, dev.capPtr = some first → ¬ Cyclic (NextCapability dev) first)
    (missing : ¬ HasExpress dev) : ∃ fuel, getDeviceSerialNumber dev fuel = some "Unknown".toList := by
  simp only [getDeviceSerialNumber]
  cases start : dev.capPtr with
  | none => exact ⟨0, rfl⟩
  | some first =>
      obtain ⟨found, fuel, searched⟩ := (capabilityRound_ends_iff dev first).mpr (legacy first start)
      cases found with
      | true => exact absurd ((hasExpress_iff dev).mpr ⟨first, start, fuel, searched⟩) missing
      | false =>
          refine ⟨fuel, ?_⟩
          dsimp only
          rw [searched]
          rfl

theorem getDeviceSerialNumber_express (express : HasExpress dev) {serial : Option CStr}
    (ends : EndsWith (extendedRound dev) firstExtended serial) :
    ∃ fuel, getDeviceSerialNumber dev fuel = some (serial.getD "Unknown") := by
  obtain ⟨first, start, fuel, searched⟩ := (hasExpress_iff dev).mp express
  obtain ⟨fuel', searched'⟩ := ends
  refine ⟨max fuel fuel', ?_⟩
  simp only [getDeviceSerialNumber, start]
  rw [runLoop_more searched (Nat.le_max_left ..), runLoop_more searched' (Nat.le_max_right ..)]
  rfl

/-- What is left in the string: the default, unless a capability is found; then whatever was
    read, and 0 for what was not. -/
theorem serialNumber_result
    (legacy : ∀ first, dev.capPtr = some first → ¬ Cyclic (NextCapability dev) first)
    (extended : ¬ Cyclic (NextExtended dev) firstExtended) :
    ∃ serial, (∃ fuel, getDeviceSerialNumber dev fuel = some serial) ∧
      ((serial = "Unknown".toList ∧ ¬ ∃ o, SerialAt dev o) ∨
        ∃ o, SerialAt dev o ∧ serial = serialNumber ((dev.cfgReadU32 (o + 4)).getD 0)
          ((dev.cfgReadU32 (o + 8)).getD 0)) := by
  by_cases express : HasExpress dev
  · obtain ⟨serial, ends⟩ := (extendedRound_ends_iff dev).mpr extended
    refine ⟨_, getDeviceSerialNumber_express express ends, ?_⟩
    cases serial with
    | none =>
        refine .inl ⟨rfl, ?_⟩
        rintro ⟨o, here⟩
        have found : EndsWith (extendedRound dev) firstExtended (some _) :=
          endsWith_iff.mpr ⟨o, here.reaches, extendedRound_left.mp here.2.2⟩
        cases ends.unique found
    | some serial =>
        obtain ⟨o, way, left⟩ := endsWith_iff.mp ends
        have dsn := extendedRound_some left
        rw [extendedRound_left.mp dsn] at left
        cases left
        rw [Reaches, extendedRound_goes] at way
        exact .inr ⟨o, ⟨express, way, dsn⟩, rfl⟩
  · refine ⟨_, getDeviceSerialNumber_unexpressed legacy express, .inl ⟨rfl, ?_⟩⟩
    rintro ⟨o, here⟩
    exact express here.1

theorem digits_ne_unknown (low high : UInt32) : serialDigits low high ≠ "Unknown".toList := by
  intro same
  have lengths := congrArg List.length same
  rw [serialDigits_length] at lengths
  exact absurd lengths (by decide)

/-- The text that is found reports what was read where both dwords can be read. -/
theorem copy_reports_iff {o : UInt64} (here : SerialAt dev o) :
    ReportsSerial dev (saStrncpySafe 64 (serialNumber ((dev.cfgReadU32 (o + 4)).getD 0)
        ((dev.cfgReadU32 (o + 8)).getD 0)) 64) ↔
      (dev.cfgReadU32 (o + 4)).isSome ∧ (dev.cfgReadU32 (o + 8)).isSome := by
  rw [serialNumber_copy]
  constructor
  · intro reports
    by_contra unread
    refine digits_ne_unknown _ _ (reports.unread ?_)
    rintro ⟨o', low, high, there, lowRead, highRead⟩
    cases there.unique here
    exact unread ⟨by rw [lowRead]; rfl, by rw [highRead]; rfl⟩
  · rintro ⟨lowRead, highRead⟩
    obtain ⟨low, lowRead⟩ := Option.isSome_iff_exists.mp lowRead
    obtain ⟨high, highRead⟩ := Option.isSome_iff_exists.mp highRead
    refine ⟨fun o' low' high' there => ?_, fun unread => absurd ⟨o, low, high, here, lowRead, highRead⟩ unread⟩
    obtain ⟨there, lowRead', highRead'⟩ := there
    cases there.unique here
    rw [lowRead', highRead']
    rfl

/-- Before it is copied the text is never one that should be reported. -/
theorem uncopied_reports (low high : UInt32) : ¬ ReportsSerial dev (serialNumber low high) := by
  intro reports
  have length : (serialNumber low high).length = 13 := by
    rw [serialNumber_eq]
    rfl
  by_cases read : ∃ o low high, SerialRead dev o low high
  · obtain ⟨o', low', high', there⟩ := read
    rw [reports.read o' low' high' there, serialDigits_length] at length
    exact absurd length (by decide)
  · rw [reports.unread read] at length
    exact absurd length (by decide)

end

/-- On acyclic lists the search ends.  A serial number is reported, up to the newline behind it
    that its copy loses, if one was read exactly when both dwords of a capability that is
    reached can be read; with the newline it is not the number itself. -/
theorem serialNumber_read_iff {dev : PciDevice}
    (legacy : ∀ first, dev.capPtr = some first → ¬ Cyclic (NextCapability dev) first)
    (extended : ¬ Cyclic (NextExtended dev) firstExtended) :
    ∃ serial, (∃ fuel, getDeviceSerialNumber dev fuel = some serial) ∧
      (ReportsSerial dev (saStrncpySafe 64 serial 64) ↔
        ∀ o, SerialAt dev o → (dev.cfgReadU32 (o + 4)).isSome ∧ (dev.cfgReadU32 (o + 8)).isSome) ∧
      (ReportsSerial dev serial ↔ ¬ ∃ o, SerialAt dev o) := by
  obtain ⟨serial, ran, ⟨unknown, none⟩ | ⟨o, here, text⟩⟩ := serialNumber_result legacy extended
  · have reports : ReportsSerial dev "Unknown".toList :=
      ⟨fun o low high there => absurd ⟨o, there.1⟩ none, fun _ => rfl⟩
    have copy : saStrncpySafe 64 "Unknown".toList 64 = "Unknown".toList := by decide
    subst unknown
    refine ⟨_, ran, ?_, iff_of_true reports none⟩
    rw [copy]
    exact iff_of_true reports fun o here => absurd ⟨o, here⟩ none
  · subst text
    refine ⟨_, ran, ?_, iff_of_false (uncopied_reports _ _) fun none => none ⟨o, here⟩⟩
    rw [copy_reports_iff here]
    constructor
    · intro read o' there
      rw [there.unique here]
      exact read
    · intro read
      exact read o here

/-- A device with a serial number whose low half may be unreadable. -/
def serialDevice (low : Option UInt32) : PciDevice where
  cfgReadU8 offset := if offset = 0x34 then some 0x40 else if offset = 0x40 then some 0x10 else none
  cfgReadU16 _ := some 0x10
  cfgReadU32 offset :=
    if offset = 0x100 then some 0x3 else if offset = 0x104 then low
    else if offset = 0x108 then some 0x11223344 else none

theorem serialDevice_acyclic (low : Option UInt32) :
    (∀ first, (serialDevice low).capPtr = some first →
      ¬ Cyclic (NextCapability (serialDevice low)) first) ∧
    ¬ Cyclic (NextExtended (serialDevice low)) firstExtended := by
  constructor
  · intro first start
    cases start
    exact (capabilityRound_ends_iff (serialDevice low) 0x40).mp ⟨true, 1, rfl⟩
  · exact (extendedRound_ends_iff (serialDevice low)).mp ⟨_, 1, rfl⟩

theorem serialNumber_readable :
    ∃ serial, (∃ fuel, getDeviceSerialNumber (serialDevice (some 0xaabbccdd)) fuel = some serial) ∧
      (ReportsSerial (serialDevice (some 0xaabbccdd)) (saStrncpySafe 64 serial 64) ↔
        ∀ o, SerialAt (serialDevice (some 0xaabbccdd)) o →
          ((serialDevice (some 0xaabbccdd)).cfgReadU32 (o + 4)).isSome ∧
            ((serialDevice (some 0xaabbccdd)).cfgReadU32 (o + 8)).isSome) ∧
      (ReportsSerial (serialDevice (some 0xaabbccdd)) serial ↔
        ¬ ∃ o, SerialAt (serialDevice (some 0xaabbccdd)) o) :=
  serialNumber_read_iff (serialDevice_acyclic _).1 (serialDevice_acyclic _).2

/-- A serial number is reported although its low half was not read. -/
theorem serialNumber_unreadable :
    getDeviceSerialNumber (serialDevice none) 1 = some "112233000000\n".toList ∧
      ¬ ReportsSerial (serialDevice none) "112233000000\n".toList ∧
      ¬ ReportsSerial (serialDevice none) "112233000000".toList := by
  have unread : ¬ ∃ o low high, SerialRead (serialDevice none) o low high := by
    rintro ⟨o, low, high, here, lowRead, -⟩
    have only : SerialAt (serialDevice none) firstExtended :=
      ⟨⟨0x40, 0x40, rfl, .refl, by decide, rfl⟩, .refl, 0x3, rfl, rfl⟩
    cases here.unique only
    cases lowRead
  refine ⟨by decide +kernel, fun reports => ?_, fun reports => ?_⟩
  · exact absurd (reports.unread unread) (by decide)
  · exact absurd (reports.unread unread) (by decide)

end Hbalinux
