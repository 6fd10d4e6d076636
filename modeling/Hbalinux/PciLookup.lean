import Hbalinux.DriverName
import Hbalinux.HostDirectory
import Hbalinux.HostLinks
import Hbalinux.SerialNumber

/-! # The hardware of an adapter

`find_pci_device` goes through the PCI devices with an address and describes each of them in the
same structure, so the description in the end is that of the last one.  `sysfs_scan` copies it
into the attributes of the adapter.
-/

namespace Hbalinux

open Outcome

/-! ## `pci.c` -/

/-- A device as the PCI library knows it. -/
structure PciCard where
  domain : UInt32
  bus : UInt32
  dev : UInt32
  func : UInt32
  vendorName : Option CStr
  deviceName : Option CStr
  config : PciDevice

/-- The PCI library: whether it can be initialised, and the devices in the order of its iterators. -/
structure PciSystem where
  init : Bool
  cards : List PciCard

def pciMatchAny : UInt32 := 0xffffffff
def pciRevisionId : UInt64 := 0x08

/-- The library's test for a slot. -/
def HbaInfo.slotMatch (info : HbaInfo) (card : PciCard) : Bool :=
  (info.domain = pciMatchAny ∨ info.domain = card.domain) ∧
    (info.bus = pciMatchAny ∨ info.bus = card.bus) ∧
    (info.dev = pciMatchAny ∨ info.dev = card.dev) ∧
    (info.func = pciMatchAny ∨ info.func = card.func)

/-- `"%02x"` -/
def revisionText (v : UInt8) : CStr :=
  let digits := Nat.toDigits 16 v.toNat
  List.replicate (2 - digits.length) '0' ++ digits

/-- `scratch` is what `revision` holds before it is read.  `none` when the search for the serial
    number goes on for more than `fuel` rounds. -/
def getPciDeviceInfo (fuel : Nat) (scratch : UInt8) (card : PciCard) (info : HbaInfo) :
    Option HbaInfo := do
  let revision := (card.config.cfgReadU8 pciRevisionId).getD scratch
  let serial ← getDeviceSerialNumber card.config fuel
  some { info with
    manufacturer := saStrncpySafe 64 (card.vendorName.getD "Unknown".toList) 64
    modelDescription := saStrncpySafe 256 (card.deviceName.getD "Unknown".toList) 256
    hardwareVersion := snprintf 256 (revisionText revision)
    numberOfPorts := 1
    serialNumber := serial }

/-- The address is compared as it was at first. -/
def findPciDevice (pci : PciSystem) (scratch : PciCard → UInt8) (fuel : Nat) (info : HbaInfo) :
    Option (HbaStatus × HbaInfo) :=
  if pci.init = false then some (hbaStatusError, info)
  else do
    let found ← (pci.cards.filter info.slotMatch).foldlM
      (fun info card => getPciDeviceInfo fuel (scratch card) card info) info
    some (hbaStatusOk, found)

/-! ## The device that is described -/

/-- The devices at an address. -/
def PciSystem.slot (pci : PciSystem) (info : HbaInfo) : List PciCard :=
  if pci.init then pci.cards.filter info.slotMatch else []

/-- The attributes that tell of the hardware. -/
structure Hardware where
  manufacturer : CStr
  serialNumber : CStr
  modelDescription : CStr
  hardwareVersion : CStr
  numberOfPorts : UInt32
  deriving DecidableEq

/-- No device has been found. -/
def Hardware.unknown : Hardware := ⟨[], [], [], [], 0⟩

/-- The PCI lookups of the library are those of `find_pci_device`. -/
def Env.LooksUp (env : Env) (pci : PciSystem) (scratch : PciCard → UInt8) : Prop :=
  ∀ info, ∃ fuel status, Hbalinux.findPciDevice pci scratch fuel info = some (status, env.findPciDevice info)

section Load

variable {env env' : Env} {lib later : Lib} {queries : List Query} {replies : List Reply}
  {pci : PciSystem} {scratch : PciCard → UInt8} (mem : ∀ site, env.mem site = true)
  (few : (hosts env).length < 2 ^ 31) (loaded : loadLibrary env .init = .ok lib)
  (asked : asks env' queries lib = .ok (replies, later)) (looks : env.LooksUp pci scratch)
include mem few loaded asked looks

end Load

end Hbalinux
