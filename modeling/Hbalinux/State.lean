import Hbalinux.C.Arena
import Hbalinux.Sysfs
import Hbalinux.Table

/-! # The state of the library and its surroundings

`Lib` is what the library keeps between calls: the two global tables and the heap
objects they lead to.  Adapters, local ports and remote ports live in arenas of
their own.  `Env` is what a call finds outside the library; nothing in it changes
during the call.
-/

namespace Hbalinux

abbrev Ptr := Nat

structure AdapterInfo where
  adIndex : UInt32
  adKernIndex : UInt32
  adName : Option CStr
  adPorts : SaTable Ptr
  adPortCount : UInt32
  adAttr : HbaAdapterAttributes
  deriving DecidableEq

structure PortInfo where
  apAdapt : Option Ptr
  apIndex : UInt32
  apDiscIndex : UInt32
  apScsiTarget : UInt32
  apKernHba : UInt32
  apRports : SaTable Ptr
  apAttr : HbaPortAttributes
  hostDir : CStr
  deriving DecidableEq

/-- The contents of a record after `memset` to zero. -/
def AdapterInfo.zero : AdapterInfo := ⟨0, 0, none, saTableInit, 0, .zero⟩

def PortInfo.zero : PortInfo := ⟨none, 0, 0, 0, 0, saTableInit, .zero, []⟩

structure Lib where
  adapterTable : SaTable Ptr
  rportsTable : SaTable Ptr
  adapters : Arena AdapterInfo
  lports : Arena PortInfo
  rports : Arena PortInfo

/-- A process before the first `LoadLibrary`. -/
def Lib.init : Lib := ⟨saTableInit, saTableInit, .empty, .empty, .empty⟩

/-- The local port at an address. -/
def Lib.port (lib : Lib) (pp : Ptr) : Outcome PortInfo := .demand .useAfterFree (lib.lports.get pp)

def Lib.rport (lib : Lib) (rp : Ptr) : Outcome PortInfo := .demand .useAfterFree (lib.rports.get rp)

def Lib.adapter (lib : Lib) (ap : Ptr) : Outcome AdapterInfo :=
  .demand .useAfterFree (lib.adapters.get ap)

/-- The places that ask for memory, with the directory entry or remote port they
    work on. -/
inductive AllocSite where
  | adapter (host : CStr)
  | port (host : CStr)
  | portSlot (host : CStr)
  | adapterName (host : CStr)
  | adapterSlot (host : CStr)
  | rport (name : CStr)
  | rportSlot (name : CStr)
  | discoveredSlot (rp : Ptr)
  deriving DecidableEq

/-- What the stack holds where `sysfs_scan` declares its variables. -/
structure Scratch where
  buf : List.Vector Char 256
  data : List.Vector UInt32 32
  wwnn : HbaWwn
  ifname : List.Vector Char 20

/-- What `sysfs_scan` and the PCI lookup exchange. -/
structure HbaInfo where
  domain : UInt32
  bus : UInt32
  dev : UInt32
  func : UInt32
  vendorId : UInt32
  subsystemVendorId : UInt32
  subsystemDeviceId : UInt32
  deviceId : UInt32
  deviceClass : UInt32
  manufacturer : CStr
  serialNumber : CStr
  modelDescription : CStr
  hardwareVersion : CStr
  numberOfPorts : UInt32
  deriving DecidableEq

def HbaInfo.zero : HbaInfo := ⟨0, 0, 0, 0, 0, 0, 0, 0, 0, [], [], [], [], 0⟩

structure Env where
  sysfs : Sysfs
  /-- Whether an allocation succeeds. -/
  mem : AllocSite → Bool
  /-- Uninitialised memory of `sysfs_scan`, by host entry. -/
  scratch : CStr → Scratch
  /-- Uninitialised line buffer of `sysfs_get_rport`, by remote port entry. -/
  rportScratch : CStr → List.Vector Char 256
  /-- The PCI library's answer to a filled-in slot address. -/
  findPciDevice : HbaInfo → HbaInfo
  /-- What an inquiry of a SCSI-generic device leaves in an identifier buffer. -/
  sgGetDevId : CStr → List UInt8 → List UInt8

def sysfsHostDir : CStr := "/sys/class/fc_host"
def sysfsHbaDir : CStr := "/sys/class/net"
def sysfsLunDir : CStr := "/sys/class/scsi_device"
def sysfsModule : CStr := "/driver/module"
def sysfsModuleVer : CStr := "driver/module/version"
def sysfsRportRoot : CStr := "/sys/class/fc_remote_ports"

end Hbalinux
