import Mathlib.Data.Vector.Basic
import Hbalinux.C.Text

/-! # The HBA-API types and constants the library fills in

Fixed character arrays are kept as the string they hold; the bound of each is
where it is written.
-/

namespace Hbalinux

/-- A string literal stands for its characters. -/
instance : Coe String CStr := ⟨String.toList⟩

abbrev HbaStatus := UInt32
abbrev HbaHandle := UInt32

def hbaHandleInvalid : HbaHandle := 0

def hbaStatusOk : HbaStatus := 0
def hbaStatusError : HbaStatus := 1
def hbaStatusErrorNotSupported : HbaStatus := 2
def hbaStatusErrorInvalidHandle : HbaStatus := 3
def hbaStatusErrorIllegalWwn : HbaStatus := 5
def hbaStatusErrorIllegalIndex : HbaStatus := 6
def hbaStatusErrorMoreData : HbaStatus := 7
def hbaStatusErrorAmbiguousWwn : HbaStatus := 16
def hbaStatusErrorIncapable : HbaStatus := 29

abbrev HbaWwn := List.Vector UInt8 8

def HbaWwn.zero : HbaWwn := List.Vector.replicate 8 0

abbrev HbaFc4types := List.Vector UInt8 32

def HbaFc4types.zero : HbaFc4types := List.Vector.replicate 32 0

structure HbaPortAttributes where
  nodeWwn : HbaWwn
  portWwn : HbaWwn
  portFcId : UInt32
  portType : UInt32
  portState : UInt32
  portSupportedClassofService : UInt32
  portSupportedFc4Types : HbaFc4types
  portActiveFc4Types : HbaFc4types
  portSymbolicName : CStr
  osDeviceName : CStr
  portSupportedSpeed : UInt32
  portSpeed : UInt32
  portMaxFrameSize : UInt32
  fabricName : HbaWwn
  numberofDiscoveredPorts : UInt32
  deriving DecidableEq

def HbaPortAttributes.zero : HbaPortAttributes where
  nodeWwn := .zero
  portWwn := .zero
  portFcId := 0
  portType := 0
  portState := 0
  portSupportedClassofService := 0
  portSupportedFc4Types := .zero
  portActiveFc4Types := .zero
  portSymbolicName := []
  osDeviceName := []
  portSupportedSpeed := 0
  portSpeed := 0
  portMaxFrameSize := 0
  fabricName := .zero
  numberofDiscoveredPorts := 0

structure HbaAdapterAttributes where
  manufacturer : CStr
  serialNumber : CStr
  model : CStr
  modelDescription : CStr
  nodeWwn : HbaWwn
  nodeSymbolicName : CStr
  hardwareVersion : CStr
  driverVersion : CStr
  optionROMVersion : CStr
  firmwareVersion : CStr
  vendorSpecificID : UInt32
  numberOfPorts : UInt32
  driverName : CStr
  deriving DecidableEq

def HbaAdapterAttributes.zero : HbaAdapterAttributes where
  manufacturer := []
  serialNumber := []
  model := []
  modelDescription := []
  nodeWwn := .zero
  nodeSymbolicName := []
  hardwareVersion := []
  driverVersion := []
  optionROMVersion := []
  firmwareVersion := []
  vendorSpecificID := 0
  numberOfPorts := 0
  driverName := []

structure HbaScsiId where
  osDeviceName : CStr
  scsiBusNumber : UInt32
  scsiTargetNumber : UInt32
  scsiOSLun : UInt32
  deriving DecidableEq

def HbaScsiId.zero : HbaScsiId := ⟨[], 0, 0, 0⟩

structure HbaFcpId where
  fcId : UInt32
  nodeWwn : HbaWwn
  portWwn : HbaWwn
  fcpLun : UInt64
  deriving DecidableEq

def HbaFcpId.zero : HbaFcpId := ⟨0, .zero, .zero, 0⟩

structure HbaFcpScsiEntry where
  scsiId : HbaScsiId
  fcpId : HbaFcpId
  deriving DecidableEq

def HbaFcpScsiEntry.zero : HbaFcpScsiEntry := ⟨.zero, .zero⟩

def hbaLuidSize : Nat := 256

/-- A version 2 entry is a version 1 entry followed by the LUN identifier. -/
structure HbaFcpScsiEntryV2 extends HbaFcpScsiEntry where
  luid : List UInt8
  deriving DecidableEq

def HbaFcpScsiEntryV2.zero : HbaFcpScsiEntryV2 := ⟨.zero, List.replicate hbaLuidSize 0⟩

/-- The caller's buffer: `numberOfEntries` is its capacity on the way in and the
    number of mappings on the way out. -/
structure HbaFcpTargetMapping (entry : Type) where
  numberOfEntries : UInt32
  entry : List entry
  deriving DecidableEq

end Hbalinux
