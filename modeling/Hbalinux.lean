import Hbalinux.Adapt
import Hbalinux.AdapterInvariant
import Hbalinux.Attach
import Hbalinux.AttachInvariant
import Hbalinux.AttachOrder
import Hbalinux.Attachment
import Hbalinux.Bind
import Hbalinux.BindingRegisters
import Hbalinux.BindingSupport
import Hbalinux.C.Arena
import Hbalinux.C.BigEndian
import Hbalinux.C.Buffer
import Hbalinux.C.Census
import Hbalinux.C.Commute
import Hbalinux.C.Items
import Hbalinux.C.Loop
import Hbalinux.C.Memory
import Hbalinux.C.Numeral
import Hbalinux.C.NumeralSpec
import Hbalinux.C.Outcome
import Hbalinux.C.Paired
import Hbalinux.C.Scan
import Hbalinux.C.Text
import Hbalinux.ClaimMarks
import Hbalinux.ClassService
import Hbalinux.Classes
import Hbalinux.Designation
import Hbalinux.DevId
import Hbalinux.DeviceLayouts
import Hbalinux.DeviceNames
import Hbalinux.DirectorySpec
import Hbalinux.DiscoveredPorts
import Hbalinux.DriverName
import Hbalinux.Hbaapi
import Hbalinux.HeapSpec
import Hbalinux.HostDirectory
import Hbalinux.HostLinks
import Hbalinux.Inquiry
import Hbalinux.Isolation
import Hbalinux.Leaks
import Hbalinux.Library
import Hbalinux.Lookup
import Hbalinux.Lport
import Hbalinux.MappingSpec
import Hbalinux.Names
import Hbalinux.NetFormat
import Hbalinux.NetTypes
import Hbalinux.Numbers
import Hbalinux.OpenByWwn
import Hbalinux.OpenedDevices
import Hbalinux.Partition
import Hbalinux.PassThrough
import Hbalinux.Pci
import Hbalinux.PciLookup
import Hbalinux.Pool
import Hbalinux.PoolEffect
import Hbalinux.PortAttrByWwn
import Hbalinux.ProcessSpec
import Hbalinux.QueryEffect
import Hbalinux.Reload
import Hbalinux.RoundTrip
import Hbalinux.Rport
import Hbalinux.RportLoading
import Hbalinux.RportSpec
import Hbalinux.SafeCopy
import Hbalinux.ScanSpec
import Hbalinux.ScsiCommands
import Hbalinux.ScsiReports
import Hbalinux.SerialNumber
import Hbalinux.Session
import Hbalinux.SessionSpec
import Hbalinux.Speeds
import Hbalinux.State
import Hbalinux.Statistics
import Hbalinux.Sysfs
import Hbalinux.Table
import Hbalinux.TableRuns
import Hbalinux.TableSpec
import Hbalinux.TableViews
import Hbalinux.TargetMapping
import Hbalinux.Wants
