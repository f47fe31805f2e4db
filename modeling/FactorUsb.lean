import FactorUsb.Calls.CallTree
import FactorUsb.Calls.Session
import FactorUsb.Calls.Fleet
import FactorUsb.Calls.History
import FactorUsb.Calls.Wp
import FactorUsb.Calls.Loop
import FactorUsb.Calls.Footprint
import FactorUsb.Calls.Monitor
import FactorUsb.Calls.Replay
import FactorUsb.Calls.Joint
import FactorUsb.Calls.Isolation
import FactorUsb.Utf16
import FactorUsb.Hid.Win32
import FactorUsb.Hid.Device
import FactorUsb.Hid.Outcome
import FactorUsb.Hid.PendingFlag
import FactorUsb.Hid.HandleOwnership
import FactorUsb.Hid.HandleUse
import FactorUsb.Hid.CRoutines
import FactorUsb.Hid.Polling
import FactorUsb.Hid.SharedOverlapped
import FactorUsb.Hid.Interfaces
import FactorUsb.Hid.Enumerate
import FactorUsb.Hid.FindDevices
import FactorUsb.Hid.ScanAgreement
import FactorUsb.Hid.ScanTraces
import FactorUsb.Hid.ScanReplay
import FactorUsb.Hid.HandleClosing
import FactorUsb.Hid.PreparsedData
import FactorUsb.Hid.ReportBuffers
import FactorUsb.Hid.ReachableTuples
import FactorUsb.Hid.ProductName
import FactorUsb.Hid.Visits
import FactorUsb.Hid.Library
import FactorUsb.Hid.LibraryHandles
import FactorUsb.Hid.LibraryTransfers
import FactorUsb.Hid.LibraryIsolation
import FactorUsb.Hid.LibraryFlags
import FactorUsb.Usb.Libusb
import FactorUsb.Usb.UsbTest
import FactorUsb.Usb.DeviceList
import FactorUsb.Usb.Words
import FactorUsb.Usb.Context
import FactorUsb.Usb.DeviceUse
import FactorUsb.Packing
import FactorUsb.Linux.KernelVersion
