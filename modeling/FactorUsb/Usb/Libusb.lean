import FactorUsb.Calls.Footprint
import FactorUsb.Calls.History
import Mathlib.Algebra.Group.Int.Defs
import Mathlib.Data.Int.Notation

/-!
# The libusb functions the USB words call

Each constructor of `LibusbCall` is one libusb function with the arguments the words pass
it, or a read of foreign memory, and `LibusbReply` is what the words can see of its outcome.

The words make no call in a loop, so an assignment of results is one record. It answers
each call, and a second claim or a second query of the kernel driver by a result of its
own. A query that does not fail reports the driver, which only a successful detach or
attach changes.
-/

namespace FactorUsb.Usb

open FactorUsb.Calls

/-- A device handle. -/
abbrev Device := ℕ

/-- A pointer argument: a Factor byte array, which is passed by its own address, or an address. -/
inductive Pointer where
  | byteArray
  | alien (address : BitVec 64)
  deriving DecidableEq

/-- A Factor value as far as the words test it. -/
inductive Value where
  | f
  | integer (n : ℤ)
  deriving DecidableEq

/-- Every value but `f` counts as true. -/
def Value.isTrue (value : Value) : Bool := value ≠ .f

/-- The outcome of `libusb_get_config_descriptor`, with the address it stored. -/
structure ConfigReply where
  result : ℤ
  descriptor : BitVec 64
  deriving DecidableEq, Inhabited

/-- The outcome of `libusb_get_device_list`, with the address it stored. -/
structure DeviceListReply where
  result : ℤ
  list : BitVec 64
  deriving DecidableEq, Inhabited

/-- `LIBUSB_SUCCESS`. -/
def libusbSuccess : ℤ := 0

/-- The size of a cell in bytes. -/
def cell : ℤ := 8

/-- Calls leaving the Factor image: the libusb functions, and reads of foreign memory. -/
inductive LibusbCall where
  | libusbInit
  | libusbExit
  | libusbOpenDeviceWithVidPid (vid pid : ℕ)
  | libusbClose (dev : Option Device)
  | libusbKernelDriverActive (dev : Device) (interface : ℕ)
  | libusbDetachKernelDriver (dev : Device) (interface : ℕ)
  | libusbAttachKernelDriver (dev : Device) (interface : ℕ)
  | libusbClaimInterface (dev : Device) (interface : ℕ)
  | libusbReleaseInterface (dev : Device) (interface : ℕ)
  | libusbSetInterfaceAltSetting (dev : Device) (interface setting : ℕ)
  | libusbGetDevice (dev : Device)
  | libusbGetConfigDescriptor (device index : ℕ)
  | libusbFreeConfigDescriptor (descriptor : BitVec 64)
  | libusbControlTransfer (dev : Device) (requestType request value index length timeout : ℕ)
  | libusbGetDeviceList
  | libusbFreeDeviceList (list : Pointer) (unref : ℕ)
  | memoryToStruct (address : BitVec 64)
  | memoryToByteArray (address : BitVec 64) (length : ℤ)
  deriving DecidableEq

/-- What the caller of each function can see of its outcome. -/
@[reducible] def LibusbReply : LibusbCall → Type
  | .libusbInit => ℤ
  | .libusbOpenDeviceWithVidPid .. => Option Device
  | .libusbKernelDriverActive .. | .libusbDetachKernelDriver .. | .libusbAttachKernelDriver ..
  | .libusbClaimInterface .. | .libusbReleaseInterface .. | .libusbSetInterfaceAltSetting ..
  | .libusbControlTransfer .. => ℤ
  | .libusbGetDevice _ => ℕ
  | .libusbGetConfigDescriptor .. => ConfigReply
  | .libusbGetDeviceList => DeviceListReply
  | .libusbExit | .libusbClose _ | .libusbFreeConfigDescriptor _ | .libusbFreeDeviceList ..
  | .memoryToStruct _ | .memoryToByteArray .. => Unit

/-- A libusb call and its outcome. -/
abbrev LibusbEvent := CallEvent LibusbCall LibusbReply

/-- A strategy deciding the outcome of every call from the history. -/
abbrev LibusbEnvironment := Environment LibusbCall LibusbReply

/-- A program over the libusb functions. -/
abbrev LibusbProgram := CallTree LibusbCall LibusbReply

/-- Call one libusb function. -/
abbrev libusbCall (c : LibusbCall) : LibusbProgram (LibusbReply c) := ask c

/-- `int deref <alien>`: the address read back as a signed 32-bit number. -/
def intDerefAlien (stored : BitVec 64) : BitVec 64 := (stored.setWidth 32).signExtend 64

/-- The address read back is the one stored exactly when it is a signed 32-bit number. -/
theorem intDerefAlien_eq_self_iff (stored : BitVec 64) :
    intDerefAlien stored = stored ↔ -2 ^ 31 ≤ stored.toInt ∧ stored.toInt < 2 ^ 31 := by
  rw [intDerefAlien, ← BitVec.toInt_inj, BitVec.toInt_signExtend_of_le (by decide),
    BitVec.toInt_setWidth,
    BitVec.toInt_eq_toNat_bmod]
  simp only [Int.bmod_def]
  omega

/-- An assignment of results to the calls. A query of the kernel driver fails with a negative result
and otherwise reports the driver, so its value counts only if it is negative. -/
structure LibusbResults where
  init : ℤ
  device : Option Device
  driverActive : ℤ
  detach : ℤ
  claim : ℤ
  setAltSetting : ℤ
  claimAgain : ℤ
  getDevice : ℕ
  configDescriptor : ConfigReply
  controlTransfer : ℤ
  release : ℤ
  driverActiveAgain : ℤ
  attach : ℤ
  deviceList : DeviceListReply

/-- No call fails. -/
def successResults : LibusbResults where
  init := 0
  device := some 1
  driverActive := 0
  detach := 0
  claim := 0
  setAltSetting := 0
  claimAgain := 0
  getDevice := 2
  configDescriptor := ⟨0, 0x7f0000001000⟩
  controlTransfer := 1
  release := 0
  driverActiveAgain := 0
  attach := 0
  deviceList := ⟨1, 0x7f0000002000⟩

/-- The result of a claim. -/
def claimResult : LibusbEvent → Option ℤ
  | ⟨.libusbClaimInterface .., result⟩ => some result
  | _ => none

/-- The result of a query of the kernel driver. -/
def driverResult : LibusbEvent → Option ℤ
  | ⟨.libusbKernelDriverActive .., result⟩ => some result
  | _ => none

/-- The result of detaching the kernel driver. -/
def detachResult : LibusbEvent → Option ℤ
  | ⟨.libusbDetachKernelDriver .., result⟩ => some result
  | _ => none

/-- The result of attaching the kernel driver. -/
def attachResult : LibusbEvent → Option ℤ
  | ⟨.libusbAttachKernelDriver .., result⟩ => some result
  | _ => none

/-- Whether the driver is attached after one more event. -/
def driverAfter (attached : Bool) (e : LibusbEvent) : Bool :=
  if detachResult e = some libusbSuccess then false
  else if attachResult e = some libusbSuccess then true
  else attached

/-- Whether the driver is attached after a history, if it was as given before it. -/
def driverAttached (attached : Bool) (history : List LibusbEvent) : Bool :=
  history.foldl driverAfter attached

/-- The answer to a query of the kernel driver. -/
def driverReport (attached : Bool) (result : ℤ) : ℤ :=
  if result < 0 then result else if attached then 1 else 0

/-- The environment that gives the assigned results, with the kernel driver initially as given. -/
def libusb (attached : Bool) (r : LibusbResults) : LibusbEnvironment := fun past c =>
  match c with
  | .libusbInit => r.init
  | .libusbOpenDeviceWithVidPid .. => r.device
  | .libusbKernelDriverActive .. =>
    driverReport (driverAttached attached past)
      (if past.any fun e => (driverResult e).isSome then r.driverActiveAgain else r.driverActive)
  | .libusbDetachKernelDriver .. => r.detach
  | .libusbAttachKernelDriver .. => r.attach
  | .libusbClaimInterface .. =>
    if past.any fun e => (claimResult e).isSome then r.claimAgain else r.claim
  | .libusbReleaseInterface .. => r.release
  | .libusbSetInterfaceAltSetting .. => r.setAltSetting
  | .libusbGetDevice _ => r.getDevice
  | .libusbGetConfigDescriptor .. => r.configDescriptor
  | .libusbControlTransfer .. => r.controlTransfer
  | .libusbGetDeviceList => r.deviceList
  | .libusbExit | .libusbClose _ | .libusbFreeConfigDescriptor _ | .libusbFreeDeviceList ..
  | .memoryToStruct _ | .memoryToByteArray .. => ()

end FactorUsb.Usb
