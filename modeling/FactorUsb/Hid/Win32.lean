import FactorUsb.Calls.CallTree
import Mathlib.Data.Int.Notation

/-!
# The Win32 functions the HID words call

Each constructor of `Win32Call` is one foreign function of the HID vocabulary with the
arguments the words pass it, and `Win32Reply` is what the words can see of its outcome:
the returned value and whatever the function stored through a pointer argument. A failing
`BOOL` function also leaves a last-error code, which only `GetLastError` reveals.

The environment is otherwise unconstrained. `win32` fixes two facts about it: after a
failing call `GetLastError` answers that call's code, and every `OVERLAPPED <struct>`
yields a block that was not handed out before.
-/

namespace FactorUsb.Hid

open FactorUsb.Calls

/-- A handle as `CreateFile` returns it; a slot or argument that may be `f`
is an `Option Handle`. -/
inductive Handle where
  | invalidHandleValue
  | handle (value : ℕ)
  deriving DecidableEq, Repr, Inhabited

/-- The text behind a `DevicePath` field. -/
abbrev DevicePath := String

/-- The address of a `DWORD` cell that receives a transfer count. -/
abbrev OutCell := ℕ

/-- A Factor byte array handed to the system; its contents change behind the program's back. -/
structure ReportBuffer where
  byteLength : ℕ
  deriving DecidableEq, Repr

/-- A freshly allocated byte array of `n` bytes. -/
def byteArray (n : ℕ) : ReportBuffer := ⟨n⟩

/-- The `byte-length` word, which is zero on `f`. -/
def byteLength (buffer : Option ReportBuffer) : ℕ := buffer.elim 0 ReportBuffer.byteLength

/-- The identity of one allocated `OVERLAPPED` block. -/
structure Overlapped where
  block : ℕ
  deriving DecidableEq, Repr, Inhabited

/-- An `SP_DEVICE_INTERFACE_DETAIL_DATA_W` laid over a byte array of `memory` bytes. -/
structure DevDetail where
  memory : ℕ
  cbSize : ℕ
  devicePath : DevicePath
  deriving DecidableEq, Repr

/-- The fields of `HIDD_ATTRIBUTES` the words read. -/
structure HiddAttributes where
  vendorID : ℕ
  productID : ℕ
  deriving DecidableEq, Repr

/-- The fields of `HIDP_CAPS` the words read. -/
structure HidpCaps where
  usagePage : ℕ
  usage : ℕ
  inputReportByteLength : ℕ
  outputReportByteLength : ℕ
  featureReportByteLength : ℕ
  deriving DecidableEq, Repr, Inhabited

/-- The outcome of a `BOOL` function: its value, and the code it leaves if that value is zero. -/
structure BoolReply where
  value : ℤ
  error : ℕ
  deriving DecidableEq, Repr, Inhabited

/-- The outcome of `SetupDiEnumDeviceInterfaces`, with the element stored in `devdata`. -/
structure EnumReply where
  value : ℤ
  devdata : ℕ
  deriving Inhabited

/-- The outcome of `SetupDiGetDeviceInterfaceDetail`: the
length cell's new contents, if stored, and the path. -/
structure DetailReply where
  value : ℤ
  length : Option ℕ
  devicePath : DevicePath
  deriving Inhabited

/-- The outcome of `HidD_GetAttributes`, with the attributes it wrote, if any. -/
structure AttributesReply where
  value : ℤ
  attributes : Option HiddAttributes
  deriving Inhabited

/-- The outcome of `HidD_GetPreparsedData`, with the address stored in the eight-byte buffer. -/
structure PreparsedReply where
  value : ℤ
  preparsedData : BitVec 64
  deriving Inhabited

/-- The outcome of `HidP_GetCaps`, with the capabilities it stored. -/
structure CapsReply where
  status : ℤ
  capabilities : HidpCaps
  deriving Inhabited

def genericRead : ℕ := 0x80000000
def genericWrite : ℕ := 0x40000000
def fileShareRead : ℕ := 0x1
def fileShareWrite : ℕ := 0x2
def openExisting : ℕ := 3
def fileFlagOverlapped : ℕ := 0x40000000
def digcfPresent : ℕ := 0x2
def digcfDeviceInterface : ℕ := 0x10
def hidpStatusSuccess : ℤ := 0x00110000
def errorIoIncomplete : ℕ := 996
def errorIoPending : ℕ := 997

/-- Calls leaving the Factor image: the Win32 functions, and
the allocation of an `OVERLAPPED` block. -/
inductive Win32Call where
  | hidDGetHidGuid
  | setupDiGetClassDevs (hidguid flags : ℕ)
  | setupDiEnumDeviceInterfaces (devinfo hidguid index : ℕ)
  | setupDiGetDeviceInterfaceDetail (devinfo devdata : ℕ) (devdetail : Option DevDetail) (sz : ℕ)
  | setupDiDestroyDeviceInfoList (devinfo : ℕ)
  | createFile (path : DevicePath) (access share disposition flags : ℕ)
  | closeHandle (handle : Option Handle)
  | cancelIo (handle : Option Handle)
  | readFile (handle : Option Handle) (buffer : Option ReportBuffer) (sz : ℕ) (cnt : OutCell)
      (overlapped : Option Overlapped)
  | writeFile (handle : Option Handle) (buffer : Option ReportBuffer) (sz : ℕ) (cnt : OutCell)
      (overlapped : Option Overlapped)
  | getOverlappedResult (handle : Option Handle) (overlapped : Option Overlapped) (cnt : OutCell)
      (wait : ℕ)
  | getLastError
  | newOverlapped
  | hidDGetAttributes (handle : Option Handle)
  | hidDGetPreparsedData (handle : Option Handle)
  | hidPGetCaps (preparsedData : BitVec 64)
  | hidDFreePreparsedData (preparsedData : BitVec 64)
  deriving DecidableEq

/-- What the caller of each function can see of its outcome. -/
@[reducible] def Win32Reply : Win32Call → Type
  | .hidDGetHidGuid => ℕ
  | .setupDiGetClassDevs .. => ℕ
  | .setupDiEnumDeviceInterfaces .. => EnumReply
  | .setupDiGetDeviceInterfaceDetail .. => DetailReply
  | .setupDiDestroyDeviceInfoList _ => ℤ
  | .createFile .. => Handle
  | .closeHandle _ | .cancelIo _ | .readFile .. | .writeFile ..
  | .getOverlappedResult .. => BoolReply
  | .getLastError => ℕ
  | .newOverlapped => Overlapped
  | .hidDGetAttributes _ => AttributesReply
  | .hidDGetPreparsedData _ => PreparsedReply
  | .hidPGetCaps _ => CapsReply
  | .hidDFreePreparsedData _ => ℤ

/-- A Win32 call and its outcome. -/
abbrev Win32Event := CallEvent Win32Call Win32Reply

/-- A strategy deciding the outcome of every Win32 call from the history. -/
abbrev Win32Environment := Environment Win32Call Win32Reply

/-- A program over the Win32 functions. -/
abbrev Win32Program := CallTree Win32Call Win32Reply

/-- Call one Win32 function. -/
abbrev win32Call (c : Win32Call) : Win32Program (Win32Reply c) := ask c

/-- The outcome of an event whose function is one of the `BOOL` functions used in a session. -/
def boolReply : Win32Event → Option BoolReply
  | ⟨.closeHandle _, reply⟩ | ⟨.cancelIo _, reply⟩ | ⟨.readFile .., reply⟩ | ⟨.writeFile .., reply⟩
  | ⟨.getOverlappedResult .., reply⟩ => some reply
  | _ => none

/-- The last-error code a failing call leaves behind. -/
def failureCode (e : Win32Event) : Option ℕ :=
  (boolReply e).bind fun reply => if reply.value = 0 then some reply.error else none

/-- The handle a `CreateFile` event returned. -/
@[simp] def createdHandle : Win32Event → Option Handle
  | ⟨.createFile .., handle⟩ => some handle
  | _ => none

/-- The outcome of a `CancelIo` event. -/
@[simp] def cancelReply : Win32Event → Option BoolReply
  | ⟨.cancelIo _, reply⟩ => some reply
  | _ => none

/-- The allocation of an `OVERLAPPED` block. -/
def allocatesOverlapped : Win32Event → Bool
  | ⟨.newOverlapped, _⟩ => true
  | _ => false

/-- The environment with `GetLastError` tied to the failing call before it and fresh blocks. -/
def win32 (os : Win32Environment) : Win32Environment := fun past c =>
  match c with
  | .getLastError => (past.getLast?.bind failureCode).getD (os past .getLastError)
  | .newOverlapped => ⟨(past.filter allocatesOverlapped).length⟩
  | c => os past c

/-- Every `BOOL` function answers 0 or 1. -/
def BoolResults (os : Win32Environment) : Prop :=
  ∀ past c reply, boolReply ⟨c, os past c⟩ = some reply → reply.value = 0 ∨ reply.value = 1

/-- A `BOOL` function that did not answer 1 answered 0. -/
theorem BoolResults.eq_zero {os : Win32Environment} (hbool : BoolResults os)
    {past : List Win32Event} (c : Win32Call) {reply : BoolReply}
    (h : boolReply ⟨c, os past c⟩ = some reply) (hvalue : reply.value ≠ 1) : reply.value = 0 :=
  (hbool past c reply h).resolve_right hvalue

/-- An environment giving all calls of one session function the same
outcome, with no HID present. -/
def steadyOs (created : Handle) (read written polled cancelled closed : BoolReply) :
    Win32Environment :=
  fun _ c =>
    match c with
    | .hidDGetHidGuid => (0 : ℕ)
    | .setupDiGetClassDevs .. => (0 : ℕ)
    | .setupDiEnumDeviceInterfaces .. => ⟨0, 0⟩
    | .setupDiGetDeviceInterfaceDetail .. => ⟨0, none, ""⟩
    | .setupDiDestroyDeviceInfoList _ => (1 : ℤ)
    | .createFile .. => created
    | .closeHandle _ => closed
    | .cancelIo _ => cancelled
    | .readFile .. => read
    | .writeFile .. => written
    | .getOverlappedResult .. => polled
    | .getLastError => (0 : ℕ)
    | .newOverlapped => ⟨0⟩
    | .hidDGetAttributes _ => ⟨0, none⟩
    | .hidDGetPreparsedData _ => ⟨0, 0⟩
    | .hidPGetCaps _ => ⟨0, ⟨0, 0, 0, 0, 0⟩⟩
    | .hidDFreePreparsedData _ => (0 : ℤ)

/-- Steady outcomes of 0 or 1 give the environment `BOOL` results of 0 or 1. -/
theorem steadyOs_boolResults (created : Handle) (read written polled cancelled closed : BoolReply)
    (h : ∀ reply ∈ [read, written, polled, cancelled, closed], reply.value = 0 ∨ reply.value = 1) :
    BoolResults (steadyOs created read written polled cancelled closed) := by
  intro past c reply hreply
  apply h
  cases c <;> simp [boolReply, steadyOs] at hreply ⊢ <;> simp [hreply]

variable (os : Win32Environment) (past : List Win32Event)

/-- Directly after an event, `GetLastError` reports its failure code if it failed. -/
@[simp] theorem win32_getLastError_append (e : Win32Event) :
    win32 os (past ++ [e]) .getLastError =
      (failureCode e).getD (os (past ++ [e]) .getLastError) := by
  simp [win32]

@[simp] theorem win32_createFile (path : DevicePath) (access share disposition flags : ℕ) :
    win32 os past (.createFile path access share disposition flags) =
      os past (.createFile path access share disposition flags) := rfl

@[simp] theorem win32_closeHandle (handle : Option Handle) :
    win32 os past (.closeHandle handle) = os past (.closeHandle handle) := rfl

@[simp] theorem win32_cancelIo (handle : Option Handle) :
    win32 os past (.cancelIo handle) = os past (.cancelIo handle) := rfl

@[simp] theorem win32_readFile (handle : Option Handle) (buffer : Option ReportBuffer) (sz : ℕ)
    (cnt : OutCell) (overlapped : Option Overlapped) :
    win32 os past (.readFile handle buffer sz cnt overlapped) =
      os past (.readFile handle buffer sz cnt overlapped) := rfl

@[simp] theorem win32_writeFile (handle : Option Handle) (buffer : Option ReportBuffer) (sz : ℕ)
    (cnt : OutCell) (overlapped : Option Overlapped) :
    win32 os past (.writeFile handle buffer sz cnt overlapped) =
      os past (.writeFile handle buffer sz cnt overlapped) := rfl

@[simp] theorem win32_getOverlappedResult (handle : Option Handle) (overlapped : Option Overlapped)
    (cnt : OutCell) (wait : ℕ) :
    win32 os past (.getOverlappedResult handle overlapped cnt wait) =
      os past (.getOverlappedResult handle overlapped cnt wait) := rfl

end FactorUsb.Hid
