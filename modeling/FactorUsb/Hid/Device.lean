import FactorUsb.Hid.Win32

/-!
# The selected device and its session words

An `hds` tuple carries everything a session needs: the detail structure naming the
device, its report sizes and buffers, the open handle, the overlapped block and the
flag of a pending read. The four session words are transcribed branch by branch; the
tuple they update is threaded explicitly.

`f` in a slot is `none`. A Factor error thrown by a word is a result of its own, with
the tuple as it was when the error was thrown.
-/

namespace FactorUsb.Hid

open FactorUsb.Calls

/-- The `hds` tuple. -/
structure Hds where
  devdetail : Option DevDetail
  outputreport : Option ReportBuffer
  outputreportsz : ℕ
  inputreport : Option ReportBuffer
  inputreportsz : ℕ
  detaildatasz : ℕ
  featurereport : Option ReportBuffer
  featurereportsz : ℕ
  devhandle : Option Handle
  devoverlapped : Option Overlapped
  devreadpending : Bool
  count : Option ℕ
  deriving DecidableEq, Repr

/-- `<hds>`: every slot cleared. -/
def newHds : Hds where
  devdetail := none
  devhandle := none
  outputreport := none
  outputreportsz := 0
  inputreport := none
  inputreportsz := 0
  detaildatasz := 0
  featurereport := none
  featurereportsz := 0
  devreadpending := false
  devoverlapped := none
  count := none

/-- A tuple made by `<hds>` whose detail, sizes and count have been set. -/
def preparedHds (devdetail : DevDetail)
    (detaildatasz inputreportsz outputreportsz featurereportsz : ℕ) (count : Option ℕ) : Hds :=
  { newHds with
    devdetail := some devdetail
    detaildatasz := detaildatasz
    inputreportsz := inputreportsz
    outputreportsz := outputreportsz
    featurereportsz := featurereportsz
    count := count }

/-- The Factor errors a word can throw. -/
inductive FactorError where
  | noMethod
  deriving DecidableEq, Repr

/-- A session word: its result, and the tuple as it leaves it. -/
abbrev HidWord := Win32Program (Except FactorError Bool × Hds)

/-- The `CreateFile` call of `hid-open`, for overlapped reading and writing. -/
abbrev openCall (devdetail : DevDetail) : Win32Call :=
  .createFile devdetail.devicePath (genericRead ||| genericWrite) (fileShareRead ||| fileShareWrite)
    openExisting fileFlagOverlapped

/-- `hid-open`: open the device and allocate its overlapped block and report buffers. -/
def hidOpen (hds : Hds) : HidWord :=
  match hds.devdetail with
  | none => pure (.error .noMethod, hds)
  | some devdetail => do
    let handle : Handle ← win32Call (openCall devdetail)
    let hds := { hds with devhandle := some handle }
    if handle ≠ .invalidHandleValue then
      let overlapped ← win32Call .newOverlapped
      pure (.ok true, { hds with
        devoverlapped := some overlapped
        inputreport := some (byteArray hds.inputreportsz)
        outputreport := some (byteArray hds.outputreportsz)
        featurereport := some (byteArray hds.featurereportsz) })
    else pure (.ok false, hds)

/-- `hid-close`: cancel the handle's transfers and, if that succeeds, close it. -/
def hidClose (hds : Hds) : HidWord :=
  match hds.devhandle with
  | none => pure (.ok false, hds)
  | some handle => do
    let cancelled ← win32Call (.cancelIo (some handle))
    if cancelled.value = 1 then
      let hds := { hds with devreadpending := false }
      if handle ≠ .invalidHandleValue then
        let _ ← win32Call (.closeHandle (some handle))
        pure (.ok true, { hds with devhandle := none })
      else pure (.ok false, hds)
    else pure (.ok false, hds)

/-- The `ReadFile` call of `hid-read`. -/
abbrev readCall (hds : Hds) (cnt : OutCell) : Win32Call :=
  .readFile hds.devhandle hds.inputreport (byteLength hds.inputreport) cnt hds.devoverlapped

/-- The `GetOverlappedResult` call of `hid-read`, which does not wait. -/
abbrev overlappedCall (hds : Hds) (cnt : OutCell) : Win32Call :=
  .getOverlappedResult hds.devhandle hds.devoverlapped cnt 0

/-- The `WriteFile` call of `hid-write`. -/
abbrev writeCall (hds : Hds) (cnt : OutCell) : Win32Call :=
  .writeFile hds.devhandle hds.outputreport (byteLength hds.outputreport) cnt hds.devoverlapped

/-- The two error codes after which a read is still on its way. -/
def IsWaitingError (error : ℕ) : Prop := error = errorIoIncomplete ∨ error = errorIoPending

instance : DecidablePred IsWaitingError := fun _ => inferInstanceAs (Decidable (_ ∨ _))

/-- The first half of `hid-read`: submit a read, or poll the one already pending. -/
def hidReadTransfer (hds : Hds) (cnt : OutCell) : Win32Program (Bool × Hds) :=
  if hds.devreadpending = false then do
    let hds := { hds with devreadpending := true }
    let reply : BoolReply ← win32Call (readCall hds cnt)
    if reply.value ≠ 0 then pure (true, { hds with devreadpending := false }) else pure (false, hds)
  else do
    let reply : BoolReply ← win32Call (overlappedCall hds cnt)
    if reply.value = 1 then pure (true, { hds with devreadpending := false }) else pure (false, hds)

/-- The second half of `hid-read`: if nothing was read, see whether a read is still on its way. -/
def hidReadCheck (retval : Bool) (hds : Hds) : HidWord :=
  if retval = false then do
    let lastError ← win32Call .getLastError
    if IsWaitingError lastError then pure (.ok true, hds)
    else
      let hds := { hds with devreadpending := false }
      let _ ← win32Call (.cancelIo hds.devhandle)
      pure (.ok false, hds)
  else pure (.ok retval, hds)

/-- `hid-read`: submit a read, or poll the one already pending. -/
def hidRead (hds : Hds) (cnt : OutCell) : HidWord := do
  let (retval, hds) ← hidReadTransfer hds cnt
  hidReadCheck retval hds

/-- `hid-write`: submit a write, and cancel the handle's transfers if it is refused. -/
def hidWrite (hds : Hds) (cnt : OutCell) : HidWord := do
  let reply : BoolReply ← win32Call (writeCall hds cnt)
  if reply.value = 1 then pure (.ok true, hds)
  else
    let lastError ← win32Call .getLastError
    if lastError = errorIoPending then pure (.ok true, hds)
    else
      let _ ← win32Call (.cancelIo hds.devhandle)
      pure (.ok false, hds)

/-- `hid-get-input-report-size`. -/
def hidGetInputReportSize (hds : Option Hds) : Option ℕ := hds.map Hds.inputreportsz

/-- `hid-get-output-report-size`. -/
def hidGetOutputReportSize (hds : Option Hds) : Option ℕ := hds.map Hds.outputreportsz

/-- The two kinds of transfer. -/
inductive TransferKind where
  | read
  | write
  deriving DecidableEq, Repr

/-- The session operations on one device. -/
inductive HidOp where
  | hidOpen
  | hidClose
  | hidRead (cnt : OutCell)
  | hidWrite (cnt : OutCell)
  deriving DecidableEq, Repr

/-- The word an operation calls. -/
def hidWord : HidOp → Hds → HidWord
  | .hidOpen, hds => hidOpen hds
  | .hidClose, hds => hidClose hds
  | .hidRead cnt, hds => hidRead hds cnt
  | .hidWrite cnt, hds => hidWrite hds cnt

end FactorUsb.Hid
