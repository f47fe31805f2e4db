import FactorUsb.Calls.Session
import FactorUsb.Hid.Device

/-!
# Everything a session word can do

One inversion lemma for each word lists its complete executions: the replies that lead
to them, the result, the tuple afterwards and the exact calls made. Every later result
about sessions argues from these cases and never unfolds a word again.
-/

namespace FactorUsb.Hid

open FactorUsb.Calls

/-- A result, the tuple it leaves and the calls made on the way. -/
abbrev HidRun := (Except FactorError Bool × Hds) × List Win32Event

/-- The tuple after `CreateFile` gave a handle and the buffers were allocated. -/
def Hds.opened (hds : Hds) (handle : Handle) (overlapped : Overlapped) : Hds :=
  { hds with
    devhandle := some handle
    devoverlapped := some overlapped
    inputreport := some (byteArray hds.inputreportsz)
    outputreport := some (byteArray hds.outputreportsz)
    featurereport := some (byteArray hds.featurereportsz) }

variable (os : Win32Environment) (past : List Win32Event) (hds : Hds)

/-- The complete executions of `hid-open`. -/
inductive HidOpenOutcome : HidRun → Prop where
  | noDetail (hdetail : hds.devdetail = none) : HidOpenOutcome ((.error .noMethod, hds), [])
  | refused (devdetail : DevDetail) (hdetail : hds.devdetail = some devdetail)
      (hreply : os past (openCall devdetail) = Handle.invalidHandleValue) :
      HidOpenOutcome ((.ok false, { hds with devhandle := some .invalidHandleValue }),
        [⟨openCall devdetail, Handle.invalidHandleValue⟩])
  | opened (devdetail : DevDetail) (n : ℕ) (overlapped : Overlapped)
      (hdetail : hds.devdetail = some devdetail)
      (hreply : os past (openCall devdetail) = Handle.handle n) :
      HidOpenOutcome ((.ok true, hds.opened (.handle n) overlapped),
        [⟨openCall devdetail, Handle.handle n⟩, ⟨.newOverlapped, overlapped⟩])

/-- The complete executions of `hid-close`. -/
inductive HidCloseOutcome : HidRun → Prop where
  | noHandle (hhandle : hds.devhandle = none) : HidCloseOutcome ((.ok false, hds), [])
  | cancelFailed (handle : Handle) (cancelled : BoolReply) (hhandle : hds.devhandle = some handle)
      (hreply : cancelled = os past (.cancelIo (some handle))) (hvalue : cancelled.value ≠ 1) :
      HidCloseOutcome ((.ok false, hds), [⟨.cancelIo (some handle), cancelled⟩])
  | invalidHandle (cancelled : BoolReply) (hhandle : hds.devhandle = some .invalidHandleValue)
      (hreply : cancelled = os past (.cancelIo (some .invalidHandleValue)))
      (hvalue : cancelled.value = 1) :
      HidCloseOutcome ((.ok false, { hds with devreadpending := false }),
        [⟨.cancelIo (some .invalidHandleValue), cancelled⟩])
  | closed (n : ℕ) (cancelled closed : BoolReply) (hhandle : hds.devhandle = some (.handle n))
      (hreply : cancelled = os past (.cancelIo (some (.handle n)))) (hvalue : cancelled.value = 1)
      (hclosed : closed =
        os (past ++ [⟨.cancelIo (some (.handle n)), cancelled⟩])
          (.closeHandle (some (.handle n)))) :
      HidCloseOutcome ((.ok true, { hds with devreadpending := false, devhandle := none }),
        [⟨.cancelIo (some (.handle n)), cancelled⟩, ⟨.closeHandle (some (.handle n)), closed⟩])

/-- The complete executions of `hid-read`. -/
inductive HidReadOutcome (cnt : OutCell) : HidRun → Prop where
  | readNow (reply : BoolReply) (hflag : hds.devreadpending = false)
      (hreply : reply = os past (readCall hds cnt)) (hvalue : reply.value ≠ 0) :
      HidReadOutcome cnt ((.ok true, { hds with devreadpending := false }),
        [⟨readCall hds cnt, reply⟩])
  | submitted (reply : BoolReply) (hflag : hds.devreadpending = false)
      (hreply : reply = os past (readCall hds cnt)) (hvalue : reply.value = 0)
      (herror : IsWaitingError reply.error) :
      HidReadOutcome cnt ((.ok true, { hds with devreadpending := true }),
        [⟨readCall hds cnt, reply⟩, ⟨.getLastError, reply.error⟩])
  | refused (reply cancelled : BoolReply) (hflag : hds.devreadpending = false)
      (hreply : reply = os past (readCall hds cnt)) (hvalue : reply.value = 0)
      (herror : ¬ IsWaitingError reply.error)
      (hcancelled : cancelled =
        os (past ++ [⟨readCall hds cnt, reply⟩, ⟨.getLastError, reply.error⟩])
        (.cancelIo hds.devhandle)) :
      HidReadOutcome cnt ((.ok false, { hds with devreadpending := false }),
        [⟨readCall hds cnt, reply⟩, ⟨.getLastError, reply.error⟩,
          ⟨.cancelIo hds.devhandle, cancelled⟩])
  | collected (reply : BoolReply) (hflag : hds.devreadpending = true)
      (hreply : reply = os past (overlappedCall hds cnt)) (hvalue : reply.value = 1) :
      HidReadOutcome cnt ((.ok true, { hds with devreadpending := false }),
        [⟨overlappedCall hds cnt, reply⟩])
  | stillPending (reply : BoolReply) (error : ℕ) (hflag : hds.devreadpending = true)
      (hreply : reply = os past (overlappedCall hds cnt)) (hvalue : reply.value ≠ 1)
      (hreport : reply.value = 0 → error = reply.error) (herror : IsWaitingError error)
      (hcode : error = win32 os (past ++ [⟨overlappedCall hds cnt, reply⟩]) .getLastError) :
      HidReadOutcome cnt ((.ok true, hds),
        [⟨overlappedCall hds cnt, reply⟩, ⟨.getLastError, error⟩])
  | lost (reply cancelled : BoolReply) (error : ℕ) (hflag : hds.devreadpending = true)
      (hreply : reply = os past (overlappedCall hds cnt)) (hvalue : reply.value ≠ 1)
      (hreport : reply.value = 0 → error = reply.error) (herror : ¬ IsWaitingError error)
      (hcode : error = win32 os (past ++ [⟨overlappedCall hds cnt, reply⟩]) .getLastError)
      (hcancelled : cancelled =
        os (past ++ [⟨overlappedCall hds cnt, reply⟩, ⟨.getLastError, error⟩])
        (.cancelIo hds.devhandle)) :
      HidReadOutcome cnt ((.ok false, { hds with devreadpending := false }),
        [⟨overlappedCall hds cnt, reply⟩, ⟨.getLastError, error⟩,
          ⟨.cancelIo hds.devhandle, cancelled⟩])

/-- The complete executions of `hid-write`. -/
inductive HidWriteOutcome (cnt : OutCell) : HidRun → Prop where
  | written (reply : BoolReply) (hreply : reply = os past (writeCall hds cnt))
      (hvalue : reply.value = 1) :
      HidWriteOutcome cnt ((.ok true, hds), [⟨writeCall hds cnt, reply⟩])
  | submitted (reply : BoolReply) (error : ℕ) (hreply : reply = os past (writeCall hds cnt))
      (hvalue : reply.value ≠ 1) (hreport : reply.value = 0 → error = reply.error)
      (herror : error = errorIoPending)
      (hcode : error = win32 os (past ++ [⟨writeCall hds cnt, reply⟩]) .getLastError) :
      HidWriteOutcome cnt ((.ok true, hds), [⟨writeCall hds cnt, reply⟩, ⟨.getLastError, error⟩])
  | refused (reply cancelled : BoolReply) (error : ℕ) (hreply : reply = os past (writeCall hds cnt))
      (hvalue : reply.value ≠ 1) (hreport : reply.value = 0 → error = reply.error)
      (herror : error ≠ errorIoPending)
      (hcode : error = win32 os (past ++ [⟨writeCall hds cnt, reply⟩]) .getLastError)
      (hcancelled : cancelled = os (past ++ [⟨writeCall hds cnt, reply⟩, ⟨.getLastError, error⟩])
        (.cancelIo hds.devhandle)) :
      HidWriteOutcome cnt ((.ok false, hds),
        [⟨writeCall hds cnt, reply⟩, ⟨.getLastError, error⟩, ⟨.cancelIo hds.devhandle, cancelled⟩])

/-- After a failing session function, the reported error is the one the failure left. -/
theorem win32_getLastError_of_boolReply {e : Win32Event} {reply : BoolReply}
    (h : boolReply e = some reply)
    (hvalue : reply.value = 0) : win32 os (past ++ [e]) .getLastError = reply.error := by
  simp [failureCode, h, hvalue]

/-- A handle is `INVALID_HANDLE_VALUE` or names an open object. -/
theorem Handle.eq_invalid_or_handle (handle : Handle) :
    handle = .invalidHandleValue ∨ ∃ n, handle = .handle n := by
  cases handle <;> simp

/-- Every run of `hid-open` is one of the listed executions, whatever blocks are allocated. -/
theorem hidOpen_outcome_of_any : HidOpenOutcome os past hds (exec os past (hidOpen hds)) := by
  unfold hidOpen
  split
  next hdetail => exact .noDetail hdetail
  next devdetail hdetail =>
    rcases Handle.eq_invalid_or_handle (os past (openCall devdetail)) with hreply | ⟨n, hreply⟩
    · simpa [hreply] using HidOpenOutcome.refused devdetail hdetail hreply
    · simpa [hreply, Hds.opened] using HidOpenOutcome.opened devdetail n _ hdetail hreply

/-- Only the handle the system gave out counts for a run of `hid-open`. -/
theorem HidOpenOutcome.congr {os os' : Win32Environment} {past : List Win32Event} {hds : Hds}
    {run : HidRun} (h : HidOpenOutcome os past hds run)
    (hsame : ∀ devdetail, os past (openCall devdetail) = os' past (openCall devdetail)) :
    HidOpenOutcome os' past hds run := by
  cases h with
  | noDetail hdetail => exact .noDetail hdetail
  | refused devdetail hdetail hreply =>
    exact .refused devdetail hdetail ((hsame devdetail).symm.trans hreply)
  | opened devdetail n overlapped hdetail hreply =>
    exact .opened devdetail n overlapped hdetail ((hsame devdetail).symm.trans hreply)

/-- Every run of `hid-open` is one of the listed executions. -/
theorem hidOpen_outcome : HidOpenOutcome os past hds (exec (win32 os) past (hidOpen hds)) :=
  (hidOpen_outcome_of_any (win32 os) past hds).congr fun _ => rfl

/-- Every run of `hid-close` is one of the listed executions. -/
theorem hidClose_outcome : HidCloseOutcome os past hds (exec (win32 os) past (hidClose hds)) := by
  unfold hidClose
  split
  next hhandle => exact .noHandle hhandle
  next handle hhandle =>
    by_cases hvalue : (os past (.cancelIo (some handle)) : BoolReply).value = 1
    · cases handle with
      | invalidHandleValue =>
        simpa [hvalue] using HidCloseOutcome.invalidHandle _ hhandle rfl hvalue
      | handle n => simpa [hvalue] using HidCloseOutcome.closed n _ _ hhandle rfl hvalue rfl
    · simpa [hvalue] using HidCloseOutcome.cancelFailed handle _ hhandle rfl hvalue

/-- With the flag clear, the first half of `hid-read` submits a read. -/
theorem exec_hidReadTransfer_submit (cnt : OutCell) (hflag : hds.devreadpending = false) :
    exec (win32 os) past (hidReadTransfer hds cnt) =
      (if (os past (readCall hds cnt) : BoolReply).value ≠ 0 then
          (true, { hds with devreadpending := false })
        else (false, { hds with devreadpending := true }),
        [⟨readCall hds cnt, os past (readCall hds cnt)⟩]) := by
  unfold hidReadTransfer
  rw [if_pos hflag]
  by_cases hvalue : (os past (readCall hds cnt) : BoolReply).value = 0 <;> simp [hvalue]

/-- With the flag set, the first half of `hid-read` polls the read. -/
theorem exec_hidReadTransfer_poll (cnt : OutCell) (hflag : hds.devreadpending = true) :
    exec (win32 os) past (hidReadTransfer hds cnt) =
      (if (os past (overlappedCall hds cnt) : BoolReply).value = 1 then
          (true, { hds with devreadpending := false })
        else (false, hds),
        [⟨overlappedCall hds cnt, os past (overlappedCall hds cnt)⟩]) := by
  unfold hidReadTransfer
  rw [if_neg (by simp [hflag])]
  split_ifs with hvalue <;> simp [hvalue]

/-- While a read is on its way, the second half of `hid-read` leaves it alone. -/
theorem exec_hidReadCheck_waiting (h : IsWaitingError (win32 os past .getLastError)) :
    exec (win32 os) past (hidReadCheck false hds) =
      ((.ok true, hds), [⟨.getLastError, win32 os past .getLastError⟩]) := by
  simp [hidReadCheck, h]

/-- After any other error, the second half of `hid-read` cancels the transfers. -/
theorem exec_hidReadCheck_failed (h : ¬ IsWaitingError (win32 os past .getLastError)) :
    exec (win32 os) past (hidReadCheck false hds) =
      ((.ok false, { hds with devreadpending := false }),
        [⟨.getLastError, win32 os past .getLastError⟩,
          ⟨.cancelIo hds.devhandle, os (past ++ [⟨.getLastError, win32 os past .getLastError⟩])
            (.cancelIo hds.devhandle)⟩]) := by
  simp [hidReadCheck, h]

/-- Every run of `hid-read` is one of the listed executions. -/
theorem hidRead_outcome (cnt : OutCell) :
    HidReadOutcome os past hds cnt (exec (win32 os) past (hidRead hds cnt)) := by
  rw [hidRead, exec_bind]
  cases hflag : hds.devreadpending with
  | false =>
    rw [exec_hidReadTransfer_submit os past hds cnt hflag]
    by_cases hvalue : (os past (readCall hds cnt) : BoolReply).value = 0
    · have hcode : win32 os (past ++ [⟨readCall hds cnt, os past (readCall hds cnt)⟩])
        .getLastError =
          (os past (readCall hds cnt) : BoolReply).error :=
        win32_getLastError_of_boolReply os past rfl hvalue
      simp only [if_neg (not_not.mpr hvalue)]
      by_cases herror : IsWaitingError (os past (readCall hds cnt) : BoolReply).error
      · rw [exec_hidReadCheck_waiting _ _ _ (hcode ▸ herror), hcode]
        exact .submitted _ hflag rfl hvalue herror
      · rw [exec_hidReadCheck_failed _ _ _ (hcode ▸ herror), hcode, List.append_assoc]
        exact .refused _ _ hflag rfl hvalue herror rfl
    · simp only [if_pos hvalue]
      exact .readNow _ hflag rfl hvalue
  | true =>
    rw [exec_hidReadTransfer_poll os past hds cnt hflag]
    by_cases hvalue : (os past (overlappedCall hds cnt) : BoolReply).value = 1
    · simp only [if_pos hvalue]
      exact .collected _ hflag rfl hvalue
    · -- `GetLastError` is consulted on every value but 1, so a nonzero one leaves it unconstrained
      have hreport := win32_getLastError_of_boolReply os past
        (e := ⟨overlappedCall hds cnt, os past (overlappedCall hds cnt)⟩) rfl
      simp only [if_neg hvalue]
      by_cases herror : IsWaitingError (win32 os
          (past ++ [⟨overlappedCall hds cnt, os past (overlappedCall hds cnt)⟩]) .getLastError)
      · rw [exec_hidReadCheck_waiting _ _ _ herror]
        exact .stillPending _ _ hflag rfl hvalue hreport herror rfl
      · rw [exec_hidReadCheck_failed _ _ _ herror, List.append_assoc]
        exact .lost _ _ _ hflag rfl hvalue hreport herror rfl rfl

/-- Every run of `hid-write` is one of the listed executions. -/
theorem hidWrite_outcome (cnt : OutCell) :
    HidWriteOutcome os past hds cnt (exec (win32 os) past (hidWrite hds cnt)) := by
  unfold hidWrite
  by_cases hvalue : (os past (writeCall hds cnt) : BoolReply).value = 1
  · simpa [hvalue] using HidWriteOutcome.written _ rfl hvalue
  · have hreport := win32_getLastError_of_boolReply os past
      (e := ⟨writeCall hds cnt, os past (writeCall hds cnt)⟩) rfl
    by_cases herror : win32 os (past ++ [⟨writeCall hds cnt, os past (writeCall hds cnt)⟩])
        .getLastError = errorIoPending
    · simpa [-win32_getLastError_append, hvalue, herror] using
        HidWriteOutcome.submitted _ _ rfl hvalue hreport herror rfl
    · simpa [-win32_getLastError_append, hvalue, herror] using
        HidWriteOutcome.refused _ _ _ rfl hvalue hreport herror rfl rfl

/-- `hid-read` changes nothing in the tuple but the flag. -/
theorem HidReadOutcome.frame {os : Win32Environment} {past : List Win32Event} {hds : Hds}
    {cnt : OutCell} {run : HidRun} (h : HidReadOutcome os past hds cnt run) :
    run.1.2 = { hds with devreadpending := run.1.2.devreadpending } := by
  cases h <;> rfl

/-- `hid-write` changes nothing in the tuple. -/
theorem HidWriteOutcome.frame {os : Win32Environment} {past : List Win32Event} {hds : Hds}
    {cnt : OutCell} {run : HidRun} (h : HidWriteOutcome os past hds cnt run) : run.1.2 = hds := by
  cases h <;> rfl

/-- The complete executions of a session operation. -/
inductive HidOutcome : HidOp → HidRun → Prop where
  | hidOpen {run : HidRun} (h : HidOpenOutcome os past hds run) : HidOutcome .hidOpen run
  | hidClose {run : HidRun} (h : HidCloseOutcome os past hds run) : HidOutcome .hidClose run
  | hidRead (cnt : OutCell) {run : HidRun}
      (h : HidReadOutcome os past hds cnt run) : HidOutcome (.hidRead cnt) run
  | hidWrite (cnt : OutCell) {run : HidRun}
      (h : HidWriteOutcome os past hds cnt run) : HidOutcome (.hidWrite cnt) run

/-- One completed call of a session word. -/
abbrev HidStep := CallStep Win32Call Win32Reply Hds HidOp (Except FactorError Bool)

/-- The record of a call that ran as given. -/
def hidStepOf (past : List Win32Event) (hds : Hds) (op : HidOp) (run : HidRun) : HidStep :=
  ⟨past, hds, op, run.1.1, run.1.2, run.2⟩

/-- A session run: the operations in order on one tuple, from an empty history. -/
abbrev hidSession (os : Win32Environment) (hds : Hds) (ops : List HidOp) : List HidStep :=
  session (win32 os) hidWord [] hds ops

/-- The `hid-open` a transfer session starts with; the tuple it is called on is arbitrary. -/
def opening (os : Win32Environment) (hds : Hds) : HidStep :=
  callStep (win32 os) hidWord [] hds .hidOpen

/-- Every run of a session word is one of the listed executions. -/
theorem hidWord_outcome (op : HidOp) :
    HidOutcome os past hds op (exec (win32 os) past (hidWord op hds)) := by
  cases op with
  | hidOpen => exact .hidOpen (hidOpen_outcome os past hds)
  | hidClose => exact .hidClose (hidClose_outcome os past hds)
  | hidRead cnt => exact .hidRead cnt (hidRead_outcome os past hds cnt)
  | hidWrite cnt => exact .hidWrite cnt (hidWrite_outcome os past hds cnt)

/-- Every call of a session word is the record of one listed execution. -/
theorem hidStep_outcome (op : HidOp) :
    ∃ run, HidOutcome os past hds op run ∧
      callStep (win32 os) hidWord past hds op = hidStepOf past hds op run :=
  ⟨_, hidWord_outcome os past hds op, rfl⟩

end FactorUsb.Hid
