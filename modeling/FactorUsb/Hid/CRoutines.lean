import FactorUsb.Hid.Outcome

/-!
# The C routines quoted in the comments, and the words that replaced them

Each session word carries the C routine it was written from as comments. The routines
are transcribed here with their early returns and their tests for zero, over the same
Win32 functions, so that a word and its routine can run in one environment.

The words agree with the routines as long as every answer they test against 1 is 0 or 1
and the cancel in `hid-close` succeeds. Any other answer separates the two at once: the
word asks for an error the routine does not ask for, or keeps a handle it closes.
-/

namespace FactorUsb.Hid

open FactorUsb.Calls

/-- The static variables of the C routines; `devOverlapped` is the address they pass. -/
structure CHid where
  devHandle : Handle
  devReadPending : Bool
  devOverlapped : Option Overlapped
  deriving DecidableEq, Repr

/-- The end of `HID_Read`, reached when neither function succeeded. -/
def hidReadErrorC (c : CHid) : Win32Program (Bool × CHid) := do
  let lastErr ← win32Call .getLastError
  if lastErr ≠ errorIoIncomplete ∧ lastErr ≠ errorIoPending then
    let c := { c with devReadPending := false }
    let _ ← win32Call (.cancelIo (some c.devHandle))
    pure (false, c)
  else pure (true, c)

/-- `HID_Read`. -/
def hidReadC (buf : Option ReportBuffer) (sz : ℕ) (cnt : OutCell) (c : CHid) :
    Win32Program (Bool × CHid) :=
  if c.devReadPending = false then do
    let ok ← win32Call (.readFile (some c.devHandle) buf sz cnt c.devOverlapped)
    if ok.value ≠ 0 then pure (true, c) else hidReadErrorC { c with devReadPending := true }
  else do
    let ok ← win32Call (.getOverlappedResult (some c.devHandle) c.devOverlapped cnt 0)
    if ok.value ≠ 0 then pure (true, { c with devReadPending := false }) else hidReadErrorC c

/-- The end of `HID_Write`, reached when `WriteFile` failed. -/
def hidWriteErrorC (c : CHid) : Win32Program (Bool × CHid) := do
  let lastErr ← win32Call .getLastError
  if lastErr = errorIoPending then pure (true, c)
  else
    let _ ← win32Call (.cancelIo (some c.devHandle))
    pure (false, c)

/-- `HID_Write`. -/
def hidWriteC (buf : Option ReportBuffer) (sz : ℕ) (cnt : OutCell) (c : CHid) :
    Win32Program (Bool × CHid) := do
  let ok ← win32Call (.writeFile (some c.devHandle) buf sz cnt c.devOverlapped)
  if ok.value ≠ 0 then pure (true, c) else hidWriteErrorC c

/-- `HID_Close`, which returns nothing. -/
def hidCloseC (c : CHid) : Win32Program CHid := do
  let _ ← win32Call (.cancelIo (some c.devHandle))
  let c := { c with devReadPending := false }
  if c.devHandle ≠ .invalidHandleValue then
    let _ ← win32Call (.closeHandle (some c.devHandle))
    pure { c with devHandle := .invalidHandleValue }
  else pure c

/-- The operations both sides offer on an open device. -/
inductive RoutineOp where
  | hidRead (cnt : OutCell)
  | hidWrite (cnt : OutCell)
  | hidClose
  deriving DecidableEq, Repr

/-- The Factor word of an operation. -/
def factorWord : RoutineOp → Hds → HidWord
  | .hidRead cnt, hds => hidRead hds cnt
  | .hidWrite cnt, hds => hidWrite hds cnt
  | .hidClose, hds => hidClose hds

/-- The C routine of an operation, given the report buffers the caller passes. -/
def routineC (inputreport outputreport : Option ReportBuffer) :
    RoutineOp → CHid → Win32Program (Option Bool × CHid)
  | .hidRead cnt, c => do
    let (ok, c) ← hidReadC inputreport (byteLength inputreport) cnt c
    pure (some ok, c)
  | .hidWrite cnt, c => do
    let (ok, c) ← hidWriteC outputreport (byteLength outputreport) cnt c
    pure (some ok, c)
  | .hidClose, c => do
    let c ← hidCloseC c
    pure (none, c)

/-- A call of a Factor word among the shared operations. -/
abbrev FactorStep := CallStep Win32Call Win32Reply Hds RoutineOp (Except FactorError Bool)

/-- A call of a C routine. -/
abbrev RoutineStep := CallStep Win32Call Win32Reply CHid RoutineOp (Option Bool)

/-- The record of a word's call that ran as given. -/
def factorStepOf (past : List Win32Event) (hds : Hds) (op : RoutineOp)
    (run : HidRun) : FactorStep :=
  ⟨past, hds, op, run.1.1, run.1.2, run.2⟩

/-- The same calls, the same truth value where C returns one, and the same
flag and handle status. -/
def RoutinesAgree (step : FactorStep) (step' : RoutineStep) : Prop :=
  step.events.map Sigma.fst = step'.events.map Sigma.fst ∧
    (∀ ok ∈ step'.result, step.result = .ok ok) ∧
    step.after.devreadpending = step'.after.devReadPending ∧
    (step.after.devhandle = none ↔ step'.after.devHandle = .invalidHandleValue)

instance (step : FactorStep) (step' : RoutineStep) : Decidable (RoutinesAgree step step') :=
  inferInstanceAs (Decidable (_ ∧ _ ∧ _ ∧ _))

/-- A success other than 1 of a function whose answer a word compares with 1. -/
@[simp] def oddSuccess : Win32Event → Bool
  | ⟨.writeFile .., reply⟩ => reply.value ≠ 0 && reply.value ≠ 1
  | ⟨.getOverlappedResult .., reply⟩ => reply.value ≠ 0 && reply.value ≠ 1
  | _ => false

/-- Polls and writes answer 0 or 1, and the cancel in `hid-close` answers 1. -/
def RoutinesCondition (step : FactorStep) : Prop :=
  match step.op with
  | .hidRead _ | .hidWrite _ => ∀ e ∈ step.events, oddSuccess e = false
  | .hidClose => ∀ e ∈ step.events, ∀ reply ∈ cancelReply e, reply.value = 1

instance : DecidablePred RoutinesCondition
  | ⟨_, _, .hidRead _, _, _, _⟩ => inferInstanceAs (Decidable (∀ e ∈ _, oddSuccess e = false))
  | ⟨_, _, .hidWrite _, _, _, _⟩ => inferInstanceAs (Decidable (∀ e ∈ _, oddSuccess e = false))
  | ⟨_, _, .hidClose, _, _, _⟩ => inferInstanceAs (Decidable (∀ e ∈ _, ∀ reply ∈ cancelReply e, _))

/-- `hid-close` is called at most once, as the last operation. -/
def ClosesLast : List RoutineOp → Prop
  | [] => True
  | .hidClose :: later => later = []
  | .hidRead _ :: later | .hidWrite _ :: later => ClosesLast later

/-- The static variables that correspond to a tuple with an open handle. -/
def Hds.toC (hds : Hds) (n : ℕ) : CHid := ⟨.handle n, hds.devreadpending, hds.devoverlapped⟩

/-- Both sides hold the same open handle, flag and block, or nothing more is to be called. -/
def RoutinesRelated (inputreport outputreport : Option ReportBuffer) (hds : Hds) (c : CHid)
    (ops : List RoutineOp) : Prop :=
  ops = [] ∨ (ClosesLast ops ∧ hds.inputreport = inputreport ∧ hds.outputreport = outputreport ∧
    ∃ n, hds.devhandle = some (.handle n) ∧ c = hds.toC n)

variable {os : Win32Environment} {past : List Win32Event} {hds : Hds} {n : ℕ} {run : HidRun}

/-- After one of the two waiting codes, the end of `HID_Read` reports
success and leaves the flag. -/
theorem hidReadErrorC_exec_waiting (c : CHid)
    (hwait : IsWaitingError (win32 os past .getLastError)) :
    exec (win32 os) past (hidReadErrorC c) =
      ((true, c), [⟨.getLastError, win32 os past .getLastError⟩]) := by
  have hcodes : ¬ (win32 os past .getLastError ≠ errorIoIncomplete ∧
      win32 os past .getLastError ≠ errorIoPending) := by
    rw [not_and_or, not_not, not_not]
    exact hwait
  unfold hidReadErrorC
  rw [exec_bind, exec_ask, exec_ite, if_neg hcodes]
  rfl

/-- After any other code, the end of `HID_Read` clears the flag and cancels the transfers. -/
theorem hidReadErrorC_exec_failed (c : CHid) {handle : Option Handle}
    (hsame : handle = some c.devHandle) (hwait : ¬ IsWaitingError (win32 os past .getLastError)) :
    exec (win32 os) past (hidReadErrorC c) =
      ((false, { c with devReadPending := false }),
        [⟨.getLastError, win32 os past .getLastError⟩,
          ⟨.cancelIo handle,
            os (past ++ [⟨.getLastError, win32 os past .getLastError⟩]) (.cancelIo handle)⟩]) := by
  have hcodes : win32 os past .getLastError ≠ errorIoIncomplete ∧
      win32 os past .getLastError ≠ errorIoPending :=
    not_or.mp hwait
  unfold hidReadErrorC
  rw [exec_bind, exec_ask, exec_ite, if_pos hcodes, hsame]
  rfl

/-- With the flag clear, `HID_Read` makes the `ReadFile` call
of `hid-read` and goes on from its reply. -/
theorem hidReadC_exec_submit (cnt : OutCell) (hhandle : hds.devhandle = some (.handle n))
    (hflag : hds.devreadpending = false) {reply : BoolReply}
    (hreply : reply = os past (readCall hds cnt)) :
    exec (win32 os) past (hidReadC hds.inputreport (byteLength hds.inputreport) cnt (hds.toC n)) =
      let rest := exec (win32 os) (past ++ [⟨readCall hds cnt, reply⟩])
        (if reply.value ≠ 0 then pure (true, hds.toC n)
          else hidReadErrorC { hds.toC n with devReadPending := true })
      (rest.1, ⟨readCall hds cnt, reply⟩ :: rest.2) := by
  have hsame : some (hds.toC n).devHandle = hds.devhandle := hhandle.symm
  have hclear : (hds.toC n).devReadPending = false := hflag
  rw [hidReadC, if_pos hclear, hsame, hreply]
  rfl

/-- With the flag set, `HID_Read` makes the `GetOverlappedResult` call
of `hid-read` and goes on from its reply. -/
theorem hidReadC_exec_poll (cnt : OutCell) (hhandle : hds.devhandle = some (.handle n))
    (hflag : hds.devreadpending = true) {reply : BoolReply}
    (hreply : reply = os past (overlappedCall hds cnt)) :
    exec (win32 os) past (hidReadC hds.inputreport (byteLength hds.inputreport) cnt (hds.toC n)) =
      let rest := exec (win32 os) (past ++ [⟨overlappedCall hds cnt, reply⟩])
        (if reply.value ≠ 0 then pure (true, { hds.toC n with devReadPending := false })
          else hidReadErrorC (hds.toC n))
      (rest.1, ⟨overlappedCall hds cnt, reply⟩ :: rest.2) := by
  have hsame : some (hds.toC n).devHandle = hds.devhandle := hhandle.symm
  have hset : ¬ (hds.toC n).devReadPending = false := by simp [Hds.toC, hflag]
  rw [hidReadC, if_neg hset, hsame, hreply]
  rfl

/-- `HID_Write` makes the `WriteFile` call of `hid-write` and goes on from its reply. -/
theorem hidWriteC_exec_submit (cnt : OutCell) (hhandle : hds.devhandle = some (.handle n))
    {reply : BoolReply} (hreply : reply = os past (writeCall hds cnt)) :
    exec (win32 os) past (hidWriteC hds.outputreport (byteLength hds.outputreport) cnt
      (hds.toC n)) =
      let rest := exec (win32 os) (past ++ [⟨writeCall hds cnt, reply⟩])
        (if reply.value ≠ 0 then pure (true, hds.toC n) else hidWriteErrorC (hds.toC n))
      (rest.1, ⟨writeCall hds cnt, reply⟩ :: rest.2) := by
  have hsame : some (hds.toC n).devHandle = hds.devhandle := hhandle.symm
  rw [hidWriteC, hsame, hreply]
  rfl

/-- After `ERROR_IO_PENDING`, the end of `HID_Write` reports success. -/
theorem hidWriteErrorC_exec_pending (c : CHid)
    (hpending : win32 os past .getLastError = errorIoPending) :
    exec (win32 os) past (hidWriteErrorC c) =
      ((true, c), [⟨.getLastError, win32 os past .getLastError⟩]) := by
  unfold hidWriteErrorC
  rw [exec_bind, exec_ask, exec_ite, if_pos hpending]
  rfl

/-- After any other code, the end of `HID_Write` cancels the transfers. -/
theorem hidWriteErrorC_exec_failed (c : CHid) {handle : Option Handle}
    (hsame : handle = some c.devHandle) (hpending : win32 os past .getLastError ≠ errorIoPending) :
    exec (win32 os) past (hidWriteErrorC c) =
      ((false, c),
        [⟨.getLastError, win32 os past .getLastError⟩,
          ⟨.cancelIo handle,
            os (past ++ [⟨.getLastError, win32 os past .getLastError⟩]) (.cancelIo handle)⟩]) := by
  unfold hidWriteErrorC
  rw [exec_bind, exec_ask, exec_ite, if_neg hpending, hsame]
  rfl

/-- Unless a poll succeeds with a value other than 1, `HID_Read` makes the calls of `hid-read`. -/
theorem hidReadC_exec (cnt : OutCell) (hhandle : hds.devhandle = some (.handle n))
    (h : HidReadOutcome os past hds cnt run) (hodd : ∀ e ∈ run.2, oddSuccess e = false) :
    ∃ ok, run.1.1 = .ok ok ∧
      exec (win32 os) past (hidReadC hds.inputreport (byteLength hds.inputreport) cnt (hds.toC n)) =
        ((ok, run.1.2.toC n), run.2) := by
  cases h with
  | readNow reply hflag hreply hvalue =>
    refine ⟨true, rfl, ?_⟩
    rw [hidReadC_exec_submit cnt hhandle hflag hreply, if_pos hvalue]
    simp [Hds.toC, hflag]
  | submitted reply hflag hreply hvalue herror =>
    refine ⟨true, rfl, ?_⟩
    have hcode :=
      win32_getLastError_of_boolReply os past (e := ⟨readCall hds cnt, reply⟩) rfl hvalue
    rw [hidReadC_exec_submit cnt hhandle hflag hreply, if_neg (not_not.mpr hvalue),
      hidReadErrorC_exec_waiting _ (by rwa [hcode]), hcode]
    rfl
  | refused reply cancelled hflag hreply hvalue herror hcancelled =>
    refine ⟨false, rfl, ?_⟩
    have hcode :=
      win32_getLastError_of_boolReply os past (e := ⟨readCall hds cnt, reply⟩) rfl hvalue
    rw [hidReadC_exec_submit cnt hhandle hflag hreply, if_neg (not_not.mpr hvalue),
      hidReadErrorC_exec_failed _ hhandle (by rwa [hcode]), hcode, hcancelled]
    simp [Hds.toC]
  | collected reply hflag hreply hvalue =>
    refine ⟨true, rfl, ?_⟩
    rw [hidReadC_exec_poll cnt hhandle hflag hreply, if_pos (by simp [hvalue])]
    rfl
  | stillPending reply error hflag hreply hvalue hreport herror hcode =>
    have hzero : reply.value = 0 := by simpa [hvalue] using hodd
    refine ⟨true, rfl, ?_⟩
    rw [hidReadC_exec_poll cnt hhandle hflag hreply, if_neg (not_not.mpr hzero),
      hidReadErrorC_exec_waiting _ (by rwa [← hcode]), ← hcode]
  | lost reply cancelled error hflag hreply hvalue hreport herror hcode hcancelled =>
    have hzero : reply.value = 0 := by simpa [hvalue] using hodd
    refine ⟨false, rfl, ?_⟩
    rw [hidReadC_exec_poll cnt hhandle hflag hreply, if_neg (not_not.mpr hzero),
      hidReadErrorC_exec_failed _ hhandle (by rwa [← hcode]), ← hcode, hcancelled]
    simp [Hds.toC]

/-- A poll that succeeds with a value other than 1 ends `HID_Read` at once. -/
theorem hidReadC_exec_odd (cnt : OutCell) (hhandle : hds.devhandle = some (.handle n))
    (hflag : hds.devreadpending = true) {reply : BoolReply}
    (hreply : reply = os past (overlappedCall hds cnt)) (hvalue : reply.value ≠ 0) :
    (exec (win32 os) past (hidReadC hds.inputreport (byteLength hds.inputreport) cnt
      (hds.toC n))).2 =
      [⟨overlappedCall hds cnt, reply⟩] := by
  rw [hidReadC_exec_poll cnt hhandle hflag hreply, if_pos hvalue]
  rfl

/-- Unless it succeeds with a value other than 1, `HID_Write` makes the calls of `hid-write`. -/
theorem hidWriteC_exec (cnt : OutCell) (hhandle : hds.devhandle = some (.handle n))
    (h : HidWriteOutcome os past hds cnt run) (hodd : ∀ e ∈ run.2, oddSuccess e = false) :
    ∃ ok, run.1.1 = .ok ok ∧
      exec (win32 os) past (hidWriteC hds.outputreport (byteLength hds.outputreport) cnt
        (hds.toC n)) =
        ((ok, run.1.2.toC n), run.2) := by
  cases h with
  | written reply hreply hvalue =>
    refine ⟨true, rfl, ?_⟩
    rw [hidWriteC_exec_submit cnt hhandle hreply, if_pos (by simp [hvalue])]
    rfl
  | submitted reply error hreply hvalue hreport herror hcode =>
    have hzero : reply.value = 0 := by simpa [hvalue] using hodd
    refine ⟨true, rfl, ?_⟩
    rw [hidWriteC_exec_submit cnt hhandle hreply, if_neg (not_not.mpr hzero),
      hidWriteErrorC_exec_pending _ (by rwa [← hcode]), ← hcode]
  | refused reply cancelled error hreply hvalue hreport herror hcode hcancelled =>
    have hzero : reply.value = 0 := by simpa [hvalue] using hodd
    refine ⟨false, rfl, ?_⟩
    rw [hidWriteC_exec_submit cnt hhandle hreply, if_neg (not_not.mpr hzero),
      hidWriteErrorC_exec_failed _ hhandle (by rwa [← hcode]), ← hcode, hcancelled]
    simp

/-- A write that succeeds with a value other than 1 ends `HID_Write` at once. -/
theorem hidWriteC_exec_odd (cnt : OutCell) (hhandle : hds.devhandle = some (.handle n))
    {reply : BoolReply} (hreply : reply = os past (writeCall hds cnt)) (hvalue : reply.value ≠ 0) :
    (exec (win32 os) past (hidWriteC hds.outputreport (byteLength hds.outputreport) cnt
      (hds.toC n))).2 = [⟨writeCall hds cnt, reply⟩] := by
  rw [hidWriteC_exec_submit cnt hhandle hreply, if_pos hvalue]
  rfl

/-- `HID_Close` cancels and closes the handle, whatever the cancel answers. -/
theorem hidCloseC_exec (hhandle : hds.devhandle = some (.handle n)) :
    exec (win32 os) past (hidCloseC (hds.toC n)) =
      (⟨.invalidHandleValue, false, hds.devoverlapped⟩,
        [⟨.cancelIo hds.devhandle, os past (.cancelIo hds.devhandle)⟩,
          ⟨.closeHandle hds.devhandle,
            os (past ++ [⟨.cancelIo hds.devhandle, os past (.cancelIo hds.devhandle)⟩])
              (.closeHandle hds.devhandle)⟩]) := by
  rw [hhandle]
  rfl

/-- A routine that made the word's calls, returned its value and reached
its state agrees with it. -/
theorem routinesAgree_of_exec {step : FactorStep} {step' : RoutineStep} {ok : Bool}
    (hresult : step.result = .ok ok) (hhandle : step.after.devhandle = some (.handle n))
    (hresult' : step'.result = some ok) (hafter : step'.after = step.after.toC n)
    (hevents : step'.events = step.events) : RoutinesAgree step step' := by
  refine ⟨by rw [hevents], ?_, by rw [hafter]; rfl, ?_⟩
  · simp [hresult, hresult']
  · simp [hafter, hhandle, Hds.toC]

/-- Agreeing calls of a word and its routine made equally many Win32 calls. -/
theorem RoutinesAgree.length_eq {step : FactorStep} {step' : RoutineStep}
    (h : RoutinesAgree step step') :
    step.events.length = step'.events.length := by
  simpa using congrArg List.length h.1

/-- A call of `HID_Read` is recorded as it ran. -/
theorem callStep_hidReadC (inputreport outputreport : Option ReportBuffer) (c : CHid)
    (cnt : OutCell) :
    callStep (win32 os) (routineC inputreport outputreport) past c (.hidRead cnt) =
      let out := exec (win32 os) past (hidReadC inputreport (byteLength inputreport) cnt c)
      ⟨past, c, .hidRead cnt, some out.1.1, out.1.2, out.2⟩ := by
  simp [callStep, routineC]

/-- A call of `HID_Write` is recorded as it ran. -/
theorem callStep_hidWriteC (inputreport outputreport : Option ReportBuffer) (c : CHid)
    (cnt : OutCell) :
    callStep (win32 os) (routineC inputreport outputreport) past c (.hidWrite cnt) =
      let out := exec (win32 os) past (hidWriteC outputreport (byteLength outputreport) cnt c)
      ⟨past, c, .hidWrite cnt, some out.1.1, out.1.2, out.2⟩ := by
  simp [callStep, routineC]

/-- A call of `HID_Close` is recorded as it ran. -/
theorem callStep_hidCloseC (inputreport outputreport : Option ReportBuffer) (c : CHid) :
    callStep (win32 os) (routineC inputreport outputreport) past c .hidClose =
      let out := exec (win32 os) past (hidCloseC c)
      ⟨past, c, .hidClose, none, out.1, out.2⟩ := by
  simp [callStep, routineC]

/-- `hid-read` and `HID_Read` agree exactly when no poll succeeds with a value other than 1. -/
theorem hidRead_agrees_iff (cnt : OutCell) (hhandle : hds.devhandle = some (.handle n))
    (h : HidReadOutcome os past hds cnt run) :
    RoutinesAgree (factorStepOf past hds (.hidRead cnt) run)
        (callStep (win32 os) (routineC hds.inputreport hds.outputreport) past (hds.toC n)
          (.hidRead cnt)) ↔
      ∀ e ∈ run.2, oddSuccess e = false := by
  rw [callStep_hidReadC]
  constructor
  · intro hagree
    have hlength : run.2.length = (exec (win32 os) past (hidReadC hds.inputreport
        (byteLength hds.inputreport) cnt (hds.toC n))).2.length := hagree.length_eq
    cases h with
    | readNow reply hflag hreply hvalue => simp
    | submitted reply hflag hreply hvalue herror => simp
    | refused reply cancelled hflag hreply hvalue herror hcancelled => simp
    | collected reply hflag hreply hvalue => simp [hvalue]
    | stillPending reply error hflag hreply hvalue hreport herror hcode =>
      by_contra hodd
      rw [hidReadC_exec_odd cnt hhandle hflag hreply (by simpa [hvalue] using hodd)] at hlength
      simp at hlength
    | lost reply cancelled error hflag hreply hvalue hreport herror hcode hcancelled =>
      by_contra hodd
      rw [hidReadC_exec_odd cnt hhandle hflag hreply (by simpa [hvalue] using hodd)] at hlength
      simp at hlength
  · intro hodd
    obtain ⟨ok, hresult, hexec⟩ := hidReadC_exec cnt hhandle h hodd
    rw [hexec]
    exact routinesAgree_of_exec hresult (by rw [factorStepOf, h.frame]; exact hhandle) rfl rfl rfl

/-- `hid-write` and `HID_Write` agree exactly when the write
does not succeed with a value other than 1. -/
theorem hidWrite_agrees_iff (cnt : OutCell) (hhandle : hds.devhandle = some (.handle n))
    (h : HidWriteOutcome os past hds cnt run) :
    RoutinesAgree (factorStepOf past hds (.hidWrite cnt) run)
        (callStep (win32 os) (routineC hds.inputreport hds.outputreport) past (hds.toC n)
          (.hidWrite cnt)) ↔
      ∀ e ∈ run.2, oddSuccess e = false := by
  rw [callStep_hidWriteC]
  constructor
  · intro hagree
    have hlength : run.2.length = (exec (win32 os) past (hidWriteC hds.outputreport
        (byteLength hds.outputreport) cnt (hds.toC n))).2.length := hagree.length_eq
    cases h with
    | written reply hreply hvalue => simp [hvalue]
    | submitted reply error hreply hvalue hreport herror hcode =>
      by_contra hodd
      rw [hidWriteC_exec_odd cnt hhandle hreply (by simpa [hvalue] using hodd)] at hlength
      simp at hlength
    | refused reply cancelled error hreply hvalue hreport herror hcode hcancelled =>
      by_contra hodd
      rw [hidWriteC_exec_odd cnt hhandle hreply (by simpa [hvalue] using hodd)] at hlength
      simp at hlength
  · intro hodd
    obtain ⟨ok, hresult, hexec⟩ := hidWriteC_exec cnt hhandle h hodd
    rw [hexec]
    exact routinesAgree_of_exec hresult (by rw [factorStepOf, h.frame]; exact hhandle) rfl rfl rfl

/-- `hid-close` and `HID_Close` agree exactly when the cancel answers 1. -/
theorem hidClose_agrees_iff (inputreport outputreport : Option ReportBuffer)
    (hhandle : hds.devhandle = some (.handle n)) (h : HidCloseOutcome os past hds run) :
    RoutinesAgree (factorStepOf past hds .hidClose run)
        (callStep (win32 os) (routineC inputreport outputreport) past (hds.toC n) .hidClose) ↔
      ∀ e ∈ run.2, ∀ reply ∈ cancelReply e, reply.value = 1 := by
  rw [callStep_hidCloseC, hidCloseC_exec hhandle]
  cases h with
  | noHandle hnone => simp [hhandle] at hnone
  | cancelFailed handle cancelled hstored hreply hvalue =>
    simp [RoutinesAgree, factorStepOf, hvalue]
  | invalidHandle cancelled hstored hreply hvalue => simp [hhandle] at hstored
  | closed m cancelled closed hstored hreply hvalue hclosed =>
    simp [RoutinesAgree, factorStepOf, hvalue, hstored]

/-- If the cancel answers 1, `HID_Close` makes the calls of `hid-close`. -/
theorem hidCloseC_events (hhandle : hds.devhandle = some (.handle n))
    (h : HidCloseOutcome os past hds run)
    (hcancel : ∀ e ∈ run.2, ∀ reply ∈ cancelReply e, reply.value = 1) :
    run.2 = (exec (win32 os) past (hidCloseC (hds.toC n))).2 := by
  rw [hidCloseC_exec hhandle]
  cases h with
  | noHandle hnone => simp [hhandle] at hnone
  | cancelFailed handle cancelled hstored hreply hvalue => simp [hvalue] at hcancel
  | invalidHandle cancelled hstored hreply hvalue => simp [hhandle] at hstored
  | closed m cancelled closed hstored hreply hvalue hclosed => rw [hstored, hclosed, hreply]

/-- Corresponding states agree on the next operation exactly when it meets the condition. -/
theorem routines_agree_iff {inputreport outputreport : Option ReportBuffer} {c : CHid}
    {op : RoutineOp} {ops : List RoutineOp}
    (hrel : RoutinesRelated inputreport outputreport hds c (op :: ops)) :
    RoutinesAgree (callStep (win32 os) factorWord past hds op)
        (callStep (win32 os) (routineC inputreport outputreport) past c op) ↔
      RoutinesCondition (callStep (win32 os) factorWord past hds op) := by
  obtain hnil | ⟨hlast, rfl, rfl, n, hhandle, rfl⟩ := hrel
  · cases hnil
  · cases op with
    | hidRead cnt => exact hidRead_agrees_iff cnt hhandle (hidRead_outcome os past hds cnt)
    | hidWrite cnt => exact hidWrite_agrees_iff cnt hhandle (hidWrite_outcome os past hds cnt)
    | hidClose => exact hidClose_agrees_iff _ _ hhandle (hidClose_outcome os past hds)

/-- An operation that meets the condition makes the same events and leaves corresponding states. -/
theorem routines_step {inputreport outputreport : Option ReportBuffer} {c : CHid} {op : RoutineOp}
    {ops : List RoutineOp} (hrel : RoutinesRelated inputreport outputreport hds c (op :: ops))
    (hcond : RoutinesCondition (callStep (win32 os) factorWord past hds op)) :
    (callStep (win32 os) factorWord past hds op).events =
        (callStep (win32 os) (routineC inputreport outputreport) past c op).events ∧
      RoutinesRelated inputreport outputreport (callStep (win32 os) factorWord past hds op).after
        (callStep (win32 os) (routineC inputreport outputreport) past c op).after ops := by
  obtain hnil | ⟨hlast, rfl, rfl, n, hhandle, rfl⟩ := hrel
  · cases hnil
  · cases op with
    | hidRead cnt =>
      have h := hidRead_outcome os past hds cnt
      have hframe : (callStep (win32 os) factorWord past hds (.hidRead cnt)).after =
        { hds with devreadpending := _ } := h.frame
      obtain ⟨ok, hresult, hexec⟩ := hidReadC_exec cnt hhandle h hcond
      rw [callStep_hidReadC, hexec]
      refine ⟨rfl, Or.inr ⟨hlast, ?_, ?_, n, ?_, rfl⟩⟩ <;> rw [hframe]
      exact hhandle
    | hidWrite cnt =>
      have h := hidWrite_outcome os past hds cnt
      have hframe : (callStep (win32 os) factorWord past hds (.hidWrite cnt)).after = hds := h.frame
      obtain ⟨ok, hresult, hexec⟩ := hidWriteC_exec cnt hhandle h hcond
      rw [callStep_hidWriteC, hexec]
      refine ⟨rfl, Or.inr ⟨hlast, ?_, ?_, n, ?_, rfl⟩⟩ <;> rw [hframe]
      exact hhandle
    | hidClose =>
      have hsame := hidCloseC_events hhandle (hidClose_outcome os past hds) hcond
      refine ⟨?_, Or.inl hlast⟩
      rw [callStep_hidCloseC]
      exact hsame

/-- From one open handle, the words and the commented routines agree after every call of a run
precisely when polls and writes answer 0 or 1 and the final cancel answers 1. -/
theorem routines_agree_run_iff (os : Win32Environment) (past : List Win32Event) (hds : Hds) (n : ℕ)
    (ops : List RoutineOp) (hhandle : hds.devhandle = some (.handle n)) (hlast : ClosesLast ops) :
    List.Forall₂ RoutinesAgree (session (win32 os) factorWord past hds ops)
        (session (win32 os) (routineC hds.inputreport hds.outputreport) past (hds.toC n) ops) ↔
      ∀ step ∈ session (win32 os) factorWord past hds ops, RoutinesCondition step := by
  refine session_forall₂_iff (RoutinesRelated hds.inputreport hds.outputreport) _ _
    (fun past hds c op ops hrel => routines_agree_iff hrel)
    (fun past hds c op ops hrel hcond => routines_step hrel hcond) _ _ _ _ ?_
  exact Or.inr ⟨hlast, rfl, rfl, n, hhandle, rfl⟩

/-- An opened device with two-byte reports. -/
def openedHds : Hds := (preparedHds ⟨8, 8, "hid"⟩ 8 2 2 0 none).opened (.handle 4) ⟨0⟩

/-- The equivalence at a run that submits a read, collects it,
writes and closes: word and routine agree. -/
theorem routines_agree_run_closed :
    (openedHds.devhandle = some (.handle 4) ∧
        ClosesLast [.hidRead 0, .hidRead 0, .hidWrite 0, .hidClose]) ∧
      List.Forall₂ RoutinesAgree
        (session
          (win32 (steadyOs (.handle 4) ⟨0, errorIoPending⟩ ⟨0, errorIoPending⟩ ⟨1, 0⟩
            ⟨1, 0⟩ ⟨1, 0⟩))
          factorWord [] openedHds [.hidRead 0, .hidRead 0, .hidWrite 0, .hidClose])
        (session
          (win32 (steadyOs (.handle 4) ⟨0, errorIoPending⟩ ⟨0, errorIoPending⟩ ⟨1, 0⟩
            ⟨1, 0⟩ ⟨1, 0⟩))
          (routineC openedHds.inputreport openedHds.outputreport) [] (openedHds.toC 4)
          [.hidRead 0, .hidRead 0, .hidWrite 0, .hidClose]) := by
  have hlast : ClosesLast [.hidRead 0, .hidRead 0, .hidWrite 0, .hidClose] := rfl
  exact ⟨⟨rfl, hlast⟩, (routines_agree_run_iff _ [] openedHds 4 _ rfl hlast).mpr (by decide)⟩

/-- When the cancel fails, `HID_Close` closes the handle and `hid-close` keeps it. -/
theorem hidClose_keeps_handle :
    (openedHds.devhandle = some (.handle 4) ∧ ClosesLast [.hidClose]) ∧
      ¬ List.Forall₂ RoutinesAgree
        (session (win32 (steadyOs (.handle 4) ⟨1, 0⟩ ⟨1, 0⟩ ⟨1, 0⟩ ⟨0, 6⟩ ⟨1, 0⟩))
          factorWord [] openedHds [.hidClose])
        (session (win32 (steadyOs (.handle 4) ⟨1, 0⟩ ⟨1, 0⟩ ⟨1, 0⟩ ⟨0, 6⟩ ⟨1, 0⟩))
          (routineC openedHds.inputreport openedHds.outputreport) [] (openedHds.toC 4)
          [.hidClose]) := by
  refine ⟨⟨rfl, rfl⟩, ?_⟩
  decide

end FactorUsb.Hid
