import FactorUsb.Calls.History
import FactorUsb.Hid.Outcome

/-!
# The pending flag against the reads the system still owes

`devreadpending` is meant to say that a read is outstanding on the stored handle. Only
`hid-read` and `hid-close` touch it. `hid-read` and `hid-close` clear the flag together
with cancelling the handle's transfers; `hid-write` cancels them in its failure branch
and leaves the flag, and `hid-open` replaces the handle under it. Two error codes used
by the wrong function also leave the flag set.

The flag is exact after every call of a run precisely when no call takes one of these
branches with a read pending.
-/

namespace FactorUsb.Hid

open FactorUsb.Calls

/-- The event is a `ReadFile` on the handle that failed with `ERROR_IO_PENDING`. -/
@[simp] def leavesRead (handle : Option Handle) : Win32Event → Bool
  | ⟨.readFile h .., reply⟩ => h = handle && reply.value = 0 && reply.error = errorIoPending
  | _ => false

/-- The event reports the handle's read finished, cancels it, or closes the handle. -/
@[simp] def endsRead (handle : Option Handle) : Win32Event → Bool
  | ⟨.getOverlappedResult h .., reply⟩ =>
    h = handle && (reply.value ≠ 0 || reply.error ≠ errorIoIncomplete)
  | ⟨.cancelIo h, reply⟩ => h = handle && reply.value ≠ 0
  | ⟨.closeHandle h, reply⟩ => h = handle && reply.value ≠ 0
  | _ => false

/-- A read is outstanding on the handle. -/
def OutstandingRead (history : List Win32Event) (handle : Option Handle) : Prop :=
  Held (leavesRead handle) (endsRead handle) history

instance (history : List Win32Event) : DecidablePred (OutstandingRead history) :=
  fun _ => inferInstanceAs (Decidable (Held ..))

/-- Appended calls leave a read outstanding, or keep one by not ending it. -/
@[simp] theorem outstandingRead_append (past events : List Win32Event) (handle : Option Handle) :
    OutstandingRead (past ++ events) handle ↔
      OutstandingRead events handle ∨
        (OutstandingRead past handle ∧ ∀ e ∈ events, endsRead handle e = false) :=
  held_append past events

/-- A first event's read stays outstanding unless a later event ends it. -/
@[simp] theorem outstandingRead_cons (e : Win32Event) (later : List Win32Event)
    (handle : Option Handle) :
    OutstandingRead (e :: later) handle ↔
      OutstandingRead later handle ∨
        (leavesRead handle e = true ∧ ∀ e' ∈ later, endsRead handle e' = false) := Iff.rfl

/-- No read is outstanding before the first call. -/
@[simp] theorem not_outstandingRead_nil (handle : Option Handle) : ¬ OutstandingRead [] handle :=
  not_held_nil

/-- After the call, the flag is set exactly when a read is outstanding on the stored handle. -/
def PendingFlagExact (step : HidStep) : Prop :=
  step.after.devreadpending = true ↔ OutstandingRead step.history step.after.devhandle

instance : DecidablePred PendingFlagExact := fun _ => inferInstanceAs (Decidable (_ ↔ _))

/-- `ReadFile` failing with `ERROR_IO_INCOMPLETE`, or `GetOverlappedResult`
with `ERROR_IO_PENDING`. -/
@[simp] def crossedCode : Win32Event → Bool
  | ⟨.readFile .., reply⟩ => reply.value = 0 && reply.error = errorIoIncomplete
  | ⟨.getOverlappedResult .., reply⟩ => reply.value = 0 && reply.error = errorIoPending
  | _ => false

/-- While the flag is set, `hid-open` brings no other handle and `hid-write` cancels nothing, and
neither function `hid-read` calls answers with the other's error code. -/
def PendingFlagCondition (step : HidStep) : Prop :=
  match step.op with
  | .hidOpen => step.before.devreadpending = true →
      ∀ e ∈ step.events, ∀ handle ∈ createdHandle e, step.before.devhandle = some handle
  | .hidClose => True
  | .hidRead _ => ∀ e ∈ step.events, crossedCode e = false
  | .hidWrite _ => step.before.devreadpending = true →
      ∀ e ∈ step.events, ∀ reply ∈ cancelReply e, reply.value = 0

instance : DecidablePred PendingFlagCondition
  | ⟨_, _, .hidOpen, _, _, _⟩ =>
    inferInstanceAs (Decidable (_ → ∀ e ∈ _, ∀ handle ∈ createdHandle e, _))
  | ⟨_, _, .hidClose, _, _, _⟩ => inferInstanceAs (Decidable True)
  | ⟨_, _, .hidRead _, _, _, _⟩ => inferInstanceAs (Decidable (∀ e ∈ _, crossedCode e = false))
  | ⟨_, _, .hidWrite _, _, _, _⟩ =>
    inferInstanceAs (Decidable (_ → ∀ e ∈ _, ∀ reply ∈ cancelReply e, _))

/-- The only outstanding read is the one the flag stands for, on the stored handle. -/
def PendingFlagInvariant (past : List Win32Event) (hds : Hds) : Prop :=
  ∀ handle, OutstandingRead past handle ↔ hds.devreadpending = true ∧ hds.devhandle = handle

variable {os : Win32Environment} {past : List Win32Event} {hds : Hds} {run : HidRun}

/-- An allowed `hid-open` finds the flag clear, or keeps the handle the read is outstanding on. -/
theorem hidOpen_pendingFlag (hinv : PendingFlagInvariant past hds)
    (h : HidOpenOutcome os past hds run)
    (hcond : PendingFlagCondition (hidStepOf past hds .hidOpen run)) :
    PendingFlagInvariant (past ++ run.2) run.1.2 := by
  intro handle
  cases h with
  | noDetail hdetail => simpa using hinv handle
  | refused devdetail hdetail hreply =>
    have hsame : hds.devreadpending = true → hds.devhandle = some .invalidHandleValue := by
      simpa [PendingFlagCondition, hidStepOf] using hcond
    have hkeep : hds.devreadpending = true ∧ hds.devhandle = handle ↔
        hds.devreadpending = true ∧ some .invalidHandleValue = handle :=
      and_congr_right fun hflag => by rw [hsame hflag]
    simpa [hinv handle] using hkeep
  | opened devdetail n overlapped hdetail hreply =>
    have hsame : hds.devreadpending = true → hds.devhandle = some (.handle n) := by
      simpa [PendingFlagCondition, hidStepOf] using hcond
    have hkeep : hds.devreadpending = true ∧ hds.devhandle = handle ↔
        hds.devreadpending = true ∧ some (.handle n) = handle :=
      and_congr_right fun hflag => by rw [hsame hflag]
    simpa [hinv handle, Hds.opened] using hkeep

/-- `hid-close` clears the flag exactly when it cancels the read. -/
theorem hidClose_pendingFlag (hbool : BoolResults os) (hinv : PendingFlagInvariant past hds)
    (h : HidCloseOutcome os past hds run) : PendingFlagInvariant (past ++ run.2) run.1.2 := by
  intro handle
  cases h with
  | noHandle hhandle => simpa using hinv handle
  | cancelFailed stored cancelled hhandle hreply hvalue =>
    have hzero : cancelled.value = 0 :=
      hbool.eq_zero (.cancelIo _) (congrArg some hreply.symm) hvalue
    simpa [hzero] using hinv handle
  | invalidHandle cancelled hhandle hreply hvalue =>
    simp only [outstandingRead_append, hinv handle, hhandle]
    simp [hvalue]
  | closed n cancelled closed hhandle hreply hvalue =>
    simp only [outstandingRead_append, hinv handle, hhandle]
    simp +contextual [hvalue]

/-- An allowed `hid-read` moves the flag together with the read it submits or collects. -/
theorem hidRead_pendingFlag (hbool : BoolResults os) (hinv : PendingFlagInvariant past hds)
    (cnt : OutCell) (h : HidReadOutcome os past hds cnt run)
    (hcond : PendingFlagCondition (hidStepOf past hds (.hidRead cnt) run)) :
    PendingFlagInvariant (past ++ run.2) run.1.2 := by
  intro handle
  cases h with
  | readNow reply hflag hreply hvalue => simp [hinv handle, hflag, hvalue]
  | submitted reply hflag hreply hvalue herror =>
    have hpending : reply.error = errorIoPending := by
      apply herror.resolve_left
      intro hincomplete
      simp [PendingFlagCondition, hidStepOf, hvalue, hincomplete] at hcond
    simp [hinv handle, hflag, hvalue, hpending]
  | refused reply cancelled hflag hreply hvalue herror =>
    have hpending : reply.error ≠ errorIoPending := fun h => herror (.inr h)
    simp [hinv handle, hflag, hpending]
  | collected reply hflag hreply hvalue => simp [hinv handle, hflag, hvalue]
  | stillPending reply error hflag hreply hvalue hreport herror =>
    have hzero : reply.value = 0 :=
      hbool.eq_zero (overlappedCall hds cnt) (congrArg some hreply.symm) hvalue
    have hincomplete : reply.error = errorIoIncomplete := by
      apply ((hreport hzero) ▸ herror).resolve_right
      intro hpending
      simp [PendingFlagCondition, hidStepOf, hzero, hpending] at hcond
    simp [hinv handle, hflag, hzero, hincomplete]
  | lost reply cancelled error hflag hreply hvalue hreport herror =>
    have hzero : reply.value = 0 :=
      hbool.eq_zero (overlappedCall hds cnt) (congrArg some hreply.symm) hvalue
    have hfinished : reply.error ≠ errorIoIncomplete :=
      fun h => herror (.inl ((hreport hzero).trans h))
    simp +contextual [hinv handle, hflag, hzero, hfinished]

/-- An allowed `hid-write` cancels nothing while the flag is set. -/
theorem hidWrite_pendingFlag (hinv : PendingFlagInvariant past hds) (cnt : OutCell)
    (h : HidWriteOutcome os past hds cnt run)
    (hcond : PendingFlagCondition (hidStepOf past hds (.hidWrite cnt) run)) :
    PendingFlagInvariant (past ++ run.2) run.1.2 := by
  intro handle
  cases h with
  | written reply hreply hvalue => simp [hinv handle]
  | submitted reply error hreply hvalue hreport herror => simp [hinv handle]
  | refused reply cancelled error hreply hvalue hreport herror =>
    have hkept : hds.devreadpending = true → cancelled.value = 0 := by
      simpa [PendingFlagCondition, hidStepOf] using hcond
    simp +contextual [hinv handle, hkept]

/-- A call that meets the condition keeps the outstanding read and the flag together. -/
theorem pendingFlag_outcome (hbool : BoolResults os) {op : HidOp}
    (hinv : PendingFlagInvariant past hds) (h : HidOutcome os past hds op run)
    (hcond : PendingFlagCondition (hidStepOf past hds op run)) :
    PendingFlagInvariant (past ++ run.2) run.1.2 := by
  cases h with
  | hidOpen h => exact hidOpen_pendingFlag hinv h hcond
  | hidClose h => exact hidClose_pendingFlag hbool hinv h
  | hidRead cnt h => exact hidRead_pendingFlag hbool hinv cnt h hcond
  | hidWrite cnt h => exact hidWrite_pendingFlag hinv cnt h hcond

/-- A `hid-open` after which the flag is still exact found it clear or kept the handle. -/
theorem hidOpen_pendingFlagCondition (hinv : PendingFlagInvariant past hds)
    (h : HidOpenOutcome os past hds run)
    (hexact : PendingFlagExact (hidStepOf past hds .hidOpen run)) :
    PendingFlagCondition (hidStepOf past hds .hidOpen run) := by
  simp only [PendingFlagExact, CallStep.history, hidStepOf] at hexact
  cases h with
  | noDetail hdetail => simp [PendingFlagCondition, hidStepOf]
  | refused devdetail hdetail hreply =>
    simp only [outstandingRead_append, hinv _] at hexact
    simpa [PendingFlagCondition, hidStepOf] using hexact
  | opened devdetail n overlapped hdetail hreply =>
    simp only [outstandingRead_append, hinv _, Hds.opened] at hexact
    simpa [PendingFlagCondition, hidStepOf] using hexact

/-- A `hid-read` after which the flag is still exact was answered with no crossed code. -/
theorem hidRead_pendingFlagCondition (hinv : PendingFlagInvariant past hds) (cnt : OutCell)
    (h : HidReadOutcome os past hds cnt run)
    (hexact : PendingFlagExact (hidStepOf past hds (.hidRead cnt) run)) :
    PendingFlagCondition (hidStepOf past hds (.hidRead cnt) run) := by
  simp only [PendingFlagExact, CallStep.history, hidStepOf] at hexact
  cases h with
  | readNow reply hflag hreply hvalue => simp [PendingFlagCondition, hidStepOf, hvalue]
  | submitted reply hflag hreply hvalue herror =>
    simp only [outstandingRead_append, hinv _] at hexact
    have hpending : reply.error = errorIoPending := by simpa [hvalue, hflag] using hexact
    simp [PendingFlagCondition, hidStepOf, hpending, errorIoPending, errorIoIncomplete]
  | refused reply cancelled hflag hreply hvalue herror =>
    have hincomplete : reply.error ≠ errorIoIncomplete := fun h => herror (.inl h)
    simp [PendingFlagCondition, hidStepOf, hincomplete]
  | collected reply hflag hreply hvalue => simp [PendingFlagCondition, hidStepOf, hvalue]
  | stillPending reply error hflag hreply hvalue hreport herror =>
    simp only [outstandingRead_append, hinv _] at hexact
    have hincomplete : reply.error = errorIoIncomplete := by
      have hkept : reply.value = 0 ∧ reply.error = errorIoIncomplete := by
        simpa [hflag] using hexact
      exact hkept.2
    simp [PendingFlagCondition, hidStepOf, hincomplete, errorIoPending, errorIoIncomplete]
  | lost reply cancelled error hflag hreply hvalue hreport herror =>
    have hother : ¬ (reply.value = 0 ∧ reply.error = errorIoPending) :=
      fun h => herror (.inr ((hreport h.1).trans h.2))
    simpa [PendingFlagCondition, hidStepOf] using hother

/-- A `hid-write` after which the flag is still exact cancelled nothing while it was set. -/
theorem hidWrite_pendingFlagCondition (hinv : PendingFlagInvariant past hds) (cnt : OutCell)
    (h : HidWriteOutcome os past hds cnt run)
    (hexact : PendingFlagExact (hidStepOf past hds (.hidWrite cnt) run)) :
    PendingFlagCondition (hidStepOf past hds (.hidWrite cnt) run) := by
  simp only [PendingFlagExact, CallStep.history, hidStepOf] at hexact
  cases h with
  | written reply hreply hvalue => simp [PendingFlagCondition, hidStepOf]
  | submitted reply error hreply hvalue hreport herror => simp [PendingFlagCondition, hidStepOf]
  | refused reply cancelled error hreply hvalue hreport herror =>
    simp only [outstandingRead_append, hinv _] at hexact
    simpa [PendingFlagCondition, hidStepOf] using hexact

/-- A call after which the flag is still exact met the condition. -/
theorem pendingFlagCondition_outcome {op : HidOp} (hinv : PendingFlagInvariant past hds)
    (h : HidOutcome os past hds op run) (hexact : PendingFlagExact (hidStepOf past hds op run)) :
    PendingFlagCondition (hidStepOf past hds op run) := by
  cases h with
  | hidOpen h => exact hidOpen_pendingFlagCondition hinv h hexact
  | hidClose h => trivial
  | hidRead cnt h => exact hidRead_pendingFlagCondition hinv cnt h hexact
  | hidWrite cnt h => exact hidWrite_pendingFlagCondition hinv cnt h hexact

/-- In any environment in which the words run as listed, the flag is exact after every call
precisely when every call meets the condition. -/
theorem pendingFlag_session_iff {env : Win32Environment} (hbool : BoolResults os)
    (houtcome : ∀ past hds op, HidOutcome os past hds op (exec env past (hidWord op hds)))
    (hinv : PendingFlagInvariant [] hds) (ops : List HidOp) :
    (∀ step ∈ session env hidWord [] hds ops, PendingFlagExact step) ↔
      ∀ step ∈ session env hidWord [] hds ops, PendingFlagCondition step := by
  apply session_forall_iff PendingFlagInvariant
  · intro past hds op hinv
    refine ⟨pendingFlagCondition_outcome hinv (houtcome past hds op), fun hcond => ?_⟩
    have hnext := pendingFlag_outcome hbool hinv (houtcome past hds op) hcond
    exact ((hnext _).trans (and_iff_left rfl)).symm
  · exact fun past hds op hinv => pendingFlag_outcome hbool hinv (houtcome past hds op)
  · exact hinv

/-- A prepared tuple has a clear flag, as no read was made yet. -/
theorem preparedHds_pendingFlag (devdetail : DevDetail)
    (detaildatasz inputreportsz outputreportsz featurereportsz : ℕ) (count : Option ℕ) :
    PendingFlagInvariant []
      (preparedHds devdetail detaildatasz inputreportsz outputreportsz featurereportsz count) := by
  intro handle
  simp [preparedHds, newHds]

/-- Over a whole session the flag is exact after every call
precisely when every call meets the condition. -/
theorem hidSession_pendingFlag_iff (hbool : BoolResults os) (devdetail : DevDetail)
    (detaildatasz inputreportsz outputreportsz featurereportsz : ℕ) (count : Option ℕ)
    (ops : List HidOp) :
    (∀ step ∈ hidSession os
        (preparedHds devdetail detaildatasz inputreportsz outputreportsz featurereportsz count) ops,
      PendingFlagExact step) ↔
      ∀ step ∈ hidSession os
        (preparedHds devdetail detaildatasz inputreportsz outputreportsz featurereportsz count) ops,
        PendingFlagCondition step := by
  apply pendingFlag_session_iff hbool (hidWord_outcome os)
  apply preparedHds_pendingFlag

/-- The equivalence at a session that polls one read to the end and closes: the flag stays exact. -/
theorem hidSession_pendingFlag_polled :
    BoolResults (steadyOs (.handle 4) ⟨0, errorIoPending⟩ ⟨1, 0⟩ ⟨1, 0⟩ ⟨1, 0⟩ ⟨1, 0⟩) ∧
      ∀ step ∈ hidSession (steadyOs (.handle 4) ⟨0, errorIoPending⟩ ⟨1, 0⟩ ⟨1, 0⟩ ⟨1, 0⟩ ⟨1, 0⟩)
          (preparedHds ⟨8, 8, "hid"⟩ 8 2 2 0 none) [.hidOpen, .hidRead 0, .hidRead 0, .hidClose],
        PendingFlagExact step := by
  have hbool : BoolResults (steadyOs (.handle 4) ⟨0, errorIoPending⟩ ⟨1, 0⟩ ⟨1, 0⟩ ⟨1, 0⟩ ⟨1, 0⟩) :=
    steadyOs_boolResults _ _ _ _ _ _ (by simp)
  exact ⟨hbool, (hidSession_pendingFlag_iff hbool _ _ _ _ _ _ _).mpr (by decide)⟩

/-- A refused write cancels the pending read and leaves the flag set. -/
theorem hidWrite_leaves_flag_set :
    BoolResults (steadyOs (.handle 4) ⟨0, errorIoPending⟩ ⟨0, 31⟩ ⟨1, 0⟩ ⟨1, 0⟩ ⟨1, 0⟩) ∧
      ¬ ∀ step ∈ hidSession (steadyOs (.handle 4) ⟨0, errorIoPending⟩ ⟨0, 31⟩ ⟨1, 0⟩ ⟨1, 0⟩ ⟨1, 0⟩)
          (preparedHds ⟨8, 8, "hid"⟩ 8 2 2 0 none) [.hidOpen, .hidRead 0, .hidWrite 0],
        PendingFlagExact step :=
  ⟨steadyOs_boolResults _ _ _ _ _ _ (by simp), by decide⟩

end FactorUsb.Hid
