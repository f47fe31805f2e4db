import FactorUsb.Hid.ReportBuffers

/-!
# The tuples a session can reach

A device that was found is opened, closed, read and written in any order. Its tuple then has one
of four forms. It may never have been opened, with the handle slot as found or at the handle that
`CreateFile` refuses with. Once opened it has its block and buffers for good, whatever happens to
the handle afterwards; and only while the handle slot is set may the flag be.

That `hid-open` leaves the flag alone makes a tuple without valid handle and with the flag set
reachable; that `hid-close` clears both together makes one without handle and with the flag set
unreachable, as long as the system leaves no read waiting on a handle it never gave out. Every
other combination of slots is reached in some system that behaves.
-/

namespace FactorUsb.Hid

open FactorUsb.Calls

/-- A read on no valid handle fails and is not waited for. -/
def RefusesReads (os : Win32Environment) : Prop :=
  ∀ past handle buffer sz cnt overlapped, (∀ n, handle ≠ some (.handle n)) →
    (os past (.readFile handle buffer sz cnt overlapped) : BoolReply).value = 0 ∧
      ¬ IsWaitingError (os past (.readFile handle buffer sz cnt overlapped) : BoolReply).error

/-- A system that gives out fresh handles, answers 0 or 1 and refuses reads on other handles. -/
structure BehavesOnHandles (os : Win32Environment) : Prop where
  fresh : FreshHandles os
  bool : BoolResults os
  refuses : RefusesReads os

/-- The forms of a tuple after session words on the given one. -/
inductive SessionTuple (hds : Hds) : Hds → Prop where
  | untouched : SessionTuple hds hds
  | refused : SessionTuple hds { hds with devhandle := some .invalidHandleValue }
  | used (handle : Handle) (block : Overlapped) (flag : Bool) :
      SessionTuple hds { hds.opened handle block with devreadpending := flag }
  | closed (block : Overlapped) :
      SessionTuple hds { hds.opened .invalidHandleValue block with devhandle := none }

variable {os : Win32Environment} {past : List Win32Event} {hds after : Hds} {run : HidRun}

/-- `hid-open` puts the tuple in use, or leaves it never opened. -/
theorem sessionTuple_open (h : SessionTuple hds after) (hrun : HidOpenOutcome os past after run) :
    SessionTuple hds run.1.2 := by
  cases hrun with
  | noDetail hdetail => exact h
  | refused devdetail hdetail hreply =>
    cases h with
    | untouched => exact .refused
    | refused => exact .refused
    | used handle block flag => exact .used .invalidHandleValue block flag
    | closed block => exact .used .invalidHandleValue block hds.devreadpending
  | opened devdetail n overlapped hdetail hreply =>
    cases h with
    | used handle block flag => exact .used (.handle n) overlapped flag
    | _ => exact .used (.handle n) overlapped hds.devreadpending

/-- `hid-close` on a tuple in use keeps it in use or clears handle and flag; it does
nothing to the others. -/
theorem sessionTuple_close (hclear : hds.devreadpending = false) (hnone : hds.devhandle = none)
    (h : SessionTuple hds after) (hrun : HidCloseOutcome os past after run) :
    SessionTuple hds run.1.2 := by
  cases hrun with
  | noHandle hhandle => exact h
  | cancelFailed handle cancelled hhandle hreply hvalue => exact h
  | invalidHandle cancelled hhandle hreply hvalue =>
    cases h with
    | untouched => simp [hnone] at hhandle
    | refused =>
      rw [← hclear]
      exact .refused
    | used handle block flag => exact .used handle block false
    | closed block => simp at hhandle
  | closed n cancelled closed hhandle hreply hvalue hclosed =>
    cases h with
    | untouched => simp [hnone] at hhandle
    | refused => simp at hhandle
    | used handle block flag =>
      rw [← hclear]
      exact .closed block
    | closed block => simp at hhandle

/-- A clear flag stays clear when a read is refused. -/
theorem hidRead_refused {cnt : OutCell} (hrun : HidReadOutcome os past after cnt run)
    (hrefuses : RefusesReads os) (hclear : after.devreadpending = false)
    (hhandle : ∀ n, after.devhandle ≠ some (.handle n)) : run.1.2 = after := by
  cases hrun with
  | readNow reply hflag hreply hvalue => rw [← hclear]
  | submitted reply hflag hreply hvalue herror =>
    rw [hreply] at herror
    exact absurd herror (hrefuses _ _ _ _ _ _ hhandle).2
  | refused reply cancelled hflag hreply hvalue herror hcancelled => rw [← hclear]
  | collected reply hflag hreply hvalue => simp [hclear] at hflag
  | stillPending reply error hflag hreply hvalue hreport herror hcode => simp [hclear] at hflag
  | lost reply cancelled error hflag hreply hvalue hreport herror hcode hcancelled =>
    simp [hclear] at hflag

/-- `hid-read` moves the flag of a tuple in use, and nothing else. -/
theorem sessionTuple_read (hrefuses : RefusesReads os) (hclear : hds.devreadpending = false)
    (hnone : hds.devhandle = none) (h : SessionTuple hds after) {cnt : OutCell}
    (hrun : HidReadOutcome os past after cnt run) : SessionTuple hds run.1.2 := by
  cases h with
  | untouched =>
    rw [hidRead_refused hrun hrefuses hclear (by simp [hnone])]
    exact .untouched
  | refused =>
    rw [hidRead_refused hrun hrefuses hclear (by simp)]
    exact .refused
  | used handle block flag =>
    rw [hrun.frame]
    exact .used handle block _
  | closed block =>
    rw [hidRead_refused hrun hrefuses hclear (by simp)]
    exact .closed block

/-- Every session word leads from one of the forms to one of them. -/
theorem sessionTuple_step (hrefuses : RefusesReads os) (hclear : hds.devreadpending = false)
    (hnone : hds.devhandle = none) {op : HidOp} (h : SessionTuple hds after)
    (hrun : HidOutcome os past after op run) : SessionTuple hds run.1.2 := by
  cases hrun with
  | hidOpen hrun => exact sessionTuple_open h hrun
  | hidClose hrun => exact sessionTuple_close hclear hnone h hrun
  | hidRead cnt hrun => exact sessionTuple_read hrefuses hclear hnone h hrun
  | hidWrite cnt hrun => rwa [hrun.frame]

/-- A session ends with one of the forms. -/
theorem sessionTuple_end (hrefuses : RefusesReads os) (hclear : hds.devreadpending = false)
    (hnone : hds.devhandle = none) (ops : List HidOp) :
    SessionTuple hds (sessionEnd (win32 os) hidWord [] hds ops).2 := by
  apply sessionEnd_invariant (fun _ after => SessionTuple hds after)
  · intro past after op h
    obtain ⟨run, hrun, heq⟩ := hidStep_outcome os past after op
    rw [heq]
    exact sessionTuple_step hrefuses hclear hnone h hrun
  · exact .untouched

/-- Some operations lead from the start to the history and the tuple. -/
def Reaches (os : Win32Environment) (hds : Hds) (past : List Win32Event) (after : Hds) : Prop :=
  ∃ ops, sessionEnd (win32 os) hidWord [] hds ops = (past, after)

/-- No operation leads to the start. -/
theorem Reaches.start (os : Win32Environment) (hds : Hds) : Reaches os hds [] hds := ⟨[], rfl⟩

/-- One more operation leads on. -/
theorem Reaches.step (h : Reaches os hds past after) {op : HidOp} {result : Except FactorError Bool}
    {next : Hds} {events : List Win32Event}
    (hexec : exec (win32 os) past (hidWord op after) = ((result, next), events)) :
    Reaches os hds (past ++ events) next := by
  obtain ⟨ops, hops⟩ := h
  refine ⟨ops ++ [op], ?_⟩
  rw [sessionEnd_append, hops]
  simp only [sessionEnd, callStep, CallStep.history, hexec]

/-- `ERROR_INVALID_HANDLE`. -/
def errorInvalidHandle : ℕ := 6

/-- A system that gives out no handle. -/
def noHandleOs : Win32Environment :=
  steadyOs .invalidHandleValue ⟨0, errorInvalidHandle⟩ ⟨0, errorInvalidHandle⟩
    ⟨0, errorInvalidHandle⟩
    ⟨0, errorInvalidHandle⟩ ⟨0, errorInvalidHandle⟩

/-- A system with one handle to give out, on which reads stay pending. -/
def oneHandleOs (n : ℕ) : Win32Environment := fun past c =>
  match c with
  | .createFile .. => if OpenHandle past n then Handle.invalidHandleValue else Handle.handle n
  | .readFile handle .. =>
    if handle = some (.handle n) then ⟨0, errorIoPending⟩ else ⟨0, errorInvalidHandle⟩
  | c => steadyOs (.handle n) ⟨1, 0⟩ ⟨1, 0⟩ ⟨1, 0⟩ ⟨1, 0⟩ ⟨1, 0⟩ past c

variable {n : ℕ} {devdetail : DevDetail}

/-- The system with one handle behaves. -/
theorem oneHandleOs_behaves (n : ℕ) : BehavesOnHandles (oneHandleOs n) := by
  refine ⟨?_, ?_, ?_⟩
  · intro past path access share disposition flags m hm
    change (if OpenHandle past n then Handle.invalidHandleValue else Handle.handle n) = _ at hm
    split_ifs at hm with hopen
    · rwa [← Handle.handle.inj hm]
  · intro past c reply hreply
    cases c <;> simp [boolReply, oneHandleOs, steadyOs] at hreply <;> try simp [← hreply]
    split_ifs <;> exact Or.inl rfl
  · intro past handle buffer sz cnt overlapped hhandle
    simp [oneHandleOs, hhandle n, IsWaitingError, errorIoIncomplete, errorIoPending,
      errorInvalidHandle]

/-- The system without handles behaves. -/
theorem noHandleOs_behaves : BehavesOnHandles noHandleOs := by
  refine ⟨?_, steadyOs_boolResults _ _ _ _ _ _ (by simp), ?_⟩
  · intro past path access share disposition flags m hm
    cases hm
  · intro past handle buffer sz cnt overlapped hhandle
    refine ⟨rfl, ?_⟩
    simp [noHandleOs, steadyOs, IsWaitingError, errorIoIncomplete, errorIoPending,
      errorInvalidHandle]

/-- No handle is ever given out. -/
theorem exec_hidOpen_never (hdetail : after.devdetail = some devdetail) :
    exec (win32 noHandleOs) past (hidWord .hidOpen after) =
      ((.ok false, { after with devhandle := some .invalidHandleValue }),
        [⟨openCall devdetail, Handle.invalidHandleValue⟩]) := by
  simp only [hidWord, hidOpen, hdetail]
  simp [noHandleOs, steadyOs]

/-- The handle is given out when it is not open. -/
theorem exec_hidOpen_given (hclosed : ¬ OpenHandle past n)
    (hdetail : after.devdetail = some devdetail) :
    exec (win32 (oneHandleOs n)) past (hidWord .hidOpen after) =
      ((.ok true, after.opened (.handle n) ⟨past.countP allocatesOverlapped⟩),
        [⟨openCall devdetail, Handle.handle n⟩,
          ⟨.newOverlapped, ⟨past.countP allocatesOverlapped⟩⟩]) := by
  have hgiven : oneHandleOs n past (openCall devdetail) = Handle.handle n := if_neg hclosed
  simp only [hidWord, hidOpen, hdetail]
  simp [hdetail, hgiven, win32, allocatesOverlapped, List.countP_eq_length_filter, Hds.opened]

/-- The handle is refused while it is open. -/
theorem exec_hidOpen_refused (hopen : OpenHandle past n)
    (hdetail : after.devdetail = some devdetail) :
    exec (win32 (oneHandleOs n)) past (hidWord .hidOpen after) =
      ((.ok false, { after with devhandle := some .invalidHandleValue }),
        [⟨openCall devdetail, Handle.invalidHandleValue⟩]) := by
  have hrefused : oneHandleOs n past (openCall devdetail) = Handle.invalidHandleValue :=
    if_pos hopen
  simp only [hidWord, hidOpen, hdetail]
  simp [hrefused]

/-- The handle is closed. -/
theorem exec_hidClose_given (hhandle : after.devhandle = some (.handle n)) :
    exec (win32 (oneHandleOs n)) past (hidWord .hidClose after) =
      ((.ok true, { after with devreadpending := false, devhandle := none }),
        [⟨.cancelIo (some (.handle n)), ⟨1, 0⟩⟩, ⟨.closeHandle (some (.handle n)), ⟨1, 0⟩⟩]) := by
  simp only [hidWord, hidClose, hhandle]
  simp [oneHandleOs, steadyOs]

/-- A read on the handle stays pending. -/
theorem exec_hidRead_given (hhandle : after.devhandle = some (.handle n))
    (hclear : after.devreadpending = false) (cnt : OutCell) :
    exec (win32 (oneHandleOs n)) past (hidWord (.hidRead cnt) after) =
      ((.ok true, { after with devreadpending := true }),
        [⟨readCall after cnt, ⟨0, errorIoPending⟩⟩, ⟨.getLastError, errorIoPending⟩]) := by
  have hread : oneHandleOs n past (readCall after cnt) = (⟨0, errorIoPending⟩ : BoolReply) :=
    if_pos hhandle
  have hcode : win32 (oneHandleOs n) (past ++ [⟨readCall after cnt, ⟨0, errorIoPending⟩⟩])
    .getLastError =
      errorIoPending := by
    simp [failureCode, boolReply]
  rw [hidWord, hidRead, exec_bind, exec_hidReadTransfer_submit _ _ _ _ hclear, hread]
  simp only [if_neg (not_not.mpr rfl)]
  rw [exec_hidReadCheck_waiting _ _ _ (Or.inr hcode), hcode]
  rfl

/-- The tuple after it was opened and closed a number of times. -/
def Hds.reopened (hds : Hds) : ℕ → Hds
  | 0 => hds
  | k + 1 => { hds.opened .invalidHandleValue ⟨k⟩ with devhandle := none }

/-- However often the tuple was opened and closed, it opens to the same form. -/
theorem opened_reopened (hds : Hds) (k : ℕ) (handle : Handle) (block : Overlapped) :
    (hds.reopened k).opened handle block = hds.opened handle block := by
  cases k <;> rfl

/-- The device is opened and closed a number of times, with a new block each time. -/
theorem reaches_reopened (hclear : hds.devreadpending = false)
    (hdetail : hds.devdetail = some devdetail) (n k : ℕ) :
    ∃ past, Reaches (oneHandleOs n) hds past (hds.reopened k) ∧ ¬ OpenHandle past n ∧
      past.countP allocatesOverlapped = k := by
  induction k with
  | zero => exact ⟨[], .start _ hds, not_openHandle_nil n, rfl⟩
  | succ k ih =>
    obtain ⟨past, hreaches, hclosed, hcount⟩ := ih
    have hdetail' : (hds.reopened k).devdetail = some devdetail := by
      rw [← hdetail]
      cases k <;> rfl
    have hopened := hreaches.step (exec_hidOpen_given hclosed hdetail')
    rw [opened_reopened, hcount] at hopened
    have hshut := hopened.step (exec_hidClose_given rfl)
    rw [← hclear] at hshut
    refine ⟨_, hshut, by simp, ?_⟩
    rw [List.countP_append, List.countP_append, hcount]
    rfl

/-- The device is in use with its handle and any block, and the flag is clear. -/
theorem reaches_opened (hclear : hds.devreadpending = false)
    (hdetail : hds.devdetail = some devdetail) (n k : ℕ) :
    ∃ past, Reaches (oneHandleOs n) hds past (hds.opened (.handle n) ⟨k⟩) ∧ OpenHandle past n := by
  obtain ⟨past, hreaches, hclosed, hcount⟩ := reaches_reopened hclear hdetail n k
  have hdetail' : (hds.reopened k).devdetail = some devdetail := by
    rw [← hdetail]
    cases k <;> rfl
  have hopened := hreaches.step (exec_hidOpen_given hclosed hdetail')
  rw [opened_reopened, hcount] at hopened
  exact ⟨_, hopened, by simp⟩

/-- The device is in use with its handle, any block and any flag. -/
theorem reaches_used (hclear : hds.devreadpending = false)
    (hdetail : hds.devdetail = some devdetail) (n k : ℕ) (flag : Bool) :
    ∃ past, Reaches (oneHandleOs n) hds past
      { hds.opened (.handle n) ⟨k⟩ with devreadpending := flag } ∧
      OpenHandle past n := by
  obtain ⟨past, hreaches, hopen⟩ := reaches_opened hclear hdetail n k
  cases flag with
  | false =>
    refine ⟨past, ?_, hopen⟩
    rw [← hclear]
    exact hreaches
  | true =>
    have hunset : (hds.opened (.handle n) ⟨k⟩).devreadpending = false := hclear
    have hread := hreaches.step (exec_hidRead_given rfl hunset 0)
    exact ⟨_, hread, by simp [hopen]⟩

/-- Every form is reached in a system that behaves. -/
theorem exists_reaches (hclear : hds.devreadpending = false)
    (hdetail : hds.devdetail = some devdetail) (h : SessionTuple hds after) :
    ∃ os past, BehavesOnHandles os ∧ Reaches os hds past after := by
  cases h with
  | untouched => exact ⟨noHandleOs, [], noHandleOs_behaves, .start noHandleOs hds⟩
  | refused =>
    have hopened := (Reaches.start noHandleOs hds).step (exec_hidOpen_never hdetail)
    exact ⟨noHandleOs, _, noHandleOs_behaves, hopened⟩
  | used handle block flag =>
    cases handle with
    | handle n =>
      obtain ⟨past, hreaches, -⟩ := reaches_used hclear hdetail n block.block flag
      exact ⟨oneHandleOs n, past, oneHandleOs_behaves n, hreaches⟩
    | invalidHandleValue =>
      obtain ⟨past, hreaches, hopen⟩ := reaches_used hclear hdetail 0 block.block flag
      have hrefused := hreaches.step (exec_hidOpen_refused hopen hdetail)
      exact ⟨oneHandleOs 0, _, oneHandleOs_behaves 0, hrefused⟩
  | closed block =>
    obtain ⟨past, hreaches, -⟩ := reaches_reopened hclear hdetail 0 (block.block + 1)
    exact ⟨oneHandleOs 0, past, oneHandleOs_behaves 0, hreaches⟩

/-- The tuples a session on a device that was found can end with, in systems that behave: the one
found, one whose open was refused, those in use, and those closed. -/
theorem hidSession_reachable_iff (devdetail : DevDetail)
    (detaildatasz inputreportsz outputreportsz featurereportsz : ℕ) (count : Option ℕ)
    (after : Hds) :
    (∃ os, BehavesOnHandles os ∧ ∃ ops, (sessionEnd (win32 os) hidWord []
        (preparedHds devdetail detaildatasz inputreportsz outputreportsz featurereportsz count)
          ops).2 = after) ↔
      SessionTuple
        (preparedHds devdetail detaildatasz inputreportsz outputreportsz featurereportsz count)
          after := by
  constructor
  · intro hgiven
    obtain ⟨os, hbehaves, ops, rfl⟩ := hgiven
    exact sessionTuple_end hbehaves.refuses rfl rfl ops
  · intro h
    obtain ⟨os, past, hbehaves, ops, hops⟩ := exists_reaches rfl rfl h
    exact ⟨os, hbehaves, ops, congrArg Prod.snd hops⟩

end FactorUsb.Hid
