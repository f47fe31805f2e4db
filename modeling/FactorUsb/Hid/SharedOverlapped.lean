import FactorUsb.Calls.History
import FactorUsb.Hid.Outcome

/-!
# Requests sharing one OVERLAPPED block

`hid-read` and `hid-write` pass the same block, and both return true while their request
is still on its way. Only the read has a flag. The system completes the requests at times
of its own; `GetOverlappedResult` reports on the newest request of the block.

A call waits for the block when it is a write made with the flag clear and no write in
flight, or a read that polls, or a read submitted with no write in flight. In a run that
starts with the flag clear and whose calls all wait, the block serves one request at a
time and `hid-read` collects only its own reads. `ReadFile` must not fail with
`ERROR_IO_INCOMPLETE` there: `hid-read` would take that for a read on its way.
-/

namespace FactorUsb.Hid

open FactorUsb.Calls

/-- A request the system accepted, and whether it left it pending. -/
structure Request where
  kind : TransferKind
  pending : Bool
  deriving DecidableEq, Repr

/-- The request accepted by a transfer function that gave the reply, if it did not fail for good. -/
def requestOf (kind : TransferKind) (reply : BoolReply) : Option Request :=
  if reply.value ≠ 0 then some ⟨kind, false⟩
  else if reply.error = errorIoPending then some ⟨kind, true⟩
  else none

/-- The request an event submits with the block. -/
@[simp] def acceptedRequest (overlapped : Option Overlapped) : Win32Event → Option Request
  | ⟨.readFile _ _ _ _ o, reply⟩ => if o = overlapped then requestOf .read reply else none
  | ⟨.writeFile _ _ _ _ o, reply⟩ => if o = overlapped then requestOf .write reply else none
  | _ => none

/-- The requests submitted with the block, oldest first. -/
def requests (overlapped : Option Overlapped) (history : List Win32Event) : List Request :=
  history.filterMap (acceptedRequest overlapped)

/-- The kind of the newest request of the block. -/
def latestRequest (overlapped : Option Overlapped)
    (history : List Win32Event) : Option TransferKind :=
  (requests overlapped history).getLast?.map Request.kind

/-- When the system completes the pending requests of each block. A completed request stays
complete, and while the newest request of a block is pending, `GetOverlappedResult` says so. -/
structure CompletionSchedule (os : Win32Environment) where
  done : List Win32Event → Option Overlapped → ℕ → Bool
  done_append : ∀ past later overlapped i,
    done past overlapped i = true → done (past ++ later) overlapped i = true
  polled : ∀ past handle overlapped cnt wait kind,
    (requests overlapped past).getLast? = some ⟨kind, true⟩ →
      done past overlapped ((requests overlapped past).length - 1) = false →
        os past (.getOverlappedResult handle overlapped cnt wait) =
          (⟨0, errorIoIncomplete⟩ : BoolReply)

/-- The requests of one kind that are pending on the block and not yet complete. -/
def CompletionSchedule.inFlight {os : Win32Environment} (schedule : CompletionSchedule os)
    (past : List Win32Event) (overlapped : Option Overlapped) (kind : TransferKind) : List ℕ :=
  (List.range (requests overlapped past).length).filter fun i =>
    (requests overlapped past)[i]? = some ⟨kind, true⟩ && !schedule.done past overlapped i

variable {os : Win32Environment} (schedule : CompletionSchedule os)

/-- A request is in flight when it was left pending and has not been completed. -/
theorem mem_inFlight (past : List Win32Event) (overlapped : Option Overlapped) (kind : TransferKind)
    (i : ℕ) :
    i ∈ schedule.inFlight past overlapped kind ↔
      (requests overlapped past)[i]? = some ⟨kind, true⟩ ∧
        schedule.done past overlapped i = false := by
  simp only [CompletionSchedule.inFlight, List.mem_filter, List.mem_range, Bool.and_eq_true,
    decide_eq_true_eq, Bool.not_eq_true', and_iff_right_iff_imp]
  exact fun h => (List.getElem?_eq_some_iff.mp h.1).1

/-- A transfer function submits requests of its own kind. -/
theorem requestOf_kind {kind : TransferKind} {reply : BoolReply} {request : Request}
    (h : requestOf kind reply = some request) : request.kind = kind := by
  unfold requestOf at h
  split_ifs at h <;> cases h <;> rfl

/-- No event, no request. -/
@[simp] theorem requests_nil (overlapped : Option Overlapped) : requests overlapped [] = [] := rfl

/-- A first event adds its request, if any, before the later ones. -/
@[simp] theorem requests_cons (overlapped : Option Overlapped) (e : Win32Event)
    (later : List Win32Event) :
    requests overlapped (e :: later) =
      (acceptedRequest overlapped e).toList ++ requests overlapped later := by
  rw [requests, List.filterMap_cons]
  cases acceptedRequest overlapped e <;> rfl

/-- Appended events add their requests after the earlier ones. -/
@[simp] theorem requests_append (overlapped : Option Overlapped) (past events : List Win32Event) :
    requests overlapped (past ++ events) = requests overlapped past ++ requests overlapped events :=
  List.filterMap_append

/-- A request in flight after more events was in flight before them or was submitted by them. -/
theorem mem_inFlight_append {past events : List Win32Event} {overlapped : Option Overlapped}
    {kind : TransferKind} {i : ℕ} (h : i ∈ schedule.inFlight (past ++ events) overlapped kind) :
    i ∈ schedule.inFlight past overlapped kind ∨
      ∃ j, (requests overlapped events)[j]? = some ⟨kind, true⟩ ∧
        i = (requests overlapped past).length + j := by
  rw [mem_inFlight, requests_append] at h
  obtain ⟨hpending, hdone⟩ := h
  by_cases hold : i < (requests overlapped past).length
  · left
    rw [List.getElem?_append_left hold] at hpending
    rw [mem_inFlight]
    refine ⟨hpending, ?_⟩
    by_contra hcomplete
    have hlater := schedule.done_append past events overlapped i (by simpa using hcomplete)
    rw [hdone] at hlater
    exact Bool.false_ne_true hlater
  · right
    rw [List.getElem?_append_right (by omega)] at hpending
    exact ⟨_, hpending, by omega⟩

/-- The transfers on an open device. -/
inductive TransferOp where
  | hidRead (cnt : OutCell)
  | hidWrite (cnt : OutCell)
  deriving DecidableEq, Repr

/-- The word of a transfer. -/
def transferWord : TransferOp → Hds → HidWord
  | .hidRead cnt, hds => hidRead hds cnt
  | .hidWrite cnt, hds => hidWrite hds cnt

/-- One completed transfer call. -/
abbrev TransferStep := CallStep Win32Call Win32Reply Hds TransferOp (Except FactorError Bool)

/-- The record of a transfer call that ran as given. -/
def transferStepOf (past : List Win32Event) (hds : Hds) (op : TransferOp) (run : HidRun) :
    TransferStep :=
  ⟨past, hds, op, run.1.1, run.1.2, run.2⟩

/-- Reads and writes in any order, directly after `hid-open`. -/
def transferSession (os : Win32Environment) (hds : Hds)
    (ops : List TransferOp) : List TransferStep :=
  session (win32 os) transferWord (opening os hds).history (opening os hds).after ops

/-- The event submits a request with the block. -/
@[simp] def submitsWith (overlapped : Option Overlapped) : Win32Event → Bool
  | ⟨.readFile _ _ _ _ o, _⟩ | ⟨.writeFile _ _ _ _ o, _⟩ => o = overlapped
  | _ => false

/-- The event is a `GetOverlappedResult` on the block that makes `hid-read`
report a completed read. -/
@[simp] def collectsFrom (overlapped : Option Overlapped) : Win32Event → Bool
  | ⟨.getOverlappedResult _ o _ _, reply⟩ => o = overlapped && reply.value = 1
  | _ => false

/-- The call submits only while nothing is in flight on the block, and collects only a read. -/
def OneAtATime (step : TransferStep) : Prop :=
  Throughout (fun past e =>
    (submitsWith step.before.devoverlapped e = true →
      schedule.inFlight past step.before.devoverlapped .read = [] ∧
        schedule.inFlight past step.before.devoverlapped .write = []) ∧
    (collectsFrom step.before.devoverlapped e = true →
      latestRequest step.before.devoverlapped past = some .read)) step.past step.events

instance : DecidablePred (OneAtATime schedule) :=
  fun _ => inferInstanceAs (Decidable (Throughout ..))

/-- A write is called with the flag clear and no write in flight; a read called with the flag clear
finds no write in flight, and `ReadFile` does not answer it with `ERROR_IO_INCOMPLETE`. -/
def WaitsForBlock (step : TransferStep) : Prop :=
  match step.op with
  | .hidRead cnt =>
    step.before.devreadpending = false →
      schedule.inFlight step.past step.before.devoverlapped .write = [] ∧
        os step.past (readCall step.before cnt) ≠ (⟨0, errorIoIncomplete⟩ : BoolReply)
  | .hidWrite _ =>
    step.before.devreadpending = false ∧
      schedule.inFlight step.past step.before.devoverlapped .write = []

instance : DecidablePred (WaitsForBlock schedule)
  | ⟨past, hds, .hidRead cnt, _, _, _⟩ =>
    inferInstanceAs (Decidable (hds.devreadpending = false →
      schedule.inFlight past hds.devoverlapped .write = [] ∧
        (os past (readCall hds cnt) : BoolReply) ≠ ⟨0, errorIoIncomplete⟩))
  | ⟨past, hds, .hidWrite _, _, _, _⟩ =>
    inferInstanceAs (Decidable (hds.devreadpending = false ∧
      schedule.inFlight past hds.devoverlapped .write = []))

/-- A read in flight is the newest request of the block, and the flag stands for it. -/
def FlaggedRead (past : List Win32Event) (hds : Hds) : Prop :=
  ∀ i ∈ schedule.inFlight past hds.devoverlapped .read,
    hds.devreadpending = true ∧ i + 1 = (requests hds.devoverlapped past).length

/-- Only the flagged read can be in flight, and the flag stands for the newest request. -/
structure BlockInvariant (past : List Win32Event) (hds : Hds) : Prop where
  flagged : FlaggedRead schedule past hds
  newest : hds.devreadpending = true → latestRequest hds.devoverlapped past = some .read

variable {schedule} {past : List Win32Event} {hds : Hds} {run : HidRun}

/-- With the flag clear, no request is a read in flight. -/
theorem FlaggedRead.not_mem (hinv : FlaggedRead schedule past hds)
    (hflag : hds.devreadpending = false) (i : ℕ) :
    i ∉ schedule.inFlight past hds.devoverlapped .read := by
  intro hi
  exact Bool.false_ne_true (hflag.symm.trans (hinv i hi).1)

/-- With the flag clear, the block has no read in flight. -/
theorem FlaggedRead.no_read (hinv : FlaggedRead schedule past hds)
    (hflag : hds.devreadpending = false) :
    schedule.inFlight past hds.devoverlapped .read = [] :=
  List.eq_nil_iff_forall_not_mem.mpr (hinv.not_mem hflag)

/-- While the flagged read is in flight, `GetOverlappedResult` answers that it is incomplete. -/
theorem FlaggedRead.incomplete (hinv : FlaggedRead schedule past hds) (cnt : OutCell) {i : ℕ}
    (hi : i ∈ schedule.inFlight past hds.devoverlapped .read) :
    os past (overlappedCall hds cnt) = (⟨0, errorIoIncomplete⟩ : BoolReply) := by
  have hnewest := (hinv i hi).2
  obtain ⟨hpending, hdone⟩ := (mem_inFlight schedule _ _ _ _).mp hi
  refine schedule.polled past hds.devhandle hds.devoverlapped cnt 0 .read ?_ ?_
  · rw [List.getLast?_eq_getElem?, ← hnewest, Nat.add_sub_cancel]
    exact hpending
  · rwa [← hnewest, Nat.add_sub_cancel]

/-- Events that submit no pending read leave in flight only reads that were. -/
theorem inFlight_read_of_append {events : List Win32Event} {overlapped : Option Overlapped} {i : ℕ}
    (hquiet : ⟨.read, true⟩ ∉ requests overlapped events)
    (hi : i ∈ schedule.inFlight (past ++ events) overlapped .read) :
    i ∈ schedule.inFlight past overlapped .read := by
  obtain hold | ⟨j, hj, -⟩ := mem_inFlight_append schedule hi
  · exact hold
  · exact absurd (List.mem_of_getElem? hj) hquiet

/-- A `hid-read` leaves in flight only the flagged read. -/
theorem hidRead_flaggedRead (cnt : OutCell) (h : HidReadOutcome os past hds cnt run)
    (hinv : FlaggedRead schedule past hds) : FlaggedRead schedule (past ++ run.2) run.1.2 := by
  have hblock : run.1.2.devoverlapped = hds.devoverlapped := by rw [h.frame]
  intro i hi
  rw [hblock] at hi ⊢
  cases h with
  | readNow reply hflag hreply hvalue =>
    have hold : i ∈ schedule.inFlight past hds.devoverlapped .read :=
      inFlight_read_of_append (by simp [requestOf, hvalue]) hi
    exact absurd hold (hinv.not_mem hflag i)
  | submitted reply hflag hreply hvalue herror =>
    refine ⟨rfl, ?_⟩
    obtain hold | ⟨j, hj, rfl⟩ := mem_inFlight_append schedule hi
    · exact absurd hold (hinv.not_mem hflag i)
    · have hone : (requests hds.devoverlapped
          [⟨readCall hds cnt, reply⟩, ⟨.getLastError, reply.error⟩]).length ≤ 1 := by
        simp
      have hj' := (List.getElem?_eq_some_iff.mp hj).1
      rw [requests_append, List.length_append]
      dsimp only at hj' ⊢
      omega
  | refused reply cancelled hflag hreply hvalue herror hcancelled =>
    have hpending : reply.error ≠ errorIoPending := fun h => herror (.inr h)
    have hold : i ∈ schedule.inFlight past hds.devoverlapped .read :=
      inFlight_read_of_append (by simp [requestOf, hvalue, hpending]) hi
    exact absurd hold (hinv.not_mem hflag i)
  | collected reply hflag hreply hvalue =>
    have hold : i ∈ schedule.inFlight past hds.devoverlapped .read :=
      inFlight_read_of_append (by simp) hi
    rw [hinv.incomplete cnt hold] at hreply
    simp [hreply] at hvalue
  | stillPending reply error hflag hreply hvalue hreport herror hcode =>
    have hold : i ∈ schedule.inFlight past hds.devoverlapped .read :=
      inFlight_read_of_append (by simp) hi
    refine ⟨hflag, ?_⟩
    simpa using (hinv i hold).2
  | lost reply cancelled error hflag hreply hvalue hreport herror hcode hcancelled =>
    have hold : i ∈ schedule.inFlight past hds.devoverlapped .read :=
      inFlight_read_of_append (by simp) hi
    rw [hinv.incomplete cnt hold] at hreply
    rw [hreport (by rw [hreply]), hreply] at herror
    exact absurd (Or.inl rfl) herror

/-- A `hid-read` that sets the flag made its read the newest request of the block. -/
theorem hidRead_newest (cnt : OutCell) (h : HidReadOutcome os past hds cnt run)
    (hinv : BlockInvariant schedule past hds)
    (hwaits : WaitsForBlock schedule (transferStepOf past hds (.hidRead cnt) run))
    (hset : run.1.2.devreadpending = true) :
    latestRequest run.1.2.devoverlapped (past ++ run.2) = some .read := by
  cases h with
  | submitted reply hflag hreply hvalue herror =>
    obtain hincomplete | hpending := herror
    · have hfailed : reply = ⟨0, errorIoIncomplete⟩ := by rw [← hvalue, ← hincomplete]
      exact absurd (hreply.symm.trans hfailed) (hwaits hflag).2
    · simp [latestRequest, requestOf, hvalue, hpending]
  | stillPending reply error hflag hreply hvalue hreport herror hcode =>
    simpa [latestRequest] using hinv.newest hflag
  | readNow reply hflag hreply hvalue => cases hset
  | refused reply cancelled hflag hreply hvalue herror hcancelled => cases hset
  | collected reply hflag hreply hvalue => cases hset
  | lost reply cancelled error hflag hreply hvalue hreport herror hcode hcancelled => cases hset

/-- A `hid-write` called with the flag clear leaves no read in flight. -/
theorem hidWrite_flaggedRead (cnt : OutCell) (h : HidWriteOutcome os past hds cnt run)
    (hinv : FlaggedRead schedule past hds) (hflag : hds.devreadpending = false) :
    FlaggedRead schedule (past ++ run.2) run.1.2 := by
  have hquiet : (⟨.read, true⟩ : Request) ∉ requests hds.devoverlapped run.2 := by
    have hkind : ∀ reply : BoolReply, requestOf .write reply ≠ some ⟨.read, true⟩ := by
      intro reply hrequest
      cases requestOf_kind hrequest
    cases h <;> simp [hkind]
  rw [h.frame]
  intro i hi
  exact absurd (inFlight_read_of_append hquiet hi) (hinv.not_mem hflag i)

/-- A transfer that waits for the block keeps the invariant. -/
theorem blockInvariant_step (op : TransferOp) (hinv : BlockInvariant schedule past hds)
    (hwaits : WaitsForBlock schedule (callStep (win32 os) transferWord past hds op)) :
    BlockInvariant schedule (callStep (win32 os) transferWord past hds op).history
      (callStep (win32 os) transferWord past hds op).after := by
  cases op with
  | hidRead cnt =>
    have hread := hidRead_outcome os past hds cnt
    exact ⟨hidRead_flaggedRead cnt hread hinv.flagged, hidRead_newest cnt hread hinv hwaits⟩
  | hidWrite cnt =>
    have hwrite := hidWrite_outcome os past hds cnt
    refine ⟨hidWrite_flaggedRead cnt hwrite hinv.flagged hwaits.1, ?_⟩
    intro hset
    have hclear : hds.devreadpending = false := hwaits.1
    have hkeep : (callStep (win32 os) transferWord past hds (.hidWrite cnt)).after = hds :=
      hwrite.frame
    rw [hkeep, hclear] at hset
    cases hset

/-- Under the invariant, a `hid-read` that waits uses the block for one request
and collects only a read. -/
theorem hidRead_oneAtATime (cnt : OutCell) (h : HidReadOutcome os past hds cnt run)
    (hinv : BlockInvariant schedule past hds)
    (hwaits : WaitsForBlock schedule (transferStepOf past hds (.hidRead cnt) run)) :
    OneAtATime schedule (transferStepOf past hds (.hidRead cnt) run) := by
  have hfree : hds.devreadpending = false →
      schedule.inFlight past hds.devoverlapped .read = [] ∧
        schedule.inFlight past hds.devoverlapped .write = [] :=
    fun hflag => ⟨hinv.flagged.no_read hflag, (hwaits hflag).1⟩
  cases h with
  | readNow reply hflag hreply hvalue =>
    simp [OneAtATime, transferStepOf, Throughout, hfree hflag]
  | submitted reply hflag hreply hvalue herror =>
    simp [OneAtATime, transferStepOf, Throughout, hfree hflag]
  | refused reply cancelled hflag hreply hvalue herror hcancelled =>
    simp [OneAtATime, transferStepOf, Throughout, hfree hflag]
  | collected reply hflag hreply hvalue =>
    simp [OneAtATime, transferStepOf, Throughout, hinv.newest hflag]
  | stillPending reply error hflag hreply hvalue hreport herror hcode =>
    simp [OneAtATime, transferStepOf, Throughout, hinv.newest hflag]
  | lost reply cancelled error hflag hreply hvalue hreport herror hcode hcancelled =>
    simp [OneAtATime, transferStepOf, Throughout, hinv.newest hflag]

/-- Under the invariant, a `hid-write` that waits finds nothing in flight on the block. -/
theorem hidWrite_oneAtATime (cnt : OutCell) (h : HidWriteOutcome os past hds cnt run)
    (hinv : BlockInvariant schedule past hds)
    (hwaits : WaitsForBlock schedule (transferStepOf past hds (.hidWrite cnt) run)) :
    OneAtATime schedule (transferStepOf past hds (.hidWrite cnt) run) := by
  have hread := hinv.flagged.no_read hwaits.1
  have hwrite : schedule.inFlight past hds.devoverlapped .write = [] := hwaits.2
  cases h <;> simp [OneAtATime, transferStepOf, Throughout, hread, hwrite]

/-- Under the invariant, every transfer that waits uses the block for one request at a time. -/
theorem oneAtATime_step (op : TransferOp) (hinv : BlockInvariant schedule past hds)
    (hwaits : WaitsForBlock schedule (callStep (win32 os) transferWord past hds op)) :
    OneAtATime schedule (callStep (win32 os) transferWord past hds op) := by
  cases op with
  | hidRead cnt => exact hidRead_oneAtATime cnt (hidRead_outcome os past hds cnt) hinv hwaits
  | hidWrite cnt => exact hidWrite_oneAtATime cnt (hidWrite_outcome os past hds cnt) hinv hwaits

/-- After `hid-open` on a tuple whose flag is clear, no request was submitted
and the flag is clear. -/
theorem blockInvariant_opening (schedule : CompletionSchedule os)
    (hflag : hds.devreadpending = false) :
    BlockInvariant schedule (opening os hds).history (opening os hds).after := by
  have h := hidOpen_outcome os [] hds
  change BlockInvariant schedule ([] ++ (exec (win32 os) [] (hidOpen hds)).2)
    (exec (win32 os) [] (hidOpen hds)).1.2
  generalize exec (win32 os) [] (hidOpen hds) = run at h
  have hnone : ∀ overlapped, requests overlapped run.2 = [] := by
    intro overlapped
    cases h <;> rfl
  have hclear : run.1.2.devreadpending = false := by cases h <;> exact hflag
  constructor
  · intro i hi
    rw [mem_inFlight, List.nil_append, hnone] at hi
    cases hi.1
  · intro hset
    rw [hclear] at hset
    cases hset

/-- The schedule of a system that completes nothing. -/
def stalledSchedule (created : Handle) (read written cancelled closed : BoolReply) :
    CompletionSchedule (steadyOs created read written ⟨0, errorIoIncomplete⟩ cancelled closed) where
  done _ _ _ := false
  done_append _ _ _ _ h := h
  polled _ _ _ _ _ _ _ _ := rfl

/-- The schedule of a system that completes every request at once. -/
def promptSchedule (created : Handle) (read written polled cancelled closed : BoolReply) :
    CompletionSchedule (steadyOs created read written polled cancelled closed) where
  done _ _ _ := true
  done_append _ _ _ _ h := h
  polled _ _ _ _ _ _ _ hdone := by cases hdone

/-- Over a whole run of reads and writes that starts with the flag clear, and for every schedule
of completions, the block serves one request at a time and only reads are collected, if every
call waits for the block. -/
theorem transfers_oneAtATime (schedule : CompletionSchedule os) (hds : Hds) (ops : List TransferOp)
    (hflag : hds.devreadpending = false)
    (hwaits : ∀ step ∈ transferSession os hds ops, WaitsForBlock schedule step) :
    ∀ step ∈ transferSession os hds ops, OneAtATime schedule step :=
  session_forall_of_condition (BlockInvariant schedule) _ _
    (fun _ _ op hinv hwait => oneAtATime_step op hinv hwait)
    (fun _ _ op hinv hwait => blockInvariant_step op hinv hwait)
    _ _ _ (blockInvariant_opening schedule hflag) hwaits

/-- Two reads that are polled, and a write between them, wait for the block. -/
theorem transfers_oneAtATime_waiting :
    (transferSession
        (steadyOs (.handle 4) ⟨0, errorIoPending⟩ ⟨0, errorIoPending⟩ ⟨1, 0⟩ ⟨1, 0⟩ ⟨1, 0⟩)
        (preparedHds ⟨8, 8, "hid"⟩ 8 2 2 0 none)
        [.hidRead 0, .hidRead 0, .hidWrite 0, .hidRead 1, .hidRead 1]).map
          (·.after.devreadpending) =
      [true, false, false, true, false] ∧
    ∀ step ∈ transferSession
        (steadyOs (.handle 4) ⟨0, errorIoPending⟩ ⟨0, errorIoPending⟩ ⟨1, 0⟩ ⟨1, 0⟩ ⟨1, 0⟩)
        (preparedHds ⟨8, 8, "hid"⟩ 8 2 2 0 none)
        [.hidRead 0, .hidRead 0, .hidWrite 0, .hidRead 1, .hidRead 1],
      OneAtATime
        (promptSchedule (.handle 4) ⟨0, errorIoPending⟩ ⟨0, errorIoPending⟩ ⟨1, 0⟩ ⟨1, 0⟩ ⟨1, 0⟩)
        step :=
  ⟨by decide, transfers_oneAtATime _ _ _ rfl (by decide)⟩

/-- While a read is pending, `hid-write` submits its request with the same block. -/
theorem hidWrite_shares_block :
    (opening
        (steadyOs (.handle 4) ⟨0, errorIoPending⟩ ⟨0, errorIoPending⟩ ⟨0, errorIoIncomplete⟩
          ⟨1, 0⟩ ⟨1, 0⟩)
        (preparedHds ⟨8, 8, "hid"⟩ 8 2 2 0 none)).result = .ok true ∧
      ¬ ∀ step ∈ transferSession
          (steadyOs (.handle 4) ⟨0, errorIoPending⟩ ⟨0, errorIoPending⟩ ⟨0, errorIoIncomplete⟩
            ⟨1, 0⟩ ⟨1, 0⟩)
          (preparedHds ⟨8, 8, "hid"⟩ 8 2 2 0 none) [.hidRead 0, .hidWrite 0],
        OneAtATime
          (stalledSchedule (.handle 4) ⟨0, errorIoPending⟩ ⟨0, errorIoPending⟩ ⟨1, 0⟩ ⟨1, 0⟩)
          step := by
  decide

end FactorUsb.Hid
