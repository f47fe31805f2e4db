import FactorUsb.Calls.History
import FactorUsb.Hid.Outcome

/-!
# Polling reads: every read is delivered once and in order

One logical read may take any number of `hid-read` calls: the first submits it, and the
following ones poll it until it completes or fails. A ledger numbers the reads in issue
order and follows each of them through the replies the system gave.

The pending flag says whether the newest read is outstanding. This keeps at most one
read in the ledger's outstanding column, and makes the calls that report data list
exactly the successful reads, in issue order.
-/

namespace FactorUsb.Hid

open FactorUsb.Calls

/-- The reads issued on one handle and block, numbered in issue order, by what became of them. -/
structure ReadLedger where
  issued : ℕ
  outstanding : List ℕ
  succeeded : List ℕ
  failed : List ℕ
  deriving DecidableEq, Repr

/-- Enter a new read with the outcome of its `ReadFile`. -/
def ReadLedger.submit (ledger : ReadLedger) (reply : BoolReply) : ReadLedger :=
  if reply.value ≠ 0 then
    { ledger with issued := ledger.issued + 1, succeeded := ledger.succeeded ++ [ledger.issued] }
  else if reply.error = errorIoPending then
    { ledger with
      issued := ledger.issued + 1
      outstanding := ledger.outstanding ++ [ledger.issued] }
  else { ledger with issued := ledger.issued + 1, failed := ledger.failed ++ [ledger.issued] }

/-- Settle the newest outstanding read by the outcome of a `GetOverlappedResult`. -/
def ReadLedger.poll (ledger : ReadLedger) (reply : BoolReply) : ReadLedger :=
  match ledger.outstanding.getLast? with
  | none => ledger
  | some id =>
    if reply.value ≠ 0 then
      { ledger with
        outstanding := ledger.outstanding.dropLast
        succeeded := ledger.succeeded ++ [id] }
    else if reply.error = errorIoIncomplete then ledger
    else { ledger with outstanding := ledger.outstanding.dropLast, failed := ledger.failed ++ [id] }

/-- Enter one event, if it concerns the handle and block of the ledger. -/
def ReadLedger.record (handle : Option Handle) (overlapped : Option Overlapped)
    (ledger : ReadLedger) :
    Win32Event → ReadLedger
  | ⟨.readFile h _ _ _ o, reply⟩ => if h = handle ∧ o = overlapped then ledger.submit reply
      else ledger
  | ⟨.getOverlappedResult h o _ _, reply⟩ =>
    if h = handle ∧ o = overlapped then ledger.poll reply else ledger
  | _ => ledger

/-- The ledger of the stored handle and block after a history. -/
def readLedger (hds : Hds) (history : List Win32Event) : ReadLedger :=
  history.foldl (ReadLedger.record hds.devhandle hds.devoverlapped) ⟨0, [], [], []⟩

/-- Appended events are entered into the ledger of the history before them. -/
theorem readLedger_append (hds : Hds) (past events : List Win32Event) :
    readLedger hds (past ++ events) =
      events.foldl (ReadLedger.record hds.devhandle hds.devoverlapped) (readLedger hds past) :=
  List.foldl_append

/-- `BOOL` results are 0 or 1, and neither function fails with the other's waiting code. -/
structure PollingOs (os : Win32Environment) : Prop where
  boolResults : BoolResults os
  readFile_error : ∀ past handle buffer sz cnt overlapped,
    (os past (.readFile handle buffer sz cnt overlapped) : BoolReply).value = 0 →
      (os past (.readFile handle buffer sz cnt overlapped) : BoolReply).error ≠ errorIoIncomplete
  getOverlappedResult_error : ∀ past handle overlapped cnt wait,
    (os past (.getOverlappedResult handle overlapped cnt wait) : BoolReply).value = 0 →
      (os past (.getOverlappedResult handle overlapped cnt wait) : BoolReply).error ≠ errorIoPending

/-- One completed `hid-read`. -/
abbrev ReadStep := CallStep Win32Call Win32Reply Hds OutCell (Except FactorError Bool)

/-- `hid-read` with the tuple last, as a session word. -/
def readWord (cnt : OutCell) (hds : Hds) : HidWord := hidRead hds cnt

/-- `hid-read` called again and again directly after `hid-open`. -/
def pollingSession (os : Win32Environment) (hds : Hds) (cnts : List OutCell) : List ReadStep :=
  session (win32 os) readWord (opening os hds).history (opening os hds).after cnts

/-- The event is a `ReadFile`. -/
@[simp] def submitsRead : Win32Event → Bool
  | ⟨.readFile .., _⟩ => true
  | _ => false

/-- At every moment of the call at most one read is outstanding, and none
when `ReadFile` is called. -/
def OneOutstanding (step : ReadStep) : Prop :=
  Throughout (fun past e => (readLedger step.before (past ++ [e])).outstanding.length ≤ 1 ∧
    (submitsRead e = true → (readLedger step.before past).outstanding = [])) step.past step.events

/-- The read a call reports: one that returns true and
leaves the flag clear reports the newest success. -/
def reportedRead (step : ReadStep) : Option ℕ :=
  if step.result = .ok true ∧ step.after.devreadpending = false then
    (readLedger step.before step.history).succeeded.getLast?
  else none

/-- A call reports one success, waits without data, or reports one failure and cancels once. -/
def ReportsOutcome (step : ReadStep) : Prop :=
  let earlier := readLedger step.before step.past
  let now := readLedger step.before step.history
  let cancels := (step.events.filterMap cancelReply).length
  match step.result, step.after.devreadpending with
  | .ok true, false =>
    (∃ id, now.succeeded = earlier.succeeded ++ [id]) ∧ now.failed = earlier.failed ∧ cancels = 0
  | .ok true, true => now.succeeded = earlier.succeeded ∧ now.failed = earlier.failed ∧ cancels = 0
  | .ok false, pending =>
    pending = false ∧ now.succeeded = earlier.succeeded ∧
      (∃ id, now.failed = earlier.failed ++ [id]) ∧ cancels = 1
  | .error _, _ => False

/-- The moves of the polling protocol on its ledger, with the
result, the flag and the number of cancels. -/
inductive PollingMove (ledger : ReadLedger) : Bool → Bool → ℕ → ReadLedger → Prop where
  | deliveredNow (hidle : ledger.outstanding = []) :
      PollingMove ledger true false 0
        { ledger with
          issued := ledger.issued + 1
          succeeded := ledger.succeeded ++ [ledger.issued] }
  | submitted (hidle : ledger.outstanding = []) :
      PollingMove ledger true true 0
        { ledger with issued := ledger.issued + 1, outstanding := [ledger.issued] }
  | refused (hidle : ledger.outstanding = []) :
      PollingMove ledger false false 1
        { ledger with issued := ledger.issued + 1, failed := ledger.failed ++ [ledger.issued] }
  | delivered (id : ℕ) (hpending : ledger.outstanding = [id]) :
      PollingMove ledger true false 0
        { ledger with outstanding := [], succeeded := ledger.succeeded ++ [id] }
  | waiting (id : ℕ) (hpending : ledger.outstanding = [id]) : PollingMove ledger true true 0 ledger
  | lost (id : ℕ) (hpending : ledger.outstanding = [id]) :
      PollingMove ledger false false 1
        { ledger with outstanding := [], failed := ledger.failed ++ [id] }

/-- The newest read is outstanding when the flag is set, and every success was issued before it. -/
structure PollingInvariant (ledger : ReadLedger) (flag : Bool) : Prop where
  idle : flag = false → ledger.outstanding = []
  pending : flag = true → ∃ id, ledger.outstanding = [id]
  ordered : (ledger.succeeded ++ ledger.outstanding ++ [ledger.issued]).Pairwise (· < ·)

/-- At most one read is outstanding, whatever the flag. -/
theorem PollingInvariant.length_le {ledger : ReadLedger} {flag : Bool}
    (h : PollingInvariant ledger flag) :
    ledger.outstanding.length ≤ 1 := by
  cases flag with
  | false => rw [h.idle rfl]; simp
  | true =>
    obtain ⟨id, hid⟩ := h.pending rfl
    rw [hid]
    simp

/-- Strictly increasing numbers below a bound stay so when the bound itself is appended. -/
theorem pairwise_lt_append_succ {ids : List ℕ} {bound : ℕ} (h : (ids ++ [bound]).Pairwise (· < ·)) :
    (ids ++ [bound] ++ [bound + 1]).Pairwise (· < ·) := by
  rw [List.pairwise_append]
  refine ⟨h, List.pairwise_singleton _ _, fun id hid next hnext => ?_⟩
  obtain rfl := List.mem_singleton.mp hnext
  rcases List.mem_append.mp hid with hold | hlast
  · have hless := (List.pairwise_append.mp h).2.2 id hold bound (List.mem_singleton_self bound)
    omega
  · have hbound := List.mem_singleton.mp hlast
    omega

/-- Every move keeps the newest read outstanding and the successes in issue order. -/
theorem PollingMove.invariant {ledger now : ReadLedger} {result flag flag' : Bool} {cancels : ℕ}
    (h : PollingMove ledger result flag' cancels now) (hinv : PollingInvariant ledger flag) :
    PollingInvariant now flag' := by
  have hordered := hinv.ordered
  cases h with
  | deliveredNow hidle =>
    rw [hidle, List.append_nil] at hordered
    exact ⟨fun _ => hidle, by simp, by simpa [hidle] using pairwise_lt_append_succ hordered⟩
  | submitted hidle =>
    rw [hidle, List.append_nil] at hordered
    exact ⟨by simp, fun _ => ⟨_, rfl⟩, pairwise_lt_append_succ hordered⟩
  | refused hidle =>
    rw [hidle, List.append_nil] at hordered
    have hnext := pairwise_lt_append_succ hordered
    refine ⟨fun _ => hidle, by simp, ?_⟩
    rw [hidle, List.append_nil]
    exact hnext.sublist ((List.sublist_append_left _ _).append_right _)
  | delivered id hpending =>
    rw [hpending] at hordered
    exact ⟨fun _ => rfl, by simp, by simpa using hordered⟩
  | waiting id hpending => exact ⟨by simp, fun _ => ⟨id, hpending⟩, hordered⟩
  | lost id hpending =>
    refine ⟨fun _ => rfl, by simp, hordered.sublist ?_⟩
    rw [List.append_nil]
    exact (List.sublist_append_left _ _).append_right _

/-- A move's outcome is the one its result and flag report. -/
theorem PollingMove.reports {step : ReadStep} {result : Bool} (hresult : step.result = .ok result)
    (h : PollingMove (readLedger step.before step.past) result step.after.devreadpending
      (step.events.filterMap cancelReply).length (readLedger step.before step.history)) :
    ReportsOutcome step := by
  unfold ReportsOutcome
  rw [hresult]
  generalize step.after.devreadpending = flag at h
  generalize (step.events.filterMap cancelReply).length = cancels at h
  generalize readLedger step.before step.history = now at h
  cases h with
  | deliveredNow hidle => exact ⟨⟨_, rfl⟩, rfl, rfl⟩
  | submitted hidle => exact ⟨rfl, rfl, rfl⟩
  | refused hidle => exact ⟨rfl, rfl, ⟨_, rfl⟩, rfl⟩
  | delivered id hpending => exact ⟨⟨_, rfl⟩, rfl, rfl⟩
  | waiting id hpending => exact ⟨rfl, rfl, rfl⟩
  | lost id hpending => exact ⟨rfl, rfl, ⟨_, rfl⟩, rfl⟩

/-- A move lengthens the successes by the read its call reports. -/
theorem ReportsOutcome.succeeded {step : ReadStep} (h : ReportsOutcome step) :
    (readLedger step.before step.history).succeeded =
      (readLedger step.before step.past).succeeded ++ (reportedRead step).toList := by
  unfold ReportsOutcome at h
  unfold reportedRead
  split at h
  next hresult hflag =>
    obtain ⟨⟨id, hid⟩, -⟩ := h
    simp [hresult, hflag, hid]
  next hresult hflag => simp [hresult, hflag, h.1]
  next _ _ hresult => simp [hresult, h.2.1]
  next => exact h.elim

variable {os : Win32Environment} {past : List Win32Event} {hds : Hds} {run : HidRun}

/-- The record of a `hid-read` that ran as given. -/
def readStepOf (past : List Win32Event) (hds : Hds) (cnt : OutCell) (run : HidRun) : ReadStep :=
  ⟨past, hds, cnt, run.1.1, run.1.2, run.2⟩

/-- Every execution of `hid-read` makes one move of the polling protocol. -/
theorem hidRead_move (hos : PollingOs os) (cnt : OutCell) (h : HidReadOutcome os past hds cnt run)
    (hinv : PollingInvariant (readLedger hds past) hds.devreadpending) :
    ∃ result, run.1.1 = .ok result ∧
      PollingMove (readLedger hds past) result run.1.2.devreadpending
        (run.2.filterMap cancelReply).length
        (readLedger hds (past ++ run.2)) := by
  rw [readLedger_append]
  cases h with
  | readNow reply hflag hreply hvalue =>
    refine ⟨true, rfl, ?_⟩
    simpa [List.filterMap_cons, ReadLedger.record, ReadLedger.submit, hvalue] using
      PollingMove.deliveredNow (hinv.idle hflag)
  | submitted reply hflag hreply hvalue herror =>
    have hpending : reply.error = errorIoPending :=
      herror.resolve_left (by rw [hreply] at hvalue ⊢; exact hos.readFile_error _ _ _ _ _ _ hvalue)
    refine ⟨true, rfl, ?_⟩
    simpa [List.filterMap_cons, ReadLedger.record, ReadLedger.submit, hvalue, hpending,
      hinv.idle hflag] using
      PollingMove.submitted (hinv.idle hflag)
  | refused reply cancelled hflag hreply hvalue herror hcancelled =>
    have hpending : reply.error ≠ errorIoPending := fun h => herror (.inr h)
    refine ⟨false, rfl, ?_⟩
    simpa [List.filterMap_cons, ReadLedger.record, ReadLedger.submit, hvalue, hpending] using
      PollingMove.refused (hinv.idle hflag)
  | collected reply hflag hreply hvalue =>
    obtain ⟨id, hid⟩ := hinv.pending hflag
    refine ⟨true, rfl, ?_⟩
    simpa [List.filterMap_cons, ReadLedger.record, ReadLedger.poll, hvalue, hid] using
      PollingMove.delivered id hid
  | stillPending reply error hflag hreply hvalue hreport herror hcode =>
    obtain ⟨id, hid⟩ := hinv.pending hflag
    have hzero : reply.value = 0 :=
      hos.boolResults.eq_zero (overlappedCall hds cnt) (congrArg some hreply.symm) hvalue
    have hincomplete : reply.error = errorIoIncomplete := by
      apply ((hreport hzero) ▸ herror).resolve_right
      rw [hreply] at hzero ⊢
      exact hos.getOverlappedResult_error _ _ _ _ _ hzero
    refine ⟨true, rfl, ?_⟩
    simpa [List.filterMap_cons, ReadLedger.record, ReadLedger.poll, hzero, hincomplete, hid,
      hflag] using PollingMove.waiting id hid
  | lost reply cancelled error hflag hreply hvalue hreport herror hcode hcancelled =>
    obtain ⟨id, hid⟩ := hinv.pending hflag
    have hzero : reply.value = 0 :=
      hos.boolResults.eq_zero (overlappedCall hds cnt) (congrArg some hreply.symm) hvalue
    have hfinished : reply.error ≠ errorIoIncomplete :=
      fun h => herror (.inl ((hreport hzero).trans h))
    refine ⟨false, rfl, ?_⟩
    simpa [List.filterMap_cons, ReadLedger.record, ReadLedger.poll, hzero, hfinished, hid] using
      PollingMove.lost id hid

/-- Only the first event of a `hid-read` changes the ledger,
and a `ReadFile` finds nothing outstanding. -/
theorem hidRead_oneOutstanding (hos : PollingOs os) (cnt : OutCell)
    (h : HidReadOutcome os past hds cnt run)
    (hinv : PollingInvariant (readLedger hds past) hds.devreadpending) :
    OneOutstanding (readStepOf past hds cnt run) := by
  obtain ⟨result, hresult, hmove⟩ := hidRead_move hos cnt h hinv
  have hone := (hmove.invariant hinv).length_le
  rw [readLedger_append] at hone
  cases h with
  | readNow reply hflag hreply hvalue =>
    simpa [OneOutstanding, readStepOf, Throughout, readLedger_append, ReadLedger.record,
      hinv.idle hflag] using hone
  | submitted reply hflag hreply hvalue herror =>
    simpa [OneOutstanding, readStepOf, Throughout, readLedger_append, ReadLedger.record,
      hinv.idle hflag] using hone
  | refused reply cancelled hflag hreply hvalue herror hcancelled =>
    simpa [OneOutstanding, readStepOf, Throughout, readLedger_append, ReadLedger.record,
      hinv.idle hflag] using hone
  | collected reply hflag hreply hvalue =>
    simpa [OneOutstanding, readStepOf, Throughout, readLedger_append, ReadLedger.record] using hone
  | stillPending reply error hflag hreply hvalue hreport herror hcode =>
    simpa [OneOutstanding, readStepOf, Throughout, readLedger_append, ReadLedger.record] using hone
  | lost reply cancelled error hflag hreply hvalue hreport herror hcode hcancelled =>
    simpa [OneOutstanding, readStepOf, Throughout, readLedger_append, ReadLedger.record] using hone

/-- The ledger depends on the tuple only through its handle and block. -/
theorem readLedger_frame (cnt : OutCell) (h : HidReadOutcome os past hds cnt run) :
    readLedger run.1.2 = readLedger hds := by
  rw [h.frame]
  rfl

/-- The polling invariant of a run that began with the given tuple. -/
def PollingRun (opened : Hds) (past : List Win32Event) (hds : Hds) : Prop :=
  readLedger hds = readLedger opened ∧ PollingInvariant (readLedger hds past) hds.devreadpending

/-- A `hid-read` keeps the polling invariant. -/
theorem pollingRun_step (hos : PollingOs os) {opened : Hds} (cnt : OutCell)
    (hrun : PollingRun opened past hds) :
    PollingRun opened (callStep (win32 os) readWord past hds cnt).history
      (callStep (win32 os) readWord past hds cnt).after := by
  have h := hidRead_outcome os past hds cnt
  obtain ⟨result, hresult, hmove⟩ := hidRead_move hos cnt h hrun.2
  have hframe : readLedger (callStep (win32 os) readWord past hds cnt).after = readLedger hds :=
    readLedger_frame cnt h
  refine ⟨hframe.trans hrun.1, ?_⟩
  rw [hframe]
  exact hmove.invariant hrun.2

/-- A `hid-read` in a polling run reports what became of its request. -/
theorem pollingRun_reports (hos : PollingOs os) {opened : Hds} (cnt : OutCell)
    (hrun : PollingRun opened past hds) :
    ReportsOutcome (callStep (win32 os) readWord past hds cnt) := by
  obtain ⟨result, hresult, hmove⟩ := hidRead_move hos cnt (hidRead_outcome os past hds cnt) hrun.2
  exact PollingMove.reports hresult hmove

/-- `hid-open` submits nothing, so a polling run starts with an empty ledger. -/
theorem readLedger_opening (os : Win32Environment) (hds : Hds) :
    readLedger (opening os hds).after (opening os hds).history = ⟨0, [], [], []⟩ := by
  have h := hidOpen_outcome os [] hds
  change readLedger (exec (win32 os) [] (hidOpen hds)).1.2
    ([] ++ (exec (win32 os) [] (hidOpen hds)).2) = _
  generalize exec (win32 os) [] (hidOpen hds) = run at h
  cases h <;> rfl

/-- After a successful `hid-open`, every sequence of `hid-read` calls keeps at most one read
outstanding, every call reports what became of its request, and the reads reported are, in
the order of the calls, exactly the successful ones in issue order. -/
theorem hidRead_polling (hos : PollingOs os) (hds : Hds) (cnts : List OutCell)
    (hflag : (opening os hds).after.devreadpending = false) :
    let run := pollingSession os hds cnts
    let ledger := readLedger (opening os hds).after
      ((opening os hds).history ++ run.flatMap CallStep.events)
    (∀ step ∈ run, OneOutstanding step ∧ ReportsOutcome step) ∧
      run.filterMap reportedRead = ledger.succeeded ∧ ledger.succeeded.Pairwise (· < ·) := by
  have hempty := readLedger_opening os hds
  have hstart : PollingRun (opening os hds).after (opening os hds).history
      (opening os hds).after := by
    refine ⟨rfl, ?_⟩
    rw [hempty, hflag]
    exact ⟨fun _ => rfl, by simp, by simp⟩
  have hstep : ∀ past' hds' cnt, PollingRun (opening os hds).after past' hds' →
      PollingRun (opening os hds).after (callStep (win32 os) readWord past' hds' cnt).history
        (callStep (win32 os) readWord past' hds' cnt).after :=
    fun _ _ cnt hrun => pollingRun_step hos cnt hrun
  refine ⟨?_, ?_, ?_⟩
  · refine session_forall (PollingRun (opening os hds).after) _
      (fun past hds cnt hrun => ⟨?_, ?_⟩) hstep _ _ _ hstart
    · exact hidRead_oneOutstanding hos cnt (hidRead_outcome os past hds cnt) hrun.2
    · exact pollingRun_reports hos cnt hrun
  · -- the ledger's successes grow by exactly what each call reports
    have hadded : ∀ past' hds' cnt, PollingRun (opening os hds).after past' hds' →
        (readLedger (opening os hds).after
            (callStep (win32 os) readWord past' hds' cnt).history).succeeded =
          (readLedger (opening os hds).after past').succeeded ++
            (reportedRead (callStep (win32 os) readWord past' hds' cnt)).toList := by
      intro past' hds' cnt hrun
      rw [← hrun.1]
      exact (pollingRun_reports hos cnt hrun).succeeded
    have hgrow := session_filterMap (PollingRun (opening os hds).after)
      (fun history => (readLedger (opening os hds).after history).succeeded) reportedRead
      hadded hstep _ _ cnts hstart
    rw [hempty, List.nil_append] at hgrow
    exact hgrow.symm
  · refine session_history
      (Q := fun history => (readLedger (opening os hds).after history).succeeded.Pairwise (· < ·))
      (PollingRun (opening os hds).after) hstep (fun past hds hrun => ?_) _ _ cnts hstart
    rw [← hrun.1]
    exact hrun.2.ordered.sublist
      ((List.sublist_append_left _ _).trans (List.sublist_append_left _ _))

/-- The polling guarantees where every read is pending first and
complete when polled: three calls, one report. -/
theorem hidRead_polling_pending :
    PollingOs (steadyOs (.handle 4) ⟨0, errorIoPending⟩ ⟨1, 0⟩ ⟨1, 0⟩ ⟨1, 0⟩ ⟨1, 0⟩) ∧
      (pollingSession (steadyOs (.handle 4) ⟨0, errorIoPending⟩ ⟨1, 0⟩ ⟨1, 0⟩ ⟨1, 0⟩ ⟨1, 0⟩)
        (preparedHds ⟨8, 8, "hid"⟩ 8 2 2 0 none) [0, 0, 0]).filterMap reportedRead = [0] := by
  have hos : PollingOs (steadyOs (.handle 4) ⟨0, errorIoPending⟩ ⟨1, 0⟩ ⟨1, 0⟩ ⟨1, 0⟩ ⟨1, 0⟩) :=
    ⟨steadyOs_boolResults _ _ _ _ _ _ (by simp), by
      simp [steadyOs, errorIoPending, errorIoIncomplete],
      by simp [steadyOs]⟩
  refine ⟨hos, ?_⟩
  rw [(hidRead_polling hos (preparedHds ⟨8, 8, "hid"⟩ 8 2 2 0 none) [0, 0, 0] (by decide)).2.1]
  decide

end FactorUsb.Hid
