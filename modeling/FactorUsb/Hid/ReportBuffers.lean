import FactorUsb.Calls.Fleet
import FactorUsb.Hid.FindDevices
import FactorUsb.Hid.HandleOwnership
import Mathlib.Algebra.Order.BigOperators.Group.List
import Mathlib.Algebra.Order.Group.Nat
import Mathlib.Algebra.Ring.Nat

/-!
# Report buffers fit the interface behind the handle

The report sizes are read from an interface's capabilities while the devices are found,
the buffers are allocated when a device is opened, and their lengths are passed at every
read and write. The devices found are then used together, in any interleaving.

Whenever a transfer is made on a handle, the buffer and length passed are those of the
interface whose path the handle was opened from, however often devices are closed and
opened again. The system is only assumed not to give out a handle that is still open.
-/

namespace FactorUsb.Hid

open FactorUsb.Calls

/-- `CreateFile` does not return a handle that is still open. -/
def FreshHandles (os : Win32Environment) : Prop :=
  ∀ past path access share disposition flags n,
    os past (.createFile path access share disposition flags) = Handle.handle n →
      ¬ OpenHandle past n

/-- The path of a `CreateFile` that returned the handle. -/
def openingPath (n : ℕ) : Win32Event → Option DevicePath
  | ⟨.createFile path .., handle⟩ => if handle = Handle.handle n then some path else none
  | _ => none

/-- The path the handle was last opened from. -/
def openedFrom (history : List Win32Event) (n : ℕ) : Option DevicePath :=
  (history.filterMap (openingPath n)).getLast?

/-- A transfer on a valid handle: its kind, the handle, and the buffer and length passed. -/
structure ReportTransfer where
  kind : TransferKind
  handle : ℕ
  buffer : Option ReportBuffer
  sz : ℕ

/-- A transfer asked for with the handle argument, if that is a valid handle. -/
def transferOn (kind : TransferKind) (buffer : Option ReportBuffer) (sz : ℕ) :
    Option Handle → Option ReportTransfer
  | some (.handle n) => some ⟨kind, n, buffer, sz⟩
  | _ => none

/-- The transfer an event asks for. -/
@[simp] def reportTransfer : Win32Event → Option ReportTransfer
  | ⟨.readFile handle buffer sz _ _, _⟩ => transferOn .read buffer sz handle
  | ⟨.writeFile handle buffer sz _ _, _⟩ => transferOn .write buffer sz handle
  | _ => none

/-- The report length of a transfer in the interface's capabilities. -/
def Interface.reportLength (itf : Interface) : TransferKind → ℕ
  | .read => itf.caps.capabilities.inputReportByteLength
  | .write => itf.caps.capabilities.outputReportByteLength

/-- The handle was opened from the interface's path, and a buffer of its report length is passed. -/
structure ReportTransfer.Fits (transfer : ReportTransfer) (past : List Win32Event)
    (itf : Interface) : Prop where
  opened : openedFrom past transfer.handle = some itf.detail.devicePath
  buffer : transfer.buffer = some (byteArray (itf.reportLength transfer.kind))
  sz : transfer.sz = itf.reportLength transfer.kind

/-- One call of a session word on one of several devices. -/
abbrev FleetStep := CallStep Win32Call Win32Reply (List Hds) (ℕ × HidOp) (Except FactorError Bool)

/-- Session words called on the devices of a vector, in any interleaving. -/
def fleetSession (os : Win32Environment) (past : List Win32Event) (devices : List Hds)
    (ops : List (ℕ × HidOp)) :
    List FleetStep :=
  session (win32 os) (fleetWord hidWord (.ok false)) past devices ops

/-- Every transfer of the call fits the qualifying interface its device was made from. -/
def ReportsFit (itfs : List Interface) (step : FleetStep) : Prop :=
  Throughout (fun past e => ∀ transfer ∈ reportTransfer e,
    ∃ itf, (itfs.filter fun itf => itf.Qualifies)[step.op.1]? = some itf ∧ transfer.Fits past itf)
    step.past step.events

/-- The tuple was made from the interface, and an open one has its handle and buffers. -/
structure MadeFrom (past : List Win32Event) (itf : Interface) (hds : Hds) : Prop where
  devicePath : hds.devdetail.map DevDetail.devicePath = some itf.detail.devicePath
  inputreportsz : hds.inputreportsz = itf.reportLength .read
  outputreportsz : hds.outputreportsz = itf.reportLength .write
  openHandle : ∀ n, hds.devhandle = some (.handle n) → OpenHandle past n
  opened : ∀ n, hds.devhandle = some (.handle n) → openedFrom past n = some itf.detail.devicePath
  inputreport : ∀ n, hds.devhandle = some (.handle n) →
    hds.inputreport = some (byteArray (itf.reportLength .read))
  outputreport : ∀ n, hds.devhandle = some (.handle n) →
    hds.outputreport = some (byteArray (itf.reportLength .write))

/-- The events neither return the handle nor close it. -/
def LeavesAlone (n : ℕ) (events : List Win32Event) : Prop :=
  ∀ e ∈ events, obtainsHandle n e = false ∧ closesHandle n e = false

variable {os : Win32Environment} {past : List Win32Event} {hds : Hds} {run : HidRun}
  {itf : Interface} {n : ℕ}

/-- A handle left alone stays open. -/
theorem LeavesAlone.openHandle {events : List Win32Event} (h : LeavesAlone n events) :
    OpenHandle (past ++ events) n ↔ OpenHandle past n :=
  held_append_of_neutral past events (fun e he => (h e he).1) (fun e he => (h e he).2)

/-- An event that does not return the handle opens it from nowhere. -/
theorem openingPath_eq_none {e : Win32Event} (h : obtainsHandle n e = false) :
    openingPath n e = none := by
  obtain ⟨c, reply⟩ := e
  cases c <;> simp_all [openingPath]

/-- A handle left alone keeps the path it was opened from. -/
theorem LeavesAlone.openedFrom {events : List Win32Event} (h : LeavesAlone n events) :
    openedFrom (past ++ events) n = openedFrom past n := by
  have hnone : events.filterMap (openingPath n) = [] :=
    List.filterMap_eq_nil_iff.mpr fun e he => openingPath_eq_none (h e he).1
  rw [FactorUsb.Hid.openedFrom, List.filterMap_append, hnone, List.append_nil]
  rfl

/-- A tuple whose handle and buffers are kept stays as made while the calls
leave its handle alone. -/
theorem MadeFrom.keep {events : List Win32Event} {after : Hds} (hmade : MadeFrom past itf hds)
    (hdetail : after.devdetail = hds.devdetail) (hin : after.inputreportsz = hds.inputreportsz)
    (hout : after.outputreportsz = hds.outputreportsz)
    (hinbuf : after.inputreport = hds.inputreport) (houtbuf : after.outputreport = hds.outputreport)
    (hhandle : ∀ n, after.devhandle = some (.handle n) → hds.devhandle = some (.handle n) ∧
      LeavesAlone n events) :
    MadeFrom (past ++ events) itf after where
  devicePath := by rw [hdetail, hmade.devicePath]
  inputreportsz := by rw [hin, hmade.inputreportsz]
  outputreportsz := by rw [hout, hmade.outputreportsz]
  openHandle n hn := (hhandle n hn).2.openHandle.mpr (hmade.openHandle n (hhandle n hn).1)
  opened n hn := by rw [(hhandle n hn).2.openedFrom, hmade.opened n (hhandle n hn).1]
  inputreport n hn := by rw [hinbuf, hmade.inputreport n (hhandle n hn).1]
  outputreport n hn := by rw [houtbuf, hmade.outputreport n (hhandle n hn).1]

/-- A call that at most moves the flag and leaves every handle alone keeps the tuple as made. -/
theorem MadeFrom.flag {events : List Win32Event} (hmade : MadeFrom past itf hds) (flag : Bool)
    (halone : ∀ n, LeavesAlone n events) :
    MadeFrom (past ++ events) itf { hds with devreadpending := flag } :=
  hmade.keep rfl rfl rfl rfl rfl fun n hn => ⟨hn, halone n⟩

/-- `hid-read` obtains and closes no handle. -/
theorem HidReadOutcome.leavesAlone {cnt : OutCell} (h : HidReadOutcome os past hds cnt run)
    (n : ℕ) :
    LeavesAlone n run.2 := by
  cases h <;> simp [LeavesAlone]

/-- `hid-write` obtains and closes no handle. -/
theorem HidWriteOutcome.leavesAlone {cnt : OutCell} (h : HidWriteOutcome os past hds cnt run)
    (n : ℕ) : LeavesAlone n run.2 := by
  cases h <;> simp [LeavesAlone]

/-- A session call keeps its tuple as made from its interface. -/
theorem madeFrom_step {op : HidOp} (h : HidOutcome os past hds op run)
    (hmade : MadeFrom past itf hds) :
    MadeFrom (past ++ run.2) itf run.1.2 := by
  cases h with
  | hidOpen h =>
    cases h with
    | noDetail hdetail => exact hmade.flag _ (by simp [LeavesAlone])
    | refused devdetail hdetail hreply =>
      exact hmade.keep rfl rfl rfl rfl rfl fun n hn => by simp at hn
    | opened devdetail m overlapped hdetail hreply =>
      have hpath : devdetail.devicePath = itf.detail.devicePath := by
        simpa [hdetail] using hmade.devicePath
      refine ⟨hmade.devicePath, hmade.inputreportsz, hmade.outputreportsz, ?_, ?_, ?_, ?_⟩
      · intro n hn
        have hmn : m = n := by simpa [Hds.opened] using hn
        simp [hmn]
      · intro n hn
        have hmn : m = n := by simpa [Hds.opened] using hn
        simp [openedFrom, List.filterMap_cons, openingPath, hmn, hpath]
      · exact fun n _ => congrArg (some <| byteArray ·) hmade.inputreportsz
      · exact fun n _ => congrArg (some <| byteArray ·) hmade.outputreportsz
  | hidClose h =>
    cases h with
    | closed m cancelled closed hhandle hreply hvalue hclosed =>
      exact hmade.keep rfl rfl rfl rfl rfl fun n hn => by simp at hn
    | _ => exact hmade.flag _ (by simp [LeavesAlone])
  | hidRead cnt h =>
    rw [h.frame]
    exact hmade.flag _ h.leavesAlone
  | hidWrite cnt h =>
    rw [h.frame]
    exact hmade.flag _ h.leavesAlone

/-- A session call leaves alone every open handle but its own. -/
theorem leavesAlone_of_open (hfresh : FreshHandles os) {op : HidOp}
    (h : HidOutcome os past hds op run) (hopen : OpenHandle past n)
    (hother : hds.devhandle ≠ some (.handle n)) : LeavesAlone n run.2 := by
  cases h with
  | hidOpen h =>
    cases h with
    | opened devdetail m overlapped hdetail hreply =>
      have hmn : m ≠ n := fun hmn => hfresh _ _ _ _ _ _ _ hreply (hmn ▸ hopen)
      simp [LeavesAlone, hmn]
    | _ => simp [LeavesAlone]
  | hidClose h =>
    cases h with
    | closed m cancelled closed hhandle hreply hvalue hclosed =>
      have hmn : m ≠ n := fun hmn => hother (hmn ▸ hhandle)
      simp [LeavesAlone, hmn]
    | _ => simp [LeavesAlone]
  | hidRead cnt h => exact h.leavesAlone n
  | hidWrite cnt h => exact h.leavesAlone n

/-- A handle stored by a session call was stored before it or was not open. -/
theorem storedHandle_step (hfresh : FreshHandles os) {op : HidOp}
    (h : HidOutcome os past hds op run) (hn : run.1.2.devhandle = some (.handle n)) :
    hds.devhandle = some (.handle n) ∨ ¬ OpenHandle past n := by
  cases h with
  | hidOpen h =>
    cases h with
    | noDetail hdetail => exact Or.inl hn
    | refused devdetail hdetail hreply => simp at hn
    | opened devdetail m overlapped hdetail hreply =>
      have hmn : m = n := by simpa [Hds.opened] using hn
      exact Or.inr (hfresh _ _ _ _ _ _ _ (hmn ▸ hreply))
  | hidClose h =>
    cases h with
    | closed m cancelled closed hhandle hreply hvalue hclosed => simp at hn
    | _ => exact Or.inl hn
  | hidRead cnt h => cases h <;> exact Or.inl hn
  | hidWrite cnt h => cases h <;> exact Or.inl hn

/-- A transfer on the stored handle fits the interface when
its buffer is the one allocated for the handle. -/
theorem MadeFrom.fits {kind : TransferKind} {buffer : Option ReportBuffer}
    {transfer : ReportTransfer} (hmade : MadeFrom past itf hds)
    (hbuffer : ∀ m, hds.devhandle = some (.handle m) →
      buffer = some (byteArray (itf.reportLength kind)))
    (htransfer : transferOn kind buffer (byteLength buffer) hds.devhandle = some transfer) :
    transfer.Fits past itf := by
  rcases hhandle : hds.devhandle with _ | (_ | m) <;> rw [hhandle] at htransfer <;> cases htransfer
  refine ⟨hmade.opened m hhandle, hbuffer m hhandle, ?_⟩
  rw [hbuffer m hhandle]
  rfl

/-- Every transfer of a session call fits the interface its tuple was made from. -/
theorem transfers_fit {op : HidOp} (h : HidOutcome os past hds op run)
    (hmade : MadeFrom past itf hds) :
    Throughout (fun past e => ∀ transfer ∈ reportTransfer e, transfer.Fits past itf)
      past run.2 := by
  have hread : ∀ transfer,
      transferOn .read hds.inputreport (byteLength hds.inputreport) hds.devhandle = some transfer →
        transfer.Fits past itf :=
    fun _ => hmade.fits hmade.inputreport
  have hwrite : ∀ transfer,
      transferOn .write hds.outputreport (byteLength hds.outputreport) hds.devhandle =
        some transfer →
        transfer.Fits past itf :=
    fun _ => hmade.fits hmade.outputreport
  cases h with
  | hidOpen h => cases h <;> simp [Throughout]
  | hidClose h => cases h <;> simp [Throughout]
  | hidRead cnt h =>
    cases h with
    | readNow | submitted | refused => simpa [Throughout] using hread
    | collected | stillPending | lost => simp [Throughout]
  | hidWrite cnt h => cases h <;> simpa [Throughout] using hwrite

/-- Each device is made from its qualifying interface, and no two store the same handle. -/
structure FleetInvariant (itfs : List Interface) (past : List Win32Event) (fleet : List Hds) :
    Prop where
  made : ∀ (index : ℕ) (hds : Hds), fleet[index]? = some hds →
    ∃ itf, (itfs.filter fun itf => itf.Qualifies)[index]? = some itf ∧ MadeFrom past itf hds
  apart : ∀ (index index' : ℕ) (hds hds' : Hds) (n : ℕ), index ≠ index' →
    fleet[index]? = some hds → fleet[index']? = some hds' →
    hds.devhandle = some (.handle n) → hds'.devhandle ≠ some (.handle n)

variable {itfs : List Interface} {fleet : List Hds}

/-- A call on one device keeps every device made from its interface and the handles apart. -/
theorem fleetInvariant_step (hfresh : FreshHandles os) (op : ℕ × HidOp)
    (hinv : FleetInvariant itfs past fleet) :
    FleetInvariant itfs (callStep (win32 os) (fleetWord hidWord (.ok false)) past fleet op).history
      (callStep (win32 os) (fleetWord hidWord (.ok false)) past fleet op).after := by
  obtain ⟨index, op⟩ := op
  cases hdevice : fleet[index]? with
  | none =>
    rw [callStep_fleetWord_none _ _ _ _ hdevice, CallStep.history, List.append_nil]
    exact hinv
  | some hds =>
    rw [callStep_fleetWord_some _ _ _ _ hdevice]
    obtain ⟨run, hrun, heq⟩ := hidStep_outcome os past hds op
    rw [heq]
    simp only [CallStep.history, hidStepOf]
    obtain ⟨itf, hitf, hmade⟩ := hinv.made index hds hdevice
    -- any other device keeps its handle, which the call leaves alone
    have hothers : ∀ (other : ℕ) (hds' : Hds) (n : ℕ), index ≠ other → fleet[other]? = some hds' →
        hds'.devhandle = some (.handle n) →
          LeavesAlone n run.2 ∧ run.1.2.devhandle ≠ some (.handle n) := by
      intro other hds' n hne hother hn
      obtain ⟨itf', -, hmade'⟩ := hinv.made other hds' hother
      have hown : hds.devhandle ≠ some (.handle n) :=
        fun hn' => hinv.apart index other hds hds' n hne hdevice hother hn' hn
      refine ⟨leavesAlone_of_open hfresh hrun (hmade'.openHandle n hn) hown, fun hn' => ?_⟩
      rcases storedHandle_step hfresh hrun hn' with hstored | hclosed
      · exact hown hstored
      · exact hclosed (hmade'.openHandle n hn)
    refine ⟨fun other hds' hother => ?_,
      fun left right hdsLeft hdsRight n hne hleft hright hn => ?_⟩
    · rcases getElem?_set_eq_some hother with ⟨rfl, rfl⟩ | ⟨hne, hkept⟩
      · exact ⟨itf, hitf, madeFrom_step hrun hmade⟩
      · obtain ⟨itf', hitf', hmade'⟩ := hinv.made other hds' hkept
        refine ⟨itf', hitf', hmade'.keep rfl rfl rfl rfl rfl fun n hn => ?_⟩
        exact ⟨hn, (hothers other hds' n hne hkept hn).1⟩
    · rcases getElem?_set_eq_some hleft with ⟨rfl, rfl⟩ | ⟨hneLeft, hkeptLeft⟩
      · rcases getElem?_set_eq_some hright with ⟨rfl, -⟩ | ⟨hneRight, hkeptRight⟩
        · exact absurd rfl hne
        · exact fun hn' => (hothers right hdsRight n hneRight hkeptRight hn').2 hn
      · rcases getElem?_set_eq_some hright with ⟨rfl, rfl⟩ | ⟨hneRight, hkeptRight⟩
        · exact (hothers left hdsLeft n hneLeft hkeptLeft hn).2
        · exact hinv.apart left right hdsLeft hdsRight n hne hkeptLeft hkeptRight hn

/-- Every transfer of a call on a fleet fits. -/
theorem reportsFit_step (op : ℕ × HidOp) (hinv : FleetInvariant itfs past fleet) :
    ReportsFit itfs (callStep (win32 os) (fleetWord hidWord (.ok false)) past fleet op) := by
  obtain ⟨index, op⟩ := op
  cases hdevice : fleet[index]? with
  | none =>
    rw [callStep_fleetWord_none _ _ _ _ hdevice]
    trivial
  | some hds =>
    rw [callStep_fleetWord_some _ _ _ _ hdevice]
    obtain ⟨run, hrun, heq⟩ := hidStep_outcome os past hds op
    rw [heq]
    obtain ⟨itf, hitf, hmade⟩ := hinv.made index hds hdevice
    have hfit := transfers_fit hrun hmade
    rw [throughout_iff_forall] at hfit
    apply (throughout_iff_forall _ _).mpr
    intro earlier e later hsplit transfer htransfer
    exact ⟨itf, hitf, hfit earlier e later hsplit transfer htransfer⟩

/-- The device found at a position is made from the qualifying interface at that position. -/
theorem foundDevices_getElem? {index : ℕ} (h : (foundDevices itfs)[index]? = some hds) :
    ∃ itf sz, (itfs.filter fun itf => itf.Qualifies)[index]? = some itf ∧
      hds = itf.hds index sz := by
  rw [foundDevices, qualifyingDevices, List.getElem?_take] at h
  split_ifs at h
  rw [List.getElem?_mapIdx, Option.map_eq_some_iff] at h
  obtain ⟨⟨itf, sz⟩, hentry, rfl⟩ := h
  refine ⟨itf, sz, ?_, rfl⟩
  rw [← sized_map_fst 0 itfs, List.filter_map, List.getElem?_map]
  exact congrArg (Option.map Prod.fst) hentry

/-- No device is open when it is found. -/
theorem fleetInvariant_foundDevices (itfs : List Interface) (past : List Win32Event) :
    FleetInvariant itfs past (foundDevices itfs) := by
  refine ⟨fun index hds h => ?_, fun index index' hds hds' n _ h _ hn => ?_⟩
  · obtain ⟨itf, sz, hitf, rfl⟩ := foundDevices_getElem? h
    exact ⟨itf, hitf, rfl, rfl, rfl, by simp [Interface.hds, preparedHds, newHds],
      by simp [Interface.hds, preparedHds, newHds], by simp [Interface.hds, preparedHds, newHds],
      by simp [Interface.hds, preparedHds, newHds]⟩
  · obtain ⟨itf, sz, -, rfl⟩ := foundDevices_getElem? h
    cases hn

/-- For every vector of devices `hid-find-devices` returns and every interleaving of session
words on them, each transfer on a handle passes a buffer of exactly the report length in the
capabilities of the interface whose path the handle was opened from. -/
theorem foundDevices_reportsFit (itfs : List Interface) (os os' : Win32Environment)
    (past : List Win32Event) (fuel : ℕ) (hfuel : itfs.length < fuel) (hfresh : FreshHandles os')
    (ops : List (ℕ × HidOp)) :
    ∃ devices devcount,
      (exec (answering itfs os) past (hidFindDevices fuel)).1 = some (devices, devcount) ∧
      ∀ step ∈ fleetSession os' (past ++ (exec (answering itfs os) past (hidFindDevices fuel)).2)
          devices ops,
        ReportsFit itfs step := by
  refine ⟨foundDevices itfs, _, exec_eq_of_wp (wp_hidFindDevices fuel hfuel), ?_⟩
  exact session_forall (FleetInvariant itfs) _ (fun past fleet op hinv => reportsFit_step op hinv)
    (fun past fleet op hinv => fleetInvariant_step hfresh op hinv) _ _ ops
    (fleetInvariant_foundDevices itfs _)

/-- The handle numbers of a history, one above all of which is not in use. -/
def handleNumbers (past : List Win32Event) : List ℕ :=
  (past.filterMap createdHandle).map Handle.number

/-- A system that gives every `CreateFile` a handle above all earlier ones. -/
def freshOs : Win32Environment := fun past c =>
  match c with
  | .createFile .. => Handle.handle ((handleNumbers past).sum + 1)
  | c => steadyOs (.handle 4) ⟨1, 0⟩ ⟨1, 0⟩ ⟨1, 0⟩ ⟨1, 0⟩ ⟨1, 0⟩ past c

/-- A number above all earlier ones is not open. -/
theorem freshOs_freshHandles : FreshHandles freshOs := by
  intro past path access share disposition flags n hn hopen
  obtain ⟨⟨c, reply⟩, he, hobtains⟩ := hopen.exists_acquires
  have hmem : n ∈ handleNumbers past := by
    cases c with
    | createFile =>
      have hreply : reply = Handle.handle n := by simpa using hobtains
      exact List.mem_map.mpr ⟨.handle n, List.mem_filterMap.mpr ⟨_, he, congrArg some hreply⟩, rfl⟩
    | _ => cases hobtains
  have hle : n ≤ (handleNumbers past).sum := List.single_le_sum (fun _ _ => Nat.zero_le _) n hmem
  have heq : (handleNumbers past).sum + 1 = n := Handle.handle.inj hn
  omega

/-- Two vendor interfaces with reports of different length. -/
def twoInterfaces : List Interface :=
  [vendorInterface "a",
    { vendorInterface "b" with caps := ⟨hidpStatusSuccess, ⟨0xFF00, 0x0001, 3, 5, 0⟩⟩ }]

/-- Both devices are opened, and one of them is closed and opened again between transfers. -/
def reopeningOps : List (ℕ × HidOp) :=
  [(0, .hidOpen), (1, .hidOpen), (1, .hidRead 0), (0, .hidClose), (0, .hidOpen), (0, .hidWrite 0)]

/-- Two devices are found, and one transfer is made on each, with the report
length of its interface. -/
theorem foundDevices_reportsFit_reopened :
    FreshHandles freshOs ∧
      ∃ devices devcount,
        (exec (answering twoInterfaces freshOs) [] (hidFindDevices 3)).1 =
          some (devices, devcount) ∧
        devcount = 2 ∧
        (((fleetSession freshOs (exec (answering twoInterfaces freshOs) []
          (hidFindDevices 3)).2 devices
          reopeningOps).flatMap CallStep.events).filterMap reportTransfer).map
            (fun transfer => (transfer.handle, transfer.sz)) = [(8, 3), (16, 65)] ∧
        ∀ step ∈ fleetSession freshOs
            (exec (answering twoInterfaces freshOs) [] (hidFindDevices 3)).2 devices reopeningOps,
          ReportsFit twoInterfaces step := by
  obtain ⟨devices, devcount, hfound, hfit⟩ :=
    foundDevices_reportsFit twoInterfaces freshOs freshOs [] 3
    (by decide) freshOs_freshHandles reopeningOps
  have htwo : (exec (answering twoInterfaces freshOs) [] (hidFindDevices 3)).1 =
      some (foundDevices twoInterfaces, 2) := by decide +kernel
  obtain ⟨rfl, rfl⟩ : devices = foundDevices twoInterfaces ∧ devcount = 2 :=
    Prod.mk.inj (Option.some.inj (hfound.symm.trans htwo))
  exact ⟨freshOs_freshHandles, _, _, hfound, rfl, by decide +kernel, hfit⟩

end FactorUsb.Hid
