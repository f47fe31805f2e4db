import FactorUsb.Hid.ProductName
import FactorUsb.Hid.Visits

/-!
# The HID vocabulary as its callers use it

A caller enumerates devices, finds devices of the vendor page, asks for product names and uses
the devices found, in any order and as often as it likes. It holds the records and devices
returned so far and names them by their position. Devices found earlier stay usable when the
caller searches again.

The words run in one system that sees all their calls. Each call of the caller is described
once by what it does to the devices and by the Win32 events it adds; every later result about
the vocabulary as a whole argues from that description.
-/

namespace FactorUsb.Hid

open FactorUsb.Calls

/-- The records and devices a caller holds. -/
structure HidLibrary where
  records : List HidDeviceInfo
  devices : List Hds

/-- A caller that has not called anything yet. -/
def HidLibrary.empty : HidLibrary := ⟨[], []⟩

/-- The words of the vocabulary, with the record or device they are called on. -/
inductive LibraryOp where
  | hidEnumerate (vid pid : ℤ)
  | hidFindDevices
  | hidGetName (index : ℕ)
  | session (index : ℕ) (op : HidOp)
  deriving DecidableEq

/-- What the words return; a position without device calls nothing. -/
inductive LibraryResult where
  | records (found : Option (List HidDeviceInfo))
  | devices (found : Option (List Hds × ℕ))
  | name (name : Option String)
  | word (result : Except FactorError Bool)
  | absent

/-- Call a word, and keep what it found. -/
def libraryWord (fuel : ℕ) : LibraryOp → HidLibrary → HidProgram (LibraryResult × HidLibrary)
  | .hidEnumerate vid pid, library => do
    let found ← (hidEnumerate fuel vid pid).joint
    pure (.records found, { library with records := library.records ++ found.getD [] })
  | .hidFindDevices, library => do
    let found ← (hidFindDevices fuel).joint
    pure (.devices found, { library with devices := library.devices ++ found.elim [] Prod.fst })
  | .hidGetName index, library => do
    let name ← hidGetName library.records[index]?
    pure (.name name, library)
  | .session index op, library =>
    match library.devices[index]? with
    | none => pure (.absent, library)
    | some hds => do
      let out ← (hidWord op hds).joint
      pure (.word out.1, { library with devices := library.devices.set index out.2 })

/-- One call of a word by a caller. -/
abbrev LibraryStep :=
  CallStep (Win32Call ⊕ ProductCall)
    (Sum.elim Win32Reply fun _ : ProductCall => ProductReply) HidLibrary
    LibraryOp LibraryResult

/-- All calls of a caller, from the start. -/
def libraryRun (os : HidEnvironment) (fuel : ℕ) (ops : List LibraryOp) : List LibraryStep :=
  session (hidSystem os) (libraryWord fuel) [] .empty ops

/-- The call of one more word. -/
def libraryStep (os : HidEnvironment) (fuel : ℕ) (ops : List LibraryOp)
    (op : LibraryOp) : LibraryStep :=
  let reached := sessionEnd (hidSystem os) (libraryWord fuel) [] .empty ops
  callStep (hidSystem os) (libraryWord fuel) reached.1 reached.2 op

/-- One more word adds one more call. -/
theorem libraryRun_concat (os : HidEnvironment) (fuel : ℕ) (ops : List LibraryOp) (op : LibraryOp) :
    libraryRun os fuel (ops ++ [op]) = libraryRun os fuel ops ++ [libraryStep os fuel ops op] := by
  rw [libraryRun, session_append]
  rfl

/-- `CreateFile` does not return a handle that is still open. -/
def FreshSystem (os : HidEnvironment) : Prop :=
  ∀ past path access share disposition flags n,
    os past (.inl (.createFile path access share disposition flags)) = Handle.handle n →
      ¬ OpenHandle (ownEvents past) n

/-- Only the answers after the history itself count. -/
theorem win32_congr {os os' : Win32Environment} {past : List Win32Event}
    (h : ∀ c, os past c = os' past c) (c : Win32Call) : win32 os past c = win32 os' past c := by
  cases c with
  | getLastError => exact congrArg (past.getLast?.bind failureCode).getD (h .getLastError)
  | newOverlapped => rfl
  | _ => exact h _

variable {os : HidEnvironment} {past : List HidEvent}

/-- After any history the words that ask for no product string see a Win32 system that
gives out fresh handles. -/
theorem exists_view (hfresh : FreshSystem os) (past : List HidEvent) :
    ∃ view : Win32Environment, FreshHandles view ∧ ∀ {A : Type} (tree : Win32Program A),
      exec (hidSystem os) past tree.joint =
        ((exec (win32 view) (ownEvents past) tree).1,
          (exec (win32 view) (ownEvents past) tree).2.map jointEvent) := by
  classical
  -- what the system would do after other histories does not matter, as long as it stays fresh
  let view : Win32Environment := fun history c =>
    if h : ∃ later, history = ownEvents past ++ later
      then os (past ++ h.choose.map jointEvent) (.inl c)
    else freshOs history c
  have hview (later : List Win32Event) (c : Win32Call) :
      view (ownEvents past ++ later) c = os (past ++ later.map jointEvent) (.inl c) := by
    have hex : ∃ later', ownEvents past ++ later = ownEvents past ++ later' := ⟨later, rfl⟩
    have hsame : hex.choose = later := (List.append_cancel_left hex.choose_spec).symm
    exact (dif_pos hex).trans (congrArg (fun own => os (past ++ own.map jointEvent) (.inl c)) hsame)
  refine ⟨view, ?_, fun tree => ?_⟩
  · intro history path access share disposition flags n hn
    by_cases h : ∃ later, history = ownEvents past ++ later
    · obtain ⟨later, rfl⟩ := h
      rw [hview] at hn
      have hclosed := hfresh _ _ _ _ _ _ _ hn
      rwa [ownEvents_append, ownEvents_map] at hclosed
    · exact freshOs_freshHandles _ _ _ _ _ _ _ ((dif_neg h).symm.trans hn)
  · apply exec_joint
    intro later c
    have hown : ownEvents (past ++ later.map jointEvent) = ownEvents past ++ later := by
      rw [ownEvents_append, ownEvents_map]
    change _ = win32 (fun _ c => os (past ++ later.map jointEvent) (.inl c))
      (ownEvents (past ++ later.map jointEvent)) c
    rw [hown]
    exact win32_congr (fun c => hview later c) c

/-- The tuple was made by `<hds>` and has its detail structure, sizes and count set. -/
def Hds.Prepared (hds : Hds) : Prop :=
  ∃ devdetail detaildatasz inputreportsz outputreportsz featurereportsz count,
    hds = preparedHds devdetail detaildatasz inputreportsz outputreportsz featurereportsz count

/-- A device taken in is prepared. -/
theorem findMatching_prepared (devdetail : DevDetail) (sz : ℕ) (s : FindState)
    (capabilities : Option HidpCaps) (h : ∀ hds ∈ s.detailvector, hds.Prepared) :
    ∀ hds ∈ (findMatching devdetail sz s capabilities).detailvector, hds.Prepared := by
  cases capabilities with
  | none => exact h
  | some capabilities =>
    rw [findMatching]
    split_ifs with husage
    · apply List.forall_mem_append.mpr ⟨h, List.forall_mem_singleton.mpr _⟩
      exact ⟨devdetail, sz, _, _, _, _, rfl⟩
    · exact h

/-- Taking in an element keeps the devices prepared. -/
theorem findFound_prepared (devinfo devdata : ℕ) (s : FindState)
    (h : ∀ hds ∈ s.detailvector, hds.Prepared) :
    (findFound devinfo devdata s).Returns fun next => ∀ hds ∈ next.detailvector, hds.Prepared := by
  apply returns_bind (returns_true _)
  intro queried _
  refine returns_ite (fun _ => ?_) fun _ => h
  apply returns_ask_bind
  intro handle
  refine returns_ite (fun _ => ?_) fun _ => h
  apply returns_bind (returns_true _)
  intro capabilities _
  exact findMatching_prepared _ _ _ capabilities h

/-- The end of an iteration keeps the devices. -/
theorem findNext_returns (s : FindState) :
    (findNext s).Returns fun next => next.detailvector = s.detailvector := by
  apply returns_ask_bind
  intro closed
  apply returns_pure
  split_ifs
  · rfl
  · rfl

/-- An iteration of `hid-find-devices` keeps the devices prepared. -/
theorem findBody_prepared (devinfo hidguid : ℕ) (s : FindState)
    (h : ∀ hds ∈ s.detailvector, hds.Prepared) :
    (findBody devinfo hidguid s).Returns fun next => ∀ hds ∈ next.detailvector, hds.Prepared := by
  apply returns_ask_bind
  intro found
  have hbottom (next : FindState) (hnext : ∀ hds ∈ next.detailvector, hds.Prepared) :
      (findNext next).Returns fun last => ∀ hds ∈ last.detailvector, hds.Prepared :=
    (findNext_returns next).mono fun last hlast => hlast ▸ hnext
  apply returns_ite
  · exact fun _ => returns_bind (returns_pure h) hbottom
  · exact fun _ => returns_bind (findFound_prepared devinfo _ s h) hbottom

/-- Whatever the system answers, the devices `hid-find-devices` returns are prepared. -/
theorem hidFindDevices_returns (fuel : ℕ) :
    (hidFindDevices fuel).Returns fun found => ∀ hds ∈ found.elim [] Prod.fst, hds.Prepared := by
  apply returns_ask_bind
  intro hidguid
  apply returns_ask_bind
  intro devinfo
  apply returns_bind (returns_whileLoop (findBody_prepared devinfo hidguid) fuel .initial
    (List.forall_mem_nil _))
  intro result hresult
  cases result with
  | none => exact List.forall_mem_nil _
  | some s => exact returns_ask_bind fun _ => hresult s rfl

/-- What a call of a word does: the record of one listed execution on a device, or a visit. -/
inductive LibraryOutcome (past : List Win32Event) (library : HidLibrary) :
    LibraryOp → HidLibrary → List Win32Event → Prop where
  | enumerated (vid pid : ℤ) (records : List HidDeviceInfo) (events : List Win32Event)
      (hvisit : Visit past events) :
      LibraryOutcome past library (.hidEnumerate vid pid)
        { library with records := library.records ++ records } events
  | found (devices : List Hds) (events : List Win32Event) (hvisit : Visit past events)
      (hprepared : ∀ hds ∈ devices, hds.Prepared) :
      LibraryOutcome past library .hidFindDevices
        { library with devices := library.devices ++ devices } events
  | named (index : ℕ) (events : List Win32Event) (hvisit : Visit past events) :
      LibraryOutcome past library (.hidGetName index) library events
  | absent (index : ℕ) (op : HidOp) (hdevice : library.devices[index]? = none) :
      LibraryOutcome past library (.session index op) library []
  | word (index : ℕ) (op : HidOp) (hds : Hds) (view : Win32Environment) (run : HidRun)
      (hdevice : library.devices[index]? = some hds) (hfresh : FreshHandles view)
      (hrun : HidOutcome view past hds op run) :
      LibraryOutcome past library (.session index op)
        { library with devices := library.devices.set index run.1.2 } run.2

/-- The events of `hid-get-name` are a visit. -/
theorem hidGetName_visit (hfresh : FreshSystem os) (past : List HidEvent)
    (device : Option HidDeviceInfo) :
    Visit (ownEvents past) (ownEvents (exec (hidSystem os) past (hidGetName device)).2) := by
  have hrun := hidGetName_outcome os past device
  generalize exec (hidSystem os) past (hidGetName device) = run at hrun
  cases hrun with
  | notDevice hdevice => exact visiting_of_after rfl trivial
  | refused info hdevice hreply =>
    exact visiting_of_after rfl (by simp [FreshAlong, Throughout, ownEvents, ownEvent])
  | named info n reply closed hdevice hhandle hreply =>
    have hevents : ownEvents
        ([⟨.inl (nameCall info), Handle.handle n⟩, ⟨.inr ⟨some (.handle n), wbufByteLength⟩, reply⟩,
          ⟨.inl (.closeHandle (some (.handle n))), closed⟩] : List HidEvent) =
        [⟨nameCall info, Handle.handle n⟩, ⟨.closeHandle (some (.handle n)), closed⟩] := rfl
    rw [hevents]
    apply visiting_of_after
    · have hopened := visitLaw_after_created (visitLaw.after_nil) (info.path.getD "") 0
        (fileShareRead ||| fileShareWrite) openExisting 0 (.handle n)
      exact visitLaw_after_closed hopened closed
    · refine ⟨fun m hm => ?_, fun m hm => ?_, trivial⟩
      · have hnm : Handle.handle n = Handle.handle m := by simpa using hm
        exact hfresh _ _ _ _ _ _ _ (hhandle.trans hnm)
      · cases hm

/-- Every call of a word is described. -/
theorem libraryStep_outcome (hfresh : FreshSystem os) (fuel : ℕ) (past : List HidEvent)
    (library : HidLibrary) (op : LibraryOp) :
    LibraryOutcome (ownEvents past) library op
      (callStep (hidSystem os) (libraryWord fuel) past library op).after
      (ownEvents (callStep (hidSystem os) (libraryWord fuel) past library op).events) := by
  obtain ⟨view, hview, hexec⟩ := exists_view hfresh past
  cases op with
  | hidEnumerate vid pid =>
    have hvisit := visit_exec hview (hidEnumerate fuel vid pid) (ownEvents past)
      fun env => hidEnumerate_visits env fuel vid pid
    simp only [callStep, libraryWord, exec_bind, exec_pure, hexec, List.append_nil, ownEvents_map]
    exact .enumerated vid pid _ _ hvisit
  | hidFindDevices =>
    have hvisit := visit_exec hview (hidFindDevices fuel) (ownEvents past) fun env =>
      hidFindDevices_visits env fuel
    simp only [callStep, libraryWord, exec_bind, exec_pure, hexec, List.append_nil, ownEvents_map]
    exact .found _ _ hvisit (wp_returns (hidFindDevices_returns fuel) (win32 view) (ownEvents past))
  | hidGetName index =>
    have hvisit := hidGetName_visit hfresh past library.records[index]?
    simp only [callStep, libraryWord, exec_bind, exec_pure, List.append_nil]
    exact .named index _ hvisit
  | session index op =>
    cases hdevice : library.devices[index]? with
    | none =>
      simp only [callStep, libraryWord, hdevice, exec_pure]
      exact .absent index op hdevice
    | some hds =>
      simp only [callStep, libraryWord, hdevice, exec_bind, exec_pure, hexec, List.append_nil,
        ownEvents_map]
      exact .word index op hds view _ hdevice hview (hidWord_outcome view (ownEvents past) hds op)

end FactorUsb.Hid
