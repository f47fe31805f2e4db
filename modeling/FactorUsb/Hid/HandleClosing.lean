import FactorUsb.Hid.ScanTraces

/-!
# Every handle a scanning loop opens is closed

The law of handles allows one open handle at a time: it has to be closed before the next
`CreateFile` and before the word returns, and `CloseHandle` takes nothing else. The law of
the information set allows its use only between its creation and its destruction.

`hid-enumerate` obeys both whatever the system answers. The closing call of
`hid-find-devices` stands at the bottom of the loop, where the comments' `break` and
`continue` would skip it. So it is also reached with the handle variable at `f` or at
`INVALID_HANDLE_VALUE`, and the word obeys the law of handles only if every interface it
looks at opens and the loop is cut off before the end of the list.
-/

namespace FactorUsb.Hid

open FactorUsb.Calls

/-- The law of handles, with the calls that may only be made on an open handle. The state is the
valid handle that is open. -/
def handleMonitor (used : Win32Call → Option (Option Handle)) :
    Monitor Win32Event (Option Handle) where
  idle := none
  step held e :=
    match e with
    | ⟨.createFile .., handle⟩ =>
      if held = none then some (if handle = .invalidHandleValue then none else some handle)
        else none
    | ⟨.closeHandle handle, _⟩ => if held ≠ none ∧ handle = held then some none else none
    | ⟨c, _⟩ => if ∀ handle ∈ used c, held ≠ none ∧ handle = held then some held else none

/-- Handles are closed; their use is not looked at. -/
def closingLaw : Monitor Win32Event (Option Handle) := handleMonitor fun _ => none

/-- The handle a `HidD_` call is made on. -/
def hidDHandle : Win32Call → Option (Option Handle)
  | .hidDGetAttributes handle | .hidDGetPreparsedData handle => some handle
  | _ => none

/-- Handles are closed, and `HidD_` calls are made on open handles only. -/
def usingLaw : Monitor Win32Event (Option Handle) := handleMonitor hidDHandle

/-- The call uses no other information set, obtains none and destroys none. -/
def UsesOnlySet (devinfo : ℕ) : Win32Call → Prop
  | .setupDiEnumDeviceInterfaces used _ _ | .setupDiGetDeviceInterfaceDetail used _ _ _ =>
    used = devinfo
  | .setupDiGetClassDevs .. | .setupDiDestroyDeviceInfoList _ => False
  | _ => True

/-- The information set obtained at the start of a run is the only one its calls use, and it is
destroyed by the last of them and by no other. -/
def DestroysInfoSet (run : List Win32Event) : Prop :=
  ∃ (hidguid flags devinfo : ℕ) (body : List Win32Event) (reply : ℤ),
    run = [⟨.hidDGetHidGuid, hidguid⟩, ⟨.setupDiGetClassDevs hidguid flags, devinfo⟩] ++ body ++
      [⟨.setupDiDestroyDeviceInfoList devinfo, reply⟩] ∧
    ∀ e ∈ body, UsesOnlySet devinfo e.1

/-- The call neither opens nor closes a handle. -/
def LeavesHandles : Win32Call → Prop
  | .createFile .. | .closeHandle _ => False
  | _ => True

variable {used : Win32Call → Option (Option Handle)} {itfs : List Interface} {os : Win32Environment}
  {past : List Win32Event} {itf : Interface}

/-- The state is kept by calls that open and close nothing and use no other handle. -/
theorem handleMonitor_stays {held : Option Handle} {e : Win32Event} (he : LeavesHandles e.1)
    (hused : ∀ handle ∈ used e.1, held ≠ none ∧ handle = held) :
    (handleMonitor used).step held e = some held := by
  obtain ⟨c, reply⟩ := e
  cases c with
  | createFile path access share disposition flags => exact he.elim
  | closeHandle handle => exact he.elim
  | _ => exact if_pos hused

/-- Asking the information set opens and closes nothing. -/
theorem leavesHandles_of_asksSet {c : Win32Call} (h : AsksSet c) : LeavesHandles c := by
  cases c <;> trivial

variable {held : Option Handle} {handle : Handle} {reply : BoolReply}

/-- A handle that was opened is held if it is valid. -/
theorem handleMonitor_after_created (h : (handleMonitor used).after past = some none)
    (devdetail : DevDetail) (handle : Handle) :
    (handleMonitor used).after (past ++ [⟨probeCall devdetail, handle⟩]) =
      some (if handle = .invalidHandleValue then none else some handle) := by
  rw [Monitor.after_concat, h]
  rfl

/-- The handle that is held may be closed. -/
theorem handleMonitor_after_closed (h : (handleMonitor used).after past = some (some handle)) :
    (handleMonitor used).after (past ++ [⟨.closeHandle (some handle), reply⟩]) = some none := by
  rw [Monitor.after_concat, h]
  exact if_pos ⟨Option.some_ne_none handle, rfl⟩

/-- Without a handle nothing may be closed. -/
theorem handleMonitor_after_misclosed (h : (handleMonitor used).after past = some none)
    (handle : Option Handle) :
    (handleMonitor used).after (past ++ [⟨.closeHandle handle, reply⟩]) = none := by
  rw [Monitor.after_concat, h]
  rfl

/-- The valid handle an event obtains. -/
def obtainedHandle (e : Win32Event) : Option Handle :=
  (createdHandle e).filter (· ≠ .invalidHandleValue)

/-- What an event passes to `CloseHandle`. -/
def closedHandle : Win32Event → Option (Option Handle)
  | ⟨.closeHandle handle, _⟩ => some handle
  | _ => none

/-- What an allowed event does: it leaves the handles alone, opens one when none is held, or
closes the one that is held. -/
theorem handleMonitor_step_cases {held next : Option Handle} {e : Win32Event}
    (h : (handleMonitor used).step held e = some next) :
    (obtainedHandle e = none ∧ closedHandle e = none ∧ next = held) ∨
      (held = none ∧ obtainedHandle e = next ∧ closedHandle e = none) ∨
        (∃ handle, held = some handle ∧ obtainedHandle e = none ∧
          closedHandle e = some (some handle) ∧
          next = none) := by
  obtain ⟨c, reply⟩ := e
  cases c with
  | createFile path access share disposition flags =>
    obtain ⟨hnone, hnext⟩ := Option.ite_none_right_eq_some.mp h
    refine Or.inr (Or.inl ⟨hnone, ?_, rfl⟩)
    rw [← Option.some.inj hnext]
    by_cases hvalid : reply = Handle.invalidHandleValue <;> simp [obtainedHandle, hvalid]
  | closeHandle handle =>
    obtain ⟨⟨hsome, rfl⟩, hnext⟩ := Option.ite_none_right_eq_some.mp h
    obtain ⟨held, rfl⟩ := Option.ne_none_iff_exists'.mp hsome
    exact Or.inr (Or.inr ⟨held, rfl, rfl, rfl, (Option.some.inj hnext).symm⟩)
  | _ =>
    obtain ⟨-, hnext⟩ := Option.ite_none_right_eq_some.mp h
    exact Or.inl ⟨rfl, rfl, (Option.some.inj hnext).symm⟩

/-- While the law holds, all handles obtained but the one held were passed to
`CloseHandle`, in order. -/
theorem handleMonitor_closed_append (history : List Win32Event) (held : Option Handle)
    (h : (handleMonitor used).after history = some held) :
    (history.filterMap obtainedHandle).map some =
      history.filterMap closedHandle ++ held.toList.map some := by
  induction history using List.reverseRecOn generalizing held with
  | nil =>
    cases h
    rfl
  | append_singleton history e ih =>
    rw [Monitor.after_concat] at h
    obtain ⟨before, hbefore, hstep⟩ := Option.bind_eq_some_iff.mp h
    have hrest := ih before hbefore
    rw [List.filterMap_append, List.filterMap_append, List.map_append, hrest]
    obtain ⟨hopened, hclosed, rfl⟩ | ⟨rfl, hopened, hclosed⟩ | ⟨handle, rfl, hopened,
      hclosed, rfl⟩ :=
      handleMonitor_step_cases hstep
    · simp [hopened, hclosed]
    · cases held <;> simp [hopened, hclosed]
    · simp [hopened, hclosed]

/-- In a history that obeys the law the handles passed to `CloseHandle` are the
valid handles obtained. -/
theorem closed_eq_obtained {history : List Win32Event} (h : (handleMonitor used).Accepts history) :
    history.filterMap closedHandle = (history.filterMap obtainedHandle).map some := by
  rw [handleMonitor_closed_append history none h]
  exact (List.append_nil _).symm

/-- The calls `hid-find-devices` makes for an interface obey the law of
handles exactly if it opens. -/
theorem findLaw_closing (itfs : List Interface) (os : Win32Environment) :
    FindLaw closingLaw Interface.Opened False itfs os where
  asksSet e he := handleMonitor_stays (leavesHandles_of_asksSet he) (by simp)
  failed itf hfailed past reply hidle :=
    Monitor.settled_of_none (handleMonitor_after_misclosed hidle none) fun hopened =>
      hfailed hopened.1
  refused itf hrefused devdetail past reply hidle := by
    have hnone := handleMonitor_after_created hidle devdetail .invalidHandleValue
    apply Monitor.settled_of_none (handleMonitor_after_misclosed hnone _)
    exact fun hopened => Bool.false_ne_true (hrefused.symm.trans hopened.2)
  opened itf hopened devdetail n past _ hidle := by
    have hheld := handleMonitor_after_created hidle devdetail (.handle n)
    have hkept (c : Win32Call) (hc : LeavesHandles c) (reply : Win32Reply c) :
        closingLaw.step (some (.handle n)) ⟨c, reply⟩ = some (some (.handle n)) :=
      handleMonitor_stays hc (by simp)
    refine wp_mono (wp_stays hheld (hidCapabilities_callsOnly _ (hkept _ trivial)
      (fun _ => hkept _ trivial) (fun _ => hkept _ trivial)))
        fun capabilities later hlater reply => ?_
    exact Monitor.settled_of_idle (handleMonitor_after_closed hlater) hopened
  ends past reply hidle :=
    Monitor.settled_of_none (handleMonitor_after_misclosed hidle none) not_false

/-- `hid-find-devices` closes each handle it opens once, and nothing else, exactly when every
interface it looks at opens and the loop is cut off before the end of the list. -/
theorem hidFindDevices_closes_iff (itfs : List Interface) (os : Win32Environment) (fuel : ℕ)
    (hfuel : itfs.length < fuel) :
    closingLaw.Accepts (exec (answering itfs os) [] (hidFindDevices fuel)).2 ↔
      devNum < qualifying itfs ∧ ∀ itf ∈ scanned itfs, itf.Opened := by
  rw [hidFindDevices_accepts_iff (findLaw_closing itfs os) fuel hfuel, and_comm]
  exact and_congr_left fun _ => not_le

/-- Eleven vendor interfaces are scanned with every handle closed, as the loop
is cut off at the last. -/
theorem hidFindDevices_closes_eleven :
    closingLaw.Accepts (exec (answering ((List.range 11).map fun n => vendorInterface (toString n))
      (steadyOs (.handle 4) ⟨1, 0⟩ ⟨1, 0⟩ ⟨1, 0⟩ ⟨1, 0⟩ ⟨1, 0⟩)) [] (hidFindDevices 12)).2 :=
  (hidFindDevices_closes_iff _ _ 12 (by decide)).mpr (by decide)

/-- With no interface at all the word closes `f`. -/
theorem hidFindDevices_closes_f :
    ¬ closingLaw.Accepts (exec (answering []
      (steadyOs (.handle 4) ⟨1, 0⟩ ⟨1, 0⟩ ⟨1, 0⟩ ⟨1, 0⟩ ⟨1, 0⟩)) [] (hidFindDevices 1)).2 := by
  decide

/-- The call opens and closes nothing, and a `HidD_` call is made on the given handle. -/
def OnHandle (handle : Handle) (c : Win32Call) : Prop :=
  LeavesHandles c ∧ ∀ used ∈ hidDHandle c, used = some handle

/-- Calls on the handle that is open keep it open. -/
theorem usingLaw_stays {c : Win32Call} (h : OnHandle handle c) (reply : Win32Reply c) :
    usingLaw.step (some handle) ⟨c, reply⟩ = some (some handle) :=
  handleMonitor_stays h.1 fun used hused => ⟨Option.some_ne_none handle, h.2 used hused⟩

/-- The calls `hid-enumerate` makes for an interface always obey the law of handles. -/
theorem enumerateLaw_using (itfs : List Interface) (os : Win32Environment) (vid pid : ℤ) :
    EnumerateLaw usingLaw (fun _ => True) itfs os vid pid where
  asksSet e he := by
    apply handleMonitor_stays (leavesHandles_of_asksSet he)
    obtain ⟨c, reply⟩ := e
    cases c <;> simp [AsksSet, hidDHandle] at he ⊢
  failed _ _ := trivial
  refused itf _ devdetail past hidle :=
    Monitor.settled_of_idle (handleMonitor_after_created hidle devdetail
      .invalidHandleValue) trivial
  opened itf _ devdetail n s past _ hidle := by
    have hcapabilities : (hidCapabilities (.handle n)).CallsOnly (OnHandle (.handle n)) :=
      hidCapabilities_callsOnly _ ⟨trivial, by simp [hidDHandle]⟩
        (fun _ => ⟨trivial, by simp [hidDHandle]⟩) fun _ => ⟨trivial, by simp [hidDHandle]⟩
    have hattributes : OnHandle (.handle n) (.hidDGetAttributes (some (.handle n))) :=
      ⟨trivial, by simp [hidDHandle]⟩
    have hheld : usingLaw.after (past ++ [⟨probeCall devdetail, Handle.handle n⟩]) =
        some (some (.handle n)) :=
      handleMonitor_after_created hidle devdetail (.handle n)
    have hasked (reply : AttributesReply) :
        usingLaw.after (past ++ [⟨probeCall devdetail, Handle.handle n⟩] ++
          [⟨.hidDGetAttributes (some (.handle n)), reply⟩]) = some (some (.handle n)) := by
      rw [Monitor.after_concat, hheld]
      exact usingLaw_stays hattributes reply
    unfold enumerateOpened
    rw [wp_ask_bind]
    apply wp_bind_of (wp_stays (hasked _)
      ((enumerateMatching_callsOnly vid pid devdetail _ _ s hcapabilities).mono fun _ =>
        usingLaw_stays))
    intro next later hlater
    rw [wp_ask_bind, wp_pure]
    exact Monitor.settled_of_idle (handleMonitor_after_closed hlater) trivial

/-- Calls for one interface use the set they are given. -/
theorem enumerateBody_usesOnlySet (vid pid : ℤ) (devinfo hidguid : ℕ) (s : EnumerateState) :
    (enumerateBody vid pid devinfo hidguid s).CallsOnly (UsesOnlySet devinfo) := by
  have hopened (devdetail : DevDetail) (devhandle : Handle) (s : EnumerateState) :
      (enumerateOpened vid pid devdetail devhandle s).CallsOnly (UsesOnlySet devinfo) := by
    apply callsOnly_ask_bind trivial
    intro attributes
    refine callsOnly_bind (enumerateMatching_callsOnly _ _ _ _ _ _
      (hidCapabilities_callsOnly _ trivial (fun _ => trivial) fun _ => trivial)) fun s => ?_
    exact callsOnly_ask_bind trivial fun _ => callsOnly_pure _
  refine callsOnly_ask_bind rfl fun found => callsOnly_ite (fun _ => callsOnly_pure _) fun _ => ?_
  refine callsOnly_bind ?_ fun s => callsOnly_pure _
  refine callsOnly_bind (queryDetail_callsOnly _ _ _ fun _ _ => rfl) fun queried => ?_
  refine callsOnly_ite (fun _ => ?_) fun _ => callsOnly_pure _
  apply callsOnly_ask_bind trivial
  intro devhandle
  exact callsOnly_ite (fun _ => hopened _ _ _) fun _ => callsOnly_pure _

/-- `hid-enumerate` gives up the information set at its end. -/
theorem wp_hidEnumerate_destroys (vid pid : ℤ) (fuel : ℕ) (hfuel : itfs.length < fuel) :
    wp (answering itfs os) (hidEnumerate fuel vid pid) (fun _ run => DestroysInfoSet run) [] := by
  unfold hidEnumerate
  rw [wp_ask_bind, wp_ask_bind]
  refine wp_bind_of (wp_and (wp_enumerateLoop vid pid _ _ fuel hfuel)
    (wp_callsOnly (callsOnly_whileLoop (enumerateBody_usesOnlySet vid pid _ _) fuel _) _ _)) ?_
  intro result later hout
  obtain ⟨⟨last, rfl, -⟩, body, rfl, hbody⟩ := hout
  rw [wp_ask_bind, wp_pure]
  exact ⟨_, _, _, body, _, rfl, hbody⟩

/-- `hid-enumerate` closes each handle it opens once, after its last use, closes nothing
else, uses no handle that is not open, and gives up the information set once, after the
last call that uses it. -/
theorem hidEnumerate_releases (itfs : List Interface) (os : Win32Environment) (vid pid : ℤ)
    (fuel : ℕ) (hfuel : itfs.length < fuel) :
    usingLaw.Accepts (exec (answering itfs os) [] (hidEnumerate fuel vid pid)).2 ∧
      DestroysInfoSet (exec (answering itfs os) [] (hidEnumerate fuel vid pid)).2 :=
  ⟨(hidEnumerate_accepts_iff (enumerateLaw_using itfs os vid pid) fuel hfuel).mpr
    fun _ _ => trivial,
    wp_hidEnumerate_destroys vid pid fuel hfuel⟩

/-- Of four interfaces the second cannot be opened; the handles of the others are opened and
closed. -/
theorem hidEnumerate_releases_one :
    (exec (answering fourInterfaces (steadyOs (.handle 4) ⟨1, 0⟩ ⟨1, 0⟩ ⟨1, 0⟩ ⟨1, 0⟩ ⟨1, 0⟩)) []
        (hidEnumerate 5 1240 63)).2.filterMap createdHandle =
      [.handle 4, .invalidHandleValue, .handle 4, .handle 4] ∧
    usingLaw.Accepts (exec (answering fourInterfaces
      (steadyOs (.handle 4) ⟨1, 0⟩ ⟨1, 0⟩ ⟨1, 0⟩ ⟨1, 0⟩ ⟨1, 0⟩)) [] (hidEnumerate 5 1240 63)).2 ∧
    DestroysInfoSet (exec (answering fourInterfaces
      (steadyOs (.handle 4) ⟨1, 0⟩ ⟨1, 0⟩ ⟨1, 0⟩ ⟨1, 0⟩ ⟨1, 0⟩)) [] (hidEnumerate 5 1240 63)).2 :=
  ⟨by decide +kernel, hidEnumerate_releases _ _ 1240 63 5 (by decide)⟩

end FactorUsb.Hid
