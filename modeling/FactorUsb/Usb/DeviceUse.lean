import FactorUsb.Calls.Monitor
import FactorUsb.Usb.Words

/-!
# The device and its kernel driver

A device that libusb opened may be used until it is closed, and has to be closed before libusb
is left. A program that calls the words in any order keeps to this as long as the device is
there: `usb-test` closes what its variable holds, also if this is no device.

The kernel driver is attached whenever `usb-test` finds it missing. So a driver that works is
attached after every program that opened the device once, whether or not it was before.
-/

namespace FactorUsb.Usb

open FactorUsb.Calls

/-- The device a call works on. -/
def usedDevice : LibusbCall → Option Device
  | .libusbKernelDriverActive dev _ | .libusbDetachKernelDriver dev _
  | .libusbAttachKernelDriver dev _
  | .libusbClaimInterface dev _ | .libusbReleaseInterface dev _
  | .libusbSetInterfaceAltSetting dev _ _
  | .libusbGetDevice dev | .libusbControlTransfer dev .. => some dev
  | _ => none

/-- The law of devices. The state is the device that is open. -/
def deviceLaw : Monitor LibusbEvent (Option Device) where
  idle := none
  step held e :=
    match e with
    | ⟨.libusbOpenDeviceWithVidPid .., dev⟩ => if held = none then some dev else none
    | ⟨.libusbClose dev, _⟩ => if dev ≠ none ∧ dev = held then some none else none
    | ⟨.libusbExit, _⟩ => if held = none then some none else none
    | ⟨c, _⟩ => if usedDevice c = none ∨ usedDevice c = held then some held else none

/-- After the call every device was used while it was open only, and none is left open. -/
def DevicesClosed (step : UsbStep) : Prop := deviceLaw.Accepts step.history

/-- The outcome of opening a device. -/
def openReply : LibusbEvent → Option (Option Device)
  | ⟨.libusbOpenDeviceWithVidPid .., dev⟩ => some dev
  | _ => none

/-- The device is there whenever the call opens it. -/
def FindsDevice (step : UsbStep) : Prop := ∀ e ∈ step.events, openReply e ≠ some none

variable {env : LibusbEnvironment} {past : List LibusbEvent} {tusbs : List Tusb} {dev : Device}

/-- Calls that concern no device are allowed while none is open. -/
theorem deviceLaw_idle {c : LibusbCall} (hc : NoDevice c) (reply : LibusbReply c) :
    deviceLaw.step none ⟨c, reply⟩ = some none := by
  cases c with
  | libusbInit | libusbExit | libusbGetDeviceList | libusbFreeDeviceList | memoryToByteArray => rfl
  | _ => exact hc.elim

/-- Work on the open device is allowed. -/
theorem deviceLaw_works {c : LibusbCall} (hc : WorksOn dev c) (reply : LibusbReply c) :
    deviceLaw.step (some dev) ⟨c, reply⟩ = some (some dev) := by
  cases c with
  | libusbInit | libusbExit | libusbOpenDeviceWithVidPid | libusbClose | libusbFreeConfigDescriptor
  | libusbGetDeviceList | libusbFreeDeviceList | memoryToByteArray => exact hc.elim
  | libusbGetConfigDescriptor | memoryToStruct => rfl
  | _ => exact if_pos (Or.inr (congrArg some hc))

/-- Calls none of which opens a device have no outcome of opening one. -/
theorem openReply_eq_none {allowed : LibusbCall → Prop}
    (hopens : ∀ vid pid, ¬ allowed (.libusbOpenDeviceWithVidPid vid pid)) {e : LibusbEvent}
    (h : allowed e.1) :
    openReply e = none := by
  obtain ⟨c, reply⟩ := e
  cases c with
  | libusbOpenDeviceWithVidPid vid pid => exact absurd h (hopens vid pid)
  | _ => rfl

/-- A successful `libusb_init` and an opening leave the device open that was found. -/
theorem deviceLaw_after_opened (h : deviceLaw.after past = some none) (found : Option Device) :
    deviceLaw.after (past ++ [⟨.libusbInit, libusbSuccess⟩] ++ [openEvent found]) = some found := by
  have hinit : deviceLaw.after (past ++ [⟨.libusbInit, libusbSuccess⟩]) = some none := by
    rw [Monitor.after_concat, h]
    rfl
  rw [Monitor.after_concat, hinit]
  rfl

/-- `usb-test` closes what it opened exactly if it opened a device. -/
theorem usbTest_closed_iff (h : deviceLaw.after past = some none) :
    deviceLaw.Accepts (past ++ (exec env past usbTest).2) ↔
      ∀ e ∈ (exec env past usbTest).2, openReply e ≠ some none := by
  have houtcome := usbTest_outcome env past
  generalize (exec env past usbTest).2 = events at houtcome
  cases houtcome with
  | refused init hinit =>
    refine iff_of_true (Monitor.after_append_of_stays h ?_) (by simp [openReply])
    rw [List.forall_mem_cons, List.forall_mem_singleton]
    exact ⟨rfl, rfl⟩
  | missing =>
    -- `f` is closed, which no law of devices allows
    refine iff_of_false (Monitor.not_accepts_of_none ?_) (by simp [openEvent, openReply])
    rw [List.append_cons, List.append_cons, List.append_cons]
    apply Monitor.after_append_of_none
    rw [Monitor.after_concat, deviceLaw_after_opened h]
    rfl
  | used dev events hevents hrun =>
    apply iff_of_true
    · have hused : deviceLaw.after
          (past ++ [⟨.libusbInit, libusbSuccess⟩] ++ [openEvent (some dev)] ++ events) =
            some (some dev) :=
        Monitor.after_append_of_stays (deviceLaw_after_opened h (some dev)) fun e he =>
          deviceLaw_works (hevents e he) e.2
      have hclosed : deviceLaw.after
          (past ++ [⟨.libusbInit, libusbSuccess⟩] ++ [openEvent (some dev)] ++ events ++
            [⟨.libusbClose (some dev), ()⟩]) = some none := by
        rw [Monitor.after_concat, hused]
        simp [deviceLaw]
      rw [List.append_cons, List.append_cons, ← List.append_assoc, List.append_cons,
        Monitor.Accepts,
        Monitor.after_concat, hclosed]
      rfl
    · rw [List.forall_mem_cons, List.forall_mem_cons, List.forall_mem_append]
      refine ⟨by simp [openReply], by simp [openEvent,
        openReply], fun e he => ?_, by simp [openReply]⟩
      rw [openReply_eq_none (fun _ _ => id) (hevents e he)]
      exact (Option.some_ne_none _).symm

/-- The events of a word other than `usb-test` concern no device. -/
theorem callStep_noDevice {op : UsbOp} (hop : op ≠ .usbTest) (env : LibusbEnvironment)
    (past : List LibusbEvent) (tusbs : List Tusb) :
    ∀ e ∈ (callStep env usbWord past tusbs op).events, NoDevice e.1 :=
  (usbWord_noDevice hop tusbs).of_mem_exec env past

/-- The events of a call of `usb-test` are its own. -/
theorem callStep_usbTest (env : LibusbEnvironment) (past : List LibusbEvent) (tusbs : List Tusb) :
    (callStep env usbWord past tusbs .usbTest).events = (exec env past usbTest).2 := by
  simp [callStep, usbWord]

/-- A call of a word leaves no device open exactly if it finds the device. -/
theorem devicesClosed_iff (h : deviceLaw.after past = some none) (op : UsbOp) :
    DevicesClosed (callStep env usbWord past tusbs op) ↔
      FindsDevice (callStep env usbWord past tusbs op) := by
  unfold DevicesClosed FindsDevice CallStep.history
  by_cases hop : op = .usbTest
  · rw [hop, callStep_usbTest]
    exact usbTest_closed_iff h
  · have hevents := callStep_noDevice hop env past tusbs
    refine iff_of_true ?_ fun e he => ?_
    · exact Monitor.after_append_of_stays h fun e he => deviceLaw_idle (hevents e he) e.2
    · rw [openReply_eq_none (fun _ _ => id) (hevents e he)]
      exact (Option.some_ne_none _).symm

/-- In a program that calls the words in any order, whatever libusb answers, a device is used only
between its opening and its closing, each one is closed once before libusb is left and nothing else
is closed, exactly when the device is there whenever it is opened. -/
theorem usbRun_devicesClosed_iff (env : LibusbEnvironment) (ops : List UsbOp) :
    (∀ step ∈ usbRun env ops, DevicesClosed step) ↔ ∀ step ∈ usbRun env ops, FindsDevice step := by
  apply session_forall_iff fun past _ => deviceLaw.after past = some none
  · exact fun past tusbs op h => devicesClosed_iff h op
  · exact fun past tusbs op h hfinds => (devicesClosed_iff h op).mpr hfinds
  · rfl

/-- libusb tells whether the kernel driver is attached, and attaches it. -/
structure DriverWorks (attached : Bool) (env : LibusbEnvironment) : Prop where
  reports : ∀ past dev interface,
    env past (.libusbKernelDriverActive dev interface) = if driverAttached attached past
      then (1 : ℤ) else 0
  attaches : ∀ past dev interface,
    env past (.libusbAttachKernelDriver dev interface) = libusbSuccess

variable {attached : Bool}

/-- After the last step of `usb-test` on a device a driver that works is attached. -/
theorem wp_attachDriver (h : DriverWorks attached env) (dev : Device) (past : List LibusbEvent) :
    wp env (attachDriver dev) (fun _ later => driverAttached attached later = true) past := by
  unfold attachDriver
  rw [wp_ask_bind]
  have hquery : driverAttached attached
      (past ++ [⟨.libusbKernelDriverActive dev 0, env past (.libusbKernelDriverActive dev 0)⟩]) =
        driverAttached attached past :=
    driverAttached_append _ _
  have hreply : env past (.libusbKernelDriverActive dev 0) = if driverAttached attached past
      then (1 : ℤ) else 0 :=
    h.reports past dev 0
  split_ifs with hactive
  · rw [wp_ask_bind, wp_pure, driverAttached_append, h.attaches]
    rfl
  · rw [wp_pure, hquery]
    by_contra hmissing
    rw [if_neg hmissing] at hreply
    exact hactive hreply

/-- After the use of a device a driver that works is attached. -/
theorem wp_useOpened_driver (h : DriverWorks attached env) (dev : Device)
    (past : List LibusbEvent) :
    wp env (useOpened (some dev)) (fun _ later => driverAttached attached later = true) past := by
  unfold useOpened
  rw [wp_bind, wp, wp_bind, wp]
  exact wp_attachDriver h dev _

/-- Events that neither attach nor detach the driver leave it as it is. -/
theorem driverAttached_of_noDevice {events : List LibusbEvent} (h : ∀ e ∈ events, NoDevice e.1) :
    driverAttached attached events = attached := by
  induction events generalizing attached with
  | nil => rfl
  | cons e events ih =>
    obtain ⟨hfirst, hrest⟩ := List.forall_mem_cons.mp h
    have hkept : driverAfter attached e = attached := by
      obtain ⟨c, reply⟩ := e
      cases c with
      | libusbDetachKernelDriver => exact hfirst.elim
      | libusbAttachKernelDriver => exact hfirst.elim
      | _ => rfl
    exact (congrArg (fun kept => driverAttached kept events) hkept).trans (ih hrest)

/-- The driver is attached if it was at the start, or the device was opened. -/
def DriverKnown (attached : Bool) (history : List LibusbEvent) : Prop :=
  driverAttached attached history = true ↔ attached = true ∨ ∃ e ∈ history, openedDevice e ≠ none

/-- Events that leave the driver alone and open no device change nothing of it. -/
theorem DriverKnown.append {events : List LibusbEvent} (h : DriverKnown attached past)
    (hkept : ∀ before, driverAttached before events = before)
    (hopens : ∀ e ∈ events, openedDevice e = none) :
    DriverKnown attached (past ++ events) := by
  have hnone : (∃ e ∈ past ++ events, openedDevice e ≠ none) ↔
      ∃ e ∈ past, openedDevice e ≠ none := by
    refine ⟨fun ⟨e, he, hopened⟩ => ?_, fun ⟨e, he, hopened⟩ =>
      ⟨e, List.mem_append_left _ he, hopened⟩⟩
    rcases List.mem_append.mp he with hold | hnew
    · exact ⟨e, hold, hopened⟩
    · exact absurd (hopens e hnew) hopened
  rw [DriverKnown, driverAttached_append, hkept, hnone]
  exact h

/-- `usb-test` attaches the driver of a device it opens, and otherwise leaves it alone. -/
theorem driverKnown_usbTest (hworks : DriverWorks attached env) (h : DriverKnown attached past) :
    DriverKnown attached (past ++ (exec env past usbTest).2) := by
  have houtcome := usbTest_outcome env past
  generalize (exec env past usbTest).2 = events at houtcome
  cases houtcome with
  | refused init hinit => exact h.append (fun _ => rfl) (by simp [openedDevice])
  | missing => exact h.append (fun _ => rfl) (by simp [openEvent, openedDevice])
  | used dev events hevents hrun =>
    have hused := wp_useOpened_driver hworks dev
      (past ++ [⟨.libusbInit, libusbSuccess⟩] ++ [openEvent (some dev)])
    rw [wp, hrun] at hused
    rw [List.append_cons, List.append_cons, ← List.append_assoc]
    refine iff_of_true ?_ (Or.inr ⟨openEvent (some dev), by simp, Option.some_ne_none dev⟩)
    rw [driverAttached_append, hused]
    rfl

/-- Every call of a word attaches the driver if it opens the device, and
leaves it alone otherwise. -/
theorem driverKnown_step (hworks : DriverWorks attached env) (h : DriverKnown attached past)
    (op : UsbOp) :
    DriverKnown attached (callStep env usbWord past tusbs op).history := by
  unfold CallStep.history
  by_cases hop : op = .usbTest
  · rw [hop, callStep_usbTest]
    exact driverKnown_usbTest hworks h
  · have hevents := callStep_noDevice hop env past tusbs
    refine h.append (fun before => driverAttached_of_noDevice hevents) fun e he => ?_
    obtain ⟨c, reply⟩ := e
    cases c with
    | libusbOpenDeviceWithVidPid vid pid => exact (hevents _ he).elim
    | _ => rfl

/-- In a program that calls the words in any order, a kernel driver that works is attached after a
call exactly if it was attached at the start or the program has opened the device. -/
theorem usbRun_driver_iff (h : DriverWorks attached env) (ops : List UsbOp) :
    ∀ step ∈ usbRun env ops, driverAttached attached step.history = true ↔
      attached = true ∨ ∃ e ∈ step.history, openedDevice e ≠ none := by
  apply session_forall fun past _ => DriverKnown attached past
  · exact fun past tusbs op hknown => driverKnown_step h hknown op
  · exact fun past tusbs op hknown => driverKnown_step h hknown op
  · simp [DriverKnown, driverAttached]

/-- A driver that was missing is attached. -/
theorem usbRun_driver_missing :
    driverAttached false (callStep (libusb false successResults) usbWord [] [] .usbTest).history =
      true := by
  have hworks : DriverWorks false (libusb false successResults) := by
    refine ⟨fun past dev interface => ?_, fun past dev interface => rfl⟩
    simp [libusb, driverReport, successResults]
  have hopened : openEvent (some 1) ∈
      (callStep (libusb false successResults) usbWord [] [] .usbTest).history :=
    List.mem_cons_of_mem _ List.mem_cons_self
  rw [usbRun_driver_iff hworks [.usbTest] _ (List.mem_singleton_self _)]
  exact Or.inr ⟨openEvent (some 1), hopened, Option.some_ne_none 1⟩

end FactorUsb.Usb
