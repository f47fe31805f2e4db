import FactorUsb.Calls.Footprint
import FactorUsb.Calls.Session
import FactorUsb.Usb.DeviceList
import FactorUsb.Usb.UsbTest

/-!
# The words of `usb-test` as their callers use them

A caller may call the words in any order and may go on using the tuples that `<tusb>` returned.
It names them by their position.

Only `usb-test` opens a device. Its calls are described once: libusb is not initialised, no
device is opened, or the device opened is worked on and closed. The other words concern no
device, whatever libusb answers.
-/

namespace FactorUsb.Usb

open FactorUsb.Calls

/-- The words of the vocabulary, with the tuple they are called on. -/
inductive UsbOp where
  | usbStart
  | usbTest
  | makeTusb
  | tusbInit (index : ℕ)
  | tusbDevlist (index : ℕ)
  | tusbDevsClose (index : ℕ)
  | dispose (index : ℕ)
  deriving DecidableEq

/-- What the words return; a position without tuple calls nothing. -/
inductive UsbResult where
  | started (result : Except FactorError Unit)
  | value (value : Value)
  | done
  | absent

/-- Call a word on one of the tuples a caller holds. -/
def onTusb (index : ℕ) (tusbs : List Tusb) (word : Tusb → LibusbProgram (UsbResult × Tusb)) :
    LibusbProgram (UsbResult × List Tusb) :=
  match tusbs[index]? with
  | none => pure (.absent, tusbs)
  | some tusb => do
    let out ← word tusb
    pure (out.1, tusbs.set index out.2)

/-- Call a word, and keep the tuple it made. -/
def usbWord : UsbOp → List Tusb → LibusbProgram (UsbResult × List Tusb)
  | .usbStart, tusbs => do
    let result ← usbStart
    pure (.started result, tusbs)
  | .usbTest, tusbs => do
    usbTest
    pure (.done, tusbs)
  | .makeTusb, tusbs => do
    let tusb ← makeTusb
    pure (.done, tusbs ++ [tusb])
  | .tusbInit index, tusbs => onTusb index tusbs fun tusb => do
    let out ← tusbInit tusb
    pure (.value out.1, out.2)
  | .tusbDevlist index, tusbs => onTusb index tusbs fun tusb => do
    let tusb ← tusbDevlist tusb
    pure (.done, tusb)
  | .tusbDevsClose index, tusbs => onTusb index tusbs fun tusb => do
    tusbDevsClose tusb
    pure (.done, tusb)
  | .dispose index, tusbs => onTusb index tusbs fun tusb => do
    let tusb ← dispose tusb
    pure (.done, tusb)

/-- One call of a word by a caller. -/
abbrev UsbStep := CallStep LibusbCall LibusbReply (List Tusb) UsbOp UsbResult

/-- All calls of a caller, from the start. -/
def usbRun (env : LibusbEnvironment) (ops : List UsbOp) : List UsbStep :=
  session env usbWord [] [] ops

variable {env : LibusbEnvironment} {past : List LibusbEvent} {tusbs : List Tusb} {tusb : Tusb}

/-- Without tuple nothing is called. -/
theorem exec_onTusb_none {index : ℕ} (h : tusbs[index]? = none)
    (word : Tusb → LibusbProgram (UsbResult × Tusb)) :
    exec env past (onTusb index tusbs word) = ((.absent, tusbs), []) := by
  unfold onTusb
  rw [h]
  rfl

/-- A word called on a tuple makes its calls and replaces the tuple. -/
theorem exec_onTusb_some {index : ℕ} (h : tusbs[index]? = some tusb)
    (word : Tusb → LibusbProgram (UsbResult × Tusb)) :
    exec env past (onTusb index tusbs word) =
      (((exec env past (word tusb)).1.1, tusbs.set index (exec env past (word tusb)).1.2),
        (exec env past (word tusb)).2) := by
  unfold onTusb
  rw [h]
  simp

/-- The calls that concern no device. -/
def NoDevice : LibusbCall → Prop
  | .libusbInit | .libusbExit | .libusbGetDeviceList | .libusbFreeDeviceList ..
  | .memoryToByteArray .. => True
  | _ => False

/-- Leaving libusb concerns no device. -/
theorem exitAfter_noDevice (read : Except FactorError Unit) :
    (exitAfter read).CallsOnly NoDevice := by
  cases read with
  | error error => exact callsOnly_pure _
  | ok read => exact callsOnly_ask_bind trivial fun _ => callsOnly_pure _

/-- Counting and reading the devices concerns none of them. -/
theorem readDeviceList_noDevice : readDeviceList.CallsOnly NoDevice := by
  apply callsOnly_ask_bind trivial
  intro reply
  apply callsOnly_ite
  · exact fun _ => callsOnly_pure _
  · exact fun _ => callsOnly_ask_bind trivial fun _ => callsOnly_pure _

/-- `usb-start` concerns no device. -/
theorem usbStart_noDevice : usbStart.CallsOnly NoDevice := by
  apply callsOnly_ask_bind trivial
  intro init
  apply callsOnly_ite
  · exact fun _ => callsOnly_bind readDeviceList_noDevice exitAfter_noDevice
  · exact fun _ => callsOnly_bind (callsOnly_pure _) exitAfter_noDevice

/-- `tusb-init` concerns no device. -/
theorem tusbInit_noDevice (tusb : Tusb) : (tusbInit tusb).CallsOnly NoDevice :=
  callsOnly_ask_bind trivial fun _ => callsOnly_pure _

/-- `tusb-devlist` concerns no device. -/
theorem tusbDevlist_noDevice (tusb : Tusb) : (tusbDevlist tusb).CallsOnly NoDevice :=
  callsOnly_ask_bind trivial fun _ => callsOnly_pure _

/-- `tusb-devs-close` concerns no device. -/
theorem tusbDevsClose_noDevice (tusb : Tusb) : (tusbDevsClose tusb).CallsOnly NoDevice :=
  callsOnly_ite (fun _ => callsOnly_ask_bind trivial fun _ => callsOnly_pure _) fun _ =>
    callsOnly_pure _

/-- Disposing of a tuple concerns no device. -/
theorem dispose_noDevice (tusb : Tusb) : (dispose tusb).CallsOnly NoDevice := by
  apply callsOnly_ite
  · exact fun _ => callsOnly_pure _
  · intro _
    apply callsOnly_bind
    · apply callsOnly_bind (tusbDevsClose_noDevice tusb)
      exact fun _ => callsOnly_ask_bind trivial fun _ => callsOnly_pure _
    · exact fun _ => callsOnly_pure _

/-- A word called on a tuple makes the calls of the word. -/
theorem onTusb_callsOnly {allowed : LibusbCall → Prop} (index : ℕ)
    {word : Tusb → LibusbProgram (UsbResult × Tusb)}
    (hword : ∀ tusb, (word tusb).CallsOnly allowed) :
    (onTusb index tusbs word).CallsOnly allowed := by
  unfold onTusb
  split
  · exact callsOnly_pure _
  next tusb _ => exact callsOnly_bind (hword tusb) fun _ => callsOnly_pure _

/-- Only `usb-test` concerns a device. -/
theorem usbWord_noDevice {op : UsbOp} (hop : op ≠ .usbTest) (tusbs : List Tusb) :
    (usbWord op tusbs).CallsOnly NoDevice := by
  cases op with
  | usbStart => exact callsOnly_bind usbStart_noDevice fun _ => callsOnly_pure _
  | usbTest => exact absurd rfl hop
  | makeTusb =>
    apply callsOnly_bind
    · apply callsOnly_bind (tusbInit_noDevice newTusb)
      intro made
      exact callsOnly_bind (tusbDevlist_noDevice made.2) dispose_noDevice
    · exact fun _ => callsOnly_pure _
  | tusbInit index =>
    exact onTusb_callsOnly index fun tusb => callsOnly_bind (tusbInit_noDevice tusb) fun _ =>
      callsOnly_pure _
  | tusbDevlist index =>
    exact onTusb_callsOnly index fun tusb => callsOnly_bind (tusbDevlist_noDevice tusb) fun _ =>
      callsOnly_pure _
  | tusbDevsClose index =>
    exact onTusb_callsOnly index fun tusb =>
      callsOnly_bind (tusbDevsClose_noDevice tusb) fun _ => callsOnly_pure _
  | dispose index =>
    exact onTusb_callsOnly index fun tusb => callsOnly_bind (dispose_noDevice tusb) fun _ =>
      callsOnly_pure _

/-- The calls on a device that is open, and the ones on its configuration. -/
def WorksOn (dev : Device) : LibusbCall → Prop
  | .libusbKernelDriverActive other _ | .libusbDetachKernelDriver other _
  | .libusbAttachKernelDriver other _
  | .libusbClaimInterface other _ | .libusbReleaseInterface other _
  | .libusbSetInterfaceAltSetting other _ _ | .libusbGetDevice other
  | .libusbControlTransfer other .. =>
    other = dev
  | .libusbGetConfigDescriptor .. | .memoryToStruct _ => True
  | _ => False

/-- Detaching the driver works on the device. -/
theorem detachDriver_worksOn (dev : Device) : (detachDriver dev).CallsOnly (WorksOn dev) := by
  refine callsOnly_ask_bind (by exact rfl) fun active => ?_
  apply callsOnly_ite
  · exact fun _ => callsOnly_ask_bind (by exact rfl) fun _ => callsOnly_pure _
  · exact fun _ => callsOnly_pure _

/-- Attaching the driver works on the device. -/
theorem attachDriver_worksOn (dev : Device) : (attachDriver dev).CallsOnly (WorksOn dev) := by
  refine callsOnly_ask_bind (by exact rfl) fun active => ?_
  apply callsOnly_ite
  · exact fun _ => callsOnly_ask_bind (by exact rfl) fun _ => callsOnly_pure _
  · exact fun _ => callsOnly_pure _

/-- Reading the port status works on the device. -/
theorem readPortStatus_worksOn (dev : Device) (config : ConfigReply) :
    (readPortStatus dev config).CallsOnly (WorksOn dev) := by
  apply callsOnly_ite
  · intro _
    apply callsOnly_ask_bind trivial
    intro _
    exact callsOnly_ask_bind (by exact rfl) fun _ => callsOnly_pure _
  · exact fun _ => callsOnly_pure _

/-- Using the interface works on the device. -/
theorem useInterface_worksOn (dev : Device) : (useInterface dev).CallsOnly (WorksOn dev) := by
  refine callsOnly_ask_bind (by exact rfl) fun claimed => ?_
  apply callsOnly_ite
  · intro _
    refine callsOnly_ask_bind (by exact rfl) fun _ => ?_
    refine callsOnly_ask_bind (by exact rfl) fun _ => ?_
    refine callsOnly_ask_bind (by exact rfl) fun device => ?_
    apply callsOnly_ask_bind trivial
    intro config
    apply callsOnly_bind (readPortStatus_worksOn dev config)
    intro _
    exact callsOnly_ask_bind (by exact rfl) fun _ => callsOnly_pure _
  · exact fun _ => callsOnly_pure _

/-- Using the device that was opened works on it. -/
theorem useOpened_worksOn (dev : Device) : (useOpened (some dev)).CallsOnly (WorksOn dev) := by
  apply callsOnly_bind (detachDriver_worksOn dev)
  intro _
  exact callsOnly_bind (useInterface_worksOn dev) fun _ => attachDriver_worksOn dev

/-- `usb-test` opens the device. -/
def openEvent (dev : Option Device) : LibusbEvent :=
  ⟨.libusbOpenDeviceWithVidPid 0x067b 0x2305, dev⟩

/-- The events `usb-test` adds to the history. -/
inductive TestOutcome (env : LibusbEnvironment) (past : List LibusbEvent) :
    List LibusbEvent → Prop where
  | refused (init : ℤ) (hinit : init ≠ libusbSuccess) :
      TestOutcome env past [⟨.libusbInit, init⟩, ⟨.libusbExit, ()⟩]
  | missing :
      TestOutcome env past
        [⟨.libusbInit, libusbSuccess⟩, openEvent none, ⟨.libusbClose none, ()⟩, ⟨.libusbExit, ()⟩]
  | used (dev : Device) (events : List LibusbEvent) (hevents : ∀ e ∈ events, WorksOn dev e.1)
      (hrun : (exec env (past ++ [⟨.libusbInit, libusbSuccess⟩] ++ [openEvent (some dev)])
        (useOpened (some dev))).2 = events) :
      TestOutcome env past
        (⟨.libusbInit, libusbSuccess⟩ :: openEvent (some dev) ::
          (events ++ [⟨.libusbClose (some dev), ()⟩, ⟨.libusbExit, ()⟩]))

/-- Every run of `usb-test` is described. -/
theorem usbTest_outcome (env : LibusbEnvironment) (past : List LibusbEvent) :
    TestOutcome env past (exec env past usbTest).2 := by
  by_cases hinit : env past .libusbInit = libusbSuccess
  · cases hdev : env (past ++ [⟨.libusbInit, libusbSuccess⟩])
      (.libusbOpenDeviceWithVidPid 0x067b 0x2305) with
    | none =>
      have hevents : (exec env past usbTest).2 =
          [⟨.libusbInit, libusbSuccess⟩, openEvent none, ⟨.libusbClose none, ()⟩,
            ⟨.libusbExit, ()⟩] := by
        simp [usbTest, useLibusb, useDevice, useOpened, hinit, hdev, openEvent]
      rw [hevents]
      exact .missing
    | some dev =>
      have hevents : (exec env past usbTest).2 =
          ⟨.libusbInit, libusbSuccess⟩ :: openEvent (some dev) ::
            ((exec env (past ++ [⟨.libusbInit, libusbSuccess⟩] ++ [openEvent (some dev)])
              (useOpened (some dev))).2 ++ [⟨.libusbClose (some dev), ()⟩, ⟨.libusbExit, ()⟩]) := by
        simp [usbTest, useLibusb, useDevice, hinit, hdev, openEvent]
      rw [hevents]
      exact .used dev _ ((useOpened_worksOn dev).of_mem_exec env _) rfl
  · have hevents : (exec env past usbTest).2 =
        [⟨.libusbInit, env past .libusbInit⟩, ⟨.libusbExit, ()⟩] := by
      simp [usbTest, useLibusb, hinit]
    rw [hevents]
    exact .refused _ hinit

end FactorUsb.Usb
