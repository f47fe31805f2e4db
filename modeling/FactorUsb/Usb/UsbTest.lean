import FactorUsb.Usb.Libusb

/-!
# What `usb-test` acquires and releases

`usb-test` opens one device, takes its interface from the kernel driver, claims it, reads a
descriptor and a status, and gives everything back. Its guards test integer results for
being `f`, which they never are, so a failed claim is not noticed; and closing the device,
leaving libusb and attaching the driver are not guarded by the acquisition they undo.

The word is transcribed branch by branch, and its run is computed once for every assignment
of results. Everything is given back precisely when no result takes one of these branches.
-/

namespace FactorUsb.Usb

open FactorUsb.Calls

def libusbEndpointIn : ℕ := 0x80
def libusbRequestTypeClass : ℕ := 0x20

/-- Detach the kernel driver if one is reported. -/
def detachDriver (dev : Device) : LibusbProgram Unit := do
  let active : ℤ ← libusbCall (.libusbKernelDriverActive dev 0)
  if active = 1 then
    let _ ← libusbCall (.libusbDetachKernelDriver dev 0)
    pure ()
  else pure ()

/-- Attach the kernel driver if none is reported. -/
def attachDriver (dev : Device) : LibusbProgram Unit := do
  let active : ℤ ← libusbCall (.libusbKernelDriverActive dev 0)
  if active = 0 then
    let _ ← libusbCall (.libusbAttachKernelDriver dev 0)
    pure ()
  else pure ()

/-- Print the configuration and ask for the port status, if the descriptor was obtained. -/
def readPortStatus (dev : Device) (config : ConfigReply) : LibusbProgram Unit :=
  if config.result = libusbSuccess then do
    let _ ← libusbCall (.memoryToStruct (intDerefAlien config.descriptor))
    let _ ← libusbCall (.libusbControlTransfer dev
      (0 ||| libusbEndpointIn ||| 0x01 ||| libusbRequestTypeClass) 1 0 0 1 5000)
    pure ()
  else pure ()

/-- Claim the interface and, if the result counts as true, use and release it. -/
def useInterface (dev : Device) : LibusbProgram Unit := do
  let claimed : ℤ ← libusbCall (.libusbClaimInterface dev 0)
  if (Value.integer claimed).isTrue then
    let _ ← libusbCall (.libusbSetInterfaceAltSetting dev 0 2)
    let _ ← libusbCall (.libusbClaimInterface dev 0)
    let device : ℕ ← libusbCall (.libusbGetDevice dev)
    let config ← libusbCall (.libusbGetConfigDescriptor device 1)
    readPortStatus dev config
    let _ ← libusbCall (.libusbReleaseInterface dev 0)
    pure ()
  else pure ()

/-- Take the interface from the driver, use it and give it back, if a device was opened. -/
def useOpened : Option Device → LibusbProgram Unit
  | none => pure ()
  | some dev => do
    detachDriver dev
    useInterface dev
    attachDriver dev

/-- Open the device, use it, and close what the variable holds. -/
def useDevice : LibusbProgram Unit := do
  let dev : Option Device ← libusbCall (.libusbOpenDeviceWithVidPid 0x067b 0x2305)
  useOpened dev
  let _ ← libusbCall (.libusbClose dev)
  pure ()

/-- Use the device if libusb was initialised. -/
def useLibusb (init : ℤ) : LibusbProgram Unit := if init = libusbSuccess then useDevice else pure ()

/-- `usb-test`. -/
def usbTest : LibusbProgram Unit := do
  let init : ℤ ← libusbCall .libusbInit
  useLibusb init
  let _ ← libusbCall .libusbExit
  pure ()

/-- The calls that need a claimed interface. -/
def needsClaim : LibusbCall → Bool
  | .libusbSetInterfaceAltSetting .. | .libusbGetConfigDescriptor ..
  | .libusbControlTransfer .. => true
  | _ => false

/-- The result of initialising libusb. -/
def initResult : LibusbEvent → Option ℤ
  | ⟨.libusbInit, result⟩ => some result
  | _ => none

/-- The device an event opened. -/
def openedDevice : LibusbEvent → Option Device
  | ⟨.libusbOpenDeviceWithVidPid .., dev⟩ => dev
  | _ => none

/-- What an event passes to `libusb_close`. -/
def closedDevice : LibusbEvent → Option (Option Device)
  | ⟨.libusbClose dev, _⟩ => some dev
  | _ => none

/-- The result of releasing an interface. -/
def releaseResult : LibusbEvent → Option ℤ
  | ⟨.libusbReleaseInterface .., result⟩ => some result
  | _ => none

/-- The address of the configuration descriptor an event obtained. -/
def obtainedDescriptor : LibusbEvent → Option (BitVec 64)
  | ⟨.libusbGetConfigDescriptor .., reply⟩ =>
    if reply.result = libusbSuccess then some reply.descriptor else none
  | _ => none

/-- The address of the configuration descriptor an event freed. -/
def freedDescriptor : LibusbEvent → Option (BitVec 64)
  | ⟨.libusbFreeConfigDescriptor descriptor, _⟩ => some descriptor
  | _ => none

/-- Everything a run acquires is used only while it is held and given back, and nothing else is. -/
structure GivesBack (attached : Bool) (run : List LibusbEvent) : Prop where
  claimed : Preceded (fun e => needsClaim e.1 = true)
    (fun e => claimResult e = some libusbSuccess) run
  released : run.filterMap releaseResult ≠ [] ↔ libusbSuccess ∈ run.filterMap claimResult
  reattached : run.filterMap attachResult ≠ [] ↔ libusbSuccess ∈ run.filterMap detachResult
  restored : libusbSuccess ∈ run.filterMap attachResult → driverAttached attached run = attached
  freed : ∀ descriptor, ¬ Held (fun e => obtainedDescriptor e = some descriptor)
    (fun e => freedDescriptor e = some descriptor) run
  closed : ∀ dev, Preceded (fun e => closedDevice e = some dev)
    (fun e => dev ≠ none ∧ openedDevice e = dev) run
  exited : ⟨.libusbExit, ()⟩ ∈ run ↔ libusbSuccess ∈ run.filterMap initResult

/-- The second query tells the driver was detached exactly if it was. -/
def LibusbResults.DriverReturned (attached : Bool) (r : LibusbResults) : Prop :=
  if attached then 0 ≤ r.driverActive ∧ r.detach = libusbSuccess → 0 ≤ r.driverActiveAgain
  else r.driverActiveAgain < 0

/-- The results with which `usb-test` gives everything back. -/
structure LibusbResults.Benign (attached : Bool) (r : LibusbResults) : Prop where
  init : r.init = libusbSuccess
  device : r.device ≠ none
  claim : r.claim = libusbSuccess
  descriptor : r.configDescriptor.result ≠ libusbSuccess
  driver : r.DriverReturned attached

/-- The driver was reported and detached. -/
def LibusbResults.Detached (attached : Bool) (r : LibusbResults) : Prop :=
  driverReport attached r.driverActive = 1 ∧ r.detach = libusbSuccess

instance (attached : Bool) : DecidablePred (LibusbResults.Detached attached) :=
  fun _ => inferInstanceAs (Decidable (_ ∧ _))

/-- The driver while the interface is in use. -/
def LibusbResults.driverLeft (attached : Bool) (r : LibusbResults) : Bool :=
  if r.Detached attached then false else attached

/-- The calls that take the interface from the driver. -/
def detachEvents (dev : Device) (attached : Bool) (r : LibusbResults) : List LibusbEvent :=
  ⟨.libusbKernelDriverActive dev 0, driverReport attached r.driverActive⟩ ::
    if driverReport attached r.driverActive = 1 then [⟨.libusbDetachKernelDriver dev 0, r.detach⟩]
      else []

/-- The calls that give the interface to the driver, which is attached or not. -/
def attachEvents (dev : Device) (attached : Bool) (r : LibusbResults) : List LibusbEvent :=
  ⟨.libusbKernelDriverActive dev 0, driverReport attached r.driverActiveAgain⟩ ::
    if driverReport attached r.driverActiveAgain = 0
      then [⟨.libusbAttachKernelDriver dev 0, r.attach⟩]
    else []

/-- The calls that read the port status. -/
def statusEvents (dev : Device) (r : LibusbResults) : List LibusbEvent :=
  if r.configDescriptor.result = libusbSuccess then
    [⟨.memoryToStruct (intDerefAlien r.configDescriptor.descriptor), ()⟩,
      ⟨.libusbControlTransfer dev
        (0 ||| libusbEndpointIn ||| 0x01 ||| libusbRequestTypeClass) 1 0 0 1 5000,
        r.controlTransfer⟩]
  else []

/-- The calls between the first claim and the release. -/
def claimedEvents (dev : Device) (r : LibusbResults) : List LibusbEvent :=
  [⟨.libusbSetInterfaceAltSetting dev 0 2, r.setAltSetting⟩,
    ⟨.libusbClaimInterface dev 0, r.claimAgain⟩,
    ⟨.libusbGetDevice dev, r.getDevice⟩,
      ⟨.libusbGetConfigDescriptor r.getDevice 1, r.configDescriptor⟩] ++
    statusEvents dev r ++ [⟨.libusbReleaseInterface dev 0, r.release⟩]

variable {attached : Bool} {r : LibusbResults} {past : List LibusbEvent} {dev : Device}

/-- Whether an earlier query of the driver is found in the history. -/
theorem libusb_kernelDriverActive (interface : ℕ) :
    libusb attached r past (.libusbKernelDriverActive dev interface) =
      driverReport (driverAttached attached past)
        (if past.any fun e => (driverResult e).isSome then r.driverActiveAgain
          else r.driverActive) := rfl

/-- The calls of `detachDriver`, if the driver was not queried before. -/
theorem exec_detachDriver (hfirst : (past.any fun e => (driverResult e).isSome) = false) :
    exec (libusb attached r) past (detachDriver dev) =
      ((), detachEvents dev (driverAttached attached past) r) := by
  unfold detachDriver detachEvents
  rw [exec_bind, exec_ask, libusb_kernelDriverActive, hfirst, if_neg Bool.false_ne_true, exec_ite]
  split <;> rfl

/-- The calls of `attachDriver`, if the driver was queried before. -/
theorem exec_attachDriver (hagain : (past.any fun e => (driverResult e).isSome) = true) :
    exec (libusb attached r) past (attachDriver dev) =
      ((), attachEvents dev (driverAttached attached past) r) := by
  unfold attachDriver attachEvents
  rw [exec_bind, exec_ask, libusb_kernelDriverActive, hagain, if_pos rfl, exec_ite]
  split <;> rfl

/-- The calls of `readPortStatus`. -/
theorem exec_readPortStatus :
    exec (libusb attached r) past (readPortStatus dev r.configDescriptor) =
      ((), statusEvents dev r) := by
  unfold readPortStatus statusEvents
  rw [exec_ite]
  split <;> rfl

/-- The calls of `useInterface`, if nothing was claimed before: no result of the claim stops it. -/
theorem exec_useInterface (hfirst : (past.any fun e => (claimResult e).isSome) = false) :
    exec (libusb attached r) past (useInterface dev) =
      ((), ⟨.libusbClaimInterface dev 0, r.claim⟩ :: claimedEvents dev r) := by
  have hclaim : libusb attached r past (.libusbClaimInterface dev 0) = r.claim := by
    rw [libusb, hfirst]
    rfl
  unfold useInterface claimedEvents
  rw [exec_bind, exec_ask, hclaim]
  simp [Value.isTrue, libusb, claimResult, exec_readPortStatus]

/-- The driver after two stretches of a history. -/
theorem driverAttached_append (first later : List LibusbEvent) :
    driverAttached attached (first ++ later) =
      driverAttached (driverAttached attached first) later :=
  List.foldl_append

/-- Detaching leaves the driver detached exactly if it was reported and the call succeeded. -/
theorem driverAttached_detachEvents :
    driverAttached attached (detachEvents dev attached r) = r.driverLeft attached := by
  unfold detachEvents LibusbResults.driverLeft LibusbResults.Detached
  split_ifs <;> simp_all [driverAttached, driverAfter, detachResult, attachResult]

/-- Using the interface leaves the driver alone. -/
theorem driverAttached_claimedEvents :
    driverAttached attached (⟨.libusbClaimInterface dev 0, r.claim⟩ :: claimedEvents dev r) =
      attached := by
  unfold claimedEvents statusEvents
  split <;> rfl

/-- The calls made with a device that was opened. -/
def openedEvents (dev : Device) (attached : Bool) (r : LibusbResults) : List LibusbEvent :=
  detachEvents dev attached r ++ ⟨.libusbClaimInterface dev 0, r.claim⟩ :: claimedEvents dev r ++
    attachEvents dev (r.driverLeft attached) r

/-- An opened device goes through all stages. -/
theorem exec_useOpened (hfirst : (past.any fun e => (driverResult e).isSome) = false)
    (hunclaimed : (past.any fun e => (claimResult e).isSome) = false) :
    exec (libusb attached r) past (useOpened (some dev)) =
      ((), openedEvents dev (driverAttached attached past) r) := by
  have hdetached : ((past ++ detachEvents dev (driverAttached attached past) r).any
      fun e => (claimResult e).isSome) = false := by
    rw [List.any_append, hunclaimed, Bool.false_or]
    unfold detachEvents
    split <;> rfl
  have hqueried : ((past ++ detachEvents dev (driverAttached attached past) r ++
      ⟨.libusbClaimInterface dev 0, r.claim⟩ :: claimedEvents dev r).any
        fun e => (driverResult e).isSome) = true := by
    simp [detachEvents, driverResult]
  unfold useOpened openedEvents
  rw [exec_bind, exec_detachDriver hfirst, exec_bind, exec_useInterface hdetached,
    exec_attachDriver hqueried, driverAttached_append, driverAttached_append,
    driverAttached_detachEvents,
    driverAttached_claimedEvents]
  simp

/-- If libusb is not initialised it is left all the same. -/
theorem usbTest_run_failed (hinit : r.init ≠ libusbSuccess) :
    (exec (libusb attached r) [] usbTest).2 = [⟨.libusbInit, r.init⟩, ⟨.libusbExit, ()⟩] := by
  unfold usbTest useLibusb
  simp [libusb, hinit]

/-- If no device is opened `f` is closed. -/
theorem usbTest_run_missing (hinit : r.init = libusbSuccess) (hdevice : r.device = none) :
    (exec (libusb attached r) [] usbTest).2 =
      [⟨.libusbInit, r.init⟩, ⟨.libusbOpenDeviceWithVidPid 0x067b 0x2305, none⟩,
        ⟨.libusbClose none, ()⟩,
        ⟨.libusbExit, ()⟩] := by
  unfold usbTest useLibusb useDevice
  simp [libusb, hinit, hdevice, useOpened]

/-- The run of `usb-test` on a device that was opened. -/
def openedRun (dev : Device) (attached : Bool) (r : LibusbResults) : List LibusbEvent :=
  [⟨.libusbInit, r.init⟩, ⟨.libusbOpenDeviceWithVidPid 0x067b 0x2305, some dev⟩] ++
    openedEvents dev attached r ++ [⟨.libusbClose (some dev), ()⟩, ⟨.libusbExit, ()⟩]

/-- If a device is opened it is used and closed. -/
theorem usbTest_run_opened (hinit : r.init = libusbSuccess) (hdevice : r.device = some dev) :
    (exec (libusb attached r) [] usbTest).2 = openedRun dev attached r := by
  have hused : exec (libusb attached r)
      [⟨.libusbInit, r.init⟩, ⟨.libusbOpenDeviceWithVidPid 0x067b 0x2305, some dev⟩]
      (useOpened (some dev)) = ((), openedEvents dev attached r) := exec_useOpened rfl rfl
  unfold openedRun
  rw [hinit] at hused ⊢
  unfold usbTest useLibusb useDevice
  simp [libusb, hinit, hdevice, hused]

/-- The calls before the first claim. -/
def earlierEvents (dev : Device) (attached : Bool) (r : LibusbResults) : List LibusbEvent :=
  [⟨.libusbInit, r.init⟩, ⟨.libusbOpenDeviceWithVidPid 0x067b 0x2305, some dev⟩] ++
    detachEvents dev attached r

/-- The calls after the first use of the claim. -/
def laterEvents (dev : Device) (attached : Bool) (r : LibusbResults) : List LibusbEvent :=
  [⟨.libusbClaimInterface dev 0, r.claimAgain⟩, ⟨.libusbGetDevice dev, r.getDevice⟩,
    ⟨.libusbGetConfigDescriptor r.getDevice 1, r.configDescriptor⟩] ++ statusEvents dev r ++
      [⟨.libusbReleaseInterface dev 0, r.release⟩] ++ attachEvents dev (r.driverLeft attached) r ++
        [⟨.libusbClose (some dev), ()⟩, ⟨.libusbExit, ()⟩]

/-- The run is split at the first claim. -/
theorem openedRun_split : openedRun dev attached r =
    earlierEvents dev attached r ++ ⟨.libusbClaimInterface dev 0, r.claim⟩ ::
      ⟨.libusbSetInterfaceAltSetting dev 0 2, r.setAltSetting⟩ :: laterEvents dev attached r := by
  simp [openedRun, openedEvents, earlierEvents, laterEvents, claimedEvents]

/-- Before the first claim nothing is claimed and nothing needs a claim. -/
theorem earlierEvents_unclaimed {e : LibusbEvent} (he : e ∈ earlierEvents dev attached r) :
    needsClaim e.1 = false ∧ claimResult e = none := by
  unfold earlierEvents detachEvents at he
  split at he <;> simp at he
  · rcases he with rfl | rfl | rfl | rfl <;> exact ⟨rfl, rfl⟩
  · rcases he with rfl | rfl | rfl <;> exact ⟨rfl, rfl⟩

/-- The interface is used after a successful claim exactly if the first one succeeds. -/
theorem openedRun_claimed_iff : Preceded (fun e => needsClaim e.1 = true)
    (fun e => claimResult e = some libusbSuccess) (openedRun dev attached r) ↔
      r.claim = libusbSuccess := by
  rw [openedRun_split, preceded_split_iff]
  · exact Option.some_inj
  · intro e he
    rw [(earlierEvents_unclaimed he).1]
    exact Bool.false_ne_true
  · intro e he
    rw [(earlierEvents_unclaimed he).2]
    exact (Option.some_ne_none _).symm
  · exact Bool.false_ne_true
  · rfl

/-- The result of a detaching call. -/
theorem openedRun_detachResults : (openedRun dev attached r).filterMap detachResult =
    if driverReport attached r.driverActive = 1 then [r.detach] else [] := by
  unfold openedRun openedEvents detachEvents claimedEvents statusEvents attachEvents
  split_ifs <;> rfl

/-- The result of an attaching call. -/
theorem openedRun_attachResults : (openedRun dev attached r).filterMap attachResult =
    if driverReport (r.driverLeft attached) r.driverActiveAgain = 0 then [r.attach] else [] := by
  unfold openedRun openedEvents detachEvents claimedEvents statusEvents attachEvents
  split_ifs <;> rfl

/-- The descriptor that was obtained. -/
theorem openedRun_obtainedDescriptors : (openedRun dev attached r).filterMap obtainedDescriptor =
    if r.configDescriptor.result = libusbSuccess then [r.configDescriptor.descriptor] else [] := by
  unfold openedRun openedEvents detachEvents claimedEvents statusEvents attachEvents
  split_ifs <;> simp [List.filterMap_cons, obtainedDescriptor, *]

/-- Nothing is freed. -/
theorem openedRun_freedDescriptors : (openedRun dev attached r).filterMap freedDescriptor = [] := by
  unfold openedRun openedEvents detachEvents claimedEvents statusEvents attachEvents
  split_ifs <;> rfl

/-- The one device that is closed. -/
theorem openedRun_closedDevices :
    (openedRun dev attached r).filterMap closedDevice = [some dev] := by
  unfold openedRun openedEvents detachEvents claimedEvents statusEvents attachEvents
  split_ifs <;> rfl

/-- The results of the two claims. -/
theorem openedRun_claimResults :
    (openedRun dev attached r).filterMap claimResult = [r.claim, r.claimAgain] := by
  unfold openedRun openedEvents detachEvents claimedEvents statusEvents attachEvents
  split_ifs <;> rfl

/-- The result of the releasing call. -/
theorem openedRun_releaseResults :
    (openedRun dev attached r).filterMap releaseResult = [r.release] := by
  unfold openedRun openedEvents detachEvents claimedEvents statusEvents attachEvents
  split_ifs <;> rfl

/-- A descriptor that was obtained stays unfreed. -/
theorem openedRun_freed_iff :
    (∀ descriptor, ¬ Held (fun e => obtainedDescriptor e = some descriptor)
        (fun e => freedDescriptor e = some descriptor) (openedRun dev attached r)) ↔
      r.configDescriptor.result ≠ libusbSuccess := by
  have hheld (descriptor : BitVec 64) : Held (fun e => obtainedDescriptor e = some descriptor)
      (fun e => freedDescriptor e = some descriptor) (openedRun dev attached r) ↔
        descriptor ∈ (openedRun dev attached r).filterMap obtainedDescriptor := by
    rw [held_iff_of_not_released]
    · simp
    · intro e he
      have hnone := List.filterMap_eq_nil_iff.mp (openedRun_freedDescriptors) e he
      simp [hnone]
  simp only [hheld, openedRun_obtainedDescriptors]
  split_ifs with hresult <;> simp [hresult]

/-- A query reports an attached driver. -/
theorem driverReport_eq_one (attached : Bool) (result : ℤ) :
    driverReport attached result = 1 ↔ attached = true ∧ 0 ≤ result := by
  unfold driverReport
  split_ifs with hfailed hattached
  · omega
  · simp [hattached, Int.not_lt.mp hfailed]
  · simp [hattached]

/-- A query reports that no driver is attached. -/
theorem driverReport_eq_zero (attached : Bool) (result : ℤ) :
    driverReport attached result = 0 ↔ attached = false ∧ 0 ≤ result := by
  unfold driverReport
  split_ifs with hfailed hattached
  · omega
  · simp [hattached]
  · simp [hattached, Int.not_lt.mp hfailed]

/-- The driver was detached in the run exactly if the result says so. -/
theorem openedRun_detached_iff :
    libusbSuccess ∈ (openedRun dev attached r).filterMap detachResult ↔ r.Detached attached := by
  rw [openedRun_detachResults, LibusbResults.Detached]
  split_ifs with hreport <;> simp [hreport, eq_comm]

/-- The driver is attached again exactly if it was detached, unless the results of the two queries
and of detaching forbid it. -/
theorem openedRun_reattached_iff :
    ((openedRun dev attached r).filterMap attachResult ≠ [] ↔
        libusbSuccess ∈ (openedRun dev attached r).filterMap detachResult) ↔
          r.DriverReturned attached := by
  have hattach : (openedRun dev attached r).filterMap attachResult ≠ [] ↔
      r.driverLeft attached = false ∧ 0 ≤ r.driverActiveAgain := by
    rw [openedRun_attachResults, ← driverReport_eq_zero]
    split_ifs with hreport <;> simp [hreport]
  rw [hattach, openedRun_detached_iff, LibusbResults.DriverReturned, LibusbResults.driverLeft]
  cases attached with
  | true =>
    have hdetached : r.Detached true ↔ 0 ≤ r.driverActive ∧ r.detach = libusbSuccess := by
      simp [LibusbResults.Detached, driverReport_eq_one]
    by_cases h : r.Detached true <;> simp_all
  | false =>
    have hkept : ¬ r.Detached false := by simp [LibusbResults.Detached, driverReport_eq_one]
    simp [hkept]

/-- A driver that is attached again successfully is attached at the end. -/
theorem openedRun_attached (h : libusbSuccess ∈ (openedRun dev attached r).filterMap attachResult) :
    driverAttached attached (openedRun dev attached r) = true := by
  rw [openedRun_attachResults] at h
  split_ifs at h with hreport
  · have hattach : r.attach = libusbSuccess := (List.mem_singleton.mp h).symm
    have hlast (before : Bool) :
        driverAttached before (attachEvents dev (r.driverLeft attached) r) = true := by
      rw [attachEvents, if_pos hreport, hattach]
      rfl
    rw [openedRun, openedEvents, driverAttached_append, driverAttached_append,
      driverAttached_append, hlast]
    rfl
  · exact absurd h List.not_mem_nil

/-- An opened device is closed after it was opened, and nothing else is closed. -/
theorem openedRun_closed (other : Option Device) : Preceded (fun e => closedDevice e = some other)
    (fun e => other ≠ none ∧ openedDevice e = other) (openedRun dev attached r) := by
  by_cases hother : other = some dev
  · have hopened : other ≠ none ∧
        openedDevice ⟨.libusbOpenDeviceWithVidPid 0x067b 0x2305, some dev⟩ = other :=
      ⟨hother ▸ Option.some_ne_none dev, hother.symm⟩
    rw [openedRun, List.append_assoc, List.cons_append, List.cons_append, ← List.singleton_append]
    exact preceded_of_split (by simp [closedDevice]) (by simp [closedDevice]) hopened
  · apply preceded_of_not_needs
    intro e he hclosed
    have hmem := List.mem_filterMap.mpr ⟨e, he, hclosed⟩
    rw [openedRun_closedDevices] at hmem
    exact hother (List.mem_singleton.mp hmem)

/-- A run on an opened device gives everything back exactly if the first claim succeeds, no
descriptor is obtained, and the second query tells the driver was detached exactly if it was. -/
theorem openedRun_givesBack_iff (hinit : r.init = libusbSuccess) :
    GivesBack attached (openedRun dev attached r) ↔ r.claim = libusbSuccess ∧
      r.configDescriptor.result ≠ libusbSuccess ∧ r.DriverReturned attached := by
  constructor
  · intro h
    exact ⟨openedRun_claimed_iff.mp h.claimed, openedRun_freed_iff.mp h.freed,
      openedRun_reattached_iff.mp h.reattached⟩
  · intro hgiven
    obtain ⟨hclaim, hdescriptor, hdriver⟩ := hgiven
    have hreattached : (openedRun dev attached r).filterMap attachResult ≠ [] ↔
        libusbSuccess ∈ (openedRun dev attached r).filterMap detachResult :=
      openedRun_reattached_iff.mpr hdriver
    refine ⟨openedRun_claimed_iff.mpr hclaim, ?_, hreattached, fun hattached => ?_,
      openedRun_freed_iff.mpr hdescriptor, openedRun_closed, ?_⟩
    · rw [openedRun_releaseResults, openedRun_claimResults, hclaim]
      simp
    · have hdetached := openedRun_detached_iff.mp (hreattached.mp (List.ne_nil_of_mem hattached))
      rw [openedRun_attached hattached]
      exact ((driverReport_eq_one _ _).mp hdetached.1).1.symm
    · rw [openedRun, hinit]
      simp [initResult]

/-- `usb-test` gives back everything it acquires, and uses nothing it did not acquire, exactly when
libusb is initialised, the device is opened and claimed, its configuration descriptor is not
obtained, and the second query tells the driver was detached exactly if it was. -/
theorem usbTest_givesBack_iff (attached : Bool) (r : LibusbResults) :
    GivesBack attached (exec (libusb attached r) [] usbTest).2 ↔ r.Benign attached := by
  by_cases hinit : r.init = libusbSuccess
  · cases hdevice : r.device with
    | none =>
      rw [usbTest_run_missing hinit hdevice]
      refine iff_of_false (fun h => ?_) fun h => h.device hdevice
      have hclosed : Preceded (fun e => closedDevice e = some none)
          (fun e => none ≠ none ∧ openedDevice e = none)
          ([⟨.libusbInit, r.init⟩, ⟨.libusbOpenDeviceWithVidPid 0x067b 0x2305, none⟩] ++
            ⟨.libusbClose none, ()⟩ :: [⟨.libusbExit, ()⟩]) := h.closed none
      obtain ⟨e, -, hopened⟩ := hclosed.exists_reason rfl
      exact hopened.1 rfl
    | some dev =>
      rw [usbTest_run_opened hinit hdevice, openedRun_givesBack_iff hinit]
      constructor
      · intro hgiven
        obtain ⟨hclaim, hdescriptor, hdriver⟩ := hgiven
        exact ⟨hinit, by simp [hdevice], hclaim, hdescriptor, hdriver⟩
      · intro h
        exact ⟨h.claim, h.descriptor, h.driver⟩
  · rw [usbTest_run_failed hinit]
    refine iff_of_false (fun h => hinit ?_) fun h => hinit h.init
    have hresult := h.exited.mp (by simp)
    simpa [initResult, eq_comm] using hresult

/-- With everything else going well, the configuration descriptor must not be obtained. -/
example : LibusbResults.Benign true { successResults with configDescriptor := ⟨-5, 0⟩ } :=
  ⟨rfl, by decide, rfl, by decide, fun _ => by decide⟩

/-- If another program holds the interface the calls that need the claim are made without it. -/
theorem usbTest_uses_unclaimed :
    ¬ GivesBack true
      (exec (libusb true { successResults with claim := -6, claimAgain := -6 }) [] usbTest).2 :=
  fun h => absurd h.claimed (by decide)

end FactorUsb.Usb
