import FactorUsb.Usb.Libusb

/-!
# The device list of libusb

libusb stores the address of a list of devices in a cell and returns their number. The
list may be read and has to be freed, both through the address in the cell.

`usb-start` reads as many entries as it was told, whether or not libusb was initialised and
through 32 bits of the address, and never frees them. The disposal of a `tusb` hands on the
cell in place of the list, for every number but zero. So the one word handles the list as it
should only if there is none, and the other only if there is none and none was counted.
-/

namespace FactorUsb.Usb

open FactorUsb.Calls

/-- The Factor errors a word can throw. -/
inductive FactorError where
  | arraySize
  deriving DecidableEq

/-- `memory>byte-array`, which cannot allocate an array of negative length. -/
def readByteArray (address : BitVec 64) (length : ℤ) : LibusbProgram (Except FactorError Unit) :=
  if length < 0 then pure (.error .arraySize)
  else do
    let _ ← libusbCall (.memoryToByteArray address length)
    pure (.ok ())

/-- What `usb-start` does if the result of `libusb_init` counts as true. -/
def readDeviceList : LibusbProgram (Except FactorError Unit) := do
  let reply ← libusbCall .libusbGetDeviceList
  readByteArray (intDerefAlien reply.list) (reply.result * cell)

/-- Leave libusb, unless an error was thrown before. -/
def exitAfter : Except FactorError Unit → LibusbProgram (Except FactorError Unit)
  | .error error => pure (.error error)
  | .ok _ => do
    let _ ← libusbCall .libusbExit
    pure (.ok ())

/-- `usb-start`. -/
def usbStart : LibusbProgram (Except FactorError Unit) := do
  let init : ℤ ← libusbCall .libusbInit
  let read ← if (Value.integer init).isTrue then readDeviceList else pure (.ok ())
  exitAfter read

/-- The `tusb` tuple. -/
structure Tusb where
  disposed : Bool
  ctx : Value
  rctx : Value
  hdev : Value
  devs : Pointer
  ndevs : Value
  deriving DecidableEq

/-- The tuple `<tusb>` starts with. -/
def newTusb : Tusb where
  disposed := false
  ctx := .f
  rctx := .f
  hdev := .f
  devs := .byteArray
  ndevs := .f

/-- `tusb-init`. -/
def tusbInit (tusb : Tusb) : LibusbProgram (Value × Tusb) := do
  let init : ℤ ← libusbCall .libusbInit
  let tusb := { tusb with rctx := .integer init }
  pure (tusb.rctx, tusb)

/-- `tusb-devlist`. -/
def tusbDevlist (tusb : Tusb) : LibusbProgram Tusb := do
  let reply ← libusbCall .libusbGetDeviceList
  pure { tusb with ndevs := .integer reply.result }

/-- `tusb-devs-close`. -/
def tusbDevsClose (tusb : Tusb) : LibusbProgram Unit :=
  if tusb.ndevs ≠ .integer 0 then libusbCall (.libusbFreeDeviceList tusb.devs 1) else pure ()

/-- `dispose*` on a `tusb`. -/
def disposeStar (tusb : Tusb) : LibusbProgram Unit := do
  tusbDevsClose tusb
  libusbCall .libusbExit

/-- `dispose`, which disposes of a tuple once. -/
def dispose (tusb : Tusb) : LibusbProgram Tusb :=
  if tusb.disposed then pure tusb
  else do
    disposeStar tusb
    pure { tusb with disposed := true }

/-- `<tusb>`: the tuple is initialised, asked for its devices and disposed of. -/
def makeTusb : LibusbProgram Tusb := do
  let (_, tusb) ← tusbInit newTusb
  let tusb ← tusbDevlist tusb
  dispose tusb

/-- The address and the length of a read. -/
def readMemory : LibusbEvent → Option (BitVec 64 × ℤ)
  | ⟨.memoryToByteArray address length, _⟩ => some (address, length)
  | _ => none

/-- What an event passes to `libusb_free_device_list`. -/
def freedList : LibusbEvent → Option Pointer
  | ⟨.libusbFreeDeviceList list _, _⟩ => some list
  | _ => none

/-- There is a list: libusb was initialised and counted the devices. -/
def LibusbResults.HasDeviceList (r : LibusbResults) : Prop :=
  r.init = libusbSuccess ∧ 0 ≤ r.deviceList.result

/-- A run reads and frees the list only if there is one and through its address, reads as many
entries as were counted, and frees it exactly once before it leaves libusb. -/
structure HandlesDeviceList (r : LibusbResults) (run : List LibusbEvent) : Prop where
  obtained : run.filterMap readMemory ≠ [] ∨ run.filterMap freedList ≠ [] → r.HasDeviceList
  read : ∀ read ∈ run.filterMap readMemory, read = (r.deviceList.list, r.deviceList.result * cell)
  freed : ∀ list ∈ run.filterMap freedList, list = .alien r.deviceList.list
  freedOnce : r.HasDeviceList → run.filterMap freedList = [.alien r.deviceList.list] ∧
    (run.takeWhile (·.1 ≠ .libusbExit)).filterMap freedList = [.alien r.deviceList.list]

variable {attached : Bool} {r : LibusbResults}

/-- The run of `usb-start`. -/
theorem usbStart_run : (exec (libusb attached r) [] usbStart).2 =
    [⟨.libusbInit, r.init⟩, ⟨.libusbGetDeviceList, r.deviceList⟩] ++
      if r.deviceList.result < 0 then []
      else [⟨.memoryToByteArray (intDerefAlien r.deviceList.list) (r.deviceList.result * cell), ()⟩,
        ⟨.libusbExit, ()⟩] := by
  have hsign : r.deviceList.result * cell < 0 ↔ r.deviceList.result < 0 := by
    rw [cell]
    omega
  unfold usbStart readDeviceList readByteArray
  by_cases hresult : r.deviceList.result < 0 <;>
    simp [Value.isTrue, libusb, hsign, hresult, exitAfter]

/-- `usb-start` reads the list itself exactly if nothing is read or the
address survives `int deref`. -/
theorem usbStart_reads_list_iff :
    (∀ read ∈ (exec (libusb attached r) [] usbStart).2.filterMap readMemory,
        read = (r.deviceList.list, r.deviceList.result * cell)) ↔
      r.deviceList.result < 0 ∨
        -2 ^ 31 ≤ r.deviceList.list.toInt ∧ r.deviceList.list.toInt < 2 ^ 31 := by
  rw [usbStart_run, ← intDerefAlien_eq_self_iff]
  by_cases hresult : r.deviceList.result < 0
  · rw [if_pos hresult]
    exact iff_of_true (fun read hread => absurd hread List.not_mem_nil) (Or.inl hresult)
  · rw [if_neg hresult, or_iff_right hresult]
    simp [List.filterMap_cons, readMemory]

/-- The run of `<tusb>`. -/
theorem makeTusb_run : (exec (libusb attached r) [] makeTusb).2 =
    [⟨.libusbInit, r.init⟩, ⟨.libusbGetDeviceList, r.deviceList⟩] ++
      (if r.deviceList.result = 0 then [] else [⟨.libusbFreeDeviceList .byteArray 1, ()⟩]) ++
        [⟨.libusbExit, ()⟩] := by
  unfold makeTusb tusbInit tusbDevlist dispose disposeStar tusbDevsClose
  by_cases hresult : r.deviceList.result = 0 <;> simp [libusb, hresult, newTusb]

/-- A run that neither reads nor frees is right exactly if there is no list. -/
theorem handlesDeviceList_of_untouched {run : List LibusbEvent}
    (hread : run.filterMap readMemory = []) (hfreed : run.filterMap freedList = []) :
    HandlesDeviceList r run ↔ ¬ r.HasDeviceList := by
  constructor
  · intro h hlist
    have honce := (h.freedOnce hlist).1
    rw [hfreed] at honce
    exact List.cons_ne_nil _ _ honce.symm
  · intro hnone
    exact ⟨by simp [hread, hfreed], by simp [hread], by simp [hfreed],
      fun hlist => absurd hlist hnone⟩

/-- `usb-start` handles the device list as it should exactly if no devices are counted. -/
theorem usbStart_handles_iff :
    HandlesDeviceList r (exec (libusb attached r) [] usbStart).2 ↔ r.deviceList.result < 0 := by
  rw [usbStart_run]
  by_cases hresult : r.deviceList.result < 0
  · rw [if_pos hresult, handlesDeviceList_of_untouched rfl rfl]
    exact iff_of_true (fun hlist => absurd hlist.2 (Int.not_le.mpr hresult)) hresult
  · rw [if_neg hresult]
    refine iff_of_false (fun h => ?_) hresult
    -- the read is wrong without a list, and with one it would have to be freed
    have hlist := h.obtained (Or.inl (List.cons_ne_nil _ _))
    exact List.cons_ne_nil _ _ (h.freedOnce hlist).1.symm

/-- `<tusb>` handles the device list as it should exactly if libusb is not initialised
and no device is counted. -/
theorem makeTusb_handles_iff :
    HandlesDeviceList r (exec (libusb attached r) [] makeTusb).2 ↔
      r.init ≠ libusbSuccess ∧ r.deviceList.result = 0 := by
  rw [makeTusb_run]
  by_cases hresult : r.deviceList.result = 0
  · rw [if_pos hresult, handlesDeviceList_of_untouched rfl rfl, and_iff_left hresult]
    exact not_congr (and_iff_left (Int.le_of_eq hresult.symm))
  · rw [if_neg hresult]
    refine iff_of_false (fun h => ?_) fun hboth => hresult hboth.2
    -- what is freed is the cell, never the list
    have hcell := h.freed .byteArray (List.mem_singleton_self _)
    exact Pointer.noConfusion hcell

/-- Reading and freeing the device list goes right in `usb-start` exactly if the
list is not obtained, and in the life of a `tusb` exactly if libusb is not
initialised and no device is counted. -/
theorem deviceList_handled_iff (attached : Bool) (r : LibusbResults) :
    (HandlesDeviceList r (exec (libusb attached r) [] usbStart).2 ↔ r.deviceList.result < 0) ∧
      (HandlesDeviceList r (exec (libusb attached r) [] makeTusb).2 ↔
        r.init ≠ libusbSuccess ∧ r.deviceList.result = 0) :=
  ⟨usbStart_handles_iff, makeTusb_handles_iff⟩

/-- With one device neither word frees the list, and `<tusb>` frees the cell. -/
theorem deviceList_mishandled :
    ¬ HandlesDeviceList successResults (exec (libusb false successResults) [] usbStart).2 ∧
      ¬ HandlesDeviceList successResults (exec (libusb false successResults) [] makeTusb).2 :=
  ⟨fun h => absurd (h.freedOnce ⟨rfl, by decide⟩).1 (by decide),
    fun h => absurd (h.freed .byteArray (by decide)) (by decide)⟩

end FactorUsb.Usb
