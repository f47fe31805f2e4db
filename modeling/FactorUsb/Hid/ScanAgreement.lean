import FactorUsb.Hid.FindDevices

/-!
# The two scanning loops see the same devices

`hid-find-devices` filters by usage while it scans, `hid-enumerate` keeps the usage in its
records. When both meet the same interfaces, the devices found are the first of the
enumerated ones with the vendor usage, and all of them unless the first loop was cut off.
Everything else the system does, such as the handle values it gives out, may differ
between the two scans.

An enumeration for one vendor and product is likewise a selection from the enumeration of all
devices, numbered again. Zero stands for all devices only if both identifiers are zero.
-/

namespace FactorUsb.Hid

open FactorUsb.Calls

/-- What identifies a device and sizes its reports: path
and input, output and feature report length. -/
abbrev ReportSizes := Option DevicePath × Option ℕ × Option ℕ × Option ℕ

/-- The path and report sizes of a found device. -/
def Hds.reportSizes (hds : Hds) : ReportSizes :=
  (hds.devdetail.map DevDetail.devicePath, some hds.inputreportsz, some hds.outputreportsz,
    some hds.featurereportsz)

/-- The path and report lengths of an enumerated device. -/
def HidDeviceInfo.reportSizes (device : HidDeviceInfo) : ReportSizes :=
  (device.path, device.inRepLen, device.outRepLen, device.featureRepLen)

/-- The record names the vendor page and usage 1. -/
def HidDeviceInfo.NamesVendor (device : HidDeviceInfo) : Prop :=
  device.usagePage = some 0xFF00 ∧ device.usage = some 0x0001

instance : DecidablePred HidDeviceInfo.NamesVendor := fun _ => inferInstanceAs (Decidable (_ ∧ _))

/-- The path and report sizes of an interface that gives its capabilities. -/
def Interface.reportSizes (itf : Interface) : ReportSizes :=
  (some itf.detail.devicePath, some itf.caps.capabilities.inputReportByteLength,
    some itf.caps.capabilities.outputReportByteLength,
    some itf.caps.capabilities.featureReportByteLength)

/-- A view of numbered records that ignores the numbers is a view of what was recorded. -/
theorem filter_mapIdx_map {A B C : Type*} (record : ℕ → A → B) (kept : B → Bool) (keep : A → Bool)
    (view : B → C) (seen : A → C) (hkeep : ∀ index a, kept (record index a) = keep a)
    (hview : ∀ index a, keep a = true → view (record index a) = seen a) (entries : List A) :
    ((entries.mapIdx record).filter kept).map view = (entries.filter keep).map seen := by
  induction entries generalizing record with
  | nil => rfl
  | cons a rest ih =>
    have hrest := ih (fun index => record (index + 1)) (fun index => hkeep (index + 1))
      (fun index => hview (index + 1))
    rw [List.mapIdx_cons, List.filter_cons, List.filter_cons, hkeep]
    cases ha : keep a with
    | false => simpa using hrest
    | true => simpa [hview 0 a ha] using hrest

/-- The found devices show the report sizes of the qualifying interfaces. -/
theorem qualifyingDevices_reportSizes (itfs : List Interface) :
    (qualifyingDevices (sized 0 itfs)).map Hds.reportSizes =
      (itfs.filter fun itf => itf.Qualifies).map Interface.reportSizes := by
  have hall := filter_mapIdx_map (fun index (entry : Interface × ℕ) => entry.1.hds index entry.2)
    (fun _ => true)
    (fun _ => true) Hds.reportSizes (fun entry => entry.1.reportSizes) (fun _ _ => rfl)
    (fun _ _ _ => rfl)
    ((sized 0 itfs).filter fun entry => entry.1.Qualifies)
  rw [List.filter_true, List.filter_true] at hall
  rw [qualifyingDevices, hall]
  conv_rhs => rw [← sized_map_fst 0 itfs, List.filter_map, List.map_map]
  rfl

/-- With both identifiers zero every opened interface is enumerated. -/
theorem enumerated_zero (itf : Interface) : itf.Enumerated 0 0 ↔ itf.Opened :=
  and_iff_left (Or.inl ⟨rfl, rfl⟩)

/-- An interface's record names the vendor usage exactly when its capabilities were found and do. -/
theorem record_namesVendor (index : ℕ) (itf : Interface) :
    (itf.record index).NamesVendor ↔
      itf.preparsed.value = 1 ∧ itf.caps.status = hidpStatusSuccess ∧
        VendorUsage itf.caps.capabilities := by
  unfold HidDeviceInfo.NamesVendor Interface.record Interface.capabilities VendorUsage
  by_cases hcaps : itf.preparsed.value = 1 ∧ itf.caps.status = hidpStatusSuccess
  · simp [hcaps.1, hcaps.2]
  · rw [if_neg hcaps]
    simp only [Option.map_none, reduceCtorEq, false_and, false_iff]
    exact fun h => hcaps ⟨h.1, h.2.1⟩

/-- A record with found capabilities shows its interface's report sizes. -/
theorem record_reportSizes (index : ℕ) (itf : Interface)
    (hcaps : itf.preparsed.value = 1 ∧ itf.caps.status = hidpStatusSuccess) :
    (itf.record index).reportSizes = itf.reportSizes := by
  unfold HidDeviceInfo.reportSizes Interface.record Interface.capabilities
  rw [if_pos hcaps]
  rfl

/-- The records with the vendor usage show the report sizes of the qualifying interfaces. -/
theorem enumerated_reportSizes (itfs : List Interface) :
    ((enumerated 0 0 itfs).filter fun device => device.NamesVendor).map HidDeviceInfo.reportSizes =
      (itfs.filter fun itf => itf.Qualifies).map Interface.reportSizes := by
  have hview := filter_mapIdx_map Interface.record (fun device => device.NamesVendor)
    (fun itf => itf.preparsed.value = 1 ∧ itf.caps.status = hidpStatusSuccess ∧
      VendorUsage itf.caps.capabilities)
    HidDeviceInfo.reportSizes Interface.reportSizes
      (fun index itf => decide_eq_decide.mpr (record_namesVendor index itf))
    (fun index itf hkeep => record_reportSizes index itf ⟨(of_decide_eq_true hkeep).1,
      (of_decide_eq_true hkeep).2.1⟩)
    (itfs.filter fun itf => itf.Enumerated 0 0)
  rw [enumerated, hview, List.filter_filter]
  refine congrArg (List.map Interface.reportSizes) (List.filter_congr fun itf _ => ?_)
  rw [← Bool.decide_and, decide_eq_decide, enumerated_zero, and_comm]
  rfl

/-- Whenever both loops meet the same interfaces, the found devices are a prefix of the enumerated
ones with the vendor usage, and all of them if at most `DEV_NUM` interfaces qualify. -/
theorem findDevices_prefix_enumerate (itfs : List Interface) (os os' : Win32Environment)
    (past past' : List Win32Event) (fuel : ℕ) (hfuel : itfs.length < fuel) :
    ∃ devices devcount records,
      (exec (answering itfs os) past (hidFindDevices fuel)).1 = some (devices, devcount) ∧
      (exec (answering itfs os') past' (hidEnumerate fuel 0 0)).1 = some records ∧
      devices.map Hds.reportSizes <+:
        (records.filter fun device => device.NamesVendor).map HidDeviceInfo.reportSizes ∧
      ((itfs.filter fun itf => itf.Qualifies).length ≤ devNum →
        devices.map Hds.reportSizes =
          (records.filter fun device => device.NamesVendor).map HidDeviceInfo.reportSizes) := by
  refine ⟨foundDevices itfs, (foundDevices itfs).length, enumerated 0 0 itfs,
    exec_eq_of_wp (wp_hidFindDevices fuel hfuel), exec_eq_of_wp (wp_hidEnumerate 0 0 fuel hfuel),
    ?_, fun hfew => ?_⟩
  · rw [foundDevices, List.map_take, qualifyingDevices_reportSizes, enumerated_reportSizes]
    exact List.take_prefix _ _
  · rw [foundDevices, List.map_take, qualifyingDevices_reportSizes, enumerated_reportSizes,
      List.take_of_length_le]
    rw [List.length_map]
    omega

/-- Of four interfaces, the one loop finds the two vendor interfaces, and the other one records the
three that can be opened. -/
theorem findDevices_prefix_enumerate_two :
    ∃ devices devcount records,
      (exec (answering fourInterfaces (steadyOs (.handle 4) ⟨1, 0⟩ ⟨1, 0⟩ ⟨1, 0⟩ ⟨1, 0⟩ ⟨1, 0⟩)) []
        (hidFindDevices 5)).1 = some (devices, devcount) ∧
      (exec (answering fourInterfaces (steadyOs (.handle 8) ⟨1, 0⟩ ⟨1, 0⟩ ⟨1, 0⟩ ⟨1, 0⟩ ⟨1, 0⟩)) []
        (hidEnumerate 5 0 0)).1 = some records ∧
      devices.length = 2 ∧ records.length = 3 ∧
      devices.map Hds.reportSizes =
        (records.filter fun device => device.NamesVendor).map HidDeviceInfo.reportSizes := by
  obtain ⟨devices, devcount, records, hfind, henumerate, -, hequal⟩ :=
    findDevices_prefix_enumerate fourInterfaces
      (steadyOs (.handle 4) ⟨1, 0⟩ ⟨1, 0⟩ ⟨1, 0⟩ ⟨1, 0⟩ ⟨1, 0⟩)
      (steadyOs (.handle 8) ⟨1, 0⟩ ⟨1, 0⟩ ⟨1, 0⟩ ⟨1, 0⟩ ⟨1, 0⟩) [] [] 5 (by decide)
  have htwo : (exec (answering fourInterfaces
      (steadyOs (.handle 4) ⟨1, 0⟩ ⟨1, 0⟩ ⟨1, 0⟩ ⟨1, 0⟩ ⟨1, 0⟩)) []
        (hidFindDevices 5)).1.map (·.1.length) = some 2 := by decide +kernel
  have hthree : (exec (answering fourInterfaces
      (steadyOs (.handle 8) ⟨1, 0⟩ ⟨1, 0⟩ ⟨1, 0⟩ ⟨1, 0⟩ ⟨1, 0⟩)) []
        (hidEnumerate 5 0 0)).1.map List.length = some 3 := by decide +kernel
  rw [hfind] at htwo
  rw [henumerate] at hthree
  exact ⟨devices, devcount, records, hfind, henumerate, Option.some.inj htwo,
    Option.some.inj hthree, hequal (by decide)⟩

/-- Numbering again the records kept is numbering what was recorded of them. -/
theorem mapIdx_filter_mapIdx {A B : Type*} (record record' : ℕ → A → B) (renumber : ℕ → B → B)
    (kept : B → Bool) (keep : A → Bool) (hkeep : ∀ index a, kept (record index a) = keep a)
    (hrenumber : ∀ index index' a, renumber index' (record index a) = record' index' a)
    (entries : List A) :
    ((entries.mapIdx record).filter kept).mapIdx renumber =
      (entries.filter keep).mapIdx record' := by
  induction entries generalizing record record' renumber with
  | nil => rfl
  | cons a rest ih =>
    rw [List.mapIdx_cons, List.filter_cons, List.filter_cons, hkeep]
    cases keep a with
    | false => exact ih _ _ _ (fun index => hkeep (index + 1)) fun index => hrenumber (index + 1)
    | true =>
      have hrest := ih (fun index => record (index + 1)) (fun index => record' (index + 1))
        (fun index => renumber (index + 1)) (fun index => hkeep (index + 1))
        (fun index index' => hrenumber (index + 1) (index' + 1))
      simpa [hrenumber] using hrest

/-- The record has the identifiers asked for, or both are zero. -/
def HidDeviceInfo.HasIds (vid pid : ℤ) (device : HidDeviceInfo) : Prop :=
  MatchesIds vid pid ⟨device.vendorId, device.productId⟩

instance (vid pid : ℤ) : DecidablePred (HidDeviceInfo.HasIds vid pid) :=
  fun _ => inferInstanceAs (Decidable (MatchesIds ..))

/-- The records with the identifiers asked for, numbered in their order. -/
def selected (vid pid : ℤ) (devices : List HidDeviceInfo) : List HidDeviceInfo :=
  (devices.filter fun device => device.HasIds vid pid).mapIdx fun index device =>
    { device with index := index }

/-- The records of the interfaces with the identifiers are selected from those of all interfaces. -/
theorem enumerated_eq_selected (vid pid : ℤ) (itfs : List Interface) :
    enumerated vid pid itfs = selected vid pid (enumerated 0 0 itfs) := by
  have hnumber := mapIdx_filter_mapIdx Interface.record Interface.record
    (fun index (device : HidDeviceInfo) => { device with index := index })
    (fun device => device.HasIds vid pid) (fun itf => MatchesIds vid pid itf.attrib)
      (fun _ _ => rfl)
    (fun _ _ _ => rfl) (itfs.filter fun itf => itf.Enumerated 0 0)
  rw [selected, enumerated, enumerated, hnumber, List.filter_filter]
  refine congrArg (List.mapIdx Interface.record) (List.filter_congr fun itf _ => ?_)
  rw [← Bool.decide_and, decide_eq_decide, enumerated_zero, and_comm]
  rfl

/-- Whenever both meet the same interfaces, `hid-enumerate` for a vendor and product
returns the records that `hid-enumerate` for all devices returns with these identifiers,
numbered in their order. -/
theorem hidEnumerate_selects (itfs : List Interface) (os os' : Win32Environment)
    (past past' : List Win32Event) (vid pid : ℤ) (fuel : ℕ) (hfuel : itfs.length < fuel) :
    (exec (answering itfs os) past (hidEnumerate fuel vid pid)).1 =
      (exec (answering itfs os') past' (hidEnumerate fuel 0 0)).1.map (selected vid pid) := by
  rw [exec_eq_of_wp (wp_hidEnumerate vid pid fuel hfuel),
    exec_eq_of_wp (wp_hidEnumerate 0 0 fuel hfuel),
    Option.map_some, enumerated_eq_selected]

/-- A vendor asked for with product zero among three interfaces. -/
theorem hidEnumerate_selects_three :
    (exec (answering [vendorInterface "a",
          { vendorInterface "b" with attributes := ⟨1, some ⟨1240, 0⟩⟩ }, vendorInterface "c"]
        (steadyOs (.handle 4) ⟨1, 0⟩ ⟨1, 0⟩ ⟨1, 0⟩ ⟨1, 0⟩ ⟨1, 0⟩)) [] (hidEnumerate 4 1240 0)).1 =
      (exec (answering [vendorInterface "a",
          { vendorInterface "b" with attributes := ⟨1, some ⟨1240, 0⟩⟩ }, vendorInterface "c"]
        (steadyOs (.handle 8) ⟨1, 0⟩ ⟨1, 0⟩ ⟨1, 0⟩ ⟨1, 0⟩ ⟨1, 0⟩)) []
        (hidEnumerate 4 0 0)).1.map (selected 1240 0) :=
  hidEnumerate_selects
    [vendorInterface "a", { vendorInterface "b" with attributes := ⟨1, some ⟨1240, 0⟩⟩ },
      vendorInterface "c"]
    (steadyOs (.handle 4) ⟨1, 0⟩ ⟨1, 0⟩ ⟨1, 0⟩ ⟨1, 0⟩ ⟨1, 0⟩)
    (steadyOs (.handle 8) ⟨1, 0⟩ ⟨1, 0⟩ ⟨1, 0⟩ ⟨1, 0⟩ ⟨1, 0⟩) [] [] 1240 0 4 (by decide)

end FactorUsb.Hid
