import FactorUsb.Calls.Loop
import FactorUsb.Hid.Interfaces
import Mathlib.Data.List.Basic

/-!
# Enumerating the HID devices of a vendor and product

`hid-enumerate` scans the interfaces, opens each of them once and keeps a record of those
whose attributes match. The mutable locals of the word are the fields of the loop state;
its loop body is transcribed branch by branch.

For every list of interfaces and every outcome of the calls made for them, the word
terminates with one record for each matching interface, in enumeration order, and each
record is filled from its own interface.
-/

namespace FactorUsb.Hid

open FactorUsb.Calls

/-- The `hid-device-info` tuple. -/
structure HidDeviceInfo where
  index : ℕ
  path : Option DevicePath
  vendorId : ℕ
  productId : ℕ
  usagePage : Option ℕ
  usage : Option ℕ
  inRepLen : Option ℕ
  outRepLen : Option ℕ
  featureRepLen : Option ℕ
  deriving DecidableEq, Repr

/-- `<hid-device-info>`. -/
def newHidDeviceInfo : HidDeviceInfo where
  index := 0
  path := none
  vendorId := 0
  productId := 0
  usagePage := none
  usage := none
  inRepLen := none
  outRepLen := none
  featureRepLen := none

/-- The tuple with the usage and report lengths of its capabilities, if they were found. -/
def HidDeviceInfo.withCapabilities (device : HidDeviceInfo) : Option HidpCaps → HidDeviceInfo
  | none => device
  | some capabilities =>
    { device with
      usagePage := some capabilities.usagePage
      usage := some capabilities.usage
      inRepLen := some capabilities.inputReportByteLength
      outRepLen := some capabilities.outputReportByteLength
      featureRepLen := some capabilities.featureReportByteLength }

/-- The mutable locals of `hid-enumerate`. -/
structure EnumerateState where
  index : ℕ
  exit : Bool
  devdetail : Option DevDetail
  length : ℕ
  sz : Option ℕ
  detailvector : List HidDeviceInfo
  count : ℕ

/-- The locals before the loop. -/
def EnumerateState.initial : EnumerateState := ⟨0, false, none, 0, none, [], 0⟩

/-- Both identifiers are zero, or they are those of the attributes. -/
def MatchesIds (vid pid : ℤ) (attrib : HiddAttributes) : Prop :=
  (vid = 0 ∧ pid = 0) ∨ ((attrib.vendorID : ℤ) = vid ∧ (attrib.productID : ℤ) = pid)

instance (vid pid : ℤ) : DecidablePred (MatchesIds vid pid) :=
  fun _ => inferInstanceAs (Decidable (_ ∨ _))

/-- Keep a record of the device if its attributes match. -/
def enumerateMatching (vid pid : ℤ) (devdetail : DevDetail) (devhandle : Handle)
    (attrib : HiddAttributes)
    (s : EnumerateState) : Win32Program EnumerateState :=
  if MatchesIds vid pid attrib then do
    let device := { newHidDeviceInfo with
      index := s.count
      path := some devdetail.devicePath
      vendorId := attrib.vendorID
      productId := attrib.productID }
    let capabilities ← hidCapabilities devhandle
    pure { s with
      detailvector := s.detailvector ++ [device.withCapabilities capabilities]
      count := s.count + 1
      devdetail := none }
  else pure s

/-- Read the attributes of an opened device, keep it if they match, and close it. -/
def enumerateOpened (vid pid : ℤ) (devdetail : DevDetail) (devhandle : Handle)
    (s : EnumerateState) :
    Win32Program EnumerateState := do
  let reply ← win32Call (.hidDGetAttributes (some devhandle))
  let s ← enumerateMatching vid pid devdetail devhandle (reply.attributes.getD ⟨0, 0⟩) s
  let _ ← win32Call (.closeHandle (some devhandle))
  pure s

/-- Ask for an interface's details and try to open it. -/
def enumerateFound (vid pid : ℤ) (devinfo devdata : ℕ) (s : EnumerateState) :
    Win32Program EnumerateState := do
  let queried ← queryDetail devinfo devdata s.length
  let s :=
    { s with devdetail := some queried.devdetail, sz := some queried.sz, length := queried.length }
  if queried.ok then
    let devhandle : Handle ← win32Call (probeCall queried.devdetail)
    if devhandle ≠ .invalidHandleValue then enumerateOpened vid pid queried.devdetail devhandle s
    else pure s
  else pure s

/-- The loop body of `hid-enumerate`. -/
def enumerateBody (vid pid : ℤ) (devinfo hidguid : ℕ) (s : EnumerateState) :
    Win32Program EnumerateState := do
  let found ← win32Call (.setupDiEnumDeviceInterfaces devinfo hidguid s.index)
  let s ←
    if found.value = 0 then pure { s with exit := true }
    else enumerateFound vid pid devinfo found.devdata s
  pure { s with index := s.index + 1 }

/-- `hid-enumerate`, with the number of loop iterations it may take. -/
def hidEnumerate (fuel : ℕ) (vid pid : ℤ) : Win32Program (Option (List HidDeviceInfo)) := do
  let hidguid : ℕ ← win32Call .hidDGetHidGuid
  let devinfo : ℕ ← win32Call (.setupDiGetClassDevs hidguid (digcfPresent ||| digcfDeviceInterface))
  let result ← whileLoop (fun s => !s.exit) (enumerateBody vid pid devinfo hidguid) fuel .initial
  match result with
  | none => pure none
  | some s => do
    let _ ← win32Call (.setupDiDestroyDeviceInfoList devinfo)
    pure (some s.detailvector)

/-- The detail query succeeded and the interface could be opened. -/
def Interface.Opened (itf : Interface) : Prop := itf.detail.value = 1 ∧ itf.opens = true

instance : DecidablePred Interface.Opened := fun _ => inferInstanceAs (Decidable (_ ∧ _))

/-- The attributes read from an opened interface, zero where nothing was written. -/
def Interface.attrib (itf : Interface) : HiddAttributes := itf.attributes.attributes.getD ⟨0, 0⟩

/-- The interface could be opened and has the identifiers asked for. -/
def Interface.Enumerated (vid pid : ℤ) (itf : Interface) : Prop :=
  itf.Opened ∧ MatchesIds vid pid itf.attrib

instance (vid pid : ℤ) : DecidablePred (Interface.Enumerated vid pid) :=
  fun _ => inferInstanceAs (Decidable (_ ∧ _))

/-- The record of one interface, at its position among the records. -/
def Interface.record (index : ℕ) (itf : Interface) : HidDeviceInfo where
  index := index
  path := some itf.detail.devicePath
  vendorId := itf.attrib.vendorID
  productId := itf.attrib.productID
  usagePage := itf.capabilities.map HidpCaps.usagePage
  usage := itf.capabilities.map HidpCaps.usage
  inRepLen := itf.capabilities.map HidpCaps.inputReportByteLength
  outRepLen := itf.capabilities.map HidpCaps.outputReportByteLength
  featureRepLen := itf.capabilities.map HidpCaps.featureReportByteLength

/-- The records of the interfaces with the identifiers asked for. -/
def enumerated (vid pid : ℤ) (itfs : List Interface) : List HidDeviceInfo :=
  (itfs.filter (Interface.Enumerated vid pid)).mapIdx Interface.record

/-- The loop has taken in one interface: its record is kept if it matches,
and nothing else counts. -/
structure TakenIn (vid pid : ℤ) (itf : Interface) (s next : EnumerateState) : Prop where
  index_eq : next.index = s.index
  exit_eq : next.exit = s.exit
  count_eq : next.count = s.count + if itf.Enumerated vid pid then 1 else 0
  detailvector_eq : next.detailvector =
    s.detailvector ++ if itf.Enumerated vid pid then [itf.record s.count] else []

variable {itfs : List Interface} {os : Win32Environment} {past : List Win32Event} {itf : Interface}

/-- An interface that does not match is passed over. -/
theorem takenIn_of_not_enumerated {vid pid : ℤ} {s next : EnumerateState}
    (h : ¬ itf.Enumerated vid pid)
    (hindex : next.index = s.index) (hexit : next.exit = s.exit) (hcount : next.count = s.count)
    (hvector : next.detailvector = s.detailvector) : TakenIn vid pid itf s next := by
  refine ⟨hindex, hexit, ?_, ?_⟩
  · rw [if_neg h, hcount, Nat.add_zero]
  · rw [if_neg h, hvector, List.append_nil]

/-- An opened interface is taken in with its own path, attributes and capabilities. -/
theorem wp_enumerateOpened (vid pid : ℤ) (sz : ℕ) (devhandle : Handle) (s : EnumerateState)
    (hopened : itf.Opened) (h : currentInterface itfs past = some itf) :
    wp (answering itfs os) (enumerateOpened vid pid (itf.devdetail sz) devhandle s)
      (fun next _ => TakenIn vid pid itf s next) past := by
  apply wp_current h (fun _ => rfl)
  intro later hlater
  have hmatching : wp (answering itfs os)
    (enumerateMatching vid pid (itf.devdetail sz) devhandle itf.attrib s)
      (fun next last => TakenIn vid pid itf s next ∧ currentInterface itfs last = some itf)
        later := by
    by_cases hmatch : MatchesIds vid pid itf.attrib
    · rw [enumerateMatching, if_pos hmatch]
      apply wp_bind_of (wp_hidCapabilities devhandle hlater)
      intro capabilities last hout
      obtain ⟨rfl, hlast⟩ := hout
      rw [wp_pure]
      have hkept : itf.Enumerated vid pid := ⟨hopened, hmatch⟩
      refine ⟨⟨rfl, rfl, by rw [if_pos hkept], ?_⟩, hlast⟩
      rw [if_pos hkept]
      unfold HidDeviceInfo.withCapabilities Interface.record
      cases itf.capabilities <;> rfl
    · rw [enumerateMatching, if_neg hmatch, wp_pure]
      exact ⟨takenIn_of_not_enumerated (fun hkept => hmatch hkept.2) rfl rfl rfl rfl, hlater⟩
  refine wp_bind_of hmatching fun next last ⟨htaken, hlast⟩ => ?_
  apply wp_current hlast (fun _ => rfl)
  intro _ _
  rw [wp_pure]
  exact htaken

/-- A found interface is taken in, whether or not it can be queried and opened. -/
theorem wp_enumerateFound (vid pid : ℤ) (devinfo devdata : ℕ) (s : EnumerateState)
    (h : currentInterface itfs past = some itf) :
    wp (answering itfs os) (enumerateFound vid pid devinfo devdata s)
      (fun next _ => TakenIn vid pid itf s next) past := by
  apply wp_bind_of (wp_queryDetail devinfo devdata s.length h)
  intro queried later hout
  obtain ⟨rfl, hlater⟩ := hout
  by_cases hdetail : itf.detail.value = 1
  · simp only [hdetail, decide_true, if_true]
    refine wp_probe hlater (fun hopens n hlast => ?_) (fun hrefused hlast => ?_)
    · rw [if_pos (by simp)]
      refine wp_mono (wp_enumerateOpened vid pid _ (.handle n) _ ⟨hdetail, hopens⟩ hlast)
        fun next _ h => ?_
      exact ⟨h.index_eq, h.exit_eq, h.count_eq, h.detailvector_eq⟩
    · rw [if_neg (by simp), wp_pure]
      have hnot : ¬ itf.Enumerated vid pid :=
        fun hkept => Bool.false_ne_true (hrefused.symm.trans hkept.1.2)
      exact takenIn_of_not_enumerated hnot rfl rfl rfl rfl
  · simp only [hdetail, decide_false, Bool.false_eq_true, if_false, wp_pure]
    exact takenIn_of_not_enumerated (fun hkept => hdetail hkept.1.1) rfl rfl rfl rfl

/-- While the loop runs its records are those of the
interfaces scanned, and at its end those of all. -/
structure EnumerateInvariant (vid pid : ℤ) (itfs : List Interface) (s : EnumerateState) : Prop where
  count_eq : s.count = s.detailvector.length
  running : s.exit = false →
    s.index ≤ itfs.length ∧ s.detailvector = enumerated vid pid (itfs.take s.index)
  finished : s.exit = true → s.detailvector = enumerated vid pid itfs

/-- Every iteration keeps the invariant and leaves fewer iterations to make. -/
theorem wp_enumerateBody (vid pid : ℤ) (devinfo hidguid : ℕ) (s : EnumerateState)
    (hinv : EnumerateInvariant vid pid itfs s) (hexit : s.exit = false) :
    wp (answering itfs os) (enumerateBody vid pid devinfo hidguid s)
      (fun next _ => EnumerateInvariant vid pid itfs next ∧
        iterationsLeft itfs next.index next.exit < iterationsLeft itfs s.index s.exit) past := by
  obtain ⟨hindex, hvector⟩ := hinv.running hexit
  unfold enumerateBody
  apply wp_enumInterface
  · -- past the end of the list the loop leaves, with every interface scanned
    intro hall
    rw [if_pos rfl, wp_bind, wp_pure, wp_pure]
    refine ⟨⟨hinv.count_eq, by simp, fun _ => ?_⟩, iterationsLeft_exit itfs _ hindex hexit⟩
    rw [hvector, List.take_of_length_le hall]
  · intro itf hfound first _ hcurrent
    have hless : s.index < itfs.length := (List.getElem?_eq_some_iff.mp hfound).1
    rw [if_neg itf.found.property]
    apply wp_bind_of (wp_enumerateFound vid pid devinfo s.index s hcurrent)
    intro next later htaken
    rw [wp_pure]
    have hexit' : next.exit = false := htaken.exit_eq.trans hexit
    refine ⟨⟨?_, fun _ => ⟨?_, ?_⟩, ?_⟩,
      iterationsLeft_next itfs hless htaken.index_eq hexit hexit'⟩
    · change next.count = next.detailvector.length
      rw [htaken.count_eq, htaken.detailvector_eq, hinv.count_eq, List.length_append]
      split_ifs <;> rfl
    · change next.index + 1 ≤ itfs.length
      rw [htaken.index_eq]
      omega
    · change next.detailvector = enumerated vid pid (itfs.take (next.index + 1))
      rw [htaken.index_eq, List.take_add_one, hfound, Option.toList_some, enumerated,
        filter_mapIdx_concat, ← enumerated, ← hvector, ← hinv.count_eq, htaken.detailvector_eq]
    · exact fun hdone => absurd (hexit'.symm.trans hdone) Bool.false_ne_true

/-- The loop ends with the records of the interfaces that match. -/
theorem wp_enumerateLoop (vid pid : ℤ) (devinfo hidguid fuel : ℕ) (hfuel : itfs.length < fuel) :
    wp (answering itfs os)
      (whileLoop (fun s => !s.exit) (enumerateBody vid pid devinfo hidguid) fuel .initial)
      (fun result _ => ∃ last, result = some last ∧ last.detailvector = enumerated vid pid itfs)
        past := by
  have hstart : EnumerateInvariant vid pid itfs .initial :=
    ⟨rfl, fun _ => ⟨Nat.zero_le _, rfl⟩, fun h => absurd h Bool.false_ne_true⟩
  refine wp_mono (wp_whileLoop (fun s _ => EnumerateInvariant vid pid itfs s)
    (fun s => iterationsLeft itfs s.index s.exit)
    (fun past s hinv hcontinues => wp_enumerateBody vid pid _ _ s hinv (by simpa using hcontinues))
    fuel _ _ hstart hfuel) ?_
  intro result later hout
  obtain ⟨last, rfl, hdone, hinv⟩ := hout
  exact ⟨last, rfl, hinv.finished (by simpa using hdone)⟩

/-- The word ends with the records of the interfaces that match. -/
theorem wp_hidEnumerate (vid pid : ℤ) (fuel : ℕ) (hfuel : itfs.length < fuel) :
    wp (answering itfs os) (hidEnumerate fuel vid pid)
      (fun records _ => records = some (enumerated vid pid itfs)) past := by
  unfold hidEnumerate
  rw [wp_ask_bind, wp_ask_bind]
  apply wp_bind_of (wp_enumerateLoop vid pid _ _ fuel hfuel)
  intro result later hout
  obtain ⟨last, rfl, hvector⟩ := hout
  rw [wp_ask_bind, wp_pure, hvector]

/-- `hid-enumerate` terminates with the records of exactly the interfaces that could be
opened and match, in enumeration order, each filled from its own interface. -/
theorem hidEnumerate_eq (itfs : List Interface) (os : Win32Environment) (past : List Win32Event)
    (vid pid : ℤ) (fuel : ℕ) (hfuel : itfs.length < fuel) :
    (exec (answering itfs os) past (hidEnumerate fuel vid pid)).1 =
      some ((itfs.filter (Interface.Enumerated vid pid)).mapIdx Interface.record) :=
  exec_eq_of_wp (wp_hidEnumerate vid pid fuel hfuel)

/-- Of four interfaces, the first and the last can be opened and have the product asked for. -/
theorem hidEnumerate_eq_two :
    (exec (answering fourInterfaces (steadyOs (.handle 4) ⟨1, 0⟩ ⟨1, 0⟩ ⟨1, 0⟩ ⟨1, 0⟩ ⟨1, 0⟩)) []
        (hidEnumerate 5 1240 63)).1 =
      some [⟨0, some "a", 1240, 63, some 0xFF00, some 1, some 65, some 65, some 0⟩,
        ⟨1, some "d", 1240, 63, some 0xFF00, some 1, some 3, some 5, some 0⟩] := by
  rw [hidEnumerate_eq _ _ _ _ _ 5 (by decide)]
  rfl

end FactorUsb.Hid
