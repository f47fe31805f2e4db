import FactorUsb.Calls.Loop
import FactorUsb.Hid.Device
import FactorUsb.Hid.Enumerate

/-!
# Finding the devices of the vendor page

`hid-find-devices` scans the interfaces, opens each of them once and makes an `hds` tuple
of those whose capabilities name the vendor page and usage 1. Its C original leaves the
loop as soon as `DEV_NUM` devices were found. The word compares the other way round and
leaves one device later.

The word always terminates with the first eleven of the devices, each made from its own
interface. So it returns what the original specifies precisely when no more than
`DEV_NUM` interfaces qualify.
-/

namespace FactorUsb.Hid

open FactorUsb.Calls

/-- `DEV_NUM`. -/
def devNum : ℕ := 10

/-- The mutable locals of `hid-find-devices` and the global `devcount`. -/
structure FindState where
  index : ℕ
  devcount : ℕ
  exit : Bool
  devdetail : Option DevDetail
  length : ℕ
  sz : Option ℕ
  devhandle : Option Handle
  detailvector : List Hds

/-- The variables before the loop. -/
def FindState.initial : FindState := ⟨0, 0, false, none, 0, none, none, []⟩

/-- The capabilities name the vendor page and usage 1. -/
def VendorUsage (capabilities : HidpCaps) : Prop :=
  capabilities.usagePage = 0xFF00 ∧ capabilities.usage = 0x0001

instance : DecidablePred VendorUsage := fun _ => inferInstanceAs (Decidable (_ ∧ _))

/-- Make a tuple of the device if its capabilities name the vendor page and usage 1. -/
def findMatching (devdetail : DevDetail) (sz : ℕ) (s : FindState) : Option HidpCaps → FindState
  | none => s
  | some capabilities =>
    if VendorUsage capabilities then
      { s with
        detailvector := s.detailvector ++
          [{ newHds with
            count := some s.devcount
            devdetail := some devdetail
            detaildatasz := sz
            inputreportsz := capabilities.inputReportByteLength
            outputreportsz := capabilities.outputReportByteLength
            featurereportsz := capabilities.featureReportByteLength }]
        devcount := s.devcount + 1
        devdetail := none }
    else s

/-- Ask for an interface's details, try to open it and look at its capabilities. -/
def findFound (devinfo devdata : ℕ) (s : FindState) : Win32Program FindState := do
  let queried ← queryDetail devinfo devdata s.length
  let s :=
    { s with devdetail := some queried.devdetail, sz := some queried.sz, length := queried.length }
  if queried.ok then
    let devhandle : Handle ← win32Call (probeCall queried.devdetail)
    let s := { s with devhandle := some devhandle }
    if devhandle ≠ .invalidHandleValue then
      let capabilities ← hidCapabilities devhandle
      pure (findMatching queried.devdetail queried.sz s capabilities)
    else pure s
  else pure s

/-- The end of an iteration, which closes whatever the handle variable holds. -/
def findNext (s : FindState) : Win32Program FindState := do
  let s := { s with index := s.index + 1 }
  let _ ← win32Call (.closeHandle s.devhandle)
  let s := { s with devhandle := none }
  pure (if devNum < s.devcount then { s with exit := true } else s)

/-- The loop body of `hid-find-devices`. -/
def findBody (devinfo hidguid : ℕ) (s : FindState) : Win32Program FindState := do
  let found ← win32Call (.setupDiEnumDeviceInterfaces devinfo hidguid s.index)
  let s ← if found.value = 0 then pure { s with exit := true }
    else findFound devinfo found.devdata s
  findNext s

/-- `hid-find-devices`, with the number of loop iterations it may take; it
also leaves `devcount`. -/
def hidFindDevices (fuel : ℕ) : Win32Program (Option (List Hds × ℕ)) := do
  let hidguid : ℕ ← win32Call .hidDGetHidGuid
  let devinfo : ℕ ← win32Call (.setupDiGetClassDevs hidguid (digcfPresent ||| digcfDeviceInterface))
  let result ← whileLoop (fun s => !s.exit) (findBody devinfo hidguid) fuel .initial
  match result with
  | none => pure none
  | some s => do
    let _ ← win32Call (.setupDiDestroyDeviceInfoList devinfo)
    pure (some (s.detailvector, s.devcount))

/-- The interface could be opened, gave its capabilities, and
these name the vendor page and usage 1. -/
def Interface.Qualifies (itf : Interface) : Prop :=
  itf.Opened ∧ itf.preparsed.value = 1 ∧ itf.caps.status = hidpStatusSuccess ∧
    VendorUsage itf.caps.capabilities

instance : DecidablePred Interface.Qualifies := fun _ => inferInstanceAs (Decidable (_ ∧ _ ∧ _ ∧ _))

/-- The tuple of one interface whose detail data has the given size, at its
position in the vector. -/
def Interface.hds (index : ℕ) (itf : Interface) (sz : ℕ) : Hds :=
  preparedHds (itf.devdetail sz) sz itf.caps.capabilities.inputReportByteLength
    itf.caps.capabilities.outputReportByteLength itf.caps.capabilities.featureReportByteLength
      (some index)

/-- The interfaces with the sizes of their detail data, read from a length cell they share. -/
def sized (length : ℕ) : List Interface → List (Interface × ℕ)
  | [] => []
  | itf :: rest => (itf, itf.neededLength length) :: sized (itf.lengthAfter length) rest

/-- The length cell after a list of interfaces. -/
def lengthAfterAll (length : ℕ) (itfs : List Interface) : ℕ :=
  itfs.foldl (fun length itf => itf.lengthAfter length) length

/-- The tuples of all qualifying interfaces. -/
def qualifyingDevices (itfs : List (Interface × ℕ)) : List Hds :=
  (itfs.filter fun entry => entry.1.Qualifies).mapIdx fun index entry => entry.1.hds index entry.2

/-- The devices `hid-find-devices` returns: the first `DEV_NUM + 1` of the qualifying ones. -/
def foundDevices (itfs : List Interface) : List Hds :=
  (qualifyingDevices (sized 0 itfs)).take (devNum + 1)

/-- Later interfaces find the length cell as the earlier ones leave it. -/
theorem sized_append (length : ℕ) (first later : List Interface) :
    sized length (first ++ later) =
      sized length first ++ sized (lengthAfterAll length first) later := by
  induction first generalizing length with
  | nil => rfl
  | cons itf rest ih =>
    rw [List.cons_append, sized, sized, ih]
    rfl

/-- Sizing keeps the interfaces and their order. -/
theorem sized_map_fst (length : ℕ) (itfs : List Interface) :
    (sized length itfs).map Prod.fst = itfs := by
  induction itfs generalizing length with
  | nil => rfl
  | cons itf rest ih => rw [sized, List.map_cons, ih]

/-- When every sizing call stores a length, each interface gets its own. -/
theorem sized_eq_of_stored (length : ℕ) (itfs : List Interface)
    (hstored : ∀ itf ∈ itfs, itf.sizing.length.isSome) :
    sized length itfs = itfs.map fun itf => (itf, itf.neededLength 0) := by
  induction itfs generalizing length with
  | nil => rfl
  | cons itf rest ih =>
    obtain ⟨needed, hneeded⟩ := Option.isSome_iff_exists.mp (hstored itf (List.mem_cons_self))
    rw [sized, List.map_cons, ih _ fun other hother =>
      hstored other (List.mem_cons_of_mem itf hother)]
    simp only [Interface.neededLength, hneeded, Option.getD_some]

/-- The devices of an initial part of the interfaces come first among all devices. -/
theorem qualifyingDevices_prefix (first later : List (Interface × ℕ)) :
    qualifyingDevices first <+: qualifyingDevices (first ++ later) := by
  unfold qualifyingDevices
  rw [List.filter_append, List.mapIdx_append]
  exact List.prefix_append _ _

/-- Taking in one more interface appends its device if it qualifies. -/
theorem qualifyingDevices_take_succ {itfs : List Interface} {itf : Interface} {k : ℕ}
    (h : itfs[k]? = some itf) :
    qualifyingDevices (sized 0 (itfs.take (k + 1))) =
      qualifyingDevices (sized 0 (itfs.take k)) ++
        if itf.Qualifies then [itf.hds (qualifyingDevices (sized 0 (itfs.take k))).length
          (itf.neededLength (lengthAfterAll 0 (itfs.take k)))] else [] := by
  rw [List.take_add_one, h, Option.toList_some, sized_append, sized, sized]
  exact filter_mapIdx_concat (fun entry : Interface × ℕ => entry.1.Qualifies) _ _ _

/-- The loop has taken in one interface: it is kept if it qualifies, and
the length cell moves on. -/
structure FoundIn (itf : Interface) (s next : FindState) : Prop where
  index_eq : next.index = s.index
  exit_eq : next.exit = s.exit
  length_eq : next.length = itf.lengthAfter s.length
  devcount_eq : next.devcount = s.devcount + if itf.Qualifies then 1 else 0
  detailvector_eq : next.detailvector =
    s.detailvector ++ if itf.Qualifies then [itf.hds s.devcount (itf.neededLength s.length)] else []

variable {itfs : List Interface} {os : Win32Environment} {past : List Win32Event} {itf : Interface}

/-- An interface that does not qualify is passed over. -/
theorem foundIn_of_not_qualifies {s next : FindState} (h : ¬ itf.Qualifies)
    (hindex : next.index = s.index) (hexit : next.exit = s.exit)
    (hlength : next.length = itf.lengthAfter s.length)
    (hcount : next.devcount = s.devcount) (hvector : next.detailvector = s.detailvector) :
    FoundIn itf s next := by
  refine ⟨hindex, hexit, hlength, ?_, ?_⟩
  · rw [if_neg h, hcount, Nat.add_zero]
  · rw [if_neg h, hvector, List.append_nil]

/-- An opened interface is taken in by its capabilities. -/
theorem foundIn_findMatching {s opened : FindState} (hopened : itf.Opened)
    (hindex : opened.index = s.index)
    (hexit : opened.exit = s.exit) (hlength : opened.length = itf.lengthAfter s.length)
    (hcount : opened.devcount = s.devcount) (hvector : opened.detailvector = s.detailvector) :
    FoundIn itf s
      (findMatching (itf.devdetail (itf.neededLength s.length)) (itf.neededLength s.length) opened
      itf.capabilities) := by
  by_cases hcaps : itf.preparsed.value = 1 ∧ itf.caps.status = hidpStatusSuccess
  · rw [Interface.capabilities, if_pos hcaps]
    by_cases husage : VendorUsage itf.caps.capabilities
    · have hkept : itf.Qualifies := ⟨hopened, hcaps.1, hcaps.2, husage⟩
      rw [findMatching, if_pos husage]
      refine ⟨hindex, hexit, hlength, ?_, ?_⟩
      · rw [if_pos hkept, hcount]
      · rw [if_pos hkept, hvector, hcount]
        rfl
    · rw [findMatching, if_neg husage]
      exact foundIn_of_not_qualifies
        (fun hkept => husage hkept.2.2.2) hindex hexit hlength hcount hvector
  · rw [Interface.capabilities, if_neg hcaps]
    exact foundIn_of_not_qualifies
      (fun hkept => hcaps ⟨hkept.2.1, hkept.2.2.1⟩) hindex hexit hlength hcount hvector

/-- A found interface is taken in, whether or not it can be queried and opened. -/
theorem wp_findFound (devinfo devdata : ℕ) (s : FindState)
    (h : currentInterface itfs past = some itf) :
    wp (answering itfs os) (findFound devinfo devdata s)
      (fun next _ => FoundIn itf s next) past := by
  apply wp_bind_of (wp_queryDetail devinfo devdata s.length h)
  intro queried later hout
  obtain ⟨rfl, hlater⟩ := hout
  by_cases hdetail : itf.detail.value = 1
  · simp only [hdetail, decide_true, if_true]
    refine wp_probe hlater (fun hopens n hlast => ?_) (fun hrefused hlast => ?_)
    · rw [if_pos (by simp)]
      apply wp_bind_of (wp_hidCapabilities (.handle n) hlast)
      intro capabilities freed hout
      obtain ⟨rfl, -⟩ := hout
      rw [wp_pure]
      exact foundIn_findMatching ⟨hdetail, hopens⟩ rfl rfl rfl rfl rfl
    · rw [if_neg (by simp), wp_pure]
      have hnot : ¬ itf.Qualifies := fun hkept => Bool.false_ne_true (hrefused.symm.trans hkept.1.2)
      exact foundIn_of_not_qualifies hnot rfl rfl rfl rfl rfl
  · simp only [hdetail, decide_false, Bool.false_eq_true, if_false, wp_pure]
    exact foundIn_of_not_qualifies (fun hkept => hdetail hkept.1.1) rfl rfl rfl rfl rfl

/-- While the loop runs it has at most `DEV_NUM` devices, those of the
interfaces scanned; at its end it has the first `DEV_NUM + 1` of all. -/
structure FindInvariant (itfs : List Interface) (s : FindState) : Prop where
  devcount_eq : s.devcount = s.detailvector.length
  running : s.exit = false → s.index ≤ itfs.length ∧ s.devcount ≤ devNum ∧
    s.length = lengthAfterAll 0 (itfs.take s.index) ∧
    s.detailvector = qualifyingDevices (sized 0 (itfs.take s.index))
  finished : s.exit = true → s.detailvector = foundDevices itfs

/-- The end of an iteration makes one call, and stops the loop once more than
`DEV_NUM` devices are found. -/
theorem wp_findNext (env : Win32Environment) (s : FindState)
    (post : FindState → List Win32Event → Prop) :
    wp env (findNext s) post past ↔
      post
        (if devNum < s.devcount then
          { s with index := s.index + 1, devhandle := none, exit := true }
        else { s with index := s.index + 1, devhandle := none })
        (past ++ [⟨.closeHandle s.devhandle, env past (.closeHandle s.devhandle)⟩]) := by
  unfold findNext
  rw [wp_ask_bind, wp_pure]

/-- Every iteration keeps the invariant and leaves fewer iterations to make. -/
theorem wp_findBody (devinfo hidguid : ℕ) (s : FindState) (hinv : FindInvariant itfs s)
    (hexit : s.exit = false) :
    wp (answering itfs os) (findBody devinfo hidguid s)
      (fun next _ => FindInvariant itfs next ∧
        iterationsLeft itfs next.index next.exit < iterationsLeft itfs s.index s.exit) past := by
  obtain ⟨hindex, hfew, hlength, hvector⟩ := hinv.running hexit
  unfold findBody
  apply wp_enumInterface
  · -- past the end of the list the loop leaves, with at most `DEV_NUM` devices from all interfaces
    intro hall
    rw [if_pos rfl, wp_bind, wp_pure, wp_findNext, if_neg (Nat.not_lt.mpr hfew)]
    rw [List.take_of_length_le hall] at hvector
    refine ⟨⟨hinv.devcount_eq, fun h => absurd h.symm Bool.false_ne_true, fun _ => ?_⟩,
      iterationsLeft_exit itfs _ hindex hexit⟩
    change s.detailvector = _
    rw [foundDevices, ← hvector, List.take_of_length_le]
    rw [← hinv.devcount_eq]
    omega
  · intro itf hfound first _ hcurrent
    have hless : s.index < itfs.length := (List.getElem?_eq_some_iff.mp hfound).1
    rw [if_neg itf.found.property]
    apply wp_bind_of (wp_findFound devinfo s.index s hcurrent)
    intro next later hnext
    rw [wp_findNext]
    have hexit' : next.exit = false := hnext.exit_eq.trans hexit
    have hlength' : next.length = lengthAfterAll 0 (itfs.take (s.index + 1)) := by
      rw [hnext.length_eq, hlength, List.take_add_one, hfound, Option.toList_some, lengthAfterAll,
        lengthAfterAll, List.foldl_append]
      rfl
    have hvector' : next.detailvector = qualifyingDevices (sized 0 (itfs.take (s.index + 1))) := by
      rw [qualifyingDevices_take_succ hfound, ← hvector, ← hinv.devcount_eq, ← hlength,
        hnext.detailvector_eq]
    have hcount' : next.devcount = next.detailvector.length := by
      rw [hnext.devcount_eq, hnext.detailvector_eq, hinv.devcount_eq, List.length_append]
      split_ifs <;> rfl
    have hone : next.devcount ≤ devNum + 1 := by
      rw [hnext.devcount_eq]
      split_ifs <;> omega
    by_cases hmany : devNum < next.devcount
    · -- the cut-off: the eleven devices found so far are the first eleven of all
      rw [if_pos hmany]
      refine ⟨⟨hcount', fun h => absurd h.symm Bool.false_ne_true, fun _ => ?_⟩,
        iterationsLeft_exit itfs _ hindex hexit⟩
      have heleven : next.detailvector.length = devNum + 1 := by omega
      have hprefix : next.detailvector <+: qualifyingDevices (sized 0 itfs) := by
        rw [hvector', ← List.take_append_drop (s.index + 1) itfs, sized_append]
        simp only [List.take_append_drop]
        exact qualifyingDevices_prefix _ _
      rw [foundDevices, ← heleven]
      exact List.prefix_iff_eq_take.mp hprefix
    · rw [if_neg hmany]
      refine ⟨⟨hcount', fun _ => ⟨?_, Nat.not_lt.mp hmany, ?_, ?_⟩, ?_⟩,
        iterationsLeft_next itfs hless hnext.index_eq hexit hexit'⟩
      · change next.index + 1 ≤ itfs.length
        rw [hnext.index_eq]
        omega
      · change next.length = lengthAfterAll 0 (itfs.take (next.index + 1))
        rw [hnext.index_eq, hlength']
      · change next.detailvector = qualifyingDevices (sized 0 (itfs.take (next.index + 1)))
        rw [hnext.index_eq, hvector']
      · exact fun hdone => absurd (hexit'.symm.trans hdone) Bool.false_ne_true

/-- The word ends with the found devices and their number. -/
theorem wp_hidFindDevices (fuel : ℕ) (hfuel : itfs.length < fuel) :
    wp (answering itfs os) (hidFindDevices fuel)
      (fun devices _ => devices = some (foundDevices itfs, (foundDevices itfs).length)) past := by
  unfold hidFindDevices
  rw [wp_ask_bind, wp_ask_bind]
  have hstart : FindInvariant itfs .initial :=
    ⟨rfl, fun _ => ⟨Nat.zero_le _, Nat.zero_le _, rfl, rfl⟩, fun h => absurd h Bool.false_ne_true⟩
  refine wp_bind_of (wp_whileLoop (fun s _ => FindInvariant itfs s)
    (fun s => iterationsLeft itfs s.index s.exit)
    (fun past s hinv hcontinues => wp_findBody _ _ s hinv (by simpa using hcontinues))
    fuel _ _ hstart hfuel) ?_
  intro result later hout
  obtain ⟨last, rfl, hdone, hinv⟩ := hout
  rw [wp_ask_bind, wp_pure, ← hinv.finished (by simpa using hdone), ← hinv.devcount_eq]

/-- The devices the C original specifies: the first `DEV_NUM` qualifying
interfaces, each with the length its own sizing call stored. -/
def specifiedDevices (itfs : List Interface) : List Hds :=
  ((itfs.filter fun itf => itf.Qualifies).take devNum).mapIdx
    fun index itf => itf.hds index (itf.neededLength 0)

/-- When every sizing call stores a length, each device is made from its own interface alone. -/
theorem qualifyingDevices_of_stored (itfs : List Interface)
    (hstored : ∀ itf ∈ itfs, itf.sizing.length.isSome) :
    qualifyingDevices (sized 0 itfs) =
      (itfs.filter fun itf => itf.Qualifies).mapIdx
        fun index itf => itf.hds index (itf.neededLength 0) := by
  rw [sized_eq_of_stored 0 itfs hstored, qualifyingDevices, List.filter_map]
  apply List.ext_getElem?
  intro index
  rw [List.getElem?_mapIdx, List.getElem?_mapIdx, List.getElem?_map, Option.map_map]
  rfl

/-- The specified devices are the first `DEV_NUM` of all qualifying devices. -/
theorem specifiedDevices_eq_take (itfs : List Interface) :
    specifiedDevices itfs =
      ((itfs.filter fun itf => itf.Qualifies).mapIdx
        fun index itf => itf.hds index (itf.neededLength 0)).take devNum := by
  apply List.ext_getElem?
  intro index
  rw [specifiedDevices, List.getElem?_mapIdx, List.getElem?_take, List.getElem?_take,
    List.getElem?_mapIdx]
  split_ifs <;> rfl

/-- `hid-find-devices` returns what its C original specifies
exactly when at most `DEV_NUM` interfaces qualify. -/
theorem hidFindDevices_specified_iff (itfs : List Interface) (os : Win32Environment)
    (past : List Win32Event)
    (fuel : ℕ) (hfuel : itfs.length < fuel) (hstored : ∀ itf ∈ itfs, itf.sizing.length.isSome) :
    (exec (answering itfs os) past (hidFindDevices fuel)).1 =
        some (specifiedDevices itfs, (specifiedDevices itfs).length) ↔
      (itfs.filter fun itf => itf.Qualifies).length ≤ devNum := by
  rw [exec_eq_of_wp (wp_hidFindDevices fuel hfuel), foundDevices,
    qualifyingDevices_of_stored itfs hstored, specifiedDevices_eq_take]
  constructor
  · intro h
    have hlength := congrArg List.length (Prod.mk.inj (Option.some.inj h)).1
    rw [List.length_take, List.length_take, List.length_mapIdx] at hlength
    omega
  · intro hfew
    rw [List.take_of_length_le, List.take_of_length_le]
    · rw [List.length_mapIdx]
      exact hfew
    · rw [List.length_mapIdx]
      omega

/-- Two qualifying interfaces around one that cannot be opened are returned as specified. -/
theorem hidFindDevices_specified_two :
    (exec (answering [vendorInterface "a", { vendorInterface "b" with opens := false },
      vendorInterface "c"]
        (steadyOs (.handle 4) ⟨1, 0⟩ ⟨1, 0⟩ ⟨1, 0⟩ ⟨1, 0⟩ ⟨1, 0⟩)) [] (hidFindDevices 4)).1 =
      some ([(vendorInterface "a").hds 0 8, (vendorInterface "c").hds 1 8], 2) :=
  (hidFindDevices_specified_iff _ _ _ 4 (by decide) (by decide)).mpr (by decide)

/-- Of eleven qualifying interfaces all eleven are returned. -/
theorem hidFindDevices_returns_eleven :
    (exec (answering ((List.range 11).map fun n => vendorInterface (toString n))
        (steadyOs (.handle 4) ⟨1, 0⟩ ⟨1, 0⟩ ⟨1, 0⟩ ⟨1, 0⟩ ⟨1, 0⟩)) [] (hidFindDevices 12)).1 ≠
      some (specifiedDevices ((List.range 11).map fun n => vendorInterface (toString n)),
        (specifiedDevices ((List.range 11).map fun n => vendorInterface (toString n))).length) := by
  rw [exec_eq_of_wp (wp_hidFindDevices 12 (by decide))]
  intro h
  have hlength := congrArg List.length (Prod.mk.inj (Option.some.inj h)).1
  revert hlength
  decide

end FactorUsb.Hid
