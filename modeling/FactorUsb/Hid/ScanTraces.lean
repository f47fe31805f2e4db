import FactorUsb.Calls.Monitor
import FactorUsb.Hid.FindDevices

/-!
# Laws about the calls of the two scanning loops

A law is a monitor that is idle while a loop moves on from one interface to the next.
What it asks of the calls made for one interface is a condition on that interface alone,
and the scan obeys the law precisely when every interface it looks at meets the condition.

`hid-enumerate` looks at all interfaces. `hid-find-devices` stops at the one that brings
the number of devices above `DEV_NUM`; without it the loop makes one more iteration, which
finds nothing and still closes the handle variable.
-/

namespace FactorUsb.Hid

open FactorUsb.Calls

/-- The interfaces `hid-find-devices` looks at, with the number of devices found before them. -/
def scannedFrom (found : ℕ) : List Interface → List Interface
  | [] => []
  | itf :: rest =>
    if devNum < found then [] else itf :: scannedFrom (found + if itf.Qualifies then 1 else 0) rest

/-- The interfaces `hid-find-devices` looks at. -/
def scanned (itfs : List Interface) : List Interface := scannedFrom 0 itfs

/-- How many of the interfaces qualify. -/
def qualifying (itfs : List Interface) : ℕ := (itfs.filter fun itf => itf.Qualifies).length

/-- One more interface counts if it qualifies. -/
theorem qualifying_append (first later : List Interface) :
    qualifying (first ++ later) = qualifying first + qualifying later := by
  rw [qualifying, List.filter_append, List.length_append]
  rfl

/-- A single interface counts if it qualifies. -/
theorem qualifying_singleton (itf : Interface) :
    qualifying [itf] = if itf.Qualifies then 1 else 0 := by
  rw [qualifying, List.filter_singleton]
  split_ifs <;> simp_all

/-- The count up to and including an interface. -/
theorem qualifying_take_succ {itfs : List Interface} {itf : Interface} {k : ℕ}
    (h : itfs[k]? = some itf) :
    qualifying (itfs.take (k + 1)) = qualifying (itfs.take k) + if itf.Qualifies then 1 else 0 := by
  rw [List.take_add_one, h, Option.toList_some, qualifying_append, qualifying_singleton]

/-- Once more than `DEV_NUM` devices were found no further interface is looked at. -/
theorem scannedFrom_of_many {found : ℕ} (h : devNum < found) (itfs : List Interface) :
    scannedFrom found itfs = [] := by
  cases itfs with
  | nil => rfl
  | cons itf rest => exact if_pos h

/-- While at most `DEV_NUM` devices are found every interface is looked at. -/
theorem scannedFrom_append (found : ℕ) (first later : List Interface)
    (h : found + qualifying first ≤ devNum) :
    scannedFrom found (first ++ later) = first ++ scannedFrom (found + qualifying first) later := by
  induction first generalizing found with
  | nil => rfl
  | cons itf rest ih =>
    have hcount : qualifying (itf :: rest) = (if itf.Qualifies then 1 else 0) +
        qualifying rest := by
      rw [← qualifying_singleton, ← qualifying_append, List.singleton_append]
    rw [hcount, ← Nat.add_assoc] at h
    rw [List.cons_append, scannedFrom, if_neg (by omega), ih _ h, hcount, Nat.add_assoc,
      List.cons_append]

/-- If at most `DEV_NUM` interfaces qualify all of them are looked at. -/
theorem scanned_of_few {itfs : List Interface} (h : qualifying itfs ≤ devNum) :
    scanned itfs = itfs := by
  have hall := scannedFrom_append 0 itfs [] (by omega)
  rwa [List.append_nil, scannedFrom, List.append_nil] at hall

/-- The interface that brings the number of devices above `DEV_NUM` is the last one looked at. -/
theorem scanned_of_many {itfs : List Interface} {k : ℕ} (hk : k < itfs.length)
    (hfew : qualifying (itfs.take k) ≤ devNum) (hmany : devNum < qualifying (itfs.take (k + 1))) :
    scanned itfs = itfs.take (k + 1) := by
  have hsome : itfs[k]? = some itfs[k] := List.getElem?_eq_getElem hk
  have hsplit : itfs = itfs.take k ++ itfs[k] :: itfs.drop (k + 1) := by
    rw [List.getElem_cons_drop, List.take_append_drop]
  have htake : itfs.take (k + 1) = itfs.take k ++ [itfs[k]] := by
    rw [List.take_add_one, hsome, Option.toList_some]
  rw [qualifying_take_succ hsome] at hmany
  calc scanned itfs
      = scannedFrom 0 (itfs.take k ++ itfs[k] :: itfs.drop (k + 1)) :=
        congrArg (scannedFrom 0) hsplit
    _ = itfs.take k ++ scannedFrom (0 + qualifying (itfs.take k)) (itfs[k] :: itfs.drop (k + 1)) :=
        scannedFrom_append 0 _ _ (by omega)
    _ = itfs.take k ++ [itfs[k]] := by
        rw [scannedFrom, if_neg (by omega), scannedFrom_of_many (by omega)]
    _ = itfs.take (k + 1) := htake.symm

/-- A property of all interfaces up to and including one. -/
theorem forall_mem_take_succ {itfs : List Interface} {itf : Interface} {k : ℕ}
    (h : itfs[k]? = some itf) (P : Interface → Prop) :
    (∀ other ∈ itfs.take (k + 1), P other) ↔ (∀ other ∈ itfs.take k, P other) ∧ P itf := by
  rw [List.take_add_one, h, Option.toList_some, List.forall_mem_append, List.forall_mem_singleton]

/-- Querying the details makes the two detail calls on the set it is given. -/
theorem queryDetail_callsOnly {allowed : Win32Call → Prop} (devinfo devdata length : ℕ)
    (hdetail : ∀ devdetail sz,
      allowed (.setupDiGetDeviceInterfaceDetail devinfo devdata devdetail sz)) :
    (queryDetail devinfo devdata length).CallsOnly allowed := by
  apply callsOnly_ask_bind (hdetail _ _)
  intro sizing
  apply callsOnly_ask_bind (hdetail _ _)
  intro reply
  exact callsOnly_pure _

/-- Getting the capabilities of a device makes the three calls about its preparsed data. -/
theorem hidCapabilities_callsOnly {allowed : Win32Call → Prop} (devhandle : Handle)
    (hget : allowed (.hidDGetPreparsedData (some devhandle)))
    (hcaps : ∀ pointer, allowed (.hidPGetCaps pointer))
    (hfree : ∀ pointer, allowed (.hidDFreePreparsedData pointer)) :
    (hidCapabilities devhandle).CallsOnly allowed := by
  apply callsOnly_ask_bind hget
  intro preparsed
  refine callsOnly_ite (fun _ => ?_) fun _ => callsOnly_pure _
  apply callsOnly_ask_bind (hcaps _)
  intro caps
  refine callsOnly_ite (fun _ => ?_) fun _ => callsOnly_pure _
  exact callsOnly_ask_bind (hfree _) fun _ => callsOnly_pure _

/-- Keeping a record of a device makes the calls that get its capabilities. -/
theorem enumerateMatching_callsOnly {allowed : Win32Call → Prop} (vid pid : ℤ)
    (devdetail : DevDetail) (devhandle : Handle) (attrib : HiddAttributes) (s : EnumerateState)
    (hcapabilities : (hidCapabilities devhandle).CallsOnly allowed) :
    (enumerateMatching vid pid devdetail devhandle attrib s).CallsOnly allowed :=
  callsOnly_ite (fun _ => callsOnly_bind hcapabilities fun _ => callsOnly_pure _)
    fun _ => callsOnly_pure _

/-- The calls about the information set and its elements. -/
def AsksSet : Win32Call → Prop
  | .hidDGetHidGuid | .setupDiGetClassDevs .. | .setupDiEnumDeviceInterfaces ..
  | .setupDiGetDeviceInterfaceDetail .. | .setupDiDestroyDeviceInfoList _ => True
  | _ => False

variable {State : Type} {m : Monitor Win32Event State} {P : Interface → Prop}
  {itfs : List Interface}
  {os : Win32Environment} {past : List Win32Event} {itf : Interface} {vid pid : ℤ}

/-- The detail query leaves an idle monitor idle. -/
theorem wp_queryDetail_idle (hasks : ∀ e : Win32Event, AsksSet e.1 → m.step m.idle e = some m.idle)
    (devinfo devdata length : ℕ) (h : currentInterface itfs past = some itf)
    (hidle : m.after past = some m.idle) :
    wp (answering itfs os) (queryDetail devinfo devdata length)
      (fun queried later =>
        queried = ⟨itf.detail.value = 1, itf.devdetail (itf.neededLength length),
            itf.neededLength length, itf.lengthAfter length⟩ ∧
          currentInterface itfs later = some itf ∧ m.after later = some m.idle) past := by
  have hstays : wp (answering itfs os) (queryDetail devinfo devdata length)
      (fun _ later => m.after later = some m.idle) past :=
    wp_stays hidle (queryDetail_callsOnly devinfo devdata length fun _ _ _ => hasks _ trivial)
  exact wp_mono (wp_and (wp_queryDetail devinfo devdata length h) hstays)
    fun queried later hboth => ⟨hboth.1.1, hboth.1.2, hboth.2⟩

/-- After the calls that obtain the information set the law is settled by no interface. -/
theorem settled_started (hasks : ∀ e : Win32Event, AsksSet e.1 → m.step m.idle e = some m.idle)
    (guid flags devinfo : ℕ) :
    m.Settled ([] ++ [⟨.hidDGetHidGuid, guid⟩] ++ [⟨.setupDiGetClassDevs guid flags, devinfo⟩])
      (∀ itf ∈ itfs.take 0, P itf) := by
  have hidle : m.Settled [] (∀ itf ∈ itfs.take 0, P itf) :=
    Monitor.settled_of_idle m.after_nil (by simp)
  have hguid := hidle.concat_of_stays (hasks ⟨.hidDGetHidGuid, guid⟩ trivial)
  exact hguid.concat_of_stays (hasks _ trivial)

section Enumerate

/-- What a law asks of `hid-enumerate`: of an interface whose detail query fails, of one that cannot
be opened, and of one that is. -/
structure EnumerateLaw (m : Monitor Win32Event State) (P : Interface → Prop) (itfs : List Interface)
    (os : Win32Environment) (vid pid : ℤ) : Prop where
  asksSet : ∀ e : Win32Event, AsksSet e.1 → m.step m.idle e = some m.idle
  failed : ∀ itf : Interface, itf.detail.value ≠ 1 → P itf
  refused : ∀ itf : Interface, itf.opens = false → ∀ devdetail past, m.after past = some m.idle →
    m.Settled (past ++ [⟨probeCall devdetail, Handle.invalidHandleValue⟩]) (P itf)
  opened : ∀ itf : Interface, itf.Opened → ∀ devdetail n s past,
    currentInterface itfs (past ++ [⟨probeCall devdetail, Handle.handle n⟩]) = some itf →
    m.after past = some m.idle →
    wp (answering itfs os) (enumerateOpened vid pid devdetail (.handle n) s)
      (fun _ later => m.Settled later (P itf)) (past ++ [⟨probeCall devdetail, Handle.handle n⟩])

/-- The calls made for one interface settle the law by the condition on it. -/
theorem wp_enumerateFound_settled (law : EnumerateLaw m P itfs os vid pid) (devinfo devdata : ℕ)
    (s : EnumerateState) (h : currentInterface itfs past = some itf)
    (hidle : m.after past = some m.idle) :
    wp (answering itfs os) (enumerateFound vid pid devinfo devdata s)
      (fun _ later => m.Settled later (P itf)) past := by
  apply wp_bind_of (wp_queryDetail_idle law.asksSet devinfo devdata s.length h hidle)
  intro queried later hout
  obtain ⟨rfl, hlater, hidle⟩ := hout
  by_cases hdetail : itf.detail.value = 1
  · simp only [hdetail, decide_true, if_true]
    refine wp_probe hlater (fun hopens n hlast => ?_) (fun hrefused hlast => ?_)
    · rw [if_pos (by simp)]
      exact law.opened itf ⟨hdetail, hopens⟩ _ n _ later hlast hidle
    · rw [if_neg (by simp), wp_pure]
      exact law.refused itf hrefused _ later hidle
  · simp only [hdetail, decide_false, Bool.false_eq_true, if_false, wp_pure]
    exact Monitor.settled_of_idle hidle (law.failed itf hdetail)

/-- While the loop of `hid-enumerate` runs the law is settled by the interfaces scanned. -/
structure EnumerateSettled (m : Monitor Win32Event State) (P : Interface → Prop)
    (itfs : List Interface) (s : EnumerateState) (past : List Win32Event) : Prop where
  running : s.exit = false → s.index ≤ itfs.length ∧
    m.Settled past (∀ itf ∈ itfs.take s.index, P itf)
  finished : s.exit = true → m.Settled past (∀ itf ∈ itfs, P itf)

/-- Every iteration settles the law for one more interface. -/
theorem wp_enumerateBody_settled (law : EnumerateLaw m P itfs os vid pid) (devinfo hidguid : ℕ)
    (s : EnumerateState) (hinv : EnumerateSettled m P itfs s past) (hexit : s.exit = false) :
    wp (answering itfs os) (enumerateBody vid pid devinfo hidguid s)
      (fun next later => EnumerateSettled m P itfs next later ∧
        iterationsLeft itfs next.index next.exit < iterationsLeft itfs s.index s.exit) past := by
  obtain ⟨hindex, hsettled⟩ := hinv.running hexit
  have hmoved (reply : EnumReply) : m.Settled
      (past ++ [⟨.setupDiEnumDeviceInterfaces devinfo hidguid s.index, reply⟩])
      (∀ itf ∈ itfs.take s.index, P itf) :=
    hsettled.concat_of_stays (law.asksSet _ trivial)
  unfold enumerateBody
  apply wp_enumInterface
  · intro hall
    rw [List.take_of_length_le hall] at hmoved
    rw [if_pos rfl, wp_bind, wp_pure, wp_pure]
    exact ⟨⟨by simp, fun _ => hmoved _⟩, iterationsLeft_exit itfs _ hindex hexit⟩
  · rintro itf hfound first rfl hcurrent
    have hless : s.index < itfs.length := (List.getElem?_eq_some_iff.mp hfound).1
    rw [if_neg itf.found.property]
    apply wp_bind_of (wp_and (wp_enumerateFound vid pid devinfo s.index s hcurrent)
      (wp_settled_and (hmoved _) fun hidle =>
        wp_enumerateFound_settled law devinfo s.index s hcurrent hidle))
    intro next later hout
    obtain ⟨htaken, hlater⟩ := hout
    rw [wp_pure]
    have hexit' : next.exit = false := htaken.exit_eq.trans hexit
    refine ⟨⟨fun _ => ⟨?_, ?_⟩, ?_⟩, iterationsLeft_next itfs hless htaken.index_eq hexit hexit'⟩
    · change next.index + 1 ≤ itfs.length
      rw [htaken.index_eq]
      omega
    · change m.Settled later (∀ itf ∈ itfs.take (next.index + 1), P itf)
      rw [htaken.index_eq]
      exact hlater.congr (forall_mem_take_succ hfound P).symm
    · exact fun hdone => absurd (hexit'.symm.trans hdone) Bool.false_ne_true

/-- A run of `hid-enumerate` obeys the law exactly when every interface meets its condition. -/
theorem hidEnumerate_accepts_iff (law : EnumerateLaw m P itfs os vid pid) (fuel : ℕ)
    (hfuel : itfs.length < fuel) :
    m.Accepts (exec (answering itfs os) [] (hidEnumerate fuel vid pid)).2 ↔
      ∀ itf ∈ itfs, P itf := by
  have hrun : wp (answering itfs os) (hidEnumerate fuel vid pid)
      (fun _ later => m.Settled later (∀ itf ∈ itfs, P itf)) [] := by
    unfold hidEnumerate
    rw [wp_ask_bind, wp_ask_bind]
    have hstart (guid devinfo : ℕ) : EnumerateSettled m P itfs .initial
        ([] ++ [⟨.hidDGetHidGuid, guid⟩] ++
          [⟨.setupDiGetClassDevs guid (digcfPresent ||| digcfDeviceInterface), devinfo⟩]) :=
      ⟨fun _ => ⟨Nat.zero_le _, settled_started law.asksSet guid _ devinfo⟩,
        fun h => absurd h Bool.false_ne_true⟩
    refine wp_bind_of (wp_whileLoop (EnumerateSettled m P itfs)
      (fun s => iterationsLeft itfs s.index s.exit)
      (fun past s hinv hcontinues =>
        wp_enumerateBody_settled law _ _ s hinv (by simpa using hcontinues))
      fuel _ _ (hstart _ _) hfuel) ?_
    intro result later hout
    obtain ⟨last, rfl, hdone, hinv⟩ := hout
    rw [wp_ask_bind, wp_pure]
    exact (hinv.finished (by simpa using hdone)).concat_of_stays (law.asksSet _ trivial)
  exact Monitor.Settled.accepts_iff hrun

end Enumerate

section FindDevices

/-- What a law asks of `hid-find-devices`: of each interface with the closing call after it, and of
the closing call after the end of the list. -/
structure FindLaw (m : Monitor Win32Event State) (P : Interface → Prop) (atEnd : Prop)
    (itfs : List Interface) (os : Win32Environment) : Prop where
  asksSet : ∀ e : Win32Event, AsksSet e.1 → m.step m.idle e = some m.idle
  failed : ∀ itf : Interface, itf.detail.value ≠ 1 → ∀ past (reply : BoolReply),
    m.after past = some m.idle → m.Settled (past ++ [⟨.closeHandle none, reply⟩]) (P itf)
  refused : ∀ itf : Interface, itf.opens = false → ∀ devdetail past (reply : BoolReply),
    m.after past = some m.idle →
    m.Settled (past ++ [⟨probeCall devdetail, Handle.invalidHandleValue⟩] ++
      [⟨.closeHandle (some .invalidHandleValue), reply⟩]) (P itf)
  opened : ∀ itf : Interface, itf.Opened → ∀ devdetail n past,
    currentInterface itfs (past ++ [⟨probeCall devdetail, Handle.handle n⟩]) = some itf →
    m.after past = some m.idle →
    wp (answering itfs os) (hidCapabilities (.handle n))
      (fun _ later =>
        ∀ reply : BoolReply, m.Settled
          (later ++ [⟨.closeHandle (some (.handle n)), reply⟩]) (P itf))
      (past ++ [⟨probeCall devdetail, Handle.handle n⟩])
  ends : ∀ past (reply : BoolReply), m.after past = some m.idle →
    m.Settled (past ++ [⟨.closeHandle none, reply⟩]) atEnd

/-- While the loop of `hid-find-devices` runs the law is settled by the interfaces scanned, and
between two of them the handle variable is cleared. -/
structure FindSettled (m : Monitor Win32Event State) (P : Interface → Prop) (atEnd : Prop)
    (itfs : List Interface) (s : FindState) (past : List Win32Event) : Prop where
  running : s.exit = false → s.index ≤ itfs.length ∧ s.devhandle = none ∧ s.devcount ≤ devNum ∧
    s.devcount = qualifying (itfs.take s.index) ∧ m.Settled past (∀ itf ∈ itfs.take s.index, P itf)
  finished : s.exit = true →
    m.Settled past ((∀ itf ∈ scanned itfs, P itf) ∧ (qualifying itfs ≤ devNum → atEnd))

variable {atEnd : Prop}

/-- Looking at the capabilities leaves the handle variable alone. -/
theorem findMatching_devhandle (devdetail : DevDetail) (sz : ℕ) (s : FindState)
    (capabilities : Option HidpCaps) :
    (findMatching devdetail sz s capabilities).devhandle = s.devhandle := by
  unfold findMatching
  split
  · rfl
  · split <;> rfl

/-- The calls made for one interface and the closing call settle the law by the condition on it. -/
theorem wp_findFound_settled (law : FindLaw m P atEnd itfs os) (devinfo devdata : ℕ) (s : FindState)
    (hclear : s.devhandle = none) (h : currentInterface itfs past = some itf)
    (hidle : m.after past = some m.idle) :
    wp (answering itfs os) (findFound devinfo devdata s)
      (fun next later =>
        ∀ reply : BoolReply, m.Settled (later ++ [⟨.closeHandle next.devhandle, reply⟩]) (P itf))
          past := by
  apply wp_bind_of (wp_queryDetail_idle law.asksSet devinfo devdata s.length h hidle)
  intro queried later hout
  obtain ⟨rfl, hlater, hidle⟩ := hout
  by_cases hdetail : itf.detail.value = 1
  · simp only [hdetail, decide_true, if_true]
    refine wp_probe hlater (fun hopens n hlast => ?_) (fun hrefused hlast => ?_)
    · rw [if_pos (by simp)]
      refine wp_bind_of (law.opened itf ⟨hdetail, hopens⟩ _ n later hlast hidle)
        fun capabilities last hclosed => ?_
      rw [wp_pure]
      intro reply
      rw [findMatching_devhandle]
      exact hclosed reply
    · rw [if_neg (by simp), wp_pure]
      exact fun reply => law.refused itf hrefused _ later reply hidle
  · simp only [hdetail, decide_false, Bool.false_eq_true, if_false, wp_pure, hclear]
    exact fun reply => law.failed itf hdetail later reply hidle

/-- The end of the list is settled whenever the handle variable is clear. -/
theorem FindLaw.ends_of_clear (law : FindLaw m P atEnd itfs os) {devhandle : Option Handle}
    (hclear : devhandle = none) (reply : BoolReply) (hidle : m.after past = some m.idle) :
    m.Settled (past ++ [⟨.closeHandle devhandle, reply⟩]) atEnd := by
  rw [hclear]
  exact law.ends past reply hidle

/-- Every iteration settles the law for one more interface, or for the end of the list. -/
theorem wp_findBody_settled (law : FindLaw m P atEnd itfs os) (devinfo hidguid : ℕ) (s : FindState)
    (hinv : FindSettled m P atEnd itfs s past) (hexit : s.exit = false) :
    wp (answering itfs os) (findBody devinfo hidguid s)
      (fun next later => FindSettled m P atEnd itfs next later ∧
        iterationsLeft itfs next.index next.exit < iterationsLeft itfs s.index s.exit) past := by
  obtain ⟨hindex, hcleared, hfew, hcount, hsettled⟩ := hinv.running hexit
  have hmoved (reply : EnumReply) : m.Settled
      (past ++ [⟨.setupDiEnumDeviceInterfaces devinfo hidguid s.index, reply⟩])
      (∀ itf ∈ itfs.take s.index, P itf) :=
    hsettled.concat_of_stays (law.asksSet _ trivial)
  unfold findBody
  apply wp_enumInterface
  · -- the end of the list: the handle variable is clear when it is closed
    intro hall
    rw [List.take_of_length_le hall] at hcount hmoved
    rw [if_pos rfl, wp_bind, wp_pure, wp_findNext, if_neg (Nat.not_lt.mpr hfew)]
    refine ⟨⟨fun h => absurd h.symm Bool.false_ne_true, fun _ => ?_⟩,
      iterationsLeft_exit itfs _ hindex hexit⟩
    rw [hcount] at hfew
    rw [scanned_of_few hfew]
    refine Monitor.Settled.congr ?_ (and_congr_right fun _ => (forall_prop_of_true hfew).symm)
    exact (hmoved _).append_and fun hidle => law.ends_of_clear hcleared _ hidle
  · rintro itf hfound first rfl hcurrent
    have hless : s.index < itfs.length := (List.getElem?_eq_some_iff.mp hfound).1
    rw [if_neg itf.found.property]
    apply wp_bind_of (wp_and (wp_findFound devinfo s.index s hcurrent)
      (wp_settled_append_and (hmoved _) fun hidle =>
        wp_findFound_settled law devinfo s.index s hcleared hcurrent hidle))
    intro next later hout
    obtain ⟨hnext, hclosed⟩ := hout
    rw [wp_findNext]
    have hexit' : next.exit = false := hnext.exit_eq.trans hexit
    have hcount' : next.devcount = qualifying (itfs.take (s.index + 1)) := by
      rw [hnext.devcount_eq, hcount, qualifying_take_succ hfound]
    have hsettled' (reply : BoolReply) : m.Settled (later ++ [⟨.closeHandle next.devhandle, reply⟩])
        (∀ itf ∈ itfs.take (s.index + 1), P itf) :=
      (hclosed reply).congr (forall_mem_take_succ hfound P).symm
    by_cases hmany : devNum < next.devcount
    · -- the cut-off: the list goes on, but no further interface is looked at
      rw [if_pos hmany]
      refine ⟨⟨fun h => absurd h.symm Bool.false_ne_true, fun _ => ?_⟩,
        iterationsLeft_exit itfs _ hindex hexit⟩
      rw [hcount'] at hmany
      rw [hcount] at hfew
      have hrest : qualifying (itfs.take (s.index + 1)) ≤ qualifying itfs := by
        conv_rhs => rw [← List.take_append_drop (s.index + 1) itfs, qualifying_append]
        exact Nat.le_add_right _ _
      rw [scanned_of_many hless hfew hmany]
      exact (hsettled' _).congr (and_iff_left fun hnone => absurd hnone (by omega)).symm
    · rw [if_neg hmany]
      refine ⟨⟨fun _ => ⟨?_, rfl, Nat.not_lt.mp hmany, ?_, ?_⟩, ?_⟩,
        iterationsLeft_next itfs hless hnext.index_eq hexit hexit'⟩
      · change next.index + 1 ≤ itfs.length
        rw [hnext.index_eq]
        omega
      · change next.devcount = qualifying (itfs.take (next.index + 1))
        rw [hnext.index_eq, hcount']
      · change m.Settled _ (∀ itf ∈ itfs.take (next.index + 1), P itf)
        rw [hnext.index_eq]
        exact hsettled' _
      · exact fun hdone => absurd (hexit'.symm.trans hdone) Bool.false_ne_true

/-- A run of `hid-find-devices` obeys the law exactly when every interface it looks at meets its
condition and, unless the loop is cut off, the end of the list does. -/
theorem hidFindDevices_accepts_iff (law : FindLaw m P atEnd itfs os) (fuel : ℕ)
    (hfuel : itfs.length < fuel) :
    m.Accepts (exec (answering itfs os) [] (hidFindDevices fuel)).2 ↔
      (∀ itf ∈ scanned itfs, P itf) ∧ (qualifying itfs ≤ devNum → atEnd) := by
  have hrun : wp (answering itfs os) (hidFindDevices fuel)
      (fun _ later =>
        m.Settled later ((∀ itf ∈ scanned itfs, P itf) ∧ (qualifying itfs ≤ devNum → atEnd)))
          [] := by
    unfold hidFindDevices
    rw [wp_ask_bind, wp_ask_bind]
    have hstart (guid devinfo : ℕ) : FindSettled m P atEnd itfs .initial
        ([] ++ [⟨.hidDGetHidGuid, guid⟩] ++
          [⟨.setupDiGetClassDevs guid (digcfPresent ||| digcfDeviceInterface), devinfo⟩]) :=
      ⟨fun _ =>
        ⟨Nat.zero_le _, rfl, Nat.zero_le _, rfl, settled_started law.asksSet guid _ devinfo⟩,
        fun h => absurd h Bool.false_ne_true⟩
    refine wp_bind_of (wp_whileLoop (FindSettled m P atEnd itfs)
      (fun s => iterationsLeft itfs s.index s.exit)
      (fun past s hinv hcontinues => wp_findBody_settled law _ _ s hinv (by simpa using hcontinues))
      fuel _ _ (hstart _ _) hfuel) ?_
    intro result later hout
    obtain ⟨last, rfl, hdone, hinv⟩ := hout
    rw [wp_ask_bind, wp_pure]
    exact (hinv.finished (by simpa using hdone)).concat_of_stays (law.asksSet _ trivial)
  exact Monitor.Settled.accepts_iff hrun

end FindDevices

end FactorUsb.Hid
