import FactorUsb.Calls.Monitor
import FactorUsb.Calls.Replay
import FactorUsb.Hid.FindDevices

/-!
# Every system is a list of interfaces to the scanning loops

The two scanning loops are described in an environment in which a list of interfaces is
present. Here the system is arbitrary: it may answer the same question differently each time,
change its mind about an element or fail any call. It is only assumed that the enumeration
ends, and an element is named by the index it was enumerated at.

What the system answered between two enumerations is recorded as one interface. With these
interfaces present, the loops make the same calls and get the same replies.
-/

namespace FactorUsb.Hid

open FactorUsb.Calls

/-- An element is named by its index, and a failing enumeration names none. -/
def NumbersElements (os : Win32Environment) : Prop :=
  ∀ past devinfo hidguid index,
    (os past (.setupDiEnumDeviceInterfaces devinfo hidguid index) : EnumReply).devdata =
      if (os past (.setupDiEnumDeviceInterfaces devinfo hidguid index) : EnumReply).value = 0 then 0
      else index

/-- From the bound on no index is found. -/
def EndsBefore (bound : ℕ) (os : Win32Environment) : Prop :=
  ∀ past devinfo hidguid index, bound ≤ index →
    (os past (.setupDiEnumDeviceInterfaces devinfo hidguid index) : EnumReply).value = 0

/-- The event is not an enumeration, and the interface would have given the same reply. -/
def Interface.Confirms (itf : Interface) (e : Win32Event) : Prop :=
  enumeratedIndex e = none ∧ itf.answer e.1 e.2 = e.2

/-- A call no interface has a say in. -/
def PassedOn (c : Win32Call) : Prop :=
  ∀ reply : Win32Reply c, ∀ itf : Interface, itf.Confirms ⟨c, reply⟩

variable {itfs : List Interface} {os : Win32Environment} {past : List Win32Event} {itf : Interface}

/-- A failing enumeration leaves nothing behind. -/
theorem NumbersElements.failed (hnum : NumbersElements os) {devinfo hidguid index : ℕ}
    (hvalue : (os past (.setupDiEnumDeviceInterfaces devinfo hidguid index) :
      EnumReply).value = 0) :
    os past (.setupDiEnumDeviceInterfaces devinfo hidguid index) = (⟨0, 0⟩ : EnumReply) := by
  have hdevdata := hnum past devinfo hidguid index
  rw [if_pos hvalue] at hdevdata
  exact congrArg₂ EnumReply.mk hvalue hdevdata

/-- A succeeding enumeration names the element it was asked for. -/
theorem NumbersElements.found (hnum : NumbersElements os) {devinfo hidguid index : ℕ}
    (hvalue : (os past (.setupDiEnumDeviceInterfaces devinfo hidguid index) :
      EnumReply).value ≠ 0) :
    os past (.setupDiEnumDeviceInterfaces devinfo hidguid index) =
      (⟨(os past (.setupDiEnumDeviceInterfaces devinfo hidguid index) : EnumReply).value, index⟩ :
        EnumReply) := by
  have hdevdata := hnum past devinfo hidguid index
  rw [if_neg hvalue] at hdevdata
  exact congrArg (EnumReply.mk _) hdevdata

/-- Calls that are passed on get the system's own reply. -/
theorem answering_passedOn {c : Win32Call} (h : PassedOn c) :
    answering itfs os past c = os past c := by
  cases hcurrent : currentInterface itfs past with
  | none =>
    cases c with
    | setupDiEnumDeviceInterfaces devinfo hidguid index =>
      have hnot := (h ⟨0, 0⟩ (vendorInterface "")).1
      cases hnot
    | _ => simp only [answering, hcurrent]
  | some itf =>
    rw [answering_current hcurrent fun reply => (h reply itf).1]
    exact (h (os past c) itf).2

/-- What the current interface confirms is explained by its presence. -/
theorem explains_of_confirms {events : List Win32Event} (h : currentInterface itfs past = some itf)
    (hos : Explains os past events) (hconfirms : ∀ e ∈ events, itf.Confirms e) :
    Explains (answering itfs os) past events := by
  induction events generalizing past with
  | nil => trivial
  | cons e rest ih =>
    obtain ⟨hquiet, hsame⟩ := hconfirms e List.mem_cons_self
    obtain ⟨hreply, hrest⟩ := hos
    have hcall (reply : Win32Reply e.1) : enumeratedIndex ⟨e.1, reply⟩ = none := by
      obtain ⟨c, _⟩ := e
      cases c <;> first | rfl | cases hquiet
    refine ⟨?_, ih (currentInterface_concat h hquiet) hrest
      fun e' he' => hconfirms e' (List.mem_cons_of_mem e he')⟩
    change answering itfs os past e.1 = e.2
    rw [answering_current h hcall]
    exact (congrArg _ hreply).trans hsame

/-- The two detail queries are confirmed by every interface with these replies. -/
theorem confirms_queryDetail (os : Win32Environment) (past : List Win32Event)
    (devinfo devdata length : ℕ) :
    ∃ sizing detail, ∀ itf : Interface, itf.sizing = sizing → itf.detail = detail →
      EveryEvent os past (queryDetail devinfo devdata length) itf.Confirms := by
  apply Exists.intro
  apply Exists.intro
  intro itf hsizing hdetail
  unfold queryDetail
  apply everyEvent_ask_bind ⟨rfl, hsizing⟩
  apply everyEvent_ask_bind ⟨rfl, hdetail⟩
  exact everyEvent_pure _

/-- The calls for the capabilities are confirmed by every interface with these replies. -/
theorem confirms_hidCapabilities (os : Win32Environment) (past : List Win32Event)
    (devhandle : Handle) :
    ∃ preparsed caps, ∀ itf : Interface, itf.preparsed = preparsed → itf.caps = caps →
      EveryEvent os past (hidCapabilities devhandle) itf.Confirms := by
  apply Exists.intro
  apply Exists.intro
  intro itf hpreparsed hcaps
  unfold hidCapabilities
  apply everyEvent_ask_bind ⟨rfl, hpreparsed⟩
  split_ifs with hvalue
  · apply everyEvent_ask_bind ⟨rfl, hcaps⟩
    split_ifs with hstatus
    · apply everyEvent_ask_bind ⟨rfl, rfl⟩
      exact everyEvent_pure _
    · exact everyEvent_pure _
  · exact everyEvent_pure _

/-- Reading the attributes and capabilities of an opened device is confirmed by every interface with
these replies. -/
theorem confirms_enumerateOpened (os : Win32Environment) (past : List Win32Event) (vid pid : ℤ)
    (devdetail : DevDetail) (devhandle : Handle) (s : EnumerateState) :
    ∃ attributes preparsed caps, ∀ itf : Interface, itf.attributes = attributes →
      itf.preparsed = preparsed → itf.caps = caps →
        EveryEvent os past (enumerateOpened vid pid devdetail devhandle s) itf.Confirms := by
  obtain ⟨preparsed, caps, hcapabilities⟩ := confirms_hidCapabilities os
    (past ++ [⟨.hidDGetAttributes (some devhandle), os past (.hidDGetAttributes (some devhandle))⟩])
    devhandle
  apply Exists.intro
  apply Exists.intro preparsed
  apply Exists.intro caps
  intro itf hattributes hpreparsed hcaps
  unfold enumerateOpened
  apply everyEvent_ask_bind ⟨rfl, hattributes⟩
  apply everyEvent_bind
  · unfold enumerateMatching
    split_ifs with hmatch
    · exact everyEvent_bind (hcapabilities itf hpreparsed hcaps) (everyEvent_pure _)
    · exact everyEvent_pure _
  · apply everyEvent_ask_bind ⟨rfl, rfl⟩
    exact everyEvent_pure _

/-- A probe that gave a valid handle is confirmed by an interface that opens. -/
theorem confirms_probe_opened {devdetail : DevDetail} {handle : Handle} (hopens : itf.opens = true)
    (hhandle : handle ≠ .invalidHandleValue) : itf.Confirms ⟨probeCall devdetail, handle⟩ := by
  cases handle with
  | invalidHandleValue => exact absurd rfl hhandle
  | handle n => exact ⟨rfl, if_pos hopens⟩

/-- A probe that gave no valid handle is confirmed by an interface that does not open. -/
theorem confirms_probe_refused {devdetail : DevDetail} {handle : Handle}
    (hopens : itf.opens = false) (hhandle : handle = .invalidHandleValue) :
    itf.Confirms ⟨probeCall devdetail, handle⟩ := by
  rw [hhandle]
  exact ⟨rfl, if_neg (ne_true_of_eq_false hopens)⟩

/-- What `hid-enumerate` is told about a found element is confirmed by some interface. -/
theorem confirms_enumerateFound (os : Win32Environment) (past : List Win32Event) (vid pid : ℤ)
    (devinfo devdata : ℕ) (s : EnumerateState) (found : { value : ℤ // value ≠ 0 }) :
    ∃ itf : Interface, itf.found = found ∧
      EveryEvent os past (enumerateFound vid pid devinfo devdata s) itf.Confirms := by
  obtain ⟨sizing, detail, hquery⟩ := confirms_queryDetail os past devinfo devdata s.length
  unfold enumerateFound
  set queried := exec os past (queryDetail devinfo devdata s.length) with hqueried
  set handle : Handle := os (past ++ queried.2) (probeCall queried.1.devdetail) with hhandle
  obtain ⟨attributes, preparsed, caps, hopened⟩ := confirms_enumerateOpened os
    (past ++ queried.2 ++ [⟨probeCall queried.1.devdetail, handle⟩]) vid pid
      queried.1.devdetail handle
    { s with
      devdetail := some queried.1.devdetail
      sz := some queried.1.sz
      length := queried.1.length }
  by_cases hvalid : handle = .invalidHandleValue
  · refine ⟨⟨found, sizing, detail, false, attributes, preparsed, caps⟩, rfl, ?_⟩
    apply everyEvent_bind (hquery _ rfl rfl)
    rw [← hqueried]
    split_ifs with hok
    · apply everyEvent_ask_bind (confirms_probe_refused rfl hvalid)
      rw [if_neg (not_not.mpr hvalid)]
      exact everyEvent_pure _
    · exact everyEvent_pure _
  · refine ⟨⟨found, sizing, detail, true, attributes, preparsed, caps⟩, rfl, ?_⟩
    apply everyEvent_bind (hquery _ rfl rfl)
    rw [← hqueried]
    split_ifs with hok
    · apply everyEvent_ask_bind (confirms_probe_opened rfl hvalid)
      rw [if_pos hvalid]
      exact hopened _ rfl rfl rfl
    · exact everyEvent_pure _

/-- What `hid-find-devices` is told about a found element is confirmed by some interface. -/
theorem confirms_findFound (os : Win32Environment) (past : List Win32Event) (devinfo devdata : ℕ)
    (s : FindState) (found : { value : ℤ // value ≠ 0 }) :
    ∃ itf : Interface, itf.found = found ∧
      EveryEvent os past (findFound devinfo devdata s) itf.Confirms := by
  obtain ⟨sizing, detail, hquery⟩ := confirms_queryDetail os past devinfo devdata s.length
  unfold findFound
  set queried := exec os past (queryDetail devinfo devdata s.length) with hqueried
  set handle : Handle := os (past ++ queried.2) (probeCall queried.1.devdetail) with hhandle
  obtain ⟨preparsed, caps, hcapabilities⟩ := confirms_hidCapabilities os
    (past ++ queried.2 ++ [⟨probeCall queried.1.devdetail, handle⟩]) handle
  by_cases hvalid : handle = .invalidHandleValue
  · refine ⟨⟨found, sizing, detail, false, default, preparsed, caps⟩, rfl, ?_⟩
    apply everyEvent_bind (hquery _ rfl rfl)
    rw [← hqueried]
    split_ifs with hok
    · apply everyEvent_ask_bind (confirms_probe_refused rfl hvalid)
      rw [if_neg (not_not.mpr hvalid)]
      exact everyEvent_pure _
    · exact everyEvent_pure _
  · refine ⟨⟨found, sizing, detail, true, default, preparsed, caps⟩, rfl, ?_⟩
    apply everyEvent_bind (hquery _ rfl rfl)
    rw [← hqueried]
    split_ifs with hok
    · apply everyEvent_ask_bind (confirms_probe_opened rfl hvalid)
      rw [if_pos hvalid]
      exact everyEvent_bind (hcapabilities _ rfl rfl) (everyEvent_pure _)
    · exact everyEvent_pure _

/-- While a loop runs, one interface for each element scanned accounts for all it was told, whatever
interfaces follow them; at its end some interfaces do. -/
structure Replayed (os : Win32Environment) (past : List Win32Event) (bound index : ℕ) (exit : Bool)
    (later : List Win32Event) : Prop where
  running : exit = false → index ≤ bound ∧ ∃ itfs : List Interface, itfs.length = index ∧
    ∀ more, Produces (answering (itfs ++ more) os) past later
  finished : exit = true → ∃ itfs : List Interface, itfs.length ≤ bound ∧
    Produces (answering itfs os) past later

variable {base : List Win32Event} {bound : ℕ}

/-- A loop that goes on is accounted for, whether or not it is left in the end. -/
theorem replayed_of_running {index : ℕ} {exit : Bool} (hindex : index ≤ bound)
    (hlength : itfs.length = index) (h : ∀ more, Produces (answering (itfs ++ more) os) base past) :
    Replayed os base bound index exit past := by
  refine ⟨fun _ => ⟨hindex, itfs, hlength, h⟩, fun _ => ⟨itfs, le_of_eq_of_le hlength hindex, ?_⟩⟩
  have hnone := h []
  rwa [List.append_nil] at hnone

/-- A failing enumeration is accounted for by the interfaces before it. -/
theorem produces_enum_failed (hnum : NumbersElements os) {devinfo hidguid index : ℕ}
    (hlength : itfs.length = index) (h : Produces (answering itfs os) base past)
    (hvalue : (os past (.setupDiEnumDeviceInterfaces devinfo hidguid index) :
      EnumReply).value = 0) :
    Produces (answering itfs os) base (past ++ [⟨.setupDiEnumDeviceInterfaces devinfo hidguid index,
      os past (.setupDiEnumDeviceInterfaces devinfo hidguid index)⟩]) := by
  apply h.append
  rw [explains_singleton, answering_enum_none _ _ _ (List.getElem?_eq_none (Nat.le_of_eq hlength)),
    hnum.failed hvalue]

/-- A succeeding enumeration and the calls up to the next one are accounted for by one more
interface that confirms them. -/
theorem wp_produces_found (hnum : NumbersElements os) {A : Type} {tree : Win32Program A}
    {devinfo hidguid index : ℕ} (hlength : itfs.length = index)
    (h : ∀ more, Produces (answering (itfs ++ more) os) base past)
    (hfound : (itf.found : ℤ) =
      (os past (.setupDiEnumDeviceInterfaces devinfo hidguid index) : EnumReply).value)
    (htree : EveryEvent os (past ++ [⟨.setupDiEnumDeviceInterfaces devinfo hidguid index,
      os past (.setupDiEnumDeviceInterfaces devinfo hidguid index)⟩]) tree itf.Confirms) :
    wp os tree (fun _ later => ∀ more, Produces (answering (itfs ++ [itf] ++ more) os) base later)
      (past ++ [⟨.setupDiEnumDeviceInterfaces devinfo hidguid index,
        os past (.setupDiEnumDeviceInterfaces devinfo hidguid index)⟩]) := by
  intro more
  have hitf : (itfs ++ [itf] ++ more)[index]? = some itf := by simp [← hlength]
  have hbefore := h ([itf] ++ more)
  rw [← List.append_assoc] at hbefore
  apply Produces.append
  · apply hbefore.append
    rw [explains_singleton, answering_enum_some _ _ _ hitf, hfound, hnum.found]
    rw [← hfound]
    exact itf.found.property
  · apply explains_of_confirms _ (explains_exec tree) htree.of_mem
    rw [currentInterface_enumerated, hitf]

/-- Calls that are passed on are accounted for by any interfaces. -/
theorem produces_passedOn {c : Win32Call} (h : Produces (answering itfs os) base past)
    (hc : PassedOn c) :
    Produces (answering itfs os) base (past ++ [⟨c, os past c⟩]) := by
  apply h.append
  rw [explains_singleton, answering_passedOn hc]

/-- The rounds a loop still has to make, if no index from the bound on is found. -/
def roundsLeft (bound index : ℕ) (exit : Bool) : ℕ := if exit then 0 else bound + 1 - index

/-- Leaving the loop ends the rounds. -/
theorem roundsLeft_exit {index : ℕ} {exit : Bool} (next : ℕ) (h : index ≤ bound)
    (hexit : exit = false) :
    roundsLeft bound next true < roundsLeft bound index exit := by
  rw [hexit, roundsLeft, roundsLeft, if_pos rfl, if_neg Bool.false_ne_true]
  omega

/-- A found element uses up one round, whether or not the loop is left after it. -/
theorem roundsLeft_found {index next : ℕ} {exit exit' : Bool} (h : index < bound)
    (hnext : next = index + 1) (hexit : exit = false) :
    roundsLeft bound next exit' < roundsLeft bound index exit := by
  cases exit' with
  | true => exact roundsLeft_exit next (Nat.le_of_lt h) hexit
  | false =>
    rw [hexit, hnext, roundsLeft, roundsLeft, if_neg Bool.false_ne_true, if_neg Bool.false_ne_true]
    omega

/-- Taking in an element moves neither the index nor the exit flag of `hid-enumerate`. -/
theorem enumerateFound_returns (vid pid : ℤ) (devinfo devdata : ℕ) (s : EnumerateState) :
    (enumerateFound vid pid devinfo devdata s).Returns
      fun next => next.index = s.index ∧ next.exit = s.exit := by
  apply returns_bind (returns_true _)
  intro queried _
  refine returns_ite (fun _ => ?_) fun _ => ⟨rfl, rfl⟩
  apply returns_ask_bind
  intro handle
  refine returns_ite (fun _ => ?_) fun _ => ⟨rfl, rfl⟩
  apply returns_ask_bind
  intro reply
  apply returns_bind (P := fun next : EnumerateState => next.index = s.index ∧ next.exit = s.exit)
  · apply returns_ite
    · intro _
      exact returns_bind (returns_true _) fun _ _ => ⟨rfl, rfl⟩
    · exact fun _ => ⟨rfl, rfl⟩
  · intro next hnext
    exact returns_ask_bind fun _ => hnext

/-- Looking at the capabilities moves neither the index nor the exit flag. -/
theorem findMatching_frame (devdetail : DevDetail) (sz : ℕ) (s : FindState)
    (capabilities : Option HidpCaps) :
    (findMatching devdetail sz s capabilities).index = s.index ∧
      (findMatching devdetail sz s capabilities).exit = s.exit := by
  cases capabilities with
  | none => exact ⟨rfl, rfl⟩
  | some capabilities =>
    rw [findMatching]
    split_ifs <;> exact ⟨rfl, rfl⟩

/-- Taking in an element moves neither the index nor the exit flag of `hid-find-devices`. -/
theorem findFound_returns (devinfo devdata : ℕ) (s : FindState) :
    (findFound devinfo devdata s).Returns fun next =>
      next.index = s.index ∧ next.exit = s.exit := by
  apply returns_bind (returns_true _)
  intro queried _
  refine returns_ite (fun _ => ?_) fun _ => ⟨rfl, rfl⟩
  apply returns_ask_bind
  intro handle
  refine returns_ite (fun _ => ?_) fun _ => ⟨rfl, rfl⟩
  apply returns_bind (returns_true _)
  intro capabilities _
  exact findMatching_frame _ _ _ capabilities

/-- Every iteration of `hid-enumerate` is accounted for by one more
interface, or is the last one. -/
theorem wp_enumerateBody_replayed (hnum : NumbersElements os) (hends : EndsBefore bound os)
    (vid pid : ℤ) (devinfo hidguid : ℕ) (s : EnumerateState)
    (h : Replayed os base bound s.index s.exit past) (hexit : s.exit = false) :
    wp os (enumerateBody vid pid devinfo hidguid s)
      (fun next later => Replayed os base bound next.index next.exit later ∧
        roundsLeft bound next.index next.exit < roundsLeft bound s.index s.exit) past := by
  obtain ⟨hindex, itfs, hlength, hproduces⟩ := h.running hexit
  unfold enumerateBody
  rw [wp_ask_bind]
  by_cases hvalue : (os past (.setupDiEnumDeviceInterfaces devinfo hidguid s.index) :
    EnumReply).value = 0
  · rw [if_pos hvalue, wp_bind, wp_pure, wp_pure]
    have hall := hproduces []
    rw [List.append_nil] at hall
    refine ⟨⟨fun hrunning => absurd hrunning.symm Bool.false_ne_true, fun _ => ?_⟩,
      roundsLeft_exit _ hindex hexit⟩
    exact ⟨itfs, le_of_eq_of_le hlength hindex, produces_enum_failed hnum hlength hall hvalue⟩
  · have hless : s.index < bound := by
      by_contra hbound
      exact hvalue (hends past devinfo hidguid s.index (Nat.le_of_not_lt hbound))
    rw [if_neg hvalue]
    obtain ⟨itf, hfound, hconfirms⟩ := confirms_enumerateFound os
      (past ++ [⟨.setupDiEnumDeviceInterfaces devinfo hidguid s.index,
        os past (.setupDiEnumDeviceInterfaces devinfo hidguid s.index)⟩]) vid pid devinfo
      (os past (.setupDiEnumDeviceInterfaces devinfo hidguid s.index) : EnumReply).devdata s
        ⟨_, hvalue⟩
    refine wp_bind_of (wp_and
      (wp_produces_found hnum hlength hproduces (congrArg Subtype.val hfound) hconfirms)
      (wp_returns (enumerateFound_returns vid pid devinfo _ s) os _)) ?_
    intro next later hout
    obtain ⟨hlater, hnext, -⟩ := hout
    rw [wp_pure]
    have hindex' : next.index + 1 = s.index + 1 := congrArg (· + 1) hnext
    constructor
    · apply replayed_of_running (le_of_eq_of_le hindex' hless) _ hlater
      rw [List.length_append, hlength]
      exact hindex'.symm
    · exact roundsLeft_found hless hindex' hexit

/-- Every iteration of `hid-find-devices` is accounted for by one more
interface, or is the last one. -/
theorem wp_findBody_replayed (hnum : NumbersElements os) (hends : EndsBefore bound os)
    (devinfo hidguid : ℕ) (s : FindState) (h : Replayed os base bound s.index s.exit past)
    (hexit : s.exit = false) :
    wp os (findBody devinfo hidguid s)
      (fun next later => Replayed os base bound next.index next.exit later ∧
        roundsLeft bound next.index next.exit < roundsLeft bound s.index s.exit) past := by
  obtain ⟨hindex, itfs, hlength, hproduces⟩ := h.running hexit
  have hclose (handle : Option Handle) : PassedOn (.closeHandle handle) := fun _ _ => ⟨rfl, rfl⟩
  unfold findBody
  rw [wp_ask_bind]
  by_cases hvalue : (os past (.setupDiEnumDeviceInterfaces devinfo hidguid s.index) :
    EnumReply).value = 0
  · rw [if_pos hvalue, wp_bind, wp_pure, wp_findNext]
    have hall := hproduces []
    rw [List.append_nil] at hall
    have hlast :=
      produces_passedOn (produces_enum_failed hnum hlength hall hvalue) (hclose s.devhandle)
    have hleft (index : ℕ) : Replayed os base bound index true _ :=
      ⟨fun hrunning => absurd hrunning.symm Bool.false_ne_true,
        fun _ => ⟨itfs, le_of_eq_of_le hlength hindex, hlast⟩⟩
    split_ifs
    · exact ⟨hleft _, roundsLeft_exit _ hindex hexit⟩
    · exact ⟨hleft _, roundsLeft_exit _ hindex hexit⟩
  · have hless : s.index < bound := by
      by_contra hbound
      exact hvalue (hends past devinfo hidguid s.index (Nat.le_of_not_lt hbound))
    rw [if_neg hvalue]
    obtain ⟨itf, hfound, hconfirms⟩ := confirms_findFound os
      (past ++ [⟨.setupDiEnumDeviceInterfaces devinfo hidguid s.index,
        os past (.setupDiEnumDeviceInterfaces devinfo hidguid s.index)⟩]) devinfo
      (os past (.setupDiEnumDeviceInterfaces devinfo hidguid s.index) : EnumReply).devdata s
        ⟨_, hvalue⟩
    refine wp_bind_of (wp_and
      (wp_produces_found hnum hlength hproduces (congrArg Subtype.val hfound) hconfirms)
      (wp_returns (findFound_returns devinfo _ s) os _)) ?_
    intro next later hout
    obtain ⟨hlater, hnext, -⟩ := hout
    rw [wp_findNext]
    have hindex' : next.index + 1 = s.index + 1 := congrArg (· + 1) hnext
    have hmoved (exit : Bool) : Replayed os base bound (next.index + 1) exit _ :=
      replayed_of_running (le_of_eq_of_le hindex' hless)
        (by rw [List.length_append, hlength]; exact hindex'.symm)
        fun more => produces_passedOn (hlater more) (hclose next.devhandle)
    split_ifs
    · exact ⟨hmoved _, roundsLeft_found hless hindex' hexit⟩
    · exact ⟨hmoved _, roundsLeft_found hless hindex' hexit⟩

/-- Before the first iteration no interface is needed. -/
theorem replayed_started (os : Win32Environment) (past : List Win32Event) (bound flags : ℕ) :
    Replayed os past bound 0 false
      (past ++ [⟨.hidDGetHidGuid, os past .hidDGetHidGuid⟩] ++
        [⟨.setupDiGetClassDevs (os past .hidDGetHidGuid : ℕ) flags,
          os (past ++ [⟨.hidDGetHidGuid, os past .hidDGetHidGuid⟩])
            (.setupDiGetClassDevs (os past .hidDGetHidGuid : ℕ) flags)⟩]) := by
  apply replayed_of_running (Nat.zero_le bound) (List.length_nil : ([] : List Interface).length = 0)
  intro more
  apply produces_passedOn _ fun _ _ => ⟨rfl, rfl⟩
  exact produces_passedOn (produces_refl past) fun _ _ => ⟨rfl, rfl⟩

/-- Whatever the system answers, there is a list of interfaces, no longer than its
enumeration, in whose presence `hid-enumerate` makes the same calls and gets the same replies;
it returns their records. -/
theorem hidEnumerate_replay (os : Win32Environment) (past : List Win32Event) (vid pid : ℤ)
    (bound fuel : ℕ) (hnum : NumbersElements os) (hends : EndsBefore bound os)
    (hfuel : bound < fuel) :
    ∃ itfs : List Interface, itfs.length ≤ bound ∧
      exec (answering itfs os) past (hidEnumerate fuel vid pid) =
        exec os past (hidEnumerate fuel vid pid) ∧
      (exec os past (hidEnumerate fuel vid pid)).1 = some (enumerated vid pid itfs) := by
  have hrun : wp os (hidEnumerate fuel vid pid)
      (fun _ later => ∃ itfs : List Interface, itfs.length ≤ bound ∧
        Produces (answering itfs os) past later)
      past := by
    unfold hidEnumerate
    rw [wp_ask_bind, wp_ask_bind]
    refine wp_bind_of (wp_whileLoop
      (fun (s : EnumerateState) later => Replayed os past bound s.index s.exit later)
      (fun s => roundsLeft bound s.index s.exit)
      (fun past s hinv hcontinues =>
        wp_enumerateBody_replayed hnum hends vid pid _ _ s hinv (by simpa using hcontinues))
      fuel _ _ (replayed_started os past bound _) hfuel) ?_
    intro result later hout
    obtain ⟨last, rfl, hdone, hinv⟩ := hout
    obtain ⟨itfs, hlength, hproduces⟩ := hinv.finished (by simpa using hdone)
    rw [wp_ask_bind, wp_pure]
    exact ⟨itfs, hlength, produces_passedOn hproduces fun _ _ => ⟨rfl, rfl⟩⟩
  obtain ⟨itfs, hlength, hproduces⟩ := hrun
  have hsame := exec_eq_of_produces hproduces
  refine ⟨itfs, hlength, hsame, ?_⟩
  rw [← hsame]
  exact exec_eq_of_wp (wp_hidEnumerate vid pid fuel (Nat.lt_of_le_of_lt hlength hfuel))

/-- Whatever the system answers, there is a list of interfaces, no longer than its
enumeration, in whose presence `hid-find-devices` makes the same calls and gets the same
replies; it returns their devices. -/
theorem hidFindDevices_replay (os : Win32Environment) (past : List Win32Event) (bound fuel : ℕ)
    (hnum : NumbersElements os) (hends : EndsBefore bound os) (hfuel : bound < fuel) :
    ∃ itfs : List Interface, itfs.length ≤ bound ∧
      exec (answering itfs os) past (hidFindDevices fuel) = exec os past (hidFindDevices fuel) ∧
      (exec os past (hidFindDevices fuel)).1 =
        some (foundDevices itfs, (foundDevices itfs).length) := by
  have hrun : wp os (hidFindDevices fuel)
      (fun _ later => ∃ itfs : List Interface, itfs.length ≤ bound ∧
        Produces (answering itfs os) past later)
      past := by
    unfold hidFindDevices
    rw [wp_ask_bind, wp_ask_bind]
    refine wp_bind_of (wp_whileLoop
      (fun (s : FindState) later => Replayed os past bound s.index s.exit later)
      (fun s => roundsLeft bound s.index s.exit)
      (fun past s hinv hcontinues =>
        wp_findBody_replayed hnum hends _ _ s hinv (by simpa using hcontinues))
      fuel _ _ (replayed_started os past bound _) hfuel) ?_
    intro result later hout
    obtain ⟨last, rfl, hdone, hinv⟩ := hout
    obtain ⟨itfs, hlength, hproduces⟩ := hinv.finished (by simpa using hdone)
    rw [wp_ask_bind, wp_pure]
    exact ⟨itfs, hlength, produces_passedOn hproduces fun _ _ => ⟨rfl, rfl⟩⟩
  obtain ⟨itfs, hlength, hproduces⟩ := hrun
  have hsame := exec_eq_of_produces hproduces
  refine ⟨itfs, hlength, hsame, ?_⟩
  rw [← hsame]
  exact exec_eq_of_wp (wp_hidFindDevices fuel (Nat.lt_of_le_of_lt hlength hfuel))

/-- A system of two elements that answers every other call differently from the time before. -/
def changingOs : Win32Environment := fun past c =>
  match c with
  | .setupDiEnumDeviceInterfaces _ _ index => if index < 2 then ⟨1, index⟩ else ⟨0, 0⟩
  | .setupDiGetDeviceInterfaceDetail .. => ⟨1, some past.length, toString past.length⟩
  | .createFile .. => if past.length % 2 = 0 then Handle.handle past.length
      else Handle.invalidHandleValue
  | .hidDGetAttributes _ => ⟨1, some ⟨past.length, past.length⟩⟩
  | c => steadyOs (.handle 4) ⟨1, 0⟩ ⟨1, 0⟩ ⟨1, 0⟩ ⟨1, 0⟩ ⟨1, 0⟩ past c

/-- The elements of the system are numbered, and there are two of them. -/
theorem changingOs_elements : NumbersElements changingOs ∧ EndsBefore 2 changingOs := by
  constructor
  · intro past devinfo hidguid index
    by_cases hindex : index < 2 <;> simp [changingOs, hindex]
  · intro past devinfo hidguid index hbound
    simp [changingOs, Nat.not_lt.mpr hbound]

/-- The changing system is enumerated as the interfaces it was taken for. -/
theorem hidEnumerate_replay_changing :
    ∃ itfs : List Interface, itfs.length ≤ 2 ∧
      exec (answering itfs changingOs) [] (hidEnumerate 3 0 0) =
        exec changingOs [] (hidEnumerate 3 0 0) ∧
      (exec changingOs [] (hidEnumerate 3 0 0)).1 = some (enumerated 0 0 itfs) :=
  hidEnumerate_replay changingOs [] 0 0 2 3 changingOs_elements.1 changingOs_elements.2 (by decide)

/-- The changing system is searched as the interfaces it was taken for. -/
theorem hidFindDevices_replay_changing :
    ∃ itfs : List Interface, itfs.length ≤ 2 ∧
      exec (answering itfs changingOs) [] (hidFindDevices 3) =
        exec changingOs [] (hidFindDevices 3) ∧
      (exec changingOs [] (hidFindDevices 3)).1 =
        some (foundDevices itfs, (foundDevices itfs).length) :=
  hidFindDevices_replay changingOs [] 2 3 changingOs_elements.1 changingOs_elements.2 (by decide)

end FactorUsb.Hid
