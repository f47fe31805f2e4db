import FactorUsb.Calls.Replay
import FactorUsb.Hid.HandleClosing
import FactorUsb.Hid.ReportBuffers

/-!
# Words that open a device only to look at it

The scanning loops and `hid-get-name` open a device for a few questions and close the handle
again. This holds in every system, for every amount of fuel and also where an enumeration never
ends: between two calls of the loop body no handle is held.

So these words may be called while devices are in use. They close none of the handles that are
open, make no transfer, and leave no handle behind.
-/

namespace FactorUsb.Hid

open FactorUsb.Calls

/-- The law of a visit: a valid handle is closed before the next one is opened, no other valid
handle is closed, and nothing is transferred. The state is the handle held. -/
def visitLaw : Monitor Win32Event (Option ℕ) where
  idle := none
  step held e :=
    match e with
    | ⟨.createFile .., .handle n⟩ => if held = none then some (some n) else none
    | ⟨.closeHandle (some (.handle n)), _⟩ => if held = some n then some none else none
    | ⟨.readFile .., _⟩ | ⟨.writeFile .., _⟩ | ⟨.getOverlappedResult .., _⟩ | ⟨.cancelIo _, _⟩
    | ⟨.newOverlapped, _⟩ => none
    | _ => some held

/-- A call that neither transfers anything nor cancels a transfer. -/
def LooksOnly : Win32Call → Prop
  | .readFile .. | .writeFile .. | .getOverlappedResult .. | .cancelIo _ | .newOverlapped => False
  | _ => True

/-- Every handle obtained along the events was not open. -/
def FreshAlong (past events : List Win32Event) : Prop :=
  Throughout (fun past e => ∀ n, obtainsHandle n e = true → ¬ OpenHandle past n) past events

variable {os : Win32Environment} {past events : List Win32Event} {held next : Option ℕ}
  {e : Win32Event}

/-- In a system that gives out fresh handles every run obtains fresh handles. -/
theorem freshAlong_exec (hfresh : FreshHandles os) {A : Type} (tree : Win32Program A) :
    FreshAlong past (exec (win32 os) past tree).2 := by
  apply (explains_exec tree).mono
  rintro past ⟨c, reply⟩ hreply n hobtains
  cases c with
  | createFile path access share disposition flags =>
    have hhandle : reply = Handle.handle n := by simpa using hobtains
    exact hfresh _ _ _ _ _ _ _ (Eq.trans hreply hhandle)
  | _ => cases hobtains

/-- What an allowed event does: it moves no handle, opens one when none is held,
or closes the one held. -/
theorem visitLaw_step_cases (h : visitLaw.step held e = some next) : LooksOnly e.1 ∧
    ((next = held ∧ ∀ n, obtainsHandle n e = false ∧ closesHandle n e = false) ∨
      (∃ m, held = none ∧ next = some m ∧
        ∀ n, (obtainsHandle n e = true ↔ n = m) ∧ closesHandle n e = false) ∨
      ∃ m, held = some m ∧ next = none ∧
        ∀ n, obtainsHandle n e = false ∧ (closesHandle n e = true ↔ n = m)) := by
  obtain ⟨c, reply⟩ := e
  cases c with
  | createFile path access share disposition flags =>
    refine ⟨trivial, ?_⟩
    cases reply with
    | invalidHandleValue =>
      exact Or.inl ⟨(Option.some.inj h).symm, fun n => ⟨by simp, rfl⟩⟩
    | handle m =>
      obtain ⟨hnone, hnext⟩ := Option.ite_none_right_eq_some.mp h
      refine Or.inr (Or.inl ⟨m, hnone, (Option.some.inj hnext).symm, fun n => ⟨?_, rfl⟩⟩)
      simp [eq_comm]
  | closeHandle handle =>
    refine ⟨trivial, ?_⟩
    rcases handle with _ | _ | m
    · exact Or.inl ⟨(Option.some.inj h).symm, fun n => ⟨rfl, by simp⟩⟩
    · exact Or.inl ⟨(Option.some.inj h).symm, fun n => ⟨rfl, by simp⟩⟩
    · obtain ⟨hheld, hnext⟩ := Option.ite_none_right_eq_some.mp h
      refine Or.inr (Or.inr ⟨m, hheld, (Option.some.inj hnext).symm, fun n => ⟨rfl, ?_⟩⟩)
      simp [eq_comm]
  | readFile | writeFile | getOverlappedResult | cancelIo | newOverlapped => cases h
  | _ => exact ⟨trivial, Or.inl ⟨(Option.some.inj h).symm, fun n => ⟨rfl, rfl⟩⟩⟩

/-- Along an allowed history the handle held is the only one opened and not closed again, and it is
not one that was open before. -/
structure Visiting (past events : List Win32Event) (held : Option ℕ) : Prop where
  leavesAlone : ∀ n, OpenHandle past n → LeavesAlone n events
  openHandle : ∀ n, OpenHandle (past ++ events) n ↔ OpenHandle past n ∨ held = some n
  fresh : ∀ n, held = some n → ¬ OpenHandle past n
  looksOnly : ∀ e ∈ events, LooksOnly e.1

/-- One more event is judged after the ones before it. -/
theorem leavesAlone_concat {n : ℕ} : LeavesAlone n (events ++ [e]) ↔
    LeavesAlone n events ∧ obtainsHandle n e = false ∧ closesHandle n e = false := by
  rw [LeavesAlone, List.forall_mem_append, List.forall_mem_singleton]
  rfl

/-- A handle is open after one more event if the event obtains it, or does not close it. -/
theorem openHandle_concat {n : ℕ} : OpenHandle (past ++ [e]) n ↔
    obtainsHandle n e = true ∨ (OpenHandle past n ∧ closesHandle n e = false) := by
  simp

/-- An event that moves no handle changes neither what is open nor what is held. -/
theorem Visiting.concat_of_neutral (h : Visiting past events held) (hlooks : LooksOnly e.1)
    (he : ∀ n, obtainsHandle n e = false ∧ closesHandle n e = false) :
    Visiting past (events ++ [e]) held where
  leavesAlone n hn := leavesAlone_concat.mpr ⟨h.leavesAlone n hn, he n⟩
  openHandle n := by
    rw [← List.append_assoc, openHandle_concat, h.openHandle n, (he n).1, (he n).2]
    simp
  fresh := h.fresh
  looksOnly := List.forall_mem_append.mpr ⟨h.looksOnly, List.forall_mem_singleton.mpr hlooks⟩

/-- A fresh handle that is opened is held. -/
theorem Visiting.concat_of_created (h : Visiting past events none) (hlooks : LooksOnly e.1) {m : ℕ}
    (he : ∀ n, (obtainsHandle n e = true ↔ n = m) ∧ closesHandle n e = false)
    (hfresh : ¬ OpenHandle (past ++ events) m) : Visiting past (events ++ [e]) (some m) := by
  have hnew : ¬ OpenHandle past m := fun hopen => hfresh ((h.openHandle m).mpr (Or.inl hopen))
  refine ⟨fun n hn => leavesAlone_concat.mpr ⟨h.leavesAlone n hn, ?_, (he n).2⟩,
    fun n => ?_, ?_, ?_⟩
  · rw [← Bool.not_eq_true, (he n).1]
    intro hnm
    exact hnew (hnm ▸ hn)
  · rw [← List.append_assoc, openHandle_concat, h.openHandle n, (he n).1, (he n).2]
    simp [or_comm, eq_comm]
  · intro n hn
    rwa [← Option.some.inj hn]
  · exact List.forall_mem_append.mpr ⟨h.looksOnly, List.forall_mem_singleton.mpr hlooks⟩

/-- The handle held may be closed. -/
theorem Visiting.concat_of_closed {m : ℕ} (h : Visiting past events (some m))
    (hlooks : LooksOnly e.1)
    (he : ∀ n, obtainsHandle n e = false ∧ (closesHandle n e = true ↔ n = m)) :
    Visiting past (events ++ [e]) none := by
  have hnew : ¬ OpenHandle past m := h.fresh m rfl
  have hother (n : ℕ) : closesHandle n e = false ↔ n ≠ m := by rw [← Bool.not_eq_true, (he n).2]
  refine ⟨fun n hn => leavesAlone_concat.mpr ⟨h.leavesAlone n hn, (he n).1, ?_⟩,
    fun n => ?_, ?_, ?_⟩
  · rw [hother]
    intro hnm
    exact hnew (hnm ▸ hn)
  · rw [← List.append_assoc, openHandle_concat, h.openHandle n, (he n).1, hother]
    constructor
    · intro hcases
      obtain hfalse | ⟨hopen | hheld, hne⟩ := hcases
      · cases hfalse
      · exact Or.inl hopen
      · exact absurd (Option.some.inj hheld).symm hne
    · intro hcases
      obtain hopen | hnone := hcases
      · exact Or.inr ⟨Or.inl hopen, fun hnm => hnew (hnm ▸ hopen)⟩
      · cases hnone
  · intro n hn
    cases hn
  · exact List.forall_mem_append.mpr ⟨h.looksOnly, List.forall_mem_singleton.mpr hlooks⟩

/-- Fresh events that obey the law are a visit with the handle held not yet closed. -/
theorem visiting_of_after (h : visitLaw.after events = some held)
    (hfresh : FreshAlong past events) :
    Visiting past events held := by
  induction events using List.reverseRecOn generalizing held with
  | nil =>
    cases h
    refine ⟨fun _ _ => List.forall_mem_nil _, fun n => ?_, fun n hn => ?_, List.forall_mem_nil _⟩
    · rw [List.append_nil]
      exact (or_iff_left (Option.some_ne_none n).symm).symm
    · cases hn
  | append_singleton events e ih =>
    rw [Monitor.after_concat] at h
    obtain ⟨before, hbefore, hstep⟩ := Option.bind_eq_some_iff.mp h
    obtain ⟨hfirst, hlast, -⟩ := (throughout_append past events [e]).mp hfresh
    have hvisiting := ih hbefore hfirst
    obtain ⟨hlooks, ⟨rfl, hneutral⟩ | ⟨m, rfl, rfl, hcreated⟩ | ⟨m, rfl, rfl, hclosed⟩⟩ :=
      visitLaw_step_cases hstep
    · exact hvisiting.concat_of_neutral hlooks hneutral
    · exact hvisiting.concat_of_created hlooks hcreated (hlast m ((hcreated m).1.mpr rfl))
    · exact hvisiting.concat_of_closed hlooks hclosed

/-- A visit that is over. -/
abbrev Visit (past events : List Win32Event) : Prop := Visiting past events none

/-- A visit leaves the open handles as they were. -/
theorem Visit.openHandle_iff (h : Visit past events) (n : ℕ) :
    OpenHandle (past ++ events) n ↔ OpenHandle past n :=
  (h.openHandle n).trans (or_iff_left (Option.some_ne_none n).symm)

/-- Calls that neither move a handle nor transfer anything keep the state. -/
theorem visitLaw_stays {c : Win32Call} (hleaves : LeavesHandles c) (hlooks : LooksOnly c)
    (reply : Win32Reply c) : visitLaw.step held ⟨c, reply⟩ = some held := by
  cases c <;> first | rfl | exact hleaves.elim | exact hlooks.elim

variable {env : Win32Environment}

/-- Questions about an information set or about a device keep the state. -/
theorem wp_visit_stays {A : Type} {tree : Win32Program A} (h : visitLaw.after past = some held)
    (htree : tree.CallsOnly fun c => LeavesHandles c ∧ LooksOnly c) :
    wp env tree (fun _ later => visitLaw.after later = some held) past :=
  wp_stays h (htree.mono fun _ hc => visitLaw_stays hc.1 hc.2)

/-- The valid handle among what `CreateFile` may return. -/
def validNumber : Handle → Option ℕ
  | .invalidHandleValue => none
  | .handle n => some n

/-- A handle that was opened is held if it is valid. -/
theorem visitLaw_after_created (h : visitLaw.after past = some none) (path : DevicePath)
    (access share disposition flags : ℕ) (handle : Handle) :
    visitLaw.after (past ++ [⟨.createFile path access share disposition flags, handle⟩]) =
      some (validNumber handle) := by
  rw [Monitor.after_concat, h]
  cases handle <;> rfl

/-- Closing what is held, or what is no valid handle, leaves nothing held. -/
theorem visitLaw_after_closed {handle : Handle}
    (h : visitLaw.after past = some (validNumber handle)) (reply : BoolReply) :
    visitLaw.after (past ++ [⟨.closeHandle (some handle), reply⟩]) = some none := by
  rw [Monitor.after_concat, h]
  cases handle with
  | invalidHandleValue => rfl
  | handle n => exact if_pos rfl

/-- Getting the capabilities keeps the state. -/
theorem hidCapabilities_asks (handle : Handle) :
    (hidCapabilities handle).CallsOnly fun c => LeavesHandles c ∧ LooksOnly c :=
  hidCapabilities_callsOnly handle ⟨trivial, trivial⟩ (fun _ => ⟨trivial, trivial⟩)
    fun _ => ⟨trivial, trivial⟩

/-- Querying the details keeps the state. -/
theorem queryDetail_asks (devinfo devdata length : ℕ) :
    (queryDetail devinfo devdata length).CallsOnly fun c => LeavesHandles c ∧ LooksOnly c :=
  queryDetail_callsOnly devinfo devdata length fun _ _ => ⟨trivial, trivial⟩

/-- Any one question keeps the state. -/
theorem visitLaw_after_asked (h : visitLaw.after past = some held) (c : Win32Call)
    (hleaves : LeavesHandles c) (hlooks : LooksOnly c) (reply : Win32Reply c) :
    visitLaw.after (past ++ [⟨c, reply⟩]) = some held := by
  rw [Monitor.after_concat, h]
  exact visitLaw_stays hleaves hlooks reply

/-- Asking about an opened device and closing it leaves nothing held. -/
theorem wp_enumerateOpened_visits (vid pid : ℤ) (devdetail : DevDetail) (handle : Handle)
    (s : EnumerateState) (h : visitLaw.after past = some (validNumber handle)) :
    wp env (enumerateOpened vid pid devdetail handle s)
      (fun _ later => visitLaw.after later = some none) past := by
  unfold enumerateOpened
  rw [wp_ask_bind]
  apply wp_bind_of (wp_visit_stays
    (visitLaw_after_asked h (.hidDGetAttributes (some handle)) trivial trivial _)
    (enumerateMatching_callsOnly vid pid devdetail handle _ s (hidCapabilities_asks handle)))
  intro next later hlater
  rw [wp_ask_bind, wp_pure]
  exact visitLaw_after_closed hlater _

/-- Taking in an element leaves nothing held. -/
theorem wp_enumerateFound_visits (vid pid : ℤ) (devinfo devdata : ℕ) (s : EnumerateState)
    (h : visitLaw.after past = some none) :
    wp env (enumerateFound vid pid devinfo devdata s)
      (fun _ later => visitLaw.after later = some none) past := by
  apply wp_bind_of (wp_visit_stays h (queryDetail_asks devinfo devdata s.length))
  intro queried later hlater
  split_ifs with hok
  · rw [wp_ask_bind]
    have hprobed := visitLaw_after_created hlater queried.devdetail.devicePath 0
      (fileShareRead ||| fileShareWrite) openExisting 0 (env later (probeCall queried.devdetail))
    split_ifs with hvalid
    · exact wp_enumerateOpened_visits vid pid _ _ _ hprobed
    · rw [wp_pure, hprobed, not_not.mp hvalid]
      rfl
  · rw [wp_pure]
    exact hlater

/-- An iteration of `hid-enumerate` leaves nothing held. -/
theorem wp_enumerateBody_visits (vid pid : ℤ) (devinfo hidguid : ℕ) (s : EnumerateState)
    (h : visitLaw.after past = some none) :
    wp env (enumerateBody vid pid devinfo hidguid s)
      (fun _ later => visitLaw.after later = some none) past := by
  unfold enumerateBody
  rw [wp_ask_bind]
  have hasked (reply : EnumReply) := visitLaw_after_asked h
    (.setupDiEnumDeviceInterfaces devinfo hidguid s.index) trivial trivial reply
  split_ifs with hvalue
  · rw [wp_bind, wp_pure, wp_pure]
    exact hasked _
  · apply wp_bind_of (wp_enumerateFound_visits vid pid _ _ s (hasked _))
    intro next later hlater
    rw [wp_pure]
    exact hlater

/-- The calls that obtain the information set leave nothing held. -/
theorem visitLaw_after_started (hidguid flags devinfo : ℕ) :
    visitLaw.after ([] ++ [⟨.hidDGetHidGuid, hidguid⟩] ++
      [⟨.setupDiGetClassDevs hidguid flags, devinfo⟩]) =
      some none := rfl

/-- A run of `hid-enumerate` obeys the law of a visit, whatever the system answers and however many
iterations it may make. -/
theorem hidEnumerate_visits (env : Win32Environment) (fuel : ℕ) (vid pid : ℤ) :
    visitLaw.Accepts (exec env [] (hidEnumerate fuel vid pid)).2 := by
  have hrun : wp env (hidEnumerate fuel vid pid)
      (fun _ later => visitLaw.after later = some none) [] := by
    unfold hidEnumerate
    rw [wp_ask_bind, wp_ask_bind]
    apply wp_bind_of (wp_whileLoop_invariant (fun _ later => visitLaw.after later = some none)
      (fun past s h _ => wp_enumerateBody_visits vid pid _ _ s h) fuel _ _
        (visitLaw_after_started _ _ _))
    intro result later hout
    obtain ⟨last, hlater, -⟩ := hout
    cases result with
    | none => exact (wp_pure _ _).mpr hlater
    | some s =>
      simp only
      rw [wp_ask_bind, wp_pure]
      exact visitLaw_after_asked hlater (.setupDiDestroyDeviceInfoList _) trivial trivial _
  exact hrun

/-- The handle variable of `hid-find-devices` holds the handle that is held. -/
def FindVisiting (s : FindState) (history : List Win32Event) : Prop :=
  visitLaw.after history = some (s.devhandle.bind validNumber)

/-- Closing the handle variable leaves nothing held. -/
theorem visitLaw_after_variable_closed {s : FindState} (h : FindVisiting s past)
    (reply : BoolReply) :
    visitLaw.after (past ++ [⟨.closeHandle s.devhandle, reply⟩]) = some none := by
  unfold FindVisiting at h
  cases hhandle : s.devhandle with
  | none =>
    rw [hhandle] at h
    rw [Monitor.after_concat, h]
    rfl
  | some handle =>
    rw [hhandle] at h
    exact visitLaw_after_closed h reply

/-- Taking in an element holds what the handle variable says. -/
theorem wp_findFound_visits (devinfo devdata : ℕ) (s : FindState) (h : FindVisiting s past)
    (hnone : s.devhandle = none) :
    wp env (findFound devinfo devdata s) FindVisiting past := by
  unfold FindVisiting at h
  rw [hnone] at h
  apply wp_bind_of (wp_visit_stays h (queryDetail_asks devinfo devdata s.length))
  intro queried later hlater
  split_ifs with hok
  · rw [wp_ask_bind]
    have hprobed := visitLaw_after_created hlater queried.devdetail.devicePath 0
      (fileShareRead ||| fileShareWrite) openExisting 0 (env later (probeCall queried.devdetail))
    split_ifs with hvalid
    · apply wp_bind_of (wp_visit_stays hprobed (hidCapabilities_asks _))
      intro capabilities last hlast
      rw [wp_pure, FindVisiting, findMatching_devhandle]
      exact hlast
    · rw [wp_pure]
      exact hprobed
  · rw [wp_pure]
    change _ = some (s.devhandle.bind validNumber)
    rw [hnone]
    exact hlater

/-- An iteration of `hid-find-devices` leaves nothing held, and the handle variable at `f`. -/
theorem wp_findBody_visits (devinfo hidguid : ℕ) (s : FindState)
    (h : visitLaw.after past = some none) (hnone : s.devhandle = none) :
    wp env (findBody devinfo hidguid s)
      (fun next later => visitLaw.after later = some none ∧ next.devhandle = none) past := by
  unfold findBody
  rw [wp_ask_bind]
  have hasked (reply : EnumReply) := visitLaw_after_asked h
    (.setupDiEnumDeviceInterfaces devinfo hidguid s.index) trivial trivial reply
  have hstart (reply : EnumReply) : FindVisiting s
      (past ++ [⟨.setupDiEnumDeviceInterfaces devinfo hidguid s.index, reply⟩]) := by
    rw [FindVisiting, hnone]
    exact hasked reply
  -- whatever the element was, the closing call at the bottom of the loop closes the variable
  have hbottom (next : FindState) (later : List Win32Event) (hlater : FindVisiting next later) :
      wp env (findNext next)
        (fun next later => visitLaw.after later = some none ∧ next.devhandle = none) later := by
    rw [wp_findNext]
    refine ⟨visitLaw_after_variable_closed hlater _, ?_⟩
    split_ifs <;> rfl
  split_ifs with hvalue
  · rw [wp_bind, wp_pure]
    exact hbottom _ _ (hstart _)
  · exact wp_bind_of (wp_findFound_visits devinfo _ s (hstart _) hnone) hbottom

/-- A run of `hid-find-devices` obeys the law of a visit, whatever the system answers and however
many iterations it may make. -/
theorem hidFindDevices_visits (env : Win32Environment) (fuel : ℕ) :
    visitLaw.Accepts (exec env [] (hidFindDevices fuel)).2 := by
  have hrun : wp env (hidFindDevices fuel)
      (fun _ later => visitLaw.after later = some none) [] := by
    unfold hidFindDevices
    rw [wp_ask_bind, wp_ask_bind]
    apply wp_bind_of (wp_whileLoop_invariant
      (fun s later => visitLaw.after later = some none ∧ s.devhandle = none)
      (fun past s h _ => wp_findBody_visits _ _ s h.1 h.2) fuel _ _
        ⟨visitLaw_after_started _ _ _, rfl⟩)
    intro result later hout
    obtain ⟨last, ⟨hlater, -⟩, -⟩ := hout
    cases result with
    | none => exact (wp_pure _ _).mpr hlater
    | some s =>
      simp only
      rw [wp_ask_bind, wp_pure]
      exact visitLaw_after_asked hlater (.setupDiDestroyDeviceInfoList _) trivial trivial _
  exact hrun

/-- A program that obeys the law from an empty history visits whatever history it is run after. -/
theorem visit_exec (hfresh : FreshHandles os) {A : Type} (tree : Win32Program A)
    (past : List Win32Event) (h : ∀ env : Win32Environment, visitLaw.Accepts (exec env [] tree).2) :
    Visit past (exec (win32 os) past tree).2 := by
  have hown := exec_envAfter (win32 os) past [] tree
  rw [List.append_nil] at hown
  apply visiting_of_after _ (freshAlong_exec hfresh tree)
  rw [← hown]
  exact h _

end FactorUsb.Hid
