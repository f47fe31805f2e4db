import FactorUsb.Calls.Isolation
import FactorUsb.Hid.LibraryTransfers

/-!
# A device among others is used as if alone

The words share one Win32 system: the handles given out for other devices, the visits of the
searching words and the blocks allocated in between all come before a device's own calls. None of
it can be told from the device's side. The calls a program makes on one device are a session on
this device alone, in a system that gives out fresh handles and new blocks and reports the errors
of failing calls.

So what holds of every session on one device in such systems holds of every device of a program
that uses several of them and searches again.
-/

namespace FactorUsb.Hid

open FactorUsb.Calls

/-- The error reported after a failing call is the one the call left behind. -/
def ReportsFailure (past : List Win32Event) (e : Win32Event) : Prop :=
  ∀ code last code', e = ⟨.getLastError, code⟩ → past.getLast? = some last →
    failureCode last = some code' →
    code = code'

/-- The number of the block an event allocates. -/
def allocatedBlock : Win32Event → Option ℕ
  | ⟨.newOverlapped, block⟩ => some block.block
  | _ => none

/-- The reply is one of a system that gives out fresh handles and new blocks and reports errors. -/
structure LawfulReply (past : List Win32Event) (e : Win32Event) : Prop where
  fresh : ∀ n, obtainsHandle n e = true → ¬ OpenHandle past n
  newBlock : ∀ block, e = ⟨.newOverlapped, block⟩ → e ∉ past
  lastError : ReportsFailure past e

/-- The reply was given by the system after some history. -/
def GivenBy (os : HidEnvironment) (e : Win32Event) : Prop :=
  ∃ past, hidSystem os past (.inl e.1) = e.2

/-- The call as one on the device at a position, if it is one, after the device's own history. -/
def deviceStep (index : ℕ) (own : List Win32Event) (step : LibraryStep) : Option HidStep :=
  match step.op with
  | .session other op =>
    if other = index then
      match step.result, step.before.devices[index]?, step.after.devices[index]? with
      | .word result, some before, some after =>
        some ⟨own, before, op, result, after, ownEvents step.events⟩
      | _, _, _ => none
    else none
  | _ => none

/-- The part of a run that is about the device at a position. -/
def deviceSteps (index : ℕ) : List Win32Event → List LibraryStep → List HidStep
  | _, [] => []
  | own, step :: steps =>
    match deviceStep index own step with
    | none => deviceSteps index own steps
    | some alone => alone :: deviceSteps index alone.history steps

/-- The device at a position has made its own part of the history, and the handles it opened and did
not close are open and stored by no other device. -/
structure DeviceApart (past own : List Win32Event) (library : HidLibrary) (index : ℕ)
    (hds : Hds) : Prop where
  device : library.devices[index]? = some hds
  own_subset : own ⊆ past
  opened : ∀ n, OpenHandle own n → OpenHandle past n
  apart : ∀ n, OpenHandle own n → ∀ (other : ℕ) (hds' : Hds), index ≠ other →
    library.devices[other]? = some hds' → hds'.devhandle ≠ some (.handle n)

variable {os : Win32Environment} {past own events : List Win32Event} {hds : Hds}
  {run : HidRun} {n index : ℕ}
  {library : HidLibrary} {block : Overlapped}

/-- A numbered block was not allocated before. -/
theorem not_mem_of_numbersBlocks {earlier later : List Win32Event}
    (h : NumbersBlocks [] (earlier ++ ⟨.newOverlapped, block⟩ :: later)) :
    (⟨.newOverlapped, block⟩ : Win32Event) ∉ earlier := by
  intro hmem
  have hall := (throughout_iff_forall [] _).mp h
  have hlast : block.block = allocations earlier := hall _ _ _ rfl block rfl
  obtain ⟨first, between, rfl⟩ := List.append_of_mem hmem
  have hfirst : block.block = allocations first :=
    hall first _ (between ++ ⟨.newOverlapped, block⟩ :: later) (by simp) block rfl
  rw [hfirst, allocations, allocations, List.countP_append, List.countP_cons_of_pos rfl] at hlast
  omega

/-- Other calls report no error. -/
theorem reportsFailure_other {e : Win32Event} (h : e.1 ≠ .getLastError) :
    ReportsFailure past e := by
  rintro code last code' rfl
  exact absurd rfl h

/-- The error of the call before is reported if that call failed. -/
theorem reportsFailure_after {reply : BoolReply} {e : Win32Event} {error : ℕ}
    (hreply : boolReply e = some reply) (h : reply.value = 0 → error = reply.error) :
    ReportsFailure (past ++ [e]) ⟨.getLastError, error⟩ := by
  intro code last code' heq hlast hfailed
  cases heq
  rw [List.getLast?_concat] at hlast
  cases hlast
  simp only [failureCode, hreply, Option.bind_some] at hfailed
  split_ifs at hfailed with hvalue
  · exact (h hvalue).trans (Option.some.inj hfailed)

/-- A session word asks for an error directly after the call that failed. -/
theorem reportsFailure_outcome {op : HidOp} (h : HidOutcome os past hds op run)
    (own : List Win32Event) :
    Throughout ReportsFailure own run.2 := by
  cases h with
  | hidOpen h => cases h <;> simp [Throughout, reportsFailure_other]
  | hidClose h => cases h <;> simp [Throughout, reportsFailure_other]
  | hidRead cnt h =>
    cases h with
    | readNow reply hflag hreply hvalue => simp [Throughout, reportsFailure_other]
    | submitted reply hflag hreply hvalue herror =>
      exact ⟨reportsFailure_other (by simp), reportsFailure_after rfl fun _ => rfl, trivial⟩
    | refused reply cancelled hflag hreply hvalue herror hcancelled =>
      exact ⟨reportsFailure_other (by simp), reportsFailure_after rfl fun _ => rfl,
        reportsFailure_other (by simp), trivial⟩
    | collected reply hflag hreply hvalue => simp [Throughout, reportsFailure_other]
    | stillPending reply error hflag hreply hvalue hreport herror hcode =>
      exact ⟨reportsFailure_other (by simp), reportsFailure_after rfl hreport, trivial⟩
    | lost reply cancelled error hflag hreply hvalue hreport herror hcode hcancelled =>
      exact ⟨reportsFailure_other (by simp), reportsFailure_after rfl hreport,
        reportsFailure_other (by simp), trivial⟩
  | hidWrite cnt h =>
    cases h with
    | written reply hreply hvalue => simp [Throughout, reportsFailure_other]
    | submitted reply error hreply hvalue hreport herror hcode =>
      exact ⟨reportsFailure_other (by simp), reportsFailure_after rfl hreport, trivial⟩
    | refused reply cancelled error hreply hvalue hreport herror hcode hcancelled =>
      exact ⟨reportsFailure_other (by simp), reportsFailure_after rfl hreport,
        reportsFailure_other (by simp), trivial⟩

/-- Replies that are lawful after the whole history are lawful after the device's own part of it. -/
theorem lawful_own (hsubset : own ⊆ past) (hopened : ∀ n, OpenHandle own n → OpenHandle past n)
    (hfresh : FreshAlong past events) (hnumbered : NumbersBlocks [] (past ++ events))
    (hreports : Throughout ReportsFailure own events) : Throughout LawfulReply own events := by
  rw [FreshAlong, throughout_iff_forall] at hfresh
  rw [throughout_iff_forall] at hreports ⊢
  intro earlier e later hsplit
  refine ⟨?_, ?_, hreports earlier e later hsplit⟩
  · intro n hobtains hopen
    apply hfresh earlier e later hsplit n hobtains
    rw [openHandle_append] at hopen ⊢
    exact hopen.imp_right fun h => ⟨hopened n h.1, h.2⟩
  · rintro block rfl hmem
    rw [hsplit, ← List.append_assoc] at hnumbered
    apply not_mem_of_numbersBlocks hnumbered
    rcases List.mem_append.mp hmem with hold | hnew
    · exact List.mem_append_left _ (hsubset hold)
    · exact List.mem_append_right _ hnew

/-- A word called on a device runs in a view of the system, and its tuple is put back in place. -/
theorem callStep_session {os : HidEnvironment} (hfresh : FreshSystem os) (fuel : ℕ)
    (past : List HidEvent) (op : HidOp) (h : library.devices[index]? = some hds) :
    ∃ (view : Win32Environment) (run : HidRun), FreshHandles view ∧
      exec (win32 view) (ownEvents past) (hidWord op hds) = run ∧
      callStep (hidSystem os) (libraryWord fuel) past library (.session index op) =
        ⟨past, library, .session index op, .word run.1.1,
          { library with devices := library.devices.set index run.1.2 }, run.2.map jointEvent⟩ := by
  obtain ⟨view, hview, hexec⟩ := exists_view hfresh past
  refine ⟨view, _, hview, rfl, ?_⟩
  simp [callStep, libraryWord, h, hexec]

/-- A word called on the device is one of its own calls, and keeps the device apart. -/
theorem deviceStep_self {os : HidEnvironment} (hfresh : FreshSystem os) (fuel : ℕ)
    {past : List HidEvent} (hblocks : LibraryBlocks (ownEvents past) library)
    (hapart : DeviceApart (ownEvents past) own library index hds) (op : HidOp) :
    ∃ alone : HidStep,
      deviceStep index own (callStep (hidSystem os) (libraryWord fuel) past library
        (.session index op)) = some alone ∧
      alone.past = own ∧ alone.before = hds ∧ alone.Ran hidWord ∧
      Throughout LawfulReply own alone.events ∧
      (∀ e ∈ alone.events, GivenBy os e) ∧
      DeviceApart
        (ownEvents (callStep (hidSystem os) (libraryWord fuel) past library
          (.session index op)).history)
        alone.history (callStep (hidSystem os) (libraryWord fuel) past library
          (.session index op)).after index
        alone.after := by
  have hnumbered :=
    (libraryBlocks_step hfresh fuel past library (.session index op) hblocks).numbered
  obtain ⟨view, run, hview, hexec, hstep⟩ := callStep_session hfresh fuel past op hapart.device
  have houtcome := hidWord_outcome view (ownEvents past) hds op
  have hfreshAlong : FreshAlong (ownEvents past)
      (exec (win32 view) (ownEvents past) (hidWord op hds)).2 :=
    freshAlong_exec hview (hidWord op hds)
  rw [hexec] at houtcome hfreshAlong
  have hgiven : Explains (hidSystem os) past
      (callStep (hidSystem os) (libraryWord fuel) past library (.session index op)).events :=
        explains_exec _
  obtain ⟨lost, hinv⟩ := hblocks.handles
  have hset : (library.devices.set index run.1.2)[index]? = some run.1.2 := by
    simp [(List.getElem?_eq_some_iff.mp hapart.device).1]
  rw [hstep] at hnumbered hgiven ⊢
  rw [CallStep.history, ownEvents_append, ownEvents_map] at hnumbered ⊢
  refine ⟨⟨own, hds, op, run.1.1, run.1.2, run.2⟩, ?_, rfl, rfl,
    ⟨win32 view, ownEvents past, hexec⟩, ?_,
    fun e he => hgiven.given _ (List.mem_map_of_mem he), ?_⟩
  · simp only [deviceStep, if_pos, hapart.device, hset, ownEvents_map]
  · exact lawful_own hapart.own_subset hapart.opened hfreshAlong hnumbered
      (reportsFailure_outcome houtcome own)
  · refine ⟨hset, ?_, ?_, ?_⟩
    · exact List.append_subset.mpr
        ⟨List.Subset.trans hapart.own_subset (List.subset_append_left _ _),
        List.subset_append_right _ _⟩
    · intro n hopen
      rw [CallStep.history, openHandle_append] at hopen
      rw [openHandle_append]
      exact hopen.imp_right fun h => ⟨hapart.opened n h.1, h.2⟩
    · intro n hopen other hds' hne hother hn
      rcases getElem?_set_eq_some hother with ⟨hsame, -⟩ | ⟨-, hkept⟩
      · exact hne hsame
      · have halone := (hinv.others_kept hview hapart.device houtcome hne hkept hn).1
        rw [CallStep.history, halone.openHandle] at hopen
        exact hapart.apart n hopen other hds' hne hkept hn

/-- A visit keeps the device apart, whatever devices it finds. -/
theorem DeviceApart.visit (h : DeviceApart past own library index hds) (hvisit : Visit past events)
    {new : List Hds} (hprepared : ∀ hds ∈ new, hds.Prepared) (records : List HidDeviceInfo) :
    DeviceApart (past ++ events) own ⟨records, library.devices ++ new⟩ index hds := by
  refine ⟨?_, List.Subset.trans h.own_subset (List.subset_append_left _ _), ?_, ?_⟩
  · rw [List.getElem?_append_left (List.getElem?_eq_some_iff.mp h.device).1]
    exact h.device
  · exact fun n hn => (hvisit.openHandle_iff n).mpr (h.opened n hn)
  · intro n hn other hds' hne hother
    rcases getElem?_append_cases hother with hold | hnew
    · exact h.apart n hn other hds' hne hold
    · exact (hprepared hds' hnew).devhandle_ne n

/-- A word called on another device keeps the device apart. -/
theorem DeviceApart.word (h : DeviceApart past own library index hds) (hfresh : FreshHandles os)
    {other : ℕ} {op : HidOp} {hds' : Hds} (hne : index ≠ other)
    (hdevice : library.devices[other]? = some hds') (hrun : HidOutcome os past hds' op run) :
    DeviceApart (past ++ run.2) own { library with devices := library.devices.set other run.1.2 }
      index hds := by
  refine ⟨?_, List.Subset.trans h.own_subset (List.subset_append_left _ _), ?_, ?_⟩
  · rw [List.getElem?_set, if_neg hne.symm]
    exact h.device
  · intro n hn
    have halone :=
      leavesAlone_of_open hfresh hrun (h.opened n hn) (h.apart n hn other hds' hne hdevice)
    exact halone.openHandle.mpr (h.opened n hn)
  · intro n hn third hds'' hthird hstored
    rcases getElem?_set_eq_some hstored with ⟨rfl, rfl⟩ | ⟨-, hkept⟩
    · intro hstores
      rcases storedHandle_step hfresh hrun hstores with hbefore | hclosed
      · exact h.apart n hn other hds' hne hdevice hbefore
      · exact hclosed (h.opened n hn)
    · exact h.apart n hn third hds'' hthird hkept

/-- Every described call that is not one on the device keeps the device apart. -/
theorem DeviceApart.other (h : DeviceApart past own library index hds) {op : LibraryOp}
    {after : HidLibrary} (houtcome : LibraryOutcome past library op after events)
    (hop : ∀ word, op ≠ .session index word) :
    DeviceApart (past ++ events) own after index hds := by
  cases houtcome with
  | enumerated vid pid records events hvisit =>
    have hsame := h.visit hvisit (List.forall_mem_nil _) (library.records ++ records)
    rwa [List.append_nil] at hsame
  | found devices events hvisit hprepared => exact h.visit hvisit hprepared library.records
  | named index events hvisit =>
    have hsame := h.visit hvisit (List.forall_mem_nil _) library.records
    rwa [List.append_nil] at hsame
  | absent index op hdevice => rwa [List.append_nil]
  | word other op hds' view run hdevice hview hrun =>
    exact h.word hview (fun hsame => hop op (hsame ▸ rfl)) hdevice hrun

/-- A call that is not one on the device is none of its own. -/
theorem deviceStep_other {step : LibraryStep} (h : ∀ word, step.op ≠ .session index word) :
    deviceStep index own step = none := by
  unfold deviceStep
  split
  next other op hop =>
    rw [if_neg]
    rintro rfl
    exact h op hop
  next => rfl

/-- Before the device is found no call is one of its own. -/
theorem deviceStep_absent {step : LibraryStep} (h : step.before.devices[index]? = none) :
    deviceStep index own step = none := by
  unfold deviceStep
  rw [h]
  split
  · split_ifs
    · cases step.result <;> rfl
    · rfl
  · rfl

/-- The calls on the device are chained, and their replies lawful and given by the system. -/
structure Isolated (os : HidEnvironment) (own : List Win32Event) (hds : Hds)
    (steps : List HidStep) : Prop where
  chained : Chained hidWord own hds steps
  lawful : Throughout LawfulReply own (steps.flatMap CallStep.events)
  given : ∀ e ∈ steps.flatMap CallStep.events, GivenBy os e

/-- One more call in front of isolated ones. -/
theorem Isolated.cons {os : HidEnvironment} {alone : HidStep} {steps : List HidStep}
    (hpast : alone.past = own) (hbefore : alone.before = hds) (hran : alone.Ran hidWord)
    (hlawful : Throughout LawfulReply own alone.events) (hgiven : ∀ e ∈ alone.events, GivenBy os e)
    (h : Isolated os alone.history alone.after steps) :
    Isolated os own hds (alone :: steps) := by
  refine ⟨⟨hpast, hbefore, hran, h.chained⟩, ?_, ?_⟩
  · rw [List.flatMap_cons, throughout_append]
    refine ⟨hlawful, ?_⟩
    rw [← hpast]
    exact h.lawful
  · rw [List.flatMap_cons]
    exact List.forall_mem_append.mpr ⟨hgiven, h.given⟩

/-- The calls on a device that was found are isolated. -/
theorem deviceSteps_isolated {os : HidEnvironment} (hfresh : FreshSystem os) (fuel : ℕ)
    (ops : List LibraryOp) {past : List HidEvent} (hblocks : LibraryBlocks (ownEvents past) library)
    (hapart : DeviceApart (ownEvents past) own library index hds) :
    Isolated os own hds (deviceSteps index own
      (session (hidSystem os) (libraryWord fuel) past library ops)) := by
  induction ops generalizing past library own hds with
  | nil => exact ⟨trivial, trivial, List.forall_mem_nil _⟩
  | cons op ops ih =>
    have hnext := libraryBlocks_step hfresh fuel past library op hblocks
    rw [session, deviceSteps]
    by_cases hop : ∃ word, op = .session index word
    · obtain ⟨word, rfl⟩ := hop
      obtain ⟨alone, hstep, hpast, hbefore, hran, hlawful, hgiven, hafter⟩ :=
        deviceStep_self hfresh fuel hblocks hapart word
      rw [hstep]
      exact Isolated.cons hpast hbefore hran hlawful hgiven (ih hnext hafter)
    · have hother : ∀ word, op ≠ .session index word := fun word heq => hop ⟨word, heq⟩
      rw [deviceStep_other hother]
      apply ih hnext
      rw [CallStep.history, ownEvents_append]
      exact hapart.other (libraryStep_outcome hfresh fuel past library op) hother

/-- A device that is there after a call and was not there before was found, and is apart. -/
theorem deviceApart_found {op : LibraryOp} {after : HidLibrary}
    (h : LibraryOutcome past library op after events) (habsent : library.devices[index]? = none)
    (hdevice : after.devices[index]? = some hds) :
    hds.Prepared ∧ DeviceApart (past ++ events) [] after index hds := by
  refine ⟨?_, hdevice, List.nil_subset _, fun n hn => absurd hn (not_openHandle_nil n),
    fun n hn => absurd hn (not_openHandle_nil n)⟩
  cases h with
  | found devices events hvisit hprepared =>
    rcases getElem?_append_cases hdevice with hold | hnew
    · rw [habsent] at hold
      cases hold
    · exact hprepared hds hnew
  | word other op hds' view run hother hview hrun =>
    rcases getElem?_set_eq_some hdevice with ⟨rfl, rfl⟩ | ⟨-, hkept⟩
    · rw [habsent] at hother
      cases hother
    · rw [habsent] at hkept
      cases hkept
  | _ =>
    rw [habsent] at hdevice
    cases hdevice

/-- The calls on a device that is yet to be found are isolated, from the tuple it is found with. -/
theorem deviceSteps_isolated_absent {os : HidEnvironment} (hfresh : FreshSystem os) (fuel : ℕ)
    (ops : List LibraryOp) {past : List HidEvent} (hblocks : LibraryBlocks (ownEvents past) library)
    (habsent : library.devices[index]? = none) :
    ∃ hds : Hds, hds.Prepared ∧
      Isolated os [] hds (deviceSteps index []
        (session (hidSystem os) (libraryWord fuel) past library ops)) := by
  induction ops generalizing past library with
  | nil =>
    exact ⟨preparedHds ⟨0, 0, ""⟩ 0 0 0 0 none, ⟨_, _, _, _, _, _, rfl⟩, trivial, trivial,
      List.forall_mem_nil _⟩
  | cons op ops ih =>
    have hnext := libraryBlocks_step hfresh fuel past library op hblocks
    have houtcome := libraryStep_outcome hfresh fuel past library op
    rw [session, deviceSteps, deviceStep_absent habsent]
    cases hafter : (callStep (hidSystem os)
      (libraryWord fuel) past library op).after.devices[index]? with
    | none => exact ih hnext hafter
    | some hds =>
      obtain ⟨hprepared, hapart⟩ := deviceApart_found houtcome habsent hafter
      refine ⟨hds, hprepared, deviceSteps_isolated hfresh fuel ops hnext ?_⟩
      rwa [CallStep.history, ownEvents_append]

/-- A system that gives out fresh handles and new blocks, whatever the
history, and reports errors. -/
def aloneOs : Win32Environment := fun past c =>
  match c with
  | .getLastError => (past.getLast?.bind failureCode).getD 0
  | .newOverlapped => ⟨(past.filterMap allocatedBlock).sum + 1⟩
  | c => freshOs past c

/-- The number of the block is above all earlier ones. -/
theorem aloneOs_newBlock (past : List Win32Event) :
    (⟨.newOverlapped, aloneOs past .newOverlapped⟩ : Win32Event) ∉ past := by
  intro hmem
  have hnumber : (past.filterMap allocatedBlock).sum + 1 ∈ past.filterMap allocatedBlock :=
    List.mem_filterMap.mpr ⟨_, hmem, rfl⟩
  have hle := List.single_le_sum (fun _ _ => Nat.zero_le _) _ hnumber
  omega

/-- This system replies lawfully. -/
theorem aloneOs_lawful : Obeys aloneOs LawfulReply := by
  intro past c
  refine ⟨?_, ?_, ?_⟩
  · intro n hobtains
    cases c with
    | createFile path access share disposition flags =>
      have hreply : aloneOs past (.createFile path access share disposition flags) =
          Handle.handle n := by
        simpa using hobtains
      exact freshOs_freshHandles _ _ _ _ _ _ _ hreply
    | _ => cases hobtains
  · intro block heq
    obtain ⟨rfl, -⟩ := Sigma.mk.inj heq
    exact aloneOs_newBlock past
  · intro code last code' heq hlast hfailed
    obtain ⟨rfl, hcode⟩ := Sigma.mk.inj heq
    have hreported : aloneOs past .getLastError = code := eq_of_heq hcode
    rw [← hreported]
    change (past.getLast?.bind failureCode).getD 0 = code'
    rw [hlast, Option.bind_some, hfailed, Option.getD_some]

/-- A system that replies lawfully, and as the given system does or as the one of
a device that is alone. -/
def IsolatedSystem (os : HidEnvironment) (alone : Win32Environment) : Prop :=
  Obeys alone fun past e => LawfulReply past e ∧ (GivenBy os e ∨ e.2 = aloneOs past e.1)

/-- The calls on a device are a session on this device alone. -/
theorem exists_deviceSession {os : HidEnvironment} (hfresh : FreshSystem os) (fuel : ℕ)
    (ops : List LibraryOp) (index : ℕ) :
    ∃ (alone : Win32Environment) (hds : Hds), IsolatedSystem os alone ∧ hds.Prepared ∧
      session alone hidWord [] hds
        ((deviceSteps index [] (libraryRun os fuel ops)).map CallStep.op) =
        deviceSteps index [] (libraryRun os fuel ops) := by
  have hblocks : LibraryBlocks (ownEvents ([] : List HidEvent)) .empty := libraryBlocks_empty
  have habsent : HidLibrary.empty.devices[index]? = none := rfl
  obtain ⟨hds, hprepared, hisolated⟩ := deviceSteps_isolated_absent hfresh fuel ops hblocks habsent
  have hlaw : Throughout (fun past e =>
    LawfulReply past e ∧ (GivenBy os e ∨ e.2 = aloneOs past e.1)) []
      ((deviceSteps index [] (libraryRun os fuel ops)).flatMap CallStep.events) := by
    apply (throughout_iff_forall [] _).mpr
    intro earlier e later hsplit
    refine ⟨(throughout_iff_forall [] _).mp hisolated.lawful earlier e later hsplit,
      Or.inl (hisolated.given e ?_)⟩
    exact (congrArg (e ∈ ·) hsplit).mpr (by simp)
  obtain ⟨alone, hobeys, hsession⟩ := exists_session_of_chained hisolated.chained hlaw
    fun past c => ⟨aloneOs_lawful past c, Or.inr rfl⟩
  exact ⟨alone, hds, hobeys, hprepared, hsession⟩

/-- What a program that uses the vocabulary does with one device, in any order with searches and the
use of other devices, is a session on this device alone, as it was found, in a system that gives out
fresh handles and new blocks and reports errors. -/
theorem library_isolated (os : HidEnvironment) (hfresh : FreshSystem os) (fuel : ℕ)
    (ops : List LibraryOp) (index : ℕ) :
    ∃ (alone : Win32Environment) (hds : Hds), Obeys alone LawfulReply ∧ hds.Prepared ∧
      session alone hidWord [] hds
        ((deviceSteps index [] (libraryRun os fuel ops)).map CallStep.op) =
        deviceSteps index [] (libraryRun os fuel ops) := by
  obtain ⟨alone, hds, hisolated, hprepared, hsession⟩ := exists_deviceSession hfresh fuel ops index
  exact ⟨alone, hds, fun past c => (hisolated past c).1, hprepared, hsession⟩

/-- The second of two devices, used in turns with the first one. -/
theorem library_isolated_second :
    ∃ (alone : Win32Environment) (hds : Hds), Obeys alone LawfulReply ∧ hds.Prepared ∧
      session alone hidWord [] hds
          ((deviceSteps 1 [] (libraryRun vendorSystem 3 [.hidFindDevices, .session 0 .hidOpen,
            .session 1 .hidOpen, .session 0 (.hidWrite 0), .session 1 (.hidRead 0),
            .hidEnumerate 0 0,
            .session 0 .hidClose, .session 1 .hidClose])).map CallStep.op) =
        deviceSteps 1 [] (libraryRun vendorSystem 3
          [.hidFindDevices, .session 0 .hidOpen, .session 1 .hidOpen,
          .session 0 (.hidWrite 0), .session 1 (.hidRead 0), .hidEnumerate 0 0,
          .session 0 .hidClose,
          .session 1 .hidClose]) :=
  library_isolated vendorSystem vendorSystem_fresh 3
    [.hidFindDevices, .session 0 .hidOpen, .session 1 .hidOpen,
    .session 0 (.hidWrite 0), .session 1 (.hidRead 0), .hidEnumerate 0 0, .session 0 .hidClose,
    .session 1 .hidClose] 1

end FactorUsb.Hid
