import FactorUsb.Calls.Fleet
import FactorUsb.Hid.HandleUse
import FactorUsb.Hid.Library

/-!
# Every handle of a program that uses the vocabulary

The callers of the vocabulary may search again, ask for names and use several devices at once,
in any order. The handles that are open at any time are accounted for: each is stored by one
device, or was overwritten by an `hid-open` on a device that stored it. An overwritten handle
is lost for good, as no word names it again.

The words that look for devices and the ones that transfer do not disturb each other, and
nothing else is assumed of the system than that it gives out no handle that is still open.
-/

namespace FactorUsb.Hid

open FactorUsb.Calls

/-- Some device stores the valid handle. -/
def HidLibrary.Stores (library : HidLibrary) (n : ℕ) : Prop :=
  ∃ (index : ℕ) (hds : Hds), library.devices[index]? = some hds ∧ hds.devhandle = some (.handle n)

/-- The valid handle an operation overwrites in the slot of its device. -/
def overwrittenBy (op : HidOp) (hds : Hds) : List ℕ :=
  if op = .hidOpen then hds.ownedHandle.toList else []

/-- Every device is made from some interface, no two devices store the same handle, and the open
handles are the ones stored and, apart from these, the ones lost. -/
structure LibraryInvariant (past : List Win32Event) (library : HidLibrary)
    (lost : List ℕ) : Prop where
  made : ∀ (index : ℕ) (hds : Hds), library.devices[index]? = some hds →
    ∃ itf, MadeFrom past itf hds
  apart : ∀ (index index' : ℕ) (hds hds' : Hds) (n : ℕ), index ≠ index' →
    library.devices[index]? = some hds → library.devices[index']? = some hds' →
    hds.devhandle = some (.handle n) → hds'.devhandle ≠ some (.handle n)
  accounted : ∀ n, OpenHandle past n ↔ library.Stores n ∨ n ∈ lost
  lostApart : ∀ n ∈ lost, ¬ library.Stores n

variable {os : Win32Environment} {past events : List Win32Event} {hds : Hds} {run : HidRun} {n : ℕ}
  {library : HidLibrary} {lost : List ℕ}

/-- The open handles after a session word: the one it stores, the other ones that were open, and the
one an `hid-open` replaced. -/
theorem openHandle_after_word {op : HidOp} (h : HidOutcome os past hds op run)
    (hdetail : hds.devdetail ≠ none) (hopen : StoredHandleOpen past hds) (n : ℕ) :
    OpenHandle (past ++ run.2) n ↔
      run.1.2.devhandle = some (.handle n) ∨
        (OpenHandle past n ∧ hds.devhandle ≠ some (.handle n)) ∨
        (op = .hidOpen ∧ hds.devhandle = some (.handle n)) := by
  have hstored := hopen n
  cases h with
  | hidOpen h =>
    cases h with
    | noDetail hnone => exact absurd hnone hdetail
    | refused devdetail hsome hreply =>
      simp
      tauto
    | opened devdetail m overlapped hsome hreply =>
      simp [Hds.opened]
      tauto
  | hidClose h =>
    cases h with
    | noHandle hhandle => simp [hhandle]
    | cancelFailed handle cancelled hhandle hreply hvalue =>
      simp
      tauto
    | invalidHandle cancelled hhandle hreply hvalue => simp [hhandle]
    | closed m cancelled closed hhandle hreply hvalue hclosed => simp [hhandle]
  | hidRead cnt h =>
    rw [h.frame]
    rw [(h.leavesAlone n).openHandle]
    simp
    tauto
  | hidWrite cnt h =>
    rw [h.frame]
    rw [(h.leavesAlone n).openHandle]
    simp
    tauto

/-- An `hid-open` on a device that stores an open handle does not store it again. -/
theorem not_stored_after_open (hfresh : FreshHandles os) (h : HidOutcome os past hds .hidOpen run)
    (hdetail : hds.devdetail ≠ none) (hopen : OpenHandle past n) :
    run.1.2.devhandle ≠ some (.handle n) := by
  cases h with
  | hidOpen h =>
    cases h with
    | noDetail hnone => exact absurd hnone hdetail
    | refused devdetail hsome hreply => simp
    | opened devdetail m overlapped hsome hreply =>
      intro hm
      have hmn : m = n := by simpa [Hds.opened] using hm
      exact hfresh _ _ _ _ _ _ _ hreply (hmn ▸ hopen)

/-- A prepared device is made from an interface with its path and report lengths. -/
theorem Hds.Prepared.madeFrom (h : hds.Prepared) (past : List Win32Event) :
    ∃ itf, MadeFrom past itf hds := by
  obtain ⟨devdetail, detaildatasz, inputreportsz, outputreportsz, featurereportsz, count, rfl⟩ := h
  refine ⟨{ vendorInterface devdetail.devicePath with
    caps := ⟨hidpStatusSuccess, ⟨0xFF00, 0x0001, inputreportsz, outputreportsz, featurereportsz⟩⟩ },
      rfl, rfl, rfl, ?_, ?_, ?_, ?_⟩ <;> simp [preparedHds, newHds]

/-- A prepared device stores no handle. -/
theorem Hds.Prepared.devhandle_ne (h : hds.Prepared) (n : ℕ) :
    hds.devhandle ≠ some (.handle n) := by
  obtain ⟨devdetail, detaildatasz, inputreportsz, outputreportsz, featurereportsz, count, rfl⟩ := h
  exact (Option.some_ne_none _).symm

/-- At the start nothing is open and nothing is lost. -/
theorem libraryInvariant_empty : LibraryInvariant [] .empty [] := by
  refine ⟨fun index hds h => ?_, fun index index' hds hds' n hne h => ?_, fun n => ?_,
    fun n hn => ?_⟩
  · simp [HidLibrary.empty] at h
  · simp [HidLibrary.empty] at h
  · simp [HidLibrary.empty, HidLibrary.Stores]
  · cases hn

/-- A position of the devices found so far, or of the ones found now. -/
theorem getElem?_append_cases {devices new : List Hds} {index : ℕ}
    (h : (devices ++ new)[index]? = some hds) :
    devices[index]? = some hds ∨ hds ∈ new := by
  rw [List.getElem?_append] at h
  split_ifs at h
  · exact Or.inl h
  · exact Or.inr (List.mem_of_getElem? h)

/-- Finding more devices stores no handle. -/
theorem stores_append {new : List Hds} (hprepared : ∀ hds ∈ new, hds.Prepared) (n : ℕ) :
    (HidLibrary.mk library.records (library.devices ++ new)).Stores n ↔ library.Stores n := by
  constructor
  · intro hgiven
    obtain ⟨index, hds, hdevice, hn⟩ := hgiven
    rcases getElem?_append_cases hdevice with hold | hnew
    · exact ⟨index, hds, hold, hn⟩
    · exact absurd hn ((hprepared hds hnew).devhandle_ne n)
  · intro hgiven
    obtain ⟨index, hds, hdevice, hn⟩ := hgiven
    refine ⟨index, hds, ?_, hn⟩
    rw [List.getElem?_append_left (List.getElem?_eq_some_iff.mp hdevice).1]
    exact hdevice

/-- A visit keeps every handle accounted for, whatever devices it finds. -/
theorem LibraryInvariant.visit (hinv : LibraryInvariant past library lost)
    (hvisit : Visit past events) {new : List Hds} (hprepared : ∀ hds ∈ new, hds.Prepared)
    (records : List HidDeviceInfo) :
    LibraryInvariant (past ++ events) ⟨records, library.devices ++ new⟩ lost := by
  refine ⟨fun index hds hdevice => ?_,
    fun index index' hds hds' n hne hdevice hdevice' hn => ?_, fun n => ?_,
    fun n hn => ?_⟩
  · rcases getElem?_append_cases hdevice with hold | hnew
    · obtain ⟨itf, hmade⟩ := hinv.made index hds hold
      refine ⟨itf, hmade.keep rfl rfl rfl rfl rfl fun n hn => ⟨hn, ?_⟩⟩
      exact hvisit.leavesAlone n (hmade.openHandle n hn)
    · exact (hprepared hds hnew).madeFrom _
  · rcases getElem?_append_cases hdevice with hold | hnew
    · rcases getElem?_append_cases hdevice' with hold' | hnew'
      · exact hinv.apart index index' hds hds' n hne hold hold' hn
      · exact (hprepared hds' hnew').devhandle_ne n
    · exact absurd hn ((hprepared hds hnew).devhandle_ne n)
  · rw [hvisit.openHandle_iff, hinv.accounted n]
    exact or_congr_left (stores_append hprepared n).symm
  · exact fun hstores => hinv.lostApart n hn ((stores_append hprepared n).mp hstores)

/-- What an operation overwrites is the stored handle of an `hid-open`. -/
theorem mem_overwrittenBy {op : HidOp} :
    n ∈ overwrittenBy op hds ↔ op = .hidOpen ∧ hds.devhandle = some (.handle n) := by
  unfold overwrittenBy
  split_ifs with hop
  · rw [Option.mem_toList, ownedHandle_eq_some]
    exact (and_iff_right hop).symm
  · simp [hop]

/-- Another device keeps its handle, which a session word leaves alone and does not store. -/
theorem LibraryInvariant.others_kept (hfresh : FreshHandles os)
    (hinv : LibraryInvariant past library lost) {index other : ℕ} {op : HidOp} {hds' : Hds}
    (hdevice : library.devices[index]? = some hds) (h : HidOutcome os past hds op run)
    (hne : index ≠ other) (hother : library.devices[other]? = some hds')
    (hn : hds'.devhandle = some (.handle n)) :
    LeavesAlone n run.2 ∧ run.1.2.devhandle ≠ some (.handle n) := by
  obtain ⟨itf', hmade'⟩ := hinv.made other hds' hother
  have hopen : OpenHandle past n := hmade'.openHandle n hn
  have hown : hds.devhandle ≠ some (.handle n) :=
    fun hn' => hinv.apart index other hds hds' n hne hdevice hother hn' hn
  refine ⟨leavesAlone_of_open hfresh h hopen hown, fun hn' => ?_⟩
  rcases storedHandle_step hfresh h hn' with hstored | hclosed
  · exact hown hstored
  · exact hclosed hopen

/-- An open handle that a device does not store is stored by another one or lost. -/
theorem LibraryInvariant.open_elsewhere_iff (hinv : LibraryInvariant past library lost) {index : ℕ}
    (hdevice : library.devices[index]? = some hds) (n : ℕ) :
    (OpenHandle past n ∧ hds.devhandle ≠ some (.handle n)) ↔
      (∃ (other : ℕ) (hds' : Hds), index ≠ other ∧ library.devices[other]? = some hds' ∧
        hds'.devhandle = some (.handle n)) ∨ n ∈ lost := by
  rw [hinv.accounted n]
  constructor
  · intro hcases
    obtain ⟨⟨other, hds', hother, hn⟩ | hlost, hown⟩ := hcases
    · refine Or.inl ⟨other, hds', fun hsame => hown ?_, hother, hn⟩
      rw [← hsame, hdevice] at hother
      rw [Option.some.inj hother, hn]
    · exact Or.inr hlost
  · intro hcases
    obtain ⟨other, hds', hne, hother, hn⟩ | hlost := hcases
    · exact ⟨Or.inl ⟨other, hds', hother, hn⟩,
        fun hown => hinv.apart index other hds hds' n hne hdevice hother hown hn⟩
    · exact ⟨Or.inr hlost, fun hown => hinv.lostApart n hlost ⟨index, hds, hdevice, hown⟩⟩

/-- The devices after a session word store what it stores and what the other devices store. -/
theorem stores_set_iff {index : ℕ} (hdevice : library.devices[index]? = some hds) (after : Hds)
    (n : ℕ) :
    (HidLibrary.mk library.records (library.devices.set index after)).Stores n ↔
      after.devhandle = some (.handle n) ∨ ∃ (other : ℕ) (hds' : Hds), index ≠ other ∧
        library.devices[other]? = some hds' ∧ hds'.devhandle = some (.handle n) :=
  exists_getElem?_set_iff hdevice after fun hds => hds.devhandle = some (.handle n)

/-- A device made from an interface has a detail structure. -/
theorem MadeFrom.devdetail_ne {itf : Interface} (hmade : MadeFrom past itf hds) :
    hds.devdetail ≠ none := by
  intro hnone
  have hpath := hmade.devicePath
  rw [hnone] at hpath
  cases hpath

/-- A session word keeps every handle accounted for. -/
theorem LibraryInvariant.word (hfresh : FreshHandles os) (hinv : LibraryInvariant past library lost)
    {index : ℕ} {op : HidOp} (hdevice : library.devices[index]? = some hds)
    (h : HidOutcome os past hds op run) :
    LibraryInvariant (past ++ run.2) { library with devices := library.devices.set index run.1.2 }
      (lost ++ overwrittenBy op hds) := by
  obtain ⟨itf, hmade⟩ := hinv.made index hds hdevice
  refine ⟨fun other hds' hother => ?_,
    fun left right hdsLeft hdsRight n hne hleft hright hn => ?_, fun n => ?_,
    fun n hn => ?_⟩
  · rcases getElem?_set_eq_some hother with ⟨rfl, rfl⟩ | ⟨hne, hkept⟩
    · exact ⟨itf, madeFrom_step h hmade⟩
    · obtain ⟨itf', hmade'⟩ := hinv.made other hds' hkept
      refine ⟨itf', hmade'.keep rfl rfl rfl rfl rfl fun n hn => ?_⟩
      exact ⟨hn, (hinv.others_kept hfresh hdevice h hne hkept hn).1⟩
  · rcases getElem?_set_eq_some hleft with ⟨rfl, rfl⟩ | ⟨hneLeft, hkeptLeft⟩
    · rcases getElem?_set_eq_some hright with ⟨rfl, -⟩ | ⟨hneRight, hkeptRight⟩
      · exact absurd rfl hne
      · exact fun hn' => (hinv.others_kept hfresh hdevice h hneRight hkeptRight hn').2 hn
    · rcases getElem?_set_eq_some hright with ⟨rfl, rfl⟩ | ⟨hneRight, hkeptRight⟩
      · exact (hinv.others_kept hfresh hdevice h hneLeft hkeptLeft hn).2
      · exact hinv.apart left right hdsLeft hdsRight n hne hkeptLeft hkeptRight hn
  · rw [openHandle_after_word h hmade.devdetail_ne hmade.openHandle n,
      hinv.open_elsewhere_iff hdevice n,
      stores_set_iff hdevice run.1.2 n, List.mem_append, mem_overwrittenBy]
    simp only [or_assoc]
  · rw [stores_set_iff hdevice run.1.2 n]
    intro hcases
    obtain hown | ⟨other, hds', hne, hother, hn'⟩ := hcases
    · rcases List.mem_append.mp hn with hlost | hover
      · rcases storedHandle_step hfresh h hown with hstored | hclosed
        · exact hinv.lostApart n hlost ⟨index, hds, hdevice, hstored⟩
        · exact hclosed ((hinv.accounted n).mpr (Or.inr hlost))
      · obtain ⟨rfl, hstored⟩ := mem_overwrittenBy.mp hover
        exact not_stored_after_open hfresh h hmade.devdetail_ne (hmade.openHandle n hstored) hown
    · rcases List.mem_append.mp hn with hlost | hover
      · exact hinv.lostApart n hlost ⟨other, hds', hother, hn'⟩
      · exact hinv.apart index other hds hds' n hne hdevice hother
          (mem_overwrittenBy.mp hover).2 hn'

/-- What an operation overwrites in the devices a caller holds. -/
def HidLibrary.overwrites (library : HidLibrary) : LibraryOp → List ℕ
  | .session index op => library.devices[index]?.elim [] (overwrittenBy op)
  | _ => []

/-- Every described call keeps every handle accounted for. -/
theorem LibraryInvariant.outcome {after : HidLibrary} {op : LibraryOp}
    (hinv : LibraryInvariant past library lost) (h : LibraryOutcome past library op after events) :
    LibraryInvariant (past ++ events) after (lost ++ library.overwrites op) := by
  cases h with
  | enumerated vid pid records events hvisit =>
    have hsame := hinv.visit hvisit (List.forall_mem_nil _) (library.records ++ records)
    rwa [List.append_nil, ← List.append_nil lost] at hsame
  | found devices events hvisit hprepared =>
    have hmore := hinv.visit hvisit hprepared library.records
    rwa [← List.append_nil lost] at hmore
  | named index events hvisit =>
    have hsame := hinv.visit hvisit (List.forall_mem_nil _) library.records
    rwa [List.append_nil, ← List.append_nil lost] at hsame
  | absent index op hdevice =>
    rw [HidLibrary.overwrites, hdevice, Option.elim_none, List.append_nil, List.append_nil]
    exact hinv
  | word index op hds view run hdevice hview hrun =>
    rw [HidLibrary.overwrites, hdevice, Option.elim_some]
    exact hinv.word hview hdevice hrun

/-- The handles an `hid-open` overwrote in the calls, in order. -/
def overwritten (steps : List LibraryStep) : List ℕ :=
  steps.flatMap fun step => step.before.overwrites step.op

/-- After the call the open handles are the ones the devices store, each by one device only, and the
ones overwritten so far, which no device stores any more. -/
structure HandlesAccounted (earlier : List LibraryStep) (step : LibraryStep) : Prop where
  openHandles_eq : openHandles (ownEvents step.history) =
    {n | step.after.Stores n} ∪ {n | n ∈ overwritten (earlier ++ [step])}
  disjoint : ∀ n ∈ overwritten (earlier ++ [step]), ¬ step.after.Stores n
  unique : ∀ (index index' : ℕ) (hds hds' : Hds) (n : ℕ), step.after.devices[index]? = some hds →
    step.after.devices[index']? = some hds' → hds.devhandle = some (.handle n) →
      hds'.devhandle = some (.handle n) → index = index'

/-- The handles accounted for by the invariant after a call. -/
theorem LibraryInvariant.handlesAccounted {earlier : List LibraryStep} {step : LibraryStep}
    (hinv : LibraryInvariant (ownEvents step.history) step.after
      (overwritten (earlier ++ [step]))) :
    HandlesAccounted earlier step := by
  refine ⟨Set.ext hinv.accounted, hinv.lostApart, ?_⟩
  intro index index' hds hds' n hdevice hdevice' hn hn'
  by_contra hne
  exact hinv.apart index index' hds hds' n hne hdevice hdevice' hn hn'

/-- A call of a word keeps the handles of the whole history accounted for. -/
theorem libraryInvariant_step {os : HidEnvironment} (hfresh : FreshSystem os) (fuel : ℕ)
    (past : List HidEvent) (library : HidLibrary) (op : LibraryOp) (lost : List ℕ)
    (hinv : LibraryInvariant (ownEvents past) library lost) :
    LibraryInvariant (ownEvents
      (callStep (hidSystem os) (libraryWord fuel) past library op).history)
      (callStep (hidSystem os) (libraryWord fuel) past library op).after
        (lost ++ library.overwrites op) := by
  rw [CallStep.history, ownEvents_append]
  exact hinv.outcome (libraryStep_outcome hfresh fuel past library op)

/-- Before every call of a run the handles of the history are accounted for by the calls so far. -/
theorem libraryRun_invariant {os : HidEnvironment} (hfresh : FreshSystem os) {fuel : ℕ}
    {ops : List LibraryOp} {earlier later : List LibraryStep} {step : LibraryStep}
    (hsplit : libraryRun os fuel ops = earlier ++ step :: later) :
    LibraryInvariant (ownEvents step.past) step.before (overwritten earlier) ∧
      step = callStep (hidSystem os) (libraryWord fuel) step.past step.before step.op :=
  session_ledger (fun past library lost => LibraryInvariant (ownEvents past) library lost)
    (fun step : LibraryStep => step.before.overwrites step.op) (libraryInvariant_step hfresh fuel)
      [] .empty ops []
    libraryInvariant_empty earlier step later hsplit

/-- At every point of a program that uses the vocabulary, in any order and on any number
of devices, every open handle is accounted for: it is stored by one device, or an
`hid-open` has overwritten it. -/
theorem library_handlesAccounted (os : HidEnvironment) (hfresh : FreshSystem os) (fuel : ℕ)
    (ops : List LibraryOp) :
    ∀ earlier step later, libraryRun os fuel ops = earlier ++ step :: later →
      HandlesAccounted earlier step := by
  intro earlier step later hsplit
  obtain ⟨hbefore, heq⟩ := libraryRun_invariant hfresh hsplit
  have hafter := libraryInvariant_step hfresh fuel _ _ step.op _ hbefore
  have hlost : overwritten earlier ++ step.before.overwrites step.op =
      overwritten (earlier ++ [step]) := by
    rw [overwritten, overwritten, List.flatMap_append, List.flatMap_singleton]
  rw [← heq, hlost] at hafter
  exact hafter.handlesAccounted

/-- A system of two vendor interfaces that gives out fresh handles and no product strings. -/
def vendorSystem : HidEnvironment := fun past c =>
  match c with
  | .inl c => answering [vendorInterface "a", vendorInterface "b"] freshOs (ownEvents past) c
  | .inr _ => ⟨0, []⟩

/-- Its handles are the fresh ones. -/
theorem vendorSystem_fresh : FreshSystem vendorSystem := by
  intro past path access share disposition flags n hn
  have hown : freshOs (ownEvents past) (.createFile path access share disposition flags) =
      Handle.handle n := by
    change answering _ freshOs (ownEvents past)
      (.createFile path access share disposition flags) = _ at hn
    cases hcurrent : currentInterface [vendorInterface "a", vendorInterface "b"]
      (ownEvents past) with
    | none =>
      simp only [answering, hcurrent] at hn
      exact hn
    | some itf =>
      rw [answering_current hcurrent fun _ => rfl] at hn
      change (if itf.opens = true then _ else _) = _ at hn
      split_ifs at hn
      · exact hn
  exact freshOs_freshHandles _ _ _ _ _ _ _ hown

/-- Two devices found, one of them opened twice, another search while both are open,
and one of them closed. -/
theorem library_handlesAccounted_reopened :
    HandlesAccounted
      (libraryRun vendorSystem 3 [.hidFindDevices, .session 0 .hidOpen, .session 1 .hidOpen,
        .session 0 .hidOpen, .hidEnumerate 0 0])
      (libraryStep vendorSystem 3 [.hidFindDevices, .session 0 .hidOpen, .session 1 .hidOpen,
        .session 0 .hidOpen, .hidEnumerate 0 0] (.session 1 .hidClose)) :=
  library_handlesAccounted vendorSystem vendorSystem_fresh 3 _ _ _ [] (libraryRun_concat ..)

end FactorUsb.Hid
