import FactorUsb.Hid.LibraryHandles

/-!
# Every transfer is made with the device's own things

A device found once is opened, used and closed again while the caller searches, asks for names
and uses other devices. Whenever a word reads, writes or polls on a valid handle, the handle is
the one its device stores, it is open and was opened from the device's path, the buffer and the
length have the size that the vocabulary tells of the device's reports, and the `OVERLAPPED`
block was allocated for this opening of the handle, directly after the `CreateFile` that
returned it.

A block is never allocated twice. So no block is ever passed with two handles, or across a
closing of its handle, not even when the system gives out the same handle again.
-/

namespace FactorUsb.Hid

open FactorUsb.Calls

/-- A block passed with the handle argument, if that is a valid handle. -/
def useOn (overlapped : Option Overlapped) : Option Handle → Option (ℕ × Option Overlapped)
  | some (.handle n) => some (n, overlapped)
  | _ => none

/-- The valid handle and the block an event passes together. -/
@[simp] def overlappedUse : Win32Event → Option (ℕ × Option Overlapped)
  | ⟨.readFile handle _ _ _ overlapped, _⟩ | ⟨.writeFile handle _ _ _ overlapped, _⟩
  | ⟨.getOverlappedResult handle overlapped _ _, _⟩ => useOn overlapped handle
  | _ => none

/-- A block is passed with the handle in the argument. -/
@[simp] theorem useOn_eq_some {overlapped used : Option Overlapped} {handle : Option Handle}
    {n : ℕ} :
    useOn overlapped handle = some (n, used) ↔ handle = some (.handle n) ∧ overlapped = used := by
  rcases handle with _ | _ | m <;> simp [useOn]

/-- The block was allocated directly after the `CreateFile` that returned the handle, which is
neither returned nor closed since. -/
def AllocatedFor (history : List Win32Event) (n : ℕ) (block : Overlapped) : Prop :=
  ∃ (earlier later : List Win32Event) (e : Win32Event), obtainsHandle n e = true ∧
    history = earlier ++ e :: ⟨.newOverlapped, block⟩ :: later ∧ LeavesAlone n later

/-- The word that tells the size of the reports transferred. -/
def hidGetReportSize : TransferKind → Option Hds → Option ℕ
  | .read => hidGetInputReportSize
  | .write => hidGetOutputReportSize

/-- The event passes the handle and the block of the device, and its
transfer the device's buffer. -/
structure OwnedUse (past : List Win32Event) (hds : Hds) (n : ℕ) (overlapped : Option Overlapped)
    (e : Win32Event) : Prop where
  stored : hds.devhandle = some (.handle n)
  live : OpenHandle past n
  opened : openedFrom past n = hds.devdetail.map DevDetail.devicePath
  block : ∃ block, overlapped = some block ∧ AllocatedFor past n block
  buffer : ∀ transfer ∈ reportTransfer e,
    hidGetReportSize transfer.kind (some hds) = some transfer.sz ∧
      transfer.buffer = some (byteArray transfer.sz)

/-- Every event of the call that passes a valid handle with a block is one
of the device called on. -/
def TransfersOwned (step : LibraryStep) : Prop :=
  Throughout (fun past e => ∀ n overlapped, overlappedUse e = some (n, overlapped) →
    ∃ index op hds, step.op = .session index op ∧ step.before.devices[index]? = some hds ∧
      OwnedUse past hds n overlapped e) (ownEvents step.past) (ownEvents step.events)

/-- The block in the slot of a device was allocated for the handle in its slot. -/
def BlockOwned (past : List Win32Event) (hds : Hds) : Prop :=
  ∀ n, hds.devhandle = some (.handle n) → ∃ block, hds.devoverlapped = some block ∧
    AllocatedFor past n block

/-- Every device has its own block. -/
def BlocksOwned (past : List Win32Event) (library : HidLibrary) : Prop :=
  ∀ (index : ℕ) (hds : Hds), library.devices[index]? = some hds → BlockOwned past hds

/-- How many blocks were allocated. -/
def allocations (history : List Win32Event) : ℕ := history.countP allocatesOverlapped

/-- Every block that is allocated is numbered by the ones before it. -/
def NumbersBlocks (past events : List Win32Event) : Prop :=
  Throughout
    (fun past e => ∀ block : Overlapped, e = ⟨.newOverlapped, block⟩ →
      block.block = allocations past) past events

/-- Every block in use was allocated for the opening of the handle it is used with. -/
def UsesAllocated (past events : List Win32Event) : Prop :=
  Throughout (fun past e => ∀ n block, overlappedUse e = some (n, some block) →
    AllocatedFor past n block)
    past events

/-- The handles are accounted for, every device has its own block, every block in use was allocated
for the opening it is used with, and the blocks are numbered. -/
structure LibraryBlocks (past : List Win32Event) (library : HidLibrary) : Prop where
  handles : ∃ lost, LibraryInvariant past library lost
  owned : BlocksOwned past library
  allocated : UsesAllocated [] past
  numbered : NumbersBlocks [] past

variable {os : Win32Environment} {past events : List Win32Event} {hds : Hds} {run : HidRun} {n : ℕ}
  {library : HidLibrary} {block : Overlapped}

/-- A block stays allocated for the handle while the handle is left alone. -/
theorem AllocatedFor.append (h : AllocatedFor past n block) (halone : LeavesAlone n events) :
    AllocatedFor (past ++ events) n block := by
  obtain ⟨earlier, later, e, hobtains, rfl, hlater⟩ := h
  refine ⟨earlier, later ++ events, e, hobtains, ?_, List.forall_mem_append.mpr ⟨hlater, halone⟩⟩
  rw [List.append_assoc, List.cons_append, List.cons_append]

/-- A device keeps its block while its slots stay as they are and its handle is left alone. -/
theorem BlockOwned.keep {after : Hds} (h : BlockOwned past hds)
    (hblock : after.devoverlapped = hds.devoverlapped)
    (hhandle : ∀ n, after.devhandle = some (.handle n) →
      hds.devhandle = some (.handle n) ∧ LeavesAlone n events) :
    BlockOwned (past ++ events) after := by
  intro n hn
  obtain ⟨hbefore, halone⟩ := hhandle n hn
  obtain ⟨block, hstored, hallocated⟩ := h n hbefore
  exact ⟨block, hblock.trans hstored, hallocated.append halone⟩

/-- A call that leaves the slots and every handle alone leaves the device with its own block. -/
theorem BlockOwned.flag (h : BlockOwned past hds) (flag : Bool)
    (halone : ∀ n, LeavesAlone n events) :
    BlockOwned (past ++ events) { hds with devreadpending := flag } :=
  h.keep rfl fun n hn => ⟨hn, halone n⟩

/-- A session word leaves its device with its own block. -/
theorem blockOwned_step {op : HidOp} (h : HidOutcome os past hds op run)
    (hblock : BlockOwned past hds) :
    BlockOwned (past ++ run.2) run.1.2 := by
  cases h with
  | hidOpen h =>
    cases h with
    | noDetail hdetail => exact hblock.flag _ (by simp [LeavesAlone])
    | refused devdetail hdetail hreply => exact hblock.keep rfl fun n hn => by simp at hn
    | opened devdetail m overlapped hdetail hreply =>
      intro n hn
      have hmn : m = n := by simpa [Hds.opened] using hn
      exact ⟨overlapped, rfl, past, [], _, by simp [hmn], rfl, List.forall_mem_nil _⟩
  | hidClose h =>
    cases h with
    | closed m cancelled closed hhandle hreply hvalue hclosed =>
      exact hblock.keep rfl fun n hn => by simp at hn
    | _ => exact hblock.flag _ (by simp [LeavesAlone])
  | hidRead cnt h =>
    rw [h.frame]
    exact hblock.flag _ h.leavesAlone
  | hidWrite cnt h =>
    rw [h.frame]
    exact hblock.flag _ h.leavesAlone

/-- A session word passes its own handle with its own block, and does so in its first call. -/
theorem uses_own {op : HidOp} (h : HidOutcome os past hds op run) :
    Throughout (fun past' e => ∀ n overlapped, overlappedUse e = some (n, overlapped) →
      past' = past ∧ hds.devhandle = some (.handle n) ∧ hds.devoverlapped = overlapped)
        past run.2 := by
  cases h with
  | hidOpen h => cases h <;> simp [Throughout]
  | hidClose h => cases h <;> simp [Throughout]
  | hidRead cnt h => cases h <;> simp [Throughout]
  | hidWrite cnt h => cases h <;> simp [Throughout]

/-- Every use a session word makes is one of its device's own. -/
theorem ownedUses_word {op : HidOp} {itf : Interface} (h : HidOutcome os past hds op run)
    (hmade : MadeFrom past itf hds) (hblock : BlockOwned past hds) :
    Throughout (fun past e => ∀ n overlapped, overlappedUse e = some (n, overlapped) →
      OwnedUse past hds n overlapped e) past run.2 := by
  have huses := uses_own h
  have hfits := transfers_fit h hmade
  rw [throughout_iff_forall] at huses hfits ⊢
  intro earlier e later hsplit n overlapped huse
  obtain ⟨hpast, hstored, hoverlapped⟩ := huses earlier e later hsplit n overlapped huse
  have hfit := hfits earlier e later hsplit
  rw [hpast] at hfit ⊢
  obtain ⟨block, hslot, hallocated⟩ := hblock n hstored
  refine ⟨hstored, hmade.openHandle n hstored, ?_,
    ⟨block, hoverlapped.symm.trans hslot, hallocated⟩, ?_⟩
  · rw [hmade.opened n hstored, hmade.devicePath]
  · intro transfer htransfer
    have hsize : hidGetReportSize transfer.kind (some hds) =
        some (itf.reportLength transfer.kind) := by
      cases transfer.kind with
      | read => exact congrArg some hmade.inputreportsz
      | write => exact congrArg some hmade.outputreportsz
    rw [(hfit transfer htransfer).sz]
    exact ⟨hsize, (hfit transfer htransfer).buffer⟩

/-- A call that only looks uses no block. -/
theorem overlappedUse_of_looksOnly {e : Win32Event} (h : LooksOnly e.1) :
    overlappedUse e = none := by
  obtain ⟨c, reply⟩ := e
  cases c <;> first | rfl | exact h.elim

/-- Every described call leaves every device with its own block. -/
theorem blocksOwned_outcome {after : HidLibrary} {op : LibraryOp} {lost : List ℕ}
    (hinv : LibraryInvariant past library lost) (hblocks : BlocksOwned past library)
    (h : LibraryOutcome past library op after events) : BlocksOwned (past ++ events) after := by
  have hvisited (hvisit : Visit past events) (index : ℕ) (hds : Hds)
      (hdevice : library.devices[index]? = some hds) : BlockOwned (past ++ events) hds := by
    obtain ⟨itf, hmade⟩ := hinv.made index hds hdevice
    apply (hblocks index hds hdevice).keep rfl
    exact fun n hn => ⟨hn, hvisit.leavesAlone n (hmade.openHandle n hn)⟩
  cases h with
  | enumerated vid pid records events hvisit => exact hvisited hvisit
  | found devices events hvisit hprepared =>
    intro index hds hdevice
    rcases getElem?_append_cases hdevice with hold | hnew
    · exact hvisited hvisit index hds hold
    · exact fun n hn => absurd hn ((hprepared hds hnew).devhandle_ne n)
  | named index events hvisit => exact hvisited hvisit
  | absent index op hdevice => rwa [List.append_nil]
  | word index op hds view run hdevice hview hrun =>
    intro other hds' hother
    rcases getElem?_set_eq_some hother with ⟨rfl, rfl⟩ | ⟨hne, hold⟩
    · exact blockOwned_step hrun (hblocks index hds hdevice)
    · apply (hblocks other hds' hold).keep rfl
      exact fun n hn => ⟨hn, (hinv.others_kept hview hdevice hrun hne hold hn).1⟩

/-- Along a visit no block is used. -/
theorem throughout_of_visit {allowed : List Win32Event → ℕ → Option Overlapped → Win32Event → Prop}
    (hvisit : Visit past events) :
    Throughout (fun past e => ∀ n overlapped, overlappedUse e = some (n, overlapped) →
      allowed past n overlapped e) past events := by
  rw [throughout_iff_forall]
  rintro earlier e later rfl n overlapped huse
  have hnone := overlappedUse_of_looksOnly (hvisit.looksOnly e (by simp))
  rw [hnone] at huse
  cases huse

/-- Every use of a described call is one of the device called on. -/
theorem ownedUses_outcome {after : HidLibrary} {op : LibraryOp} {lost : List ℕ}
    (hinv : LibraryInvariant past library lost) (hblocks : BlocksOwned past library)
    (h : LibraryOutcome past library op after events) :
    Throughout (fun past e => ∀ n overlapped, overlappedUse e = some (n, overlapped) →
      ∃ index word hds, op = .session index word ∧ library.devices[index]? = some hds ∧
        OwnedUse past hds n overlapped e) past events := by
  cases h with
  | enumerated vid pid records events hvisit => exact throughout_of_visit hvisit
  | found devices events hvisit hprepared => exact throughout_of_visit hvisit
  | named index events hvisit => exact throughout_of_visit hvisit
  | absent index op hdevice => trivial
  | word index op hds view run hdevice hview hrun =>
    obtain ⟨itf, hmade⟩ := hinv.made index hds hdevice
    apply (ownedUses_word hrun hmade (hblocks index hds hdevice)).mono
    intro past e hown n overlapped huse
    exact ⟨index, op, hds, rfl, hdevice, hown n overlapped huse⟩

/-- The system numbers the blocks it allocates. -/
theorem numbersBlocks_of_explains {os : HidEnvironment} {past events : List HidEvent}
    (h : Explains (hidSystem os) past events) :
    NumbersBlocks (ownEvents past) (ownEvents events) := by
  induction events generalizing past with
  | nil => trivial
  | cons e rest ih =>
    obtain ⟨hreply, hrest⟩ := h
    have hlater := ih hrest
    rw [ownEvents_append] at hlater
    obtain ⟨c | c, reply⟩ := e
    · refine ⟨?_, hlater⟩
      intro block heq
      cases heq
      exact (congrArg Overlapped.block hreply.symm).trans List.countP_eq_length_filter.symm
    · rwa [show ownEvents [(⟨.inr c, reply⟩ : HidEvent)] = [] from rfl, List.append_nil] at hlater

/-- At the start there is no device and no history. -/
theorem libraryBlocks_empty : LibraryBlocks [] .empty := by
  refine ⟨⟨[], libraryInvariant_empty⟩, ?_, trivial, trivial⟩
  intro index hds h
  simp [HidLibrary.empty] at h

/-- A call of a word makes every transfer with the things of its device. -/
theorem transfersOwned_step {os : HidEnvironment} (hfresh : FreshSystem os) (fuel : ℕ)
    (past : List HidEvent) (library : HidLibrary) (op : LibraryOp)
    (h : LibraryBlocks (ownEvents past) library) :
    TransfersOwned (callStep (hidSystem os) (libraryWord fuel) past library op) := by
  obtain ⟨lost, hinv⟩ := h.handles
  exact ownedUses_outcome hinv h.owned (libraryStep_outcome hfresh fuel past library op)

/-- A call of a word keeps what is said about handles and blocks. -/
theorem libraryBlocks_step {os : HidEnvironment} (hfresh : FreshSystem os) (fuel : ℕ)
    (past : List HidEvent) (library : HidLibrary) (op : LibraryOp)
    (h : LibraryBlocks (ownEvents past) library) :
    LibraryBlocks (ownEvents (callStep (hidSystem os) (libraryWord fuel) past library op).history)
      (callStep (hidSystem os) (libraryWord fuel) past library op).after := by
  obtain ⟨lost, hinv⟩ := h.handles
  have huses := transfersOwned_step hfresh fuel past library op h
  refine ⟨⟨_, libraryInvariant_step hfresh fuel past library op lost hinv⟩, ?_, ?_, ?_⟩
  · rw [CallStep.history, ownEvents_append]
    exact blocksOwned_outcome hinv h.owned (libraryStep_outcome hfresh fuel past library op)
  · rw [CallStep.history, ownEvents_append]
    refine (throughout_append _ _ _).mpr ⟨h.allocated, huses.mono ?_⟩
    intro past e hown n block huse
    obtain ⟨index, word, hds, -, -, howned⟩ := hown n (some block) huse
    obtain ⟨block', hblock, hallocated⟩ := howned.block
    rwa [Option.some.inj hblock]
  · rw [CallStep.history, ownEvents_append]
    refine (throughout_append _ _ _).mpr ⟨h.numbered, ?_⟩
    exact numbersBlocks_of_explains (explains_exec _)

/-- In a program that uses the vocabulary, in any order and on any number of devices, every read,
write and poll on a valid handle is made by a word on the device that stores the handle, while the
handle is open and was opened from the device's path, with the device's buffer and the block
allocated for this opening. -/
theorem library_transfersOwned (os : HidEnvironment) (hfresh : FreshSystem os) (fuel : ℕ)
    (ops : List LibraryOp) : ∀ step ∈ libraryRun os fuel ops, TransfersOwned step :=
  session_forall (fun past library => LibraryBlocks (ownEvents past) library) TransfersOwned
    (transfersOwned_step hfresh fuel) (libraryBlocks_step hfresh fuel)
      [] .empty ops libraryBlocks_empty

/-- Two devices opened, read and written in turn with another search between, and
one of them opened again. -/
theorem library_transfersOwned_interleaved :
    TransfersOwned (libraryStep vendorSystem 3
      [.hidFindDevices, .session 0 .hidOpen, .session 1 .hidOpen,
      .session 0 (.hidRead 0), .hidEnumerate 0 0, .session 1 (.hidWrite 1), .session 0 .hidClose,
      .session 0 .hidOpen] (.session 0 (.hidWrite 2))) := by
  apply library_transfersOwned vendorSystem vendorSystem_fresh 3
  rw [libraryRun_concat]
  exact List.mem_append_right _ (List.mem_singleton_self _)

/-- In a numbered history a block is allocated for one opening only. -/
theorem allocation_unique {n' : ℕ} {earlier earlier' later later' : List Win32Event}
    {e e' : Win32Event}
    (heq : earlier ++ e :: ⟨.newOverlapped, block⟩ :: later =
      earlier' ++ e' :: ⟨.newOverlapped, block⟩ :: later')
    (hobtains : obtainsHandle n e = true) (hobtains' : obtainsHandle n' e' = true)
    (hnum : NumbersBlocks [] (earlier ++ e :: ⟨.newOverlapped, block⟩ :: later)) :
    n = n' ∧ later = later' := by
  rw [List.append_cons, List.append_cons earlier'] at heq
  rw [List.append_cons, NumbersBlocks, throughout_iff_forall] at hnum
  have hcount : (earlier ++ [e]).countP allocatesOverlapped =
      (earlier' ++ [e']).countP allocatesOverlapped :=
    (hnum _ _ _ rfl block rfl).symm.trans (hnum _ _ _ heq block rfl)
  have hsame := split_eq_of_countP_eq heq rfl rfl hcount
  rw [hsame] at heq
  obtain ⟨-, hlast⟩ := List.append_inj' hsame rfl
  obtain ⟨rfl, -⟩ := List.cons.inj hlast
  refine ⟨?_, (List.cons.inj (List.append_cancel_left heq)).2⟩
  obtain ⟨c, reply⟩ := e
  cases c with
  | createFile path access share disposition flags =>
    have hn : reply = Handle.handle n := by simpa using hobtains
    have hn' : reply = Handle.handle n' := by simpa using hobtains'
    exact Handle.handle.inj (hn.symm.trans hn')
  | _ => cases hobtains

/-- The events of the calls of a run, in order. -/
def libraryHistory (os : HidEnvironment) (fuel : ℕ) (ops : List LibraryOp) : List Win32Event :=
  ownEvents ((libraryRun os fuel ops).flatMap CallStep.events)

/-- Two uses of one block are on one opening of one handle. -/
def UsesApart (history : List Win32Event) : Prop :=
  ∀ (earlier between later : List Win32Event) (e e' : Win32Event) (n n' : ℕ) (block : Overlapped),
    history = earlier ++ e :: between ++ e' :: later →
      overlappedUse e = some (n, some block) → overlappedUse e' = some (n', some block) →
        n = n' ∧ LeavesAlone n between

/-- Where every block in use was allocated for its opening, and no block twice,
no block has two uses. -/
theorem LibraryBlocks.usesApart (h : LibraryBlocks past library) : UsesApart past := by
  rintro earlier between later e e' n n' block rfl huse huse'
  have hallocated := (throughout_iff_forall [] _).mp h.allocated
  obtain ⟨first, rest, created, hobtains, hsplit, -⟩ :=
    hallocated earlier e (between ++ e' :: later) (List.append_assoc ..) n block huse
  obtain ⟨first', rest', created', hobtains', hsplit', halone⟩ :=
    hallocated (earlier ++ e :: between) e' later rfl n' block huse'
  rw [List.nil_append] at hsplit hsplit'
  have hnum := h.numbered
  rw [NumbersBlocks, throughout_append, List.nil_append] at hnum
  have hsame : first ++ created :: ⟨.newOverlapped, block⟩ :: (rest ++ e :: between) =
      first' ++ created' :: ⟨.newOverlapped, block⟩ :: rest' := by
    rw [← hsplit', hsplit]
    simp
  have hnum' : NumbersBlocks []
      (first ++ created :: ⟨.newOverlapped, block⟩ :: (rest ++ e :: between)) := by
    rw [hsame, ← hsplit']
    exact hnum.1
  obtain ⟨rfl, rfl⟩ := allocation_unique hsame hobtains hobtains' hnum'
  refine ⟨rfl, fun other hother => halone other ?_⟩
  exact List.mem_append_right rest (List.mem_cons_of_mem e hother)

/-- In a program that uses the vocabulary, in any order and on any number of devices, a
block passed twice with valid handles is passed with one handle, which is neither opened
nor closed in between. -/
theorem library_blocksApart (os : HidEnvironment) (hfresh : FreshSystem os) (fuel : ℕ)
    (ops : List LibraryOp) : UsesApart (libraryHistory os fuel ops) :=
  session_history (Q := fun past => UsesApart (ownEvents past))
    (fun past library => LibraryBlocks (ownEvents past) library) (libraryBlocks_step hfresh fuel)
    (fun _ _ h => h.usesApart) [] .empty ops libraryBlocks_empty

/-- A device written, closed, opened again and written again, while another one is written. -/
theorem library_blocksApart_reopened :
    UsesApart (libraryHistory vendorSystem 3
      [.hidFindDevices, .session 0 .hidOpen, .session 0 (.hidWrite 0),
      .session 0 .hidClose, .session 1 .hidOpen, .session 1 (.hidWrite 1), .session 0 .hidOpen,
      .session 0 (.hidWrite 2)]) :=
  library_blocksApart vendorSystem vendorSystem_fresh 3 [.hidFindDevices, .session 0 .hidOpen,
    .session 0 (.hidWrite 0), .session 0 .hidClose, .session 1 .hidOpen, .session 1 (.hidWrite 1),
    .session 0 .hidOpen, .session 0 (.hidWrite 2)]

end FactorUsb.Hid
