import FactorUsb.Calls.History
import FactorUsb.Hid.Outcome
import Mathlib.Data.Set.Basic

/-!
# Device handles between `CreateFile` and `CloseHandle`

A handle is open from the `CreateFile` that returned it to the first `CloseHandle` it is
passed to. The tuple should own every open handle of its session. `hid-open` stores what
`CreateFile` returned over whatever the slot held, and `hid-close` gives the handle back
only after `CancelIo` answered 1, so a repeated `hid-open` and a failed cancel break it.

No other call obtains or closes a handle: over a run the tuple owns its handles after
every call precisely when no call takes one of these two branches with a handle stored.
-/

namespace FactorUsb.Hid

open FactorUsb.Calls

/-- The event is a `CreateFile` that returned the handle. -/
@[simp] def obtainsHandle (n : ℕ) : Win32Event → Bool
  | ⟨.createFile .., handle⟩ => handle = Handle.handle n
  | _ => false

/-- The event passes the handle to `CloseHandle`. -/
@[simp] def closesHandle (n : ℕ) : Win32Event → Bool
  | ⟨.closeHandle handle, _⟩ => handle = some (.handle n)
  | _ => false

/-- The handle was obtained and has not been passed to `CloseHandle` since. -/
def OpenHandle (history : List Win32Event) (n : ℕ) : Prop :=
  Held (obtainsHandle n) (closesHandle n) history

instance (history : List Win32Event) : DecidablePred (OpenHandle history) :=
  fun _ => inferInstanceAs (Decidable (Held ..))

/-- Appended calls obtain a handle, or keep one open by not closing it. -/
@[simp] theorem openHandle_append (past events : List Win32Event) (n : ℕ) :
    OpenHandle (past ++ events) n ↔
      OpenHandle events n ∨ (OpenHandle past n ∧ ∀ e ∈ events, closesHandle n e = false) :=
  held_append past events

/-- A first event's handle stays open unless a later event closes it. -/
@[simp] theorem openHandle_cons (e : Win32Event) (later : List Win32Event) (n : ℕ) :
    OpenHandle (e :: later) n ↔
      OpenHandle later n ∨ (obtainsHandle n e = true ∧ ∀ e' ∈ later, closesHandle n e' = false) :=
        Iff.rfl

/-- No handle is open before the first call. -/
@[simp] theorem not_openHandle_nil (n : ℕ) : ¬ OpenHandle [] n := not_held_nil

/-- The handles that are open after a history. -/
def openHandles (history : List Win32Event) : Set ℕ := {n | OpenHandle history n}

/-- The valid handle in the `devhandle` slot. -/
def Hds.ownedHandle (hds : Hds) : Option ℕ :=
  match hds.devhandle with
  | some (.handle n) => some n
  | _ => none

/-- The slot owns a handle exactly when it stores a valid one. -/
theorem ownedHandle_eq_some (hds : Hds) (n : ℕ) :
    hds.ownedHandle = some n ↔ hds.devhandle = some (.handle n) := by
  unfold Hds.ownedHandle
  split <;> simp_all

/-- After the call, the open handles are exactly the stored one, and none after `hid-close`. -/
def HandlesOwned (step : HidStep) : Prop :=
  openHandles step.history = {n | step.after.devhandle = some (.handle n)} ∧
    (step.op = .hidClose → openHandles step.history = ∅)

/-- A stored handle is not replaced by `hid-open`, and
`hid-close` succeeds in cancelling its transfers. -/
def HandlesOwnedCondition (step : HidStep) : Prop :=
  match step.op with
  | .hidOpen =>
    ∀ n ∈ step.before.ownedHandle, ∀ e ∈ step.events, ∀ handle ∈ createdHandle e, handle = .handle n
  | .hidClose =>
    ∀ _n ∈ step.before.ownedHandle, ∀ e ∈ step.events, ∀ reply ∈ cancelReply e, reply.value = 1
  | .hidRead _ | .hidWrite _ => True

/-- The open handles are exactly the stored one. -/
def HandlesOwnedInvariant (past : List Win32Event) (hds : Hds) : Prop :=
  ∀ n, OpenHandle past n ↔ hds.devhandle = some (.handle n)

variable {os : Win32Environment} {past : List Win32Event} {hds : Hds} {run : HidRun}

/-- A call that meets the condition neither loses a handle nor forgets to close it. -/
theorem handlesOwned_step (op : HidOp) (hinv : HandlesOwnedInvariant past hds)
    (hcond : HandlesOwnedCondition (callStep (win32 os) hidWord past hds op)) :
    HandlesOwnedInvariant (callStep (win32 os) hidWord past hds op).history
      (callStep (win32 os) hidWord past hds op).after := by
  obtain ⟨run, hrun, heq⟩ := hidStep_outcome os past hds op
  rw [heq] at hcond ⊢
  intro n
  simp only [CallStep.history, hidStepOf, openHandle_append, hinv n]
  cases hrun with
  | hidOpen h =>
    cases h with
    | noDetail hdetail => simp
    | refused devdetail hdetail hreply =>
      have hnone : ∀ m, hds.devhandle ≠ some (.handle m) := by
        intro m hm
        simp [HandlesOwnedCondition, hidStepOf, ownedHandle_eq_some, hm] at hcond
      simp [hnone n]
    | opened devdetail m overlapped hdetail hreply =>
      have hsame : ∀ k, hds.devhandle = some (.handle k) → m = k := by
        intro k hk
        simpa [HandlesOwnedCondition, hidStepOf, ownedHandle_eq_some, hk] using hcond
      have hkeep : m = n ∨ hds.devhandle = some (.handle n) ↔ m = n := or_iff_left_of_imp (hsame n)
      simpa [Hds.opened] using hkeep
  | hidClose h =>
    cases h with
    | noHandle hhandle => simp
    | cancelFailed stored cancelled hhandle hreply hvalue => simp
    | invalidHandle cancelled hhandle hreply hvalue => simp
    | closed m cancelled closed hhandle hreply hvalue => simp [hhandle]
  | hidRead cnt h => cases h <;> simp
  | hidWrite cnt h => cases h <;> simp

/-- A call after which the tuple owns every open handle met the condition. -/
theorem handlesOwnedCondition_of_owned (op : HidOp) (hinv : HandlesOwnedInvariant past hds)
    (howned : HandlesOwned (callStep (win32 os) hidWord past hds op)) :
    HandlesOwnedCondition (callStep (win32 os) hidWord past hds op) := by
  obtain ⟨run, hrun, heq⟩ := hidStep_outcome os past hds op
  rw [heq] at howned ⊢
  obtain ⟨hset, hclosed⟩ := howned
  have hafter : ∀ n, OpenHandle (past ++ run.2) n ↔ run.1.2.devhandle = some (.handle n) :=
    Set.ext_iff.mp hset
  cases hrun with
  | hidOpen h =>
    cases h with
    | noDetail hdetail => simp [HandlesOwnedCondition, hidStepOf]
    | refused devdetail hdetail hreply =>
      have hnone : ∀ n, hds.devhandle ≠ some (.handle n) := by simpa [hinv _] using hafter
      simp [HandlesOwnedCondition, hidStepOf, ownedHandle_eq_some, hnone]
    | opened devdetail m overlapped hdetail hreply =>
      have hsame : ∀ n, hds.devhandle = some (.handle n) → m = n := by
        intro n hn
        simpa [hinv _, Hds.opened, hn] using hafter n
      simpa [HandlesOwnedCondition, hidStepOf, ownedHandle_eq_some] using hsame
  | hidClose h =>
    have hempty : ∀ n, ¬ OpenHandle (past ++ run.2) n :=
      Set.eq_empty_iff_forall_notMem.mp (hclosed rfl)
    cases h with
    | noHandle hhandle => simp [HandlesOwnedCondition, hidStepOf]
    | cancelFailed stored cancelled hhandle hreply hvalue =>
      have hnone : ∀ n, hds.devhandle ≠ some (.handle n) := by simpa [hinv _] using hempty
      simp [HandlesOwnedCondition, hidStepOf, ownedHandle_eq_some, hnone]
    | invalidHandle cancelled hhandle hreply hvalue =>
      simp [HandlesOwnedCondition, hidStepOf, hvalue]
    | closed m cancelled closed hhandle hreply hvalue =>
      simp [HandlesOwnedCondition, hidStepOf, hvalue]
  | hidRead cnt h => trivial
  | hidWrite cnt h => trivial

/-- A call that meets the condition leaves the tuple owning every open handle. -/
theorem handlesOwned_of_condition (op : HidOp) (hinv : HandlesOwnedInvariant past hds)
    (hcond : HandlesOwnedCondition (callStep (win32 os) hidWord past hds op)) :
    HandlesOwned (callStep (win32 os) hidWord past hds op) := by
  have hnext := handlesOwned_step op hinv hcond
  refine ⟨Set.ext hnext, fun hop => Set.eq_empty_iff_forall_notMem.mpr fun n hn => ?_⟩
  have hstored := (hnext n).mp hn
  obtain ⟨run, hrun, heq⟩ := hidStep_outcome os past hds op
  rw [heq] at hop hcond hstored
  cases hrun with
  | hidClose h =>
    cases h with
    | noHandle hhandle => simp [hidStepOf, hhandle] at hstored
    | cancelFailed stored cancelled hhandle hreply hvalue =>
      simp only [hidStepOf] at hstored
      simp [HandlesOwnedCondition, hidStepOf, ownedHandle_eq_some, hstored, hvalue] at hcond
    | invalidHandle cancelled hhandle hreply hvalue => simp [hidStepOf, hhandle] at hstored
    | closed m cancelled closed hhandle hreply hvalue => simp [hidStepOf] at hstored
  | _ => cases hop

/-- Over a whole session that starts with an empty slot, no handle is lost precisely when every call
meets the condition. -/
theorem hidSession_handlesOwned_iff (os : Win32Environment) (hds : Hds) (ops : List HidOp) :
    (∀ step ∈ hidSession os { hds with devhandle := none } ops, HandlesOwned step) ↔
      ∀ step ∈ hidSession os { hds with devhandle := none } ops, HandlesOwnedCondition step := by
  refine session_forall_iff HandlesOwnedInvariant _ _
    (fun past hds op hinv =>
      ⟨handlesOwnedCondition_of_owned op hinv, handlesOwned_of_condition op hinv⟩)
    (fun past hds op hinv hcond => handlesOwned_step op hinv hcond) _ _ _ ?_
  intro n
  simp

/-- Opening twice loses the first handle, and a close whose cancel fails keeps its handle. -/
theorem hidOpen_twice_loses_handle :
    (¬ ∀ step ∈ hidSession
        (fun past => steadyOs (.handle past.length) ⟨1, 0⟩ ⟨1, 0⟩ ⟨1, 0⟩ ⟨1, 0⟩ ⟨1, 0⟩ past)
        (preparedHds ⟨8, 8, "hid"⟩ 8 2 2 0 none) [.hidOpen, .hidOpen], HandlesOwned step) ∧
      ¬ ∀ step ∈ hidSession (steadyOs (.handle 4) ⟨1, 0⟩ ⟨1, 0⟩ ⟨1, 0⟩ ⟨0, 6⟩ ⟨1, 0⟩)
        (preparedHds ⟨8, 8, "hid"⟩ 8 2 2 0 none) [.hidOpen, .hidClose], HandlesOwned step := by
  constructor
  · intro h
    have hlast := (h _ (List.mem_cons_of_mem _ List.mem_cons_self)).1
    have hfirst : OpenHandle _ 0 ↔ _ = some (Handle.handle 0) := Set.ext_iff.mp hlast 0
    revert hfirst
    decide
  · intro h
    have hlast := (h _ (List.mem_cons_of_mem _ List.mem_cons_self)).2 rfl
    have hkept : ¬ OpenHandle _ 4 := Set.eq_empty_iff_forall_notMem.mp hlast 4
    revert hkept
    decide

end FactorUsb.Hid
