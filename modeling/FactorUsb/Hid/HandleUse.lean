import FactorUsb.Hid.HandleOwnership

/-!
# Every handle handed to Windows is open

The `devhandle` slot holds `f`, `INVALID_HANDLE_VALUE` or a handle. A valid stored handle
is open in every reachable state, whatever failed before, because it leaves the slot when
it is closed. So a word uses a dead handle only where it uses the slot without testing it.

Transfers are assumed to be requested only between a successful `hid-open` and the next
`hid-close`. What remains is `hid-close` itself: it tests the slot for `f`, cancels, and
only then tests for the `INVALID_HANDLE_VALUE` that a failed `hid-open` stores.
-/

namespace FactorUsb.Hid

open FactorUsb.Calls

/-- The handle argument of a function that transfers, polls, cancels or closes. -/
@[simp] def usedHandle : Win32Event → Option (Option Handle)
  | ⟨.readFile handle .., _⟩ | ⟨.writeFile handle .., _⟩ | ⟨.getOverlappedResult handle .., _⟩
  | ⟨.cancelIo handle, _⟩ | ⟨.closeHandle handle, _⟩ => some handle
  | _ => none

/-- The argument is a handle that is open after the history. -/
@[simp] def LiveHandle (history : List Win32Event) : Option Handle → Prop
  | some (.handle n) => OpenHandle history n
  | some .invalidHandleValue => False
  | none => False

instance (history : List Win32Event) : DecidablePred (LiveHandle history)
  | some (.handle _) => inferInstanceAs (Decidable (OpenHandle ..))
  | some .invalidHandleValue => .isFalse id
  | none => .isFalse id

/-- Every handle the call uses is open when it is used. -/
def HandlesLive (step : HidStep) : Prop :=
  Throughout (fun past e => ∀ handle ∈ usedHandle e, LiveHandle past handle) step.past step.events

instance : DecidablePred HandlesLive := fun _ => inferInstanceAs (Decidable (Throughout ..))

/-- The operations that transfer data. -/
@[simp] def HidOp.transfers : HidOp → Bool
  | .hidRead _ | .hidWrite _ => true
  | .hidOpen | .hidClose => false

/-- Whether transfers may be requested after the call. -/
def usableAfter (usable : Bool) (step : HidStep) : Bool :=
  match step.op with
  | .hidOpen => step.result = .ok true
  | .hidClose => false
  | .hidRead _ | .hidWrite _ => usable

/-- Transfers are requested only after an `hid-open` that
returned true and before the next `hid-close`. -/
def TransfersWhileOpen : Bool → List HidStep → Prop
  | _, [] => True
  | usable, step :: later =>
    (step.op.transfers = true → usable = true) ∧ TransfersWhileOpen (usableAfter usable step) later

instance TransfersWhileOpen.decidable : ∀ usable steps, Decidable (TransfersWhileOpen usable steps)
  | _, [] => .isTrue trivial
  | usable, step :: later =>
    @instDecidableAnd _ _ inferInstance
      (TransfersWhileOpen.decidable (usableAfter usable step) later)

/-- A valid handle in the slot is open. -/
def StoredHandleOpen (past : List Win32Event) (hds : Hds) : Prop :=
  ∀ n, hds.devhandle = some (.handle n) → OpenHandle past n

variable {os : Win32Environment} {past : List Win32Event} {hds : Hds}

/-- No call stores a handle that is not open, or closes one it keeps. -/
theorem storedHandleOpen_step (op : HidOp) (hinv : StoredHandleOpen past hds) :
    StoredHandleOpen (callStep (win32 os) hidWord past hds op).history
      (callStep (win32 os) hidWord past hds op).after := by
  obtain ⟨run, hrun, heq⟩ := hidStep_outcome os past hds op
  rw [heq]
  intro n hn
  simp only [CallStep.history, hidStepOf, openHandle_append] at hn ⊢
  cases hrun with
  | hidOpen h =>
    cases h with
    | noDetail hdetail => exact Or.inr ⟨hinv n hn, by simp⟩
    | refused devdetail hdetail hreply => simp at hn
    | opened devdetail m overlapped hdetail hreply =>
      have hmn : m = n := by simpa [Hds.opened] using hn
      simp [hmn]
  | hidClose h =>
    cases h with
    | closed m cancelled closed hhandle hreply hvalue => simp at hn
    | _ => exact Or.inr ⟨hinv n hn, by simp⟩
  | hidRead cnt h => cases h <;> exact Or.inr ⟨hinv n hn, by simp⟩
  | hidWrite cnt h => cases h <;> exact Or.inr ⟨hinv n hn, by simp⟩

/-- A session call uses only open handles exactly when it does not find the
wrong thing in the slot. -/
theorem handlesLive_iff (op : HidOp) (hinv : StoredHandleOpen past hds) :
    HandlesLive (callStep (win32 os) hidWord past hds op) ↔
      (op = .hidClose → hds.devhandle ≠ some .invalidHandleValue) ∧
        (op.transfers = true → ∃ n, hds.devhandle = some (.handle n)) := by
  obtain ⟨run, hrun, heq⟩ := hidStep_outcome os past hds op
  rw [heq]
  simp only [HandlesLive, hidStepOf]
  cases hrun with
  | hidOpen h => cases h <;> simp [Throughout]
  | hidClose h =>
    cases h with
    | noHandle hhandle => simp [Throughout, hhandle]
    | cancelFailed stored cancelled hhandle hreply hvalue =>
      cases stored with
      | invalidHandleValue => simp [Throughout, hhandle]
      | handle n => simp [Throughout, hhandle, hinv n hhandle]
    | invalidHandle cancelled hhandle hreply hvalue => simp [Throughout, hhandle]
    | closed n cancelled closed hhandle hreply hvalue => simp [Throughout, hhandle, hinv n hhandle]
  | hidRead cnt h =>
    rcases hhandle : hds.devhandle with _ | (_ | n)
    · cases h <;> simp [Throughout, hhandle]
    · cases h <;> simp [Throughout, hhandle]
    · cases h <;> simp [Throughout, hhandle, hinv n hhandle]
  | hidWrite cnt h =>
    rcases hhandle : hds.devhandle with _ | (_ | n)
    · cases h <;> simp [Throughout, hhandle]
    · cases h <;> simp [Throughout, hhandle]
    · cases h <;> simp [Throughout, hhandle, hinv n hhandle]

/-- While transfers may be requested, the slot holds a valid handle. -/
theorem usable_step (op : HidOp) (usable : Bool)
    (husable : usable = true → ∃ n, hds.devhandle = some (.handle n))
    (hafter : usableAfter usable (callStep (win32 os) hidWord past hds op) = true) :
    ∃ n, (callStep (win32 os) hidWord past hds op).after.devhandle = some (.handle n) := by
  obtain ⟨run, hrun, heq⟩ := hidStep_outcome os past hds op
  rw [heq] at hafter ⊢
  simp only [usableAfter, hidStepOf] at hafter ⊢
  cases hrun with
  | hidOpen h =>
    cases h with
    | noDetail hdetail => simp at hafter
    | refused devdetail hdetail hreply => simp at hafter
    | opened devdetail n overlapped hdetail hreply => exact ⟨n, rfl⟩
  | hidClose h => simp at hafter
  | hidRead cnt h => cases h <;> exact husable hafter
  | hidWrite cnt h => cases h <;> exact husable hafter

/-- In a disciplined run, every transfer finds a valid handle in the slot. -/
theorem transfers_find_handle (past : List Win32Event) (hds : Hds) (ops : List HidOp)
    (usable : Bool) (husable : usable = true → ∃ n, hds.devhandle = some (.handle n))
    (hdisc : TransfersWhileOpen usable (session (win32 os) hidWord past hds ops)) :
    ∀ step ∈ session (win32 os) hidWord past hds ops,
      step.op.transfers = true → ∃ n, step.before.devhandle = some (.handle n) := by
  induction ops generalizing past hds usable with
  | nil => simp [session]
  | cons op ops ih =>
    intro step hmem
    rcases List.mem_cons.mp hmem with rfl | hlater
    · exact fun htransfers => husable (hdisc.1 htransfers)
    · exact ih _ _ _ (usable_step op usable husable) hdisc.2 step hlater

/-- In a disciplined session every handle used is open precisely when `hid-close` never finds
`INVALID_HANDLE_VALUE` in the slot. -/
theorem hidSession_handlesLive_iff (os : Win32Environment) (devdetail : DevDetail)
    (detaildatasz inputreportsz outputreportsz featurereportsz : ℕ) (count : Option ℕ)
    (ops : List HidOp)
    (hdisc : TransfersWhileOpen false
      (hidSession os (preparedHds devdetail detaildatasz inputreportsz outputreportsz
      featurereportsz count) ops)) :
    (∀ step ∈ hidSession os
        (preparedHds devdetail detaildatasz inputreportsz outputreportsz featurereportsz count) ops,
      HandlesLive step) ↔
      ∀ step ∈ hidSession os
        (preparedHds devdetail detaildatasz inputreportsz outputreportsz featurereportsz count) ops,
        step.op = .hidClose → step.before.devhandle ≠ some .invalidHandleValue := by
  have hfind := transfers_find_handle [] _ ops false (by simp) hdisc
  refine (session_forall_iff StoredHandleOpen HandlesLive
    (fun step => (step.op = .hidClose → step.before.devhandle ≠ some .invalidHandleValue) ∧
      (step.op.transfers = true → ∃ n, step.before.devhandle = some (.handle n)))
    (fun past hds op hinv => handlesLive_iff op hinv)
    (fun past hds op hinv _ => storedHandleOpen_step op hinv) _ _ _
    (by simp [StoredHandleOpen, preparedHds, newHds])).trans ?_
  exact ⟨fun h step hmem => (h step hmem).1, fun h step hmem => ⟨h step hmem, hfind step hmem⟩⟩

/-- The equivalence at a session that closes twice while
cancelling fails: the handle stays open and live. -/
theorem hidSession_handlesLive_reclosed :
    TransfersWhileOpen false (hidSession (steadyOs (.handle 4) ⟨1, 0⟩ ⟨1, 0⟩ ⟨1, 0⟩ ⟨0, 6⟩ ⟨1, 0⟩)
        (preparedHds ⟨8, 8, "hid"⟩ 8 2 2 0 none) [.hidOpen, .hidWrite 0, .hidClose, .hidClose]) ∧
      ∀ step ∈ hidSession (steadyOs (.handle 4) ⟨1, 0⟩ ⟨1, 0⟩ ⟨1, 0⟩ ⟨0, 6⟩ ⟨1, 0⟩)
          (preparedHds ⟨8, 8, "hid"⟩ 8 2 2 0 none) [.hidOpen, .hidWrite 0, .hidClose, .hidClose],
        HandlesLive step := by
  have hdisc : TransfersWhileOpen false
      (hidSession (steadyOs (.handle 4) ⟨1, 0⟩ ⟨1, 0⟩ ⟨1, 0⟩ ⟨0, 6⟩ ⟨1, 0⟩)
        (preparedHds ⟨8, 8, "hid"⟩ 8 2 2 0 none)
        [.hidOpen, .hidWrite 0, .hidClose, .hidClose]) := by decide
  exact ⟨hdisc, (hidSession_handlesLive_iff _ _ _ _ _ _ _ _ hdisc).mpr (by decide)⟩

/-- After a failed `hid-open`, `hid-close` hands `INVALID_HANDLE_VALUE` to `CancelIo`. -/
theorem hidClose_cancels_invalid_handle :
    TransfersWhileOpen false
      (hidSession (steadyOs .invalidHandleValue ⟨1, 0⟩ ⟨1, 0⟩ ⟨1, 0⟩ ⟨0, 6⟩ ⟨1, 0⟩)
        (preparedHds ⟨8, 8, "hid"⟩ 8 2 2 0 none) [.hidOpen, .hidClose]) ∧
      ¬ ∀ step ∈ hidSession (steadyOs .invalidHandleValue ⟨1, 0⟩ ⟨1, 0⟩ ⟨1, 0⟩ ⟨0, 6⟩ ⟨1, 0⟩)
          (preparedHds ⟨8, 8, "hid"⟩ 8 2 2 0 none) [.hidOpen, .hidClose],
        HandlesLive step := by
  decide

end FactorUsb.Hid
