import FactorUsb.Hid.ScanTraces

/-!
# Preparsed data in the two scanning loops

A block of preparsed data is obtained, passed to `HidP_GetCaps` and freed, each time by the
address the system stored, and all this before the device handle is closed.

Both loops free the block only after `HidP_GetCaps` succeeded, and both read the eight-byte
buffer that received the address back as one `DWORD`. So a block is treated as it should be
exactly when its capabilities are found and its address lies below `2 ^ 32`.
-/

namespace FactorUsb.Hid

open FactorUsb.Calls

/-- What became of the preparsed data obtained last. -/
inductive PreparsedState where
  | idle
  | obtained (preparsedData : BitVec 64)
  | inspected (preparsedData : BitVec 64)
  deriving DecidableEq

/-- The law of preparsed data: a block is obtained while no other is live, inspected once and then
freed once, always by its own address, and no handle is closed while it is live. -/
def preparsedLaw : Monitor Win32Event PreparsedState where
  idle := .idle
  step s e :=
    match e with
    | ⟨.hidDGetPreparsedData _, reply⟩ =>
      if s = .idle then some (if reply.value = 0 then .idle else .obtained reply.preparsedData)
        else none
    | ⟨.hidPGetCaps pointer, _⟩ => if s = .obtained pointer then some (.inspected pointer) else none
    | ⟨.hidDFreePreparsedData pointer, _⟩ => if s = .inspected pointer then some .idle else none
    | ⟨.closeHandle _, _⟩ => if s = .idle then some .idle else none
    | _ => some s

/-- If the interface gives preparsed data, its capabilities are found and the
address fits a `DWORD`. -/
def Interface.PreparsedFits (itf : Interface) : Prop :=
  itf.preparsed.value ≠ 0 →
    itf.preparsed.value = 1 ∧ itf.caps.status = hidpStatusSuccess ∧
      itf.preparsed.preparsedData.toNat < 2 ^ 32

instance : DecidablePred Interface.PreparsedFits := fun _ => inferInstanceAs (Decidable (_ → _))

/-- The address read back is the one stored exactly when it fits. -/
theorem preparsedPointer_eq_self_iff (preparsedData : BitVec 64) :
    preparsedPointer preparsedData = preparsedData ↔ preparsedData.toNat < 2 ^ 32 := by
  have hless := preparsedData.isLt
  rw [preparsedPointer, ← BitVec.toNat_inj, BitVec.toNat_setWidth, BitVec.toNat_setWidth]
  omega

variable {itfs : List Interface} {os : Win32Environment} {past : List Win32Event} {itf : Interface}

/-- Getting preparsed data makes a block live if it succeeds. -/
theorem preparsedLaw_after_get (h : preparsedLaw.after past = some .idle) (handle : Option Handle)
    (reply : PreparsedReply) :
    preparsedLaw.after (past ++ [⟨.hidDGetPreparsedData handle, reply⟩]) =
      some (if reply.value = 0 then .idle else .obtained reply.preparsedData) := by
  rw [Monitor.after_concat, h]
  rfl

/-- The capabilities of a live block may be asked for by its address. -/
theorem preparsedLaw_after_caps {preparsedData : BitVec 64}
    (h : preparsedLaw.after past = some (.obtained preparsedData)) (pointer : BitVec 64)
    (reply : CapsReply) :
    preparsedLaw.after (past ++ [⟨.hidPGetCaps pointer, reply⟩]) =
      if pointer = preparsedData then some (.inspected preparsedData) else none := by
  rw [Monitor.after_concat, h]
  by_cases hpointer : pointer = preparsedData
  · rw [if_pos hpointer, hpointer]
    exact if_pos rfl
  · rw [if_neg hpointer]
    exact if_neg fun hstate => hpointer (PreparsedState.obtained.inj hstate).symm

/-- An inspected block may be freed by its address. -/
theorem preparsedLaw_after_free {preparsedData : BitVec 64}
    (h : preparsedLaw.after past = some (.inspected preparsedData)) (pointer : BitVec 64)
    (reply : ℤ) :
    preparsedLaw.after (past ++ [⟨.hidDFreePreparsedData pointer, reply⟩]) =
      if pointer = preparsedData then some .idle else none := by
  rw [Monitor.after_concat, h]
  by_cases hpointer : pointer = preparsedData
  · rw [if_pos hpointer, hpointer]
    exact if_pos rfl
  · rw [if_neg hpointer]
    exact if_neg fun hstate => hpointer (PreparsedState.inspected.inj hstate).symm

/-- Closing a handle is allowed exactly while no block is live. -/
theorem preparsedLaw_settled_close {ok : Prop} (h : preparsedLaw.Accepts past ↔ ok)
    (handle : Option Handle) (reply : BoolReply) :
    preparsedLaw.Settled (past ++ [⟨.closeHandle handle, reply⟩]) ok := by
  by_cases hok : ok
  · apply Monitor.settled_of_idle _ hok
    rw [Monitor.after_concat, h.mpr hok]
    rfl
  · apply Monitor.settled_of_none _ hok
    have hnot : preparsedLaw.after past ≠ some .idle := fun hidle => hok (h.mp hidle)
    rw [Monitor.after_concat]
    cases hafter : preparsedLaw.after past with
    | none => rfl
    | some s => exact if_neg fun hs => hnot (hafter.trans (congrArg some hs))

/-- A live block is given up exactly if its capabilities are found and its address fits. -/
theorem wp_capabilities_accepts {preparsedData : BitVec 64}
    (h : currentInterface itfs past = some itf)
    (hlive : preparsedLaw.after past = some (.obtained preparsedData)) :
    wp (answering itfs os)
      (do
        let caps ← win32Call (.hidPGetCaps (preparsedPointer preparsedData))
        if caps.status = hidpStatusSuccess then
          let _ ← win32Call (.hidDFreePreparsedData (preparsedPointer preparsedData))
          pure (some caps.capabilities)
        else pure none)
      (fun _ later => preparsedLaw.Accepts later ↔
        itf.caps.status = hidpStatusSuccess ∧ preparsedData.toNat < 2 ^ 32) past := by
  have hcaps := preparsedLaw_after_caps hlive (preparsedPointer preparsedData) itf.caps
  rw [wp_ask_bind, answering_current h fun _ => rfl]
  change wp _ (if itf.caps.status = hidpStatusSuccess then _ else _) _
    (past ++ [⟨.hidPGetCaps (preparsedPointer preparsedData), itf.caps⟩])
  rw [← preparsedPointer_eq_self_iff]
  by_cases hpointer : preparsedPointer preparsedData = preparsedData
  · rw [if_pos hpointer] at hcaps
    by_cases hstatus : itf.caps.status = hidpStatusSuccess
    · rw [if_pos hstatus, wp_ask_bind, wp_pure, Monitor.Accepts, preparsedLaw_after_free hcaps]
      exact iff_of_true (if_pos hpointer) ⟨hstatus, hpointer⟩
    · rw [if_neg hstatus, wp_pure, Monitor.Accepts, hcaps]
      exact iff_of_false (by simp [preparsedLaw]) fun hboth => hstatus hboth.1
  · -- the wrong address breaks the law, whatever follows
    rw [if_neg hpointer] at hcaps
    apply wp_mono (wp_broken hcaps _)
    intro _ later hnone
    exact iff_of_false (Monitor.not_accepts_of_none hnone) fun hboth => hpointer hboth.2

/-- Getting the capabilities of an interface leaves no block live exactly if
its preparsed data fits. -/
theorem wp_hidCapabilities_accepts (devhandle : Handle) (h : currentInterface itfs past = some itf)
    (hidle : preparsedLaw.after past = some .idle) :
    wp (answering itfs os) (hidCapabilities devhandle)
      (fun _ later => preparsedLaw.Accepts later ↔ itf.PreparsedFits) past := by
  have hget := preparsedLaw_after_get hidle (some devhandle) itf.preparsed
  unfold hidCapabilities Interface.PreparsedFits
  rw [wp_ask_bind, answering_current h fun _ => rfl]
  change wp _ (if itf.preparsed.value = 1 then _ else _) _
    (past ++ [⟨.hidDGetPreparsedData (some devhandle), itf.preparsed⟩])
  by_cases hvalue : itf.preparsed.value = 1
  · rw [if_neg (by omega)] at hget
    rw [if_pos hvalue]
    apply wp_mono (wp_capabilities_accepts (currentInterface_concat h rfl) hget)
    intro _ later hlater
    exact hlater.trans ⟨fun hfits _ => ⟨hvalue, hfits⟩, fun hfits => (hfits (by omega)).2⟩
  · rw [if_neg hvalue, wp_pure, Monitor.Accepts, hget]
    by_cases hnone : itf.preparsed.value = 0 <;> simp [hnone, hvalue, preparsedLaw]

/-- A call that is neither about preparsed data nor closes a handle. -/
def LeavesPreparsed : Win32Call → Prop
  | .hidDGetPreparsedData _ | .hidPGetCaps _ | .hidDFreePreparsedData _ | .closeHandle _ => False
  | _ => True

/-- Other calls leave the state alone. -/
theorem preparsedLaw_stays {e : Win32Event} (he : LeavesPreparsed e.1) (s : PreparsedState) :
    preparsedLaw.step s e = some s := by
  obtain ⟨c, reply⟩ := e
  cases c <;> first | rfl | exact he.elim

/-- Asking the information set has nothing to do with preparsed data. -/
theorem leavesPreparsed_of_asksSet {c : Win32Call} (h : AsksSet c) : LeavesPreparsed c := by
  cases c <;> trivial

/-- Other calls leave an idle law idle. -/
theorem preparsedLaw_accepts_concat {e : Win32Event} (he : LeavesPreparsed e.1)
    (h : preparsedLaw.Accepts past) : preparsedLaw.Accepts (past ++ [e]) := by
  rw [Monitor.Accepts, Monitor.after_concat, h]
  exact preparsedLaw_stays he _

/-- The calls `hid-find-devices` makes for an interface obey the law exactly if its preparsed
data fits, should it open. -/
theorem findLaw_preparsed (itfs : List Interface) (os : Win32Environment) :
    FindLaw preparsedLaw (fun itf => itf.Opened → itf.PreparsedFits) True itfs os where
  asksSet e he := preparsedLaw_stays (leavesPreparsed_of_asksSet he) _
  failed itf hfailed past reply hidle :=
    preparsedLaw_settled_close
      (iff_of_true hidle fun hopened => absurd hopened.1 hfailed) none reply
  refused itf hrefused devdetail past reply hidle := by
    have hnot : ¬ itf.Opened := fun hopened => Bool.false_ne_true (hrefused.symm.trans hopened.2)
    have hprobed :=
      preparsedLaw_accepts_concat (e := ⟨probeCall devdetail, Handle.invalidHandleValue⟩)
      trivial hidle
    exact preparsedLaw_settled_close
      (iff_of_true hprobed fun hopened => absurd hopened hnot) _ reply
  opened itf hopened devdetail n past hcurrent hidle := by
    have hprobed :=
      preparsedLaw_accepts_concat (e := ⟨probeCall devdetail, Handle.handle n⟩) trivial hidle
    apply wp_mono (wp_hidCapabilities_accepts _ hcurrent hprobed)
    intro _ later hlater reply
    exact preparsedLaw_settled_close (hlater.trans (imp_iff_right hopened).symm) _ reply
  ends past reply hidle := preparsedLaw_settled_close (iff_of_true hidle trivial) none reply

/-- An opened interface that matches obeys the law exactly if its preparsed data fits. -/
theorem wp_enumerateOpened_settled {vid pid : ℤ} (devdetail : DevDetail) (n : ℕ)
    (s : EnumerateState) (hopened : itf.Opened) (h : currentInterface itfs past = some itf)
    (hidle : preparsedLaw.Accepts past) :
    wp (answering itfs os) (enumerateOpened vid pid devdetail (.handle n) s)
      (fun _ later => preparsedLaw.Settled later (itf.Enumerated vid pid → itf.PreparsedFits))
        past := by
  unfold enumerateOpened
  rw [wp_ask_bind, answering_current h fun _ => rfl]
  have hread : preparsedLaw.Accepts
      (past ++ [⟨.hidDGetAttributes (some (.handle n)), itf.attributes⟩]) :=
    preparsedLaw_accepts_concat trivial hidle
  have hmatching : wp (answering itfs os)
    (enumerateMatching vid pid devdetail (.handle n) itf.attrib s)
      (fun _ later => preparsedLaw.Accepts later ↔ (itf.Enumerated vid pid → itf.PreparsedFits))
      (past ++ [⟨.hidDGetAttributes (some (.handle n)), itf.attributes⟩]) := by
    by_cases hmatch : MatchesIds vid pid itf.attrib
    · rw [enumerateMatching, if_pos hmatch]
      refine wp_bind_of (wp_hidCapabilities_accepts _ (currentInterface_concat h rfl) hread)
        fun _ later hlater => ?_
      rw [wp_pure]
      exact hlater.trans (imp_iff_right ⟨hopened, hmatch⟩).symm
    · rw [enumerateMatching, if_neg hmatch, wp_pure]
      exact iff_of_true hread fun hkept => absurd hkept.2 hmatch
  apply wp_bind_of hmatching
  intro next later hlater
  rw [wp_ask_bind, wp_pure]
  exact preparsedLaw_settled_close hlater _ _

/-- The calls `hid-enumerate` makes for an interface obey the law exactly if its preparsed data
fits, should it match. -/
theorem enumerateLaw_preparsed (itfs : List Interface) (os : Win32Environment) (vid pid : ℤ) :
    EnumerateLaw preparsedLaw (fun itf => itf.Enumerated vid pid → itf.PreparsedFits) itfs
      os vid pid where
  asksSet e he := preparsedLaw_stays (leavesPreparsed_of_asksSet he) _
  failed itf hfailed hkept := absurd hkept.1.1 hfailed
  refused itf hrefused devdetail past hidle := by
    have hnot : ¬ itf.Enumerated vid pid :=
      fun hkept => Bool.false_ne_true (hrefused.symm.trans hkept.1.2)
    exact Monitor.settled_of_idle (preparsedLaw_accepts_concat trivial hidle) fun hkept =>
      absurd hkept hnot
  opened itf hopened devdetail n s past hcurrent hidle := by
    have hprobed :=
      preparsedLaw_accepts_concat (e := ⟨probeCall devdetail, Handle.handle n⟩) trivial hidle
    exact wp_enumerateOpened_settled devdetail n s hopened hcurrent hprobed

/-- Preparsed data is inspected and freed once by the address stored, before the handle is closed,
exactly when the preparsed data of every interface that reaches this step fits: in `hid-enumerate`
of those that open and match, in `hid-find-devices` of those looked at that open. -/
theorem preparsedData_freed_iff (itfs : List Interface) (os : Win32Environment) (vid pid : ℤ)
    (fuel : ℕ) (hfuel : itfs.length < fuel) :
    (preparsedLaw.Accepts (exec (answering itfs os) [] (hidEnumerate fuel vid pid)).2 ↔
        ∀ itf ∈ itfs, itf.Enumerated vid pid → itf.PreparsedFits) ∧
      (preparsedLaw.Accepts (exec (answering itfs os) [] (hidFindDevices fuel)).2 ↔
        ∀ itf ∈ scanned itfs, itf.Opened → itf.PreparsedFits) := by
  constructor
  · exact hidEnumerate_accepts_iff (enumerateLaw_preparsed itfs os vid pid) fuel hfuel
  · rw [hidFindDevices_accepts_iff (findLaw_preparsed itfs os) fuel hfuel]
    exact and_iff_left fun _ => trivial

/-- An interface with a low address and one without preparsed data. -/
theorem preparsedData_freed_two :
    preparsedLaw.Accepts (exec (answering [vendorInterface "a",
        { vendorInterface "b" with preparsed := ⟨0, 0⟩ }]
        (steadyOs (.handle 4) ⟨1, 0⟩ ⟨1, 0⟩ ⟨1, 0⟩ ⟨1, 0⟩ ⟨1, 0⟩)) [] (hidEnumerate 3 0 0)).2 ∧
      preparsedLaw.Accepts (exec (answering [vendorInterface "a",
        { vendorInterface "b" with preparsed := ⟨0, 0⟩ }]
        (steadyOs (.handle 4) ⟨1, 0⟩ ⟨1, 0⟩ ⟨1, 0⟩ ⟨1, 0⟩ ⟨1, 0⟩)) [] (hidFindDevices 3)).2 := by
  have hboth := preparsedData_freed_iff [vendorInterface "a",
    { vendorInterface "b" with preparsed := ⟨0, 0⟩ }]
    (steadyOs (.handle 4) ⟨1, 0⟩ ⟨1, 0⟩ ⟨1, 0⟩ ⟨1, 0⟩ ⟨1, 0⟩) 0 0 3 (by decide)
  exact ⟨hboth.1.mpr (by decide), hboth.2.mpr (by decide)⟩

/-- An address above four gigabytes is passed on without its upper half. -/
theorem preparsedData_truncated :
    ¬ preparsedLaw.Accepts (exec (answering
        [{ vendorInterface "a" with preparsed := ⟨1, 0x100000010⟩ }]
        (steadyOs (.handle 4) ⟨1, 0⟩ ⟨1, 0⟩ ⟨1, 0⟩ ⟨1, 0⟩ ⟨1, 0⟩)) [] (hidEnumerate 2 0 0)).2 ∧
      ¬ preparsedLaw.Accepts (exec (answering
        [{ vendorInterface "a" with preparsed := ⟨1, 0x100000010⟩ }]
        (steadyOs (.handle 4) ⟨1, 0⟩ ⟨1, 0⟩ ⟨1, 0⟩ ⟨1, 0⟩ ⟨1, 0⟩)) [] (hidFindDevices 2)).2 := by
  decide

end FactorUsb.Hid
