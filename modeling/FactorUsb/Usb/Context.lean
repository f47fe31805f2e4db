import FactorUsb.Calls.Monitor
import FactorUsb.Usb.Words

/-!
# The default context of libusb

libusb counts the references to its default context: a successful `libusb_init` takes one and
`libusb_exit` gives one back. Without one the context may neither be used nor left.

A caller may call the words in any order and may go on using the tuples that `<tusb>` returned.
These have been disposed of already, so what is initialised on one of them later is never given
back: `dispose` does nothing to it any more. The words that initialise libusb themselves leave it
whether or not it was initialised, and `usb-start` does not leave it when it throws.
-/

namespace FactorUsb.Usb

open FactorUsb.Calls

/-- The call works on the default context. -/
def usesContext : LibusbCall → Bool
  | .libusbOpenDeviceWithVidPid .. | .libusbGetDeviceList => true
  | _ => false

/-- The law of the default context. The state is the number of references held. -/
def contextLaw : Monitor LibusbEvent ℕ where
  idle := 0
  step refs e :=
    match e with
    | ⟨.libusbInit, result⟩ => some (if result = libusbSuccess then refs + 1 else refs)
    | ⟨.libusbExit, _⟩ => if refs = 0 then none else some (refs - 1)
    | ⟨c, _⟩ => if usesContext c ∧ refs = 0 then none else some refs

/-- The call starts with a successful `libusb_init`. -/
def Initialises (step : UsbStep) : Prop := step.events.head? = some ⟨.libusbInit, libusbSuccess⟩

/-- The outcome of `libusb_get_device_list`. -/
def listReply : LibusbEvent → Option DeviceListReply
  | ⟨.libusbGetDeviceList, reply⟩ => some reply
  | _ => none

/-- A word that initialises libusb succeeds in it, and `usb-start` counts the devices. The other
words that touch the context are called on no tuple, or fail to initialise libusb. -/
def ContextCondition (step : UsbStep) : Prop :=
  match step.op with
  | .usbStart => Initialises step ∧ ∀ e ∈ step.events, ∀ reply ∈ listReply e, 0 ≤ reply.result
  | .usbTest | .makeTusb => Initialises step
  | .tusbInit index => step.before[index]? = none ∨ ¬ Initialises step
  | .tusbDevlist index => step.before[index]? = none
  | .tusbDevsClose _ | .dispose _ => True

/-- After the call the context has been used and left only while it was referenced,
and no reference is left. -/
def ContextBalanced (step : UsbStep) : Prop := contextLaw.Accepts step.history

/-- No reference is held, and every tuple a caller holds was disposed of. -/
structure ContextInvariant (past : List LibusbEvent) (tusbs : List Tusb) : Prop where
  idle : contextLaw.after past = some 0
  disposed : ∀ tusb ∈ tusbs, tusb.disposed = true

variable {env : LibusbEnvironment} {past : List LibusbEvent} {tusbs : List Tusb}
  {tusb : Tusb} {refs : ℕ}

/-- A successful initialisation takes a reference. -/
theorem contextLaw_after_init (h : contextLaw.after past = some refs) (result : ℤ) :
    contextLaw.after (past ++ [⟨.libusbInit, result⟩]) =
      some (if result = libusbSuccess then refs + 1 else refs) := by
  rw [Monitor.after_concat, h]
  rfl

/-- Leaving libusb gives a reference back, and breaks the law if there is none. -/
theorem contextLaw_after_exit (h : contextLaw.after past = some refs) (reply : Unit) :
    contextLaw.after (past ++ [⟨.libusbExit, reply⟩]) = if refs = 0 then none
      else some (refs - 1) := by
  rw [Monitor.after_concat, h]
  rfl

/-- A call that neither takes nor gives back a reference. -/
def KeepsContext : LibusbCall → Prop
  | .libusbInit | .libusbExit => False
  | _ => True

/-- While a reference is held, the other calls are allowed and keep it. -/
theorem contextLaw_stays {c : LibusbCall} (hc : KeepsContext c) (reply : LibusbReply c) :
    contextLaw.step (refs + 1) ⟨c, reply⟩ = some (refs + 1) := by
  cases c with
  | libusbInit => exact hc.elim
  | libusbExit => exact hc.elim
  | _ => simp [contextLaw]

/-- Work on a device keeps the context. -/
theorem WorksOn.keepsContext {dev : Device} {c : LibusbCall} (h : WorksOn dev c) :
    KeepsContext c := by
  cases c with
  | libusbInit => exact h
  | libusbExit => exact h
  | _ => trivial

/-- Calls that keep the context and a last `libusb_exit` give back the reference of a successful
`libusb_init`. -/
theorem contextLaw_accepts_used {events : List LibusbEvent} (h : contextLaw.after past = some 0)
    (hevents : ∀ e ∈ events, KeepsContext e.1) :
    contextLaw.Accepts (past ++ ⟨.libusbInit, libusbSuccess⟩ ::
      (events ++ [⟨.libusbExit, ()⟩])) := by
  have hinit := contextLaw_after_init h libusbSuccess
  rw [if_pos rfl] at hinit
  rw [List.append_cons, ← List.append_assoc]
  have hkept : contextLaw.after (past ++ [⟨.libusbInit, libusbSuccess⟩] ++ events) = some 1 :=
    Monitor.after_append_of_stays hinit fun e he => contextLaw_stays (hevents e he) e.2
  exact contextLaw_after_exit hkept ()

/-- Counting the devices needs a reference. -/
theorem contextLaw_after_list (h : contextLaw.after past = some 0) (reply : DeviceListReply) :
    contextLaw.after (past ++ [⟨.libusbGetDeviceList, reply⟩]) = none := by
  rw [Monitor.after_concat, h]
  rfl

/-- Initialising libusb and counting the devices leaves a reference, or breaks the law. -/
theorem contextLaw_after_counted (h : contextLaw.after past = some 0) (init : ℤ)
    (reply : DeviceListReply) :
    contextLaw.after (past ++ [⟨.libusbInit, init⟩] ++ [⟨.libusbGetDeviceList, reply⟩]) =
      if init = libusbSuccess then some 1 else none := by
  have hinit := contextLaw_after_init h init
  split_ifs with hsuccess
  · rw [if_pos hsuccess] at hinit
    rw [Monitor.after_concat, hinit]
    rfl
  · rw [if_neg hsuccess] at hinit
    exact contextLaw_after_list hinit reply

/-- Calls that keep the context and a last `libusb_exit` give back the one
reference that is left. -/
theorem contextLaw_accepts_left {events : List LibusbEvent} {init : ℤ} {reply : DeviceListReply}
    (h : contextLaw.after past = some 0) (hevents : ∀ e ∈ events, KeepsContext e.1) :
    contextLaw.Accepts (past ++ ⟨.libusbInit, init⟩ :: ⟨.libusbGetDeviceList, reply⟩ ::
      (events ++ [⟨.libusbExit, ()⟩])) ↔ init = libusbSuccess := by
  by_cases hsuccess : init = libusbSuccess
  · refine iff_of_true ?_ hsuccess
    rw [hsuccess, ← List.cons_append]
    exact contextLaw_accepts_used h (List.forall_mem_cons.mpr ⟨trivial, hevents⟩)
  · refine iff_of_false (Monitor.not_accepts_of_none ?_) hsuccess
    have hcounted := contextLaw_after_counted h init reply
    rw [if_neg hsuccess] at hcounted
    rw [List.append_cons, List.append_cons]
    exact Monitor.after_append_of_none hcounted _

/-- The calls of `usb-start`, which go on after the count only if it is not negative. -/
theorem exec_usbStart (env : LibusbEnvironment) (past : List LibusbEvent) :
    ∃ (init : ℤ) (reply : DeviceListReply), (exec env past usbStart).2 =
      ⟨.libusbInit, init⟩ :: ⟨.libusbGetDeviceList, reply⟩ ::
        if reply.result < 0 then []
        else [⟨.memoryToByteArray (intDerefAlien reply.list) (reply.result * cell), ()⟩] ++
          [⟨.libusbExit, ()⟩] := by
  let init : LibusbEvent := ⟨.libusbInit, env past .libusbInit⟩
  let reply : DeviceListReply := env (past ++ [init]) .libusbGetDeviceList
  have hsign : reply.result * cell < 0 ↔ reply.result < 0 := by
    rw [cell]
    omega
  refine ⟨init.2, reply, ?_⟩
  unfold usbStart readDeviceList readByteArray
  by_cases hresult : reply.result < 0 <;>
    simp [Value.isTrue, init, reply, hsign, hresult, exitAfter]

/-- The calls of `<tusb>`, which frees a list unless no device was counted. -/
theorem exec_makeTusb (env : LibusbEnvironment) (past : List LibusbEvent) :
    ∃ (init : ℤ) (reply : DeviceListReply),
      (exec env past makeTusb).2 = ⟨.libusbInit, init⟩ :: ⟨.libusbGetDeviceList, reply⟩ ::
        (if reply.result = 0 then [] else [⟨.libusbFreeDeviceList .byteArray 1, ()⟩]) ++
          [⟨.libusbExit, ()⟩] := by
  let init : LibusbEvent := ⟨.libusbInit, env past .libusbInit⟩
  let reply : DeviceListReply := env (past ++ [init]) .libusbGetDeviceList
  refine ⟨init.2, reply, ?_⟩
  unfold makeTusb tusbInit tusbDevlist dispose disposeStar tusbDevsClose
  by_cases hresult : reply.result = 0 <;> simp [init, reply, hresult, newTusb]

/-- A call starts with a successful `libusb_init` if its first call is one that succeeds. -/
theorem head_init_iff (init : ℤ) (events : List LibusbEvent) :
    (⟨.libusbInit, init⟩ :: events : List LibusbEvent).head? = some ⟨.libusbInit, libusbSuccess⟩ ↔
      init = libusbSuccess := by
  simp

/-- `usb-start` is balanced exactly if it initialises libusb and counts the devices. -/
theorem usbStart_balanced_iff (h : contextLaw.after past = some 0) :
    contextLaw.Accepts (past ++ (exec env past usbStart).2) ↔
      (exec env past usbStart).2.head? = some ⟨.libusbInit, libusbSuccess⟩ ∧
        ∀ e ∈ (exec env past usbStart).2, ∀ reply ∈ listReply e, 0 ≤ reply.result := by
  obtain ⟨init, reply, hevents⟩ := exec_usbStart env past
  rw [hevents, head_init_iff]
  split_ifs with hresult
  · refine iff_of_false (fun haccepts => ?_) fun hboth => ?_
    · have hcounted := contextLaw_after_counted h init reply
      rw [List.append_cons, List.append_cons, List.append_nil, Monitor.Accepts,
        hcounted] at haccepts
      split_ifs at haccepts
      cases haccepts
    · exact absurd (hboth.2 ⟨.libusbGetDeviceList, reply⟩ (by simp) reply rfl)
        (Int.not_le.mpr hresult)
  · rw [contextLaw_accepts_left h (by simp [KeepsContext])]
    refine (and_iff_left ?_).symm
    simp [listReply, Int.not_lt.mp hresult]

/-- `<tusb>` is balanced exactly if it initialises libusb. -/
theorem makeTusb_balanced_iff (h : contextLaw.after past = some 0) :
    contextLaw.Accepts (past ++ (exec env past makeTusb).2) ↔
      (exec env past makeTusb).2.head? = some ⟨.libusbInit, libusbSuccess⟩ := by
  obtain ⟨init, reply, hevents⟩ := exec_makeTusb env past
  rw [hevents, List.cons_append, head_init_iff, List.cons_append]
  apply contextLaw_accepts_left h
  split_ifs <;> simp [KeepsContext]

/-- `usb-test` is balanced exactly if it initialises libusb. -/
theorem usbTest_balanced_iff (h : contextLaw.after past = some 0) :
    contextLaw.Accepts (past ++ (exec env past usbTest).2) ↔
      (exec env past usbTest).2.head? = some ⟨.libusbInit, libusbSuccess⟩ := by
  have houtcome := usbTest_outcome env past
  generalize (exec env past usbTest).2 = events at houtcome
  cases houtcome with
  | refused init hinit =>
    rw [head_init_iff]
    refine iff_of_false (Monitor.not_accepts_of_none ?_) hinit
    have hrefused := contextLaw_after_init h init
    rw [if_neg hinit] at hrefused
    rw [List.append_cons, contextLaw_after_exit hrefused]
    rfl
  | missing =>
    have hkept : ∀ e ∈ [openEvent none, ⟨.libusbClose none, ()⟩], KeepsContext e.1 := by
      simp [openEvent, KeepsContext]
    exact iff_of_true (contextLaw_accepts_used h hkept) rfl
  | used dev events hevents hrun =>
    refine iff_of_true ?_ rfl
    have hkept : ∀ e ∈ openEvent (some dev) :: (events ++ [⟨.libusbClose (some dev), ()⟩]),
        KeepsContext e.1 := by
      rw [List.forall_mem_cons, List.forall_mem_append, List.forall_mem_singleton]
      exact ⟨trivial, fun e he => (hevents e he).keepsContext, trivial⟩
    have haccepts := contextLaw_accepts_used h hkept
    rwa [List.cons_append, List.append_assoc] at haccepts

/-- `tusb-init` on a tuple leaves a reference behind exactly if it initialises libusb. -/
theorem tusbInit_balanced_iff (h : contextLaw.after past = some 0) (tusb : Tusb) :
    contextLaw.Accepts (past ++ (exec env past (tusbInit tusb)).2) ↔
      ¬ (exec env past (tusbInit tusb)).2.head? = some ⟨.libusbInit, libusbSuccess⟩ := by
  have hevents : (exec env past (tusbInit tusb)).2 = [⟨.libusbInit, env past .libusbInit⟩] := by
    unfold tusbInit
    simp
  rw [hevents, head_init_iff, Monitor.Accepts, contextLaw_after_init h]
  split_ifs with hsuccess
  · exact iff_of_false (fun hone => Nat.succ_ne_zero 0 (Option.some.inj hone))
      (not_not.mpr hsuccess)
  · exact iff_of_true rfl hsuccess

/-- `tusb-devlist` on a tuple works on a context that is not there. -/
theorem tusbDevlist_not_balanced (h : contextLaw.after past = some 0) (tusb : Tusb) :
    ¬ contextLaw.Accepts (past ++ (exec env past (tusbDevlist tusb)).2) := by
  have hevents : (exec env past (tusbDevlist tusb)).2 =
      [⟨.libusbGetDeviceList, env past .libusbGetDeviceList⟩] := by
    unfold tusbDevlist
    simp
  rw [hevents]
  exact Monitor.not_accepts_of_none (contextLaw_after_list h _)

/-- `tusb-devs-close` leaves the context alone. -/
theorem tusbDevsClose_balanced (h : contextLaw.after past = some 0) (tusb : Tusb) :
    contextLaw.Accepts (past ++ (exec env past (tusbDevsClose tusb)).2) := by
  apply Monitor.after_append_of_stays h
  intro e he
  unfold tusbDevsClose at he
  split_ifs at he
  · rw [List.mem_singleton.mp he]
    rfl
  · cases he

/-- A tuple that was disposed of is not disposed of again. -/
theorem exec_dispose_of_disposed (h : tusb.disposed = true) :
    exec env past (dispose tusb) = (tusb, []) := by
  unfold dispose
  rw [if_pos h]
  rfl

/-- A call of a word is balanced exactly if it meets the condition. -/
theorem context_balanced_iff (hinv : ContextInvariant past tusbs) (op : UsbOp) :
    ContextBalanced (callStep env usbWord past tusbs op) ↔
      ContextCondition (callStep env usbWord past tusbs op) := by
  have hnothing : contextLaw.Accepts (past ++ []) := by
    rw [List.append_nil]
    exact hinv.idle
  unfold ContextBalanced ContextCondition Initialises CallStep.history callStep
  cases op with
  | usbStart =>
    simp only [usbWord, exec_bind, exec_pure, List.append_nil]
    exact usbStart_balanced_iff hinv.idle
  | usbTest =>
    simp only [usbWord, exec_bind, exec_pure, List.append_nil]
    exact usbTest_balanced_iff hinv.idle
  | makeTusb =>
    simp only [usbWord, exec_bind, exec_pure, List.append_nil]
    exact makeTusb_balanced_iff hinv.idle
  | tusbInit index =>
    cases htusb : tusbs[index]? with
    | none =>
      simp only [usbWord, exec_onTusb_none htusb]
      exact iff_of_true hnothing (Or.inl htusb)
    | some tusb =>
      simp only [usbWord, exec_onTusb_some htusb, exec_bind, exec_pure, List.append_nil, htusb]
      rw [or_iff_right (Option.some_ne_none tusb)]
      exact tusbInit_balanced_iff hinv.idle tusb
  | tusbDevlist index =>
    cases htusb : tusbs[index]? with
    | none =>
      simp only [usbWord, exec_onTusb_none htusb]
      exact iff_of_true hnothing htusb
    | some tusb =>
      simp only [usbWord, exec_onTusb_some htusb, exec_bind, exec_pure, List.append_nil, htusb]
      exact iff_of_false (tusbDevlist_not_balanced hinv.idle tusb) (Option.some_ne_none tusb)
  | tusbDevsClose index =>
    cases htusb : tusbs[index]? with
    | none =>
      simp only [usbWord, exec_onTusb_none htusb]
      exact iff_of_true hnothing trivial
    | some tusb =>
      simp only [usbWord, exec_onTusb_some htusb, exec_bind, exec_pure, List.append_nil]
      exact iff_of_true (tusbDevsClose_balanced hinv.idle tusb) trivial
  | dispose index =>
    cases htusb : tusbs[index]? with
    | none =>
      simp only [usbWord, exec_onTusb_none htusb]
      exact iff_of_true hnothing trivial
    | some tusb =>
      have hdisposed := hinv.disposed tusb (List.mem_of_getElem? htusb)
      simp only [usbWord, exec_onTusb_some htusb, exec_bind, exec_pure,
        exec_dispose_of_disposed hdisposed]
      exact iff_of_true hnothing trivial

/-- A tuple is replaced by one that was disposed of as well. -/
theorem disposed_set (h : ∀ tusb ∈ tusbs, tusb.disposed = true) (index : ℕ)
    (hdisposed : tusb.disposed = true) :
    ∀ other ∈ tusbs.set index tusb, other.disposed = true := by
  intro other hother
  rcases List.mem_or_eq_of_mem_set hother with hold | hnew
  · exact h other hold
  · rwa [hnew]

/-- A word called on a tuple keeps all of them disposed of if it keeps one. -/
theorem disposed_onTusb (h : ∀ tusb ∈ tusbs, tusb.disposed = true) (index : ℕ)
    {word : Tusb → LibusbProgram (UsbResult × Tusb)}
    (hword : ∀ tusb, tusb.disposed = true → (word tusb).Returns fun out => out.2.disposed = true) :
    (onTusb index tusbs word).Returns fun out => ∀ tusb ∈ out.2, tusb.disposed = true := by
  unfold onTusb
  split
  · exact h
  next tusb htusb =>
    apply returns_bind (hword tusb (h tusb (List.mem_of_getElem? htusb)))
    exact fun out hout => returns_pure (disposed_set h index hout)

/-- `dispose` leaves a tuple disposed of. -/
theorem dispose_returns (tusb : Tusb) :
    (dispose tusb).Returns fun after => after.disposed = true := by
  apply returns_ite
  · exact id
  · intro _
    exact returns_bind (returns_true _) fun _ _ => returns_pure rfl

/-- `<tusb>` returns a tuple that was disposed of. -/
theorem makeTusb_returns : makeTusb.Returns fun tusb => tusb.disposed = true := by
  apply returns_bind (returns_true _)
  intro made _
  exact returns_bind (returns_true _) fun tusb _ => dispose_returns tusb

/-- Every word keeps the tuples a caller holds disposed of. -/
theorem usbWord_returns (h : ∀ tusb ∈ tusbs, tusb.disposed = true) (op : UsbOp) :
    (usbWord op tusbs).Returns fun out => ∀ tusb ∈ out.2, tusb.disposed = true := by
  cases op with
  | usbStart => exact returns_bind (returns_true _) fun _ _ => returns_pure h
  | usbTest => exact returns_bind (returns_true _) fun _ _ => returns_pure h
  | makeTusb =>
    apply returns_bind makeTusb_returns
    intro tusb htusb
    exact returns_pure (List.forall_mem_append.mpr ⟨h, List.forall_mem_singleton.mpr htusb⟩)
  | tusbInit index =>
    apply disposed_onTusb h index
    intro tusb htusb
    exact returns_ask_bind fun _ => returns_pure htusb
  | tusbDevlist index =>
    apply disposed_onTusb h index
    intro tusb htusb
    exact returns_ask_bind fun _ => returns_pure htusb
  | tusbDevsClose index =>
    apply disposed_onTusb h index
    intro tusb htusb
    exact returns_bind (returns_true _) fun _ _ => returns_pure htusb
  | dispose index =>
    apply disposed_onTusb h index
    intro tusb _
    exact returns_bind (dispose_returns tusb) fun _ hafter => returns_pure hafter

/-- In a program that calls the words in any order, whatever libusb answers, the default context is
used and left only while it is referenced, and not referenced any more after any call, exactly when
every call meets the condition. -/
theorem usbRun_balanced_iff (env : LibusbEnvironment) (ops : List UsbOp) :
    (∀ step ∈ usbRun env ops, ContextBalanced step) ↔
      ∀ step ∈ usbRun env ops, ContextCondition step := by
  apply session_forall_iff ContextInvariant
  · exact fun past tusbs op hinv => context_balanced_iff hinv op
  · intro past tusbs op hinv hcondition
    exact ⟨(context_balanced_iff hinv op).mpr hcondition,
      wp_returns (usbWord_returns hinv.disposed op) env past⟩
  · exact ⟨rfl, List.forall_mem_nil _⟩

end FactorUsb.Usb
