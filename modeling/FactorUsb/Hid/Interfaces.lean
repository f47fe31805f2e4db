import FactorUsb.Calls.Wp
import FactorUsb.Hid.Win32

/-!
# The HID interfaces present while a list of them is scanned

An interface is what the system answers about one element of the device information set:
every outcome of every call, the failing ones included. `answering` is the environment in
which a given list of interfaces is present. It enumerates the list in order, and answers
the calls that follow an enumeration from the interface enumerated last. Everything else,
including the values of the handles it gives out, is left to the underlying environment.

The two steps both scanning loops take with an interface, asking for its detail structure
and for its capabilities, are transcribed here once.
-/

namespace FactorUsb.Hid

open FactorUsb.Calls

/-- Everything the system answers about one interface. -/
structure Interface where
  found : { value : ℤ // value ≠ 0 }
  sizing : DetailReply
  detail : DetailReply
  opens : Bool
  attributes : AttributesReply
  preparsed : PreparsedReply
  caps : CapsReply

/-- The number of a handle. -/
def Handle.number : Handle → ℕ
  | .invalidHandleValue => 0
  | .handle n => n

/-- The interface's answer to a call about it, or the given one to any other call. -/
def Interface.answer (itf : Interface) : (c : Win32Call) → Win32Reply c → Win32Reply c
  | .setupDiGetDeviceInterfaceDetail _ _ none _, _ => itf.sizing
  | .setupDiGetDeviceInterfaceDetail _ _ (some _) _, _ => itf.detail
  | .createFile .., handle =>
    if itf.opens then Handle.handle (Handle.number handle) else Handle.invalidHandleValue
  | .hidDGetAttributes _, _ => itf.attributes
  | .hidDGetPreparsedData _, _ => itf.preparsed
  | .hidPGetCaps _, _ => itf.caps
  | _, reply => reply

/-- The index an event enumerates. -/
def enumeratedIndex : Win32Event → Option ℕ
  | ⟨.setupDiEnumDeviceInterfaces _ _ index, _⟩ => some index
  | _ => none

/-- The interface enumerated last, if the index was in range. -/
def currentInterface (itfs : List Interface) (past : List Win32Event) : Option Interface :=
  (past.filterMap enumeratedIndex).getLast?.bind fun index => itfs[index]?

/-- The environment in which exactly the given interfaces are present. -/
def answering (itfs : List Interface) (os : Win32Environment) : Win32Environment := fun past c =>
  match c with
  | .setupDiEnumDeviceInterfaces _ _ index =>
    match itfs[index]? with
    | some itf => ⟨itf.found, index⟩
    | none => ⟨0, 0⟩
  | c =>
    match currentInterface itfs past with
    | some itf => itf.answer c (os past c)
    | none => os past c

/-- The size of `SP_DEVICE_INTERFACE_DETAIL_DATA_W`, stored in its `cbSize` field. -/
def detailDataSize : ℕ := 8

/-- What the second detail query leaves behind. -/
structure QueriedDetail where
  ok : Bool
  devdetail : DevDetail
  sz : ℕ
  length : ℕ

/-- Ask for the needed length, allocate the detail structure and have it filled in. -/
def queryDetail (devinfo devdata length : ℕ) : Win32Program QueriedDetail := do
  let sizing ← win32Call (.setupDiGetDeviceInterfaceDetail devinfo devdata none 0)
  let length := sizing.length.getD length
  let devdetail : DevDetail := ⟨length, detailDataSize, ""⟩
  let sz := length
  let reply ← win32Call (.setupDiGetDeviceInterfaceDetail devinfo devdata (some devdetail) sz)
  pure ⟨reply.value = 1, { devdetail with devicePath := reply.devicePath }, sz,
    reply.length.getD length⟩

/-- The pointer read from the buffer's first `DWORD`. -/
def preparsedPointer (preparsedData : BitVec 64) : BitVec 64 :=
  (preparsedData.setWidth 32).setWidth 64

/-- Get the capabilities behind a handle, freeing the preparsed data if that succeeds. -/
def hidCapabilities (devhandle : Handle) : Win32Program (Option HidpCaps) := do
  let preparsed ← win32Call (.hidDGetPreparsedData (some devhandle))
  if preparsed.value = 1 then
    let caps ← win32Call (.hidPGetCaps (preparsedPointer preparsed.preparsedData))
    if caps.status = hidpStatusSuccess then
      let _ ← win32Call (.hidDFreePreparsedData (preparsedPointer preparsed.preparsedData))
      pure (some caps.capabilities)
    else pure none
  else pure none

/-- The capabilities of an interface, if both steps towards them succeed. -/
def Interface.capabilities (itf : Interface) : Option HidpCaps :=
  if itf.preparsed.value = 1 ∧ itf.caps.status = hidpStatusSuccess then some itf.caps.capabilities
  else none

/-- The length the sizing call leaves in the cell that held the given one. -/
def Interface.neededLength (itf : Interface) (length : ℕ) : ℕ := itf.sizing.length.getD length

/-- What both queries leave in the length cell. -/
def Interface.lengthAfter (itf : Interface) (length : ℕ) : ℕ :=
  itf.detail.length.getD (itf.neededLength length)

/-- The filled-in detail structure of an interface. -/
def Interface.devdetail (itf : Interface) (sz : ℕ) : DevDetail :=
  ⟨sz, detailDataSize, itf.detail.devicePath⟩

/-- The `CreateFile` call of both scanning loops, which asks for no access. -/
abbrev probeCall (devdetail : DevDetail) : Win32Call :=
  .createFile devdetail.devicePath 0 (fileShareRead ||| fileShareWrite) openExisting 0

/-- Scanning one more element appends its record, numbered by the records
before it, if it is kept. -/
theorem filter_mapIdx_concat {A B : Type*} (keep : A → Prop) [DecidablePred keep]
    (record : ℕ → A → B) (scanned : List A) (a : A) :
    ((scanned ++ [a]).filter (keep ·)).mapIdx record =
      (scanned.filter (keep ·)).mapIdx record ++
        if keep a then [record ((scanned.filter (keep ·)).mapIdx record).length a] else [] := by
  by_cases h : keep a
  · rw [if_pos h, List.filter_append, List.filter_singleton, List.mapIdx_append]
    simp [h]
  · rw [if_neg h, List.filter_append, List.filter_singleton]
    simp [h]

/-- The iterations a scanning loop still has to make: one for each interface
left and one to leave. -/
def iterationsLeft (itfs : List Interface) (index : ℕ) (exit : Bool) : ℕ :=
  if exit then 0 else itfs.length + 1 - index

/-- Leaving the loop ends the iterations. -/
theorem iterationsLeft_exit (itfs : List Interface) {index : ℕ} {exit : Bool} (next : ℕ)
    (h : index ≤ itfs.length) (hexit : exit = false) :
    iterationsLeft itfs next true < iterationsLeft itfs index exit := by
  rw [hexit, iterationsLeft, iterationsLeft, if_pos rfl, if_neg Bool.false_ne_true]
  omega

/-- Going on to the next interface leaves one iteration less. -/
theorem iterationsLeft_next (itfs : List Interface) {index next : ℕ} {exit exit' : Bool}
    (h : index < itfs.length) (hnext : next = index) (hexit : exit = false)
    (hexit' : exit' = false) :
    iterationsLeft itfs (next + 1) exit' < iterationsLeft itfs index exit := by
  rw [hnext, hexit, hexit', iterationsLeft, iterationsLeft, if_neg Bool.false_ne_true,
    if_neg Bool.false_ne_true]
  omega

/-- A well-behaved interface of the vendor page, with 65-byte reports. -/
def vendorInterface (devicePath : DevicePath) : Interface where
  found := ⟨1, by decide⟩
  sizing := ⟨0, some 8, ""⟩
  detail := ⟨1, none, devicePath⟩
  opens := true
  attributes := ⟨1, some ⟨1240, 63⟩⟩
  preparsed := ⟨1, 16⟩
  caps := ⟨hidpStatusSuccess, ⟨0xFF00, 0x0001, 65, 65, 0⟩⟩

/-- A vendor interface, one that cannot be opened, one of another product and usage, and a vendor
interface with shorter reports. -/
def fourInterfaces : List Interface :=
  [vendorInterface "a", { vendorInterface "b" with opens := false },
    { vendorInterface "c" with
      attributes := ⟨1, some ⟨1240, 0⟩⟩
      caps := ⟨hidpStatusSuccess, ⟨1, 2, 4, 0, 0⟩⟩ },
    { vendorInterface "d" with caps := ⟨hidpStatusSuccess, ⟨0xFF00, 0x0001, 3, 5, 0⟩⟩ }]

variable {itfs : List Interface} {os : Win32Environment} {past : List Win32Event} {itf : Interface}

/-- After an enumeration the interface of its index is the current one. -/
@[simp] theorem currentInterface_enumerated (devinfo hidguid index : ℕ) (reply : EnumReply) :
    currentInterface itfs (past ++ [⟨.setupDiEnumDeviceInterfaces devinfo hidguid index, reply⟩]) =
      itfs[index]? := by
  simp [currentInterface, enumeratedIndex]

/-- Events that enumerate nothing leave the current interface in place. -/
@[simp] theorem currentInterface_quiet {events : List Win32Event}
    (h : ∀ e ∈ events, enumeratedIndex e = none) :
    currentInterface itfs (past ++ events) = currentInterface itfs past := by
  rw [currentInterface, List.filterMap_append, List.filterMap_eq_nil_iff.mpr h, List.append_nil]
  rfl

/-- An index in range is found. -/
theorem answering_enum_some (devinfo hidguid index : ℕ) (h : itfs[index]? = some itf) :
    answering itfs os past (.setupDiEnumDeviceInterfaces devinfo hidguid index) =
      (⟨itf.found, index⟩ : EnumReply) := by
  simp [answering, h]

/-- An index past the end of the list is not found. -/
theorem answering_enum_none (devinfo hidguid index : ℕ) (h : itfs[index]? = none) :
    answering itfs os past (.setupDiEnumDeviceInterfaces devinfo hidguid index) =
      (⟨0, 0⟩ : EnumReply) := by
  simp [answering, h]

/-- Asking for the element of an index finds the interface of that index, which is then the current
one, or fails past the end of the list. -/
theorem wp_enumInterface {A : Type} {devinfo hidguid index : ℕ} {next : EnumReply → Win32Program A}
    {post : A → List Win32Event → Prop}
    (hend : itfs.length ≤ index →
      wp (answering itfs os) (next ⟨0, 0⟩) post
        (past ++ [⟨.setupDiEnumDeviceInterfaces devinfo hidguid index, (⟨0, 0⟩ : EnumReply)⟩]))
    (hfound : ∀ itf : Interface, itfs[index]? = some itf → ∀ later,
      later = past ++
        [⟨.setupDiEnumDeviceInterfaces devinfo hidguid index, (⟨itf.found, index⟩ : EnumReply)⟩] →
      currentInterface itfs later = some itf →
      wp (answering itfs os) (next ⟨itf.found, index⟩) post later) :
    wp (answering itfs os) (win32Call (.setupDiEnumDeviceInterfaces devinfo hidguid index) >>= next)
      post past := by
  rw [wp_ask_bind]
  cases hindex : itfs[index]? with
  | none =>
    rw [answering_enum_none _ _ _ hindex]
    exact hend (List.getElem?_eq_none_iff.mp hindex)
  | some itf =>
    rw [answering_enum_some _ _ _ hindex]
    apply hfound itf hindex _ rfl
    rw [currentInterface_enumerated, hindex]

/-- Any other call is answered by the current interface. -/
theorem answering_current {c : Win32Call} (h : currentInterface itfs past = some itf)
    (hc : ∀ reply, enumeratedIndex ⟨c, reply⟩ = none) :
    answering itfs os past c = itf.answer c (os past c) := by
  cases c with
  | setupDiEnumDeviceInterfaces devinfo hidguid index => cases hc ⟨0, 0⟩
  | _ => simp only [answering, h]

/-- Any other call leaves the current interface in place. -/
theorem currentInterface_concat {e : Win32Event} (h : currentInterface itfs past = some itf)
    (he : enumeratedIndex e = none) : currentInterface itfs (past ++ [e]) = some itf := by
  rw [currentInterface_quiet (by simpa using he), h]

/-- Any other call is answered by the current interface, which stays current. -/
theorem wp_current {A : Type} {c : Win32Call} {next : Win32Reply c → Win32Program A}
    {post : A → List Win32Event → Prop} (h : currentInterface itfs past = some itf)
    (hc : ∀ reply, enumeratedIndex ⟨c, reply⟩ = none)
    (hnext : ∀ later, currentInterface itfs later = some itf →
      wp (answering itfs os) (next (itf.answer c (os past c))) post later) :
    wp (answering itfs os) (ask c >>= next) post past := by
  rw [wp_ask_bind, answering_current h hc]
  exact hnext _ (currentInterface_concat h (hc _))

/-- Probing the current interface gives a valid handle exactly if it opens. -/
theorem wp_probe {A : Type} {devdetail : DevDetail} {next : Handle → Win32Program A}
    {post : A → List Win32Event → Prop} (h : currentInterface itfs past = some itf)
    (hopens : itf.opens = true →
      ∀ n, currentInterface itfs (past ++ [⟨probeCall devdetail, Handle.handle n⟩]) = some itf → wp
      (answering itfs os) (next (.handle n)) post
      (past ++ [⟨probeCall devdetail, Handle.handle n⟩]))
    (hrefused : itf.opens = false →
      currentInterface itfs (past ++ [⟨probeCall devdetail, Handle.invalidHandleValue⟩]) =
      some itf → wp (answering itfs os) (next .invalidHandleValue) post
      (past ++ [⟨probeCall devdetail, Handle.invalidHandleValue⟩])) :
    wp (answering itfs os) (win32Call (probeCall devdetail) >>= next) post past := by
  rw [wp_ask_bind, answering_current h fun _ => rfl]
  have hcurrent (handle : Handle) :
      currentInterface itfs (past ++ [⟨probeCall devdetail, handle⟩]) = some itf :=
    currentInterface_concat h rfl
  change wp _ (next (if itf.opens = true then _ else _)) _
    (past ++ [⟨probeCall devdetail, if itf.opens = true then _ else _⟩])
  cases ho : itf.opens with
  | true => exact hopens ho _ (hcurrent _)
  | false => exact hrefused ho (hcurrent _)

/-- The detail query fills the structure with the current interface's path,
in the length it needs. -/
theorem wp_queryDetail (devinfo devdata length : ℕ) (h : currentInterface itfs past = some itf) :
    wp (answering itfs os) (queryDetail devinfo devdata length)
      (fun queried later =>
        queried = ⟨itf.detail.value = 1, itf.devdetail (itf.neededLength length),
            itf.neededLength length, itf.lengthAfter length⟩ ∧
          currentInterface itfs later = some itf) past := by
  unfold queryDetail
  apply wp_current h (fun _ => rfl)
  intro later hlater
  apply wp_current hlater (fun _ => rfl)
  intro last hlast
  rw [wp_pure]
  exact ⟨rfl, hlast⟩

/-- The capability steps find the current interface's capabilities. -/
theorem wp_hidCapabilities (devhandle : Handle) (h : currentInterface itfs past = some itf) :
    wp (answering itfs os) (hidCapabilities devhandle)
      (fun capabilities later => capabilities = itf.capabilities ∧
        currentInterface itfs later = some itf) past := by
  unfold hidCapabilities Interface.capabilities
  apply wp_current h (fun _ => rfl)
  intro later hlater
  change wp _ (if itf.preparsed.value = 1 then _ else _) _ _
  by_cases hpreparsed : itf.preparsed.value = 1
  · rw [if_pos hpreparsed]
    apply wp_current hlater (fun _ => rfl)
    intro last hlast
    change wp _ (if itf.caps.status = hidpStatusSuccess then _ else _) _ _
    by_cases hcaps : itf.caps.status = hidpStatusSuccess
    · rw [if_pos hcaps, if_pos ⟨hpreparsed, hcaps⟩]
      apply wp_current hlast (fun _ => rfl)
      intro freed hfreed
      rw [wp_pure]
      exact ⟨rfl, hfreed⟩
    · rw [if_neg hcaps, if_neg fun hboth => hcaps hboth.2, wp_pure]
      exact ⟨rfl, hlast⟩
  · rw [if_neg hpreparsed, if_neg fun hboth => hpreparsed hboth.1, wp_pure]
    exact ⟨rfl, hlater⟩

end FactorUsb.Hid
