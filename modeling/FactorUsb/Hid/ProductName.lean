import FactorUsb.Calls.Joint
import FactorUsb.Hid.Enumerate
import FactorUsb.Hid.ReportBuffers
import FactorUsb.Utf16

/-!
# The product name of a device

`hid-get-name` opens a device from the path in its record, asks for the product string and
closes the handle again. `HidD_GetProductString` is the one Win32 function the other words do not
call, so the word is a program over two interfaces.

The function itself belongs to the system. It is assumed that a success stores the whole name of
the device, which then fits the buffer with its terminator; the function may fail for any reason.
The buffer has 128 bytes where the `WCHAR wbuf[128]` of the comment has room for 128 code units, so
no name of 64 code units or more is ever returned.
-/

namespace FactorUsb.Hid

open FactorUsb.Calls

/-- `HidD_GetProductString` on a handle, with the length of the buffer in bytes. -/
structure ProductCall where
  handle : Option Handle
  byteLength : ℕ
  deriving DecidableEq

/-- The outcome of `HidD_GetProductString`, with the code units found from the
start of the buffer on. -/
structure ProductReply where
  value : ℤ
  wbuf : List (BitVec 16)
  deriving Inhabited

/-- The replies to the two interfaces. -/
abbrev HidEvent := JointEvent Win32Reply fun _ : ProductCall => ProductReply

/-- A strategy for the Win32 functions and the product string. -/
abbrev HidEnvironment := JointEnvironment Win32Reply fun _ : ProductCall => ProductReply

/-- A program that may ask for product strings. -/
abbrev HidProgram := JointTree Win32Reply fun _ : ProductCall => ProductReply

/-- The Win32 functions behave as they do without product strings. -/
def hidSystem (os : HidEnvironment) : HidEnvironment := fun past c =>
  match c with
  | .inl c => win32 (fun _ c => os past (.inl c)) (ownEvents past) c
  | .inr c => os past (.inr c)

/-- The length of `wbuf` in bytes. -/
def wbufByteLength : ℕ := 128

/-- The `CreateFile` call of `hid-get-name`, which asks for no access. A path of `f` is
written as an empty one. -/
abbrev nameCall (device : HidDeviceInfo) : Win32Call :=
  .createFile (device.path.getD "") 0 (fileShareRead ||| fileShareWrite) openExisting 0

/-- What opening the device for its name gives. -/
def nameHandle (os : HidEnvironment) (past : List HidEvent) (device : HidDeviceInfo) : Handle :=
  os past (.inl (nameCall device))

/-- Call one Win32 function next to product strings. -/
def systemCall (c : Win32Call) : HidProgram (Win32Reply c) := .call (.inl c) .pure

/-- Ask for a product string. -/
def productCall (handle : Handle) (byteLength : ℕ) : HidProgram ProductReply :=
  .call (.inr ⟨some handle, byteLength⟩) .pure

/-- `hid-get-name`, whose argument is `none` where it is no `hid-device-info`. -/
def hidGetName (device : Option HidDeviceInfo) : HidProgram (Option String) :=
  match device with
  | none => pure none
  | some device => do
    let devhandle : Handle ← systemCall (nameCall device)
    if devhandle ≠ .invalidHandleValue then
      let reply ← productCall devhandle wbufByteLength
      let flag := if reply.value = 0 then none
        else some (String.ofList (Utf16.readString reply.wbuf))
      let _ ← systemCall (.closeHandle (some devhandle))
      pure flag
    else pure none

/-- A program that starts with a Win32 call goes on from its answer. -/
theorem exec_systemCall_bind {A : Type} (env : HidEnvironment) (past : List HidEvent)
    (c : Win32Call) (next : Win32Reply c → HidProgram A) :
    exec env past (systemCall c >>= next) =
      ((exec env (past ++ [⟨.inl c, env past (.inl c)⟩]) (next (env past (.inl c)))).1,
        ⟨.inl c, env past (.inl c)⟩ ::
          (exec env (past ++ [⟨.inl c, env past (.inl c)⟩]) (next (env past (.inl c)))).2) := rfl

/-- The complete executions of `hid-get-name`. -/
inductive HidGetNameOutcome (os : HidEnvironment) (past : List HidEvent)
    (device : Option HidDeviceInfo) :
    Option String × List HidEvent → Prop where
  | notDevice (hdevice : device = none) : HidGetNameOutcome os past device (none, [])
  | refused (info : HidDeviceInfo) (hdevice : device = some info)
      (hreply : os past (.inl (nameCall info)) = Handle.invalidHandleValue) :
      HidGetNameOutcome os past device (none, [⟨.inl (nameCall info), Handle.invalidHandleValue⟩])
  | named (info : HidDeviceInfo) (n : ℕ) (reply : ProductReply) (closed : BoolReply)
      (hdevice : device = some info) (hhandle : os past (.inl (nameCall info)) = Handle.handle n)
      (hreply : reply = os (past ++ [⟨.inl (nameCall info), Handle.handle n⟩])
        (.inr ⟨some (.handle n), wbufByteLength⟩)) :
      HidGetNameOutcome os past device
        (if reply.value = 0 then none else some (String.ofList (Utf16.readString reply.wbuf)),
          [⟨.inl (nameCall info), Handle.handle n⟩,
            ⟨.inr ⟨some (.handle n), wbufByteLength⟩, reply⟩,
            ⟨.inl (.closeHandle (some (.handle n))), closed⟩])

/-- Every run of `hid-get-name` is one of the listed executions. -/
theorem hidGetName_outcome (os : HidEnvironment) (past : List HidEvent)
    (device : Option HidDeviceInfo) :
    HidGetNameOutcome os past device (exec (hidSystem os) past (hidGetName device)) := by
  cases device with
  | none => exact .notDevice rfl
  | some info =>
    have hcreate : hidSystem os past (.inl (nameCall info)) = os past (.inl (nameCall info)) := rfl
    rw [hidGetName, exec_systemCall_bind, hcreate]
    cases hhandle : (os past (.inl (nameCall info)) : Handle) with
    | invalidHandleValue => exact .refused info rfl hhandle
    | handle n => exact .named info n _ _ rfl hhandle rfl

/-- On a handle opened from a path, `HidD_GetProductString` succeeds only with the whole
name of the device, and only if the name and its terminator fit the buffer. The units
after them are left over. -/
structure NamesProducts (names : DevicePath → List Char) (os : HidEnvironment) : Prop where
  stored : ∀ past n path byteLength, openedFrom (ownEvents past) n = some path →
    (os past (.inr ⟨some (.handle n), byteLength⟩) : ProductReply).value ≠ 0 →
      ∃ left, (os past (.inr ⟨some (.handle n), byteLength⟩) : ProductReply).wbuf =
        Utf16.encode (names path) ++ 0 :: left
  fits : ∀ past n path byteLength, openedFrom (ownEvents past) n = some path →
    (os past (.inr ⟨some (.handle n), byteLength⟩) : ProductReply).value ≠ 0 →
      2 * ((Utf16.encode (names path)).length + 1) ≤ byteLength

/-- A pad has a name of two characters, one of them a pair of surrogates, and any
other device one of 64. -/
def productNames (path : DevicePath) : List Char :=
  if path = "pad" then ['U', Char.ofNat 0x1F3AE] else List.replicate 64 'x'

/-- A system that opens every path and answers with the name of the device
if the buffer has room. -/
def productSystem : HidEnvironment := fun past c =>
  match c with
  | .inl c => steadyOs (.handle 4) ⟨1, 0⟩ ⟨1, 0⟩ ⟨1, 0⟩ ⟨1, 0⟩ ⟨1, 0⟩ (ownEvents past) c
  | .inr ⟨some (.handle n), byteLength⟩ =>
    match openedFrom (ownEvents past) n with
    | some path =>
      if 2 * ((Utf16.encode (productNames path)).length + 1) ≤ byteLength then
        ⟨1, Utf16.encode (productNames path) ++ 0 :: [0x55]⟩
      else ⟨0, []⟩
    | none => ⟨0, []⟩
  | .inr _ => ⟨0, []⟩

/-- The answer on a handle is about the path it was opened from. -/
theorem productSystem_opened {past : List HidEvent} {n : ℕ} {path : DevicePath}
    (h : openedFrom (ownEvents past) n = some path) (byteLength : ℕ) :
    productSystem past (.inr ⟨some (.handle n), byteLength⟩) =
      if 2 * ((Utf16.encode (productNames path)).length + 1) ≤ byteLength then
        (⟨1, Utf16.encode (productNames path) ++ 0 :: [0x55]⟩ : ProductReply)
      else ⟨0, []⟩ := by
  simp only [productSystem, h]
  rfl

/-- The system stores whole names. -/
theorem productSystem_names : NamesProducts productNames productSystem where
  stored past n path byteLength hopened hvalue := by
    rw [productSystem_opened hopened] at hvalue ⊢
    split_ifs at hvalue ⊢
    · exact ⟨_, rfl⟩
    · exact absurd rfl hvalue
  fits past n path byteLength hopened hvalue := by
    rw [productSystem_opened hopened] at hvalue
    split_ifs at hvalue with hfits
    · exact hfits
    · exact absurd rfl hvalue

/-- The device opens and `HidD_GetProductString` succeeds on it. -/
def nameAnswered (os : HidEnvironment) (past : List HidEvent) (device : HidDeviceInfo) : Bool :=
  match nameHandle os past device with
  | .invalidHandleValue => false
  | .handle n =>
    (os (past ++ [⟨.inl (nameCall device), Handle.handle n⟩])
      (.inr ⟨some (.handle n), wbufByteLength⟩) : ProductReply).value ≠ 0

/-- A handle just returned was opened from the path given. -/
theorem openedFrom_created (past : List Win32Event) (path : DevicePath)
    (access share disposition flags n : ℕ) :
    openedFrom (past ++ [⟨.createFile path access share disposition flags, Handle.handle n⟩]) n =
      some path := by
  simp [openedFrom, openingPath]

/-- `hid-get-name` returns the product name up to its first `NUL` exactly if the device opens and
the system answers for it, and `f` otherwise; a name it returns has less than 64 code units. -/
theorem hidGetName_eq (names : DevicePath → List Char) (os : HidEnvironment)
    (hnames : NamesProducts names os) (past : List HidEvent) (device : HidDeviceInfo) :
    (exec (hidSystem os) past (hidGetName (some device))).1 =
        (if nameAnswered os past device then
          some (String.ofList ((names (device.path.getD "")).takeWhile (· ≠ Utf16.nul)))
        else none) ∧
      (nameAnswered os past device = true →
        (Utf16.encode (names (device.path.getD ""))).length < 64) := by
  have hrun := hidGetName_outcome os past (some device)
  generalize exec (hidSystem os) past (hidGetName (some device)) = run at hrun
  cases hrun with
  | notDevice hdevice => cases hdevice
  | refused info hdevice hreply =>
    cases hdevice
    have hanswered : nameAnswered os past device = false := by
      rw [nameAnswered, nameHandle, hreply]
    simp [hanswered]
  | named info n reply closed hdevice hhandle hreply =>
    cases hdevice
    have hpath : openedFrom (ownEvents (past ++ [⟨.inl (nameCall device), Handle.handle n⟩])) n =
        some (device.path.getD "") := by
      rw [ownEvents_append]
      exact openedFrom_created _ _ _ _ _ _ n
    have hanswered : nameAnswered os past device = decide (reply.value ≠ 0) := by
      rw [nameAnswered, nameHandle, hhandle, hreply]
    rw [hanswered]
    by_cases hvalue : reply.value = 0
    · simp [hvalue]
    · have hsuccess := hvalue
      rw [hreply] at hsuccess
      obtain ⟨left, hstored⟩ := hnames.stored _ _ _ _ hpath hsuccess
      have hfits := hnames.fits _ _ _ _ hpath hsuccess
      rw [← hreply] at hstored
      rw [wbufByteLength] at hfits
      constructor
      · rw [if_neg hvalue, if_pos (decide_eq_true hvalue), hstored, Utf16.readString_encode]
      · intro _
        omega

/-- The name of the pad is returned, and a name of 64 characters is not. -/
theorem hidGetName_eq_pad :
    (exec (hidSystem productSystem) []
        (hidGetName (some { newHidDeviceInfo with path := some "pad" }))).1 =
      some (String.ofList ['U', Char.ofNat 0x1F3AE]) ∧
    (exec (hidSystem productSystem) []
        (hidGetName (some { newHidDeviceInfo with path := some "board" }))).1 = none := by
  have hpad := (hidGetName_eq productNames productSystem productSystem_names []
    { newHidDeviceInfo with path := some "pad" }).1
  have hboard := (hidGetName_eq productNames productSystem productSystem_names []
    { newHidDeviceInfo with path := some "board" }).1
  rw [if_pos (by decide)] at hpad
  rw [if_neg (by decide)] at hboard
  exact ⟨hpad, hboard⟩

end FactorUsb.Hid
