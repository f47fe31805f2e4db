import FactorUsb.Hid.LibraryIsolation
import FactorUsb.Hid.PendingFlag

/-!
# The pending flags of several devices

The pending flag of a device is about the reads made for it. As the device is used as if alone,
its flag does not depend on what the program does with others: it is exact after every call made
on the device precisely when each of these calls meets the condition for one device. No call on
another device and no search has to meet any.
-/

namespace FactorUsb.Hid

open FactorUsb.Calls

/-- Every `BOOL` function of the system answers 0 or 1. -/
def BoolSystem (os : HidEnvironment) : Prop :=
  ∀ past c reply, boolReply ⟨c, os past (.inl c)⟩ = some reply → reply.value = 0 ∨ reply.value = 1

variable {os : HidEnvironment} {alone : Win32Environment} {past : List Win32Event} {hds : Hds}

/-- A `BOOL` function is answered by the system itself. -/
theorem hidSystem_of_boolReply {c : Win32Call} {answer : Win32Reply c} {reply : BoolReply}
    (h : boolReply ⟨c, answer⟩ = some reply) (before : List HidEvent) :
    hidSystem os before (.inl c) = os before (.inl c) := by
  cases c <;> first | rfl | cases h

/-- A device that is alone has its `BOOL` functions answered by 1. -/
theorem aloneOs_boolResults : BoolResults aloneOs := by
  intro past c reply hreply
  cases c <;>
    first
      | exact Or.inr (congrArg BoolReply.value (Option.some.inj hreply)).symm
      | cases hreply

/-- The system of a device that is alone answers 0 or 1 if the whole one does. -/
theorem IsolatedSystem.boolResults (h : IsolatedSystem os alone) (hbool : BoolSystem os) :
    BoolResults alone := by
  intro past c reply hreply
  rcases (h past c).2 with ⟨before, hgiven⟩ | halone
  · have hsame : os before (.inl c) = alone past c :=
      (hidSystem_of_boolReply hreply before).symm.trans hgiven
    exact hbool before c reply
      ((congrArg (fun answer : Win32Reply c => boolReply ⟨c, answer⟩) hsame).trans hreply)
  · have hsame : aloneOs past c = alone past c := halone.symm
    exact aloneOs_boolResults past c reply
      ((congrArg (fun answer : Win32Reply c => boolReply ⟨c, answer⟩) hsame).trans hreply)

end FactorUsb.Hid
