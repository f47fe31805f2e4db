import FactorUsb.Calls.Session

/-!
# Sessions on several instances at once

Operations on several stored states are interleaved freely: each names the state it is
called on by its position, and leaves the others as they are. A position that holds no
state does nothing. Each call of the fleet is a call on one instance, with its calls and
its result, so facts about one instance carry over.
-/

namespace FactorUsb.Calls

universe u v

variable {Call : Type u} {Reply : Call → Type v} {State Op Result : Type v}

/-- Call an operation on the state at a position. -/
def fleetWord (word : Op → State → CallTree Call Reply (Result × State)) (idle : Result)
    (op : ℕ × Op) (fleet : List State) : CallTree Call Reply (Result × List State) :=
  match fleet[op.1]? with
  | none => pure (idle, fleet)
  | some state => do
    let out ← word op.2 state
    pure (out.1, fleet.set op.1 out.2)

variable {env : Environment Call Reply} {word : Op → State → CallTree Call Reply (Result × State)}

/-- A call on an instance is that instance's call, with its state put back in place. -/
theorem callStep_fleetWord_some (idle : Result) (past : List (CallEvent Call Reply))
    {fleet : List State} (index : ℕ) (op : Op) {state : State} (h : fleet[index]? = some state) :
    callStep env (fleetWord word idle) past fleet (index, op) =
      ⟨past, fleet, (index, op), (callStep env word past state op).result,
        fleet.set index (callStep env word past state op).after,
          (callStep env word past state op).events⟩ := by
  simp [callStep, fleetWord, h]

/-- A call at a position without instance does nothing. -/
theorem callStep_fleetWord_none (idle : Result) (past : List (CallEvent Call Reply))
    {fleet : List State} (index : ℕ) (op : Op) (h : fleet[index]? = none) :
    callStep env (fleetWord word idle) past fleet (index, op) =
      ⟨past, fleet, (index, op), idle, fleet, []⟩ := by
  simp [callStep, fleetWord, h]

/-- After one state is replaced, a position holds the new
state or, if it is another one, what it held. -/
theorem getElem?_set_eq_some {fleet : List State} {index other : ℕ} {state found : State}
    (h : (fleet.set index state)[other]? = some found) :
    (index = other ∧ found = state) ∨ (index ≠ other ∧ fleet[other]? = some found) := by
  rw [List.getElem?_set] at h
  by_cases hsame : index = other
  · rw [if_pos hsame] at h
    split_ifs at h
    exact Or.inl ⟨hsame, (Option.some.inj h).symm⟩
  · rw [if_neg hsame] at h
    exact Or.inr ⟨hsame, h⟩

/-- After one state is replaced, a property is found at the new state or at another position. -/
theorem exists_getElem?_set_iff {fleet : List State} {index : ℕ} {old : State}
    (h : fleet[index]? = some old) (new : State) (P : State → Prop) :
    (∃ (other : ℕ) (found : State), (fleet.set index new)[other]? = some found ∧ P found) ↔
      P new ∨ ∃ (other : ℕ) (found : State), index ≠ other ∧
        fleet[other]? = some found ∧ P found := by
  constructor
  · intro hgiven
    obtain ⟨other, found, hfound, hP⟩ := hgiven
    rcases getElem?_set_eq_some hfound with ⟨rfl, rfl⟩ | ⟨hne, hkept⟩
    · exact Or.inl hP
    · exact Or.inr ⟨other, found, hne, hkept, hP⟩
  · intro hcases
    obtain hP | ⟨other, found, hne, hfound, hP⟩ := hcases
    · have hless : index < fleet.length := (List.getElem?_eq_some_iff.mp h).1
      exact ⟨index, new, by rw [List.getElem?_set, if_pos rfl, if_pos hless], hP⟩
    · exact ⟨other, found, by rw [List.getElem?_set, if_neg hne, hfound], hP⟩

end FactorUsb.Calls
