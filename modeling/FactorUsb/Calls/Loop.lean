import FactorUsb.Calls.Wp

/-!
# While loops whose body makes calls

The loop carries fuel because its body may be answered in a way that never ends it.
`none` reports that the fuel ran out. The rule below is one of total correctness: an
invariant and a measure that every iteration decreases give a result for every
amount of fuel that covers the measure, in every environment.
-/

namespace FactorUsb.Calls

universe u v w

variable {Call : Type u} {Reply : Call → Type v} {State : Type w}

/-- Repeat the body while the test holds, at most as often as the fuel allows. -/
def whileLoop (continues : State → Bool) (body : State → CallTree Call Reply State) :
    ℕ → State → CallTree Call Reply (Option State)
  | 0, state => pure (if continues state then none else some state)
  | fuel + 1, state =>
    if continues state then body state >>= whileLoop continues body fuel else pure (some state)

/-- An invariant with a decreasing measure ends the loop with the invariant and the test false. -/
theorem wp_whileLoop {env : Environment Call Reply} {continues : State → Bool}
    {body : State → CallTree Call Reply State} (inv : State → List (CallEvent Call Reply) → Prop)
    (measure : State → ℕ)
    (hbody : ∀ past state, inv state past → continues state = true →
      wp env (body state) (fun next later => inv next later ∧ measure next < measure state) past)
    (fuel : ℕ) (past : List (CallEvent Call Reply)) (state : State) (h : inv state past)
    (hfuel : measure state ≤ fuel) :
    wp env (whileLoop continues body fuel state)
      (fun result later => ∃ last,
        result = some last ∧ continues last = false ∧ inv last later) past := by
  induction fuel generalizing past state with
  | zero =>
    cases hc : continues state with
    | false =>
      rw [whileLoop, hc, wp_pure]
      exact ⟨state, rfl, hc, h⟩
    | true =>
      have hless := (hbody past state h hc).2
      omega
  | succ fuel ih =>
    cases hc : continues state with
    | false =>
      rw [whileLoop, hc, if_neg Bool.false_ne_true, wp_pure]
      exact ⟨state, rfl, hc, h⟩
    | true =>
      rw [whileLoop, hc, if_pos rfl]
      apply wp_bind_of (hbody past state h hc)
      intro next later hnext
      exact ih later next hnext.1 (by omega)

/-- What every iteration keeps holds when the loop ends, and also where its fuel runs out. -/
theorem wp_whileLoop_invariant {env : Environment Call Reply} {continues : State → Bool}
    {body : State → CallTree Call Reply State} (inv : State → List (CallEvent Call Reply) → Prop)
    (hbody : ∀ past state, inv state past → continues state = true → wp env (body state) inv past)
    (fuel : ℕ) (past : List (CallEvent Call Reply)) (state : State) (h : inv state past) :
    wp env (whileLoop continues body fuel state)
      (fun result later => ∃ last, inv last later ∧ ∀ s ∈ result, s = last) past := by
  induction fuel generalizing past state with
  | zero =>
    rw [whileLoop, wp_pure]
    refine ⟨state, h, fun s hs => ?_⟩
    split at hs
    · cases hs
    · exact (Option.some.inj hs).symm
  | succ fuel ih =>
    cases hc : continues state with
    | false =>
      rw [whileLoop, hc, if_neg Bool.false_ne_true, wp_pure]
      exact ⟨state, h, fun s hs => (Option.some.inj hs).symm⟩
    | true =>
      rw [whileLoop, hc, if_pos rfl]
      exact wp_bind_of (hbody past state h hc) fun next later hnext => ih later next hnext

end FactorUsb.Calls
