import FactorUsb.Calls.Loop

/-!
# The calls a program can make, and the values it can return

A program makes only calls of one kind if every path through its tree does, whatever the
replies. This is read off the way the program is built, without running it, and holds of
every event of every run. The values at the ends of the paths are treated alike.
-/

namespace FactorUsb.Calls

universe u v w

variable {Call : Type u} {Reply : Call → Type v}

/-- Every call on every path through the tree is allowed. -/
def CallTree.CallsOnly {A : Type w} (allowed : Call → Prop) : CallTree Call Reply A → Prop
  | .pure _ => True
  | .call c next => allowed c ∧ ∀ reply, (next reply).CallsOnly allowed

variable {allowed : Call → Prop}

/-- A returned value makes no call. -/
theorem callsOnly_pure {A : Type w} (a : A) :
    (pure a : CallTree Call Reply A).CallsOnly allowed := trivial

/-- A program that starts with an allowed call goes on with allowed calls. -/
theorem callsOnly_ask_bind {A : Type v} {c : Call} {next : Reply c → CallTree Call Reply A}
    (hc : allowed c) (hnext : ∀ reply, (next reply).CallsOnly allowed) :
    (ask c >>= next).CallsOnly allowed :=
  ⟨hc, hnext⟩

/-- Two programs in sequence make the calls of both. -/
theorem callsOnly_bind {A B : Type w} {tree : CallTree Call Reply A}
    {next : A → CallTree Call Reply B} (htree : tree.CallsOnly allowed)
    (hnext : ∀ a, (next a).CallsOnly allowed) :
    (tree >>= next).CallsOnly allowed := by
  induction tree with
  | pure a => exact hnext a
  | call c rest ih => exact ⟨htree.1, fun reply => ih reply (htree.2 reply)⟩

/-- A choice makes the calls of the chosen program. -/
theorem callsOnly_ite {A : Type w} {p : Prop} [Decidable p] {left right : CallTree Call Reply A}
    (hleft : p → left.CallsOnly allowed) (hright : ¬ p → right.CallsOnly allowed) :
    (if p then left else right).CallsOnly allowed := by
  split
  next h => exact hleft h
  next h => exact hright h

/-- A loop makes the calls of its body. -/
theorem callsOnly_whileLoop {State : Type w} {continues : State → Bool}
    {body : State → CallTree Call Reply State} (hbody : ∀ state, (body state).CallsOnly allowed)
    (fuel : ℕ) (state : State) : (whileLoop continues body fuel state).CallsOnly allowed := by
  induction fuel generalizing state with
  | zero => exact callsOnly_pure _
  | succ fuel ih =>
    exact callsOnly_ite (fun _ => callsOnly_bind (hbody state) ih) (fun _ => callsOnly_pure _)

/-- More calls may be allowed. -/
theorem CallTree.CallsOnly.mono {A : Type w} {tree : CallTree Call Reply A}
    (h : tree.CallsOnly allowed) {allowed' : Call → Prop} (himp : ∀ c, allowed c → allowed' c) :
    tree.CallsOnly allowed' := by
  induction tree with
  | pure a => trivial
  | call c next ih => exact ⟨himp c h.1, fun reply => ih reply (h.2 reply)⟩

/-- Every event of a run is an allowed call. -/
theorem CallTree.CallsOnly.of_mem_exec {A : Type w} {tree : CallTree Call Reply A}
    (h : tree.CallsOnly allowed) (env : Environment Call Reply)
    (past : List (CallEvent Call Reply)) :
    ∀ e ∈ (exec env past tree).2, allowed e.1 := by
  induction tree generalizing past with
  | pure a => simp [exec]
  | call c next ih =>
    intro e he
    rcases List.mem_cons.mp he with rfl | hlater
    · exact h.1
    · exact ih _ (h.2 _) _ e hlater

/-- A program extends the history by allowed calls. -/
theorem wp_callsOnly {A : Type w} {tree : CallTree Call Reply A} (h : tree.CallsOnly allowed)
    (env : Environment Call Reply) (past : List (CallEvent Call Reply)) :
    wp env tree (fun _ later => ∃ events, later = past ++ events ∧ ∀ e ∈ events,
      allowed e.1) past :=
  ⟨_, rfl, h.of_mem_exec env past⟩

/-- Every value at the end of a path through the tree has the property. -/
def CallTree.Returns {A : Type w} (P : A → Prop) : CallTree Call Reply A → Prop
  | .pure a => P a
  | .call _ next => ∀ reply, (next reply).Returns P

/-- Less may be known of what is returned. -/
theorem CallTree.Returns.mono {A : Type w} {P Q : A → Prop} {tree : CallTree Call Reply A}
    (h : tree.Returns P) (himp : ∀ a, P a → Q a) : tree.Returns Q := by
  induction tree with
  | pure a => exact himp a h
  | call c next ih => exact fun reply => ih reply (h reply)

/-- A returned value is the only one. -/
theorem returns_pure {A : Type w} {P : A → Prop} {a : A} (h : P a) :
    (pure a : CallTree Call Reply A).Returns P := h

/-- A program that starts with a call returns what it returns after any reply. -/
theorem returns_ask_bind {A : Type v} {P : A → Prop} {c : Call}
    {next : Reply c → CallTree Call Reply A} (hnext : ∀ reply, (next reply).Returns P) :
    (ask c >>= next).Returns P :=
  hnext

/-- Two programs in sequence return what the second returns after any value of the first. -/
theorem returns_bind {A B : Type w} {P : A → Prop} {Q : B → Prop} {tree : CallTree Call Reply A}
    {next : A → CallTree Call Reply B} (htree : tree.Returns P)
    (hnext : ∀ a, P a → (next a).Returns Q) :
    (tree >>= next).Returns Q := by
  induction tree with
  | pure a => exact hnext a htree
  | call c rest ih => exact fun reply => ih reply (htree reply)

/-- A choice returns what the chosen program returns. -/
theorem returns_ite {A : Type w} {P : A → Prop} {p : Prop} [Decidable p]
    {left right : CallTree Call Reply A} (hleft : p → left.Returns P)
    (hright : ¬ p → right.Returns P) :
    (if p then left else right).Returns P := by
  split
  next h => exact hleft h
  next h => exact hright h

/-- Of a program nothing is known about, any value may be returned. -/
theorem returns_true {A : Type w} (tree : CallTree Call Reply A) : tree.Returns fun _ => True := by
  induction tree with
  | pure a => trivial
  | call c next ih => exact ih

/-- What a loop body keeps is true of what the loop returns. -/
theorem returns_whileLoop {State : Type w} {P : State → Prop} {continues : State → Bool}
    {body : State → CallTree Call Reply State} (hbody : ∀ state, P state → (body state).Returns P)
    (fuel : ℕ) (state : State) (h : P state) :
    (whileLoop continues body fuel state).Returns fun result => ∀ last ∈ result, P last := by
  induction fuel generalizing state with
  | zero =>
    intro last hlast
    split at hlast
    · cases hlast
    · exact (Option.some.inj hlast) ▸ h
  | succ fuel ih =>
    apply returns_ite
    · intro _
      exact returns_bind (hbody state h) ih
    · intro _ last hlast
      exact (Option.some.inj hlast) ▸ h

/-- A run ends with one of the values the program can return. -/
theorem wp_returns {A : Type w} {P : A → Prop} {tree : CallTree Call Reply A} (h : tree.Returns P)
    (env : Environment Call Reply) (past : List (CallEvent Call Reply)) :
    wp env tree (fun a _ => P a) past := by
  induction tree generalizing past with
  | pure a => exact h
  | call c next ih => exact ih _ (h _) _

end FactorUsb.Calls
