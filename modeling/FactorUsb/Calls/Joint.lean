import FactorUsb.Calls.Replay

/-!
# Programs over two interfaces at once

A system may offer more calls than a program was written for. Its programs are run in the
joint environment of both interfaces, which sees the calls of both. The run of such a program
is its run against the view it has of the joint environment: the events of the other interface
are not its own, but they may influence every reply.

Facts about a program over one interface so carry over to any history in which the two are
interleaved.
-/

namespace FactorUsb.Calls

universe u u' v w

variable {Call : Type u} {Reply : Call → Type v} {Call' : Type u'} {Reply' : Call' → Type v}
  {A B : Type w}

/-- An event of either interface. -/
abbrev JointEvent (Reply : Call → Type v) (Reply' : Call' → Type v) :=
  CallEvent (Call ⊕ Call') (Sum.elim Reply Reply')

/-- An environment that answers the calls of both interfaces. -/
abbrev JointEnvironment (Reply : Call → Type v) (Reply' : Call' → Type v) :=
  Environment (Call ⊕ Call') (Sum.elim Reply Reply')

/-- A program that may call both interfaces. -/
abbrev JointTree (Reply : Call → Type v) (Reply' : Call' → Type v) (A : Type w) :=
  CallTree (Call ⊕ Call') (Sum.elim Reply Reply') A

/-- A program over the first interface, as a program over both. -/
def CallTree.joint : CallTree Call Reply A → JointTree Reply Reply' A
  | .pure a => .pure a
  | .call c next => .call (.inl c) fun reply => (next reply).joint

/-- An event of the first interface, as an event of both. -/
def jointEvent (e : CallEvent Call Reply) : JointEvent Reply Reply' := ⟨.inl e.1, e.2⟩

/-- The event, if it belongs to the first interface. -/
def ownEvent : JointEvent Reply Reply' → Option (CallEvent Call Reply)
  | ⟨.inl c, reply⟩ => some ⟨c, reply⟩
  | ⟨.inr _, _⟩ => none

/-- The events of the first interface in a joint history. -/
def ownEvents (history : List (JointEvent Reply Reply')) : List (CallEvent Call Reply) :=
  history.filterMap ownEvent

/-- Joint histories are split like their own events. -/
@[simp] theorem ownEvents_append (first later : List (JointEvent Reply Reply')) :
    ownEvents (first ++ later) = ownEvents first ++ ownEvents later :=
  List.filterMap_append

/-- Before the first event there is no own event. -/
@[simp] theorem ownEvents_nil : ownEvents ([] : List (JointEvent Reply Reply')) = [] := rfl

/-- The own events of a program over the first interface are its events. -/
@[simp] theorem ownEvents_map (events : List (CallEvent Call Reply)) :
    ownEvents (events.map jointEvent : List (JointEvent Reply Reply')) = events := by
  rw [ownEvents, List.filterMap_map]
  exact List.filterMap_some

variable {env : JointEnvironment Reply Reply'} {past : List (JointEvent Reply Reply')}

/-- What a program over the first interface sees of the joint environment after a history. -/
def ownEnv (env : JointEnvironment Reply Reply') (past : List (JointEvent Reply Reply')) :
    Environment Call Reply :=
  fun later c => env (past ++ later.map jointEvent) (.inl c)

/-- A program over the first interface runs against its view of the joint environment. -/
theorem exec_joint_ownEnv (env : JointEnvironment Reply Reply')
    (past : List (JointEvent Reply Reply')) (later : List (CallEvent Call Reply))
    (tree : CallTree Call Reply A) :
    exec env (past ++ later.map jointEvent) tree.joint =
      ((exec (ownEnv env past) later tree).1,
        (exec (ownEnv env past) later tree).2.map jointEvent) := by
  induction tree generalizing later with
  | pure a => rfl
  | call c next ih =>
    have hrest := ih (ownEnv env past later c) (later ++ [⟨c, ownEnv env past later c⟩])
    rw [List.map_append, ← List.append_assoc] at hrest
    exact congrArg (fun rest : A × List (JointEvent Reply Reply') =>
      (rest.1, ⟨.inl c, ownEnv env past later c⟩ :: rest.2)) hrest

/-- An environment of the first interface that answers like the joint one after a history runs the
program alike, from any history of its own. -/
theorem exec_joint {os : Environment Call Reply} {base : List (CallEvent Call Reply)}
    (h : ∀ later c, os (base ++ later) c = env (past ++ later.map jointEvent) (.inl c))
    (tree : CallTree Call Reply A) :
    exec env past tree.joint = ((exec os base tree).1, (exec os base tree).2.map jointEvent) := by
  have hview : envAfter os base = ownEnv env past := by
    funext later c
    exact h later c
  have hown := exec_joint_ownEnv env past [] tree
  rw [List.map_nil, List.append_nil, ← hview, exec_envAfter, List.append_nil] at hown
  exact hown

end FactorUsb.Calls
