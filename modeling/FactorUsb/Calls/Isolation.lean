import FactorUsb.Calls.Replay
import FactorUsb.Calls.Session

/-!
# What one instance goes through, taken by itself

When several instances are used in turns, each sees only its own calls. Whatever they were
answered, there is an environment that answers the same calls alike when they are made alone:
it replays the replies, and goes on as some other environment does when the calls are different.

A law on replies that looks at the history before them holds of the replaying environment if
every recorded reply obeys it after the instance's own history. So a sequence of calls that each
ran in some environment, and that hand on their state, is a session of a lawful environment.
-/

namespace FactorUsb.Calls

universe u v

variable {Call : Type u} {Reply : Call → Type v} {State Op Result : Type v}

/-- Every reply of the environment obeys the law. -/
def Obeys (env : Environment Call Reply)
    (law : List (CallEvent Call Reply) → CallEvent Call Reply → Prop) : Prop :=
  ∀ past c, law past ⟨c, env past c⟩

open Classical in
/-- The environment that gives the recorded replies, and goes on like another one. -/
noncomputable def replaying (trace : List (CallEvent Call Reply)) (env : Environment Call Reply) :
    Environment Call Reply := fun past c =>
  if h : ∃ reply later, trace = past ++ ⟨c, reply⟩ :: later then h.choose else env past c

variable {env : Environment Call Reply} {trace past : List (CallEvent Call Reply)}

/-- A reply of the replaying environment is the recorded one or one of the other environment. -/
theorem replaying_cases (trace : List (CallEvent Call Reply)) (env : Environment Call Reply)
    (past : List (CallEvent Call Reply)) (c : Call) :
    (∃ later, trace = past ++ ⟨c, replaying trace env past c⟩ :: later) ∨
      replaying trace env past c = env past c := by
  by_cases h : ∃ reply later, trace = past ++ ⟨c, reply⟩ :: later
  · apply Or.inl
    have hreply : replaying trace env past c = h.choose := dif_pos h
    rw [hreply]
    exact h.choose_spec
  · exact Or.inr (dif_neg h)

/-- The replaying environment explains what it replays. -/
theorem explains_replaying (trace : List (CallEvent Call Reply)) (env : Environment Call Reply) :
    Explains (replaying trace env) [] trace := by
  apply (throughout_iff_forall [] trace).mpr
  rintro earlier ⟨c, reply⟩ later hsplit
  have h : ∃ reply later, trace = earlier ++ ⟨c, reply⟩ :: later := ⟨reply, later, hsplit⟩
  obtain ⟨later', hchosen⟩ := h.choose_spec
  have hreply : replaying trace env earlier c = h.choose := dif_pos h
  have hhead := (List.cons.inj (List.append_cancel_left (hsplit.symm.trans hchosen))).1
  rw [List.nil_append]
  exact hreply.trans (eq_of_heq (Sigma.mk.inj hhead).2).symm

/-- A law that the recorded replies and the other environment obey is obeyed. -/
theorem obeys_replaying {law : List (CallEvent Call Reply) → CallEvent Call Reply → Prop}
    (htrace : Throughout law [] trace) (henv : Obeys env law) :
    Obeys (replaying trace env) law := by
  intro past c
  rcases replaying_cases trace env past c with ⟨later, hsplit⟩ | hother
  · exact (throughout_iff_forall [] trace).mp htrace past _ later hsplit
  · rw [hother]
    exact henv past c

variable {word : Op → State → CallTree Call Reply (Result × State)} {state : State}
  {steps : List (CallStep Call Reply State Op Result)}

/-- The call ran as recorded in some environment, after some history. -/
def CallStep.Ran (word : Op → State → CallTree Call Reply (Result × State))
    (step : CallStep Call Reply State Op Result) : Prop :=
  ∃ env past, exec env past (word step.op step.before) = ((step.result, step.after), step.events)

/-- Every call starts from the history and the state the last one left. -/
def Chained (word : Op → State → CallTree Call Reply (Result × State)) :
    List (CallEvent Call Reply) → State → List (CallStep Call Reply State Op Result) → Prop
  | _, _, [] => True
  | past, state, step :: steps => step.past = past ∧ step.before = state ∧ step.Ran word ∧
      Chained word step.history step.after steps

/-- Chained calls are a session of every environment that explains them. -/
theorem session_of_chained (h : Chained word past state steps)
    (hexplains : Explains env past (steps.flatMap CallStep.events)) :
    session env word past state (steps.map CallStep.op) = steps := by
  induction steps generalizing past state with
  | nil => rfl
  | cons step steps ih =>
    obtain ⟨rfl, rfl, ⟨env', past', hran⟩, hrest⟩ := h
    rw [List.flatMap_cons, explains_append] at hexplains
    have hexec : exec env step.past (word step.op step.before) =
        ((step.result, step.after), step.events) := by
      rw [← hran]
      apply exec_eq_of_explains
      rw [hran]
      exact hexplains.1
    have hstep : callStep env word step.past step.before step.op = step := by
      unfold callStep
      rw [hexec]
    rw [List.map_cons, session, hstep]
    exact congrArg (step :: ·) (ih hrest hexplains.2)

/-- Chained calls whose replies obey a law are a session of an environment that obeys it. -/
theorem exists_session_of_chained {law : List (CallEvent Call Reply) → CallEvent Call Reply → Prop}
    (h : Chained word [] state steps) (hlaw : Throughout law [] (steps.flatMap CallStep.events))
    (henv : Obeys env law) :
    ∃ alone : Environment Call Reply, Obeys alone law ∧
      session alone word [] state (steps.map CallStep.op) = steps :=
  ⟨replaying (steps.flatMap CallStep.events) env, obeys_replaying hlaw henv,
    session_of_chained h (explains_replaying _ env)⟩

end FactorUsb.Calls
