import FactorUsb.Calls.History
import FactorUsb.Calls.Wp

/-!
# Runs depend on the environment only through its replies

A run asks its environment only about the histories it passes through. An environment that
would have given the same replies at these histories reproduces the run, whatever it answers
elsewhere. So a run in an arbitrary environment is also a run in any simpler one that explains
the replies received.
-/

namespace FactorUsb.Calls

universe u v w

variable {Call : Type u} {Reply : Call → Type v} {A : Type w}

/-- The environment would have given the replies that were recorded after the history. -/
def Explains (env : Environment Call Reply) (past events : List (CallEvent Call Reply)) : Prop :=
  Throughout (fun past e => env past e.1 = e.2) past events

variable {env env' : Environment Call Reply} {past : List (CallEvent Call Reply)}

/-- Two stretches are explained one after the other. -/
theorem explains_append (past first later : List (CallEvent Call Reply)) :
    Explains env past (first ++ later) ↔
      Explains env past first ∧ Explains env (past ++ first) later :=
  throughout_append past first later

/-- A single event is explained by its own reply. -/
theorem explains_singleton (past : List (CallEvent Call Reply)) (e : CallEvent Call Reply) :
    Explains env past [e] ↔ env past e.1 = e.2 := by
  simp [Explains, Throughout]

/-- An explained reply was given after some history. -/
theorem Explains.given {events : List (CallEvent Call Reply)} (h : Explains env past events) :
    ∀ e ∈ events, ∃ before, env before e.1 = e.2 := by
  intro e he
  obtain ⟨earlier, later, rfl⟩ := List.append_of_mem he
  exact ⟨past ++ earlier, (throughout_iff_forall past _).mp h earlier e later rfl⟩

/-- A run is explained by the environment it ran in. -/
theorem explains_exec (tree : CallTree Call Reply A) :
    Explains env past (exec env past tree).2 := by
  induction tree generalizing past with
  | pure a => trivial
  | call c next ih => exact ⟨rfl, ih (env past c)⟩

/-- An environment that explains a run reproduces it, after the same history or another one. -/
theorem exec_eq_of_explains {past' : List (CallEvent Call Reply)} {tree : CallTree Call Reply A}
    (h : Explains env' past' (exec env past tree).2) :
    exec env' past' tree = exec env past tree := by
  induction tree generalizing past past' with
  | pure a => rfl
  | call c next ih =>
    obtain ⟨hreply, hrest⟩ := h
    change env' past' c = env past c at hreply
    rw [exec, exec, hreply, ih (env past c) hrest]

/-- Every event of the run has the property. -/
structure EveryEvent (env : Environment Call Reply) (past : List (CallEvent Call Reply))
    (tree : CallTree Call Reply A) (P : CallEvent Call Reply → Prop) : Prop where
  of_mem : ∀ e ∈ (exec env past tree).2, P e

variable {P : CallEvent Call Reply → Prop}

/-- A returned value makes no call. -/
theorem everyEvent_pure (a : A) : EveryEvent env past (pure a) P := ⟨List.forall_mem_nil P⟩

/-- The events of two programs in sequence are those of both. -/
theorem everyEvent_bind {B : Type w} {tree : CallTree Call Reply A}
    {next : A → CallTree Call Reply B} (htree : EveryEvent env past tree P)
    (hnext : EveryEvent env (past ++ (exec env past tree).2) (next (exec env past tree).1) P) :
    EveryEvent env past (tree >>= next) P := by
  constructor
  rw [exec_bind, List.forall_mem_append]
  exact ⟨htree.of_mem, hnext.of_mem⟩

/-- A program that starts with one call goes on from the environment's reply. -/
theorem everyEvent_ask_bind {A : Type v} {c : Call} {next : Reply c → CallTree Call Reply A}
    (hc : P ⟨c, env past c⟩)
    (hnext : EveryEvent env (past ++ [⟨c, env past c⟩]) (next (env past c)) P) :
    EveryEvent env past (ask c >>= next) P :=
  everyEvent_bind ⟨List.forall_mem_singleton.mpr hc⟩ hnext

/-- The environment would have led from the earlier history to the later one. -/
def Produces (env : Environment Call Reply) (past later : List (CallEvent Call Reply)) : Prop :=
  ∃ events, later = past ++ events ∧ Explains env past events

/-- A history needs no event to get to itself. -/
theorem produces_refl (past : List (CallEvent Call Reply)) : Produces env past past :=
  ⟨[], (List.append_nil past).symm, trivial⟩

/-- A produced history is continued by events that are explained after it. -/
theorem Produces.append {later events : List (CallEvent Call Reply)} (h : Produces env past later)
    (hevents : Explains env later events) : Produces env past (later ++ events) := by
  obtain ⟨first, rfl, hfirst⟩ := h
  exact ⟨first ++ events, List.append_assoc ..,
    (explains_append past first events).mpr ⟨hfirst, hevents⟩⟩

/-- An environment that would have led to the history at the end of a run reproduces the run. -/
theorem exec_eq_of_produces {tree : CallTree Call Reply A}
    (h : wp env tree (fun _ later => Produces env' past later) past) :
    exec env' past tree = exec env past tree := by
  obtain ⟨events, hlater, hevents⟩ := h
  rw [← List.append_cancel_left hlater] at hevents
  exact exec_eq_of_explains hevents

/-- The environment as it goes on after a history. -/
def envAfter (env : Environment Call Reply) (past : List (CallEvent Call Reply)) :
    Environment Call Reply :=
  fun later c => env (past ++ later) c

/-- A run that starts after a history is a run of the environment as it goes on. -/
theorem exec_envAfter (env : Environment Call Reply) (past later : List (CallEvent Call Reply))
    (tree : CallTree Call Reply A) :
    exec (envAfter env past) later tree = exec env (past ++ later) tree := by
  induction tree generalizing later with
  | pure a => rfl
  | call c next ih =>
    have hrest := ih (env (past ++ later) c) (later ++ [⟨c, env (past ++ later) c⟩])
    rw [← List.append_assoc] at hrest
    exact congrArg (fun rest : A × List (CallEvent Call Reply) =>
      (rest.1, ⟨c, env (past ++ later) c⟩ :: rest.2)) hrest

end FactorUsb.Calls
