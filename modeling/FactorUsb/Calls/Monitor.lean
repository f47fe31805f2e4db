import FactorUsb.Calls.Footprint
import Mathlib.Computability.DFA

/-!
# Monitors: laws about the order of calls

A monitor is an automaton that follows a history event by event. It starts idle, has no
next state after an event the law forbids, and accepts the histories after which it is
idle again: nothing forbidden happened and nothing is left to be done.

A program is checked piece by piece. A piece whose calls leave the monitor in its state
needs no further argument, and a piece that starts idle is settled: its law holds and the
monitor is idle again, or the law is broken for good.
-/

namespace FactorUsb.Calls

universe u v w

/-- An automaton over events whose missing steps are the forbidden ones. -/
structure Monitor (Event : Type*) (State : Type*) where
  idle : State
  step : State → Event → Option State

namespace Monitor

variable {Event State : Type*} (m : Monitor Event State)

/-- The total automaton, in which `none` is the state after a forbidden event. -/
def automaton : DFA Event (Option State) where
  step s e := s.bind (m.step · e)
  start := some m.idle
  accept := {some m.idle}

/-- The state after a history, if nothing forbidden happened in it. -/
def after (history : List Event) : Option State := m.automaton.eval history

/-- Nothing forbidden happened and the monitor is idle. -/
def Accepts (history : List Event) : Prop := m.after history = some m.idle

instance [DecidableEq State] : DecidablePred m.Accepts :=
  fun _ => inferInstanceAs (Decidable (_ = _))

/-- Before the first event the monitor is idle. -/
@[simp] theorem after_nil : m.after [] = some m.idle := rfl

/-- One more event takes one more step. -/
@[simp] theorem after_concat (history : List Event) (e : Event) :
    m.after (history ++ [e]) = (m.after history).bind (m.step · e) :=
  m.automaton.eval_append_singleton history e

variable {m} {history : List Event} {s : State}

/-- A broken law is not accepted. -/
theorem not_accepts_of_none (h : m.after history = none) : ¬ m.Accepts history := by
  rw [Accepts, h]
  exact (Option.some_ne_none _).symm

/-- Events that keep a state leave the monitor in it. -/
theorem after_append_of_stays (h : m.after history = some s) {events : List Event}
    (hstays : ∀ e ∈ events, m.step s e = some s) : m.after (history ++ events) = some s := by
  induction events using List.reverseRecOn with
  | nil => rwa [List.append_nil]
  | append_singleton events e ih =>
    rw [← List.append_assoc, after_concat,
      ih fun e' he' => hstays e' (List.mem_append_left _ he'), Option.bind_some]
    exact hstays e (List.mem_append_right _ (List.mem_singleton_self e))

/-- A broken law stays broken. -/
theorem after_append_of_none (h : m.after history = none) (events : List Event) :
    m.after (history ++ events) = none := by
  induction events using List.reverseRecOn with
  | nil => rwa [List.append_nil]
  | append_singleton events e ih => rw [← List.append_assoc, after_concat, ih, Option.bind_none]

variable (m) in
/-- The monitor is idle if the condition holds, and the law is broken if it does not. -/
def Settled (history : List Event) (ok : Prop) : Prop :=
  (ok ∧ m.after history = some m.idle) ∨ (¬ ok ∧ m.after history = none)

/-- A settled history is accepted exactly when the condition holds. -/
theorem Settled.accepts_iff {ok : Prop} (h : m.Settled history ok) : m.Accepts history ↔ ok := by
  rcases h with ⟨hok, hidle⟩ | ⟨hnot, hnone⟩
  · exact iff_of_true hidle hok
  · exact iff_of_false (not_accepts_of_none hnone) hnot

/-- Only the truth of the condition counts. -/
theorem Settled.congr {ok ok' : Prop} (h : m.Settled history ok) (hiff : ok ↔ ok') :
    m.Settled history ok' :=
  (propext hiff) ▸ h

/-- An idle monitor is settled by a condition that holds. -/
theorem settled_of_idle {ok : Prop} (h : m.after history = some m.idle) (hok : ok) :
    m.Settled history ok :=
  Or.inl ⟨hok, h⟩

/-- A broken law is settled by a condition that fails. -/
theorem settled_of_none {ok : Prop} (h : m.after history = none) (hnot : ¬ ok) :
    m.Settled history ok :=
  Or.inr ⟨hnot, h⟩

/-- A settled history stays settled while every event keeps the idle state. -/
theorem Settled.append_of_stays {ok : Prop} (h : m.Settled history ok) {events : List Event}
    (hstays : ∀ e ∈ events, m.step m.idle e = some m.idle) : m.Settled (history ++ events) ok := by
  rcases h with ⟨hok, hidle⟩ | ⟨hnot, hnone⟩
  · exact settled_of_idle (after_append_of_stays hidle hstays) hok
  · exact settled_of_none (after_append_of_none hnone events) hnot

/-- An idle event after a settled history leaves it settled. -/
theorem Settled.concat_of_stays {ok : Prop} (h : m.Settled history ok) {e : Event}
    (hstays : m.step m.idle e = some m.idle) : m.Settled (history ++ [e]) ok :=
  h.append_of_stays (by simpa using hstays)

/-- Events after a settled history settle the law by their own condition from an idle start. -/
theorem Settled.append_and {ok piece : Prop} (h : m.Settled history ok) {events : List Event}
    (hevents : m.after history = some m.idle → m.Settled (history ++ events) piece) :
    m.Settled (history ++ events) (ok ∧ piece) := by
  rcases h with ⟨hok, hidle⟩ | ⟨hnot, hnone⟩
  · exact (hevents hidle).congr (and_iff_right hok).symm
  · exact settled_of_none (after_append_of_none hnone events) fun hboth => hnot hboth.1

end Monitor

section Programs

variable {Call : Type u} {Reply : Call → Type v} {State : Type*}
  {m : Monitor (CallEvent Call Reply) State}
  {env : Environment Call Reply} {past : List (CallEvent Call Reply)}

/-- Two postconditions are met together. -/
theorem wp_and {A : Type w} {tree : CallTree Call Reply A}
    {post post' : A → List (CallEvent Call Reply) → Prop} (h : wp env tree post past)
    (h' : wp env tree post' past) :
    wp env tree (fun a later => post a later ∧ post' a later) past :=
  ⟨h, h'⟩

/-- A program none of whose calls moves the monitor leaves it in its state. -/
theorem wp_stays {A : Type w} {s : State} {tree : CallTree Call Reply A} (h : m.after past = some s)
    (htree : tree.CallsOnly fun c => ∀ reply, m.step s ⟨c, reply⟩ = some s) :
    wp env tree (fun _ later => m.after later = some s) past :=
  Monitor.after_append_of_stays h fun e he => htree.of_mem_exec env past e he e.2

/-- No program repairs a broken law. -/
theorem wp_broken {A : Type w} (h : m.after past = none) (tree : CallTree Call Reply A) :
    wp env tree (fun _ later => m.after later = none) past :=
  Monitor.after_append_of_none h _

/-- A program that starts from a settled history is settled by its own
condition from an idle start. -/
theorem wp_settled_and {A : Type w} {ok piece : Prop} {tree : CallTree Call Reply A}
    (h : m.Settled past ok)
    (htree : m.after past = some m.idle → wp env tree (fun _ later => m.Settled later piece) past) :
    wp env tree (fun _ later => m.Settled later (ok ∧ piece)) past :=
  h.append_and htree

/-- The same for a program together with the events that follow it. -/
theorem wp_settled_append_and {A : Type w} {B : Type*} {ok piece : Prop}
    {tree : CallTree Call Reply A} {events : A → B → List (CallEvent Call Reply)}
    (h : m.Settled past ok)
    (htree : m.after past = some m.idle →
      wp env tree (fun a later => ∀ b, m.Settled (later ++ events a b) piece) past) :
    wp env tree (fun a later => ∀ b, m.Settled (later ++ events a b) (ok ∧ piece)) past := by
  intro b
  rw [List.append_assoc]
  apply h.append_and
  intro hidle
  rw [← List.append_assoc]
  exact htree hidle b

end Programs

end FactorUsb.Calls
