import FactorUsb.Calls.CallTree

/-!
# Weakest preconditions of call trees

A postcondition speaks about the value a program returns and about the complete history
at its end. Its weakest precondition holds of the histories from which the environment
leads the program there. One rule for each way to build a program replaces evaluating
it, and every rule is an equivalence or passes on all that is known.
-/

namespace FactorUsb.Calls

universe u v w

variable {Call : Type u} {Reply : Call → Type v}

/-- Started after the given history, the program ends with a value and
history that satisfy `post`. -/
def wp {A : Type w} (env : Environment Call Reply) (tree : CallTree Call Reply A)
    (post : A → List (CallEvent Call Reply) → Prop) (past : List (CallEvent Call Reply)) : Prop :=
  post (exec env past tree).1 (past ++ (exec env past tree).2)

variable {env : Environment Call Reply} {past : List (CallEvent Call Reply)}

/-- A returned value meets the postcondition at the unchanged history. -/
theorem wp_pure {A : Type w} (a : A) (post : A → List (CallEvent Call Reply) → Prop) :
    wp env (pure a : CallTree Call Reply A) post past ↔ post a past := by
  rw [wp, exec_pure, List.append_nil]

/-- The second program starts with the value and history the first one ends with. -/
theorem wp_bind {A B : Type w} (tree : CallTree Call Reply A) (next : A → CallTree Call Reply B)
    (post : B → List (CallEvent Call Reply) → Prop) :
    wp env (tree >>= next) post past ↔ wp env tree (fun a => wp env (next a) post) past := by
  simp only [wp, exec_bind, List.append_assoc]

/-- A program that starts with one call continues from the environment's reply to it. -/
theorem wp_ask_bind {A : Type v} (c : Call) (next : Reply c → CallTree Call Reply A)
    (post : A → List (CallEvent Call Reply) → Prop) :
    wp env (ask c >>= next) post past ↔
      wp env (next (env past c)) post (past ++ [⟨c, env past c⟩]) := by
  rw [wp_bind, wp, exec_ask]

/-- A weaker postcondition is met as well. -/
theorem wp_mono {A : Type w} {tree : CallTree Call Reply A}
    {post post' : A → List (CallEvent Call Reply) → Prop} (h : wp env tree post past)
    (himp : ∀ a later, post a later → post' a later) :
    wp env tree post' past :=
  himp _ _ h

/-- The first program may be replaced by what is known to hold after it. -/
theorem wp_bind_of {A B : Type w} {tree : CallTree Call Reply A} {next : A → CallTree Call Reply B}
    {mid : A → List (CallEvent Call Reply) → Prop} {post : B → List (CallEvent Call Reply) → Prop}
    (h : wp env tree mid past) (hnext : ∀ a later, mid a later → wp env (next a) post later) :
    wp env (tree >>= next) post past :=
  (wp_bind tree next post).mpr (wp_mono h hnext)

/-- The value a program returns, when its postcondition fixes it. -/
theorem exec_eq_of_wp {A : Type w} {tree : CallTree Call Reply A} {a : A}
    (h : wp env tree (fun b _ => b = a) past) : (exec env past tree).1 = a := h

end FactorUsb.Calls
