import Mathlib.Data.List.Basic

/-!
# Programs as call trees, run against a history-dependent environment

A call tree is a finite program that leaves every reply to its environment. The
environment sees the complete history of calls and replies, so quantifying over
environments covers every outcome, every failure and every order of outcomes.

Running a tree returns its value together with the calls it made, oldest first.
Nothing about a particular system interface is assumed here.
-/

namespace FactorUsb.Calls

universe u v w

/-- A finite program that returns a value, or makes a call and continues from its reply. -/
inductive CallTree (Call : Type u) (Reply : Call → Type v) (A : Type w) where
  | pure (a : A)
  | call (c : Call) (next : Reply c → CallTree Call Reply A)

/-- A call together with the reply it received. -/
abbrev CallEvent (Call : Type u) (Reply : Call → Type v) := (c : Call) × Reply c

/-- A strategy answering each call from the complete history before it. -/
abbrev Environment (Call : Type u) (Reply : Call → Type v) :=
  List (CallEvent Call Reply) → (c : Call) → Reply c

variable {Call : Type u} {Reply : Call → Type v}

namespace CallTree

/-- Continue a program from the value it returns. -/
protected def bind {A B : Type w} :
    CallTree Call Reply A → (A → CallTree Call Reply B) → CallTree Call Reply B
  | .pure a, next => next a
  | .call c rest, next => .call c fun r => (rest r).bind next

instance : Monad (CallTree.{u, v, w} Call Reply) where
  pure := .pure
  bind := .bind

end CallTree

/-- Make one call and return its reply. -/
def ask (c : Call) : CallTree Call Reply (Reply c) := .call c .pure

/-- Run a program after the given history, collecting its own calls oldest first. -/
def exec {A : Type w} (env : Environment Call Reply) :
    List (CallEvent Call Reply) → CallTree Call Reply A → A × List (CallEvent Call Reply)
  | _, .pure a => (a, [])
  | past, .call c next =>
    let reply := env past c
    let rest := exec env (past ++ [⟨c, reply⟩]) (next reply)
    (rest.1, ⟨c, reply⟩ :: rest.2)

variable (env : Environment Call Reply) (past : List (CallEvent Call Reply))

/-- A returned value makes no call. -/
@[simp] theorem exec_pure {A : Type w} (a : A) :
    exec env past (pure a : CallTree Call Reply A) = (a, []) := rfl

/-- A single call records exactly the environment's answer. -/
@[simp] theorem exec_ask (c : Call) : exec env past (ask c) = (env past c, [⟨c, env past c⟩]) := rfl

/-- A continuation runs after the history extended by the first program's calls. -/
@[simp] theorem exec_bind {A B : Type w} (tree : CallTree Call Reply A)
    (next : A → CallTree Call Reply B) :
    exec env past (tree >>= next) =
      ((exec env (past ++ (exec env past tree).2) (next (exec env past tree).1)).1,
        (exec env past tree).2 ++
          (exec env (past ++ (exec env past tree).2) (next (exec env past tree).1)).2) := by
  change exec env past (tree.bind next) = _
  induction tree generalizing past with
  | pure a => simp [CallTree.bind, exec]
  | call c rest ih =>
    simp only [CallTree.bind, exec]
    rw [ih]
    simp [List.append_assoc]

/-- A choice made before running selects the program that runs. -/
@[simp] theorem exec_ite {A : Type w} (p : Prop) [Decidable p]
    (left right : CallTree Call Reply A) :
    exec env past (if p then left else right) =
      if p then exec env past left else exec env past right := by
  split <;> rfl

end FactorUsb.Calls
