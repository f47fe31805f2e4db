import FactorUsb.Calls.CallTree

/-!
# Sessions: operations called one after another on a stored state

A session runs a list of operations, each a call tree from the stored state to a
result and the next state, and keeps one record for every completed call.

The run lemmas turn a fact about one call into a fact about every run. The exact
form is the one used for defects: as long as an invariant holds, a call keeps its
promise exactly when it meets a condition, so over a whole run the promise holds
after every call exactly when every call meets the condition.
-/

namespace FactorUsb.Calls

universe u v

variable {Call : Type u} {Reply : Call → Type v} {State Op Result : Type v}

/-- One completed call: what it started from, what it returned and the calls it made. -/
structure CallStep (Call : Type u) (Reply : Call → Type v) (State Op Result : Type v) where
  past : List (CallEvent Call Reply)
  before : State
  op : Op
  result : Result
  after : State
  events : List (CallEvent Call Reply)

/-- The history at the end of the call. -/
def CallStep.history (step : CallStep Call Reply State Op Result) : List (CallEvent Call Reply) :=
  step.past ++ step.events

/-- Call one operation on the stored state. -/
def callStep (env : Environment Call Reply)
    (word : Op → State → CallTree Call Reply (Result × State)) (past : List (CallEvent Call Reply))
    (state : State) (op : Op) :
    CallStep Call Reply State Op Result :=
  let out := exec env past (word op state)
  ⟨past, state, op, out.1.1, out.1.2, out.2⟩

/-- Call the operations in order, each from the state and history the last one left. -/
def session (env : Environment Call Reply)
    (word : Op → State → CallTree Call Reply (Result × State)) :
    List (CallEvent Call Reply) → State → List Op → List (CallStep Call Reply State Op Result)
  | _, _, [] => []
  | past, state, op :: ops =>
    let step := callStep env word past state op
    step :: session env word step.history step.after ops

variable {env : Environment Call Reply} {word : Op → State → CallTree Call Reply (Result × State)}

/-- The history and the state after the operations. -/
def sessionEnd (env : Environment Call Reply)
    (word : Op → State → CallTree Call Reply (Result × State)) :
    List (CallEvent Call Reply) → State → List Op → List (CallEvent Call Reply) × State
  | past, state, [] => (past, state)
  | past, state, op :: ops =>
    let step := callStep env word past state op
    sessionEnd env word step.history step.after ops

/-- Operations in a row end where the later ones end that start where the first ones ended. -/
theorem sessionEnd_append (past : List (CallEvent Call Reply)) (state : State)
    (ops later : List Op) :
    sessionEnd env word past state (ops ++ later) =
      sessionEnd env word (sessionEnd env word past state ops).1
        (sessionEnd env word past state ops).2 later := by
  induction ops generalizing past state with
  | nil => rfl
  | cons op ops ih => exact ih _ _

/-- The calls of operations in a row are the first ones and then the later ones. -/
theorem session_append (past : List (CallEvent Call Reply)) (state : State) (ops later : List Op) :
    session env word past state (ops ++ later) =
      session env word past state ops ++
        session env word (sessionEnd env word past state ops).1
          (sessionEnd env word past state ops).2 later := by
  induction ops generalizing past state with
  | nil => rfl
  | cons op ops ih => exact congrArg (callStep env word past state op :: ·) (ih _ _)

/-- What one call preserves holds at the end of a session. -/
theorem sessionEnd_invariant (inv : List (CallEvent Call Reply) → State → Prop)
    (hstep : ∀ past state op, inv past state →
      inv (callStep env word past state op).history (callStep env word past state op).after)
    (past : List (CallEvent Call Reply)) (state : State) (ops : List Op) (h : inv past state) :
    inv (sessionEnd env word past state ops).1 (sessionEnd env word past state ops).2 := by
  induction ops generalizing past state with
  | nil => exact h
  | cons op ops ih => exact ih _ _ (hstep past state op h)

/-- What one call preserves holds before every call of a run. -/
theorem session_invariant (inv : List (CallEvent Call Reply) → State → Prop)
    (hstep : ∀ past state op, inv past state →
      inv (callStep env word past state op).history (callStep env word past state op).after)
    (past : List (CallEvent Call Reply)) (state : State) (ops : List Op) (h : inv past state) :
    ∀ step ∈ session env word past state ops,
      inv step.past step.before ∧ step = callStep env word step.past step.before step.op := by
  induction ops generalizing past state with
  | nil => simp [session]
  | cons op ops ih =>
    intro step hmem
    rcases List.mem_cons.mp hmem with rfl | hlater
    · exact ⟨h, rfl⟩
    · exact ih _ _ (hstep past state op h) step hlater

/-- What the invariant says about the history holds of the history at the end of a run. -/
theorem session_history {Q : List (CallEvent Call Reply) → Prop}
    (inv : List (CallEvent Call Reply) → State → Prop)
    (hstep : ∀ past state op, inv past state →
      inv (callStep env word past state op).history (callStep env word past state op).after)
    (hhistory : ∀ past state, inv past state → Q past)
    (past : List (CallEvent Call Reply)) (state : State) (ops : List Op) (h : inv past state) :
    Q (past ++ (session env word past state ops).flatMap CallStep.events) := by
  induction ops generalizing past state with
  | nil => simpa [session] using hhistory past state h
  | cons op ops ih =>
    have hrest := ih _ _ (hstep past state op h)
    rwa [CallStep.history, List.append_assoc] at hrest

/-- A promise each call keeps under the invariant is kept by every call of a run. -/
theorem session_forall (inv : List (CallEvent Call Reply) → State → Prop)
    (promise : CallStep Call Reply State Op Result → Prop)
    (hpromise : ∀ past state op, inv past state → promise (callStep env word past state op))
    (hstep : ∀ past state op, inv past state →
      inv (callStep env word past state op).history (callStep env word past state op).after)
    (past : List (CallEvent Call Reply)) (state : State) (ops : List Op) (h : inv past state) :
    ∀ step ∈ session env word past state ops, promise step := by
  intro step hmem
  obtain ⟨hinv, heq⟩ := session_invariant inv hstep past state ops h step hmem
  rw [heq]
  exact hpromise _ _ _ hinv

/-- A ledger the calls add to, with an invariant that relates it to the state, describes every call
of a run by the entries of the calls before it. -/
theorem session_ledger {A : Type*} (inv : List (CallEvent Call Reply) → State → List A → Prop)
    (added : CallStep Call Reply State Op Result → List A)
    (hstep : ∀ past state op entries, inv past state entries →
      inv (callStep env word past state op).history (callStep env word past state op).after
        (entries ++ added (callStep env word past state op)))
    (past : List (CallEvent Call Reply)) (state : State) (ops : List Op) (entries : List A)
    (h : inv past state entries) :
    ∀ earlier step later, session env word past state ops = earlier ++ step :: later →
      inv step.past step.before (entries ++ earlier.flatMap added) ∧
        step = callStep env word step.past step.before step.op := by
  induction ops generalizing past state entries with
  | nil =>
    intro earlier step later hsplit
    cases earlier <;> cases hsplit
  | cons op ops ih =>
    intro earlier step later hsplit
    cases earlier with
    | nil =>
      obtain ⟨rfl, rfl⟩ := List.cons.inj hsplit
      rw [List.flatMap_nil, List.append_nil]
      exact ⟨h, rfl⟩
    | cons first earlier =>
      obtain ⟨rfl, hrest⟩ := List.cons.inj hsplit
      rw [List.flatMap_cons, ← List.append_assoc]
      exact ih _ _ _ (hstep past state op entries h) earlier step later hrest

/-- What every call adds to a list kept over the history, a run adds in the order of its calls. -/
theorem session_filterMap {A : Type*} (inv : List (CallEvent Call Reply) → State → Prop)
    (kept : List (CallEvent Call Reply) → List A)
    (added : CallStep Call Reply State Op Result → Option A)
    (hadded : ∀ past state op, inv past state →
      kept (callStep env word past state op).history =
        kept past ++ (added (callStep env word past state op)).toList)
    (hstep : ∀ past state op, inv past state →
      inv (callStep env word past state op).history (callStep env word past state op).after)
    (past : List (CallEvent Call Reply)) (state : State) (ops : List Op) (h : inv past state) :
    kept (past ++ (session env word past state ops).flatMap CallStep.events) =
      kept past ++ (session env word past state ops).filterMap added := by
  induction ops generalizing past state with
  | nil => simp [session]
  | cons op ops ih =>
    have hrest := ih _ _ (hstep past state op h)
    rw [hadded past state op h] at hrest
    rw [session, List.flatMap_cons, ← List.append_assoc]
    change kept ((callStep env word past state op).history ++ _) = _
    rw [hrest, List.append_assoc, List.filterMap_cons]
    cases added (callStep env word past state op) <;> simp

/-- If every call of a run meets the condition that keeps the invariant, every
call keeps its promise. -/
theorem session_forall_of_condition (inv : List (CallEvent Call Reply) → State → Prop)
    (condition promise : CallStep Call Reply State Op Result → Prop)
    (hpromise : ∀ past state op, inv past state → condition (callStep env word past state op) →
      promise (callStep env word past state op))
    (hstep : ∀ past state op, inv past state → condition (callStep env word past state op) →
      inv (callStep env word past state op).history (callStep env word past state op).after)
    (past : List (CallEvent Call Reply)) (state : State) (ops : List Op) (h : inv past state)
    (hcond : ∀ step ∈ session env word past state ops, condition step) :
    ∀ step ∈ session env word past state ops, promise step := by
  induction ops generalizing past state with
  | nil => simp [session]
  | cons op ops ih =>
    simp only [session, List.forall_mem_cons] at hcond ⊢
    obtain ⟨hfirst, hrest⟩ := hcond
    exact ⟨hpromise past state op h hfirst, ih _ _ (hstep past state op h hfirst) hrest⟩

/-- The first call that breaks the promise is the first that misses the condition. -/
theorem session_forall_iff (inv : List (CallEvent Call Reply) → State → Prop)
    (promise condition : CallStep Call Reply State Op Result → Prop)
    (hexact : ∀ past state op, inv past state →
      (promise (callStep env word past state op) ↔ condition (callStep env word past state op)))
    (hstep : ∀ past state op, inv past state → condition (callStep env word past state op) →
      inv (callStep env word past state op).history (callStep env word past state op).after)
    (past : List (CallEvent Call Reply)) (state : State) (ops : List Op) (h : inv past state) :
    (∀ step ∈ session env word past state ops, promise step) ↔
      ∀ step ∈ session env word past state ops, condition step := by
  constructor
  · apply session_forall_of_condition inv promise condition _ _ past state ops h
    · exact fun past state op hinv => (hexact past state op hinv).mp
    · exact fun past state op hinv hkept =>
        hstep past state op hinv ((hexact past state op hinv).mp hkept)
  · apply session_forall_of_condition inv condition promise _ hstep past state ops h
    exact fun past state op hinv => (hexact past state op hinv).mpr

/-- Two sessions in one environment agree call by call exactly when every call meets the condition.
The relation between the two states may depend on the operations still to come. -/
theorem session_forall₂_iff {State' Result' : Type v}
    {word' : Op → State' → CallTree Call Reply (Result' × State')}
    (rel : State → State' → List Op → Prop)
    (agree : CallStep Call Reply State Op Result → CallStep Call Reply State' Op Result' → Prop)
    (condition : CallStep Call Reply State Op Result → Prop)
    (hexact : ∀ past state state' op ops, rel state state' (op :: ops) →
      (agree (callStep env word past state op) (callStep env word' past state' op) ↔
        condition (callStep env word past state op)))
    (hstep : ∀ past state state' op ops, rel state state' (op :: ops) →
      condition (callStep env word past state op) →
        (callStep env word past state op).events = (callStep env word' past state' op).events ∧
          rel (callStep env word past state op).after (callStep env word' past state' op).after ops)
    (past : List (CallEvent Call Reply)) (state : State) (state' : State') (ops : List Op)
    (h : rel state state' ops) :
    List.Forall₂ agree (session env word past state ops) (session env word' past state' ops) ↔
      ∀ step ∈ session env word past state ops, condition step := by
  induction ops generalizing past state state' with
  | nil => simp [session]
  | cons op ops ih =>
    simp only [session, List.forall_mem_cons, List.forall₂_cons, hexact past state state' op ops h]
    apply and_congr_right
    intro hcond
    obtain ⟨hevents, hafter⟩ := hstep past state state' op ops h hcond
    have hhistory : (callStep env word' past state' op).history =
      (callStep env word past state op).history :=
      congrArg (past ++ ·) hevents.symm
    rw [hhistory]
    exact ih _ _ _ hafter

end FactorUsb.Calls
