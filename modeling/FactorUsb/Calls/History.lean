import Mathlib.Data.List.Basic

/-!
# What a history still holds, and what every event owes its past

Many properties of a system interface have one of two shapes. Something was acquired
by an earlier event and no later event has released it; a resource acquired again
after its release is held again. Or every event is allowed by the history before it.

Both are stated once for an arbitrary history, with the append laws that an invariant
proof needs.
-/

namespace FactorUsb.Calls

variable {Event : Type*}

/-- Some event acquired the resource and no later event released it. -/
def Held (acquires releases : Event → Bool) : List Event → Prop
  | [] => False
  | e :: later => Held acquires releases later ∨
    (acquires e = true ∧ ∀ e' ∈ later, releases e' = false)

variable {acquires releases : Event → Bool}

/-- Holding is decided by scanning the history. -/
instance Held.decidable : DecidablePred (Held acquires releases)
  | [] => .isFalse id
  | _ :: later => @instDecidableOr _ _ (Held.decidable later) inferInstance

/-- The recursive scan finds exactly a split of the history at the acquiring event. -/
theorem held_iff_exists (history : List Event) :
    Held acquires releases history ↔
      ∃ earlier e later, history = earlier ++ e :: later ∧ acquires e = true ∧
        ∀ e' ∈ later, releases e' = false := by
  induction history with
  | nil => simp [Held]
  | cons head tail ih =>
    rw [Held, ih]
    constructor
    · intro hcases
      obtain ⟨earlier, e, later, rfl, ha, hr⟩ | ⟨ha, hr⟩ := hcases
      · exact ⟨head :: earlier, e, later, rfl, ha, hr⟩
      · exact ⟨[], head, tail, rfl, ha, hr⟩
    · intro hgiven
      obtain ⟨earlier, e, later, heq, ha, hr⟩ := hgiven
      cases earlier with
      | nil =>
        obtain ⟨rfl, rfl⟩ := List.cons.inj heq
        exact Or.inr ⟨ha, hr⟩
      | cons _ earlier =>
        obtain ⟨rfl, rfl⟩ := List.cons.inj heq
        exact Or.inl ⟨earlier, e, later, rfl, ha, hr⟩

/-- Nothing is held before the first event. -/
@[simp] theorem not_held_nil : ¬ Held acquires releases [] := id

/-- A later stretch either acquires the resource itself or must not release it. -/
theorem held_append (earlier later : List Event) :
    Held acquires releases (earlier ++ later) ↔
      Held acquires releases later ∨
        (Held acquires releases earlier ∧ ∀ e ∈ later, releases e = false) := by
  induction earlier with
  | nil => simp
  | cons head tail ih =>
    simp only [List.cons_append, Held, ih, List.forall_mem_append]
    tauto

/-- Something held was acquired by an event of the history. -/
theorem Held.exists_acquires {history : List Event} (h : Held acquires releases history) :
    ∃ e ∈ history, acquires e = true := by
  obtain ⟨earlier, e, later, rfl, ha, _⟩ := (held_iff_exists history).mp h
  exact ⟨e, by simp, ha⟩

/-- A stretch with no acquiring and no releasing event changes nothing. -/
theorem held_append_of_neutral (earlier later : List Event) (ha : ∀ e ∈ later, acquires e = false)
    (hr : ∀ e ∈ later, releases e = false) :
    Held acquires releases (earlier ++ later) ↔ Held acquires releases earlier := by
  rw [held_append, or_iff_right (fun h => ?_), and_iff_left hr]
  obtain ⟨e, he, hacq⟩ := h.exists_acquires
  exact Bool.false_ne_true ((ha e he).symm.trans hacq)

/-- Every event of a stretch satisfies a property of the history before it. -/
def Throughout (allowed : List Event → Event → Prop) : List Event → List Event → Prop
  | _, [] => True
  | past, e :: later => allowed past e ∧ Throughout allowed (past ++ [e]) later

variable {allowed : List Event → Event → Prop}

/-- A decidable property is checked along the stretch. -/
instance Throughout.decidable [∀ past e, Decidable (allowed past e)] (past events : List Event) :
    Decidable (Throughout allowed past events) :=
  match events with
  | [] => .isTrue trivial
  | e :: later => @instDecidableAnd _ _ inferInstance (Throughout.decidable (past ++ [e]) later)

/-- The recursive check covers exactly the splits of the stretch at one event. -/
theorem throughout_iff_forall (past events : List Event) :
    Throughout allowed past events ↔
      ∀ earlier e later, events = earlier ++ e :: later → allowed (past ++ earlier) e := by
  induction events generalizing past with
  | nil => simp [Throughout]
  | cons head tail ih =>
    rw [Throughout, ih]
    constructor
    · rintro ⟨hhead, htail⟩ earlier e later heq
      cases earlier with
      | nil =>
        obtain ⟨rfl, rfl⟩ := List.cons.inj heq
        simpa using hhead
      | cons first earlier =>
        obtain ⟨rfl, rfl⟩ := List.cons.inj heq
        simpa using htail earlier e later rfl
    · intro h
      refine ⟨by simpa using h [] head tail rfl, fun earlier e later heq => ?_⟩
      simpa using h (head :: earlier) e later (by rw [heq, List.cons_append])

/-- A weaker property is satisfied as well. -/
theorem Throughout.mono {allowed' : List Event → Event → Prop} {past events : List Event}
    (h : Throughout allowed past events) (himp : ∀ past e, allowed past e → allowed' past e) :
    Throughout allowed' past events := by
  induction events generalizing past with
  | nil => trivial
  | cons e later ih => exact ⟨himp past e h.1, ih h.2⟩

/-- Two stretches are checked one after the other. -/
theorem throughout_append (past first later : List Event) :
    Throughout allowed past (first ++ later) ↔
      Throughout allowed past first ∧ Throughout allowed (past ++ first) later := by
  induction first generalizing past with
  | nil => simp [Throughout]
  | cons e rest ih =>
    rw [List.cons_append, Throughout, Throughout, ih, and_assoc, List.append_assoc,
      List.singleton_append]

/-- Without an event that releases, everything acquired is held. -/
theorem held_iff_of_not_released {history : List Event} (hr : ∀ e ∈ history, releases e = false) :
    Held acquires releases history ↔ ∃ e ∈ history, acquires e = true := by
  refine ⟨Held.exists_acquires, fun ⟨e, he, hacq⟩ => ?_⟩
  obtain ⟨earlier, later, rfl⟩ := List.append_of_mem he
  exact (held_iff_exists _).mpr
    ⟨earlier, e, later, rfl, hacq, fun e' he' => hr e' (by simp [he'])⟩

/-- Every event that needs a reason comes after one. -/
def Preceded (needs reason : Event → Prop) (history : List Event) : Prop :=
  Throughout (fun past e => needs e → ∃ e' ∈ past, reason e') [] history

variable {needs reason : Event → Prop}

instance [DecidablePred needs] [DecidablePred reason] : DecidablePred (Preceded needs reason) :=
  fun _ => inferInstanceAs (Decidable (Throughout ..))

/-- The reason of an event lies before it. -/
theorem Preceded.exists_reason {earlier later : List Event} {e : Event}
    (h : Preceded needs reason (earlier ++ e :: later)) (he : needs e) :
    ∃ e' ∈ earlier, reason e' :=
  (throughout_iff_forall [] _).mp h earlier e later rfl he

/-- One reason suffices for all later events. -/
theorem preceded_of_split {earlier later : List Event} {e : Event}
    (hearlier : ∀ e' ∈ earlier, ¬ needs e') (he : ¬ needs e) (hreason : reason e) :
    Preceded needs reason (earlier ++ e :: later) := by
  apply (throughout_iff_forall [] _).mpr
  intro before e' after heq hneeds
  rw [List.nil_append]
  obtain ⟨between, rfl, htail⟩ | ⟨between, rfl, htail⟩ := List.append_eq_append_iff.mp heq
  · cases between with
    | nil => exact absurd ((List.cons.inj htail).1 ▸ hneeds) he
    | cons first between => exact ⟨e, by simp [(List.cons.inj htail).1], hreason⟩
  · cases between with
    | nil => exact absurd ((List.cons.inj htail).1 ▸ hneeds) he
    | cons first between => exact absurd hneeds (hearlier e' (by simp [(List.cons.inj htail).1]))

/-- Without an event that needs a reason there is nothing to precede. -/
theorem preceded_of_not_needs {history : List Event} (h : ∀ e ∈ history, ¬ needs e) :
    Preceded needs reason history := by
  apply (throughout_iff_forall [] _).mpr
  intro earlier e later heq hneeds
  exact absurd hneeds (h e (by simp [heq]))

/-- An event that needs a reason directly after the only possible one. -/
theorem preceded_split_iff {earlier later : List Event} {c e : Event}
    (hneeds : ∀ e' ∈ earlier, ¬ needs e') (hreason : ∀ e' ∈ earlier, ¬ reason e') (hc : ¬ needs c)
    (he : needs e) : Preceded needs reason (earlier ++ c :: e :: later) ↔ reason c := by
  constructor
  · intro h
    rw [List.append_cons] at h
    obtain ⟨e', he', hfound⟩ := h.exists_reason he
    rcases List.mem_append.mp he' with hearlier | hlast
    · exact absurd hfound (hreason e' hearlier)
    · rwa [List.mem_singleton.mp hlast] at hfound
  · exact preceded_of_split hneeds hc

/-- Two splits of one history at events that count, with equally many
counted before, are the same. -/
theorem split_eq_of_countP_eq {counts : Event → Bool} {earlier earlier' later later' : List Event}
    {e e' : Event} (heq : earlier ++ e :: later = earlier' ++ e' :: later') (he : counts e = true)
    (he' : counts e' = true) (hcount : earlier.countP counts = earlier'.countP counts) :
    earlier = earlier' := by
  induction earlier generalizing earlier' with
  | nil =>
    cases earlier' with
    | nil => rfl
    | cons first earlier' =>
      obtain ⟨rfl, -⟩ := List.cons.inj heq
      simp [he] at hcount
  | cons first earlier ih =>
    cases earlier' with
    | nil =>
      obtain ⟨rfl, -⟩ := List.cons.inj heq
      simp [he'] at hcount
    | cons first' earlier' =>
      obtain ⟨rfl, hrest⟩ := List.cons.inj heq
      rw [List.countP_cons, List.countP_cons, Nat.add_right_cancel_iff] at hcount
      rw [ih hrest hcount]

end FactorUsb.Calls
