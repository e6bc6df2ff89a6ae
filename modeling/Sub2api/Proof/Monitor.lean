import Sub2api.Handler.Types

/-! Safety monitors over the calls of a run. A claim about every run of the handler is stated
as a monitor that refuses the first call breaking it, together with the states it may end in. -/

namespace Sub2api.Proof

open Sub2api.Handler

/-- A monitor: `step` answers `none` for a call the property forbids at that point. -/
structure Monitor (State : Type) where
  init : State
  step : State → Event → Option State
  accepting : State → Prop

namespace Monitor

variable {State : Type} (m : Monitor State)

/-- Feed the calls of a trace to the monitor, from a given state. -/
def run : State → List Event → Option State
  | s, [] => some s
  | s, e :: es => (m.step s e).bind fun s' => run s' es

/-- The monitor lets every call of the trace through and ends in an accepting state. -/
def Accepts (trace : List Event) : Prop :=
  ∃ s, m.run m.init trace = some s ∧ m.accepting s

@[simp] theorem run_nil (s : State) : m.run s [] = some s := rfl

@[simp] theorem run_cons (s : State) (e : Event) (es : List Event) :
    m.run s (e :: es) = (m.step s e).bind fun s' => m.run s' es := rfl

theorem run_append (s : State) (xs ys : List Event) :
    m.run s (xs ++ ys) = (m.run s xs).bind fun s' => m.run s' ys := by
  induction xs generalizing s with
  | nil => rfl
  | cons e es ih =>
    simp only [List.cons_append, run_cons, ih]
    cases m.step s e <;> rfl

/-- From `s`, the monitor lets every call of the trace through and ends in an accepting state.
`Accepts` is this from the initial state. -/
def AcceptsFrom (s : State) (trace : List Event) : Prop :=
  ∃ s', m.run s trace = some s' ∧ m.accepting s'

/-- Runs compose: the second segment starts where the first ended. -/
theorem acceptsFrom_append {s s' : State} {xs ys : List Event} (first : m.run s xs = some s')
    (second : m.AcceptsFrom s' ys) : m.AcceptsFrom s (xs ++ ys) := by
  rw [AcceptsFrom, run_append, first]
  exact second

end Monitor

end Sub2api.Proof
