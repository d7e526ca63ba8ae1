import ModbusCpp.Resumption

/-!
# Interleaved programs

Two programs on one state take turns, one operation at a time.  An interleaved
run comes to what running one program after the other does if no operation of
the second is followed by one of the first that it conflicts with: such an
operation can be moved behind all that is left of the first program.
-/

namespace Resumption

variable {Op : Type} {Result : Op → Type} {σ α β : Type}

/-- The two programs of a run. -/
inductive Side
  | left
  | right
  deriving DecidableEq

def Side.other : Side → Side
  | left => right
  | right => left

theorem Side.other_inj {first second : Side} : first.other = second.other ↔ first = second := by
  cases first <;> cases second <;> decide

/-- One operation of an interleaved run. -/
structure Step (Op : Type) where
  side : Side
  op : Op

def Step.swap (step : Step Op) : Step Op :=
  ⟨step.side.other, step.op⟩

/-- Two programs run from a state to their ends, by the steps of a trace. -/
inductive Interleaved (apply : (op : Op) → σ → Result op × σ) :
    Resumption Op Result α → Resumption Op Result β → σ → List (Step Op) →
      α → β → σ → Prop
  | done (first : α) (second : β) (state : σ) :
      Interleaved apply (.done first) (.done second) state [] first second state
  | left {op : Op} {next : Result op → Resumption Op Result α}
      {right : Resumption Op Result β} {state last : σ} {trace : List (Step Op)}
      {first : α} {second : β}
      (rest : Interleaved apply (next (apply op state).1) right (apply op state).2 trace
        first second last) :
      Interleaved apply (.perform op next) right state (⟨.left, op⟩ :: trace) first second last
  | right {op : Op} {left : Resumption Op Result α}
      {next : Result op → Resumption Op Result β} {state last : σ} {trace : List (Step Op)}
      {first : α} {second : β}
      (rest : Interleaved apply left (next (apply op state).1) (apply op state).2 trace
        first second last) :
      Interleaved apply left (.perform op next) state (⟨.right, op⟩ :: trace) first second last

/-- Two operations that do not see each other. -/
structure Independent (apply : (op : Op) → σ → Result op × σ) (op other : Op) : Prop where
  result : ∀ state, (apply op (apply other state).2).1 = (apply op state).1
  otherResult : ∀ state, (apply other (apply op state).2).1 = (apply other state).1
  state : ∀ state, (apply other (apply op state).2).2 = (apply op (apply other state).2).2

/-- No operation of the other program is followed by one of this side that it
conflicts with. -/
def GoesFirst (Conflict : Op → Op → Prop) (side : Side) (trace : List (Step Op)) : Prop :=
  trace.Pairwise fun earlier later =>
    earlier.side = side.other → later.side = side → ¬ Conflict earlier.op later.op

/-- The operations that a program performs when it runs alone. -/
def operations (apply : (op : Op) → σ → Result op × σ) :
    Resumption Op Result α → σ → List Op
  | done _, _ => []
  | perform op next, state => op :: operations apply (next (apply op state).1) (apply op state).2

section Serial

variable {apply : (op : Op) → σ → Result op × σ}

/-- An operation can be moved behind a program whose operations do not see it. -/
theorem run_after_apply {op : Op} {program : Resumption Op Result α} {state : σ}
    (apart : ∀ other ∈ operations apply program (apply op state).2,
      Independent apply op other) :
    run apply program (apply op state).2 =
        ((run apply program state).1, (apply op (run apply program state).2).2) ∧
      (apply op (run apply program state).2).1 = (apply op state).1 ∧
      operations apply program (apply op state).2 = operations apply program state := by
  induction program generalizing state with
  | done value => exact ⟨rfl, rfl, rfl⟩
  | perform other next ih =>
      have independent := apart other List.mem_cons_self
      have same := independent.otherResult state
      have commutes := independent.state state
      have behind : ∀ later ∈ operations apply (next (apply other state).1)
          (apply op (apply other state).2).2, Independent apply op later := by
        intro later laterMem
        rw [← commutes, ← same] at laterMem
        exact apart later (List.mem_cons_of_mem _ laterMem)
      obtain ⟨ran, result, performed⟩ := ih (apply other state).1 behind
      refine ⟨?_, ?_, ?_⟩
      · rw [run_perform, run_perform, same, commutes, ran]
      · rw [run_perform, result, independent.result state]
      · rw [operations, operations, same, commutes, performed]

theorem Interleaved.swap {left : Resumption Op Result α} {right : Resumption Op Result β}
    {state last : σ} {trace : List (Step Op)} {first : α} {second : β}
    (interleaved : Interleaved apply left right state trace first second last) :
    Interleaved apply right left state (trace.map Step.swap) second first last := by
  induction interleaved with
  | done first second state => exact .done second first state
  | left rest ih => exact .right ih
  | right rest ih => exact .left ih

theorem GoesFirst.swap {Conflict : Op → Op → Prop} {side : Side} {trace : List (Step Op)}
    (order : GoesFirst Conflict side trace) :
    GoesFirst Conflict side.other (trace.map Step.swap) := by
  refine List.pairwise_map.mpr (order.imp ?_)
  intro earlier later apart earlierSide laterSide
  exact apart (Side.other_inj.mp earlierSide) (Side.other_inj.mp laterSide)

/-- Running the left program first comes to the same. -/
theorem Interleaved.run_left_right {Conflict : Op → Op → Prop}
    (independent : ∀ op other, ¬ Conflict op other → Independent apply op other)
    {left : Resumption Op Result α} {right : Resumption Op Result β}
    {state last : σ} {trace : List (Step Op)} {first : α} {second : β}
    (interleaved : Interleaved apply left right state trace first second last)
    (order : GoesFirst Conflict .left trace) :
    ∃ middle, run apply left state = (first, middle) ∧
      run apply right middle = (second, last) ∧
      operations apply left state =
        (trace.filter fun step => step.side = .left).map Step.op := by
  induction interleaved with
  | done first second state => exact ⟨state, rfl, rfl, rfl⟩
  | @left op next right state last trace first second rest ih =>
      obtain ⟨middle, ran, rightRan, performed⟩ := ih order.of_cons
      refine ⟨middle, ran, rightRan, ?_⟩
      rw [operations, performed]
      rfl
  | @right op left next state last trace first second rest ih =>
      obtain ⟨alone, order⟩ := List.pairwise_cons.mp order
      obtain ⟨middle, ran, rightRan, performed⟩ := ih order
      have apart : ∀ other ∈ operations apply left (apply op state).2,
          Independent apply op other := by
        intro other otherMem
        rw [performed] at otherMem
        obtain ⟨step, stepMem, rfl⟩ := List.mem_map.mp otherMem
        obtain ⟨inTrace, onLeft⟩ := List.mem_filter.mp stepMem
        exact independent _ _ (alone step inTrace rfl (of_decide_eq_true onLeft))
      obtain ⟨moved, result, same⟩ := run_after_apply apart
      rw [moved] at ran
      obtain ⟨rfl, rfl⟩ := Prod.mk.inj ran
      refine ⟨(run apply left state).2, rfl, ?_, ?_⟩
      · rw [run_perform, result, rightRan]
      · rw [← same, performed]
        rfl

/-- An interleaved run is serial if one of the programs goes first. -/
theorem Interleaved.serial {Conflict : Op → Op → Prop}
    (independent : ∀ op other, ¬ Conflict op other → Independent apply op other)
    {left : Resumption Op Result α} {right : Resumption Op Result β}
    {state last : σ} {trace : List (Step Op)} {first : α} {second : β}
    (interleaved : Interleaved apply left right state trace first second last) :
    (GoesFirst Conflict .left trace → ∃ middle, run apply left state = (first, middle) ∧
      run apply right middle = (second, last)) ∧
    (GoesFirst Conflict .right trace → ∃ middle, run apply right state = (second, middle) ∧
      run apply left middle = (first, last)) := by
  constructor
  · intro order
    obtain ⟨middle, ran, rightRan, -⟩ := interleaved.run_left_right independent order
    exact ⟨middle, ran, rightRan⟩
  · intro order
    obtain ⟨middle, ran, leftRan, -⟩ := interleaved.swap.run_left_right independent order.swap
    exact ⟨middle, ran, leftRan⟩

end Serial

end Resumption
