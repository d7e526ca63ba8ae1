import Mathlib.Tactic.Common

/-!
# Programs over atomic operations

A resumption performs operations one at a time and goes on with the result of
each.  The operations are the only points at which it touches shared state, so
the same program can be run alone or interleaved with others.  Running it alone
threads the state through its operations in order.
-/

/-- A program that performs operations of `Op` and returns an `α`. -/
inductive Resumption (Op : Type) (Result : Op → Type) (α : Type) : Type
  | done (value : α)
  | perform (op : Op) (next : Result op → Resumption Op Result α)

namespace Resumption

variable {Op : Type} {Result : Op → Type} {σ α β : Type}

def bind : Resumption Op Result α → (α → Resumption Op Result β) →
    Resumption Op Result β
  | done value, next => next value
  | perform op rest, next => perform op fun result => bind (rest result) next

instance : Monad (Resumption Op Result) where
  pure := done
  bind := bind

/-- Run a program alone on a state. -/
def run (apply : (op : Op) → σ → Result op × σ) :
    Resumption Op Result α → σ → α × σ
  | done value, state => (value, state)
  | perform op next, state => run apply (next (apply op state).1) (apply op state).2

@[simp]
theorem run_pure (apply : (op : Op) → σ → Result op × σ) (value : α) (state : σ) :
    run apply (pure value : Resumption Op Result α) state = (value, state) :=
  rfl

@[simp]
theorem run_done (apply : (op : Op) → σ → Result op × σ) (value : α) (state : σ) :
    run apply (done value : Resumption Op Result α) state = (value, state) :=
  rfl

@[simp]
theorem run_perform (apply : (op : Op) → σ → Result op × σ) (op : Op)
    (next : Result op → Resumption Op Result α) (state : σ) :
    run apply (perform op next) state = run apply (next (apply op state).1) (apply op state).2 :=
  rfl

/-- Sequencing two programs runs the second on what the first left. -/
@[simp]
theorem run_bind (apply : (op : Op) → σ → Result op × σ)
    (program : Resumption Op Result α) (next : α → Resumption Op Result β) (state : σ) :
    run apply (program >>= next) state =
      run apply (next (run apply program state).1) (run apply program state).2 := by
  induction program generalizing state with
  | done value => rfl
  | perform op rest ih => exact ih (apply op state).1 (apply op state).2

/-- A relation that every operation keeps to is kept to by a program. -/
theorem run_keeps {Keeps : σ → σ → Prop} (refl : ∀ state, Keeps state state)
    (trans : ∀ {last middle first}, Keeps last middle → Keeps middle first → Keeps last first)
    {apply : (op : Op) → σ → Result op × σ} (kept : ∀ op state, Keeps (apply op state).2 state)
    (program : Resumption Op Result α) (state : σ) :
    Keeps (run apply program state).2 state := by
  induction program generalizing state with
  | done value => exact refl state
  | perform op next ih => exact trans (ih _ _) (kept op state)

end Resumption
