import ModbusCpp.Resumption

/-!
# Programs under interference

Between two operations of a program the state may change in any way that keeps
an invariant.  A program ensures a postcondition if the value it returns is
right for the operations it performed and the states in which it performed
them, whatever these were.
-/

namespace Resumption

variable {Op : Type} {Result : Op → Type} {σ α β : Type}
  {apply : (op : Op) → σ → Result op × σ} {Inv : σ → Prop}

/-- The postcondition is about the operations, each with the state it found,
and the value returned. -/
def Ensures (apply : (op : Op) → σ → Result op × σ) (Inv : σ → Prop) :
    Resumption Op Result α → (List (Op × σ) → α → Prop) → Prop
  | done value, post => post [] value
  | perform op next, post =>
      ∀ state, Inv state →
        Ensures apply Inv (next (apply op state).1) fun steps => post ((op, state) :: steps)

@[simp]
theorem ensures_done (value : α) (post : List (Op × σ) → α → Prop) :
    Ensures apply Inv (done value : Resumption Op Result α) post ↔ post [] value :=
  Iff.rfl

@[simp]
theorem ensures_pure (value : α) (post : List (Op × σ) → α → Prop) :
    Ensures apply Inv (pure value : Resumption Op Result α) post ↔ post [] value :=
  Iff.rfl

@[simp]
theorem ensures_perform (op : Op) (next : Result op → Resumption Op Result α)
    (post : List (Op × σ) → α → Prop) :
    Ensures apply Inv (perform op next) post ↔
      ∀ state, Inv state →
        Ensures apply Inv (next (apply op state).1) fun steps => post ((op, state) :: steps) :=
  Iff.rfl

/-- The second of two programs goes on with the steps of the first. -/
@[simp]
theorem ensures_bind (program : Resumption Op Result α) (next : α → Resumption Op Result β)
    (post : List (Op × σ) → β → Prop) :
    Ensures apply Inv (program >>= next) post ↔
      Ensures apply Inv program fun steps value =>
        Ensures apply Inv (next value) fun later => post (steps ++ later) := by
  induction program generalizing post with
  | done value => exact Iff.rfl
  | perform op rest ih =>
      refine forall_congr' fun state => imp_congr_right fun _ => ?_
      exact ih _ _

theorem ensures_congr (program : Resumption Op Result α) {post other : List (Op × σ) → α → Prop}
    (same : ∀ steps value, post steps value ↔ other steps value) :
    Ensures apply Inv program post ↔ Ensures apply Inv program other := by
  have equal : post = other := by
    funext steps value
    exact propext (same steps value)
  rw [equal]

theorem Ensures.mono {program : Resumption Op Result α} {post weaker : List (Op × σ) → α → Prop}
    (ensures : Ensures apply Inv program post)
    (weakens : ∀ steps value, post steps value → weaker steps value) :
    Ensures apply Inv program weaker := by
  induction program generalizing post weaker with
  | done value => exact weakens [] value ensures
  | perform op next ih =>
      intro state holds
      exact ih _ (ensures state holds) fun steps value => weakens ((op, state) :: steps) value

/-- A program that runs alone is one under no interference. -/
theorem Ensures.run {program : Resumption Op Result α} {post : List (Op × σ) → α → Prop}
    (ensures : Ensures apply Inv program post)
    (stable : ∀ op state, Inv state → Inv (apply op state).2) {state : σ} (holds : Inv state) :
    ∃ steps, post steps (run apply program state).1 := by
  induction program generalizing post state with
  | done value => exact ⟨[], ensures⟩
  | perform op next ih =>
      obtain ⟨steps, met⟩ := ih _ (ensures state holds) (stable op state holds)
      exact ⟨(op, state) :: steps, met⟩

end Resumption
