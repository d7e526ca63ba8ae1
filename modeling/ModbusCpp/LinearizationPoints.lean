import ModbusCpp.Expansion

/-!
# Programs with a linearization point

All operations of a program but one may leave the state alone and go on in the
same way, whatever the state.  Under interference, such a program does at that
one operation what it does when it runs alone.
-/

namespace Resumption

variable {Op Small : Type} {Result : Op → Type} {SmallResult : Small → Type} {σ τ α β : Type}

/-- A program that leaves the state as it is and returns a value. -/
inductive Decided (apply : (op : Op) → σ → Result op × σ) (Inv : σ → Prop) (value : α) :
    Resumption Op Result α → Prop
  | done : Decided apply Inv value (.done value)
  | quiet {op : Op} {next : Result op → Resumption Op Result α}
      (unchanged : ∀ state, Inv state → (apply op state).2 = state)
      (later : ∀ state, Inv state → Decided apply Inv value (next (apply op state).1)) :
      Decided apply Inv value (.perform op next)

/-- A program that one of its operations decides. -/
inductive Single (apply : (op : Op) → σ → Result op × σ) (Inv : σ → Prop) :
    Resumption Op Result α → Prop
  | decided {value : α} {program : Resumption Op Result α}
      (decided : Decided apply Inv value program) : Single apply Inv program
  | quiet {op : Op} {next : Result op → Resumption Op Result α} {rest : Resumption Op Result α}
      (unchanged : ∀ state, Inv state → (apply op state).2 = state)
      (same : ∀ state, Inv state → next (apply op state).1 = rest)
      (later : Single apply Inv rest) : Single apply Inv (.perform op next)
  | deciding {op : Op} {next : Result op → Resumption Op Result α}
      (decides : ∀ state, Inv state → ∃ value, Decided apply Inv value (next (apply op state).1)) :
      Single apply Inv (.perform op next)

variable {apply : (op : Op) → σ → Result op × σ} {Inv : σ → Prop}
  {program : Resumption Op Result α}

theorem Decided.run {value : α} (decided : Decided apply Inv value program) {state : σ}
    (holds : Inv state) : run apply program state = (value, state) := by
  induction decided with
  | done => rfl
  | quiet unchanged later ih =>
      rw [run_perform, unchanged state holds]
      exact ih state holds

theorem Decided.exists_met {value : α} (decided : Decided apply Inv value program)
    {post : List (Op × σ) → α → Prop} (ensures : Ensures apply Inv program post) {state : σ}
    (holds : Inv state) : ∃ steps, post steps value := by
  induction decided generalizing post with
  | done => exact ⟨[], ensures⟩
  | @quiet op next unchanged later ih =>
      obtain ⟨steps, met⟩ := ih state holds (ensures state holds)
      exact ⟨(op, state) :: steps, met⟩

theorem Decided.bind {value : α} {result : β} {next : α → Resumption Op Result β}
    (decided : Decided apply Inv value program) (returns : next value = .done result) :
    Decided apply Inv result (program >>= next) := by
  induction decided with
  | done =>
      change Decided apply Inv result (next value)
      rw [returns]
      exact .done
  | quiet unchanged later ih => exact .quiet unchanged ih

/-- What is done with the result does not matter, if it performs nothing. -/
theorem Single.bind {next : α → Resumption Op Result β} (single : Single apply Inv program)
    (returns : Ensures apply Inv program fun _ value => ∃ result, next value = .done result)
    {state : σ} (holds : Inv state) : Single apply Inv (program >>= next) := by
  induction single with
  | decided decided =>
      obtain ⟨steps, result, returned⟩ := decided.exists_met returns holds
      exact .decided (decided.bind returned)
  | @quiet op rest later unchanged same single ih =>
      have onward := returns state holds
      rw [same state holds] at onward
      refine .quiet unchanged (fun found kept => ?_) (ih onward)
      exact congrArg (· >>= next) (same found kept)
  | deciding decides =>
      refine .deciding fun found kept => ?_
      obtain ⟨value, decided⟩ := decides found kept
      obtain ⟨steps, result, returned⟩ := decided.exists_met (returns found kept) kept
      exact ⟨result, decided.bind returned⟩

section Lift

variable {wrap : Op → Small} {unwrap : (op : Op) → SmallResult (wrap op) → Result op}
  {smallApply : (op : Small) → τ → SmallResult op × τ} {SmallInv : τ → Prop}
  {component : Component τ σ} (holds : ∀ state, SmallInv state → Inv (component.part state))
  (carried : ∀ op state, (unwrap op (smallApply (wrap op) state).1,
    (smallApply (wrap op) state).2) = component.lift (apply op) state)

include carried

theorem lifted_result (op : Op) (state : τ) :
    unwrap op (smallApply (wrap op) state).1 = (apply op (component.part state)).1 :=
  congrArg Prod.fst (carried op state)

include holds

theorem lifted_unchanged {op : Op} (unchanged : ∀ state, Inv state → (apply op state).2 = state)
    {state : τ} (kept : SmallInv state) : (smallApply (wrap op) state).2 = state := by
  have stored := congrArg Prod.snd (carried op state)
  simp only [Component.lift, unchanged _ (holds state kept), component.store_part] at stored
  exact stored

theorem Decided.expand_access {value : α} (decided : Decided apply Inv value program) :
    Decided smallApply SmallInv value
      (program.expand fun op => .perform (wrap op) fun result => .done (unwrap op result)) := by
  induction decided with
  | done => exact .done
  | @quiet op next unchanged later ih =>
      refine .quiet (fun state => lifted_unchanged holds carried unchanged) fun state kept => ?_
      have onward := ih _ (holds state kept)
      rw [← lifted_result carried] at onward
      exact onward

/-- Operations on a component of the state. -/
theorem Single.expand_access (single : Single apply Inv program) :
    Single smallApply SmallInv
      (program.expand fun op => .perform (wrap op) fun result => .done (unwrap op result)) := by
  induction single with
  | decided decided => exact .decided (decided.expand_access holds carried)
  | @quiet op next rest unchanged same later ih =>
      refine .quiet (fun state => lifted_unchanged holds carried unchanged)
        (fun state kept => ?_) ih
      have onward := same _ (holds state kept)
      rw [← lifted_result carried] at onward
      exact congrArg (Resumption.expand _) onward
  | @deciding op next decides =>
      refine .deciding fun state kept => ?_
      obtain ⟨value, decided⟩ := decides _ (holds state kept)
      rw [← lifted_result carried] at decided
      exact ⟨value, decided.expand_access holds carried⟩

end Lift

end Resumption
