import ModbusCpp.Components
import ModbusCpp.Interference

/-!
# Operations that are programs

An operation may itself be a program of smaller operations, between which other
programs take their turns.  Run alone, a program with its operations carried out
in this way does what it did; under interference, each of its operations comes
to what it does on some state, which need not be one that was ever there.
-/

namespace Resumption

variable {Op Small : Type} {Result : Op → Type} {SmallResult : Small → Type} {σ τ α β : Type}

/-- The program that performs one operation. -/
def access (op : Op) : Resumption Op Result (Result op) :=
  .perform op .done

@[simp]
theorem run_access (apply : (op : Op) → σ → Result op × σ) (op : Op) (state : σ) :
    run apply (access op : Resumption Op Result (Result op)) state = apply op state :=
  rfl

theorem ensures_access_bind {apply : (op : Op) → σ → Result op × σ} {Inv : σ → Prop} (op : Op)
    (next : Result op → Resumption Op Result α) (post : List (Op × σ) → α → Prop) :
    Ensures apply Inv (access op >>= next) post ↔
      ∀ state, Inv state →
        Ensures apply Inv (next (apply op state).1) fun steps => post ((op, state) :: steps) :=
  Iff.rfl

/-- A program with each of its operations carried out by a program. -/
def expand (carryOut : (op : Op) → Resumption Small SmallResult (Result op)) :
    Resumption Op Result α → Resumption Small SmallResult α
  | done value => .done value
  | perform op next => carryOut op >>= fun result => expand carryOut (next result)

section Alone

variable {carryOut : (op : Op) → Resumption Small SmallResult (Result op)}
  {apply : (op : Op) → τ → Result op × τ}

/-- Running the operations alone is running their programs alone. -/
theorem run_expand {smallApply : (op : Small) → τ → SmallResult op × τ}
    (carried : ∀ op state, run smallApply (carryOut op) state = apply op state)
    (program : Resumption Op Result α) (state : τ) :
    run smallApply (expand carryOut program) state = run apply program state := by
  induction program generalizing state with
  | done value => rfl
  | perform op next ih => rw [expand, run_bind, carried, ih, run_perform]

/-- Operations that are steps on a component of the state. -/
theorem run_expand_lift {component : Component σ τ}
    {smallApply : (op : Small) → σ → SmallResult op × σ}
    (carried : ∀ op state,
      run smallApply (carryOut op) state = component.lift (apply op) state)
    (program : Resumption Op Result α) (state : σ) :
    run smallApply (expand carryOut program) state = component.lift (run apply program) state := by
  induction program generalizing state with
  | done value => exact Prod.ext rfl (component.store_part state).symm
  | perform op next ih =>
      rw [expand, run_bind, carried, ih]
      simp only [Component.lift, component.part_store, component.store_store, run_perform]

end Alone

/-- The small operations of a program, put together from those of each of its
operations, which comes to what it does on a state that it shows. -/
inductive Parts (Shows : Op → τ → List (Small × σ) → Prop) :
    List (Op × τ) → List (Small × σ) → Prop
  | nil : Parts Shows [] []
  | cons {op : Op} {seen : τ} {part : List (Small × σ)} {steps : List (Op × τ)}
      {rest : List (Small × σ)} (shows : Shows op seen part) (parts : Parts Shows steps rest) :
      Parts Shows ((op, seen) :: steps) (part ++ rest)

theorem Parts.exists_of_mem {Shows : Op → τ → List (Small × σ) → Prop} {steps : List (Op × τ)}
    {accesses : List (Small × σ)} (parts : Parts Shows steps accesses) {access : Small × σ}
    (member : access ∈ accesses) :
    ∃ step ∈ steps, ∃ part, Shows step.1 step.2 part ∧ access ∈ part := by
  induction parts with
  | nil => cases member
  | @cons op seen part steps rest shows parts ih =>
      rcases List.mem_append.mp member with here | later
      · exact ⟨(op, seen), List.mem_cons_self, part, shows, here⟩
      · obtain ⟨step, stepMem, found⟩ := ih later
        exact ⟨step, List.mem_cons_of_mem _ stepMem, found⟩

/-- What a program ensures, it ensures for the states that its operations show. -/
theorem Ensures.expand {carryOut : (op : Op) → Resumption Small SmallResult (Result op)}
    {apply : (op : Op) → τ → Result op × τ} {Inv : τ → Prop}
    {smallApply : (op : Small) → σ → SmallResult op × σ} {SmallInv : σ → Prop}
    {Shows : Op → τ → List (Small × σ) → Prop}
    (carried : ∀ op, Ensures smallApply SmallInv (carryOut op) fun accesses result =>
      ∃ seen, Inv seen ∧ result = (apply op seen).1 ∧ Shows op seen accesses)
    {program : Resumption Op Result α} {post : List (Op × τ) → α → Prop}
    (ensures : Ensures apply Inv program post) :
    Ensures smallApply SmallInv (program.expand carryOut) fun accesses value =>
      ∃ steps, post steps value ∧ (∀ step ∈ steps, Inv step.2) ∧ Parts Shows steps accesses := by
  induction program generalizing post with
  | done value => exact ⟨[], ensures, by simp, .nil⟩
  | perform op next ih =>
      rw [Resumption.expand, ensures_bind]
      refine (carried op).mono ?_
      rintro accesses result ⟨seen, holds, rfl, shows⟩
      refine (ih _ (ensures seen holds)).mono ?_
      rintro rest value ⟨steps, met, hold, parts⟩
      exact ⟨(op, seen) :: steps, met, List.forall_mem_cons.mpr ⟨holds, hold⟩, .cons shows parts⟩

/-- What a program ensures on a part of the state, while the rest of it changes. -/
theorem Ensures.expand_access {wrap : Op → Small}
    {unwrap : (op : Op) → SmallResult (wrap op) → Result op}
    {apply : (op : Op) → τ → Result op × τ} {Inv : τ → Prop}
    {smallApply : (op : Small) → σ → SmallResult op × σ} {SmallInv : σ → Prop} {part : σ → τ}
    (holds : ∀ state, SmallInv state → Inv (part state))
    (carried : ∀ op state, unwrap op (smallApply (wrap op) state).1 = (apply op (part state)).1)
    {program : Resumption Op Result α} {post : List (Op × τ) → α → Prop}
    (ensures : Ensures apply Inv program post) :
    Ensures smallApply SmallInv
      (program.expand fun op => .perform (wrap op) fun result => .done (unwrap op result))
      fun accesses value => ∃ steps : List (Op × σ),
        accesses = steps.map (Prod.map wrap id) ∧ post (steps.map (Prod.map id part)) value := by
  induction program generalizing post with
  | done value => exact ⟨[], rfl, ensures⟩
  | perform op next ih =>
      intro state held
      have later := ih _ (ensures (part state) (holds state held))
      rw [← carried] at later
      refine Ensures.mono later ?_
      rintro accesses value ⟨steps, rfl, met⟩
      exact ⟨(op, state) :: steps, rfl, met⟩

end Resumption
