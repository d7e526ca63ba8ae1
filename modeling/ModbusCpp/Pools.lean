import Mathlib.Logic.Function.Basic
import ModbusCpp.Interleaving

/-!
# Pools of programs

Any number of programs on one state take turns, one operation at a time.  A
run of the pool comes to what running the programs one after the other in some
order does, if no operation is followed by one that conflicts with it and
belongs to a program that the order puts first.
-/

namespace Resumption

variable {ι Op : Type} {Result : Op → Type} {σ α : Type}

/-- One operation in a run of a pool. -/
structure Move (ι Op : Type) where
  owner : ι
  op : Op

/-- Run the programs of a list of owners one after the other. -/
def serially (apply : (op : Op) → σ → Result op × σ) (pool : ι → Resumption Op Result α) :
    List ι → σ → List α × σ
  | [], state => ([], state)
  | owner :: owners, state =>
      let first := run apply (pool owner) state
      let rest := serially apply pool owners first.2
      (first.1 :: rest.1, rest.2)

/-- Programs that are not in the list do not matter. -/
theorem serially_congr {apply : (op : Op) → σ → Result op × σ}
    {pool other : ι → Resumption Op Result α} {owners : List ι}
    (agree : ∀ owner ∈ owners, pool owner = other owner) (state : σ) :
    serially apply pool owners state = serially apply other owners state := by
  induction owners generalizing state with
  | nil => rfl
  | cons owner owners ih =>
      have first := agree owner List.mem_cons_self
      have rest := ih fun later laterMem => agree later (List.mem_cons_of_mem _ laterMem)
      simp only [serially, first, rest]

/-- Whatever the earlier owner in the order does is not preceded by a
conflicting operation of the later one. -/
def Respects (Conflict : Op → Op → Prop) (order : List ι) (trace : List (Move ι Op)) : Prop :=
  order.Pairwise fun first second =>
    trace.Pairwise fun earlier later =>
      earlier.owner = second → later.owner = first → ¬ Conflict earlier.op later.op

theorem Respects.sublist {Conflict : Op → Op → Prop} {order : List ι}
    {trace shorter : List (Move ι Op)} (respects : Respects Conflict order trace)
    (sublist : shorter.Sublist trace) : Respects Conflict order shorter := by
  refine List.Pairwise.imp ?_ respects
  intro first second apart
  exact apart.sublist sublist

variable [DecidableEq ι]

/-- The programs of a pool run by the steps of a trace, which leaves the rest
of each. -/
inductive Pooled (apply : (op : Op) → σ → Result op × σ) :
    (ι → Resumption Op Result α) → σ → List (Move ι Op) →
      (ι → Resumption Op Result α) → σ → Prop
  | refl (pool : ι → Resumption Op Result α) (state : σ) : Pooled apply pool state [] pool state
  | perform {pool left : ι → Resumption Op Result α} {owner : ι} {op : Op}
      {next : Result op → Resumption Op Result α} {state last : σ} {trace : List (Move ι Op)}
      (turn : pool owner = .perform op next)
      (rest : Pooled apply (Function.update pool owner (next (apply op state).1))
        (apply op state).2 trace left last) :
      Pooled apply pool state (⟨owner, op⟩ :: trace) left last

section Serial

variable {apply : (op : Op) → σ → Result op × σ} {pool left : ι → Resumption Op Result α}
  {state last : σ} {trace : List (Move ι Op)}

/-- A program whose operations no conflicting ones precede can be run before
the others. -/
theorem Pooled.run_first {Conflict : Op → Op → Prop}
    (independent : ∀ op other, ¬ Conflict op other → Independent apply op other)
    (pooled : Pooled apply pool state trace left last) {owner : ι} {value : α}
    (finished : left owner = .done value)
    (first : trace.Pairwise fun earlier later =>
      earlier.owner ≠ owner → later.owner = owner → ¬ Conflict earlier.op later.op) :
    ∃ middle, run apply (pool owner) state = (value, middle) ∧
      Pooled apply (Function.update pool owner (.done value)) middle
        (trace.filter fun move => move.owner ≠ owner) left last ∧
      operations apply (pool owner) state =
        (trace.filter fun move => move.owner = owner).map Move.op := by
  induction pooled with
  | refl pool state =>
      refine ⟨state, by rw [finished, run_done], ?_, by rw [finished]; rfl⟩
      rw [← finished, Function.update_eq_self]
      exact .refl pool state
  | @perform pool left actor op next state last trace turn rest ih =>
      obtain ⟨alone, behind⟩ := List.pairwise_cons.mp first
      obtain ⟨middle, ran, others, performed⟩ := ih finished behind
      by_cases own : actor = owner
      · subst own
        rw [Function.update_self] at ran performed
        rw [Function.update_idem] at others
        refine ⟨middle, by rw [turn, run_perform, ran], by simpa using others, ?_⟩
        rw [turn, operations, performed]
        simp
      · have distinct : owner ≠ actor := fun same => own same.symm
        rw [Function.update_of_ne distinct] at ran performed
        have apart : ∀ other ∈ operations apply (pool owner) (apply op state).2,
            Independent apply op other := by
          intro other otherMem
          rw [performed] at otherMem
          obtain ⟨move, moveMem, rfl⟩ := List.mem_map.mp otherMem
          obtain ⟨inTrace, owned⟩ := List.mem_filter.mp moveMem
          exact independent _ _ (alone move inTrace own (of_decide_eq_true owned))
        obtain ⟨moved, result, same⟩ := run_after_apply apart
        rw [moved] at ran
        obtain ⟨rfl, rfl⟩ := Prod.mk.inj ran
        refine ⟨(run apply (pool owner) state).2, rfl, ?_, ?_⟩
        · rw [Function.update_comm own, ← result] at others
          have waiting : Function.update pool owner (.done (run apply (pool owner) state).1) actor =
              .perform op next := by
            rw [Function.update_of_ne own, turn]
          simpa [own] using Pooled.perform waiting others
        · rw [← same, performed]
          simp [own]

/-- A run of a pool comes to a serial run in any order that it respects. -/
theorem Pooled.serial {Conflict : Op → Op → Prop}
    (independent : ∀ op other, ¬ Conflict op other → Independent apply op other)
    (pooled : Pooled apply pool state trace left last) {order : List ι} {results : ι → α}
    (distinct : order.Nodup) (complete : ∀ move ∈ trace, move.owner ∈ order)
    (finished : ∀ owner ∈ order, left owner = .done (results owner))
    (respects : Respects Conflict order trace) :
    serially apply pool order state = (order.map results, last) := by
  induction order generalizing pool state trace with
  | nil =>
      cases pooled with
      | refl => rfl
      | perform turn rest => exact absurd (complete _ List.mem_cons_self) List.not_mem_nil
  | cons owner order ih =>
      obtain ⟨head, later⟩ := List.pairwise_cons.mp respects
      obtain ⟨fresh, distinct⟩ := List.nodup_cons.mp distinct
      have first : trace.Pairwise fun earlier later =>
          earlier.owner ≠ owner → later.owner = owner → ¬ Conflict earlier.op later.op := by
        refine List.pairwise_iff_forall_sublist.mpr ?_
        intro earlier later inTrace foreign own
        have behind : earlier.owner ∈ order :=
          (List.mem_cons.mp (complete earlier (inTrace.subset (by simp)))).resolve_left foreign
        exact List.pairwise_iff_forall_sublist.mp (head _ behind) inTrace rfl own
      obtain ⟨middle, ran, others, -⟩ :=
        pooled.run_first independent (finished owner List.mem_cons_self) first
      have remaining : ∀ move ∈ trace.filter fun move => move.owner ≠ owner,
          move.owner ∈ order := by
        intro move moveMem
        obtain ⟨inTrace, foreign⟩ := List.mem_filter.mp moveMem
        exact (List.mem_cons.mp (complete move inTrace)).resolve_left (of_decide_eq_true foreign)
      have unstarted : ∀ other ∈ order,
          Function.update pool owner (.done (results owner)) other = pool other := by
        intro other otherMem
        exact Function.update_of_ne (ne_of_mem_of_not_mem otherMem fresh) _ _
      have rest := ih others distinct remaining
        (fun other otherMem => finished other (List.mem_cons_of_mem _ otherMem))
        (Respects.sublist later List.filter_sublist)
      rw [serially_congr unstarted] at rest
      simp [serially, ran, rest]

end Serial

end Resumption
