import Mathlib.Data.Set.Lattice
import Mathlib.Order.CompletePartialOrder
import ModbusCpp.Interleaving

/-!
# Footprints

Operations that read some places of a state and write some places.  Those
whose places do not meet are independent; a run can be rearranged by swapping
independent neighbours, and an operation that settles its places can be
repeated behind others that keep away from them.
-/

namespace Resumption

variable {Op Reply σ Place : Type} {Value : Place → Type}

/-- The reply and the places written depend on the places read, and no other
place is changed. -/
structure Footprint (apply : Op → σ → Reply × σ) (view : σ → (place : Place) → Value place)
    (Alike : σ → σ → Prop) (reads writes : Op → Set Place) : Prop where
  equivalence : Equivalence Alike
  alike : ∀ op state, Alike (apply op state).2 state
  eq_of_view : ∀ {first second}, Alike first second →
    (∀ place, view first place = view second place) → first = second
  frame : ∀ {op place} state, place ∉ writes op →
    view (apply op state).2 place = view state place
  reply : ∀ {op first second}, Alike first second →
    (∀ place ∈ reads op, view first place = view second place) →
      (apply op first).1 = (apply op second).1
  stored : ∀ {op first second place}, Alike first second →
    (∀ place ∈ reads op, view first place = view second place) →
      view first place = view second place →
        view (apply op first).2 place = view (apply op second).2 place

/-- Neither operation writes where the other reads or writes. -/
structure Apart (reads writes : Op → Set Place) (op other : Op) : Prop where
  writes_writes : Disjoint (writes op) (writes other)
  reads_writes : Disjoint (reads op) (writes other)
  writes_reads : Disjoint (writes op) (reads other)

theorem Apart.symm {reads writes : Op → Set Place} {op other : Op}
    (apart : Apart reads writes op other) : Apart reads writes other op :=
  ⟨apart.writes_writes.symm, apart.writes_reads.symm, apart.reads_writes.symm⟩

namespace Footprint

variable {apply : Op → σ → Reply × σ} {view : σ → (place : Place) → Value place}
  {Alike : σ → σ → Prop} {reads writes : Op → Set Place}
  (footprint : Footprint apply view Alike reads writes)

include footprint

/-- What an operation reads is left alone by one that keeps away. -/
theorem view_reads {op other : Op} (apart : Apart reads writes op other) (state : σ) :
    ∀ place ∈ reads op, view (apply other state).2 place = view state place :=
  fun _ read => footprint.frame state (Set.disjoint_left.mp apart.reads_writes read)

/-- What an operation writes is what it writes before the other one, too. -/
theorem view_swapped {op other : Op} {place : Place} (apart : Apart reads writes op other)
    (state : σ) (written : place ∈ writes op) :
    view (apply other (apply op state).2).2 place =
      view (apply op (apply other state).2).2 place := by
  have elsewhere := Set.disjoint_left.mp apart.writes_writes written
  rw [footprint.frame _ elsewhere]
  exact (footprint.stored (footprint.alike other state) (footprint.view_reads apart state)
    (footprint.frame state elsewhere)).symm

theorem independent {op other : Op} (apart : Apart reads writes op other) :
    Independent apply op other where
  result state := footprint.reply (footprint.alike other state) (footprint.view_reads apart state)
  otherResult state :=
    footprint.reply (footprint.alike op state) (footprint.view_reads apart.symm state)
  state state := by
    have shape {first second : Op} : Alike (apply second (apply first state).2).2 state :=
      footprint.equivalence.trans (footprint.alike second _) (footprint.alike first state)
    apply footprint.eq_of_view (footprint.equivalence.trans shape
      (footprint.equivalence.symm shape))
    intro place
    by_cases written : place ∈ writes op
    · exact footprint.view_swapped apart state written
    · by_cases otherWritten : place ∈ writes other
      · exact (footprint.view_swapped apart.symm state otherWritten).symm
      · rw [footprint.frame _ otherWritten, footprint.frame _ written,
          footprint.frame _ written, footprint.frame _ otherWritten]

end Footprint

/-- Perform operations one after the other. -/
def answers (apply : Op → σ → Reply × σ) : List Op → σ → List Reply × σ
  | [], state => ([], state)
  | op :: ops, state =>
      let first := apply op state
      let rest := answers apply ops first.2
      (first.1 :: rest.1, rest.2)

theorem length_answers (apply : Op → σ → Reply × σ) (ops : List Op) (state : σ) :
    (answers apply ops state).1.length = ops.length := by
  induction ops generalizing state with
  | nil => rfl
  | cons op ops ih => simp only [answers, List.length_cons, ih]

theorem answers_append (apply : Op → σ → Reply × σ) (ops others : List Op) (state : σ) :
    answers apply (ops ++ others) state =
      ((answers apply ops state).1 ++ (answers apply others (answers apply ops state).2).1,
        (answers apply others (answers apply ops state).2).2) := by
  induction ops generalizing state with
  | nil => rfl
  | cons op ops ih => simp only [List.cons_append, answers, ih]

/-- The same operations, with some neighbours that keep away from each other
swapped. -/
inductive Rearranged (Free : Op → Op → Prop) : List Op → List Op → Prop
  | nil : Rearranged Free [] []
  | cons {ops others : List Op} (op : Op) (rest : Rearranged Free ops others) :
      Rearranged Free (op :: ops) (op :: others)
  | swap {op other : Op} (apart : Free op other) (ops : List Op) :
      Rearranged Free (op :: other :: ops) (other :: op :: ops)
  | trans {first second third : List Op} (before : Rearranged Free first second)
      (after : Rearranged Free second third) : Rearranged Free first third

section Independence

variable {apply : Op → σ → Reply × σ} {Free : Op → Op → Prop}
  (independent : ∀ {op other}, Free op other → Independent apply op other)

include independent

/-- A rearranged run ends in the same state, and each operation has the same
reply. -/
theorem Rearranged.answers {ops others : List Op} (rearranged : Rearranged Free ops others)
    (state : σ) :
    (answers apply ops state).2 = (answers apply others state).2 ∧
      (ops.zip (answers apply ops state).1).Perm
        (others.zip (answers apply others state).1) := by
  induction rearranged generalizing state with
  | nil => exact ⟨rfl, .nil⟩
  | cons op rest ih =>
      obtain ⟨same, replies⟩ := ih (apply op state).2
      exact ⟨same, replies.cons _⟩
  | swap apart ops =>
      have independence := independent apart
      simp only [Resumption.answers, independence.result state, independence.otherResult state,
        independence.state state, List.zip_cons_cons]
      exact ⟨trivial, .swap _ _ _⟩
  | trans before after first second =>
      exact ⟨(first state).1.trans (second state).1, (first state).2.trans (second state).2⟩

/-- The replies of a rearranged run are the same, up to their order. -/
theorem Rearranged.answers_perm {ops others : List Op} (rearranged : Rearranged Free ops others)
    (state : σ) :
    (Resumption.answers apply ops state).1.Perm (Resumption.answers apply others state).1 := by
  have permuted := (rearranged.answers independent state).2.map Prod.snd
  rwa [List.map_snd_zip (length_answers apply ops state).le,
    List.map_snd_zip (length_answers apply others state).le] at permuted

/-- An operation can be performed before others or behind them, if all of them
keep away from it. -/
theorem apply_answers {op : Op} {ops : List Op} (apart : ∀ other ∈ ops, Free op other)
    (state : σ) :
    (apply op (answers apply ops state).2).1 = (apply op state).1 ∧
      (apply op (answers apply ops state).2).2 =
        (answers apply ops (apply op state).2).2 := by
  induction ops generalizing state with
  | nil => exact ⟨rfl, rfl⟩
  | cons other ops ih =>
      have independence := independent (apart other List.mem_cons_self)
      obtain ⟨result, stored⟩ := ih (fun later member => apart later
        (List.mem_cons_of_mem _ member)) (apply other state).2
      simp only [answers]
      rw [result, stored, independence.result, independence.state]
      exact ⟨rfl, rfl⟩

/-- Repeating an operation behind others changes nothing, if repeating it at
once changes nothing. -/
theorem answers_repeated {op : Op} {ops : List Op} (apart : ∀ other ∈ ops, Free op other)
    (settles : ∀ state, (apply op (apply op state).2).2 = (apply op state).2) (state : σ) :
    answers apply (op :: ops ++ [op]) state =
      ((answers apply (op :: ops) state).1 ++ [(apply op (apply op state).2).1],
        (answers apply (op :: ops) state).2) := by
  obtain ⟨result, stored⟩ := apply_answers independent apart (apply op state).2
  rw [answers_append]
  simp only [answers]
  rw [result, stored, settles]

end Independence

end Resumption
