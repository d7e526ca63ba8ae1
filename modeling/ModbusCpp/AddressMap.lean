import Mathlib.Data.List.Basic
import Mathlib.Tactic.Common

/-!
# Partial maps over addresses

A memory is a map from natural addresses to cells, undefined outside its
domain.  This file has the two operations on runs of consecutive addresses,
reading a slice and writing one, and the laws by which they compose.
-/

namespace AddressMap

variable {α : Type*}

/-- The cells at `count` consecutive addresses, provided that all of them lie
in the domain. -/
def slice (memory : Nat → Option α) : (address count : Nat) → Option (List α)
  | _, 0 => some []
  | address, count + 1 => do
      let value ← memory address
      let values ← slice memory (address + 1) count
      pure (value :: values)

/-- Replace the cells from `address` on by `values`. -/
def write (memory : Nat → Option α) (address : Nat) (values : List α) :
    Nat → Option α :=
  fun place =>
    if address ≤ place ∧ place < address + values.length then
      values[place - address]?
    else memory place

@[simp]
theorem slice_zero (memory : Nat → Option α) (address : Nat) :
    slice memory address 0 = some [] :=
  rfl

theorem slice_succ (memory : Nat → Option α) (address count : Nat) :
    slice memory address (count + 1) =
      (memory address).bind fun value =>
        (slice memory (address + 1) count).map (value :: ·) := by
  cases first : memory address <;>
    cases rest : slice memory (address + 1) count <;>
      simp [slice, first, rest]

/-- A slice is determined by its length and its cells. -/
theorem slice_eq_some_iff {memory : Nat → Option α} {address count : Nat}
    {values : List α} :
    slice memory address count = some values ↔
      values.length = count ∧
        ∀ index < count, memory (address + index) = values[index]? := by
  induction count generalizing address values with
  | zero =>
      constructor
      · intro sliced
        simp [Option.some.inj sliced.symm]
      · rintro ⟨lengthEq, -⟩
        simp [List.eq_nil_of_length_eq_zero lengthEq]
  | succ count ih =>
      rw [slice_succ]
      constructor
      · intro sliced
        obtain ⟨value, first, rest⟩ := Option.bind_eq_some_iff.mp sliced
        obtain ⟨tail, tailSliced, rfl⟩ := Option.map_eq_some_iff.mp rest
        obtain ⟨lengthEq, cells⟩ := ih.mp tailSliced
        refine ⟨by simp [lengthEq], ?_⟩
        intro index indexLt
        cases index with
        | zero => simpa using first
        | succ index =>
            have cell := cells index (by omega)
            rw [show address + (index + 1) = address + 1 + index by omega, cell]
            simp
      · rintro ⟨lengthEq, cells⟩
        cases values with
        | nil => simp at lengthEq
        | cons value tail =>
            have first : memory address = some value := by
              simpa using cells 0 (by omega)
            have tailSliced : slice memory (address + 1) count = some tail := by
              refine ih.mpr ⟨by simpa using lengthEq, ?_⟩
              intro index indexLt
              have cell := cells (index + 1) (by omega)
              rw [show address + 1 + index = address + (index + 1) by omega, cell]
              simp
            simp [first, tailSliced]

/-- A slice only depends on its cells. -/
theorem slice_congr {memory other : Nat → Option α} {address count : Nat}
    (agree : ∀ place, address ≤ place → place < address + count →
      memory place = other place) :
    slice memory address count = slice other address count := by
  induction count generalizing address with
  | zero => rfl
  | succ count ih =>
      have head := agree address (Nat.le_refl _) (by omega)
      have tail := @ih (address + 1) fun place above below => agree place (by omega) (by omega)
      rw [slice_succ, slice_succ, head, tail]

/-- Every address of a run lies in the domain. -/
def Covers (memory : Nat → Option α) (address count : Nat) : Prop :=
  ∀ offset < count, (memory (address + offset)).isSome = true

instance (memory : Nat → Option α) (address count : Nat) :
    Decidable (Covers memory address count) :=
  inferInstanceAs (Decidable (∀ offset < count, _))

theorem covers_iff_slice {memory : Nat → Option α} {address count : Nat} :
    Covers memory address count ↔ ∃ values, slice memory address count = some values := by
  constructor
  · intro covered
    induction count generalizing address with
    | zero => exact ⟨[], rfl⟩
    | succ count ih =>
        obtain ⟨value, first⟩ := Option.isSome_iff_exists.mp (covered 0 (by omega))
        have behind : Covers memory (address + 1) count := by
          intro offset offsetLt
          rw [show address + 1 + offset = address + (offset + 1) by omega]
          exact covered (offset + 1) (by omega)
        obtain ⟨values, rest⟩ := ih behind
        rw [Nat.add_zero] at first
        exact ⟨value :: values, by simp [slice_succ, first, rest]⟩
  · rintro ⟨values, sliced⟩ offset offsetLt
    obtain ⟨lengthEq, cells⟩ := slice_eq_some_iff.mp sliced
    rw [cells offset offsetLt, isSome_getElem?, lengthEq]
    exact offsetLt

/-- The map that holds one value at `size` addresses from `first` on. -/
def constant (first size : Nat) (value : α) : Nat → Option α :=
  fun place => if first ≤ place ∧ place < first + size then some value else none

theorem write_outside {memory : Nat → Option α} {address place : Nat} {values : List α}
    (outside : ¬ (address ≤ place ∧ place < address + values.length)) :
    write memory address values place = memory place := by
  simp only [write, if_neg outside]

/-- What a cell holds afterwards only depends on what it held before. -/
theorem write_congr {memory other : Nat → Option α} {place : Nat}
    (agree : memory place = other place) (address : Nat) (values : List α) :
    write memory address values place = write other address values place := by
  simp only [write, agree]

/-- Writing a run again changes nothing. -/
theorem write_write (memory : Nat → Option α) (address : Nat) (values : List α) :
    write (write memory address values) address values = write memory address values := by
  funext place
  by_cases inside : address ≤ place ∧ place < address + values.length
  · simp only [write, if_pos inside]
  · rw [write_outside inside]

theorem write_inside (memory : Nat → Option α) (address : Nat) {index : Nat}
    {values : List α} (inside : index < values.length) :
    write memory address values (address + index) = values[index]? := by
  simp [write, inside]

/-- A run that is copied from another map holds what that map holds there. -/
theorem write_slice {memory other : Nat → Option α} {address count : Nat} {values : List α}
    (sliced : slice other address count = some values) {place : Nat}
    (inside : address ≤ place ∧ place < address + count) :
    write memory address values place = other place := by
  obtain ⟨lengthEq, cells⟩ := slice_eq_some_iff.mp sliced
  have held := cells (place - address) (by omega)
  rw [show address + (place - address) = place by omega] at held
  rw [write, lengthEq, if_pos inside, held]

theorem write_singleton (memory : Nat → Option α) (address : Nat) (value : α) :
    write memory address [value] address = some value :=
  @write_inside _ memory address 0 [value] Nat.zero_lt_one

theorem covers_write {memory : Nat → Option α} {address : Nat} {values : List α} :
    Covers (write memory address values) address values.length := by
  intro offset inside
  rw [write_inside memory address inside]
  simpa using inside

/-- Writing a run is writing its first cell and then the others. -/
theorem write_cons (memory : Nat → Option α) (address : Nat) (value : α) (values : List α) :
    write memory address (value :: values) =
      write (write memory address [value]) (address + 1) values := by
  funext place
  rcases Nat.lt_trichotomy place address with below | rfl | above
  · rw [write_outside (by omega), write_outside (by omega), write_outside (by omega)]
  · rw [@write_outside _ _ (place + 1) _ _ (by omega)]
    simp [write]
  · obtain ⟨index, rfl⟩ := Nat.exists_eq_add_of_lt above
    by_cases inside : index < values.length
    · have written := write_inside memory address
        (show index + 1 < (value :: values).length by simpa using inside)
      have behind := write_inside (write memory address [value]) (address + 1) inside
      rw [show address + index + 1 = address + 1 + index by omega, behind]
      rw [show address + (index + 1) = address + 1 + index by omega] at written
      simpa using written
    · rw [write_outside (by simp; omega), write_outside (by omega),
        write_outside (by simp)]

/-- Writes of runs that do not meet commute. -/
theorem write_comm (memory : Nat → Option α) {first second : Nat} {values others : List α}
    (apart : ∀ place, first ≤ place → place < first + values.length →
      ¬ (second ≤ place ∧ place < second + others.length)) :
    write (write memory first values) second others =
      write (write memory second others) first values := by
  funext place
  simp only [write]
  by_cases inFirst : first ≤ place ∧ place < first + values.length
  · rw [if_neg (apart place inFirst.1 inFirst.2), if_pos inFirst, if_pos inFirst]
  · rw [if_neg inFirst, if_neg inFirst]

/-- Write cells one after the other, each a value and its address. -/
def writeCells (memory : Nat → Option α) (cells : List (α × Nat)) : Nat → Option α :=
  cells.foldl (fun memory cell => write memory cell.2 [cell.1]) memory

theorem writeCells_zipIdx (memory : Nat → Option α) (address : Nat) (values : List α) :
    writeCells memory (values.zipIdx address) = write memory address values := by
  induction values generalizing memory address with
  | nil =>
      funext place
      exact (write_outside (by simp)).symm
  | cons value values ih => exact (ih _ _).trans (write_cons memory address value values).symm

/-- The cells of a run may be written in any order. -/
theorem writeCells_perm (memory : Nat → Option α) {address : Nat} {values : List α}
    {cells : List (α × Nat)} (order : cells.Perm (values.zipIdx address)) :
    writeCells memory cells = write memory address values := by
  rw [← writeCells_zipIdx]
  apply order.foldl_eq'
  rintro ⟨value, first⟩ firstMem ⟨other, second⟩ secondMem memory
  by_cases same : first = second
  · subst same
    have held := List.mem_zipIdx (order.mem_iff.mp firstMem)
    have otherHeld := List.mem_zipIdx (order.mem_iff.mp secondMem)
    rw [held.2.2, otherHeld.2.2]
  · apply write_comm
    intro place above below covered
    simp only [List.length_singleton] at below covered
    omega

end AddressMap
