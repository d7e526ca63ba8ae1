import ModbusCpp.AddressMap

/-!
# Updating a run of cells of a list

Copying a buffer into a container element by element, from a given position
on, and the cells of the container afterwards.
-/

namespace SliceUpdate

variable {α : Type*}

/-- Store the values one after the other from `position` on. -/
def overwrite : List α → (position : Nat) → List α → List α
  | container, _, [] => container
  | container, position, value :: values =>
      overwrite (container.set position value) (position + 1) values

@[simp]
theorem length_overwrite (container : List α) (position : Nat) (values : List α) :
    (overwrite container position values).length = container.length := by
  induction values generalizing container position with
  | nil => rfl
  | cons value values ih => simp [overwrite, ih]

/-- The cells of the run hold the values, all others what they held before. -/
theorem getElem?_overwrite {container values : List α} {position : Nat}
    (fits : position + values.length ≤ container.length) (place : Nat) :
    (overwrite container position values)[place]? =
      AddressMap.write (fun index => container[index]?) position values place := by
  induction values generalizing container position with
  | nil =>
      rw [AddressMap.write_outside (by simp only [List.length_nil]; omega)]
      rfl
  | cons value values ih =>
      have fits : position + 1 + values.length ≤ container.length := by
        simp only [List.length_cons] at fits
        omega
      rw [overwrite, ih (by simpa using fits)]
      by_cases here : place = position
      · subst here
        have inside : place < container.length := by omega
        rw [AddressMap.write_outside (by omega)]
        simp [AddressMap.write, inside]
      · by_cases later : position + 1 ≤ place ∧ place < position + 1 + values.length
        · have shift : place - position = place - (position + 1) + 1 := by omega
          simp only [AddressMap.write, List.length_cons, if_pos later,
            if_pos (show position ≤ place ∧ place < position + (values.length + 1) by omega),
            shift, List.getElem?_cons_succ]
        · simp only [AddressMap.write, List.length_cons, if_neg later,
            if_neg (show ¬ (position ≤ place ∧ place < position + (values.length + 1)) by omega)]
          exact List.getElem?_set_ne (fun equal => here equal.symm)

theorem getElem?_overwrite_inside {container values : List α} {position place : Nat}
    (fits : position + values.length ≤ container.length) (above : position ≤ place)
    (below : place < position + values.length) :
    (overwrite container position values)[place]? = values[place - position]? := by
  rw [getElem?_overwrite fits, AddressMap.write, if_pos ⟨above, below⟩]

/-- The run of cells that was stored. -/
theorem take_drop_overwrite {container values : List α} {position : Nat}
    (fits : position + values.length ≤ container.length) :
    ((overwrite container position values).drop position).take values.length = values := by
  apply List.ext_getElem?
  intro index
  by_cases inside : index < values.length
  · rw [List.getElem?_take_of_lt inside, List.getElem?_drop,
      getElem?_overwrite_inside fits (by omega) (by omega), Nat.add_sub_cancel_left]
  · rw [List.getElem?_take_eq_none (by omega), List.getElem?_eq_none (by omega)]

end SliceUpdate
