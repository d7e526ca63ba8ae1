import Mathlib.Data.List.TakeDrop
import ModbusCpp.DataTable

/-!
# Blocks as partial maps

A block stands for a partial map from addresses to values, whose domain starts
at the starting address and is as long as the capacity.  Each member function
of the block is the corresponding operation on that map: a single or a slice
read inside the domain, and an update of a run of addresses.
-/

namespace ModbusCpp.Block.Sequential

variable {data : Type} {readCount writeCount : UInt16 → Bool}

/-- The map a block stands for. -/
def cell (block : Sequential data readCount writeCount) (place : Nat) : Option data :=
  if block.startingAddress.toNat ≤ place then
    block.container[place - block.startingAddress.toNat]?
  else none

/-- The values of a run of addresses. -/
def read (block : Sequential data readCount writeCount) (address : UInt16)
    (count : Nat) : List data :=
  (block.container.drop (block.index address)).take count

/-- The block with new values from `address` on. -/
def write (block : Sequential data readCount writeCount) (address : UInt16)
    (values : List data) : Sequential data readCount writeCount :=
  { block with
    container := SliceUpdate.overwrite block.container (block.index address) values
    container_length := block.length_overwrite address values }

/-- An address belongs to the domain exactly when the block contains it. -/
theorem cell_isSome_iff (block : Sequential data readCount writeCount) (place : Nat) :
    (block.cell place).isSome = true ↔
      block.startingAddress.toNat ≤ place ∧
        place < block.startingAddress.toNat + block.capacity := by
  unfold cell
  split
  · simp only [isSome_getElem?, block.container_length]
    omega
  · simp only [Option.isSome_none, Bool.false_eq_true, false_iff]
    omega

theorem cell_add_index {block : Sequential data readCount writeCount} {address : UInt16}
    {count : Nat} (inside : block.Contains address count) (offset : Nat) :
    block.cell (address.toNat + offset) =
      block.container[block.index address + offset]? := by
  rw [cell, if_pos (Nat.le_add_right_of_le inside.1), index_eq inside]
  congr 1
  have := inside.1
  omega

theorem length_read {block : Sequential data readCount writeCount} {address : UInt16}
    {count : Nat} (inside : block.Contains address count) :
    (block.read address count).length = count := by
  have bound := index_add_le inside
  simp only [read, List.length_take, List.length_drop]
  omega

/-- Reading a run that lies in the block gives the slice of its map. -/
theorem slice_cell {block : Sequential data readCount writeCount} {address : UInt16}
    {count : Nat} (inside : block.Contains address count) :
    AddressMap.slice block.cell address.toNat count = some (block.read address count) := by
  refine AddressMap.slice_eq_some_iff.mpr ⟨length_read inside, ?_⟩
  intro offset offsetLt
  rw [cell_add_index inside, read, List.getElem?_take_of_lt offsetLt, List.getElem?_drop]

theorem cell_eq_getElem?_read {block : Sequential data readCount writeCount}
    {address : UInt16} {count offset : Nat} (inside : block.Contains address count)
    (offsetLt : offset < count) :
    block.cell (address.toNat + offset) = (block.read address count)[offset]? :=
  (AddressMap.slice_eq_some_iff.mp (slice_cell inside)).2 offset offsetLt

/-- An address that holds a value is a run of one cell. -/
theorem contains_of_cell {block : Sequential data readCount writeCount} {address : UInt16}
    {value : data} (held : block.cell address.toNat = some value) :
    block.Contains address 1 := by
  have inDomain := (block.cell_isSome_iff address.toNat).mp (by simp [held])
  exact ⟨inDomain.1, by omega⟩

theorem read_of_cell {block : Sequential data readCount writeCount} {address : UInt16}
    {value : data} (held : block.cell address.toNat = some value) :
    block.read address 1 = [value] := by
  have sliced := slice_cell (contains_of_cell held)
  rw [AddressMap.slice_succ, held] at sliced
  simpa [eq_comm] using sliced

/-- Writing a run that lies in the block updates its map there. -/
theorem cell_write {block : Sequential data readCount writeCount} {address : UInt16}
    {values : List data} (inside : block.Contains address values.length) :
    (block.write address values).cell =
      AddressMap.write block.cell address.toNat values := by
  funext place
  have above := inside.1
  by_cases low : block.startingAddress.toNat ≤ place
  · simp only [cell, write]
    rw [SliceUpdate.getElem?_overwrite (index_add_le inside), index_eq inside]
    simp only [AddressMap.write, cell, if_pos low]
    by_cases written : address.toNat ≤ place ∧ place < address.toNat + values.length
    · rw [if_pos (by omega), if_pos written]
      congr 1
      omega
    · rw [if_neg (by omega), if_neg written]
  · rw [AddressMap.write_outside (by omega)]
    simp [cell, write, low]

theorem cell_write_inside {block : Sequential data readCount writeCount} {address : UInt16}
    {values : List data} {count place : Nat} (inside : block.Contains address count)
    (lengthEq : values.length = count)
    (covered : address.toNat ≤ place ∧ place < address.toNat + count) :
    (block.write address values).cell place = values[place - address.toNat]? := by
  subst lengthEq
  have indexLt : place - address.toNat < values.length := by omega
  have written := AddressMap.write_inside block.cell address.toNat indexLt
  rwa [show address.toNat + (place - address.toNat) = place by omega, ← cell_write inside]
    at written

theorem cell_write_single {block : Sequential data readCount writeCount} {address : UInt16}
    (value : data) (inside : block.Contains address 1) :
    (block.write address [value]).cell address.toNat = some value := by
  rw [cell_write_inside inside rfl ⟨Nat.le_refl _, Nat.lt_succ_self _⟩, Nat.sub_self]
  rfl

/-- Only the cells of the run may change. -/
theorem inside_of_changed {block : Sequential data readCount writeCount} {address : UInt16}
    {values : List data} {count place : Nat} (inside : block.Contains address count)
    (lengthEq : values.length = count)
    (changed : (block.write address values).cell place ≠ block.cell place) :
    address.toNat ≤ place ∧ place < address.toNat + count := by
  subst lengthEq
  by_contra outside
  apply changed
  rw [cell_write inside, AddressMap.write_outside outside]

@[simp]
theorem write_startingAddress (block : Sequential data readCount writeCount)
    (address : UInt16) (values : List data) :
    (block.write address values).startingAddress = block.startingAddress :=
  rfl

@[simp]
theorem write_capacity (block : Sequential data readCount writeCount)
    (address : UInt16) (values : List data) :
    (block.write address values).capacity = block.capacity :=
  rfl

@[simp]
theorem contains_write (block : Sequential data readCount writeCount) (target : UInt16)
    (values : List data) (address : UInt16) (count : Nat) :
    (block.write target values).Contains address count ↔ block.Contains address count :=
  Iff.rfl

/-- `get(address)` inside the block. -/
theorem get_of_contains {block : Sequential data readCount writeCount} {address : UInt16}
    (inside : block.Contains address 1) :
    ∃ value, block.get address = .ok value ∧ block.read address 1 = [value] := by
  have valid : block.validate address = .ok true := by
    rw [validate, validateSz_eq block address Nat.one_pos, decide_eq_true inside]
  have bound := index_add_le inside
  refine ⟨block.container[block.index address], ?_, ?_⟩
  · unfold get
    split
    · rfl
    · rename_i failed
      rw [valid] at failed
      cases failed
    · rename_i failed
      rw [valid] at failed
      cases failed
  · rw [read, List.take_one_drop_eq_of_lt_length]
    rfl

theorem validateRead_eq (block : Sequential data readCount writeCount)
    (address : UInt16) {count : UInt16} (positive : readCount count = true → 0 < count.toNat) :
    block.validateRead address count =
      .ok (decide (readCount count = true ∧ block.Contains address count.toNat)) := by
  unfold validateRead
  cases counted : readCount count with
  | false => simp
  | true => simpa using validateSz_eq block address (positive counted)

theorem validateWrite_eq (block : Sequential data readCount writeCount)
    (address : UInt16) {count : UInt16} (positive : writeCount count = true → 0 < count.toNat) :
    block.validateWrite address count =
      .ok (decide (writeCount count = true ∧ block.Contains address count.toNat)) := by
  unfold validateWrite
  cases counted : writeCount count with
  | false => simp
  | true => simpa using validateSz_eq block address (positive counted)

theorem validate_eq (block : Sequential data readCount writeCount) (address : UInt16) :
    block.validate address = .ok (decide (block.Contains address 1)) :=
  validateSz_eq block address Nat.one_pos

/-- `get(address, count)` inside the block. -/
theorem getSlice_of_contains {block : Sequential data readCount writeCount}
    {address count : UInt16} (counted : readCount count = true) (positive : 0 < count.toNat)
    (inside : block.Contains address count.toNat) :
    block.getSlice address count = .ok (block.read address count.toNat) := by
  have valid : block.validateRead address count = .ok true := by
    simp [validateRead_eq block address (fun _ => positive), counted, inside]
  simp [getSlice, valid, bind, Except.bind, read]

/-- `set(address, value)` inside the block. -/
theorem set_of_contains {block : Sequential data readCount writeCount} {address : UInt16}
    (value : data) (inside : block.Contains address 1) :
    block.set address value = .ok (block.write address [value]) := by
  simp [set, validate_eq, inside, bind, Except.bind, write, SliceUpdate.overwrite]

/-- `set(address, buffer)` inside the block. -/
theorem setSlice_of_contains {block : Sequential data readCount writeCount}
    {address : UInt16} {buffer : List data} (positive : 0 < buffer.length)
    (inside : block.Contains address buffer.length) :
    block.setSlice address buffer = .ok (block.write address buffer) := by
  simp [setSlice, validateSz_eq block address positive, inside, bind, Except.bind, write]

end ModbusCpp.Block.Sequential
