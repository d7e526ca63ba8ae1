import ModbusCpp.Exceptions
import ModbusCpp.SliceUpdate

/-!
# The data table

`data-table.hpp`: sequential blocks of cells and the table of four of them.  A
block is a template over its data type and its two count types, of which it
only uses the static validators.  A container holds at most `max_size()`
elements, so a sum of a 16-bit address and the size of a container does not
wrap, and sizes are naturals; a count that is passed to `ref` is any `size_t`.
The constructors make the container as long as the capacity and no member
changes its length, which every block carries as a field.
-/

namespace ModbusCpp

namespace Block

/-- `block::sequential`, with the state it has from `block::base`. -/
structure Sequential (data : Type) (readCount writeCount : UInt16 → Bool) where
  startingAddress : UInt16
  container : List data
  capacity : Nat
  defaultValue : data
  container_length : container.length = capacity

/-- A run of elements of a container, by their positions. -/
structure Window where
  first : Nat
  count : Nat
  deriving DecidableEq

namespace Sequential

variable {data : Type} {readCount writeCount : UInt16 → Bool}

/-- `sequential(starting_address, capacity, default_value)` -/
def new [Inhabited data] (startingAddress : UInt16) (capacity : Nat)
    (defaultValue : data) : Sequential data readCount writeCount where
  startingAddress := startingAddress
  container := resize (List.replicate capacity defaultValue) capacity default
  capacity := capacity
  defaultValue := defaultValue
  container_length := length_resize _ _ _

/-- `sequential(starting_address, container)`, whose default value is a 0. -/
def ofContainer [Inhabited data] (startingAddress : UInt16) (container : List data) :
    Sequential data readCount writeCount where
  startingAddress := startingAddress
  container := container
  capacity := container.length
  defaultValue := default
  container_length := rfl

/-- `validate_sz(address, count)`, for a count of 16 bits and for the size of a
container. -/
def validateSz (block : Sequential data readCount writeCount) (address : UInt16)
    (count : Nat) : Except Exn Bool :=
  if count > 0 then
    .ok (block.startingAddress ≤ address &&
      block.startingAddress.toNat + block.capacity ≥ address.toNat + count)
  else .error .outOfRange

/-- `validate(address)` -/
def validate (block : Sequential data readCount writeCount) (address : UInt16) :
    Except Exn Bool :=
  block.validateSz address 1

/-- `validate(address, count)` for a `read_count_t` -/
def validateRead (block : Sequential data readCount writeCount)
    (address count : UInt16) : Except Exn Bool :=
  if readCount count then block.validateSz address count.toNat else .ok false

/-- `validate(address, count)` for a `write_count_t` -/
def validateWrite (block : Sequential data readCount writeCount)
    (address count : UInt16) : Except Exn Bool :=
  if writeCount count then block.validateSz address count.toNat else .ok false

/-- `address - starting_address()`, in 16 bits. -/
def index (block : Sequential data readCount writeCount) (address : UInt16) : Nat :=
  (address - block.startingAddress).toNat

/-- The run of `count` addresses from `address` on lies in the block. -/
def Contains (block : Sequential data readCount writeCount) (address : UInt16)
    (count : Nat) : Prop :=
  block.startingAddress.toNat ≤ address.toNat ∧
    address.toNat + count ≤ block.startingAddress.toNat + block.capacity

instance (block : Sequential data readCount writeCount) (address : UInt16)
    (count : Nat) : Decidable (block.Contains address count) :=
  inferInstanceAs (Decidable (_ ∧ _))

theorem validateSz_eq (block : Sequential data readCount writeCount) (address : UInt16)
    {count : Nat} (positive : 0 < count) :
    block.validateSz address count = .ok (decide (block.Contains address count)) := by
  rw [validateSz, if_pos positive]
  congr 1
  rw [Bool.eq_iff_iff, decide_eq_true_eq]
  simp [Contains, UInt16.le_iff_toNat_le]

theorem contains_of_validateSz {block : Sequential data readCount writeCount}
    {address : UInt16} {count : Nat} (valid : block.validateSz address count = .ok true) :
    block.Contains address count := by
  by_cases positive : 0 < count
  · rw [validateSz_eq block address positive] at valid
    simpa using Except.ok.inj valid
  · simp [validateSz, positive] at valid

theorem pos_of_validateSz {block : Sequential data readCount writeCount}
    {address : UInt16} {count : Nat} (valid : block.validateSz address count = .ok true) :
    0 < count := by
  by_contra empty
  simp [validateSz, empty] at valid

theorem index_eq {block : Sequential data readCount writeCount} {address : UInt16}
    {count : Nat} (inside : block.Contains address count) :
    block.index address = address.toNat - block.startingAddress.toNat :=
  UInt16.toNat_sub_of_le _ _ (UInt16.le_iff_toNat_le.mpr inside.1)

theorem index_add_le {block : Sequential data readCount writeCount} {address : UInt16}
    {count : Nat} (inside : block.Contains address count) :
    block.index address + count ≤ block.container.length := by
  rcases inside with ⟨above, below⟩
  rw [index_eq ⟨above, below⟩, block.container_length]
  omega

/-- `get(address)` -/
def get (block : Sequential data readCount writeCount) (address : UInt16) :
    Except Exn data :=
  match valid : block.validate address with
  | .ok true =>
      .ok (block.container.get
        ⟨block.index address, index_add_le (contains_of_validateSz valid)⟩)
  | .ok false => .error .outOfRange
  | .error failure => .error failure

/-- `get(address, count)`: the elements between the two iterators it returns. -/
def getSlice (block : Sequential data readCount writeCount) (address count : UInt16) :
    Except Exn (List data) := do
  if ← block.validateRead address count then
    .ok ((block.container.drop (block.index address)).take count.toNat)
  else .error .outOfRange

/-- `set(address, value)` -/
def set (block : Sequential data readCount writeCount) (address : UInt16)
    (value : data) : Except Exn (Sequential data readCount writeCount) := do
  if ← block.validate address then
    .ok { block with
      container := block.container.set (block.index address) value
      container_length := by rw [List.length_set, block.container_length] }
  else .error .outOfRange

theorem length_overwrite (block : Sequential data readCount writeCount) (address : UInt16)
    (values : List data) :
    (SliceUpdate.overwrite block.container (block.index address) values).length =
      block.capacity := by
  rw [SliceUpdate.length_overwrite, block.container_length]

/-- `set(address, buffer)` -/
def setSlice (block : Sequential data readCount writeCount) (address : UInt16)
    (buffer : List data) : Except Exn (Sequential data readCount writeCount) := do
  if ← block.validateSz address buffer.length then
    .ok { block with
      container := SliceUpdate.overwrite block.container (block.index address) buffer
      container_length := block.length_overwrite address buffer }
  else .error .outOfRange

/-- `ref(address)`: the element behind the iterator, and no other. -/
def ref (block : Sequential data readCount writeCount) (address : UInt16) :
    Except Exn Window := do
  if ← block.validate address then .ok ⟨block.index address, 1⟩
  else .error .outOfRange

/-- `validate_sz(address, count)`, for a count of any size, where the sum of the
address and the count may wrap. -/
def validateSize (block : Sequential data readCount writeCount) (address : UInt16)
    (count : UInt64) : Except Exn Bool :=
  if count > 0 then
    .ok (block.startingAddress ≤ address &&
      block.startingAddress.toNat + block.capacity ≥
        (address.toNat + count.toNat) % UInt64.size)
  else .error .outOfRange

/-- `ref(address, count)`: the elements between the two iterators. -/
def refSlice (block : Sequential data readCount writeCount) (address : UInt16)
    (count : UInt64) : Except Exn Window := do
  if ← block.validateSize address count then .ok ⟨block.index address, count.toNat⟩
  else .error .outOfRange

/-- An assignment through a reference or an iterator, which is a position in
the container. -/
def assign (block : Sequential data readCount writeCount) (position : Nat) (value : data) :
    Sequential data readCount writeCount :=
  { block with
    container := block.container.set position value
    container_length := by rw [List.length_set, block.container_length] }

/-- `reset()` -/
def reset (block : Sequential data readCount writeCount) :
    Sequential data readCount writeCount :=
  { block with
    container := block.container.map fun _ => block.defaultValue
    container_length := by rw [List.length_map, block.container_length] }

end Sequential

/-- `block::bits` -/
abbrev Bits := Sequential Bool (NumBits.validate false) (NumBits.validate true)

/-- `block::registers` -/
abbrev Registers := Sequential UInt16 (NumRegs.validate false) (NumRegs.validate true)

end Block

/-- `table` -/
structure Table where
  coils : Block.Bits
  discreteInputs : Block.Bits
  holdingRegisters : Block.Registers
  inputRegisters : Block.Registers

namespace Table

/-- `block::sequential::initializer_t` -/
structure BlockInitializer (data : Type) where
  startingAddress : UInt16
  capacity : Nat
  defaultValue : data

/-- `table::initializer_t` -/
structure Initializer where
  coils : BlockInitializer Bool
  discreteInputs : BlockInitializer Bool
  holdingRegisters : BlockInitializer UInt16
  inputRegisters : BlockInitializer UInt16

/-- `table(initializer)` -/
def new (initializer : Initializer) : Table where
  coils := .new initializer.coils.startingAddress initializer.coils.capacity
    initializer.coils.defaultValue
  discreteInputs := .new initializer.discreteInputs.startingAddress
    initializer.discreteInputs.capacity initializer.discreteInputs.defaultValue
  holdingRegisters := .new initializer.holdingRegisters.startingAddress
    initializer.holdingRegisters.capacity initializer.holdingRegisters.defaultValue
  inputRegisters := .new initializer.inputRegisters.startingAddress
    initializer.inputRegisters.capacity initializer.inputRegisters.defaultValue

/-- Four blocks that start at 0, with `capacity` cleared cells each. -/
def Initializer.cleared (capacity : Nat) : Initializer :=
  ⟨⟨0, capacity, false⟩, ⟨0, capacity, false⟩, ⟨0, capacity, 0⟩, ⟨0, capacity, 0⟩⟩

def cleared (capacity : Nat) : Table :=
  new (.cleared capacity)

end Table

end ModbusCpp
