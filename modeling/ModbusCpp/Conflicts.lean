import ModbusCpp.BlockRefinement
import ModbusCpp.Components

/-!
# Conflicting operations

Two calls of `get` or `set` conflict if they work on a common cell and one of
them sets it.  Calls that do not conflict can change places.
-/

namespace ModbusCpp

open Block Resumption

namespace Block.Sequential

variable {data : Type} {readCount writeCount : UInt16 → Bool}
  {block other : Sequential data readCount writeCount}

theorem SameShape.symm (shape : SameShape block other) : SameShape other block :=
  ⟨shape.startingAddress.symm, shape.capacity.symm, shape.defaultValue.symm⟩

theorem SameShape.contains_iff (shape : SameShape block other) (address : UInt16)
    (count : Nat) : block.Contains address count ↔ other.Contains address count := by
  rw [Contains, Contains, shape.startingAddress, shape.capacity]

theorem SameShape.validateSz_eq (shape : SameShape block other) (address : UInt16)
    (count : Nat) : block.validateSz address count = other.validateSz address count := by
  rw [validateSz, validateSz, shape.startingAddress, shape.capacity]

theorem SameShape.validate_eq (shape : SameShape block other) (address : UInt16) :
    block.validate address = other.validate address :=
  shape.validateSz_eq address 1

theorem SameShape.validateRead_eq (shape : SameShape block other) (address count : UInt16) :
    block.validateRead address count = other.validateRead address count := by
  rw [validateRead, validateRead, shape.validateSz_eq]

theorem SameShape.validateWrite_eq (shape : SameShape block other) (address count : UInt16) :
    block.validateWrite address count = other.validateWrite address count := by
  rw [validateWrite, validateWrite, shape.validateSz_eq]

theorem contains_of_validateRead {address count : UInt16}
    (valid : block.validateRead address count = .ok true) :
    block.Contains address count.toNat := by
  unfold validateRead at valid
  split at valid
  · exact contains_of_validateSz valid
  · cases valid

theorem pos_of_validateRead {address count : UInt16}
    (valid : block.validateRead address count = .ok true) : 0 < count.toNat := by
  unfold validateRead at valid
  split at valid
  · exact pos_of_validateSz valid
  · cases valid

/-- A slice only depends on the shape of the block and the cells in it. -/
theorem SameShape.getSlice_eq (shape : SameShape block other) {address count : UInt16}
    (agree : ∀ place, address.toNat ≤ place → place < address.toNat + count.toNat →
      block.cell place = other.cell place) :
    block.getSlice address count = other.getSlice address count := by
  unfold getSlice
  rw [shape.validateRead_eq]
  cases valid : other.validateRead address count with
  | error failure => rfl
  | ok inside =>
      cases inside with
      | false => rfl
      | true =>
          have otherInside := contains_of_validateRead valid
          have inside := (shape.contains_iff _ _).mpr otherInside
          have slices := AddressMap.slice_congr agree
          rw [slice_cell inside, slice_cell otherInside] at slices
          exact congrArg Except.ok (Option.some.inj slices)

theorem cell_store (block : Sequential data readCount writeCount) (address : UInt16)
    (values : List data) (place : Nat) :
    (block.store address values).2.cell place =
      if block.Contains address values.length ∧
          address.toNat ≤ place ∧ place < address.toNat + values.length then
        values[place - address.toNat]?
      else block.cell place := by
  unfold store
  by_cases stored : 0 < values.length ∧ block.Contains address values.length
  · rw [if_pos stored, cell_write stored.2, AddressMap.write]
    simp only [stored.2, true_and]
  · rw [if_neg stored, if_neg]
    rintro ⟨inside, covered⟩
    exact stored ⟨by omega, inside⟩

theorem SameShape.store_fst_eq (shape : SameShape block other) (address : UInt16)
    (values : List data) : (block.store address values).1 = (other.store address values).1 := by
  unfold store
  simp only [shape.contains_iff]
  split <;> rfl

end Block.Sequential

namespace BlockOp

variable {data : Type} {readCount writeCount : UInt16 → Bool}

/-- The cells that an operation works on. -/
def Touches (place : Nat) : BlockOp data → Prop
  | getSlice address count => address.toNat ≤ place ∧ place < address.toNat + count.toNat
  | get address => address.toNat ≤ place ∧ place < address.toNat + 1
  | setSlice address buffer => address.toNat ≤ place ∧ place < address.toNat + buffer.length
  | set address _ => address.toNat ≤ place ∧ place < address.toNat + 1

/-- The operations that may change their cells. -/
def Sets : BlockOp data → Prop
  | getSlice _ _ | get _ => False
  | setSlice _ _ | set _ _ => True

def Conflict (op other : BlockOp data) : Prop :=
  (op.Sets ∨ other.Sets) ∧ ∃ place, op.Touches place ∧ other.Touches place

variable {block other : Sequential data readCount writeCount}

theorem sameShape_apply (op : BlockOp data) (block : Sequential data readCount writeCount) :
    (op.apply block).2.SameShape block := by
  cases op with
  | getSlice | get => exact ⟨rfl, rfl, rfl⟩
  | setSlice address buffer =>
      rw [apply, Sequential.commit_setSlice]
      exact Sequential.sameShape_store block address buffer
  | set address value =>
      rw [apply, Sequential.commit_set]
      exact Sequential.sameShape_store block address [value]

/-- A result only depends on the cells that are got. -/
theorem apply_fst_congr {op : BlockOp data} (shape : block.SameShape other)
    (agree : ¬ op.Sets → ∀ place, op.Touches place → block.cell place = other.cell place) :
    (op.apply block).1 = (op.apply other).1 := by
  cases op with
  | getSlice address count =>
      exact shape.getSlice_eq fun place above below => agree id place ⟨above, below⟩
  | get address =>
      have same := agree id address.toNat ⟨Nat.le_refl _, Nat.lt_succ_self _⟩
      rw [apply, apply, Sequential.get_eq, Sequential.get_eq, lookup, same, lookup]
  | setSlice address buffer =>
      rw [apply, apply, Sequential.commit_setSlice, Sequential.commit_setSlice]
      exact shape.store_fst_eq address buffer
  | set address value =>
      rw [apply, apply, Sequential.commit_set, Sequential.commit_set]
      exact shape.store_fst_eq address [value]

/-- What a cell holds afterwards only depends on what it held before. -/
theorem cell_apply_congr (op : BlockOp data) {place : Nat} (shape : block.SameShape other)
    (agree : block.cell place = other.cell place) :
    (op.apply block).2.cell place = (op.apply other).2.cell place := by
  cases op with
  | getSlice | get => exact agree
  | setSlice address buffer =>
      rw [apply, apply, Sequential.commit_setSlice, Sequential.commit_setSlice]
      simp only [Sequential.cell_store, shape.contains_iff, agree]
  | set address value =>
      rw [apply, apply, Sequential.commit_set, Sequential.commit_set]
      simp only [Sequential.cell_store, shape.contains_iff, agree]

/-- Only the cells that are set may change. -/
theorem cell_apply_of_not {op : BlockOp data} {place : Nat}
    (elsewhere : ¬ (op.Sets ∧ op.Touches place)) :
    (op.apply block).2.cell place = block.cell place := by
  cases op with
  | getSlice | get => rfl
  | setSlice address buffer =>
      rw [apply, Sequential.commit_setSlice, Sequential.cell_store, if_neg]
      exact fun covered => elsewhere ⟨trivial, covered.2⟩
  | set address value =>
      rw [apply, Sequential.commit_set, Sequential.cell_store, if_neg]
      exact fun covered => elsewhere ⟨trivial, covered.2⟩

theorem independent_of_not_conflict {op other : BlockOp data}
    (apart : ¬ op.Conflict other) :
    Independent (BlockOp.apply : (op : BlockOp data) → Sequential data readCount writeCount → _)
      op other where
  result block := by
    apply apply_fst_congr (sameShape_apply other block)
    intro gets place touched
    apply cell_apply_of_not
    rintro ⟨sets, otherTouched⟩
    exact apart ⟨.inr sets, place, touched, otherTouched⟩
  otherResult block := by
    apply apply_fst_congr (sameShape_apply op block)
    intro gets place touched
    apply cell_apply_of_not
    rintro ⟨sets, opTouched⟩
    exact apart ⟨.inl sets, place, opTouched, touched⟩
  state block := by
    have shape := sameShape_apply op block
    have otherShape := sameShape_apply other block
    have kept := (sameShape_apply other _).trans (shape.trans
      ((sameShape_apply op _).trans otherShape).symm)
    apply kept.eq_of_cell
    funext place
    by_cases set : other.Sets ∧ other.Touches place
    · have elsewhere : ¬ (op.Sets ∧ op.Touches place) := fun both =>
        apart ⟨.inr set.1, place, both.2, set.2⟩
      rw [cell_apply_of_not elsewhere]
      exact cell_apply_congr other shape (cell_apply_of_not elsewhere)
    · rw [cell_apply_of_not set]
      exact (cell_apply_congr op otherShape (cell_apply_of_not set)).symm

end BlockOp

namespace Table

def bitsOf (which : BitBlock) : Component Table Block.Bits where
  part table := table.bits which
  store table block := table.setBits which block
  part_store table block := bits_setBits table which block
  store_part table := setBits_bits table which
  store_store table block later := setBits_setBits table which block later

def registersOf (which : RegisterBlock) : Component Table Block.Registers where
  part table := table.registers which
  store table block := table.setRegisters which block
  part_store table block := registers_setRegisters table which block
  store_part table := setRegisters_registers table which
  store_store table block later := setRegisters_setRegisters table which block later

theorem apart_bits {which other : BitBlock} (distinct : which ≠ other) :
    (bitsOf which).Apart (bitsOf other) where
  part table block := bits_setBits_of_ne table block distinct.symm
  otherPart table block := bits_setBits_of_ne table block distinct
  store table block later := setBits_comm table block later distinct

theorem apart_registers {which other : RegisterBlock} (distinct : which ≠ other) :
    (registersOf which).Apart (registersOf other) where
  part table block := registers_setRegisters_of_ne table block distinct.symm
  otherPart table block := registers_setRegisters_of_ne table block distinct
  store table block later := setRegisters_comm table block later distinct

theorem apart_bits_registers (which : BitBlock) (other : RegisterBlock) :
    (bitsOf which).Apart (registersOf other) where
  part table block := bits_setRegisters table other block which
  otherPart table block := registers_setBits table which block other
  store table block later := setBits_setRegisters table which block other later

end Table

namespace TableOp

/-- Operations on one block that conflict there. -/
def Conflict : TableOp → TableOp → Prop
  | bits which op, bits otherWhich other => which = otherWhich ∧ op.Conflict other
  | registers which op, registers otherWhich other =>
      which = otherWhich ∧ op.Conflict other
  | _, _ => False

theorem apply_bits (which : BitBlock) (op : BlockOp Bool) :
    apply (bits which op) = (Table.bitsOf which).lift op.apply :=
  rfl

theorem apply_registers (which : RegisterBlock) (op : BlockOp UInt16) :
    apply (registers which op) = (Table.registersOf which).lift op.apply :=
  rfl

theorem independent_of_not_conflict {op other : TableOp} (apart : ¬ op.Conflict other) :
    Independent TableOp.apply op other := by
  apply independent_iff_commutes.mpr
  rcases op with ⟨which, op⟩ | ⟨which, op⟩ <;>
    rcases other with ⟨otherWhich, other⟩ | ⟨otherWhich, other⟩ <;>
    simp only [apply_bits, apply_registers]
  · exact Component.commutes_lift_family Table.apart_bits fun same =>
      independent_iff_commutes.mp
        (BlockOp.independent_of_not_conflict fun conflict => apart ⟨same, conflict⟩)
  · exact (Table.apart_bits_registers which otherWhich).commutes_lift _ _
  · exact ((Table.apart_bits_registers otherWhich which).commutes_lift _ _).symm
  · exact Component.commutes_lift_family Table.apart_registers fun same =>
      independent_iff_commutes.mp
        (BlockOp.independent_of_not_conflict fun conflict => apart ⟨same, conflict⟩)

end TableOp

end ModbusCpp
