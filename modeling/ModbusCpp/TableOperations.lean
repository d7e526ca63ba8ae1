import ModbusCpp.BlockMap
import ModbusCpp.Method
import ModbusCpp.Resumption

/-!
# Operations on the shared table

A member function that uses the table is a program over calls of `get` and `set`
of its blocks, each with what the caller reads through what it returns; run
alone, it is a function of the table.  Both members lock the mutex of the block
for their whole body, but what `get` of a run or of a register returns is read
after that.  A call is therefore one step only as far as the session runs alone;
`CellAccesses` takes the calls apart into locks and uses of single cells.
-/

namespace ModbusCpp

open Block

/-- The members of a block that lock its mutex, with their arguments. -/
inductive BlockOp (data : Type)
  | getSlice (address count : UInt16)
  | get (address : UInt16)
  | setSlice (address : UInt16) (buffer : List data)
  | set (address : UInt16) (value : data)

namespace BlockOp

variable {data : Type} {readCount writeCount : UInt16 → Bool}

abbrev Value : BlockOp data → Type
  | getSlice _ _ => List data
  | get _ => data
  | setSlice _ _ => Unit
  | set _ _ => Unit

/-- A member that throws leaves its block as it was. -/
def commit (result : Except Exn (Sequential data readCount writeCount))
    (block : Sequential data readCount writeCount) :
    Except Exn Unit × Sequential data readCount writeCount :=
  match result with
  | .ok stored => (.ok (), stored)
  | .error failure => (.error failure, block)

def apply : (op : BlockOp data) → Sequential data readCount writeCount →
    Except Exn op.Value × Sequential data readCount writeCount
  | getSlice address count, block => (block.getSlice address count, block)
  | get address, block => (block.get address, block)
  | setSlice address buffer, block => commit (block.setSlice address buffer) block
  | set address value, block => commit (block.set address value) block

end BlockOp

/-- The two blocks of bits of a table. -/
inductive BitBlock
  | coils
  | discreteInputs
  deriving DecidableEq

/-- The two blocks of registers of a table. -/
inductive RegisterBlock
  | holdingRegisters
  | inputRegisters
  deriving DecidableEq

namespace Table

def bits (table : Table) : BitBlock → Block.Bits
  | .coils => table.coils
  | .discreteInputs => table.discreteInputs

def setBits (table : Table) : BitBlock → Block.Bits → Table
  | .coils, block => { table with coils := block }
  | .discreteInputs, block => { table with discreteInputs := block }

def registers (table : Table) : RegisterBlock → Block.Registers
  | .holdingRegisters => table.holdingRegisters
  | .inputRegisters => table.inputRegisters

def setRegisters (table : Table) : RegisterBlock → Block.Registers → Table
  | .holdingRegisters, block => { table with holdingRegisters := block }
  | .inputRegisters, block => { table with inputRegisters := block }

@[simp]
theorem setBits_bits (table : Table) (which : BitBlock) :
    table.setBits which (table.bits which) = table := by
  cases which <;> rfl

@[simp]
theorem bits_setBits (table : Table) (which : BitBlock) (block : Block.Bits) :
    (table.setBits which block).bits which = block := by
  cases which <;> rfl

@[simp]
theorem setBits_setBits (table : Table) (which : BitBlock) (block later : Block.Bits) :
    (table.setBits which block).setBits which later = table.setBits which later := by
  cases which <;> rfl

theorem bits_setBits_of_ne (table : Table) {which other : BitBlock} (block : Block.Bits)
    (distinct : which ≠ other) : (table.setBits which block).bits other = table.bits other := by
  cases which <;> cases other <;> first | rfl | exact absurd rfl distinct

theorem setBits_comm (table : Table) {which other : BitBlock} (block later : Block.Bits)
    (distinct : which ≠ other) :
    (table.setBits which block).setBits other later =
      (table.setBits other later).setBits which block := by
  cases which <;> cases other <;> first | rfl | exact absurd rfl distinct

@[simp]
theorem registers_setRegisters (table : Table) (which : RegisterBlock)
    (block : Block.Registers) : (table.setRegisters which block).registers which = block := by
  cases which <;> rfl

@[simp]
theorem setRegisters_setRegisters (table : Table) (which : RegisterBlock)
    (block later : Block.Registers) :
    (table.setRegisters which block).setRegisters which later =
      table.setRegisters which later := by
  cases which <;> rfl

theorem registers_setRegisters_of_ne (table : Table) {which other : RegisterBlock}
    (block : Block.Registers) (distinct : which ≠ other) :
    (table.setRegisters which block).registers other = table.registers other := by
  cases which <;> cases other <;> first | rfl | exact absurd rfl distinct

theorem setRegisters_comm (table : Table) {which other : RegisterBlock}
    (block later : Block.Registers) (distinct : which ≠ other) :
    (table.setRegisters which block).setRegisters other later =
      (table.setRegisters other later).setRegisters which block := by
  cases which <;> cases other <;> first | rfl | exact absurd rfl distinct

@[simp]
theorem registers_setBits (table : Table) (which : BitBlock) (block : Block.Bits)
    (other : RegisterBlock) :
    (table.setBits which block).registers other = table.registers other := by
  cases which <;> cases other <;> rfl

@[simp]
theorem bits_setRegisters (table : Table) (which : RegisterBlock) (block : Block.Registers)
    (other : BitBlock) : (table.setRegisters which block).bits other = table.bits other := by
  cases which <;> cases other <;> rfl

theorem setBits_setRegisters (table : Table) (which : BitBlock) (block : Block.Bits)
    (other : RegisterBlock) (later : Block.Registers) :
    (table.setBits which block).setRegisters other later =
      (table.setRegisters other later).setBits which block := by
  cases which <;> cases other <;> rfl

@[simp]
theorem setRegisters_registers (table : Table) (which : RegisterBlock) :
    table.setRegisters which (table.registers which) = table := by
  cases which <;> rfl

end Table

/-- The locked members of the four blocks of a table. -/
inductive TableOp
  | bits (which : BitBlock) (op : BlockOp Bool)
  | registers (which : RegisterBlock) (op : BlockOp UInt16)

namespace TableOp

abbrev Value : TableOp → Type
  | bits _ op => op.Value
  | registers _ op => op.Value

def apply : (op : TableOp) → Table → Except Exn op.Value × Table
  | bits which op, table =>
      ((op.apply (table.bits which)).1,
        table.setBits which (op.apply (table.bits which)).2)
  | registers which op, table =>
      ((op.apply (table.registers which)).1,
        table.setRegisters which (op.apply (table.registers which)).2)

end TableOp

/-- A member function that works on the table through its locked members. -/
abbrev TableMethod (σ α : Type) : Type :=
  Method Exn (Resumption TableOp fun op => Except Exn op.Value) σ α

namespace TableMethod

variable {σ α β : Type}

def call (op : TableOp) : TableMethod σ op.Value :=
  fun object => .perform op fun result => .done (result, object)

/-- Run a member function with nothing in between its steps. -/
def eval (method : TableMethod σ α) (object : σ) (table : Table) :
    (Except Exn α × σ) × Table :=
  Resumption.run TableOp.apply (method.run object) table

@[simp]
theorem eval_pure (value : α) (object : σ) (table : Table) :
    (pure value : TableMethod σ α).eval object table = ((.ok value, object), table) :=
  rfl

@[simp]
theorem eval_bind (method : TableMethod σ α) (next : α → TableMethod σ β) (object : σ)
    (table : Table) :
    (method >>= next).eval object table =
      match method.eval object table with
      | ((.ok value, left), stored) => (next value).eval left stored
      | ((.error failure, left), stored) => ((.error failure, left), stored) := by
  simp only [eval, Method.run_bind, Resumption.run_bind]
  generalize Resumption.run TableOp.apply (method.run object) table = outcome
  obtain ⟨⟨value | failure, left⟩, stored⟩ := outcome <;> rfl

@[simp]
theorem eval_throw (failure : Exn) (object : σ) (table : Table) :
    (throw failure : TableMethod σ α).eval object table =
      ((.error failure, object), table) :=
  rfl

@[simp]
theorem eval_tryCatch (method : TableMethod σ α) (handler : Exn → TableMethod σ α)
    (object : σ) (table : Table) :
    (tryCatch method handler).eval object table =
      match method.eval object table with
      | ((.ok value, left), stored) => ((.ok value, left), stored)
      | ((.error failure, left), stored) => (handler failure).eval left stored := by
  simp only [eval, Method.run_tryCatch, Resumption.run_bind]
  generalize Resumption.run TableOp.apply (method.run object) table = outcome
  obtain ⟨⟨value | failure, left⟩, stored⟩ := outcome <;> rfl

@[simp]
theorem eval_get (object : σ) (table : Table) :
    (get : TableMethod σ σ).eval object table = ((.ok object, object), table) :=
  rfl

@[simp]
theorem eval_modify (update : σ → σ) (object : σ) (table : Table) :
    (modify update : TableMethod σ PUnit).eval object table =
      ((.ok (), update object), table) :=
  rfl

@[simp]
theorem eval_call (op : TableOp) (object : σ) (table : Table) :
    (call op : TableMethod σ op.Value).eval object table =
      (((op.apply table).1, object), (op.apply table).2) :=
  rfl

section Inside

/- Each locked member, called where the block contains the run it works on. -/

variable (object : σ) {table : Table} {address count : UInt16}

theorem eval_getSlice_bits {which : BitBlock}
    (counted : NumBits.validate false count = true)
    (inside : (table.bits which).Contains address count.toNat) :
    (call (.bits which (.getSlice address count)) : TableMethod σ (List Bool)).eval
        object table =
      ((.ok ((table.bits which).read address count.toNat), object), table) := by
  refine (eval_call _ object table).trans ?_
  simp [TableOp.apply, BlockOp.apply,
    Sequential.getSlice_of_contains counted (NumBits.pos_of_validate counted) inside]

theorem eval_getSlice_registers {which : RegisterBlock}
    (counted : NumRegs.validate false count = true)
    (inside : (table.registers which).Contains address count.toNat) :
    (call (.registers which (.getSlice address count)) : TableMethod σ (List UInt16)).eval
        object table =
      ((.ok ((table.registers which).read address count.toNat), object), table) := by
  refine (eval_call _ object table).trans ?_
  simp [TableOp.apply, BlockOp.apply,
    Sequential.getSlice_of_contains counted (NumRegs.pos_of_validate counted) inside]

theorem eval_get_bits (σ : Type) {which : BitBlock}
    (inside : (table.bits which).Contains address 1) :
    ∃ value, (table.bits which).read address 1 = [value] ∧ ∀ object : σ,
      (call (.bits which (.get address)) : TableMethod σ Bool).eval object table =
        ((.ok value, object), table) := by
  obtain ⟨value, got, cell⟩ := Sequential.get_of_contains inside
  refine ⟨value, cell, fun object => (eval_call _ object table).trans ?_⟩
  simp [TableOp.apply, BlockOp.apply, got]

theorem eval_get_registers (σ : Type) {which : RegisterBlock}
    (inside : (table.registers which).Contains address 1) :
    ∃ value, (table.registers which).read address 1 = [value] ∧ ∀ object : σ,
      (call (.registers which (.get address)) : TableMethod σ UInt16).eval object table =
        ((.ok value, object), table) := by
  obtain ⟨value, got, cell⟩ := Sequential.get_of_contains inside
  refine ⟨value, cell, fun object => (eval_call _ object table).trans ?_⟩
  simp [TableOp.apply, BlockOp.apply, got]

theorem eval_set_bits {which : BitBlock} (value : Bool)
    (inside : (table.bits which).Contains address 1) :
    (call (.bits which (.set address value)) : TableMethod σ Unit).eval object table =
      ((.ok (), object),
        table.setBits which ((table.bits which).write address [value])) := by
  refine (eval_call _ object table).trans ?_
  simp [TableOp.apply, BlockOp.apply, BlockOp.commit, Sequential.set_of_contains value inside]

theorem eval_set_registers {which : RegisterBlock} (value : UInt16)
    (inside : (table.registers which).Contains address 1) :
    (call (.registers which (.set address value)) : TableMethod σ Unit).eval object table =
      ((.ok (), object),
        table.setRegisters which ((table.registers which).write address [value])) := by
  refine (eval_call _ object table).trans ?_
  simp [TableOp.apply, BlockOp.apply, BlockOp.commit, Sequential.set_of_contains value inside]

theorem eval_setSlice_bits {which : BitBlock} {buffer : List Bool}
    (positive : 0 < buffer.length)
    (inside : (table.bits which).Contains address buffer.length) :
    (call (.bits which (.setSlice address buffer)) : TableMethod σ Unit).eval object table =
      ((.ok (), object),
        table.setBits which ((table.bits which).write address buffer)) := by
  refine (eval_call _ object table).trans ?_
  simp [TableOp.apply, BlockOp.apply, BlockOp.commit,
    Sequential.setSlice_of_contains positive inside]

theorem eval_setSlice_registers {which : RegisterBlock} {buffer : List UInt16}
    (positive : 0 < buffer.length)
    (inside : (table.registers which).Contains address buffer.length) :
    (call (.registers which (.setSlice address buffer)) : TableMethod σ Unit).eval
        object table =
      ((.ok (), object),
        table.setRegisters which ((table.registers which).write address buffer)) := by
  refine (eval_call _ object table).trans ?_
  simp [TableOp.apply, BlockOp.apply, BlockOp.commit,
    Sequential.setSlice_of_contains positive inside]

end Inside

end TableMethod

end ModbusCpp
