import ModbusCpp.CellAccesses
import ModbusCpp.Serialisation

/-!
# Accesses to the table

The operations of a session on the table, as programs of accesses to its cells.
The accesses of other sessions can come in between.  Two accesses conflict if
they use one cell and one of them assigns it.
-/

namespace ModbusCpp

open Block Resumption

/-- One step of a member on one of the four blocks. -/
inductive TableAccess
  | bits (which : BitBlock) (access : BlockAccess Bool)
  | registers (which : RegisterBlock) (access : BlockAccess UInt16)

namespace TableAccess

abbrev Value : TableAccess → Type
  | bits _ access => access.Value
  | registers _ access => access.Value

def apply : (access : TableAccess) → Table → access.Value × Table
  | bits which access => (Table.bitsOf which).lift access.apply
  | registers which access => (Table.registersOf which).lift access.apply

end TableAccess

/-- What a session still has to do with the cells of the table. -/
abbrev CellProgram (α : Type) : Type :=
  Resumption TableAccess TableAccess.Value α

namespace TableOp

/-- `get(address)` of a register returns a reference. -/
def accesses : (op : TableOp) → CellProgram (Except Exn op.Value)
  | bits which op =>
      (op.accesses false).expand fun access => .perform (.bits which access) .done
  | registers which op =>
      (op.accesses true).expand fun access => .perform (.registers which access) .done

/-- An operation runs alone as its accesses do. -/
theorem run_accesses (op : TableOp) (table : Table) :
    run TableAccess.apply op.accesses table = op.apply table := by
  cases op with
  | bits which op =>
      rw [accesses, run_expand_lift fun access state => rfl]
      simp only [Component.lift, BlockOp.run_accesses]
      rfl
  | registers which op =>
      rw [accesses, run_expand_lift fun access state => rfl]
      simp only [Component.lift, BlockOp.run_accesses]
      rfl

/-- The accesses come to what the operation does on a table `seen`, which holds
in each cell what the cell held when it was last read. -/
def Shows : TableOp → Table → List (TableAccess × Table) → Prop
  | bits which op, seen, accesses => ∃ steps : List (BlockAccess Bool × Table),
      accesses = steps.map (Prod.map (.bits which) id) ∧
        op.Shows false (seen.bits which) (steps.map (Prod.map id (·.bits which)))
  | registers which op, seen, accesses => ∃ steps : List (BlockAccess UInt16 × Table),
      accesses = steps.map (Prod.map (.registers which) id) ∧
        op.Shows true (seen.registers which) (steps.map (Prod.map id (·.registers which)))

end TableOp

/-- Under interference, an operation does what it does on some table of its
shape. -/
theorem TableOp.ensures_accesses {initial : Table} (op : TableOp) :
    Ensures TableAccess.apply (fun found => found.SameShape initial) op.accesses
      fun accesses result => ∃ seen : Table, seen.SameShape initial ∧
        result = (op.apply seen).1 ∧ op.Shows seen accesses := by
  cases op with
  | bits which op =>
      refine (Ensures.expand_access (fun state shape => shape.bits which)
        (fun access state => rfl) (op.ensures_accesses false)).mono ?_
      rintro _ result ⟨steps, rfl, block, shape, rfl, shows⟩
      refine ⟨initial.setBits which block, Table.sameShape_setBits shape, ?_, steps, rfl, ?_⟩
      · simp [apply]
      · rwa [Table.bits_setBits]
  | registers which op =>
      refine (Ensures.expand_access (fun state shape => shape.registers which)
        (fun access state => rfl) (op.ensures_accesses true)).mono ?_
      rintro _ result ⟨steps, rfl, block, shape, rfl, shows⟩
      refine ⟨initial.setRegisters which block, Table.sameShape_setRegisters shape, ?_, steps, rfl,
        ?_⟩
      · simp [apply]
      · rwa [Table.registers_setRegisters]

namespace TableAccess

/-- Accesses to one block that conflict there. -/
def Conflict : TableAccess → TableAccess → Prop
  | bits which access, bits otherWhich other => which = otherWhich ∧ access.Conflict other
  | registers which access, registers otherWhich other =>
      which = otherWhich ∧ access.Conflict other
  | _, _ => False

theorem independent_of_not_conflict {access other : TableAccess}
    (apart : ¬ access.Conflict other) : Independent TableAccess.apply access other := by
  apply independent_iff_commutes.mpr
  rcases access with ⟨which, access⟩ | ⟨which, access⟩ <;>
    rcases other with ⟨otherWhich, other⟩ | ⟨otherWhich, other⟩
  · exact Component.commutes_lift_family Table.apart_bits fun same =>
      BlockAccess.commutes_of_not_conflict fun conflict => apart ⟨same, conflict⟩
  · exact (Table.apart_bits_registers which otherWhich).commutes_lift _ _
  · exact ((Table.apart_bits_registers otherWhich which).commutes_lift _ _).symm
  · exact Component.commutes_lift_family Table.apart_registers fun same =>
      BlockAccess.commutes_of_not_conflict fun conflict => apart ⟨same, conflict⟩

theorem sameShape_apply (access : TableAccess) (table : Table) :
    (access.apply table).2.SameShape table := by
  cases access with
  | bits which access => exact Table.sameShape_setBits (access.sameShape_apply _)
  | registers which access => exact Table.sameShape_setRegisters (access.sameShape_apply _)

end TableAccess

/-- The mutexes of the four blocks. -/
inductive Mutex
  | bits (which : BitBlock)
  | registers (which : RegisterBlock)
  deriving DecidableEq

def TableAccess.locking : TableAccess → Locking Mutex
  | bits which access => access.locking (.bits which)
  | registers which access => access.locking (.registers which)

theorem TableOp.bracketed_accesses (op : TableOp) :
    Bracketed TableAccess.locking none op.accesses none := by
  cases op with
  | bits which op =>
      exact Bracketed.expand_access (fun access => rfl) (op.bracketed_accesses false)
  | registers which op =>
      exact Bracketed.expand_access (fun access => rfl) (op.bracketed_accesses true)

end ModbusCpp
