import ModbusCpp.CommandFootprints

/-!
# Tables that clients cannot tell apart

Requests name 16-bit addresses and limited quantities, so they reach only the
cells below a bound.  Two tables are answered alike over every run of packets
if and only if their maps agree there; nothing else about a table, such as the
capacity beyond it, can be observed.
-/

namespace ModbusCpp

open Block Method RequestHandler StructFormat

/-- The cells in the runs that can be read. -/
def Cell.InReach : Cell → Prop
  | .bit _ place => place < 65535 + 2000
  | .register _ place => place < 65535 + 125

theorem Cell.inReach_of_mem_bits {block : BitBlock} {address : UInt16} {count : Nat}
    (small : count ≤ 2000) : ∀ cell ∈ Cell.bits block address count, cell.InReach := by
  have addressLt := address.toNat_lt
  rintro _ ⟨place, ⟨above, below⟩, rfl⟩
  unfold InReach
  omega

theorem Cell.inReach_of_mem_registers {block : RegisterBlock} {address : UInt16} {count : Nat}
    (small : count ≤ 125) : ∀ cell ∈ Cell.registers block address count, cell.InReach := by
  have addressLt := address.toNat_lt
  rintro _ ⟨place, ⟨above, below⟩, rfl⟩
  unfold InReach
  omega

theorem Cell.Writable.inReach {cell : Cell} (writable : cell.Writable) : cell.InReach := by
  rcases cell with ⟨⟨⟩, place⟩ | ⟨⟨⟩, place⟩
  · exact Nat.lt_trans writable (by decide)
  · exact writable.elim
  · exact Nat.lt_trans writable (by decide)
  · exact writable.elim

namespace Command

theorem reads_inReach (command : Command) : ∀ cell ∈ command.reads, cell.InReach := by
  cases command with
  | readBits block address count =>
      rintro cell ⟨counted, inside⟩
      exact Cell.inReach_of_mem_bits ((NumBits.validate_read_iff count).mp counted).2 cell inside
  | readRegisters block address count =>
      rintro cell ⟨counted, inside⟩
      exact Cell.inReach_of_mem_registers ((NumRegs.validate_read_iff count).mp counted).2 cell
        inside
  | writeSingleCoil address value => exact Cell.inReach_of_mem_bits (by decide)
  | maskWriteRegister address andMask orMask => exact Cell.inReach_of_mem_registers (by decide)
  | readWriteMultipleRegisters readAddress readCount writeAddress writeCount values =>
      rintro cell ⟨counted, inside⟩
      exact Cell.inReach_of_mem_registers ((NumRegs.validate_read_iff readCount).mp counted).2
        cell inside
  | writeSingleRegister | writeMultipleCoils | writeMultipleRegisters =>
      exact fun cell none => none.elim

end Command

namespace Memory

/-- Two memories with the same cells wherever a request can read. -/
def Agrees (first second : Memory) : Prop :=
  ∀ cell : Cell, cell.InReach → first.lookup cell = second.lookup cell

/-- The same answer, and memories that agree again. -/
def SameAnswer {α : Type} : Option (α × Memory) → Option (α × Memory) → Prop :=
  Option.Rel fun answer other => answer.1 = other.1 ∧ answer.2.Agrees other.2

/-- The step lemma. -/
theorem handle_agrees {first second : Memory} (agrees : Agrees first second)
    (packet : ByteBuffer) : SameAnswer (handle packet first) (handle packet second) := by
  have outcome := @handle_congr first second packet
    (fun cell ⟨command, _, read⟩ => agrees cell (command.reads_inReach cell read))
    (fun cell ⟨command, _, written⟩ =>
      congrArg Option.isSome (agrees cell (command.writes_writable cell written).inReach))
  generalize handle packet first = answer at outcome
  generalize handle packet second = other at outcome
  cases outcome with
  | none => exact .none
  | some both => exact .some ⟨both.1, fun cell reach => both.2 cell (agrees cell reach)⟩

/-- The run lemma. -/
theorem handleAll_agrees {first second : Memory} (agrees : Agrees first second)
    (packets : List ByteBuffer) :
    SameAnswer (handleAll packets first) (handleAll packets second) := by
  induction packets generalizing first second with
  | nil => exact .some ⟨rfl, agrees⟩
  | cons packet packets ih =>
      have step := handle_agrees agrees packet
      rw [handleAll, handleAll]
      generalize handle packet first = answer at step
      generalize handle packet second = other at step
      cases step with
      | none => exact .none
      | @some answer other both =>
          have rest := ih both.2
          rw [Option.bind_some, Option.bind_some]
          generalize handleAll packets answer.2 = later at rest
          generalize handleAll packets other.2 = otherLater at rest
          cases rest with
          | none => exact .none
          | some bothLater =>
              exact .some ⟨congrArg₂ List.cons both.1 bothLater.1, bothLater.2⟩

end Memory

/-- Every cell below the limit is the last one of a run that starts at its
address, or at the largest one. -/
theorem Block.Sequential.exists_run {limit place : Nat} (positive : 1 ≤ limit)
    (small : limit ≤ 2000) (below : place < 65535 + limit) :
    ∃ address count : UInt16, (1 ≤ count.toNat ∧ count.toNat ≤ limit) ∧
      (address.toNat ≤ place ∧ place < address.toNat + count.toNat) ∧
      ∀ {data : Type} {readCount writeCount : UInt16 → Bool}
        (block : Sequential data readCount writeCount),
        block.Contains address count.toNat ↔ (block.cell place).isSome = true := by
  have addressEq : (UInt16.ofNat (min place 65535)).toNat = min place 65535 :=
    UInt16.toNat_ofNat_of_lt' (by simp only [UInt16.size]; omega)
  have countEq : (UInt16.ofNat (place - min place 65535 + 1)).toNat =
      place - min place 65535 + 1 := UInt16.toNat_ofNat_of_lt' (by simp only [UInt16.size]; omega)
  refine ⟨UInt16.ofNat (min place 65535), UInt16.ofNat (place - min place 65535 + 1), by omega,
    by omega, fun block => ?_⟩
  have start := block.startingAddress.toNat_lt
  rw [Sequential.cell_isSome_iff, Contains, addressEq, countEq]
  omega

/-- Blocks that are read alike have the same cells below the limit. -/
theorem Block.Sequential.cell_eq_of_read {data : Type} {readCount writeCount : UInt16 → Bool}
    {first second : Sequential data readCount writeCount} {limit place : Nat}
    (positive : 1 ≤ limit) (small : limit ≤ 2000) (below : place < 65535 + limit)
    (same : ∀ address count : UInt16, 1 ≤ count.toNat ∧ count.toNat ≤ limit →
      (first.Contains address count.toNat ↔ second.Contains address count.toNat) ∧
        (first.Contains address count.toNat →
          first.read address count.toNat = second.read address count.toNat)) :
    first.cell place = second.cell place := by
  obtain ⟨address, count, counted, covered, contains⟩ := exists_run positive small below
  obtain ⟨offset, rfl⟩ := Nat.exists_eq_add_of_le covered.1
  have offsetLt := Nat.lt_of_add_lt_add_left covered.2
  obtain ⟨both, reads⟩ := same address count counted
  by_cases inside : first.Contains address count.toNat
  · rw [cell_eq_getElem?_read inside offsetLt, cell_eq_getElem?_read (both.mp inside) offsetLt,
      reads inside]
  · have outside : first.cell (address.toNat + offset) = none :=
      Option.not_isSome_iff_eq_none.mp (inside ∘ (contains first).mpr)
    have otherOutside : second.cell (address.toNat + offset) = none :=
      Option.not_isSome_iff_eq_none.mp ((inside ∘ both.mpr) ∘ (contains second).mpr)
    rw [outside, otherOutside]

section Telling

variable {first second : Table}

/-- Equal replies to a command tell that it is admissible on both tables or on
neither, and equal payloads. -/
theorem admissible_of_respond {packet : ByteBuffer} {header : Header} {function : FunctionCode}
    {command : Command} (parsed : parse packet function = some (.ok command))
    (same : (respond header function (.ok command) first).1.bytes =
      (respond header function (.ok command) second).1.bytes) :
    (command.Admissible first ↔ command.Admissible second) ∧
      (command.Admissible first → command.reply first = command.reply second) := by
  have refused (table : Table) :
      ExceptionReply (respond header function (.ok command) table).1.bytes ↔
        ¬ command.Admissible table := by
    simpa using respond_exceptionReply_iff parsed header table
  have both : command.Admissible first ↔ command.Admissible second := by
    rw [← not_iff_not, ← refused first, ← refused second, same]
  refine ⟨both, fun admissible => ?_⟩
  have other := both.mp admissible
  simp only [respond, if_pos admissible, if_pos other] at same
  exact Frame.payload_eq_of_bytes_eq same

variable [Struc]

/-- A request to read. -/
def reading (function : FunctionCode) (address count : UInt16) : ByteBuffer :=
  ByteBuffer.guarded (Frame.bytes ⟨0, 1, function.toUnderlying, wordBytes [address, count]⟩)

omit [Struc] in
theorem decode_reading (function : FunctionCode) (address count : UInt16) :
    decode (reading function address count).read 8 [.H, .H] = some (address, count, ()) :=
  Frame.decode_words rfl _

/-- Tables that answer every run of packets alike answer a read alike. -/
theorem reply_eq_of_handleAll {function : FunctionCode} {address count : UInt16}
    {command : Command}
    (parsed : parse (reading function address count) function = some (.ok command))
    (same : ((handleAll [reading function address count]).run first).map Prod.fst =
      ((handleAll [reading function address count]).run second).map Prod.fst) :
    (command.Admissible first ↔ command.Admissible second) ∧
      (command.Admissible first → command.reply first = command.reply second) := by
  obtain ⟨header, received⟩ := @exists_received_function (reading function address count)
    function (Frame.getElem?_bytes_function _)
  have ran (table : Table) : (handleAll [reading function address count]).run table =
      some (.ok [(respond header function (.ok command) table).1.bytes],
        (respond header function (.ok command) table).2) :=
    handleAll_cons_run (handle_run_of_parse received parsed) rfl
  rw [ran first, ran second] at same
  have bytes : (respond header function (.ok command) first).1.bytes =
      (respond header function (.ok command) second).1.bytes := by
    simpa using same
  exact admissible_of_respond parsed bytes

omit [Struc] in
/-- Bits that are packed alike are the same, if they are as many. -/
theorem eq_of_packBits_eq {values others : List Bool} (lengthEq : values.length = others.length)
    (packed : packBits values = packBits others) : values = others := by
  have unpacked := resize_unpackBits_packBits values
  rwa [packed, lengthEq, resize_unpackBits_packBits, eq_comm] at unpacked

theorem contains_bits_of_handleAll {which : BitBlock} {address count : UInt16}
    (counted : 1 ≤ count.toNat ∧ count.toNat ≤ 2000)
    (same : ∀ packets, ((handleAll packets).run first).map Prod.fst =
      ((handleAll packets).run second).map Prod.fst) :
    ((first.bits which).Contains address count.toNat ↔
        (second.bits which).Contains address count.toNat) ∧
      ((first.bits which).Contains address count.toNat →
        (first.bits which).read address count.toNat =
          (second.bits which).read address count.toNat) := by
  have valid := (NumBits.validate_read_iff count).mpr counted
  obtain ⟨admissible, replies⟩ := reply_eq_of_handleAll
    (parse_readBits which (decode_reading which.function address count)) (same _)
  have contains : (first.bits which).Contains address count.toNat ↔
      (second.bits which).Contains address count.toNat := by
    simpa only [Command.Admissible, valid, true_and] using admissible
  refine ⟨contains, fun inside => ?_⟩
  have packed := (List.cons.inj (replies ⟨valid, inside⟩)).2
  apply eq_of_packBits_eq _ packed
  rw [Block.Sequential.length_read inside, Block.Sequential.length_read (contains.mp inside)]

theorem contains_registers_of_handleAll {which : RegisterBlock} {address count : UInt16}
    (counted : 1 ≤ count.toNat ∧ count.toNat ≤ 125)
    (same : ∀ packets, ((handleAll packets).run first).map Prod.fst =
      ((handleAll packets).run second).map Prod.fst) :
    ((first.registers which).Contains address count.toNat ↔
        (second.registers which).Contains address count.toNat) ∧
      ((first.registers which).Contains address count.toNat →
        (first.registers which).read address count.toNat =
          (second.registers which).read address count.toNat) := by
  have valid := (NumRegs.validate_read_iff count).mpr counted
  obtain ⟨admissible, replies⟩ := reply_eq_of_handleAll
    (parse_readRegisters which (decode_reading which.function address count)) (same _)
  have contains : (first.registers which).Contains address count.toNat ↔
      (second.registers which).Contains address count.toNat := by
    simpa only [Command.Admissible, valid, true_and] using admissible
  refine ⟨contains, fun inside => ?_⟩
  exact wordBytes_injective (List.cons.inj (replies ⟨valid, inside⟩)).2

/-- The replies over a run of packets are those that the memory gives. -/
theorem replies_memory (packets : List ByteBuffer) (table : Table) :
    ((handleAll packets).run table).map Prod.fst =
      (Memory.handleAll packets table.memory).map fun outcome => .ok outcome.1 := by
  have refined := congrArg (Option.map Prod.fst) (Memory.handleAll_memory packets table)
  rw [Option.map_map, Option.map_map] at refined
  exact refined

/-- Two tables give the same replies over every run of packets if and only if
their maps agree wherever a request can read. -/
theorem indistinguishable_iff (first second : Table) :
    (∀ packets, ((handleAll packets).run first).map Prod.fst =
      ((handleAll packets).run second).map Prod.fst) ↔ first.memory.Agrees second.memory := by
  constructor
  · intro same
    rintro (⟨block, place⟩ | ⟨block, place⟩) below
    · apply Block.Sequential.cell_eq_of_read (by decide : 1 ≤ 2000) (Nat.le_refl 2000) below
      intro address count counted
      exact contains_bits_of_handleAll counted same
    · apply Block.Sequential.cell_eq_of_read (by decide : 1 ≤ 125) (by decide) below
      intro address count counted
      exact contains_registers_of_handleAll counted same
  · intro agrees packets
    have alike := Memory.handleAll_agrees agrees packets
    rw [replies_memory, replies_memory]
    generalize Memory.handleAll packets first.memory = outcome at alike
    generalize Memory.handleAll packets second.memory = other at alike
    cases alike with
    | none => rfl
    | some both => exact congrArg (some ∘ Except.ok) both.1

end Telling

end ModbusCpp
