import ModbusCpp.ReplyFrames
import ModbusCpp.RequestPackets

/-!
# Effects on the table

What `handle` may do to the table over any run of requests.  Only the coils and
the holding registers change, only inside the range that a write request names,
and only when the reply is a normal one; nothing changes the shape of a block.
-/

namespace ModbusCpp

open Method RequestHandler StructFormat

/-- The first address and the length of the run that a write request names. -/
def writeRange (packet : ByteBuffer) (function : FunctionCode) : Option (Nat × Nat) :=
  match function with
  | .writeSingleCoil | .writeSingleRegister | .maskWriteRegister => do
      let (address, ()) ← decode packet.read 8 [.H]
      some (address.toNat, 1)
  | .writeMultipleCoils | .writeMultipleRegisters => do
      let (address, count, ()) ← decode packet.read 8 [.H, .H]
      some (address.toNat, count.toNat)
  | .readWriteMultipleRegisters => do
      let (writeAddress, writeCount, ()) ← decode packet.read 12 [.H, .H]
      some (writeAddress.toNat, writeCount.toNat)
  | _ => none

/-- An exception reply has the high bit of its function set. -/
def ExceptionReply (reply : Packet) : Prop :=
  ∃ byte, reply[7]? = some byte ∧ 0x80 ≤ byte

/-- A cell of a block that the functions write may have changed: the request
was one of them, was answered normally and names the place of the cell. -/
structure Written (functions : List FunctionCode) (packet : ByteBuffer) (reply : Packet)
    (place : Nat) : Prop where
  normal : reply ≠ [] ∧ ¬ ExceptionReply reply
  inRange : ∃ function ∈ functions, packet.bytes[7]? = some function.toUnderlying ∧
    ∃ address count, writeRange packet function = some (address, count) ∧
      address ≤ place ∧ place < address + count

/-- What no request changes: the inputs, and the shape of the other blocks. -/
structure Preserves (initial table : Table) : Prop where
  discreteInputs : table.discreteInputs = initial.discreteInputs
  inputRegisters : table.inputRegisters = initial.inputRegisters
  coils : table.coils.startingAddress = initial.coils.startingAddress ∧
    table.coils.capacity = initial.coils.capacity
  holdingRegisters :
    table.holdingRegisters.startingAddress = initial.holdingRegisters.startingAddress ∧
      table.holdingRegisters.capacity = initial.holdingRegisters.capacity

theorem Preserves.refl (table : Table) : Preserves table table :=
  ⟨rfl, rfl, ⟨rfl, rfl⟩, ⟨rfl, rfl⟩⟩

theorem Preserves.trans {first second third : Table} (before : Preserves first second)
    (after : Preserves second third) : Preserves first third where
  discreteInputs := after.discreteInputs.trans before.discreteInputs
  inputRegisters := after.inputRegisters.trans before.inputRegisters
  coils := ⟨after.coils.1.trans before.coils.1, after.coils.2.trans before.coils.2⟩
  holdingRegisters :=
    ⟨after.holdingRegisters.1.trans before.holdingRegisters.1,
      after.holdingRegisters.2.trans before.holdingRegisters.2⟩

namespace Command

/-- The function of the requests for a command. -/
def function : Command → FunctionCode
  | readBits .coils _ _ => .readCoils
  | readBits .discreteInputs _ _ => .readDiscreteInputs
  | readRegisters .holdingRegisters _ _ => .readHoldingRegisters
  | readRegisters .inputRegisters _ _ => .readInputRegisters
  | writeSingleCoil _ _ => .writeSingleCoil
  | writeSingleRegister _ _ => .writeSingleRegister
  | writeMultipleCoils _ _ _ => .writeMultipleCoils
  | writeMultipleRegisters _ _ _ => .writeMultipleRegisters
  | maskWriteRegister _ _ _ => .maskWriteRegister
  | readWriteMultipleRegisters _ _ _ _ _ => .readWriteMultipleRegisters

/-- The run that a command writes. -/
def target : Command → Option (Nat × Nat)
  | readBits _ _ _ | readRegisters _ _ _ => none
  | writeSingleCoil address _ | writeSingleRegister address _
  | maskWriteRegister address _ _ => some (address.toNat, 1)
  | writeMultipleCoils address count _ | writeMultipleRegisters address count _ =>
      some (address.toNat, count.toNat)
  | readWriteMultipleRegisters _ _ writeAddress writeCount _ =>
      some (writeAddress.toNat, writeCount.toNat)

theorem effect_preserves (command : Command) (table : Table) :
    Preserves table (command.effect table) := by
  cases command <;> exact ⟨rfl, rfl, ⟨rfl, rfl⟩, ⟨rfl, rfl⟩⟩

/-- A coil that a command changes lies in the run of a coil write. -/
theorem changed_coil {command : Command} {table : Table} {place : Nat}
    (admissible : command.Admissible table)
    (changed : (command.effect table).coils.cell place ≠ table.coils.cell place) :
    command.function ∈ [.writeSingleCoil, .writeMultipleCoils] ∧
      ∃ address count, command.target = some (address, count) ∧
        address ≤ place ∧ place < address + count := by
  cases command with
  | writeSingleCoil address value =>
      have inside : table.coils.Contains address 1 := admissible
      exact ⟨by simp [function], _, _, rfl, Block.Sequential.inside_of_changed inside rfl changed⟩
  | writeMultipleCoils address count values =>
      exact ⟨by simp [function], _, _, rfl,
        Block.Sequential.inside_of_changed admissible.2 values.property changed⟩
  | _ => exact absurd rfl changed

/-- A holding register that a command changes lies in the run of a register
write. -/
theorem changed_register {command : Command} {table : Table} {place : Nat}
    (admissible : command.Admissible table)
    (changed : (command.effect table).holdingRegisters.cell place ≠
      table.holdingRegisters.cell place) :
    command.function ∈ [.writeSingleRegister, .writeMultipleRegisters, .maskWriteRegister,
        .readWriteMultipleRegisters] ∧
      ∃ address count, command.target = some (address, count) ∧
        address ≤ place ∧ place < address + count := by
  cases command with
  | writeSingleRegister address value =>
      have inside : table.holdingRegisters.Contains address 1 := admissible
      exact ⟨by simp [function], _, _, rfl, Block.Sequential.inside_of_changed inside rfl changed⟩
  | maskWriteRegister address andMask orMask =>
      have inside : table.holdingRegisters.Contains address 1 := admissible
      have lengthEq := Block.Sequential.length_read inside
      exact ⟨by simp [function], _, _, rfl,
        Block.Sequential.inside_of_changed inside (by simp [lengthEq]) changed⟩
  | writeMultipleRegisters address count values =>
      exact ⟨by simp [function], _, _, rfl,
        Block.Sequential.inside_of_changed admissible.2 values.property changed⟩
  | readWriteMultipleRegisters readAddress readCount writeAddress writeCount values =>
      exact ⟨by simp [function], _, _, rfl,
        Block.Sequential.inside_of_changed admissible.2.2 values.property changed⟩
  | _ => exact absurd rfl changed

end Command

/-- A parsed command belongs to the function of the packet and writes the run
that the packet names. -/
theorem parse_command {packet : ByteBuffer} {function : FunctionCode} {command : Command}
    (parsed : parse packet function = some (.ok command)) :
    command.function = function ∧ writeRange packet function = command.target := by
  induction function using FunctionCode.cases_supported with
  | readCoils =>
      obtain ⟨address, count, -, rfl⟩ := @exists_of_parse_readBits packet command .coils parsed
      exact ⟨rfl, rfl⟩
  | readDiscreteInputs =>
      obtain ⟨address, count, -, rfl⟩ :=
        @exists_of_parse_readBits packet command .discreteInputs parsed
      exact ⟨rfl, rfl⟩
  | readHoldingRegisters =>
      obtain ⟨address, count, -, rfl⟩ :=
        @exists_of_parse_readRegisters packet command .holdingRegisters parsed
      exact ⟨rfl, rfl⟩
  | readInputRegisters =>
      obtain ⟨address, count, -, rfl⟩ :=
        @exists_of_parse_readRegisters packet command .inputRegisters parsed
      exact ⟨rfl, rfl⟩
  | writeSingleCoil =>
      obtain ⟨address, word, decoded, -, rfl⟩ := exists_of_parse_writeSingleCoil parsed
      obtain ⟨first, -⟩ := decode_cons_eq_some_iff.mp decoded
      exact ⟨rfl, by simp [writeRange, decode, first, Command.target]⟩
  | writeSingleRegister =>
      obtain ⟨address, value, decoded, rfl⟩ := exists_of_parse_writeSingleRegister parsed
      obtain ⟨first, -⟩ := decode_cons_eq_some_iff.mp decoded
      exact ⟨rfl, by simp [writeRange, decode, first, Command.target]⟩
  | maskWriteRegister =>
      obtain ⟨address, andMask, orMask, decoded, rfl⟩ := exists_of_parse_maskWriteRegister parsed
      obtain ⟨first, -⟩ := decode_cons_eq_some_iff.mp decoded
      exact ⟨rfl, by simp [writeRange, decode, first, Command.target]⟩
  | writeMultipleCoils =>
      obtain ⟨address, count, byteCount, decoded, rfl⟩ := exists_of_parse_writeMultipleCoils parsed
      obtain ⟨range, -⟩ := decode_words_cons decoded
      exact ⟨rfl, by simp [writeRange, range, Command.target]⟩
  | writeMultipleRegisters =>
      obtain ⟨address, count, byteCount, words, decoded, -, -, rfl⟩ :=
        exists_of_parse_writeMultipleRegisters parsed
      obtain ⟨range, -⟩ := decode_words_cons decoded
      exact ⟨rfl, by simp [writeRange, range, Command.target]⟩
  | readWriteMultipleRegisters =>
      obtain ⟨readAddress, readCount, writeAddress, writeCount, byteCount, words, decoded, -, -,
        rfl⟩ := exists_of_parse_readWriteMultipleRegisters parsed
      obtain ⟨-, rest⟩ := decode_words_cons decoded
      obtain ⟨range, -⟩ := decode_words_cons rest
      exact ⟨rfl, by simp [writeRange, range, Command.target]⟩
  | unsupported function unsupported =>
      simp [parse_unsupported packet unsupported] at parsed

/-- What one call of `handle` may do to a table. -/
structure HandleEffect (packet : ByteBuffer) (reply : Packet) (table stored : Table) :
    Prop where
  preserves : Preserves table stored
  coils : ∀ place, stored.coils.cell place ≠ table.coils.cell place →
    Written [.writeSingleCoil, .writeMultipleCoils] packet reply place
  holdingRegisters : ∀ place,
    stored.holdingRegisters.cell place ≠ table.holdingRegisters.cell place →
      Written [.writeSingleRegister, .writeMultipleRegisters, .maskWriteRegister,
        .readWriteMultipleRegisters] packet reply place
  refused : ExceptionReply reply → stored = table

theorem HandleEffect.unchanged (packet : ByteBuffer) (reply : Packet) (table : Table) :
    HandleEffect packet reply table table where
  preserves := .refl table
  coils _ changed := absurd rfl changed
  holdingRegisters _ changed := absurd rfl changed
  refused _ := rfl

/-- The frame of a normal reply is not an exception. -/
theorem Frame.normal {frame : Frame} (small : frame.function < 0x80) :
    frame.bytes ≠ [] ∧ ¬ ExceptionReply frame.bytes := by
  refine ⟨frame.bytes_ne_nil, ?_⟩
  rintro ⟨byte, found, large⟩
  rw [getElem?_bytes_function] at found
  rw [← Option.some.inj found] at large
  exact UInt8.not_le.mpr small large

theorem respond_effect {packet : ByteBuffer} {header : Header} {function : FunctionCode}
    {parsed : Except ExceptionCode Command} (received : Received packet header function)
    (parsing : parse packet function = some parsed) (table : Table) :
    HandleEffect packet (respond header function parsed table).1.bytes table
      (respond header function parsed table).2 := by
  cases parsed with
  | error code => exact .unchanged packet _ table
  | ok command =>
      by_cases admissible : command.Admissible table
      · obtain ⟨rfl, ranges⟩ := parse_command parsing
        have small := FunctionCode.supported_lt_max _ (supported_of_parse parsing)
        have normal : Frame.bytes ⟨header.transaction, header.unit,
            command.function.toUnderlying, command.reply table⟩ ≠ [] ∧
            ¬ ExceptionReply (Frame.bytes ⟨header.transaction, header.unit,
              command.function.toUnderlying, command.reply table⟩) :=
          Frame.normal (UInt8.lt_trans small (by decide))
        simp only [respond, admissible, if_true]
        refine ⟨command.effect_preserves table, fun place changed => ?_,
          fun place changed => ?_, fun exception => absurd exception normal.2⟩
        · obtain ⟨write, address, count, target, inside⟩ :=
            Command.changed_coil admissible changed
          exact ⟨normal, command.function, write, received.functionByte, address, count,
            ranges.trans target, inside⟩
        · obtain ⟨write, address, count, target, inside⟩ :=
            Command.changed_register admissible changed
          exact ⟨normal, command.function, write, received.functionByte, address, count,
            ranges.trans target, inside⟩
      · simp only [respond, admissible, if_false]
        exact .unchanged packet _ table

/-- The step lemma: one call that comes to a result. -/
theorem handle_effect [Struc] {packet : ByteBuffer} {table stored : Table}
    {result : Except Exn Packet} (ran : (handle packet).run table = some (result, stored)) :
    ∃ reply, result = .ok reply ∧ HandleEffect packet reply table stored := by
  by_cases short : packet.size ≤ Adu.headerLength
  · rw [handle_run_short short] at ran
    obtain ⟨rfl, rfl⟩ := Prod.mk.inj (Option.some.inj ran)
    exact ⟨[], rfl, .unchanged packet [] table⟩
  · obtain ⟨header, function, received⟩ := exists_received (Nat.lt_of_not_le short)
    rw [handle_run received] at ran
    obtain ⟨parsed, parsing, answered⟩ := Option.map_eq_some_iff.mp ran
    obtain ⟨rfl, rfl⟩ := Prod.mk.inj answered
    exact ⟨_, rfl, respond_effect received parsing table⟩

/-- On any bytes with any memory behind them, a call comes to a result. -/
theorem handle_step [Struc] (bytes : Packet) (rest : Nat → UInt8) (table : Table) :
    ∃ reply stored,
      (handle (ByteBuffer.unguarded bytes rest)).run table = some (.ok reply, stored) ∧
        HandleEffect (ByteBuffer.unguarded bytes rest) reply table stored := by
  obtain ⟨reply, stored, ran⟩ := exists_handle_unguarded bytes rest table
  obtain ⟨answer, same, effect⟩ := handle_effect ran
  obtain rfl := Except.ok.inj same
  exact ⟨reply, stored, ran, effect⟩

/-- The tables that calls of `handle` lead to. -/
inductive Reachable [Struc] (initial : Table) : Table → Prop
  | initial : Reachable initial initial
  | handle {table stored : Table} {result : Except Exn Packet} (bytes : Packet)
      (rest : Nat → UInt8) (reached : Reachable initial table)
      (ran : (handle (ByteBuffer.unguarded bytes rest)).run table = some (result, stored)) :
      Reachable initial stored

/-- The run lemma: no sequence of calls changes the inputs or a shape. -/
theorem Reachable.preserves [Struc] {initial table : Table}
    (reached : Reachable initial table) : Preserves initial table := by
  induction reached with
  | initial => exact .refl initial
  | handle bytes rest reached ran ih =>
      rename_i table stored result
      obtain ⟨reply, left, replied, effect⟩ := handle_step bytes rest table
      rw [ran] at replied
      obtain ⟨-, rfl⟩ := Prod.mk.inj (Option.some.inj replied)
      exact ih.trans effect.preserves

/-- Over every run from a new table, a call changes cells of the coils and the
holding registers alone, inside the range of a write request that it answers
normally, and an exception leaves the table as it was. -/
theorem reachable_handle_effect [Struc] {initializer : Table.Initializer} {table : Table}
    (reached : Reachable (Table.new initializer) table) (bytes : Packet)
    (rest : Nat → UInt8) :
    ∃ reply stored,
      (handle (ByteBuffer.unguarded bytes rest)).run table = some (.ok reply, stored) ∧
        HandleEffect (ByteBuffer.unguarded bytes rest) reply table stored ∧
        Preserves (Table.new initializer) stored ∧
        stored.coils.container.length = stored.coils.capacity ∧
        stored.discreteInputs.container.length = stored.discreteInputs.capacity ∧
        stored.holdingRegisters.container.length = stored.holdingRegisters.capacity ∧
        stored.inputRegisters.container.length = stored.inputRegisters.capacity := by
  obtain ⟨reply, stored, ran, effect⟩ := handle_step bytes rest table
  exact ⟨reply, stored, ran, effect, (Reachable.handle bytes rest reached ran).preserves,
    stored.coils.container_length, stored.discreteInputs.container_length,
    stored.holdingRegisters.container_length, stored.inputRegisters.container_length⟩

/-- The first request sets coil 0, the second one clears it. -/
theorem reachable_handle_effect_coil :
    ∃ reply stored,
      (@handle Struc.documented (ByteBuffer.unguarded
          [0, 2, 0, 0, 0, 6, 1, 0x05, 0, 0, 0x00, 0x00] fun _ => 0)).run
          ((Table.cleared 1).setBits .coils ((Table.cleared 1).coils.write 0 [true])) =
        some (.ok reply, stored) ∧
        HandleEffect (ByteBuffer.unguarded
          [0, 2, 0, 0, 0, 6, 1, 0x05, 0, 0, 0x00, 0x00] fun _ => 0) reply
          ((Table.cleared 1).setBits .coils ((Table.cleared 1).coils.write 0 [true])) stored ∧
        Preserves (Table.new (.cleared 1)) stored ∧
        stored.coils.container.length = stored.coils.capacity ∧
        stored.discreteInputs.container.length = stored.discreteInputs.capacity ∧
        stored.holdingRegisters.container.length = stored.holdingRegisters.capacity ∧
        stored.inputRegisters.container.length = stored.inputRegisters.capacity :=
  @reachable_handle_effect Struc.documented _ _
    (@Reachable.handle Struc.documented _ (Table.cleared 1) _ _
      [0, 1, 0, 0, 0, 6, 1, 0x05, 0, 0, 0xFF, 0x00] (fun _ => 0)
      (@Reachable.initial Struc.documented _) rfl) _ _

end ModbusCpp
