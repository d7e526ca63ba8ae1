import ModbusCpp.ServerReads

/-!
# Reading what was written

A value that a served request has written stays in its cell as long as no other
served request writes there, and every read of the cell until then reports it.
The requests in between may be of any kind and of any bytes.
-/

namespace ModbusCpp

open Method RequestHandler StructFormat

/-- The value that a write request has for a holding register. -/
def writtenRegister (packet : ByteBuffer) (function : FunctionCode) (place : Nat) :
    Option UInt16 :=
  match function with
  | .writeSingleRegister => do
      let (address, value, ()) ← decode packet.read 8 [.H, .H]
      if address.toNat = place then some value else none
  | .writeMultipleRegisters => do
      let (address, count, ()) ← decode packet.read 8 [.H, .H]
      if address.toNat ≤ place ∧ place < address.toNat + count.toNat then
        Code.decode packet.read (13 + 2 * (place - address.toNat)) .H
      else none
  | .readWriteMultipleRegisters => do
      let (address, count, ()) ← decode packet.read 12 [.H, .H]
      if address.toNat ≤ place ∧ place < address.toNat + count.toNat then
        Code.decode packet.read (17 + 2 * (place - address.toNat)) .H
      else none
  | _ => none

/-- The value that a write request has for a coil.  A coil of a request for
several of them has no byte where the packet ends early, and is off then. -/
def writtenCoil (packet : ByteBuffer) (function : FunctionCode) (place : Nat) : Option Bool :=
  match function with
  | .writeSingleCoil => do
      let (address, word, ()) ← decode packet.read 8 [.H, .H]
      if address.toNat = place then some (word == 0xFF00) else none
  | .writeMultipleCoils => do
      let (address, count, ()) ← decode packet.read 8 [.H, .H]
      if address.toNat ≤ place ∧ place < address.toNat + count.toNat then
        let byte := packet.bytes[13 + (place - address.toNat) / 8]?
        some ((byte.map fun byte =>
          byte.toBitVec.getLsbD ((place - address.toNat) % 8)).getD false)
      else none
  | _ => none

/-- The run that a request reads. -/
def readRange (packet : ByteBuffer) (function : FunctionCode) : Option (UInt16 × UInt16) :=
  match function with
  | .readCoils | .readDiscreteInputs | .readHoldingRegisters | .readInputRegisters
  | .readWriteMultipleRegisters => do
      let (address, count, ()) ← decode packet.read 8 [.H, .H]
      some (address, count)
  | _ => none

/-- A run of packets, none of which is a served request for one of the writes
with the place in its range. -/
inductive Undisturbed [Struc] (writes : List FunctionCode) (place : Nat) :
    Table → Table → Prop
  | done {table : Table} : Undisturbed writes place table table
  | handle {table stored last : Table} {packet : ByteBuffer} {reply : Packet}
      (ran : (handle packet).run table = some (.ok reply, stored))
      (elsewhere : ¬ Written writes packet reply place)
      (rest : Undisturbed writes place stored last) : Undisturbed writes place table last

def registerWrites : List FunctionCode :=
  [.writeSingleRegister, .writeMultipleRegisters, .maskWriteRegister,
    .readWriteMultipleRegisters]

def coilWrites : List FunctionCode :=
  [.writeSingleCoil, .writeMultipleCoils]

section Keeping

variable [Struc] {place : Nat} {table last : Table}

/-- The run lemma for a holding register. -/
theorem Undisturbed.holdingRegister (run : Undisturbed registerWrites place table last) :
    last.holdingRegisters.cell place = table.holdingRegisters.cell place := by
  induction run with
  | done => rfl
  | handle ran elsewhere rest ih =>
      obtain ⟨answer, same, effect⟩ := handle_effect ran
      obtain rfl := Except.ok.inj same
      rw [ih]
      by_contra changed
      exact elsewhere (effect.holdingRegisters place changed)

/-- The run lemma for a coil. -/
theorem Undisturbed.coil (run : Undisturbed coilWrites place table last) :
    last.coils.cell place = table.coils.cell place := by
  induction run with
  | done => rfl
  | handle ran elsewhere rest ih =>
      obtain ⟨answer, same, effect⟩ := handle_effect ran
      obtain rfl := Except.ok.inj same
      rw [ih]
      by_contra changed
      exact elsewhere (effect.coils place changed)

end Keeping

section Writing

variable [Struc] {packet : ByteBuffer} {function : FunctionCode} {table stored : Table}
  {reply : Packet} {place : Nat}

omit [Struc] in
/-- The registers that a run of words is stored to hold these words. -/
theorem cell_write_decodeWords {block : Block.Registers} {address count : UInt16}
    {values words : List UInt16} {offset : Nat} {value : UInt16}
    (limited : NumRegs.validate true count = true)
    (inside : block.Contains address count.toNat)
    (decoded : decodeWords packet.read offset (count.toNat % 128) = some words)
    (resized : values = resize words count.toNat 0)
    (covered : address.toNat ≤ place ∧ place < address.toNat + count.toNat)
    (carried : Code.decode packet.read (offset + 2 * (place - address.toNat)) .H = some value) :
    (block.write address values).cell place = some value := by
  have bound := (NumRegs.validate_write_iff count).mp limited
  have small : count.toNat % 128 = count.toNat := Nat.mod_eq_of_lt (by omega)
  rw [small] at decoded
  have lengthEq := length_of_decodeWords decoded
  rw [resize_of_length 0 lengthEq] at resized
  subst resized
  rw [Block.Sequential.cell_write_inside inside lengthEq covered,
    getElem?_decodeWords decoded (by omega), carried]

theorem Served.stores_register (served : Served packet function table reply stored)
    {value : UInt16} (carried : writtenRegister packet function place = some value) :
    stored.holdingRegisters.cell place = some value := by
  obtain ⟨header, command, received, parsed, admissible, -, rfl⟩ := served.exists_command
  unfold writtenRegister at carried
  split at carried
  · obtain ⟨⟨address, word, ⟨⟩⟩, decoded, taken⟩ := Option.bind_eq_some_iff.mp carried
    rw [parse_writeSingleRegister decoded] at parsed
    obtain rfl := Except.ok.inj (Option.some.inj parsed)
    by_cases here : address.toNat = place
    · simp only [here, if_true, Option.some.injEq] at taken
      subst taken here
      exact Block.Sequential.cell_write_single word admissible
    · simp [here] at taken
  · obtain ⟨address, count, byteCount, words, decoded, -, values, rfl⟩ :=
      exists_of_parse_writeMultipleRegisters parsed
    rw [(decode_words_cons decoded).1] at carried
    by_cases covered : address.toNat ≤ place ∧ place < address.toNat + count.toNat
    · simp only [Option.bind_eq_bind, Option.bind_some, covered, and_self, if_true] at carried
      exact cell_write_decodeWords admissible.1 admissible.2 values rfl covered carried
    · simp [covered] at carried
  · obtain ⟨readAddress, readCount, address, count, byteCount, words, decoded, -, values, rfl⟩ :=
      exists_of_parse_readWriteMultipleRegisters parsed
    rw [(decode_words_cons (decode_words_cons decoded).2).1] at carried
    by_cases covered : address.toNat ≤ place ∧ place < address.toNat + count.toNat
    · simp only [Option.bind_eq_bind, Option.bind_some, covered, and_self, if_true] at carried
      exact cell_write_decodeWords admissible.2.1 admissible.2.2 values rfl covered carried
    · simp [covered] at carried
  · cases carried

theorem Served.stores_coil (served : Served packet function table reply stored)
    {value : Bool} (carried : writtenCoil packet function place = some value) :
    stored.coils.cell place = some value := by
  obtain ⟨header, command, received, parsed, admissible, -, rfl⟩ := served.exists_command
  unfold writtenCoil at carried
  split at carried
  · obtain ⟨address, word, decoded, checked, rfl⟩ := exists_of_parse_writeSingleCoil parsed
    rw [decoded] at carried
    by_cases here : address.toNat = place
    · simp only [Option.bind_eq_bind, Option.bind_some, here, if_true, Option.some.injEq]
        at carried
      subst here
      have taken : ((⟨word⟩ : Bits) == Bits.on) = value := by
        rw [← carried, Bool.eq_iff_iff]
        simp
      rw [← taken]
      exact Block.Sequential.cell_write_single _ admissible
    · simp [here] at carried
  · obtain ⟨address, count, byteCount, decoded, rfl⟩ := exists_of_parse_writeMultipleCoils parsed
    rw [(decode_words_cons decoded).1] at carried
    by_cases covered : address.toNat ≤ place ∧ place < address.toNat + count.toNat
    · simp only [Option.bind_eq_bind, Option.bind_some, covered, and_self, if_true,
        Option.some.injEq] at carried
      have indexLt : place - address.toNat < count.toNat := by omega
      rw [← carried]
      refine (Block.Sequential.cell_write_inside admissible.2 (length_resize _ _ _)
        covered).trans ?_
      rw [getElem?_resize _ false indexLt, unpackBits_eq, BitString.getElem?_bits,
        List.getElem?_drop]
    · simp [covered] at carried
  · cases carried

end Writing

section Reading

variable [Struc] {packet : ByteBuffer} {function : FunctionCode} {table stored : Table}
  {reply : Packet} {place : Nat}

/-- A request that reads holding registers shows them as it leaves them. -/
theorem Served.shows_registers (served : Served packet function table reply stored)
    (reads : function ∈ [.readHoldingRegisters, .readWriteMultipleRegisters]) :
    ∃ address count, readRange packet function = some (address, count) ∧
      ShowsRegisters stored.holdingRegisters address count (reply.drop 9) := by
  obtain ⟨header, command, received, parsed, admissible, rfl, rfl⟩ := served.exists_command
  simp only [List.mem_cons, List.not_mem_nil, or_false] at reads
  rcases reads with rfl | rfl
  · obtain ⟨address, count, decoded, rfl⟩ :=
      @exists_of_parse_readRegisters packet command .holdingRegisters parsed
    refine ⟨address, count, by simp [readRange, decoded], ?_⟩
    exact showsRegisters_wordBytes admissible.2
  · obtain ⟨readAddress, readCount, address, count, byteCount, words, decoded, -, values, rfl⟩ :=
      exists_of_parse_readWriteMultipleRegisters parsed
    refine ⟨readAddress, readCount, by simp [readRange, (decode_words_cons decoded).1], ?_⟩
    exact showsRegisters_wordBytes admissible.1.2

theorem Served.shows_coils (served : Served packet .readCoils table reply stored) :
    ∃ address count, readRange packet .readCoils = some (address, count) ∧
      ShowsBits table.coils address count (reply.drop 9) := by
  obtain ⟨header, command, received, parsed, admissible, rfl, -⟩ := served.exists_command
  obtain ⟨address, count, decoded, rfl⟩ :=
    @exists_of_parse_readBits packet command .coils parsed
  refine ⟨address, count, by simp [readRange, decoded], ?_⟩
  exact showsBits_packBits admissible.2

/-- Outside the range that it writes, a served request keeps the registers. -/
theorem Served.keeps_register (served : Served packet function table reply stored)
    (elsewhere : ∀ address count, writeRange packet function = some (address, count) →
      ¬ (address ≤ place ∧ place < address + count)) :
    stored.holdingRegisters.cell place = table.holdingRegisters.cell place := by
  obtain ⟨header, command, received, parsed, admissible, -, rfl⟩ := served.exists_command
  by_contra changed
  obtain ⟨-, address, count, target, covered⟩ := Command.changed_register admissible changed
  exact elsewhere address count ((parse_command parsed).2.trans target) covered

end Reading

/-- The reply has the value at the position of a register. -/
def ReportsRegister (reply : Packet) (address : UInt16) (place : Nat) (value : UInt16) :
    Prop :=
  reply[9 + 2 * (place - address.toNat)]? = some (UInt8.ofNat (value.toNat / 256)) ∧
    reply[9 + (2 * (place - address.toNat) + 1)]? = some (UInt8.ofNat value.toNat)

/-- The reply has the value at the position of a coil. -/
def ReportsCoil (reply : Packet) (address : UInt16) (place : Nat) (value : Bool) : Prop :=
  reply[9 + (place - address.toNat) / 8]?.map
    (fun byte => byte.toBitVec.getLsbD ((place - address.toNat) % 8)) = some value

/-- A served write, a run that leaves its place alone, and a served read. -/
structure WriteAndRead [Struc] (writes : List FunctionCode) (place : Nat) where
  initial : Table
  written : Table
  later : Table
  final : Table
  writer : ByteBuffer
  reader : ByteBuffer
  writeFunction : FunctionCode
  readFunction : FunctionCode
  acknowledgement : Packet
  answer : Packet
  write : Served writer writeFunction initial acknowledgement written
  run : Undisturbed writes place written later
  read : Served reader readFunction later answer final

/-- Reads report what was written before. -/
theorem readYourWrites [Struc] (place : Nat) :
    (∀ (episode : WriteAndRead registerWrites place) (value address count : UInt16),
      writtenRegister episode.writer episode.writeFunction place = some value →
      episode.readFunction ∈ [.readHoldingRegisters, .readWriteMultipleRegisters] →
      (∀ first length,
        writeRange episode.reader episode.readFunction = some (first, length) →
          ¬ (first ≤ place ∧ place < first + length)) →
      readRange episode.reader episode.readFunction = some (address, count) →
      address.toNat ≤ place → place < address.toNat + count.toNat →
      ReportsRegister episode.answer address place value) ∧
    (∀ (episode : WriteAndRead coilWrites place) (value : Bool) (address count : UInt16),
      writtenCoil episode.writer episode.writeFunction place = some value →
      episode.readFunction = .readCoils →
      readRange episode.reader episode.readFunction = some (address, count) →
      address.toNat ≤ place → place < address.toNat + count.toNat →
      ReportsCoil episode.answer address place value) := by
  constructor
  · intro episode value address count carried reads elsewhere range above below
    obtain ⟨readAddress, readCount, ranged, shown⟩ := episode.read.shows_registers reads
    rw [range] at ranged
    obtain ⟨rfl, rfl⟩ := Prod.mk.inj (Option.some.inj ranged)
    obtain ⟨held, cell, upper, lower⟩ := shown.held (place - address.toNat) (by omega)
    rw [show address.toNat + (place - address.toNat) = place by omega,
      episode.read.keeps_register elsewhere, episode.run.holdingRegister,
      episode.write.stores_register carried] at cell
    obtain rfl := Option.some.inj cell
    rw [List.getElem?_drop] at upper lower
    exact ⟨upper, lower⟩
  · intro episode value address count carried reads range above below
    obtain ⟨initial, written, later, final, writer, reader, writeFunction, readFunction,
      acknowledgement, answer, write, run, read⟩ := episode
    subst reads
    obtain ⟨readAddress, readCount, ranged, shown⟩ := read.shows_coils
    rw [range] at ranged
    obtain ⟨rfl, rfl⟩ := Prod.mk.inj (Option.some.inj ranged)
    have held := shown.held (place - address.toNat) (by omega)
    rw [show address.toNat + (place - address.toNat) = place by omega, run.coil,
      write.stores_coil carried, List.getElem?_drop] at held
    exact held

/-- A register is written, a malformed packet arrives, and the register is read. -/
theorem readYourWrites_registers :
    ReportsRegister [0, 3, 0, 0, 0, 5, 1, 0x03, 2, 0x12, 0x34] 0 0 0x1234 :=
  (@readYourWrites Struc.documented 0).1
    (@WriteAndRead.mk Struc.documented _ _ (Table.cleared 2) _ _ _
      (ByteBuffer.guarded [0, 1, 0, 0, 0, 6, 1, 0x06, 0, 0, 0x12, 0x34])
      (ByteBuffer.guarded [0, 3, 0, 0, 0, 6, 1, 0x03, 0, 0, 0, 1])
      .writeSingleRegister .readHoldingRegisters
      [0, 1, 0, 0, 0, 6, 1, 0x06, 0, 0, 0x12, 0x34]
      [0, 3, 0, 0, 0, 5, 1, 0x03, 2, 0x12, 0x34]
      (@Served.mk Struc.documented _ _ _ _ _ rfl rfl
        (@Frame.normal ⟨1, 1, 0x06, [0, 0, 0x12, 0x34]⟩ (by decide)))
      (@Undisturbed.handle Struc.documented _ _ _ _ _ (ByteBuffer.guarded [0, 2, 0]) []
        rfl (fun touched => touched.normal.1 rfl) (@Undisturbed.done Struc.documented _ _ _))
      (@Served.mk Struc.documented _ _ _ _ _ rfl rfl
        (@Frame.normal ⟨3, 1, 0x03, [2, 0x12, 0x34]⟩ (by decide))))
    0x1234 0 1 rfl (by decide) (fun _ _ range => by cases range) rfl (by decide) (by decide)

end ModbusCpp
