import ModbusCpp.DecodingBounds

/-!
# Classes of exceptions

Which exception answers a request that cannot be served.  A quantity out of its
limits is an illegal data value and a run outside its block an illegal data
address; the handler finds both with one check of the block and answers with
the address in either case, and a coil that is neither on nor off fails the
decoding.
-/

namespace ModbusCpp

open Method RequestHandler StructFormat

/-- The `decode` of the class for the function returns, called on a default
object. -/
def AcceptsRequest [Struc] (packet : ByteBuffer) (function : FunctionCode) : Prop :=
  match function with
  | .readCoils => ∃ request, (Request.BaseReadBits.decode packet).run
      (.new 0 1 : Request.ReadCoils) = some (.ok (), request)
  | .readDiscreteInputs => ∃ request, (Request.BaseReadBits.decode packet).run
      (.new 0 1 : Request.ReadDiscreteInputs) = some (.ok (), request)
  | .readHoldingRegisters => ∃ request, (Request.BaseReadRegisters.decode packet).run
      (.new 0 1 : Request.ReadHoldingRegisters) = some (.ok (), request)
  | .readInputRegisters => ∃ request, (Request.BaseReadRegisters.decode packet).run
      (.new 0 1 : Request.ReadInputRegisters) = some (.ok (), request)
  | .writeSingleCoil => ∃ request, (Request.WriteSingleCoil.decode packet).run
      (.new 0 Bits.on) = some (.ok (), request)
  | .writeSingleRegister => ∃ request, (Request.WriteSingleRegister.decode packet).run
      (.new 0 0) = some (.ok (), request)
  | .writeMultipleCoils => ∃ request, (Request.WriteMultipleCoils.decode packet).run
      (.new 0 1 []) = some (.ok (), request)
  | .writeMultipleRegisters => ∃ request, (Request.WriteMultipleRegisters.decode packet).run
      (.new 0 1 []) = some (.ok (), request)
  | .maskWriteRegister => ∃ request, (Request.MaskWriteRegister.decode packet).run
      (.new 0 0 0) = some (.ok (), request)
  | .readWriteMultipleRegisters =>
      ∃ request, (Request.ReadWriteMultipleRegisters.decode packet).run
        (.new 0 1 0 1 []) = some (.ok (), request)
  | _ => False

/-- What is decoded is a command. -/
theorem acceptsRequest_iff [Struc] {packet : ByteBuffer} {header : Header}
    {function : FunctionCode} (received : Received packet header function) :
    AcceptsRequest packet function ↔
      ∃ command, parse packet function = some (.ok command) := by
  induction function using FunctionCode.cases_supported with
  | readCoils | readDiscreteInputs =>
      simp only [AcceptsRequest, parse,
        Request.BaseReadBits.run_decode received (by decide)]
      cases decode packet.read 8 [.H, .H] <;> simp
  | readHoldingRegisters | readInputRegisters =>
      simp only [AcceptsRequest, parse,
        Request.BaseReadRegisters.run_decode received (by decide)]
      cases decode packet.read 8 [.H, .H] <;> simp
  | writeSingleCoil =>
      simp only [AcceptsRequest, parse, Request.WriteSingleCoil.run_decode received (.new _ _) rfl]
      cases decode packet.read 8 [.H, .H] with
      | none => simp
      | some record =>
          rcases record with ⟨address, word, ⟨⟩⟩
          cases checked : checkBitsValue word <;> simp [checked]
  | writeSingleRegister =>
      simp only [AcceptsRequest, parse,
        Request.WriteSingleRegister.run_decode received (.new _ _) rfl]
      cases decode packet.read 8 [.H, .H] <;> simp
  | writeMultipleCoils =>
      simp only [AcceptsRequest, parse,
        Request.WriteMultipleCoils.run_decode received (.new _ _ _) rfl]
      cases decode packet.read 8 [.H, .H, .B] <;> simp
  | writeMultipleRegisters =>
      simp only [AcceptsRequest, parse,
        Request.WriteMultipleRegisters.run_decode received (.new _ _ _) rfl]
      cases decode packet.read 8 [.H, .H, .B] with
      | none => simp
      | some record =>
          rcases record with ⟨address, count, byteCount, ⟨⟩⟩
          by_cases sized : byteCount.toNat = 2 * (count.toNat % 128)
          · cases words : decodeWords packet.read 13 (count.toNat % 128) <;>
              simp [sized, words]
          · simp [sized]
  | maskWriteRegister =>
      simp only [AcceptsRequest, parse,
        Request.MaskWriteRegister.run_decode received (.new _ _ _) rfl]
      cases decode packet.read 8 [.H, .H, .H] <;> simp
  | readWriteMultipleRegisters =>
      simp only [AcceptsRequest, parse,
        Request.ReadWriteMultipleRegisters.run_decode received (.new _ _ _ _ _) rfl]
      cases decode packet.read 8 [.H, .H, .H, .H, .B] with
      | none => simp
      | some record =>
          rcases record with ⟨readAddress, readCount, writeAddress, writeCount, byteCount, ⟨⟩⟩
          by_cases sized : byteCount.toNat = 2 * (writeCount.toNat % 128)
          · cases words : decodeWords packet.read 17 (writeCount.toNat % 128) <;>
              simp [sized, words]
          · simp [sized]
  | unsupported function unsupported =>
      rw [parse_unsupported packet unsupported]
      unfold AcceptsRequest
      split
      all_goals first
        | exact absurd (by decide) unsupported
        | simp

namespace Command

/-- Every quantity is positive and within the limit declared for it. -/
def QuantitiesValid : Command → Prop
  | readBits _ _ count => 1 ≤ count.toNat ∧ count.toNat ≤ 2000
  | readRegisters _ _ count => 1 ≤ count.toNat ∧ count.toNat ≤ 125
  | writeMultipleCoils _ count _ => 1 ≤ count.toNat ∧ count.toNat ≤ 1968
  | writeMultipleRegisters _ count _ => 1 ≤ count.toNat ∧ count.toNat ≤ 123
  | readWriteMultipleRegisters _ readCount _ writeCount _ =>
      (1 ≤ readCount.toNat ∧ readCount.toNat ≤ 125) ∧
        1 ≤ writeCount.toNat ∧ writeCount.toNat ≤ 123
  | writeSingleCoil _ _ | writeSingleRegister _ _ | maskWriteRegister _ _ _ => True

/-- Every run lies in its block. -/
def RangesInside (table : Table) : Command → Prop
  | readBits block address count => (table.bits block).Contains address count.toNat
  | readRegisters block address count => (table.registers block).Contains address count.toNat
  | writeSingleCoil address _ => table.coils.Contains address 1
  | writeSingleRegister address _ | maskWriteRegister address _ _ =>
      table.holdingRegisters.Contains address 1
  | writeMultipleCoils address count _ => table.coils.Contains address count.toNat
  | writeMultipleRegisters address count _ =>
      table.holdingRegisters.Contains address count.toNat
  | readWriteMultipleRegisters readAddress readCount writeAddress writeCount _ =>
      table.holdingRegisters.Contains readAddress readCount.toNat ∧
        table.holdingRegisters.Contains writeAddress writeCount.toNat

theorem admissible_iff (command : Command) (table : Table) :
    command.Admissible table ↔ command.QuantitiesValid ∧ command.RangesInside table := by
  cases command with
  | readBits => rw [Admissible, NumBits.validate_read_iff]; rfl
  | readRegisters => rw [Admissible, NumRegs.validate_read_iff]; rfl
  | writeMultipleCoils => rw [Admissible, NumBits.validate_write_iff]; rfl
  | writeMultipleRegisters => rw [Admissible, NumRegs.validate_write_iff]; rfl
  | readWriteMultipleRegisters =>
      rw [Admissible, NumRegs.validate_read_iff, NumRegs.validate_write_iff]
      exact and_and_and_comm
  | _ => exact (and_iff_right trivial).symm

end Command

/-- A request for a single coil with a value for neither state. -/
def NeitherOnNorOff (packet : ByteBuffer) : Prop :=
  ∃ address word, decode packet.read 8 [.H, .H] = some (address, word, ()) ∧
    word ≠ 0x0000 ∧ word ≠ 0xFF00

/-- What a request is due: an exception or, without one, a normal reply. -/
inductive Due (table : Table) (packet : ByteBuffer) (function : FunctionCode) :
    Option ExceptionCode → Prop
  | value {command : Command} (parsed : parse packet function = some (.ok command))
      (invalid : ¬ command.QuantitiesValid) :
      Due table packet function (some .illegalDataValue)
  | address {command : Command} (parsed : parse packet function = some (.ok command))
      (valid : command.QuantitiesValid) (outside : ¬ command.RangesInside table) :
      Due table packet function (some .illegalDataAddress)
  | normal {command : Command} (parsed : parse packet function = some (.ok command))
      (valid : command.QuantitiesValid) (inside : command.RangesInside table) :
      Due table packet function none
  | coilValue (single : function = .writeSingleCoil) (neither : NeitherOnNorOff packet) :
      Due table packet function (some .illegalDataValue)

def AnsweredWith (reply : Packet) : Option ExceptionCode → Prop
  | some code => ExceptionReply reply ∧ reply.drop 8 = [code.toUnderlying]
  | none => reply ≠ [] ∧ ¬ ExceptionReply reply

/-- The handler answers a request with what it is due. -/
def Classified [Struc] (table : Table) (packet : ByteBuffer) (function : FunctionCode) : Prop :=
  ∀ due, Due table packet function due →
    ∃ reply stored, (handle packet).run table = some (.ok reply, stored) ∧
      AnsweredWith reply due

theorem parse_neitherOnNorOff {packet : ByteBuffer} (neither : NeitherOnNorOff packet) :
    parse packet .writeSingleCoil = some (.error .serverDeviceFailure) := by
  rcases neither with ⟨address, word, decoded, notOff, notOn⟩
  simp [parse, decoded, checkBitsValue, notOff, notOn]

section Answers

variable {function : FunctionCode}

/-- The code of an exception is the one byte behind its function. -/
theorem Frame.answeredWith_exception_iff {transaction : UInt16} {unit : UInt8}
    {code other : ExceptionCode} :
    AnsweredWith (Frame.exception transaction unit function.known.toUnderlying code).bytes
      (some other) ↔ code = other := by
  rcases code with ⟨code⟩
  rcases other with ⟨other⟩
  have marked := Frame.exception_exceptionReply transaction unit function ⟨code⟩
  rw [AnsweredWith, and_iff_right marked, Frame.drop_bytes]
  simp [Frame.exception]

end Answers

/-- What an accepted request is due depends on its quantities and ranges. -/
theorem classified_iff [Struc] {packet : ByteBuffer} {function : FunctionCode} (table : Table)
    (requested : packet.bytes[7]? = some function.toUnderlying)
    (asked : AcceptsRequest packet function ∨
      function = .writeSingleCoil ∧ NeitherOnNorOff packet) :
    Classified table packet function ↔
      ∃ command, parse packet function = some (.ok command) ∧ command.QuantitiesValid := by
  obtain ⟨header, received⟩ := exists_received_function requested
  constructor
  · intro classified
    rcases asked with accepted | ⟨rfl, neither⟩
    · obtain ⟨command, parsed⟩ := (acceptsRequest_iff received).mp accepted
      refine ⟨command, parsed, ?_⟩
      by_contra invalid
      have inadmissible : ¬ command.Admissible table := fun admissible =>
        invalid ((command.admissible_iff table).mp admissible).1
      obtain ⟨reply, stored, replied, answered⟩ := classified _ (.value parsed invalid)
      rw [handle_run_of_parse received parsed, respond_inadmissible inadmissible] at replied
      obtain ⟨rfl, -⟩ := returned_inj.mp replied
      exact absurd (Frame.answeredWith_exception_iff.mp answered) (by decide)
    · obtain ⟨reply, stored, replied, answered⟩ := classified _ (.coilValue rfl neither)
      rw [handle_run_of_parse received (parse_neitherOnNorOff neither)] at replied
      obtain ⟨rfl, -⟩ := returned_inj.mp replied
      exact absurd (Frame.answeredWith_exception_iff.mp answered) (by decide)
  · rintro ⟨command, parsed, valid⟩ due owed
    refine ⟨_, _, handle_run_of_parse received parsed, ?_⟩
    cases owed with
    | value again invalid =>
        rw [parsed] at again
        obtain rfl := Except.ok.inj (Option.some.inj again)
        exact absurd valid invalid
    | address again _ outside =>
        rw [parsed] at again
        obtain rfl := Except.ok.inj (Option.some.inj again)
        have inadmissible : ¬ command.Admissible table := fun admissible =>
          outside ((command.admissible_iff table).mp admissible).2
        rw [respond_inadmissible inadmissible]
        exact Frame.answeredWith_exception_iff.mpr rfl
    | normal again _ inside =>
        rw [parsed] at again
        obtain rfl := Except.ok.inj (Option.some.inj again)
        have admissible := (command.admissible_iff table).mpr ⟨valid, inside⟩
        refine ⟨Frame.bytes_ne_nil _, ?_⟩
        rw [respond_exceptionReply_iff parsed]
        intro refused
        exact refused command rfl admissible
    | coilValue single neither =>
        subst single
        rw [parse_neitherOnNorOff neither] at parsed
        cases parsed

theorem classified_readCoils :
    @Classified Struc.documented (Table.cleared 8)
        (ByteBuffer.guarded [0, 1, 0, 0, 0, 6, 1, 0x01, 0, 4, 0, 8]) .readCoils ↔
      ∃ command, parse (ByteBuffer.guarded [0, 1, 0, 0, 0, 6, 1, 0x01, 0, 4, 0, 8])
        .readCoils = some (.ok command) ∧ command.QuantitiesValid :=
  @classified_iff Struc.documented _ _ _ rfl (.inl ⟨_, rfl⟩)

/-- A read of no coils is answered with an illegal data address. -/
theorem not_classified_noCoils :
    ¬ @Classified Struc.documented (Table.cleared 8)
      (ByteBuffer.guarded [0, 1, 0, 0, 0, 6, 1, 0x01, 0, 0, 0, 0]) .readCoils := by
  intro classified
  have invalid : ¬ (Command.readBits .coils 0 0).QuantitiesValid := by
    rintro ⟨positive, -⟩
    exact absurd positive (by decide)
  obtain ⟨reply, stored, replied, -, code⟩ := classified _ (.value rfl invalid)
  have ran : (@handle Struc.documented
      (ByteBuffer.guarded [0, 1, 0, 0, 0, 6, 1, 0x01, 0, 0, 0, 0])).run (Table.cleared 8) =
        some (.ok [0, 1, 0, 0, 0, 3, 1, 0x81, 0x02], Table.cleared 8) := rfl
  rw [ran] at replied
  obtain ⟨rfl, -⟩ := returned_inj.mp replied
  exact absurd code (by decide)

end ModbusCpp
