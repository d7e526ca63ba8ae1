import ModbusCpp.Refinement

/-!
# Replies

Every request with a function is answered by a frame, whatever its bytes and
whatever lies behind them.  The frame belongs to the transaction and the unit
of the request; its function is that of the request, marked in an exception
reply, unless the enumeration has no name for it.
-/

namespace ModbusCpp

open Method RequestHandler StructFormat

/-- The bytes of a reply to a packet form a frame. -/
structure WellFormedReply (packet reply : Packet) : Prop where
  long : 9 ≤ reply.length
  short : reply.length ≤ 260
  transaction : reply.take 2 = packet.take 2
  protocol : (reply.drop 2).take 2 = [0, 0]
  length : ∃ word : UInt16, (reply.drop 4).take 2 = Code.encode .H word ∧
    word.toNat = reply.length - 6
  unit : reply[6]? = packet[6]?

/-- The first eight bytes of a packet are its header and function. -/
theorem Received.take_bytes {packet : ByteBuffer} {header : Header} {function : FunctionCode}
    (received : Received packet header function) :
    ∃ protocol, packet.bytes.take 8 = StructFormat.encode Adu.headerFuncFormat
      (header.transaction, protocol, header.length, header.unit, function.toUnderlying, ()) := by
  obtain ⟨protocol, fields⟩ := received.fields
  refine ⟨protocol, List.ext_getElem? fun index => ?_⟩
  have long : 8 ≤ packet.bytes.length :=
    (List.getElem?_eq_some_iff.mp received.functionByte).1
  by_cases inside : index < 8
  · rw [List.getElem?_take_of_lt inside,
      ← decode_eq_some_iff.mp fields index inside, Nat.zero_add,
      ByteBuffer.read_of_lt (Nat.lt_of_lt_of_le inside long)]
  · rw [List.getElem?_eq_none (by simp; omega), List.getElem?_eq_none (by
      rw [encode_length]
      exact Nat.le_of_not_lt inside)]

/-- The payload of an admissible command's reply is neither empty nor longer
than the data of a frame can be. -/
theorem Command.length_reply {command : Command} {table : Table}
    (admissible : command.Admissible table) :
    1 ≤ (command.reply table).length ∧ (command.reply table).length ≤ 252 := by
  cases command with
  | readBits block address count =>
      have bound := (NumBits.validate_read_iff count).mp admissible.1
      have reads := Block.Sequential.length_read admissible.2
      simp only [reply, List.length_cons, length_packBits, reads]
      omega
  | readRegisters block address count =>
      have bound := (NumRegs.validate_read_iff count).mp admissible.1
      have reads := Block.Sequential.length_read admissible.2
      simp only [reply, List.length_cons, length_wordBytes, reads]
      omega
  | writeSingleCoil address value =>
      have inside : table.coils.Contains address 1 := admissible
      simp [reply, Block.Sequential.length_read inside, Code.width]
  | readWriteMultipleRegisters readAddress readCount writeAddress writeCount values =>
      have bound := (NumRegs.validate_read_iff readCount).mp admissible.1.1
      have reads : ((table.holdingRegisters.write writeAddress values).read readAddress
          readCount.toNat).length = readCount.toNat :=
        Block.Sequential.length_read admissible.1.2
      simp only [reply, List.length_cons, length_wordBytes, reads]
      omega
  | _ => simp [reply, Code.width]

theorem respond_frame (header : Header) (function : FunctionCode)
    (parsed : Except ExceptionCode Command) (table : Table) :
    (respond header function parsed table).1.transaction = header.transaction ∧
      (respond header function parsed table).1.unit = header.unit ∧
      1 ≤ (respond header function parsed table).1.payload.length ∧
      (respond header function parsed table).1.payload.length ≤ 252 := by
  cases parsed with
  | error code => simp [respond, Frame.exception]
  | ok command =>
      by_cases admissible : command.Admissible table
      · simpa [respond, admissible] using Command.length_reply admissible
      · simp [respond, admissible, Frame.exception]

/-- A frame with the transaction and the unit of a request is a well-formed
reply to it. -/
theorem Frame.wellFormedReply {packet : ByteBuffer} {header : Header}
    {function : FunctionCode} (received : Received packet header function) {frame : Frame}
    (transaction : frame.transaction = header.transaction) (unit : frame.unit = header.unit)
    (nonempty : 1 ≤ frame.payload.length) (fits : frame.payload.length ≤ 252) :
    WellFormedReply packet.bytes frame.bytes := by
  obtain ⟨protocol, front⟩ := received.take_bytes
  constructor
  · simp only [length_bytes]
    omega
  · simp only [length_bytes]
    omega
  · calc
      frame.bytes.take 2 = Code.encode .H frame.transaction := rfl
      _ = (packet.bytes.take 8).take 2 := by rw [front, transaction]; rfl
      _ = packet.bytes.take 2 := by rw [List.take_take]; rfl
  · rfl
  · refine ⟨UInt16.ofNat (frame.payload.length + 2), rfl, ?_⟩
    rw [UInt16.toNat_ofNat', length_bytes]
    omega
  · calc
      frame.bytes[6]? = some frame.unit := rfl
      _ = (packet.bytes.take 8)[6]? := by rw [front, unit]; rfl
      _ = packet.bytes[6]? := List.getElem?_take_of_lt (by decide)

/-- Whatever lies behind a packet, parsing it comes to a result. -/
theorem exists_parse_unguarded (bytes : Packet) (rest : Nat → UInt8)
    (function : FunctionCode) :
    ∃ parsed, parse (ByteBuffer.unguarded bytes rest) function = some parsed := by
  apply Option.isSome_iff_exists.mp
  rw [parse_isSome_iff]
  exact ⟨Option.isSome_iff_exists.mpr (exists_decode_unguarded bytes rest _ _),
    Option.isSome_iff_exists.mpr (exists_decodeWords_unguarded bytes rest _ _)⟩

/-- With readable memory behind a packet, the handler answers it as the abstract
server does. -/
theorem exists_handle_run [Struc] {bytes : Packet} {rest : Nat → UInt8} {header : Header}
    {function : FunctionCode}
    (received : Received (ByteBuffer.unguarded bytes rest) header function) (table : Table) :
    ∃ parsed, parse (ByteBuffer.unguarded bytes rest) function = some parsed ∧
      (handle (ByteBuffer.unguarded bytes rest)).run table =
        some (.ok (respond header function parsed table).1.bytes,
          (respond header function parsed table).2) := by
  obtain ⟨parsed, parsing⟩ := exists_parse_unguarded bytes rest function
  refine ⟨parsed, parsing, ?_⟩
  rw [handle_run received, parsing]
  rfl

theorem exists_handle_unguarded [Struc] (bytes : Packet) (rest : Nat → UInt8)
    (table : Table) :
    ∃ reply stored,
      (handle (ByteBuffer.unguarded bytes rest)).run table = some (.ok reply, stored) := by
  by_cases short : bytes.length ≤ 7
  · exact ⟨[], table, handle_run_short short⟩
  · have long : Adu.headerLength < (ByteBuffer.unguarded bytes rest).size :=
      Nat.lt_of_not_le short
    obtain ⟨header, function, received⟩ := exists_received long
    obtain ⟨parsed, -, ran⟩ := exists_handle_run received table
    exact ⟨_, _, ran⟩

/-- The handler throws nothing, replies to every packet with a function and to
no other, and all its replies are well formed. -/
theorem handle_replies_wellFormed [Struc] (bytes : Packet) (rest : Nat → UInt8)
    (table : Table) :
    ∃ reply stored,
      (handle (ByteBuffer.unguarded bytes rest)).run table = some (.ok reply, stored) ∧
        (reply = [] ↔ bytes.length ≤ 7) ∧
        (7 < bytes.length → WellFormedReply bytes reply) := by
  by_cases short : bytes.length ≤ 7
  · exact ⟨[], table, handle_run_short short, by simp [short], by omega⟩
  · have long : Adu.headerLength < (ByteBuffer.unguarded bytes rest).size :=
      Nat.lt_of_not_le short
    obtain ⟨header, function, received⟩ := exists_received long
    obtain ⟨parsed, -, ran⟩ := exists_handle_run received table
    obtain ⟨transaction, unit, nonempty, fits⟩ := respond_frame header function parsed table
    have wellFormed := Frame.wellFormedReply received transaction unit nonempty fits
    refine ⟨_, _, ran, ⟨fun empty => ?_, fun small => absurd small short⟩, fun _ => wellFormed⟩
    have nine := wellFormed.long
    rw [empty] at nine
    simp at nine

/-- An exception keeps the functions below the largest one and forgets the
others. -/
theorem FunctionCode.known_toUnderlying (function : FunctionCode) :
    function.known.toUnderlying =
      if function.toUnderlying < 0x2C then function.toUnderlying else 0 := by
  rcases function with ⟨byte⟩
  simp only [known, checkFunctionByte]
  by_cases small : byte < 0x2C
  · by_cases zero : byte = 0
    · simp [zero]
    · simp [small, UInt8.pos_iff_ne_zero.mpr zero]
  · simp [small]

theorem FunctionCode.supported_lt_max :
    ∀ function ∈ FunctionCode.supported, function.toUnderlying < 0x2C := by
  decide

theorem respond_function (header : Header) (function : FunctionCode)
    (parsed : Except ExceptionCode Command) (table : Table) :
    (respond header function parsed table).1.function = function.toUnderlying ∨
      (respond header function parsed table).1.function = function.known.toUnderlying + 0x80 := by
  cases parsed with
  | error code => exact .inr rfl
  | ok command =>
      by_cases admissible : command.Admissible table
      · simp [respond, admissible]
      · simp [respond, admissible, Frame.exception]

/-- The reply carries the function, marked in an exception, and an unsupported
function is answered with the illegal function exception. -/
def EchoesFunction [Struc] (table : Table) (packet : ByteBuffer) (function : UInt8) : Prop :=
  ∃ reply stored, (handle packet).run table = some (.ok reply, stored) ∧
    (reply[7]? = some function ∨ reply[7]? = some (function + 0x80)) ∧
    (⟨function⟩ ∉ FunctionCode.supported →
      reply[7]? = some (function + 0x80) ∧
        reply.drop 8 = [ExceptionCode.illegalFunction.toUnderlying])

/-- The functions from the largest one on are forgotten, all others echoed. -/
theorem echoesFunction_iff [Struc] {bytes : Packet} {rest : Nat → UInt8} {function : UInt8}
    (requested : bytes[7]? = some function) (table : Table) :
    EchoesFunction table (ByteBuffer.unguarded bytes rest) function ↔ function < 0x2C := by
  obtain ⟨header, received⟩ :=
    @exists_received_function (ByteBuffer.unguarded bytes rest) ⟨function⟩ requested
  obtain ⟨parsed, parsing, ran⟩ := exists_handle_run received table
  have known := FunctionCode.known_toUnderlying ⟨function⟩
  constructor
  · rintro ⟨reply, stored, replied, -, illegal⟩
    by_contra large
    have unsupported : ⟨function⟩ ∉ FunctionCode.supported := fun supported =>
      large (FunctionCode.supported_lt_max _ supported)
    rw [parse_unsupported _ unsupported] at parsing
    obtain rfl := Option.some.inj parsing
    rw [if_neg large] at known
    have marked := (illegal unsupported).1
    rw [replied] at ran
    obtain ⟨rfl, -⟩ := returned_inj.mp ran
    rw [Frame.getElem?_bytes_function] at marked
    have forgotten : (0 : UInt8) + 0x80 = function + 0x80 := by
      simpa [respond, Frame.exception, known] using marked
    rw [← (UInt8.add_left_inj _).mp forgotten] at large
    exact large (by decide)
  · intro below
    rw [if_pos below] at known
    refine ⟨_, _, ran, ?_, ?_⟩
    · simpa only [Frame.getElem?_bytes_function, Option.some.injEq, known] using
        respond_function header ⟨function⟩ parsed table
    · intro unsupported
      rw [parse_unsupported _ unsupported] at parsing
      obtain rfl := Option.some.inj parsing
      rw [Frame.getElem?_bytes_function, Frame.drop_bytes]
      simp [respond, Frame.exception, known]

theorem echoesFunction_illegal :
    @EchoesFunction Struc.documented (Table.cleared 1)
        (ByteBuffer.unguarded [0, 1, 0, 0, 0, 2, 1, 0x2B] fun _ => 0) 0x2B ↔
      (0x2B : UInt8) < 0x2C :=
  @echoesFunction_iff Struc.documented _ _ _ rfl _

/-- The largest function itself gets a reply that carries none. -/
theorem not_echoesFunction_max :
    ¬ @EchoesFunction Struc.documented (Table.cleared 1)
      (ByteBuffer.unguarded [0, 1, 0, 0, 0, 2, 1, 0x2C] fun _ => 0) 0x2C := by
  have replied : (@handle Struc.documented
      (ByteBuffer.unguarded [0, 1, 0, 0, 0, 2, 1, 0x2C] fun _ => 0)).run (Table.cleared 1) =
        some (.ok [0, 1, 0, 0, 0, 3, 1, 0x80, 0x01], Table.cleared 1) := rfl
  rintro ⟨reply, stored, ran, -, illegal⟩
  rw [replied] at ran
  obtain ⟨rfl, -⟩ := returned_inj.mp ran
  exact absurd (illegal (by decide)).1 (by decide)

end ModbusCpp
