import ModbusCpp.RequestHandler
import ModbusCpp.RequestProcessing

/-!
# The handler refines the abstract server

On a packet with a header and a function, `handle` returns the frame that the
abstract server responds with and leaves the table it leaves, provided that
every read which parsing needs finds its byte; and it has no outcome exactly
when one of them does not.
-/

namespace ModbusCpp

open Method RequestHandler

/-- What the switch comes to for what a packet was parsed to. -/
def outcome (header : Header) (function : FunctionCode)
    (parsed : Except ExceptionCode Command) (table : Table) : Except Exn Packet × Table :=
  match parsed with
  | .ok command => command.outcome header function table
  | .error code => (.error (.specification code function.known header), table)

/-- Every packet above the size that the handler checks has a header. -/
theorem exists_received {packet : ByteBuffer} (long : Adu.headerLength < packet.size) :
    ∃ header function, Received packet header function := by
  have defined : (StructFormat.decode packet.read 0 Adu.headerFuncFormat).isSome = true := by
    apply StructFormat.decode_isSome_iff.mpr
    intro index indexLt
    have inside : index < packet.size := Nat.lt_of_lt_of_le indexLt long
    rw [Nat.zero_add, ByteBuffer.read_of_lt inside]
    simpa [ByteBuffer.size] using inside
  obtain ⟨⟨transaction, protocol, length, unit, function, ⟨⟩⟩, decoded⟩ :=
    Option.isSome_iff_exists.mp defined
  refine ⟨⟨transaction, length, unit⟩, ⟨function⟩, ?_, protocol, decoded⟩
  rw [← ByteBuffer.read_of_lt long]
  exact StructFormat.decode_eq_some_iff.mp decoded 7 (by decide)

/-- The header of a packet whose function is known. -/
theorem exists_received_function {packet : ByteBuffer} {function : FunctionCode}
    (requested : packet.bytes[7]? = some function.toUnderlying) :
    ∃ header, Received packet header function := by
  obtain ⟨header, ⟨byte⟩, received⟩ :=
    exists_received (List.getElem?_eq_some_iff.mp requested).1
  have same : byte = function.toUnderlying :=
    Option.some.inj (received.functionByte.symm.trans requested)
  subst same
  exact ⟨header, received⟩

variable {packet : ByteBuffer} {header : Header} {function : FunctionCode} {table : Table}

/-- A command is only read from a request that has a class. -/
theorem supported_of_parse {command : Command}
    (parsed : parse packet function = some (.ok command)) :
    function ∈ FunctionCode.supported := by
  by_contra unsupported
  simp [parse_unsupported packet unsupported] at parsed

theorem known_of_supported (supported : function ∈ FunctionCode.supported) :
    function.known = function :=
  if_pos (FunctionCode.supported_spec function supported).2.1

theorem serve_run {ρ θ : Type} (request : ρ) (decode : ByteBuffer → Member ρ Unit)
    (execute : ρ → Table → Except Exn θ) (encode : TableMethod θ Packet) :
    (serve request decode execute encode packet).run table =
      ((decode packet).run request).map fun decoded =>
        match decoded.1 with
        | .ok () => process execute encode decoded.2 table
        | .error failure => (.error failure, table) := by
  simp only [serve, run_bind, run_onLocal]
  cases (decode packet).run request with
  | none => rfl
  | some decoded =>
      rcases decoded with ⟨failure | ⟨⟩, left⟩
      · rfl
      · cases executed : execute left table <;> simp [process, executed, Except.map] <;> rfl

variable [Struc]

theorem dispatch_readCoils (received : Received packet header .readCoils) :
    (dispatch packet .readCoils).run table =
      (parse packet .readCoils).map fun parsed =>
        outcome header .readCoils parsed table := by
  simp only [dispatch, switch, serve_run,
    Request.BaseReadBits.run_decode received (by decide), parse]
  cases StructFormat.decode packet.read 8 [.H, .H] with
  | none => rfl
  | some record =>
      rcases record with ⟨address, count, ⟨⟩⟩
      exact congrArg some (process_eq (Request.BaseReadBits.executeOn_eq _ _ _)
        Response.BaseReadBits.eval_encode)

theorem dispatch_readDiscreteInputs (received : Received packet header .readDiscreteInputs) :
    (dispatch packet .readDiscreteInputs).run table =
      (parse packet .readDiscreteInputs).map fun parsed =>
        outcome header .readDiscreteInputs parsed table := by
  simp only [dispatch, switch, serve_run,
    Request.BaseReadBits.run_decode received (by decide), parse]
  cases StructFormat.decode packet.read 8 [.H, .H] with
  | none => rfl
  | some record =>
      rcases record with ⟨address, count, ⟨⟩⟩
      exact congrArg some (process_eq (Request.BaseReadBits.executeOn_eq _ _ _)
        Response.BaseReadBits.eval_encode)

theorem dispatch_readHoldingRegisters (received : Received packet header .readHoldingRegisters) :
    (dispatch packet .readHoldingRegisters).run table =
      (parse packet .readHoldingRegisters).map fun parsed =>
        outcome header .readHoldingRegisters parsed table := by
  simp only [dispatch, switch, serve_run,
    Request.BaseReadRegisters.run_decode received (by decide), parse]
  cases StructFormat.decode packet.read 8 [.H, .H] with
  | none => rfl
  | some record =>
      rcases record with ⟨address, count, ⟨⟩⟩
      exact congrArg some (process_eq (Request.BaseReadRegisters.executeOn_eq _ _ _)
        Response.BaseReadRegisters.eval_encode)

theorem dispatch_readInputRegisters (received : Received packet header .readInputRegisters) :
    (dispatch packet .readInputRegisters).run table =
      (parse packet .readInputRegisters).map fun parsed =>
        outcome header .readInputRegisters parsed table := by
  simp only [dispatch, switch, serve_run,
    Request.BaseReadRegisters.run_decode received (by decide), parse]
  cases StructFormat.decode packet.read 8 [.H, .H] with
  | none => rfl
  | some record =>
      rcases record with ⟨address, count, ⟨⟩⟩
      exact congrArg some (process_eq (Request.BaseReadRegisters.executeOn_eq _ _ _)
        Response.BaseReadRegisters.eval_encode)

theorem dispatch_writeSingleCoil (received : Received packet header .writeSingleCoil) :
    (dispatch packet .writeSingleCoil).run table =
      (parse packet .writeSingleCoil).map fun parsed =>
        outcome header .writeSingleCoil parsed table := by
  simp only [dispatch, switch, serve_run,
    Request.WriteSingleCoil.run_decode received (.new _ _) rfl, parse]
  cases StructFormat.decode packet.read 8 [.H, .H] with
  | none => rfl
  | some record =>
      rcases record with ⟨address, word, ⟨⟩⟩
      cases checked : checkBitsValue word with
      | false => simp [checked, outcome, FunctionCode.known]; rfl
      | true =>
          simp [checked, outcome]
          exact process_eq (Request.WriteSingleCoil.execute_eq checked)
            Response.WriteSingleCoil.eval_encode

theorem dispatch_writeSingleRegister (received : Received packet header .writeSingleRegister) :
    (dispatch packet .writeSingleRegister).run table =
      (parse packet .writeSingleRegister).map fun parsed =>
        outcome header .writeSingleRegister parsed table := by
  simp only [dispatch, switch, serve_run,
    Request.WriteSingleRegister.run_decode received (.new _ _) rfl, parse]
  cases StructFormat.decode packet.read 8 [.H, .H] with
  | none => rfl
  | some record =>
      rcases record with ⟨address, value, ⟨⟩⟩
      exact congrArg some (process_eq (Request.WriteSingleRegister.execute_eq _ _)
        Response.WriteSingleRegister.eval_encode)

theorem dispatch_maskWriteRegister (received : Received packet header .maskWriteRegister) :
    (dispatch packet .maskWriteRegister).run table =
      (parse packet .maskWriteRegister).map fun parsed =>
        outcome header .maskWriteRegister parsed table := by
  simp only [dispatch, switch, serve_run,
    Request.MaskWriteRegister.run_decode received (.new _ _ _) rfl, parse]
  cases StructFormat.decode packet.read 8 [.H, .H, .H] with
  | none => rfl
  | some record =>
      rcases record with ⟨address, andMask, orMask, ⟨⟩⟩
      exact congrArg some (process_eq (Request.MaskWriteRegister.execute_eq _ _ _)
        Response.MaskWriteRegister.eval_encode)

theorem dispatch_writeMultipleCoils (received : Received packet header .writeMultipleCoils) :
    (dispatch packet .writeMultipleCoils).run table =
      (parse packet .writeMultipleCoils).map fun parsed =>
        outcome header .writeMultipleCoils parsed table := by
  simp only [dispatch, switch, serve_run,
    Request.WriteMultipleCoils.run_decode received (.new _ _ _) rfl, parse]
  cases StructFormat.decode packet.read 8 [.H, .H, .B] with
  | none => rfl
  | some record =>
      rcases record with ⟨address, count, byteCount, ⟨⟩⟩
      exact congrArg some (process_eq
        (Request.WriteMultipleCoils.execute_eq _ _ ⟨_, length_resize _ _ _⟩ _)
        (Response.WriteMultipleCoils.eval_encode _))

theorem dispatch_writeMultipleRegisters
    (received : Received packet header .writeMultipleRegisters) :
    (dispatch packet .writeMultipleRegisters).run table =
      (parse packet .writeMultipleRegisters).map fun parsed =>
        outcome header .writeMultipleRegisters parsed table := by
  simp only [dispatch, switch, serve_run,
    Request.WriteMultipleRegisters.run_decode received (.new _ _ _) rfl, parse]
  cases StructFormat.decode packet.read 8 [.H, .H, .B] with
  | none => rfl
  | some record =>
      rcases record with ⟨address, count, byteCount, ⟨⟩⟩
      by_cases sized : byteCount.toNat = 2 * (count.toNat % 128)
      · cases words : StructFormat.decodeWords packet.read 13 (count.toNat % 128) with
        | none => simp [sized, words]
        | some values =>
            simp [sized, words, outcome]
            exact process_eq
              (Request.WriteMultipleRegisters.execute_eq _ _ ⟨_, length_resize _ _ _⟩)
              Response.WriteMultipleRegisters.eval_encode
      · simp [sized, outcome, FunctionCode.known]
        rfl

theorem dispatch_readWriteMultipleRegisters
    (received : Received packet header .readWriteMultipleRegisters) :
    (dispatch packet .readWriteMultipleRegisters).run table =
      (parse packet .readWriteMultipleRegisters).map fun parsed =>
        outcome header .readWriteMultipleRegisters parsed table := by
  simp only [dispatch, switch, serve_run,
    Request.ReadWriteMultipleRegisters.run_decode received (.new _ _ _ _ _) rfl, parse]
  cases StructFormat.decode packet.read 8 [.H, .H, .H, .H, .B] with
  | none => rfl
  | some record =>
      rcases record with ⟨readAddress, readCount, writeAddress, writeCount, byteCount, ⟨⟩⟩
      by_cases sized : byteCount.toNat = 2 * (writeCount.toNat % 128)
      · cases words : StructFormat.decodeWords packet.read 17 (writeCount.toNat % 128) with
        | none => simp [sized, words]
        | some values =>
            simp [sized, words, outcome]
            exact process_eq
              (Request.ReadWriteMultipleRegisters.execute_eq _ _ _ _ ⟨_, length_resize _ _ _⟩)
              Response.ReadWriteMultipleRegisters.eval_encode
      · simp [sized, outcome, FunctionCode.known]
        rfl

theorem dispatch_of_unsupported (packet : ByteBuffer)
    (unsupported : function ∉ FunctionCode.supported) :
    dispatch packet function = (do
      let ((), _) ← onLocal (Request.Illegal.decode packet) Request.Illegal.new
      pure []) := by
  unfold dispatch switch
  split
  all_goals first
    | rfl
    | exact absurd (by decide) unsupported

theorem dispatch_unsupported (received : Received packet header function)
    (unsupported : function ∉ FunctionCode.supported) :
    (dispatch packet function).run table =
      (parse packet function).map fun parsed => outcome header function parsed table := by
  simp [dispatch_of_unsupported packet unsupported, Request.Illegal.run_decode received,
    parse_unsupported packet unsupported, outcome, FunctionCode.known, Except.map]

/-- The switch refines parsing and processing. -/
theorem dispatch_run (received : Received packet header function) :
    (dispatch packet function).run table =
      (parse packet function).map fun parsed => outcome header function parsed table := by
  induction function using FunctionCode.cases_supported with
  | readCoils => exact dispatch_readCoils received
  | readDiscreteInputs => exact dispatch_readDiscreteInputs received
  | readHoldingRegisters => exact dispatch_readHoldingRegisters received
  | readInputRegisters => exact dispatch_readInputRegisters received
  | writeSingleCoil => exact dispatch_writeSingleCoil received
  | writeSingleRegister => exact dispatch_writeSingleRegister received
  | writeMultipleCoils => exact dispatch_writeMultipleCoils received
  | writeMultipleRegisters => exact dispatch_writeMultipleRegisters received
  | maskWriteRegister => exact dispatch_maskWriteRegister received
  | readWriteMultipleRegisters => exact dispatch_readWriteMultipleRegisters received
  | unsupported function unsupported => exact dispatch_unsupported received unsupported

/-- A packet without a function gets no reply and has no effect. -/
theorem handle_run_short (short : packet.size ≤ Adu.headerLength) :
    (handle packet).run table = some (.ok [], table) := by
  simp [handle, short]

/-- The handler of the try block turns a specification error into its exception
response. -/
theorem handle_run_dispatch (received : Received packet header function)
    {result : Except Exn Packet} {stored : Table}
    (dispatched : (dispatch packet function).run table = some (result, stored)) :
    (handle packet).run table =
      match result with
      | .ok reply => some (.ok reply, stored)
      | .error (.specification code function header) =>
          some (.ok (Frame.exception header.transaction header.unit function.toUnderlying
            code).bytes, stored)
      | .error _ => some (.ok [], stored) := by
  have inside := (List.getElem?_eq_some_iff.mp received.functionByte).1
  have long : ¬ packet.size ≤ Adu.headerLength := Nat.not_le_of_lt inside
  cases result with
  | ok reply => simp [handle, long, packetAt, received.functionByte, dispatched]
  | error failure =>
      cases failure with
      | specification code function header =>
          obtain ⟨left, encoded⟩ := Response.Error.run_encode code function header
          simp [handle, long, packetAt, received.functionByte, dispatched, encoded, Except.map]
      | internal => simp [handle, long, packetAt, received.functionByte, dispatched]
      | outOfRange => simp [handle, long, packetAt, received.functionByte, dispatched]
      | stdException => simp [handle, long, packetAt, received.functionByte, dispatched]

/-- The handler answers every other packet as the abstract server does. -/
theorem handle_run (received : Received packet header function) :
    (handle packet).run table =
      (parse packet function).map fun parsed =>
        (.ok (respond header function parsed table).1.bytes,
          (respond header function parsed table).2) := by
  cases parsed : parse packet function with
  | none =>
      have dispatched : (dispatch packet function).run table = none := by
        rw [dispatch_run received, parsed]
        rfl
      have inside := (List.getElem?_eq_some_iff.mp received.functionByte).1
      have long : ¬ packet.size ≤ Adu.headerLength := Nat.not_le_of_lt inside
      simp [handle, long, packetAt, received.functionByte, dispatched]
  | some request =>
      have dispatched : (dispatch packet function).run table =
          some (outcome header function request table) := by
        rw [dispatch_run received, parsed]
        rfl
      cases request with
      | error code => exact handle_run_dispatch received dispatched
      | ok command =>
          have known := known_of_supported (supported_of_parse parsed)
          by_cases admissible : command.Admissible table
          · have processed : outcome header function (.ok command) table =
                (.ok (header.frame function (command.reply table)).bytes,
                  command.effect table) := if_pos admissible
            rw [processed] at dispatched
            rw [handle_run_dispatch received dispatched]
            simp [respond, admissible, Header.frame]
          · have processed : outcome header function (.ok command) table =
                (.error (Exn.illegalDataAddress function header), table) := if_neg admissible
            rw [processed] at dispatched
            rw [handle_run_dispatch received dispatched]
            simp [respond, admissible, known]

theorem handle_run_of_parse (received : Received packet header function)
    {request : Except ExceptionCode Command} (parsed : parse packet function = some request) :
    (handle packet).run table =
      some (.ok (respond header function request table).1.bytes,
        (respond header function request table).2) := by
  rw [handle_run received, parsed]
  rfl

end ModbusCpp
