import ModbusCpp.Contracts

/-!
# Sessions under interference

What a session does with the table and what it replies is settled by its packet,
the shape of the table and what its own operations find: a refused packet is
answered without an operation, and every other one as its command says.
-/

namespace ModbusCpp

open Method RequestHandler Resumption

/-- How a packet can be handled on a table of this shape: the operations, each
with the table on which it works, and the reply. -/
inductive Handles (initial : Table) (packet : ByteBuffer) : List (TableOp × Table) → Packet → Prop
  | short (short : packet.size ≤ Adu.headerLength) : Handles initial packet [] []
  | refused {header : Header} {function : FunctionCode} {code : ExceptionCode}
      (received : Received packet header function)
      (parsed : parse packet function = some (.error code)) :
      Handles initial packet []
        (Frame.exception header.transaction header.unit function.known.toUnderlying code).bytes
  | inadmissible {header : Header} {function : FunctionCode} {command : Command}
      (received : Received packet header function)
      (parsed : parse packet function = some (.ok command))
      (outside : ¬ command.Admissible initial) :
      Handles initial packet []
        (Frame.exception header.transaction header.unit function.known.toUnderlying
          .illegalDataAddress).bytes
  | served {header : Header} {function : FunctionCode} {command : Command}
      {steps : List (TableOp × Table)} {payload : Packet}
      (received : Received packet header function)
      (parsed : parse packet function = some (.ok command))
      (admissible : command.Admissible initial) (performs : command.Performs steps payload) :
      Handles initial packet steps (header.frame function payload).bytes

namespace Session

variable [Struc]

/-- What a session's program has to ensure. -/
def Replies (initial : Table) (packet : ByteBuffer) (steps : List (TableOp × Table))
    (result : Except Exn Packet) : Prop :=
  ∃ reply, finish result = some (.ok reply) ∧ Handles initial packet steps reply

/-- Whatever the switch comes to, there is a reply. -/
theorem exists_finish (result : Except Exn Packet) : ∃ reply, finish result = some (.ok reply) := by
  rcases result with failure | sent
  · cases failure with
    | specification code function header =>
        obtain ⟨left, encoded⟩ := Response.Error.run_encode code function header
        exact ⟨_, by rw [finish, encoded, Option.map_some]⟩
    | _ => exact ⟨[], rfl⟩
  · exact ⟨sent, rfl⟩

theorem finish_specification (code : ExceptionCode) (function : FunctionCode)
    (header : Header) :
    finish (.error (.specification code function header)) =
      some (.ok (Frame.exception header.transaction header.unit function.toUnderlying
        code).bytes) := by
  obtain ⟨left, encoded⟩ := Response.Error.run_encode code function header
  rw [finish, encoded, Option.map_some]

section Cases

variable {packet : ByteBuffer} {header : Header} {function : FunctionCode} {initial : Table}
  {program : Program} {ρ θ : Type} {request decoded : ρ} {decode : ByteBuffer → Member ρ Unit}
  {execute : ρ → Table → Except Exn θ} {encode : TableMethod θ Packet} {response : θ}
  {command : Command}

/-- A case of the switch ensures the reply of its command, if its class
executes the admissible commands and encodes them under interference. -/
theorem startCase_ensures (received : Received packet header function)
    (read : (decode packet).run request = some (.ok (), decoded))
    (parsed : parse packet function = some (.ok command))
    (executed : execute decoded initial =
      if command.Admissible initial then .ok response
      else .error (Exn.illegalDataAddress function header))
    (encoded : command.Admissible initial →
      encode.Ensures (·.SameShape initial) response (command.Encodes header function))
    (started : startCase request decode execute encode packet initial = some program) :
    program.Ensures TableOp.apply (·.SameShape initial) (Replies initial packet) := by
  by_cases admissible : command.Admissible initial
  · rw [if_pos admissible] at executed
    simp only [startCase, read, Option.bind_eq_bind, Option.bind_some, executed,
      Option.some.injEq] at started
    rw [← started, ensures_bind]
    refine (encoded admissible).mono ?_
    rintro steps ⟨result, left⟩ ⟨payload, performs, rfl⟩
    rw [ensures_done, List.append_nil]
    exact ⟨_, rfl, .served received parsed admissible performs⟩
  · rw [if_neg admissible] at executed
    simp only [startCase, read, Option.bind_eq_bind, Option.bind_some, executed,
      Option.some.injEq] at started
    have known := known_of_supported (supported_of_parse parsed)
    have refused := Handles.inadmissible received parsed admissible
    rw [known] at refused
    rw [← started]
    exact ⟨_, finish_specification _ _ _, refused⟩

/-- A request that does not pass decoding is refused. -/
theorem startCase_refused {code : ExceptionCode} (received : Received packet header function)
    (read : (decode packet).run request =
      some (.error (.specification code function.known header), decoded))
    (parsed : parse packet function = some (.error code))
    (started : startCase request decode execute encode packet initial = some program) :
    program.Ensures TableOp.apply (·.SameShape initial) (Replies initial packet) := by
  simp only [startCase, read, Option.bind_eq_bind, Option.bind_some, Option.some.injEq] at started
  rw [← started]
  exact ⟨_, finish_specification _ _ _, .refused received parsed⟩

theorem startCase_readBits {block : BitBlock} (supported : function ∈ FunctionCode.supported)
    (received : Received packet header function)
    (parses : ∀ address count, StructFormat.decode packet.read 8 [.H, .H] =
      some (address, count, ()) →
        parse packet function = some (.ok (.readBits block address count)))
    (started : startCase (Request.BaseReadBits.new 0 1 : Request.BaseReadBits function)
      Request.BaseReadBits.decode (Request.BaseReadBits.executeOn block)
      (Response.BaseReadBits.encodeFrom block) packet initial = some program) :
    program.Ensures TableOp.apply (·.SameShape initial) (Replies initial packet) := by
  have read := Request.BaseReadBits.run_decode received supported (.new 0 1)
  cases decoded : StructFormat.decode packet.read 8 [.H, .H] with
  | none => simp [startCase, read, decoded] at started
  | some record =>
      rcases record with ⟨address, count, ⟨⟩⟩
      rw [decoded] at read
      exact startCase_ensures received read (parses address count decoded)
        (Request.BaseReadBits.executeOn_eq _ _ _) Response.BaseReadBits.ensures_encode started

theorem startCase_readRegisters {block : RegisterBlock}
    (supported : function ∈ FunctionCode.supported)
    (received : Received packet header function)
    (parses : ∀ address count, StructFormat.decode packet.read 8 [.H, .H] =
      some (address, count, ()) →
        parse packet function = some (.ok (.readRegisters block address count)))
    (started : startCase (Request.BaseReadRegisters.new 0 1 : Request.BaseReadRegisters function)
      Request.BaseReadRegisters.decode (Request.BaseReadRegisters.executeOn block)
      (Response.BaseReadRegisters.encodeFrom block) packet initial = some program) :
    program.Ensures TableOp.apply (·.SameShape initial) (Replies initial packet) := by
  have read := Request.BaseReadRegisters.run_decode received supported (.new 0 1)
  cases decoded : StructFormat.decode packet.read 8 [.H, .H] with
  | none => simp [startCase, read, decoded] at started
  | some record =>
      rcases record with ⟨address, count, ⟨⟩⟩
      rw [decoded] at read
      exact startCase_ensures received read (parses address count decoded)
        (Request.BaseReadRegisters.executeOn_eq _ _ _) Response.BaseReadRegisters.ensures_encode
        started

theorem startDispatch_writeSingleCoil (received : Received packet header .writeSingleCoil)
    (started : startDispatch packet .writeSingleCoil initial = some program) :
    program.Ensures TableOp.apply (·.SameShape initial) (Replies initial packet) := by
  have read := Request.WriteSingleCoil.run_decode received (.new 0 Bits.on) rfl
  simp only [startDispatch, switch] at started
  cases decoded : StructFormat.decode packet.read 8 [.H, .H] with
  | none => simp [startCase, read, decoded] at started
  | some record =>
      rcases record with ⟨address, word, ⟨⟩⟩
      rw [decoded] at read
      cases checked : checkBitsValue word with
      | false =>
          simp only [Option.map_some, checked] at read
          exact startCase_refused received read (by simp [parse, decoded, checked]) started
      | true =>
          simp only [Option.map_some, checked] at read
          exact startCase_ensures received read (by simp [parse, decoded, checked])
            (Request.WriteSingleCoil.execute_eq checked) Response.WriteSingleCoil.ensures_encode
            started

theorem startDispatch_writeSingleRegister (received : Received packet header .writeSingleRegister)
    (started : startDispatch packet .writeSingleRegister initial = some program) :
    program.Ensures TableOp.apply (·.SameShape initial) (Replies initial packet) := by
  have read := Request.WriteSingleRegister.run_decode received (.new 0 0) rfl
  simp only [startDispatch, switch] at started
  cases decoded : StructFormat.decode packet.read 8 [.H, .H] with
  | none => simp [startCase, read, decoded] at started
  | some record =>
      rcases record with ⟨address, value, ⟨⟩⟩
      rw [decoded] at read
      exact startCase_ensures received read (by simp [parse, decoded])
        (Request.WriteSingleRegister.execute_eq _ _)
        Response.WriteSingleRegister.ensures_encode started

theorem startDispatch_maskWriteRegister (received : Received packet header .maskWriteRegister)
    (started : startDispatch packet .maskWriteRegister initial = some program) :
    program.Ensures TableOp.apply (·.SameShape initial) (Replies initial packet) := by
  have read := Request.MaskWriteRegister.run_decode received (.new 0 0 0) rfl
  simp only [startDispatch, switch] at started
  cases decoded : StructFormat.decode packet.read 8 [.H, .H, .H] with
  | none => simp [startCase, read, decoded] at started
  | some record =>
      rcases record with ⟨address, andMask, orMask, ⟨⟩⟩
      rw [decoded] at read
      exact startCase_ensures received read (by simp [parse, decoded])
        (Request.MaskWriteRegister.execute_eq _ _ _) Response.MaskWriteRegister.ensures_encode
        started

theorem startDispatch_writeMultipleCoils (received : Received packet header .writeMultipleCoils)
    (started : startDispatch packet .writeMultipleCoils initial = some program) :
    program.Ensures TableOp.apply (·.SameShape initial) (Replies initial packet) := by
  have read := Request.WriteMultipleCoils.run_decode received (.new 0 1 []) rfl
  simp only [startDispatch, switch] at started
  cases decoded : StructFormat.decode packet.read 8 [.H, .H, .B] with
  | none => simp [startCase, read, decoded] at started
  | some record =>
      rcases record with ⟨address, count, byteCount, ⟨⟩⟩
      rw [decoded] at read
      exact startCase_ensures received read (by simp [parse, decoded])
        (Request.WriteMultipleCoils.execute_eq _ _ ⟨_, length_resize _ _ _⟩ _)
        (Response.WriteMultipleCoils.ensures_encode _) started

theorem startDispatch_writeMultipleRegisters
    (received : Received packet header .writeMultipleRegisters)
    (started : startDispatch packet .writeMultipleRegisters initial = some program) :
    program.Ensures TableOp.apply (·.SameShape initial) (Replies initial packet) := by
  have read := Request.WriteMultipleRegisters.run_decode received (.new 0 1 []) rfl
  simp only [startDispatch, switch] at started
  cases decoded : StructFormat.decode packet.read 8 [.H, .H, .B] with
  | none => simp [startCase, read, decoded] at started
  | some record =>
      rcases record with ⟨address, count, byteCount, ⟨⟩⟩
      rw [decoded, Option.bind_some] at read
      by_cases sized : byteCount.toNat = 2 * (count.toNat % 128)
      · cases words : StructFormat.decodeWords packet.read 13 (count.toNat % 128) with
        | none => simp [startCase, read, sized, words] at started
        | some values =>
            simp only [if_pos sized, words, Option.map_some] at read
            exact startCase_ensures received read (by simp [parse, decoded, sized, words])
              (Request.WriteMultipleRegisters.execute_eq _ _ ⟨_, length_resize _ _ _⟩)
              Response.WriteMultipleRegisters.ensures_encode started
      · simp only [if_neg sized] at read
        exact startCase_refused received read (by simp [parse, decoded, sized]) started

theorem startDispatch_readWriteMultipleRegisters
    (received : Received packet header .readWriteMultipleRegisters)
    (started : startDispatch packet .readWriteMultipleRegisters initial = some program) :
    program.Ensures TableOp.apply (·.SameShape initial) (Replies initial packet) := by
  have read := Request.ReadWriteMultipleRegisters.run_decode received (.new 0 1 0 1 []) rfl
  simp only [startDispatch, switch] at started
  cases decoded : StructFormat.decode packet.read 8 [.H, .H, .H, .H, .B] with
  | none => simp [startCase, read, decoded] at started
  | some record =>
      rcases record with ⟨readAddress, readCount, writeAddress, writeCount, byteCount, ⟨⟩⟩
      rw [decoded, Option.bind_some] at read
      by_cases sized : byteCount.toNat = 2 * (writeCount.toNat % 128)
      · cases words : StructFormat.decodeWords packet.read 17 (writeCount.toNat % 128) with
        | none => simp [startCase, read, sized, words] at started
        | some values =>
            simp only [if_pos sized, words, Option.map_some] at read
            exact startCase_ensures received read (by simp [parse, decoded, sized, words])
              (Request.ReadWriteMultipleRegisters.execute_eq _ _ _ _ ⟨_, length_resize _ _ _⟩)
              Response.ReadWriteMultipleRegisters.ensures_encode started
      · simp only [if_neg sized] at read
        exact startCase_refused received read (by simp [parse, decoded, sized]) started

theorem startDispatch_unsupported (received : Received packet header function)
    (unsupported : function ∉ FunctionCode.supported)
    (started : startDispatch packet function initial = some program) :
    program.Ensures TableOp.apply (·.SameShape initial) (Replies initial packet) := by
  have same : startDispatch packet function initial =
      some (.done (.error (Exn.illegalFunction function.known header))) := by
    unfold startDispatch switch
    split
    all_goals first
      | exact absurd (by decide) unsupported
      | simp [Request.Illegal.run_decode received, FunctionCode.known, Except.map]
  rw [same] at started
  rw [← Option.some.inj started]
  exact ⟨_, finish_specification _ _ _, .refused received (parse_unsupported packet unsupported)⟩

end Cases

/-- A session that was started ensures its reply, whatever the other sessions do
to the cells of the table. -/
theorem start_ensures {packet : ByteBuffer} {initial : Table} {program : Program}
    (started : start packet initial = some program) :
    program.Ensures TableOp.apply (·.SameShape initial) (Replies initial packet) := by
  by_cases short : packet.size ≤ Adu.headerLength
  · rw [start, if_pos short, Option.some.injEq] at started
    rw [← started]
    exact ⟨[], rfl, .short short⟩
  · obtain ⟨header, function, received⟩ := exists_received (Nat.lt_of_not_le short)
    simp only [start, if_neg short, received.functionByte] at started
    induction function using FunctionCode.cases_supported with
    | readCoils =>
        exact startCase_readBits (by decide) received
          (fun address count decoded => by simp [parse, decoded]) started
    | readDiscreteInputs =>
        exact startCase_readBits (by decide) received
          (fun address count decoded => by simp [parse, decoded]) started
    | readHoldingRegisters =>
        exact startCase_readRegisters (by decide) received
          (fun address count decoded => by simp [parse, decoded]) started
    | readInputRegisters =>
        exact startCase_readRegisters (by decide) received
          (fun address count decoded => by simp [parse, decoded]) started
    | writeSingleCoil => exact startDispatch_writeSingleCoil received started
    | writeSingleRegister => exact startDispatch_writeSingleRegister received started
    | writeMultipleCoils => exact startDispatch_writeMultipleCoils received started
    | writeMultipleRegisters => exact startDispatch_writeMultipleRegisters received started
    | maskWriteRegister => exact startDispatch_maskWriteRegister received started
    | readWriteMultipleRegisters =>
        exact startDispatch_readWriteMultipleRegisters received started
    | unsupported function unsupported =>
        exact startDispatch_unsupported received unsupported started

end Session

end ModbusCpp
