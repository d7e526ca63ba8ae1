import ModbusCpp.ReplyPayloads
import ModbusCpp.VirtualMembers

/-!
# From decoded requests to replies

A request object that `decode` has filled in from a packet stands for a command.
`execute` lets through the commands that are admissible, and for these `encode`
of the response object has no branch left that throws.
-/

namespace ModbusCpp

open Method StructFormat TableMethod

/-- A request object with a decoded header stands for a command.  The values of a
write have been resized to the quantity. -/
inductive Stands (header : Header) : RequestObject → Command → Prop
  | readCoils (address count : UInt16) :
      Stands header (.readCoils ⟨header.adu .readCoils, address, count⟩)
        (.readBits .coils address count)
  | readDiscreteInputs (address count : UInt16) :
      Stands header (.readDiscreteInputs ⟨header.adu .readDiscreteInputs, address, count⟩)
        (.readBits .discreteInputs address count)
  | readHoldingRegisters (address count : UInt16) :
      Stands header (.readHoldingRegisters ⟨header.adu .readHoldingRegisters, address, count⟩)
        (.readRegisters .holdingRegisters address count)
  | readInputRegisters (address count : UInt16) :
      Stands header (.readInputRegisters ⟨header.adu .readInputRegisters, address, count⟩)
        (.readRegisters .inputRegisters address count)
  | writeSingleCoil (address word : UInt16) (checked : checkBitsValue word = true) :
      Stands header (.writeSingleCoil ⟨header.adu .writeSingleCoil, address, ⟨word⟩⟩)
        (.writeSingleCoil address (⟨word⟩ == Bits.on))
  | writeSingleRegister (address value : UInt16) :
      Stands header (.writeSingleRegister ⟨header.adu .writeSingleRegister, address, value⟩)
        (.writeSingleRegister address value)
  | writeMultipleCoils (address count : UInt16) (values : Values Bool count)
      (byteCount : UInt8) :
      Stands header
        (.writeMultipleCoils
          ⟨header.adu .writeMultipleCoils, address, count, values, byteCount⟩)
        (.writeMultipleCoils address count values)
  | writeMultipleRegisters (address count : UInt16) (values : Values UInt16 count) :
      Stands header
        (.writeMultipleRegisters ⟨header.adu .writeMultipleRegisters, address, count, values⟩)
        (.writeMultipleRegisters address count values)
  | maskWriteRegister (address andMask orMask : UInt16) :
      Stands header
        (.maskWriteRegister ⟨header.adu .maskWriteRegister, address, andMask, orMask⟩)
        (.maskWriteRegister address andMask orMask)
  | readWriteMultipleRegisters (readAddress readCount writeAddress writeCount : UInt16)
      (values : Values UInt16 writeCount) :
      Stands header
        (.readWriteMultipleRegisters ⟨header.adu .readWriteMultipleRegisters, readAddress,
          readCount, writeAddress, writeCount, values⟩)
        (.readWriteMultipleRegisters readAddress readCount writeAddress writeCount values)

namespace Stands

variable {header : Header} {request : RequestObject} {command : Command} {table : Table}

/-- `execute` makes a response object for an admissible command. -/
theorem execute_eq (stands : Stands header request command) :
    request.execute table =
      if command.Admissible table then .ok request.newResponse
      else .error (Exn.illegalDataAddress request.classFunction header) := by
  have mapped {θ : Type} {admissible : Prop} [Decidable admissible] {response : θ}
      {failure : Exn} {executed : Except Exn θ} (wrap : θ → ResponseObject)
      (known : executed = if admissible then .ok response else .error failure) :
      executed.map wrap = if admissible then .ok (wrap response) else .error failure := by
    rw [known]
    split <;> rfl
  cases stands with
  | readCoils | readDiscreteInputs =>
      exact mapped _ (Request.BaseReadBits.executeOn_eq _ _ _)
  | readHoldingRegisters | readInputRegisters =>
      exact mapped _ (Request.BaseReadRegisters.executeOn_eq _ _ _)
  | writeSingleCoil address word checked =>
      exact mapped _ (Request.WriteSingleCoil.execute_eq checked)
  | writeSingleRegister => exact mapped _ (Request.WriteSingleRegister.execute_eq _ _)
  | writeMultipleCoils => exact mapped _ (Request.WriteMultipleCoils.execute_eq _ _ _ _)
  | writeMultipleRegisters =>
      exact mapped _ (Request.WriteMultipleRegisters.execute_eq _ _ _)
  | maskWriteRegister => exact mapped _ (Request.MaskWriteRegister.execute_eq _ _ _)
  | readWriteMultipleRegisters =>
      exact mapped _ (Request.ReadWriteMultipleRegisters.execute_eq _ _ _ _ _)

/-- The size that a request expects is that of the reply to its command. -/
theorem responseSize_eq (stands : Stands header request command)
    (admissible : command.Admissible table) :
    request.responseSize = 8 + (command.reply table).length := by
  cases stands with
  | readCoils address count | readDiscreteInputs address count =>
      have reads := Block.Sequential.length_read admissible.2
      simp only [RequestObject.responseSize, Request.BaseReadBits.responseSize_eq, Command.reply,
        List.length_cons, length_packBits, reads]
      omega
  | readHoldingRegisters address count | readInputRegisters address count =>
      have bound := (NumRegs.validate_read_iff count).mp admissible.1
      have reads := Block.Sequential.length_read admissible.2
      rw [RequestObject.responseSize, Request.BaseReadRegisters.responseSize_eq bound.2]
      simp only [Command.reply, List.length_cons, length_wordBytes, reads]
      omega
  | writeSingleCoil address word checked =>
      have reads := Block.Sequential.length_read (show table.coils.Contains address 1 from
        admissible)
      simp only [Command.reply, length_wordBytes, List.length_cons, List.length_map, reads]
      rfl
  | readWriteMultipleRegisters readAddress readCount writeAddress writeCount values =>
      have bound := (NumRegs.validate_read_iff readCount).mp admissible.1.1
      have reads : ((table.holdingRegisters.write writeAddress values).read readAddress
          readCount.toNat).length = readCount.toNat :=
        Block.Sequential.length_read admissible.1.2
      simp only [RequestObject.responseSize,
        Request.ReadWriteMultipleRegisters.responseSize_eq, Command.reply, List.length_cons,
        length_wordBytes, reads]
      omega
  | _ => rfl

variable [Struc]

/-- A virtual call of `encode` ends as the call of the class does. -/
theorem eval_override {θ : Type} (wrap : θ → ResponseObject) {encode : TableMethod θ Packet}
    {response : θ} {bytes : Packet} {effect : Table}
    (called : ResponseObject.encode (wrap response) = override wrap encode response)
    (encoded : (encode.eval response table).map Prod.fst id = (.ok bytes, effect)) :
    ∃ left, ResponseObject.encode.eval (wrap response) table = ((.ok bytes, left), effect) := by
  obtain ⟨same, rfl⟩ := Prod.mk.inj encoded
  refine ⟨wrap (encode.eval response table).1.2, ?_⟩
  rw [TableMethod.eval, Method.run, called, override, Resumption.run_bind, Resumption.run_pure]
  exact congrArg (fun result => ((result, wrap (encode.eval response table).1.2),
    (encode.eval response table).2)) same

/-- `encode` returns the reply to an admissible command, and throws nothing. -/
theorem eval_encode (stands : Stands header request command)
    (admissible : command.Admissible table) :
    ∃ left, (ResponseObject.encode.eval request.newResponse table) =
      ((.ok (header.frame request.classFunction (command.reply table)).bytes, left),
        command.effect table) := by
  cases stands with
  | readCoils =>
      exact eval_override .readCoils rfl (Response.BaseReadBits.eval_encode admissible)
  | readDiscreteInputs =>
      exact eval_override .readDiscreteInputs rfl (Response.BaseReadBits.eval_encode admissible)
  | readHoldingRegisters =>
      exact eval_override .readHoldingRegisters rfl
        (Response.BaseReadRegisters.eval_encode admissible)
  | readInputRegisters =>
      exact eval_override .readInputRegisters rfl
        (Response.BaseReadRegisters.eval_encode admissible)
  | writeSingleCoil =>
      exact eval_override .writeSingleCoil rfl (Response.WriteSingleCoil.eval_encode admissible)
  | writeSingleRegister =>
      exact eval_override .writeSingleRegister rfl
        (Response.WriteSingleRegister.eval_encode admissible)
  | writeMultipleCoils =>
      exact eval_override .writeMultipleCoils rfl
        (Response.WriteMultipleCoils.eval_encode _ admissible)
  | writeMultipleRegisters =>
      exact eval_override .writeMultipleRegisters rfl
        (Response.WriteMultipleRegisters.eval_encode admissible)
  | maskWriteRegister =>
      exact eval_override .maskWriteRegister rfl
        (Response.MaskWriteRegister.eval_encode admissible)
  | readWriteMultipleRegisters =>
      exact eval_override .readWriteMultipleRegisters rfl
        (Response.ReadWriteMultipleRegisters.eval_encode admissible)

end Stands

section Decoding

variable {packet : ByteBuffer} {function : FunctionCode} {σ : Type}

/-- A request is only decoded from a packet with the function that is expected. -/
theorem Request.exists_received_of_decoding (supported : function ∈ FunctionCode.supported)
    {toAdu : σ → Adu} {rest : Member σ Unit} {self left : σ}
    (decoded : (decoding toAdu (do
      expectFunction packet function
      rest)).run self = some (.ok (), left)) :
    ∃ header, Received packet header function := by
  apply exists_received_function
  obtain ⟨widened, -, -⟩ := FunctionCode.supported_spec function supported
  cases found : packet.bytes[Adu.headerLength]? with
  | none => simp [decoding, expectFunction, packetAt, found] at decoded
  | some byte =>
      by_cases same : byte.toInt8.toInt = function.toUnderlying.toNat
      · rw [← widened, Int8.toInt_inj] at same
        rw [show byte = function.toUnderlying from congrArg Int8.toUInt8 same] at found
        exact found
      · simp [decoding, expectFunction, packetAt, found, same] at decoded

/-- The same, where the function is taken from the object. -/
theorem Request.exists_received_of_decoding_own (supported : function ∈ FunctionCode.supported)
    {toAdu : σ → Adu} {rest : Member σ Unit} {self left : σ}
    (own : (toAdu self).function = function)
    (decoded : (decoding toAdu (do
      expectFunction packet (toAdu (← get)).function
      rest)).run self = some (.ok (), left)) :
    ∃ header, Received packet header function := by
  have named : (decoding toAdu (do
      expectFunction packet function
      rest)).run self = some (.ok (), left) := by
    rw [← decoded]
    simp [decoding, own]
  exact exists_received_of_decoding supported named

theorem exists_run_of_override {wrap : σ → RequestObject} {method : Member σ Unit} {object : σ}
    {request : RequestObject} (ran : override wrap method object = some (.ok (), request)) :
    ∃ left, method.run object = some (.ok (), left) ∧ request = wrap left := by
  obtain ⟨⟨result, left⟩, inner, outer⟩ := Option.bind_eq_some_iff.mp ran
  obtain ⟨rfl, rfl⟩ := Prod.mk.inj (Option.some.inj outer)
  exact ⟨left, inner, rfl⟩

/-- What is left of a packet that asks for a read. -/
theorem Request.BaseReadBits.exists_of_decode [Struc]
    (supported : function ∈ FunctionCode.supported) {object left : BaseReadBits function}
    (ran : (decode packet).run object = some (.ok (), left)) :
    ∃ (header : Header) (address count : UInt16),
      left = ⟨header.adu function, address, count⟩ := by
  obtain ⟨header, received⟩ := exists_received_of_decoding supported ran
  rw [run_decode received supported] at ran
  obtain ⟨⟨address, count, ⟨⟩⟩, -, made⟩ := Option.map_eq_some_iff.mp ran
  obtain ⟨-, rfl⟩ := Prod.mk.inj made
  exact ⟨header, address, count, rfl⟩

theorem Request.BaseReadRegisters.exists_of_decode [Struc]
    (supported : function ∈ FunctionCode.supported) {object left : BaseReadRegisters function}
    (ran : (decode packet).run object = some (.ok (), left)) :
    ∃ (header : Header) (address count : UInt16),
      left = ⟨header.adu function, address, count⟩ := by
  obtain ⟨header, received⟩ := exists_received_of_decoding supported ran
  rw [run_decode received supported] at ran
  obtain ⟨⟨address, count, ⟨⟩⟩, -, made⟩ := Option.map_eq_some_iff.mp ran
  obtain ⟨-, rfl⟩ := Prod.mk.inj made
  exact ⟨header, address, count, rfl⟩

theorem Request.WriteSingleCoil.exists_of_decode [Struc] {object left : WriteSingleCoil}
    (own : object.function = .writeSingleCoil)
    (ran : (decode packet).run object = some (.ok (), left)) :
    ∃ (header : Header) (address word : UInt16), checkBitsValue word = true ∧
      left = ⟨header.adu .writeSingleCoil, address, ⟨word⟩⟩ := by
  obtain ⟨header, received⟩ := exists_received_of_decoding_own (by decide) own ran
  rw [run_decode received object own] at ran
  obtain ⟨⟨address, word, ⟨⟩⟩, -, made⟩ := Option.map_eq_some_iff.mp ran
  cases checked : checkBitsValue word with
  | true =>
      obtain ⟨-, rfl⟩ := Prod.mk.inj ((if_pos checked).symm.trans made)
      exact ⟨header, address, word, checked, rfl⟩
  | false => simp [checked] at made

theorem Request.WriteSingleRegister.exists_of_decode [Struc]
    {object left : WriteSingleRegister} (own : object.function = .writeSingleRegister)
    (ran : (decode packet).run object = some (.ok (), left)) :
    ∃ (header : Header) (address value : UInt16),
      left = ⟨header.adu .writeSingleRegister, address, value⟩ := by
  obtain ⟨header, received⟩ := exists_received_of_decoding_own (by decide) own ran
  rw [run_decode received object own] at ran
  obtain ⟨⟨address, value, ⟨⟩⟩, -, made⟩ := Option.map_eq_some_iff.mp ran
  obtain ⟨-, rfl⟩ := Prod.mk.inj made
  exact ⟨header, address, value, rfl⟩

/-- The values of a write are resized before `decode` returns. -/
theorem Request.WriteMultipleCoils.exists_of_decode [Struc]
    {object left : WriteMultipleCoils} (own : object.function = .writeMultipleCoils)
    (ran : (decode packet).run object = some (.ok (), left)) :
    ∃ (header : Header) (address count : UInt16) (values : Values Bool count)
      (byteCount : UInt8),
      left = ⟨header.adu .writeMultipleCoils, address, count, values, byteCount⟩ := by
  obtain ⟨header, received⟩ := exists_received_of_decoding_own (by decide) own ran
  rw [run_decode received object own] at ran
  obtain ⟨⟨address, count, byteCount, ⟨⟩⟩, -, made⟩ := Option.map_eq_some_iff.mp ran
  obtain ⟨-, rfl⟩ := Prod.mk.inj made
  exact ⟨header, address, count, ⟨_, length_resize _ _ _⟩, byteCount, rfl⟩

theorem Request.WriteMultipleRegisters.exists_of_decode [Struc]
    {object left : WriteMultipleRegisters} (own : object.function = .writeMultipleRegisters)
    (ran : (decode packet).run object = some (.ok (), left)) :
    ∃ (header : Header) (address count : UInt16) (values : Values UInt16 count),
      left = ⟨header.adu .writeMultipleRegisters, address, count, values⟩ := by
  obtain ⟨header, received⟩ := exists_received_of_decoding_own (by decide) own ran
  rw [run_decode received object own] at ran
  obtain ⟨⟨address, count, byteCount, ⟨⟩⟩, -, made⟩ := Option.bind_eq_some_iff.mp ran
  by_cases sized : byteCount.toNat = 2 * (count.toNat % 128)
  · obtain ⟨words, -, built⟩ := Option.map_eq_some_iff.mp ((if_pos sized).symm.trans made)
    obtain ⟨-, rfl⟩ := Prod.mk.inj built
    exact ⟨header, address, count, ⟨_, length_resize _ _ _⟩, rfl⟩
  · simp [sized] at made

theorem Request.MaskWriteRegister.exists_of_decode [Struc] {object left : MaskWriteRegister}
    (own : object.function = .maskWriteRegister)
    (ran : (decode packet).run object = some (.ok (), left)) :
    ∃ (header : Header) (address andMask orMask : UInt16),
      left = ⟨header.adu .maskWriteRegister, address, andMask, orMask⟩ := by
  obtain ⟨header, received⟩ := exists_received_of_decoding_own (by decide) own ran
  rw [run_decode received object own] at ran
  obtain ⟨⟨address, andMask, orMask, ⟨⟩⟩, -, made⟩ := Option.map_eq_some_iff.mp ran
  obtain ⟨-, rfl⟩ := Prod.mk.inj made
  exact ⟨header, address, andMask, orMask, rfl⟩

theorem Request.ReadWriteMultipleRegisters.exists_of_decode [Struc]
    {object left : ReadWriteMultipleRegisters}
    (own : object.function = .readWriteMultipleRegisters)
    (ran : (decode packet).run object = some (.ok (), left)) :
    ∃ (header : Header) (readAddress readCount writeAddress writeCount : UInt16)
      (values : Values UInt16 writeCount),
      left = ⟨header.adu .readWriteMultipleRegisters, readAddress, readCount, writeAddress,
        writeCount, values⟩ := by
  obtain ⟨header, received⟩ := exists_received_of_decoding_own (by decide) own ran
  rw [run_decode received object own] at ran
  obtain ⟨⟨readAddress, readCount, writeAddress, writeCount, byteCount, ⟨⟩⟩, -, made⟩ :=
    Option.bind_eq_some_iff.mp ran
  by_cases sized : byteCount.toNat = 2 * (writeCount.toNat % 128)
  · obtain ⟨words, -, built⟩ := Option.map_eq_some_iff.mp ((if_pos sized).symm.trans made)
    obtain ⟨-, rfl⟩ := Prod.mk.inj built
    exact ⟨header, readAddress, readCount, writeAddress, writeCount,
      ⟨_, length_resize _ _ _⟩, rfl⟩
  · simp [sized] at made

variable [Struc]

/-- Every object that a successful `decode` leaves stands for a command. -/
theorem stands_of_decode {object : ClientRequest} {request : RequestObject}
    (decoded : (RequestObject.decode packet).run object.val = some (.ok (), request)) :
    ∃ header command, Stands header request command := by
  rcases object with ⟨object, own⟩
  cases object with
  | readCoils object =>
      obtain ⟨left, ran, rfl⟩ := exists_run_of_override decoded
      obtain ⟨header, address, count, rfl⟩ :=
        Request.BaseReadBits.exists_of_decode (by decide) ran
      exact ⟨header, _, .readCoils address count⟩
  | readDiscreteInputs object =>
      obtain ⟨left, ran, rfl⟩ := exists_run_of_override decoded
      obtain ⟨header, address, count, rfl⟩ :=
        Request.BaseReadBits.exists_of_decode (by decide) ran
      exact ⟨header, _, .readDiscreteInputs address count⟩
  | readHoldingRegisters object =>
      obtain ⟨left, ran, rfl⟩ := exists_run_of_override decoded
      obtain ⟨header, address, count, rfl⟩ :=
        Request.BaseReadRegisters.exists_of_decode (by decide) ran
      exact ⟨header, _, .readHoldingRegisters address count⟩
  | readInputRegisters object =>
      obtain ⟨left, ran, rfl⟩ := exists_run_of_override decoded
      obtain ⟨header, address, count, rfl⟩ :=
        Request.BaseReadRegisters.exists_of_decode (by decide) ran
      exact ⟨header, _, .readInputRegisters address count⟩
  | writeSingleCoil object =>
      obtain ⟨left, ran, rfl⟩ := exists_run_of_override decoded
      obtain ⟨header, address, word, checked, rfl⟩ :=
        Request.WriteSingleCoil.exists_of_decode own ran
      exact ⟨header, _, .writeSingleCoil address word checked⟩
  | writeSingleRegister object =>
      obtain ⟨left, ran, rfl⟩ := exists_run_of_override decoded
      obtain ⟨header, address, value, rfl⟩ :=
        Request.WriteSingleRegister.exists_of_decode own ran
      exact ⟨header, _, .writeSingleRegister address value⟩
  | writeMultipleCoils object =>
      obtain ⟨left, ran, rfl⟩ := exists_run_of_override decoded
      obtain ⟨header, address, count, values, byteCount, rfl⟩ :=
        Request.WriteMultipleCoils.exists_of_decode own ran
      exact ⟨header, _, .writeMultipleCoils address count values byteCount⟩
  | writeMultipleRegisters object =>
      obtain ⟨left, ran, rfl⟩ := exists_run_of_override decoded
      obtain ⟨header, address, count, values, rfl⟩ :=
        Request.WriteMultipleRegisters.exists_of_decode own ran
      exact ⟨header, _, .writeMultipleRegisters address count values⟩
  | maskWriteRegister object =>
      obtain ⟨left, ran, rfl⟩ := exists_run_of_override decoded
      obtain ⟨header, address, andMask, orMask, rfl⟩ :=
        Request.MaskWriteRegister.exists_of_decode own ran
      exact ⟨header, _, .maskWriteRegister address andMask orMask⟩
  | readWriteMultipleRegisters object =>
      obtain ⟨left, ran, rfl⟩ := exists_run_of_override decoded
      obtain ⟨header, readAddress, readCount, writeAddress, writeCount, values, rfl⟩ :=
        Request.ReadWriteMultipleRegisters.exists_of_decode own ran
      exact ⟨header, _,
        .readWriteMultipleRegisters readAddress readCount writeAddress writeCount values⟩

/-- What `execute` lets through is encoded: nothing is thrown, and the packet has the
size that the request expects. -/
theorem encode_of_execute {object : ClientRequest} {request : RequestObject}
    {response : ResponseObject} {table : Table}
    (decoded : (RequestObject.decode packet).run object.val = some (.ok (), request))
    (executed : request.execute table = .ok response) :
    ∃ reply left stored,
      ResponseObject.encode.eval response table = ((.ok reply, left), stored) ∧
        reply.length = request.responseSize := by
  obtain ⟨header, command, stands⟩ := stands_of_decode decoded
  rw [stands.execute_eq] at executed
  by_cases admissible : command.Admissible table
  · rw [if_pos admissible] at executed
    obtain rfl := Except.ok.inj executed
    obtain ⟨left, encoded⟩ := stands.eval_encode admissible
    refine ⟨_, left, _, encoded, ?_⟩
    rw [Frame.length_bytes, stands.responseSize_eq admissible, Header.frame_payload]
  · rw [if_neg admissible] at executed
    cases executed

end Decoding

/-- One register is written and two are read, one of them the one just written. -/
theorem encode_of_execute_both :
    ∃ reply left stored,
      (@ResponseObject.encode Struc.documented).eval
          (.readWriteMultipleRegisters (.new
            ⟨Header.adu ⟨1, 13, 1⟩ .readWriteMultipleRegisters, 0, 2, 1, 1, [0xABCD]⟩))
          (Table.cleared 4) = ((.ok reply, left), stored) ∧ reply.length = 13 :=
  @encode_of_execute
    (ByteBuffer.guarded
      [0, 1, 0, 0, 0, 13, 1, 0x17, 0, 0, 0, 2, 0, 1, 0, 1, 2, 0xAB, 0xCD])
    Struc.documented ⟨.readWriteMultipleRegisters (.new 0 1 0 1 []), rfl⟩
    (.readWriteMultipleRegisters
      ⟨Header.adu ⟨1, 13, 1⟩ .readWriteMultipleRegisters, 0, 2, 1, 1, [0xABCD]⟩)
    _ _ rfl rfl

end ModbusCpp
