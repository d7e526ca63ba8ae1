import ModbusCpp.Exchange
import ModbusCpp.RequestPackets

/-!
# Coil round trips

What becomes of the coils that a client writes.  The reply for a single coil
is packed from its old value, so it is the echo that the client waits for only
if nothing changed; and the byte count of a request for several coils is
computed from the low eight bits of their number, so the request refuses to be
encoded for 256 coils and more.
-/

namespace ModbusCpp

open Method StructFormat

/-- The coils from `address` on hold the values, and all else is as before. -/
def Table.CoilsSet (before after : Table) (address : UInt16) (values : List Bool) : Prop :=
  after.coils.cell = AddressMap.write before.coils.cell address.toNat values ∧
    after = { before with coils := after.coils }

theorem Table.coilsSet_write {table : Table} {address : UInt16} {values : List Bool}
    (inside : table.coils.Contains address values.length) :
    table.CoilsSet { table with coils := table.coils.write address values } address values :=
  ⟨Block.Sequential.cell_write inside, rfl⟩

section SingleCoil

variable {client : Adu.Initializer} {table : Table} {address : UInt16} {value old : Bool}
  {behind : Nat → Option UInt8}

/-- A reply is taken if it shows the requested value. -/
theorem Response.WriteSingleCoil.run_decodePassed [Struc] {packet : ByteBuffer}
    (sized : packet.size = 12)
    (decoded : StructFormat.decode packet.read 8 [.H, .H] =
      some (address, Command.coilWord old, ())) (base : Response) (adu : Adu) :
    ∃ left, (decodePassed packet).run
        ⟨base, ⟨adu, address, ⟨Command.coilWord value⟩⟩, .off⟩ =
      some (if old = value then .ok () else .error Exn.badData, left) := by
  have expected : Request.WriteSingleCoil.responseSize
      ⟨adu, address, ⟨Command.coilWord value⟩⟩ = 12 := rfl
  by_cases kept : old = value
  · subst kept
    simp [decodePassed, decodingPassed, Adu.headerLength, format, sized, expected, decoded]
  · have differs : Command.coilWord value ≠ Command.coilWord old :=
      fun equal => kept (coilWord_injective equal).symm
    simp [decodePassed, decodingPassed, Adu.headerLength, format, sized, expected, decoded,
      checkBitsValue_coilWord, differs, kept]

end SingleCoil

namespace Request.WriteSingleCoil

/-- A request object that a client has initialized. -/
def forClient (client : Adu.Initializer) (address : UInt16) (value : Bool) : WriteSingleCoil :=
  { new address (if value then .on else .off) with
    toAdu := (Adu.new .writeSingleCoil).initializeWith client }

theorem run_encode [Struc] (client : Adu.Initializer) (address : UInt16) (value : Bool) :
    encode.run (forClient client address value) =
      some (.ok (client.frame .writeSingleCoil
          (wordBytes [address, Command.coilWord value])).bytes,
        ⟨(client.header (wordBytes [address, Command.coilWord value])).adu .writeSingleCoil,
          address, ⟨Command.coilWord value⟩⟩) := by
  simp [encode, forClient, new, Adu.initializeWith, Adu.new, dataLength, StructFormat.encode,
    Command.coilWord, client.headerPacket_words]
  rfl

end Request.WriteSingleCoil

variable {client : Adu.Initializer} {address : UInt16} {value old : Bool} {table : Table}
  {behindRequest behindReply : Nat → Option UInt8}

/-- Writing the coil sets it, is answered with the echo of the request and
accepted by the client. -/
def WritesCoil [Struc] (client : Adu.Initializer) (address : UInt16) (value : Bool)
    (behindRequest behindReply : Nat → Option UInt8) (table : Table) : Prop :=
  ∃ seen, exchange Request.WriteSingleCoil.encode Response.WriteSingleCoil.new
      Response.WriteSingleCoil.decode behindRequest behindReply
      (Request.WriteSingleCoil.forClient client address value) table = some (.ok seen) ∧
    table.CoilsSet seen.stored address [value] ∧
    seen.reply = seen.sent ∧
    seen.decoded = .ok ()

/-- The coil is set in any case; the reply shows what it was before. -/
theorem Request.WriteSingleCoil.run_exchange [Struc] (client : Adu.Initializer)
    (value : Bool) (held : table.coils.cell address.toNat = some old) :
    ∃ seen, exchange encode Response.WriteSingleCoil.new Response.WriteSingleCoil.decode
        behindRequest behindReply (forClient client address value) table = some (.ok seen) ∧
      table.CoilsSet seen.stored address [value] ∧
      (seen.reply = seen.sent ↔ old = value) ∧
      seen.decoded = (if old = value then .ok () else .error Exn.badData) := by
  have inside := Block.Sequential.contains_of_cell held
  have replied : (Command.writeSingleCoil address value).reply table =
      wordBytes [address, Command.coilWord old] := by
    rw [Command.reply, Block.Sequential.read_of_cell held]
    rfl
  have sized : ByteBuffer.size ⟨(client.frame .writeSingleCoil (wordBytes [address,
      Command.coilWord old])).bytes, behindReply⟩ = 12 := by
    simp [ByteBuffer.size, Code.width]
  obtain ⟨left, passed⟩ := Response.WriteSingleCoil.run_decodePassed sized
    (Frame.decode_words rfl behindReply) _ _
  refine ⟨_, exchange_run (run_encode client address value)
    (parse_writeSingleCoil (Frame.decode_words rfl behindRequest)) inside replied
    (Response.run_decode (by decide) (by simp [Code.width]) behindReply rfl passed
      (by split <;> simp)),
    Table.coilsSet_write inside, ⟨fun echoed => ?_, fun kept => by rw [kept]⟩, rfl⟩
  have words := wordBytes_injective (Frame.payload_eq_of_bytes_eq echoed)
  exact coilWord_injective (by simpa using words)

/-- The coil is echoed and accepted exactly if it held the value before. -/
theorem writesCoil_iff [Struc] (client : Adu.Initializer) (value : Bool)
    (held : table.coils.cell address.toNat = some old) :
    WritesCoil client address value behindRequest behindReply table ↔ old = value := by
  obtain ⟨seen, ran, set, echoed, decoded⟩ :=
    Request.WriteSingleCoil.run_exchange client value held
  constructor
  · rintro ⟨other, otherRan, -, otherEchoed, -⟩
    obtain rfl := Exchange.unique ran otherRan
    exact echoed.mp otherEchoed
  · intro kept
    rw [if_pos kept] at decoded
    exact ⟨seen, ran, set, echoed.mpr kept, decoded⟩

theorem writesCoil_off :
    @WritesCoil Struc.documented ⟨1, 1⟩ 3 false (fun _ => none) (fun _ => none)
        (Table.cleared 8) ↔ false = false :=
  @writesCoil_iff _ _ _ _ _ Struc.documented _ _ rfl

/-- Switching on a coil that is off is answered with the word for off. -/
theorem not_writesCoil_on :
    (Table.cleared 8).coils.Contains 3 1 ∧
      ¬ @WritesCoil Struc.documented ⟨1, 1⟩ 3 true (fun _ => none) (fun _ => none)
        (Table.cleared 8) := by
  refine ⟨by decide, ?_⟩
  rintro ⟨seen, ran, -, echoed, -⟩
  have reply : seen.reply = [0, 1, 0, 0, 0, 6, 1, 5, 0, 3, 0, 0] :=
    Exchange.observed Exchange.reply ran rfl
  have sent : seen.sent = [0, 1, 0, 0, 0, 6, 1, 5, 0, 3, 0xFF, 0] :=
    Exchange.observed Exchange.sent ran rfl
  rw [reply, sent] at echoed
  revert echoed
  decide

namespace Request.WriteMultipleCoils

variable {client : Adu.Initializer} {address count : UInt16} {values : List Bool}

theorem toNat_byteCountOf (count : UInt16) :
    (byteCountOf count).toNat = (count.toNat % 256 + 7) / 8 := by
  have rounded (low : UInt8) :
      (if low % 8 ≠ 0 then low / 8 + 1 else low / 8).toNat = (low.toNat + 7) / 8 := by
    rcases low with ⟨low⟩
    revert low
    decide +kernel
  have low := rounded count.toUInt8
  rw [UInt16.toNat_toUInt8] at low
  exact low

/-- The low eight bits of a quantity give its byte count only if there are no
others. -/
theorem byteCountOf_agrees_iff (count : UInt16) :
    (byteCountOf count).toNat = (count.toNat + 7) / 8 ↔ count.toNat < 256 := by
  rw [toNat_byteCountOf]
  omega

/-- A request object that a client has initialized. -/
def forClient (client : Adu.Initializer) (address count : UInt16) (values : List Bool) :
    WriteMultipleCoils :=
  { new address count values with
    toAdu := (Adu.new .writeMultipleCoils).initializeWith client }

/-- The bytes of the request behind its function. -/
def payload (address count : UInt16) (values : List Bool) : Packet :=
  StructFormat.encode format (address, count, byteCountOf count, ()) ++ packBits values

theorem length_payload (lengthEq : values.length = count.toNat) :
    (payload address count values).length = 5 + (count.toNat + 7) / 8 := by
  simp [payload, width, Code.width, lengthEq]

theorem run_encode [Struc] (client : Adu.Initializer) (address : UInt16)
    (lengthEq : values.length = count.toNat) (small : count.toNat < 256) :
    encode.run (forClient client address count values) =
      some (.ok (client.frame .writeMultipleCoils (payload address count values)).bytes,
        ⟨(client.header (payload address count values)).adu .writeMultipleCoils, address, count,
          values, byteCountOf count⟩) := by
  have agrees := (byteCountOf_agrees_iff count).mpr small
  have counted : Adu.calcLength (5 + (byteCountOf count).toUInt16) =
      UInt16.ofNat ((payload address count values).length + 2) := by
    apply UInt16.toNat_inj.mp
    simp [Adu.calcLength, length_payload lengthEq, agrees]
    omega
  have framed : Adu.headerPacket ⟨.writeMultipleCoils,
        FunctionCode.writeMultipleCoils.toUnderlying, client.transaction,
        Adu.calcLength (5 + (byteCountOf count).toUInt16), client.unit⟩ ++
        payload address count values =
      (client.frame .writeMultipleCoils (payload address count values)).bytes :=
    Adu.Initializer.headerPacket_append counted
  have sized : 8 + (2 + (2 + ((count.toNat + 7) / 8 + 1))) =
      (5 + (byteCountOf count).toNat) % 65536 + 7 + 1 := by
    omega
  simp only [payload, StructFormat.encode, Code.encode_byte, List.append_assoc, List.cons_append,
    List.nil_append] at framed counted ⊢
  simp [encode, forClient, new, Adu.initializeWith, Adu.new, StructFormat.encode, dataLength,
    byteCount, Adu.headerLength, Code.width, lengthEq, framed, sized]
  rw [counted]
  rfl

/-- From 256 coils on the byte count is too small for the coils, and nothing is
sent. -/
theorem run_encode_large [Struc] (client : Adu.Initializer) (address : UInt16)
    (lengthEq : values.length = count.toNat) (large : 256 ≤ count.toNat) :
    ∃ left, encode.run (forClient client address count values) =
      some (.error Exn.badData, left) := by
  have bytes := toNat_byteCountOf count
  have sized : ¬ 8 + (2 + (2 + ((count.toNat + 7) / 8 + 1))) =
      (5 + (byteCountOf count).toNat) % 65536 + 7 + 1 := by
    omega
  simp [encode, forClient, new, Adu.initializeWith, Adu.new, StructFormat.encode, dataLength,
    byteCount, Adu.headerLength, Code.width, lengthEq, sized]

end Request.WriteMultipleCoils

section MultipleCoils

variable {address count : UInt16} {packet : ByteBuffer}

/-- A reply is taken if it repeats the address and the quantity. -/
theorem Response.WriteMultipleCoils.run_decodePassed [Struc] (sized : packet.size = 12)
    (decoded : StructFormat.decode packet.read 8 [.H, .H] = some (address, count, ()))
    (base : Response) (adu : Adu) (values : List Bool) (byteCount : UInt8) :
    (decodePassed packet).run ⟨base, ⟨adu, address, count, values, byteCount⟩, 0, 1⟩ =
      some (.ok (), ⟨base, ⟨adu, address, count, values, byteCount⟩, address, count⟩) := by
  have expected : Request.WriteMultipleCoils.responseSize
      ⟨adu, address, count, values, byteCount⟩ = 12 := rfl
  simp [decodePassed, decodingPassed, Adu.headerLength, format, sized, expected, decoded]

end MultipleCoils

variable {count : UInt16} {values : List Bool}

/-- The client encodes the request and accepts the answer, which repeats the
request's address and quantity, and the coils are set. -/
def WritesCoils [Struc] (client : Adu.Initializer) (address count : UInt16)
    (values : List Bool) (behindRequest behindReply : Nat → Option UInt8)
    (table : Table) : Prop :=
  ∃ seen, exchange Request.WriteMultipleCoils.encode Response.WriteMultipleCoils.new
      Response.WriteMultipleCoils.decode behindRequest behindReply
      (Request.WriteMultipleCoils.forClient client address count values) table =
        some (.ok seen) ∧
    table.CoilsSet seen.stored address values ∧
    seen.decoded = .ok () ∧
    seen.response.address = address ∧ seen.response.count = count

theorem Request.WriteMultipleCoils.run_exchange [Struc] (client : Adu.Initializer)
    (counted : NumBits.validate true count = true) (lengthEq : values.length = count.toNat)
    (inside : table.coils.Contains address count.toNat) (small : count.toNat < 256) :
    WritesCoils client address count values behindRequest behindReply table := by
  have layout : (client.frame .writeMultipleCoils (payload address count values)).payload =
      StructFormat.encode format (address, count, byteCountOf count, ()) ++ packBits values :=
    rfl
  have carried : (client.frame .writeMultipleCoils
      (payload address count values)).bytes.drop 13 = packBits values :=
    Frame.drop_payload layout
  have sized : ByteBuffer.size ⟨(client.frame .writeMultipleCoils
      (wordBytes [address, count])).bytes, behindReply⟩ = 12 := by
    simp [ByteBuffer.size, Code.width]
  have passed := Response.WriteMultipleCoils.run_decodePassed sized
    (Frame.decode_words rfl behindReply)
  refine ⟨_, exchange_run (run_encode client address lengthEq small)
    (parse_writeMultipleCoils ⟨values, lengthEq⟩ (Frame.decode_payload rfl behindRequest)
      carried)
    ⟨counted, inside⟩ rfl
    (Response.run_decode (by decide) (by simp [Code.width, Command.reply]) behindReply rfl
      (passed _ _ _ _) (by simp)), ?_, rfl, rfl, rfl⟩
  rw [← lengthEq] at inside
  exact Table.coilsSet_write inside

/-- Several coils can be written exactly when there are less than 256 of them. -/
theorem writesCoils_iff [Struc] (client : Adu.Initializer) (atLeast : 1 ≤ count.toNat)
    (atMost : count.toNat ≤ 1968) (lengthEq : values.length = count.toNat)
    (inside : table.coils.Contains address count.toNat) :
    WritesCoils client address count values behindRequest behindReply table ↔
      count.toNat < 256 := by
  constructor
  · rintro ⟨seen, ran, -⟩
    by_contra large
    obtain ⟨left, refused⟩ := Request.WriteMultipleCoils.run_encode_large client address
      lengthEq (Nat.le_of_not_lt large)
    simp [exchange, refused] at ran
  · intro small
    exact Request.WriteMultipleCoils.run_exchange client
      ((NumBits.validate_write_iff count).mpr ⟨atLeast, atMost⟩) lengthEq inside small

theorem writesCoils_three :
    @WritesCoils Struc.documented ⟨1, 1⟩ 2 3 [true, false, true] (fun _ => none)
        (fun _ => none) (Table.cleared 8) ↔ (3 : UInt16).toNat < 256 :=
  @writesCoils_iff _ _ _ _ _ _ Struc.documented _ (by decide) (by decide) rfl (by decide)

/-- A request for 256 coils is not even encoded. -/
theorem not_writesCoils :
    (List.replicate 256 true).length = (256 : UInt16).toNat ∧
      (Table.cleared 256).coils.Contains 0 256 ∧
      ¬ @WritesCoils Struc.documented ⟨1, 1⟩ 0 256 (List.replicate 256 true)
        (fun _ => none) (fun _ => none) (Table.cleared 256) := by
  refine ⟨List.length_replicate, by decide, ?_⟩
  rintro ⟨seen, ran, -⟩
  have refused : (some (Except.ok seen)).map (Except.map fun _ => ()) =
      some (.error Exn.badData : Except Exn Unit) := by
    rw [← ran]
    decide +kernel
  cases refused

end ModbusCpp
