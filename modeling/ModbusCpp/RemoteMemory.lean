import ModbusCpp.CoilRoundTrips
import ModbusCpp.Memory
import ModbusCpp.ReadRoundTrips
import ModbusCpp.RegisterRoundTrips
import ModbusCpp.ReplyStages
import ModbusCpp.Transitions

/-!
# The memory behind the network

What a client makes of a server: it encodes a request for a command, the server
handles it, and the client decodes the reply.  What it is told, and what is
left of it, is what a memory of four maps says about the command, over every
run of such calls and of packets from others.
-/

namespace ModbusCpp

open Method RequestHandler StructFormat

/-- What a client reads off a response object that has accepted a reply. -/
inductive Shown
  | nothing
  | bits (values : List Bool)
  | registers (values : List UInt16)

/-- `request.encode()`, `handle`, `response(&request)` and `response.decode`:
what the client is told, and the table that the server is left with. -/
def callServer [Struc] {ρ θ : Type} (encode : Member ρ Packet) (responseFor : ρ → θ)
    (decode : ByteBuffer → Member θ Unit) (shown : θ → Shown)
    (behindRequest behindReply : Nat → Option UInt8) (request : ρ) (table : Table) :
    Option (Except Exn Shown × Table) := do
  let (encoded, request) ← encode.run request
  match encoded with
  | .error failure => some (.error failure, table)
  | .ok sent => do
      let (answered, stored) ← (handle ⟨sent, behindRequest⟩).run table
      match answered with
      | .error failure => some (.error failure, stored)
      | .ok reply => do
          let (decoded, response) ← (decode ⟨reply, behindReply⟩).run (responseFor request)
          some (decoded.map fun _ => shown response, stored)

/-- A command that a client calls for, and what lies behind the two packets in
memory. -/
structure Call where
  client : Adu.Initializer
  command : Command
  behindRequest : Nat → Option UInt8
  behindReply : Nat → Option UInt8

/-- The request object for the command, and the response object for that. -/
def Call.remote [Struc] : Call → Table → Option (Except Exn Shown × Table)
  | ⟨client, .readBits block address count, behindRequest, behindReply⟩ =>
      callServer Request.BaseReadBits.encode Response.BaseReadBits.new
        Response.BaseReadBits.decode (fun response => .bits response.bits) behindRequest
        behindReply (.forClient client address count : Request.BaseReadBits block.function)
  | ⟨client, .readRegisters block address count, behindRequest, behindReply⟩ =>
      callServer Request.BaseReadRegisters.encode Response.BaseReadRegisters.new
        Response.BaseReadRegisters.decode (fun response => .registers response.registers)
        behindRequest behindReply
        (.forClient client address count : Request.BaseReadRegisters block.function)
  | ⟨client, .writeSingleCoil address value, behindRequest, behindReply⟩ =>
      callServer Request.WriteSingleCoil.encode Response.WriteSingleCoil.new
        Response.WriteSingleCoil.decode (fun _ => .nothing) behindRequest behindReply
        (.forClient client address value)
  | ⟨client, .writeSingleRegister address value, behindRequest, behindReply⟩ =>
      callServer Request.WriteSingleRegister.encode Response.WriteSingleRegister.new
        Response.WriteSingleRegister.decode (fun _ => .nothing) behindRequest behindReply
        (.forClient client address value)
  | ⟨client, .writeMultipleCoils address count values, behindRequest, behindReply⟩ =>
      callServer Request.WriteMultipleCoils.encode Response.WriteMultipleCoils.new
        Response.WriteMultipleCoils.decode (fun _ => .nothing) behindRequest behindReply
        (.forClient client address count values)
  | ⟨client, .writeMultipleRegisters address count values, behindRequest, behindReply⟩ =>
      callServer Request.WriteMultipleRegisters.encode Response.WriteMultipleRegisters.new
        Response.WriteMultipleRegisters.decode (fun _ => .nothing) behindRequest behindReply
        (.forClient client address count values)
  | ⟨client, .maskWriteRegister address andMask orMask, behindRequest, behindReply⟩ =>
      callServer Request.MaskWriteRegister.encode Response.MaskWriteRegister.new
        Response.MaskWriteRegister.decode (fun _ => .nothing) behindRequest behindReply
        (.forClient client address andMask orMask)
  | ⟨client, .readWriteMultipleRegisters readAddress readCount writeAddress writeCount values,
      behindRequest, behindReply⟩ =>
      callServer Request.ReadWriteMultipleRegisters.encode
        Response.ReadWriteMultipleRegisters.new Response.ReadWriteMultipleRegisters.decode
        (fun response => .registers response.registers) behindRequest behindReply
        (.forClient client readAddress readCount writeAddress writeCount values)

namespace Memory

/-- A run of registers, if all of them are there. -/
def run (memory : Memory) (which : RegisterBlock) (address count : UInt16) : List UInt16 :=
  (AddressMap.slice (memory.registers which) address.toNat count.toNat).getD []

end Memory

namespace Command

/-- The byte count that is computed for the values is too small for them, and
the request is not encoded. -/
def Unsendable : Command → Prop
  | writeMultipleCoils _ count _ => 256 ≤ count.toNat
  | writeMultipleRegisters _ count _ => 128 ≤ count.toNat
  | readWriteMultipleRegisters _ _ _ writeCount _ => 128 ≤ writeCount.toNat
  | _ => False

instance : DecidablePred Unsendable
  | writeMultipleCoils _ count _ => inferInstanceAs (Decidable (256 ≤ count.toNat))
  | writeMultipleRegisters _ count _ => inferInstanceAs (Decidable (128 ≤ count.toNat))
  | readWriteMultipleRegisters _ _ _ writeCount _ =>
      inferInstanceAs (Decidable (128 ≤ writeCount.toNat))
  | readBits _ _ _ | readRegisters _ _ _ | writeSingleCoil _ _ | writeSingleRegister _ _
  | maskWriteRegister _ _ _ => inferInstanceAs (Decidable False)

/-- What the client makes of the reply to a command that takes the memory from
`before` to `after`.  It refuses bits, 64 registers and more, and a coil that
was another one before. -/
def told (before after : Memory) : Command → Except Exn Shown
  | readBits _ _ _ => .error Exn.badData
  | readRegisters block address count =>
      if count.toNat < 64 then .ok (.registers (after.run block address count))
      else .error Exn.badData
  | writeSingleCoil address value =>
      if before.bits .coils address.toNat = some value then .ok .nothing
      else .error Exn.badData
  | readWriteMultipleRegisters readAddress readCount _ _ _ =>
      .ok (.registers (after.run .holdingRegisters readAddress readCount))
  | _ => .ok .nothing

/-- The call of a command on a memory.  An exception that the server answers
with is thrown by the client, in its bare form. -/
def onMemory (command : Command) (memory : Memory) : Except Exn Shown × Memory :=
  if command.Unsendable then (.error Exn.badData, memory)
  else
    match command.answer memory with
    | some (_, stored) => (command.told memory stored, stored)
    | none => (.error .stdException, memory)

end Command

section Calls

variable [Struc] {ρ θ : Type} {encode : Member ρ Packet} {responseFor : ρ → θ}
  {decode : ByteBuffer → Member θ Unit} {shown : θ → Shown}
  {behindRequest behindReply : Nat → Option UInt8} {request left : ρ} {table : Table}

/-- A request that is not encoded does not reach the server. -/
theorem callServer_unsendable {command : Command} (unsendable : command.Unsendable)
    (refused : ∃ left, encode.run request = some (.error Exn.badData, left)) :
    (callServer encode responseFor decode shown behindRequest behindReply request table).map
        (Prod.map id Table.memory) =
      some (command.onMemory table.memory) := by
  obtain ⟨left, refused⟩ := refused
  rw [Command.onMemory, if_pos unsendable]
  simp [callServer, refused]

/-- A call that was run is an exchange. -/
theorem callServer_of_exchange {seen : Exchange θ}
    (ran : exchange encode responseFor decode behindRequest behindReply request table =
      some (.ok seen)) :
    callServer encode responseFor decode shown behindRequest behindReply request table =
      some (seen.decoded.map fun _ => shown seen.response, seen.stored) := by
  cases encoded : encode.run request with
  | none => simp [exchange, encoded] at ran
  | some first =>
      rcases first with ⟨failure | sent, left⟩
      · simp [exchange, encoded] at ran
      · cases handled : (handle ⟨sent, behindRequest⟩).run table with
        | none => simp [exchange, encoded, handled] at ran
        | some second =>
            rcases second with ⟨failure | reply, stored⟩
            · simp [exchange, encoded, handled] at ran
            · cases decoded : (decode ⟨reply, behindReply⟩).run (responseFor left) with
              | none => simp [exchange, encoded, handled, decoded] at ran
              | some third =>
                  simp only [exchange, encoded, handled, decoded, Option.bind_eq_bind,
                    Option.bind_some, Option.some.injEq, Except.ok.injEq] at ran
                  subst ran
                  simp [callServer, encoded, handled, decoded]

variable {client : Adu.Initializer} {payload : Packet} {function : FunctionCode}
  {command : Command}
  (encoded : encode.run request = some (.ok (client.frame function payload).bytes, left))
  (parsed : parse ⟨(client.frame function payload).bytes, behindRequest⟩ function =
    some (.ok command))

include encoded parsed

/-- The server is left as the command leaves it. -/
theorem stored_of_exchange {seen : Exchange θ} (admissible : command.Admissible table)
    (ran : exchange encode responseFor decode behindRequest behindReply request table =
      some (.ok seen)) :
    seen.stored = command.effect table := by
  have handled : (handle ⟨(client.frame function payload).bytes, behindRequest⟩).run table =
      some (.ok (client.frame function (command.reply table)).bytes, command.effect table) := by
    rw [handle_run (Frame.received behindRequest), parsed]
    simp [respond, admissible, Adu.Initializer.frame]
  simp only [exchange, encoded, handled, Option.bind_eq_bind, Option.bind_some] at ran
  obtain ⟨last, -, same⟩ := Option.bind_eq_some_iff.mp ran
  rw [← Except.ok.inj (Option.some.inj same)]

/-- A command that is not admissible is answered with an exception, and the
client throws. -/
theorem callServer_refused {toBase : θ → Response} {replace : Response → θ → θ}
    {decodePassed : ByteBuffer → Member θ Unit} {length : UInt16}
    (supported : function ∈ FunctionCode.supported)
    (own : toBase (responseFor left) =
      Response.base (client.header payload) function length)
    (inadmissible : ¬ command.Admissible table) :
    callServer encode responseFor (Response.decode toBase replace decodePassed) shown
        behindRequest behindReply request table =
      some (.error .stdException, table) := by
  obtain ⟨-, known, -⟩ := FunctionCode.supported_spec function supported
  have handled : (handle ⟨(client.frame function payload).bytes, behindRequest⟩).run table =
      some (.ok (Frame.exception client.transaction client.unit function.toUnderlying
        .illegalDataAddress).bytes, table) := by
    rw [handle_run (Frame.received behindRequest), parsed, Option.map_some,
      respond_inadmissible inadmissible]
    simp [FunctionCode.known, known]
  have answers : Answers ((client.header payload).adu function)
      ⟨(Frame.exception client.transaction client.unit function.toUnderlying
        .illegalDataAddress).bytes, behindReply⟩ (function.toUnderlying + 0x80) := by
    refine ⟨?_, _, Frame.decode_header _ behindReply, ?_⟩ <;>
      simp [ByteBuffer.size, Frame.exception]
  have staged := @Response.run_checkStage_answers _ _ _ (toBase (responseFor left)) _
    (by rw [own]; rfl) (by rw [own]; exact known) answers
  have named : (toBase (responseFor left)).function = function := by
    rw [own]
    rfl
  rw [named, (stageOf_eq_error_iff supported).mpr rfl] at staged
  have coded : (⟨(Frame.exception client.transaction client.unit function.toUnderlying
      .illegalDataAddress).bytes, behindReply⟩ : ByteBuffer).bytes[8]? =
        some ExceptionCode.illegalDataAddress.toUnderlying := rfl
  obtain ⟨⟨_, last⟩, decoded, rfl⟩ := Option.map_eq_some_iff.mp
    (@Response.run_decode_error _ _ _ toBase replace decodePassed _ _ _ staged coded)
  simp [callServer, encoded, handled, decoded, Except.map]

/-- The command is called on the memory of the table if the client is told of
an admissible one what it should be. -/
theorem callServer_memory {toBase : θ → Response} {replace : Response → θ → θ}
    {decodePassed : ByteBuffer → Member θ Unit} {length : UInt16}
    (supported : function ∈ FunctionCode.supported)
    (own : toBase (responseFor left) =
      Response.base (client.header payload) function length)
    (sendable : ¬ command.Unsendable)
    (taken : command.Admissible table → ∃ seen,
      exchange encode responseFor (Response.decode toBase replace decodePassed) behindRequest
        behindReply request table = some (.ok seen) ∧
      (seen.stored = command.effect table →
        (seen.decoded.map fun _ => shown seen.response) =
          command.told table.memory (command.effect table).memory)) :
    (callServer encode responseFor (Response.decode toBase replace decodePassed) shown
        behindRequest behindReply request table).map (Prod.map id Table.memory) =
      some (command.onMemory table.memory) := by
  rw [Command.onMemory, if_neg sendable]
  by_cases admissible : command.Admissible table
  · obtain ⟨seen, ran, told⟩ := taken admissible
    have stored := stored_of_exchange encoded parsed admissible ran
    rw [callServer_of_exchange ran, told stored, stored, Command.answer_of_admissible admissible]
    rfl
  · rw [callServer_refused encoded parsed supported own admissible,
      Command.answer_of_not_admissible admissible]
    rfl

end Calls

namespace Memory

/-- The registers of a run that lies in its block. -/
theorem run_memory {table : Table} {which : RegisterBlock} {address count : UInt16}
    (inside : (table.registers which).Contains address count.toNat) :
    table.memory.run which address count =
      (table.registers which).read address count.toNat := by
  rw [run, Table.memory, Block.Sequential.slice_cell inside]
  rfl

end Memory

section Large

variable [Struc] {client : Adu.Initializer} {address count : UInt16} {values : List UInt16}

/-- From 128 registers on the byte count is too small for the registers, and
nothing is sent. -/
theorem Request.WriteMultipleRegisters.run_encode_large
    (lengthEq : values.length = count.toNat) (large : 128 ≤ count.toNat) :
    ∃ left, encode.run (forClient client address count values) =
      some (.error Exn.badData, left) := by
  have sized : ¬ 8 + (2 + (2 + (2 * count.toNat + 1))) =
      (5 + 2 * (count.toNat % 128)) % 65536 + 7 + 1 := by
    omega
  simp [encode, forClient, new, Adu.initializeWith, Adu.new, StructFormat.encode, dataLength,
    byteCount, Adu.headerLength, Code.width, packRegisters_eq, lengthEq, sized]

theorem Request.ReadWriteMultipleRegisters.run_encode_large {readAddress readCount : UInt16}
    (lengthEq : values.length = count.toNat) (large : 128 ≤ count.toNat) :
    ∃ left, encode.run (forClient client readAddress readCount address count values) =
      some (.error Exn.badData, left) := by
  have sized : ¬ 8 + (2 + (2 + (2 + (2 + (2 * count.toNat + 1))))) =
      (9 + 2 * (count.toNat % 128)) % 65536 + 7 + 1 := by
    omega
  simp [encode, forClient, new, Adu.initializeWith, Adu.new, StructFormat.encode, dataLength,
    byteCount, Adu.headerLength, Code.width, packRegisters_eq, lengthEq, sized]

end Large

namespace Call

variable [Struc] {client : Adu.Initializer} {behindRequest behindReply : Nat → Option UInt8}

theorem remote_writeMultipleCoils (address count : UInt16) (values : Values Bool count)
    (table : Table) :
    (remote ⟨client, .writeMultipleCoils address count values, behindRequest, behindReply⟩
        table).map (Prod.map id Table.memory) =
      some ((Command.writeMultipleCoils address count values).onMemory table.memory) := by
  rw [remote, Response.WriteMultipleCoils.decode]
  by_cases large : 256 ≤ count.toNat
  · exact callServer_unsendable large
      (Request.WriteMultipleCoils.run_encode_large client address values.property large)
  · have few : count.toNat < 256 := Nat.lt_of_not_le large
    have layout : (client.frame .writeMultipleCoils
        (Request.WriteMultipleCoils.payload address count values)).payload =
          encode Request.WriteMultipleCoils.format
            (address, count, Request.WriteMultipleCoils.byteCountOf count, ()) ++
              packBits values :=
      rfl
    have carried : (client.frame .writeMultipleCoils
        (Request.WriteMultipleCoils.payload address count values)).bytes.drop 13 =
          packBits values :=
      Frame.drop_payload layout
    refine callServer_memory
      (Request.WriteMultipleCoils.run_encode client address values.property few)
      (parse_writeMultipleCoils values (Frame.decode_payload layout behindRequest) carried)
      (by decide) rfl large fun admissible => ?_
    obtain ⟨seen, ran, -, decoded, -⟩ := Request.WriteMultipleCoils.run_exchange client
      admissible.1 values.property admissible.2 few
    exact ⟨seen, ran, fun _ => by rw [decoded]; rfl⟩

theorem remote_writeMultipleRegisters (address count : UInt16) (values : Values UInt16 count)
    (table : Table) :
    (remote ⟨client, .writeMultipleRegisters address count values, behindRequest, behindReply⟩
        table).map (Prod.map id Table.memory) =
      some ((Command.writeMultipleRegisters address count values).onMemory table.memory) := by
  rw [remote, Response.WriteMultipleRegisters.decode]
  by_cases large : 128 ≤ count.toNat
  · exact callServer_unsendable large
      (Request.WriteMultipleRegisters.run_encode_large values.property large)
  · have few : count.toNat < 128 := Nat.lt_of_not_le large
    have layout : (client.frame .writeMultipleRegisters
        (Request.WriteMultipleRegisters.payload address count values)).payload =
          encode Request.WriteMultipleRegisters.format
            (address, count, registerBytes count, ()) ++ (wordBytes values ++ []) := by
      simp [Request.WriteMultipleRegisters.payload]
    refine callServer_memory
      (Request.WriteMultipleRegisters.run_encode client address values.property few)
      (parse_writeMultipleRegisters values few (Frame.decode_payload layout behindRequest)
        (Frame.decodeWords_payload layout behindRequest))
      (by decide) rfl large fun admissible => ?_
    obtain ⟨seen, ran, -, decoded⟩ := Request.WriteMultipleRegisters.run_exchange client
      admissible.1 values.property admissible.2
    exact ⟨seen, ran, fun _ => by rw [decoded]; rfl⟩

theorem remote_readWriteMultipleRegisters (readAddress readCount writeAddress writeCount : UInt16)
    (values : Values UInt16 writeCount) (table : Table) :
    (remote ⟨client, .readWriteMultipleRegisters readAddress readCount writeAddress writeCount
        values, behindRequest, behindReply⟩ table).map (Prod.map id Table.memory) =
      some ((Command.readWriteMultipleRegisters readAddress readCount writeAddress writeCount
        values).onMemory table.memory) := by
  rw [remote, Response.ReadWriteMultipleRegisters.decode]
  by_cases large : 128 ≤ writeCount.toNat
  · exact callServer_unsendable large
      (Request.ReadWriteMultipleRegisters.run_encode_large values.property large)
  · have few : writeCount.toNat < 128 := Nat.lt_of_not_le large
    have layout : (client.frame .readWriteMultipleRegisters
        (Request.ReadWriteMultipleRegisters.payload readAddress readCount writeAddress
          writeCount values)).payload =
          encode Request.ReadWriteMultipleRegisters.format
            (readAddress, readCount, writeAddress, writeCount, registerBytes writeCount, ()) ++
              (wordBytes values ++ []) := by
      simp [Request.ReadWriteMultipleRegisters.payload]
    refine callServer_memory
      (Request.ReadWriteMultipleRegisters.run_encode client readAddress readCount writeAddress
        values.property few)
      (parse_readWriteMultipleRegisters values few (Frame.decode_payload layout behindRequest)
        (Frame.decodeWords_payload layout behindRequest))
      (by decide) rfl large fun admissible => ?_
    rcases admissible with ⟨⟨readable, readInside⟩, writable, writeInside⟩
    obtain ⟨seen, ran, -, decoded, registers⟩ :=
      Request.ReadWriteMultipleRegisters.run_exchange client readable writable
        values.property readInside writeInside
    refine ⟨seen, ran, fun stored => ?_⟩
    have shown := @Memory.run_memory ((Command.readWriteMultipleRegisters readAddress readCount
      writeAddress writeCount values).effect table) .holdingRegisters _ _ readInside
    rw [decoded, registers, Command.told, shown, stored]
    rfl

/-- The step lemma: a call does to the table what the command does to its
memory, and tells the client what follows from that. -/
theorem remote_memory (call : Call) (table : Table) :
    (call.remote table).map (Prod.map id Table.memory) =
      some (call.command.onMemory table.memory) := by
  rcases call with ⟨client, command, behindRequest, behindReply⟩
  cases command with
  | readBits block address count =>
      simp only [remote, Response.BaseReadBits.decode]
      refine callServer_memory Request.BaseReadBits.run_encode
        (parse_readBits block (Frame.decode_words rfl behindRequest))
        (by cases block <;> decide) rfl (by simp [Command.Unsendable]) fun admissible => ?_
      obtain ⟨seen, ran, refused⟩ :=
        Request.BaseReadBits.run_exchange block client admissible.1 admissible.2
      exact ⟨seen, ran, fun _ => by rw [refused]; rfl⟩
  | readRegisters block address count =>
      simp only [remote, Response.BaseReadRegisters.decode]
      refine callServer_memory Request.BaseReadRegisters.run_encode
        (parse_readRegisters block (Frame.decode_words rfl behindRequest))
        (by cases block <;> decide) rfl (by simp [Command.Unsendable]) fun admissible => ?_
      obtain ⟨seen, ran, decoded, held⟩ :=
        Request.BaseReadRegisters.run_exchange block client admissible.1 admissible.2
      refine ⟨seen, ran, fun _ => ?_⟩
      rw [decoded, Command.told, Command.effect, Memory.run_memory admissible.2]
      by_cases few : count.toNat < 64
      · rw [if_pos few, if_pos few, held few]
        rfl
      · rw [if_neg few, if_neg few]
        rfl
  | writeSingleCoil address value =>
      rw [remote, Response.WriteSingleCoil.decode]
      refine callServer_memory (Request.WriteSingleCoil.run_encode client address value)
        (parse_writeSingleCoil (Frame.decode_words rfl behindRequest)) (by decide) rfl
        (by simp [Command.Unsendable]) fun admissible => ?_
      obtain ⟨old, held, -⟩ := Block.Sequential.exists_cell _ _ admissible
      obtain ⟨seen, ran, -, -, decoded⟩ :=
        Request.WriteSingleCoil.run_exchange client value held
      refine ⟨seen, ran, fun _ => ?_⟩
      have looked : table.memory.bits .coils address.toNat = some old := held
      rw [decoded, Command.told, looked]
      by_cases kept : old = value <;> simp [kept, Except.map]
  | writeSingleRegister address value =>
      rw [remote, Response.WriteSingleRegister.decode]
      refine callServer_memory (Request.WriteSingleRegister.run_encode client address value)
        (parse_writeSingleRegister (Frame.decode_words rfl behindRequest)) (by decide) rfl
        (by simp [Command.Unsendable]) fun admissible => ?_
      obtain ⟨seen, ran, -, decoded⟩ :=
        Request.WriteSingleRegister.run_exchange client value admissible
      exact ⟨seen, ran, fun _ => by rw [decoded]; rfl⟩
  | maskWriteRegister address andMask orMask =>
      rw [remote, Response.MaskWriteRegister.decode]
      refine callServer_memory (Request.MaskWriteRegister.run_encode client address andMask orMask)
        (parse_maskWriteRegister (Frame.decode_threeWords rfl behindRequest)) (by decide) rfl
        (by simp [Command.Unsendable]) fun admissible => ?_
      obtain ⟨old, held, -⟩ := Block.Sequential.exists_cell _ _ admissible
      obtain ⟨seen, ran, -, -, decoded⟩ :=
        Request.MaskWriteRegister.run_exchange client andMask orMask held
      exact ⟨seen, ran, fun _ => by rw [decoded]; rfl⟩
  | writeMultipleCoils address count values =>
      exact remote_writeMultipleCoils address count values table
  | writeMultipleRegisters address count values =>
      exact remote_writeMultipleRegisters address count values table
  | readWriteMultipleRegisters readAddress readCount writeAddress writeCount values =>
      exact remote_readWriteMultipleRegisters readAddress readCount writeAddress writeCount values
        table

end Call

/-- What happens at a server: a client calls for a command, or a packet arrives
from someone else. -/
inductive Arrival
  | call (call : Call)
  | packet (packet : ByteBuffer)

/-- What is seen of it: what the client is told, or what is sent back. -/
inductive Observation
  | told (outcome : Except Exn Shown)
  | sent (outcome : Except Exn Packet)

namespace Arrival

/-- An arrival at the server, on its table. -/
def happen [Struc] : Machine Table Arrival Observation
  | call asked, table => (asked.remote table).map (Prod.map .told id)
  | packet bytes, table => ((RequestHandler.handle bytes).run table).map (Prod.map .sent id)

/-- The same on a memory. -/
def onMemory : Machine Memory Arrival Observation
  | call asked, memory => some (Prod.map .told id (asked.command.onMemory memory))
  | packet bytes, memory =>
      (Memory.handle bytes memory).map (Prod.map (fun reply => .sent (.ok reply)) id)

theorem happen_memory [Struc] (arrival : Arrival) (table : Table) :
    (arrival.happen table).map (Prod.map id Table.memory) = arrival.onMemory table.memory := by
  cases arrival with
  | call asked =>
      have called := asked.remote_memory table
      obtain ⟨⟨outcome, stored⟩, ran, same⟩ := Option.map_eq_some_iff.mp called
      rw [happen, onMemory, ran, ← same]
      rfl
  | packet bytes =>
      have handled := Memory.handle_memory bytes table
      rw [happen, onMemory, Option.map_map]
      calc
        ((RequestHandler.handle bytes).run table).map
              (Prod.map id Table.memory ∘ Prod.map Observation.sent id) =
            (((RequestHandler.handle bytes).run table).map (Prod.map id Table.memory)).map
              (Prod.map Observation.sent id) := by
          rw [Option.map_map]
          rfl
        _ = (Memory.handle bytes table.memory).map
              (Prod.map (fun reply => Observation.sent (.ok reply)) id) := by
          rw [handled, Option.map_map]
          rfl

end Arrival

/-- The server on four maps and clients that call it see, on every run of calls
and packets, what the clients and the handler see on a table with these maps,
and end in the maps that the table stands for. -/
theorem remote_refines [Struc] (arrivals : List Arrival) (table : Table)
    (observations : List Observation) (memory : Memory) :
    Machine.serve Arrival.onMemory arrivals table.memory = some (observations, memory) ↔
      ∃ last : Table, Machine.serve Arrival.happen arrivals table = some (observations, last) ∧
        last.memory = memory :=
  Machine.serve_eq_some_iff Arrival.happen_memory arrivals table observations memory

end ModbusCpp
