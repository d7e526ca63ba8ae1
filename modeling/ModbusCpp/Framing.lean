import ModbusCpp.DecodingBounds
import ModbusCpp.Server
import ModbusCpp.Serving

/-!
# Requests on a stream

The server takes every chunk of a stream for one packet and drops chunks that
have no function byte.  A stream is answered request by request if a chunk
starts each of them and has all of it that its answer depends on.
-/

namespace ModbusCpp

open Method RequestHandler StructFormat

/-- A request with all its bytes and no others, of any length when its function
has no class. -/
def Complete (request : Packet) : Prop :=
  ∃ function : FunctionCode, request[7]? = some function.toUnderlying ∧
    (function ∈ FunctionCode.supported →
      request.length = requestSize (ByteBuffer.guarded request) function)

/-- The first chunk of a request has all that the answer depends on: it is the
whole request, or it is refused for its fixed part, or the coils that it lacks
are off. -/
inductive Decides (table : Table) (function : FunctionCode) (head : ByteBuffer)
    (request : Packet) : Prop
  | whole (same : head.bytes = request)
  | refused (fixed : 8 + width function.fixedPart ≤ head.size)
      (early : function ∉ FunctionCode.supported ∨ RefusedEarly table head function)
  | coils {address count : UInt16} {byteCount : UInt8}
      (several : function = .writeMultipleCoils)
      (fixed : 8 + width function.fixedPart ≤ head.size)
      (decoded : decode head.read 8 [.H, .H, .B] = some (address, count, byteCount, ()))
      (off : resize (unpackBits (request.drop 13)) count.toNat false =
        resize (unpackBits (head.bytes.drop 13)) count.toNat false)

/-- A stream of requests in chunks: a first chunk for each request, and the
rest of it in chunks without a function byte. -/
inductive Framed (table : Table) : List Packet → List ByteBuffer → Prop
  | nil : Framed table [] []
  | request {function : FunctionCode} {request : Packet} {head : ByteBuffer}
      {pieces chunks : List ByteBuffer} {requests : List Packet}
      (requested : head.bytes[7]? = some function.toUnderlying)
      (cut : request = head.bytes ++ pieces.flatMap ByteBuffer.bytes)
      (short : ∀ piece ∈ pieces, piece.size ≤ Adu.headerLength)
      (decides : Decides table function head request)
      (rest : Framed table requests chunks) :
      Framed table (request :: requests) (head :: (pieces ++ chunks))

/-- The chunks are answered as the requests are, and leave the same table. -/
def Reassembles [Struc] (table : Table) (requests : List Packet) (chunks : List ByteBuffer) :
    Prop :=
  ∃ replies stored,
    (handleAll (requests.map ByteBuffer.guarded)).run table = some (.ok replies, stored) ∧
      (Server.receiveAll chunks).run ⟨table, []⟩ = some (.ok (), ⟨stored, replies⟩)

section Prefixes

variable {table : Table} {function : FunctionCode} {head : ByteBuffer} {request rest : Packet}

theorem decode_fixedPart_append (cut : request = head.bytes ++ rest)
    (fixed : 8 + width function.fixedPart ≤ head.size) :
    decode (ByteBuffer.guarded request).read 8 function.fixedPart =
      decode head.read 8 function.fixedPart := by
  apply decode_congr
  intro index indexLt
  exact (ByteBuffer.read_append cut (by omega)).symm

theorem Received.append {header : Header} (received : Received head header function)
    (cut : request = head.bytes ++ rest) :
    Received (ByteBuffer.guarded request) header function where
  functionByte := by
    have inside := (List.getElem?_eq_some_iff.mp received.functionByte).1
    rw [ByteBuffer.guarded, cut, List.getElem?_append_left inside]
    exact received.functionByte
  fields := by
    have inside := (List.getElem?_eq_some_iff.mp received.functionByte).1
    obtain ⟨protocol, decoded⟩ := received.fields
    refine ⟨protocol, ?_⟩
    rw [← decoded]
    apply decode_congr
    intro index indexLt
    rw [Nat.zero_add]
    exact (ByteBuffer.read_append cut (Nat.lt_of_lt_of_le indexLt inside)).symm

/-- Words that are decoded on a condition are decoded with any memory behind. -/
theorem decodeWords_bind_of_guarded {α : Type} {packet : ByteBuffer} {offset count : Nat}
    {sized : Prop} [Decidable sized] {build : List UInt16 → Option α} {refused : Option α}
    {parsed : α}
    (built : (if sized then
        (decodeWords (ByteBuffer.guarded packet.bytes).read offset count).bind build
      else refused) = some parsed) :
    (if sized then (decodeWords packet.read offset count).bind build else refused) =
      some parsed := by
  by_cases holds : sized
  · rw [if_pos holds] at built ⊢
    obtain ⟨words, read, built⟩ := Option.bind_eq_some_iff.mp built
    exact Option.bind_eq_some_iff.mpr ⟨words, decodeWords_of_guarded read, built⟩
  · rwa [if_neg holds] at built ⊢

/-- Parsing a whole request does not look behind it. -/
theorem parse_of_guarded {packet : ByteBuffer} {parsed : Except ExceptionCode Command}
    (parsing : parse (ByteBuffer.guarded packet.bytes) function = some parsed) :
    parse packet function = some parsed := by
  induction function using FunctionCode.cases_supported with
  | writeMultipleRegisters =>
      obtain ⟨⟨address, count, byteCount, ⟨⟩⟩, decoded, built⟩ :=
        Option.bind_eq_some_iff.mp parsing
      exact Option.bind_eq_some_iff.mpr
        ⟨_, decode_of_guarded decoded, decodeWords_bind_of_guarded built⟩
  | readWriteMultipleRegisters =>
      obtain ⟨⟨readAddress, readCount, address, count, byteCount, ⟨⟩⟩, decoded, built⟩ :=
        Option.bind_eq_some_iff.mp parsing
      exact Option.bind_eq_some_iff.mpr
        ⟨_, decode_of_guarded decoded, decodeWords_bind_of_guarded built⟩
  | unsupported function unsupported =>
      rw [parse_unsupported _ unsupported] at parsing
      rw [parse_unsupported _ unsupported, parsing]
  | _ =>
      obtain ⟨record, decoded, built⟩ := Option.bind_eq_some_iff.mp parsing
      exact Option.bind_eq_some_iff.mpr ⟨record, decode_of_guarded decoded, built⟩

/-- A request that is refused for its fixed part is refused whatever follows. -/
theorem RefusedEarly.responds (early : RefusedEarly table head function)
    {packet : ByteBuffer}
    (fixed : decode packet.read 8 function.fixedPart = decode head.read 8 function.fixedPart)
    (header : Header) :
    ∃ parsed other, parse packet function = some parsed ∧ parse head function = some other ∧
      respond header function other table = respond header function parsed table := by
  unfold RefusedEarly at early
  split at early
  · rcases early with ⟨address, count, byteCount, decoded, invalid⟩
    have again : decode packet.read 8 [.H, .H, .B] = some (address, count, byteCount, ()) :=
      fixed.trans decoded
    refine ⟨_, _, parse_writeMultipleCoils_of_resize ⟨_, length_resize _ _ _⟩ again rfl,
      parse_writeMultipleCoils_of_resize ⟨_, length_resize _ _ _⟩ decoded rfl, ?_⟩
    have refused (values : Values Bool count) :
        ¬ (Command.writeMultipleCoils address count values).Admissible table := invalid
    rw [respond_inadmissible (refused _), respond_inadmissible (refused _)]
  · rcases early with ⟨address, count, byteCount, decoded, unsized⟩
    have again : decode packet.read 8 [.H, .H, .B] = some (address, count, byteCount, ()) :=
      fixed.trans decoded
    exact ⟨.error .serverDeviceFailure, .error .serverDeviceFailure,
      by simp [parse, again, unsized], by simp [parse, decoded, unsized], rfl⟩
  · rcases early with ⟨readAddress, readCount, address, count, byteCount, decoded, unsized⟩
    have again : decode packet.read 8 [.H, .H, .H, .H, .B] =
        some (readAddress, readCount, address, count, byteCount, ()) :=
      fixed.trans decoded
    exact ⟨.error .serverDeviceFailure, .error .serverDeviceFailure,
      by simp [parse, again, unsized], by simp [parse, decoded, unsized], rfl⟩
  · exact early.elim

/-- What decides a request gets its answer. -/
theorem Decides.responds (decides : Decides table function head request)
    (cut : request = head.bytes ++ rest) {parsed : Except ExceptionCode Command}
    (parsing : parse (ByteBuffer.guarded request) function = some parsed) (header : Header) :
    ∃ other, parse head function = some other ∧
      respond header function other table = respond header function parsed table := by
  cases decides with
  | whole same =>
      subst same
      exact ⟨parsed, parse_of_guarded parsing, rfl⟩
  | refused fixed early =>
      rcases early with unsupported | early
      · rw [parse_unsupported _ unsupported] at parsing
        exact ⟨parsed, by rw [parse_unsupported _ unsupported, parsing], rfl⟩
      · obtain ⟨again, other, parsedAgain, otherParsed, same⟩ :=
          early.responds (decode_fixedPart_append cut fixed) header
        rw [parsing] at parsedAgain
        obtain rfl := Option.some.inj parsedAgain
        exact ⟨other, otherParsed, same⟩
  | @coils address count byteCount several fixed decoded off =>
      subst several
      have again : decode (ByteBuffer.guarded request).read 8 [.H, .H, .B] =
          some (address, count, byteCount, ()) :=
        (decode_fixedPart_append cut fixed).trans decoded
      have behind : (ByteBuffer.guarded request).bytes.drop 13 = request.drop 13 := rfl
      refine ⟨parsed, ?_, rfl⟩
      rw [← parsing]
      simp only [parse, again, decoded, behind, off, Option.bind_eq_bind, Option.bind_some]

/-- A complete request is parsed from its own bytes. -/
theorem Complete.exists_parse (complete : Complete request)
    (requested : request[7]? = some function.toUnderlying) :
    ∃ parsed, parse (ByteBuffer.guarded request) function = some parsed := by
  rcases function with ⟨byte⟩
  rcases complete with ⟨⟨other⟩, found, sized⟩
  obtain rfl : byte = other := Option.some.inj (requested.symm.trans found)
  have long : 8 ≤ request.length := (List.getElem?_eq_some_iff.mp requested).1
  by_cases supported : ⟨byte⟩ ∈ FunctionCode.supported
  · have whole := sized supported
    have sufficient : Sufficient (Table.cleared 0) request ⟨byte⟩ := by
      refine ⟨?_, .inl (Nat.le_of_eq whole.symm)⟩
      rw [whole, requestSize]
      omega
    obtain ⟨parsed, parsing, -⟩ := (answered_iff_sufficient long _).mpr sufficient
    exact ⟨parsed, parsing⟩
  · exact ⟨_, parse_unsupported _ supported⟩

end Prefixes

/-- What is refused early only depends on the shape of the table. -/
theorem RefusedEarly.preserved {table stored : Table} {head : ByteBuffer}
    {function : FunctionCode} (preserves : Preserves table stored)
    (early : RefusedEarly table head function) : RefusedEarly stored head function := by
  unfold RefusedEarly at early ⊢
  split at early
  · simpa only [Block.Sequential.Contains, preserves.coils.1, preserves.coils.2] using early
  · exact early
  · exact early
  · exact early.elim

theorem Framed.preserved {table stored : Table} {requests : List Packet}
    {chunks : List ByteBuffer} (preserves : Preserves table stored)
    (framed : Framed table requests chunks) : Framed stored requests chunks := by
  induction framed with
  | nil => exact .nil
  | request requested cut short decides rest ih =>
      refine .request requested cut short ?_ ih
      cases decides with
      | whole same => exact .whole same
      | refused fixed early => exact .refused fixed (early.imp_right (·.preserved preserves))
      | coils several fixed decoded off => exact .coils several fixed decoded off

section Runs

variable [Struc]

/-- The first chunk of a request is answered as the request is. -/
theorem handle_head {table : Table} {function : FunctionCode} {head : ByteBuffer}
    {request rest : Packet} (complete : Complete request)
    (requested : head.bytes[7]? = some function.toUnderlying)
    (cut : request = head.bytes ++ rest) (decides : Decides table function head request) :
    ∃ reply stored, reply ≠ [] ∧
      (handle (ByteBuffer.guarded request)).run table = some (.ok reply, stored) ∧
      (handle head).run table = some (.ok reply, stored) := by
  obtain ⟨header, received⟩ := exists_received_function requested
  have whole := received.append cut
  obtain ⟨parsed, parsing⟩ := complete.exists_parse whole.functionByte
  obtain ⟨other, otherParsed, same⟩ := decides.responds cut parsing header
  refine ⟨_, _, Frame.bytes_ne_nil _, handle_run_of_parse whole parsing, ?_⟩
  rw [← same]
  exact handle_run_of_parse received otherParsed

/-- A chunk that is answered is sent an answer. -/
theorem Server.onReceive_run {chunk : ByteBuffer} {table stored : Table} {reply : Packet}
    {sent : List Packet} (ran : (handle chunk).run table = some (.ok reply, stored)) :
    (Server.onReceive chunk).run ⟨table, sent⟩ =
      some (.ok (), ⟨stored, if reply = [] then sent else sent ++ [reply]⟩) := by
  cases reply <;> simp [Server.onReceive, ran]

theorem Server.exists_of_receiveAll_cons {chunk : ByteBuffer} {chunks : List ByteBuffer}
    {server last : Server}
    (ran : (Server.receiveAll (chunk :: chunks)).run server = some (.ok (), last)) :
    ∃ reply stored, (handle chunk).run server.dataTable = some (.ok reply, stored) ∧
      (Server.receiveAll chunks).run
        ⟨stored, if reply = [] then server.sent else server.sent ++ [reply]⟩ =
          some (.ok (), last) := by
  rcases server with ⟨table, sent⟩
  cases handled : (handle chunk).run table with
  | none => simp [Server.receiveAll, Server.onReceive, handled] at ran
  | some answered =>
      rcases answered with ⟨result, stored⟩
      obtain ⟨reply, rfl, -⟩ := handle_effect handled
      rw [Server.receiveAll, run_bind, Server.onReceive_run handled] at ran
      exact ⟨reply, stored, rfl, ran⟩

/-- Chunks without a function byte are dropped. -/
theorem Server.receiveAll_short {pieces chunks : List ByteBuffer} (server : Server)
    (short : ∀ piece ∈ pieces, piece.size ≤ Adu.headerLength) :
    (Server.receiveAll (pieces ++ chunks)).run server =
      (Server.receiveAll chunks).run server := by
  induction pieces with
  | nil => rfl
  | cons piece pieces ih =>
      have dropped : (handle piece).run server.dataTable = some (.ok [], server.dataTable) :=
        handle_run_short (short piece List.mem_cons_self)
      have received : (Server.onReceive piece).run server = some (.ok (), server) :=
        Server.onReceive_run dropped
      rw [List.cons_append, Server.receiveAll, run_bind, received]
      exact ih fun piece pieceMem => short piece (List.mem_cons_of_mem _ pieceMem)

/-- The run lemma: the answers to the requests are sent behind what was sent
before. -/
theorem Framed.receiveAll_run {table : Table} {requests : List Packet}
    {chunks : List ByteBuffer} (framed : Framed table requests chunks)
    (complete : ∀ request ∈ requests, Complete request) (sent : List Packet) :
    ∃ replies stored,
      (handleAll (requests.map ByteBuffer.guarded)).run table = some (.ok replies, stored) ∧
        (Server.receiveAll chunks).run ⟨table, sent⟩ =
          some (.ok (), ⟨stored, sent ++ replies⟩) := by
  induction requests generalizing table chunks sent with
  | nil =>
      cases framed
      exact ⟨[], table, rfl, by simp [Server.receiveAll]⟩
  | cons request requests ih =>
      cases framed with
      | @request function _ head pieces chunks _ requested cut short decides rest =>
          obtain ⟨reply, next, nonempty, ran, headRan⟩ :=
            handle_head (complete _ List.mem_cons_self) requested cut decides
          obtain ⟨answer, same, effect⟩ := handle_effect ran
          obtain ⟨replies, stored, restRan, received⟩ :=
            ih (rest.preserved effect.preserves)
              (fun request requestMem => complete request (List.mem_cons_of_mem _ requestMem))
              (sent ++ [reply])
          refine ⟨reply :: replies, stored, handleAll_cons_run ran restRan, ?_⟩
          rw [List.append_cons sent reply replies, Server.receiveAll, run_bind,
            Server.onReceive_run headRan, if_neg nonempty]
          exact (Server.receiveAll_short _ short).trans received

theorem length_handleAll {packets : List ByteBuffer} {table stored : Table}
    {replies : List Packet}
    (ran : (handleAll packets).run table = some (.ok replies, stored)) :
    replies.length = packets.length := by
  induction packets generalizing table replies with
  | nil =>
      obtain ⟨rfl, -⟩ := returned_inj.mp ran
      rfl
  | cons packet packets ih =>
      obtain ⟨reply, next, rest, -, restRan, rfl⟩ := exists_of_handleAll_cons ran
      rw [List.length_cons, List.length_cons, ih restRan]

/-- Nothing is answered exactly if there is no function byte. -/
theorem reply_eq_nil_iff {chunk : ByteBuffer} {table stored : Table} {reply : Packet}
    (ran : (handle chunk).run table = some (.ok reply, stored)) :
    reply = [] ↔ chunk.size ≤ Adu.headerLength := by
  by_cases short : chunk.size ≤ Adu.headerLength
  · rw [handle_run_short short] at ran
    obtain ⟨rfl, -⟩ := returned_inj.mp ran
    exact iff_of_true rfl short
  · obtain ⟨header, function, received⟩ := exists_received (Nat.lt_of_not_le short)
    rw [handle_run received] at ran
    obtain ⟨parsed, -, answered⟩ := Option.map_eq_some_iff.mp ran
    obtain ⟨same, -⟩ := Prod.mk.inj answered
    rw [← Except.ok.inj same]
    exact iff_of_false (Frame.bytes_ne_nil _) short

/-- An answer is sent for every chunk that has a function byte. -/
theorem Server.length_receiveAll {chunks : List ByteBuffer} {server last : Server}
    (ran : (Server.receiveAll chunks).run server = some (.ok (), last)) :
    last.sent.length = server.sent.length +
      chunks.countP fun chunk => Adu.headerLength < chunk.size := by
  induction chunks generalizing server with
  | nil =>
      obtain ⟨-, rfl⟩ := returned_inj.mp ran
      rw [List.countP_nil, Nat.add_zero]
  | cons chunk chunks ih =>
      obtain ⟨reply, stored, handled, rest⟩ := Server.exists_of_receiveAll_cons ran
      have dropped := reply_eq_nil_iff handled
      by_cases short : chunk.size ≤ Adu.headerLength
      · rw [if_pos (dropped.mpr short)] at rest
        rw [ih rest, List.countP_cons_of_neg (by simpa using short)]
      · rw [if_neg (mt dropped.mp short)] at rest
        rw [ih rest, List.countP_cons_of_pos (by simpa using short), List.length_append,
          List.length_singleton]
        omega

end Runs

/-- A stream whose chunks keep the requests apart is reassembled, and one that
is reassembled has as many chunks with a function byte as requests. -/
theorem reassembles_of_framed [Struc] {table : Table} {requests : List Packet}
    {chunks : List ByteBuffer} (complete : ∀ request ∈ requests, Complete request) :
    (Framed table requests chunks → Reassembles table requests chunks) ∧
      (Reassembles table requests chunks →
        (chunks.countP fun chunk => Adu.headerLength < chunk.size) = requests.length) := by
  constructor
  · intro framed
    exact framed.receiveAll_run complete []
  · rintro ⟨replies, stored, ran, received⟩
    have counted := Server.length_receiveAll received
    have replied := length_handleAll ran
    rw [List.length_map] at replied
    rw [← replied, counted, List.length_nil, Nat.zero_add]

/-- Two requests, the second of them refused for its byte count and cut behind
it. -/
theorem reassembles_of_framed_refused :
    @Reassembles Struc.documented (Table.cleared 4)
      [[0, 1, 0, 0, 0, 6, 1, 0x06, 0, 2, 0x12, 0x34],
        [0, 2, 0, 0, 0, 10, 1, 0x10, 0, 0, 0, 2, 3, 1, 2, 3]]
      [ByteBuffer.guarded [0, 1, 0, 0, 0, 6, 1, 0x06, 0, 2, 0x12, 0x34],
        ByteBuffer.guarded [0, 2, 0, 0, 0, 10, 1, 0x10, 0, 0, 0, 2, 3],
        ByteBuffer.guarded [1, 2, 3]] := by
  refine (@reassembles_of_framed Struc.documented _ _ _ ?_).1 ?_
  · simp only [List.mem_cons, List.not_mem_nil, or_false, forall_eq_or_imp, forall_eq]
    exact ⟨⟨.writeSingleRegister, rfl, fun _ => rfl⟩,
      ⟨.writeMultipleRegisters, rfl, fun _ => rfl⟩⟩
  · refine @Framed.request _ .writeSingleRegister _ _ [] _ _ rfl rfl (by simp) (.whole rfl) ?_
    refine @Framed.request _ .writeMultipleRegisters _ _ [ByteBuffer.guarded [1, 2, 3]] [] _ rfl
      rfl (by simp [Adu.headerLength]) (.refused (by decide) (.inr ?_)) .nil
    exact ⟨0, 2, 3, rfl, by decide⟩

/-- Two requests that arrive in one chunk get one answer. -/
theorem not_reassembles_coalesced :
    let first : Packet := [0, 1, 0, 0, 0, 6, 1, 0x06, 0, 0, 0x12, 0x34]
    let second : Packet := [0, 2, 0, 0, 0, 6, 1, 0x06, 0, 1, 0x56, 0x78]
    (Complete first ∧ Complete second) ∧
      ¬ @Reassembles Struc.documented (Table.cleared 2) [first, second]
        [ByteBuffer.guarded (first ++ second)] := by
  intro first second
  refine ⟨⟨⟨.writeSingleRegister, rfl, fun _ => rfl⟩, ⟨.writeSingleRegister, rfl, fun _ => rfl⟩⟩,
    ?_⟩
  rintro ⟨replies, stored, ran, received⟩
  have counted : replies.length = 0 + 1 := @Server.length_receiveAll Struc.documented _ _ _ received
  have replied : replies.length = 2 := @length_handleAll Struc.documented _ _ _ _ ran
  omega

end ModbusCpp
