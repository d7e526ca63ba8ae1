import ModbusCpp.Refinement

/-!
# Exchanges

A client encodes a request, the server handles it and the client's response
object for that request decodes the reply.  A request frame is received by the
server as its class packed it, and a normal reply frame passes the checks that
all responses share.
-/

namespace ModbusCpp

open Method RequestHandler StructFormat

/-- What an exchange comes to: the two packets, what `decode` returned, the
response object afterwards and the table that the server was left with. -/
structure Exchange (θ : Type) where
  sent : Packet
  reply : Packet
  decoded : Except Exn Unit
  response : θ
  stored : Table

/-- `request.encode()`, `handle`, `response(&request)` and `response.decode`.
The two functions say what lies behind the packets in memory. -/
def exchange [Struc] {ρ θ : Type} (encode : Member ρ Packet) (responseFor : ρ → θ)
    (decode : ByteBuffer → Member θ Unit) (behindRequest behindReply : Nat → Option UInt8)
    (request : ρ) (table : Table) : Option (Except Exn (Exchange θ)) := do
  let (encoded, request) ← encode.run request
  match encoded with
  | .error failure => some (.error failure)
  | .ok sent => do
      let (answered, stored) ← (handle ⟨sent, behindRequest⟩).run table
      match answered with
      | .error failure => some (.error failure)
      | .ok reply => do
          let (decoded, response) ← (decode ⟨reply, behindReply⟩).run (responseFor request)
          some (.ok { sent, reply, decoded, response, stored })

namespace Exchange

variable {θ α : Type} {outcome : Option (Except Exn (Exchange θ))} {seen other : Exchange θ}

/-- An exchange comes to one result. -/
theorem unique (ran : outcome = some (.ok seen)) (otherRan : outcome = some (.ok other)) :
    other = seen := by
  rw [ran] at otherRan
  exact (Except.ok.inj (Option.some.inj otherRan)).symm

/-- What is computed from an exchange that was run is what its result has. -/
theorem observed {value : α} (observe : Exchange θ → α) (ran : outcome = some (.ok seen))
    (computed : outcome.map (Except.map observe) = some (.ok value)) :
    observe seen = value := by
  rw [ran] at computed
  exact Except.ok.inj (Option.some.inj computed)

end Exchange

/-- The header that a client's request gets when a payload is encoded. -/
def Adu.Initializer.header (client : Adu.Initializer) (payload : Packet) : Header where
  transaction := client.transaction
  length := UInt16.ofNat (payload.length + 2)
  unit := client.unit

/-- A frame of a client, also one that answers it. -/
def Adu.Initializer.frame (client : Adu.Initializer) (function : FunctionCode)
    (payload : Packet) : Frame where
  transaction := client.transaction
  unit := client.unit
  function := function.toUnderlying
  payload := payload

section Projections

variable (client : Adu.Initializer) (function : FunctionCode) (payload : Packet)

@[simp]
theorem Adu.Initializer.header_transaction :
    (client.header payload).transaction = client.transaction :=
  rfl

@[simp]
theorem Adu.Initializer.header_unit : (client.header payload).unit = client.unit :=
  rfl

@[simp]
theorem Adu.Initializer.frame_transaction :
    (client.frame function payload).transaction = client.transaction :=
  rfl

@[simp]
theorem Adu.Initializer.frame_unit : (client.frame function payload).unit = client.unit :=
  rfl

@[simp]
theorem Adu.Initializer.frame_function :
    (client.frame function payload).function = function.toUnderlying :=
  rfl

@[simp]
theorem Adu.Initializer.frame_payload :
    (client.frame function payload).payload = payload :=
  rfl

end Projections

/-- A request whose header was packed with the right length is a frame. -/
theorem Adu.Initializer.headerPacket_append [Struc] {client : Adu.Initializer}
    {function : FunctionCode} {length : UInt16} {payload : Packet}
    (lengthEq : length = UInt16.ofNat (payload.length + 2)) :
    Adu.headerPacket ⟨function, function.toUnderlying, client.transaction, length,
        client.unit⟩ ++ payload =
      (client.frame function payload).bytes :=
  Adu.headerPacket_append lengthEq

theorem Adu.Initializer.headerPacket_words [Struc] (client : Adu.Initializer)
    (function : FunctionCode) (first second : UInt16) :
    Adu.headerPacket ⟨function, function.toUnderlying, client.transaction, Adu.calcLength 4,
        client.unit⟩ ++ (Code.encode .H first ++ Code.encode .H second) =
      (client.frame function (Code.encode .H first ++ Code.encode .H second)).bytes :=
  headerPacket_append rfl

/-- A request frame of a client arrives with its header and function. -/
theorem Frame.received {client : Adu.Initializer} {function : FunctionCode}
    {payload : Packet} (behind : Nat → Option UInt8) :
    Received ⟨(client.frame function payload).bytes, behind⟩
      (client.header payload) function where
  functionByte := Frame.getElem?_bytes_function _
  fields := ⟨Adu.protocol, Frame.decode_header _ behind⟩

namespace Response

variable [Struc] {client : Adu.Initializer} {function : FunctionCode} {payload answer : Packet}

/-- The base part of a response to a request whose header was encoded. -/
def base (header : Header) (function : FunctionCode) (length : UInt16) : Response :=
  { header.adu function with length, reqHeader := header }

/-- A reply frame for the request passes the common checks. -/
theorem run_checkStage (client : Adu.Initializer) (payload : Packet)
    (supported : function ∈ FunctionCode.supported) (fits : answer.length ≤ 252)
    (behind : Nat → Option UInt8) (length : UInt16) :
    (checkStage ⟨(client.frame function answer).bytes, behind⟩).run
        (base (client.header payload) function length) =
      some (.ok .passed,
        base (client.header payload) function (UInt16.ofNat (answer.length + 2))) := by
  have decoded := Frame.decode_header (client.frame function answer) behind
  obtain ⟨-, known, named⟩ := FunctionCode.supported_spec function supported
  have long : 7 < ByteBuffer.size ⟨(client.frame function answer).bytes, behind⟩ := by
    simp only [ByteBuffer.size, Frame.length_bytes]
    omega
  have sized : (answer.length + 2) % 65536 =
      ByteBuffer.size ⟨(client.frame function answer).bytes, behind⟩ - 6 := by
    simp only [ByteBuffer.size, Frame.length_bytes, Adu.Initializer.frame_payload]
    omega
  simp [checkStage, initialCheck, decoded, base, Adu.run_decodeHeader decoded, known, named,
    Adu.headerLength, long, sized]

/-- What `decode` does with a reply frame is up to `decode_passed`, on the object
that has taken over the header. -/
theorem run_decode {σ : Type} {toBase : σ → Response} {replace : Response → σ → σ}
    {decodePassed : ByteBuffer → Member σ Unit} {self left : σ} {result : Except Exn Unit}
    {length : UInt16} (supported : function ∈ FunctionCode.supported)
    (fits : answer.length ≤ 252) (behind : Nat → Option UInt8)
    (own : toBase self = base (client.header payload) function length)
    (passed : (decodePassed ⟨(client.frame function answer).bytes, behind⟩).run
        (replace (base (client.header payload) function (UInt16.ofNat (answer.length + 2)))
          self) =
      some (result, left))
    (caught : result ≠ .error .outOfRange) :
    (Response.decode toBase replace decodePassed
        ⟨(client.frame function answer).bytes, behind⟩).run self =
      some (result, left) := by
  have checked := run_checkStage client payload supported fits behind length
  generalize UInt16.ofNat (answer.length + 2) = received at checked passed
  cases result with
  | ok value => simp [Response.decode, own, checked, passed]
  | error failure =>
      cases failure with
      | outOfRange => exact absurd rfl caught
      | _ => simp [Response.decode, own, checked, passed]

end Response

/-- The exchange of a request that was encoded as a frame and asks for an
admissible command. -/
theorem exchange_run [Struc] {ρ θ : Type} {encode : Member ρ Packet} {responseFor : ρ → θ}
    {decode : ByteBuffer → Member θ Unit} {behindRequest behindReply : Nat → Option UInt8}
    {request left : ρ} {table : Table} {client : Adu.Initializer} {payload answer : Packet}
    {function : FunctionCode} {command : Command} {result : Except Exn Unit} {response : θ}
    (encoded : encode.run request =
      some (.ok (client.frame function payload).bytes, left))
    (parsed : parse ⟨(client.frame function payload).bytes, behindRequest⟩
      function = some (.ok command))
    (admissible : command.Admissible table) (replied : command.reply table = answer)
    (decoded : (decode ⟨(client.frame function answer).bytes,
        behindReply⟩).run (responseFor left) = some (result, response)) :
    exchange encode responseFor decode behindRequest behindReply request table =
      some (.ok {
        sent := (client.frame function payload).bytes
        reply := (client.frame function answer).bytes
        decoded := result
        response := response
        stored := command.effect table }) := by
  subst replied
  have answered : (handle ⟨(client.frame function payload).bytes,
      behindRequest⟩).run table =
        some (.ok (client.frame function (command.reply table)).bytes,
          command.effect table) := by
    rw [handle_run (Frame.received behindRequest), parsed]
    simp [respond, admissible, Adu.Initializer.frame]
  simp [exchange, encoded, answered, decoded]

end ModbusCpp
