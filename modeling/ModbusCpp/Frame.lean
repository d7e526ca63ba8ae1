import ModbusCpp.Response

/-!
# Frames

A frame is what a packet says: the transaction and the unit it belongs to, a
function byte and a payload.  Its bytes are the Modbus TCP header, whose length
field counts the unit, the function and the payload, and then the payload.
The headers that the code packs and unpacks are those of frames.
-/

namespace ModbusCpp

open StructFormat

structure Frame where
  transaction : UInt16
  unit : UInt8
  function : UInt8
  payload : Packet

namespace Frame

/-- The header of a frame and its function byte. -/
def headerBytes (frame : Frame) : Packet :=
  StructFormat.encode Adu.headerFuncFormat
    (frame.transaction, Adu.protocol, UInt16.ofNat (frame.payload.length + 2), frame.unit,
      frame.function, ())

/-- The bytes of a frame on the wire. -/
def bytes (frame : Frame) : Packet :=
  frame.headerBytes ++ frame.payload

@[simp]
theorem length_headerBytes (frame : Frame) : frame.headerBytes.length = 8 :=
  encode_length Adu.headerFuncFormat _

@[simp]
theorem length_bytes (frame : Frame) : frame.bytes.length = 8 + frame.payload.length := by
  simp [bytes]

theorem bytes_ne_nil (frame : Frame) : frame.bytes ≠ [] :=
  List.ne_nil_of_length_pos (by rw [length_bytes]; omega)

theorem drop_bytes (frame : Frame) : frame.bytes.drop 8 = frame.payload :=
  List.drop_left' frame.length_headerBytes

/-- What comes behind a front part of the payload. -/
theorem drop_payload {frame : Frame} {before rest : Packet}
    (layout : frame.payload = before ++ rest) :
    frame.bytes.drop (8 + before.length) = rest := by
  rw [← List.drop_drop, drop_bytes, layout, List.drop_left]

theorem payload_eq_of_bytes_eq {first second : Frame} (equal : first.bytes = second.bytes) :
    first.payload = second.payload := by
  rw [← drop_bytes, equal, drop_bytes]

theorem getElem?_bytes_function (frame : Frame) : frame.bytes[7]? = some frame.function :=
  rfl

/-- The header of a frame is read back, whatever lies behind the frame. -/
theorem decode_header (frame : Frame) (behind : Nat → Option UInt8) :
    StructFormat.decode (ByteBuffer.mk frame.bytes behind).read 0 Adu.headerFuncFormat =
      some (frame.transaction, Adu.protocol, UInt16.ofNat (frame.payload.length + 2),
        frame.unit, frame.function, ()) := by
  have layout : (ByteBuffer.mk frame.bytes behind).bytes =
      [] ++ (frame.headerBytes ++ frame.payload) := rfl
  exact decode_append layout

theorem read_payload {frame : Frame} {index : Nat} (inside : index < frame.payload.length)
    (behind : Nat → Option UInt8) :
    (ByteBuffer.mk frame.bytes behind).read (8 + index) = frame.payload[index]? := by
  have within : 8 + index < (ByteBuffer.mk frame.bytes behind).size := by
    simp only [ByteBuffer.size, length_bytes]
    omega
  rw [ByteBuffer.read_of_lt within, ← frame.drop_bytes, List.getElem?_drop]

/-- A record at the front of the payload is read from behind the header. -/
theorem decode_payload {frame : Frame} {codes : List Code} {values : Record codes}
    {rest : Packet} (front : frame.payload = StructFormat.encode codes values ++ rest)
    (behind : Nat → Option UInt8) :
    StructFormat.decode (ByteBuffer.mk frame.bytes behind).read 8 codes = some values := by
  have layout : (ByteBuffer.mk frame.bytes behind).bytes =
      frame.headerBytes ++ (StructFormat.encode codes values ++ rest) := by
    rw [← front]
    rfl
  simpa using decode_append layout

theorem read_head {frame : Frame} {byte : UInt8} {rest : Packet}
    (front : frame.payload = byte :: rest) (behind : Nat → Option UInt8) :
    (ByteBuffer.mk frame.bytes behind).read 8 = some byte := by
  have inside : 0 < frame.payload.length := by simp [front]
  simpa [front] using read_payload inside behind

/-- A payload of two words. -/
theorem decode_words {frame : Frame} {first second : UInt16}
    (carried : frame.payload = wordBytes [first, second])
    (behind : Nat → Option UInt8) :
    StructFormat.decode (ByteBuffer.mk frame.bytes behind).read 8 [.H, .H] =
      some (first, second, ()) := by
  have front : frame.payload =
      StructFormat.encode [.H, .H] (first, second, ()) ++ [] := by
    simp [carried, StructFormat.encode]
  exact frame.decode_payload front behind

/-- A payload of three words. -/
theorem decode_threeWords {frame : Frame} {first second third : UInt16}
    (carried : frame.payload = wordBytes [first, second, third])
    (behind : Nat → Option UInt8) :
    StructFormat.decode (ByteBuffer.mk frame.bytes behind).read 8 [.H, .H, .H] =
      some (first, second, third, ()) := by
  have front : frame.payload =
      StructFormat.encode [.H, .H, .H] (first, second, third, ()) ++ [] := by
    simp [carried, StructFormat.encode]
  exact frame.decode_payload front behind

/-- Words in the payload are read from behind what comes before them. -/
theorem decodeWords_payload {frame : Frame} {before rest : Packet} {values : List UInt16}
    (layout : frame.payload = before ++ (wordBytes values ++ rest))
    (behind : Nat → Option UInt8) :
    decodeWords (ByteBuffer.mk frame.bytes behind).read (8 + before.length) values.length =
      some values := by
  have split : (ByteBuffer.mk frame.bytes behind).bytes =
      frame.headerBytes ++ before ++ (wordBytes values ++ rest) := by
    rw [List.append_assoc, ← layout]
    rfl
  simpa using decodeWords_append split

/-- The exception reply to a request of the given function. -/
def exception (transaction : UInt16) (unit function : UInt8) (code : ExceptionCode) :
    Frame where
  transaction := transaction
  unit := unit
  function := function + 0x80
  payload := [code.toUnderlying]

end Frame

section Packing

variable [Struc]

@[simp]
theorem Adu.length_headerPacket (adu : Adu) : adu.headerPacket.length = 8 := by
  rw [headerPacket, Struc.pack_bigEndian]
  exact encode_length headerFuncFormat _

/-- A header packed with the right length in front of a payload makes a
frame. -/
theorem Adu.headerPacket_append {adu : Adu} {payload : Packet}
    (lengthEq : adu.length = UInt16.ofNat (payload.length + 2)) :
    adu.headerPacket ++ payload =
      Frame.bytes ⟨adu.transaction, adu.unit, adu.functionCode, payload⟩ := by
  simp [Adu.headerPacket, Frame.bytes, Frame.headerBytes, lengthEq]

/-- Unpacking the header fills the fields of the object, and the enumerator
only for a function byte below the largest one. -/
theorem Adu.run_decodeHeader {packet : ByteBuffer} {transaction protocol length : UInt16}
    {unit function : UInt8}
    (header : StructFormat.decode packet.read 0 Adu.headerFuncFormat =
      some (transaction, protocol, length, unit, function, ())) (adu : Adu) :
    (Adu.decodeHeader packet).run adu =
      some (.ok (), {
        function := if checkFunctionByte function then ⟨function⟩ else adu.function
        functionCode := function
        transaction := transaction
        length := length
        unit := unit }) := by
  cases known : checkFunctionByte function <;>
    simp [Adu.decodeHeader, header, known]

/-- The exception response of a specification error. -/
theorem Response.Error.run_encode (code : ExceptionCode) (function : FunctionCode)
    (header : Header) :
    ∃ left, Response.Error.encode.run (Response.Error.new code function header) =
      some (.ok (Frame.exception header.transaction header.unit function.toUnderlying
        code).bytes, left) := by
  have sized : width Adu.headerFuncFormat - 1 + width [.B, .B] =
      (Adu.calcAduLength 1).toNat := rfl
  have packed : (Response.Error.encode.run (Response.Error.new code function header)).map
      Prod.fst = some (.ok (Frame.exception header.transaction header.unit
        function.toUnderlying code).bytes) := by
    simp [Response.Error.encode, Response.Error.new, Adu.headerPacket, sized]
    rfl
  obtain ⟨⟨_, left⟩, ran, rfl⟩ := Option.map_eq_some_iff.mp packed
  exact ⟨left, ran⟩

end Packing

end ModbusCpp
