import ModbusCpp.Effects

/-!
# Reads outside the packet

The request decoders read through bare pointers and only check that there is a
function byte.  With nothing readable behind the packet, handling it has an
outcome exactly if all their reads stay inside.
-/

namespace ModbusCpp

open Method RequestHandler StructFormat

/-- The number of bytes that a request with its fixed part says will follow. -/
def declaredBytes (packet : ByteBuffer) (function : FunctionCode) : Nat :=
  match function with
  | .writeMultipleCoils | .writeMultipleRegisters =>
      match decode packet.read 8 [.H, .H, .B] with
      | some (_, _, byteCount, ()) => byteCount.toNat
      | none => 0
  | .readWriteMultipleRegisters =>
      match decode packet.read 8 [.H, .H, .H, .H, .B] with
      | some (_, _, _, _, byteCount, ()) => byteCount.toNat
      | none => 0
  | _ => 0

theorem declaredBytes_unsupported {function : FunctionCode} (packet : ByteBuffer)
    (unsupported : function ∉ FunctionCode.supported) :
    declaredBytes packet function = 0 := by
  unfold declaredBytes
  split
  all_goals first
    | rfl
    | exact absurd (by decide) unsupported

/-- The size of a request: its header, its fixed part and what this announces. -/
def requestSize (packet : ByteBuffer) (function : FunctionCode) : Nat :=
  8 + width function.fixedPart + declaredBytes packet function

/-- A packet that is shorter than the request it starts. -/
def Truncated (bytes : Packet) : Prop :=
  ∃ function : FunctionCode, bytes[7]? = some function.toUnderlying ∧
    bytes.length < requestSize (ByteBuffer.guarded bytes) function

/-- Handling a packet reads no byte outside it, and a truncated packet gets an
exception or nothing. -/
def StaysInside [Struc] (table : Table) (bytes : Packet) : Prop :=
  ∃ reply stored,
    (handle (ByteBuffer.guarded bytes)).run table = some (.ok reply, stored) ∧
      (Truncated bytes → ExceptionReply reply ∨ reply = [])

/-- A request that is refused for its fixed part: the quantity or the run of
coils is not valid, or the byte count does not fit the quantity. -/
def RefusedEarly (table : Table) (packet : ByteBuffer) (function : FunctionCode) : Prop :=
  match function with
  | .writeMultipleCoils =>
      ∃ address count byteCount,
        decode packet.read 8 [.H, .H, .B] = some (address, count, byteCount, ()) ∧
          ¬ (NumBits.validate true count = true ∧ table.coils.Contains address count.toNat)
  | .writeMultipleRegisters =>
      ∃ address count byteCount,
        decode packet.read 8 [.H, .H, .B] = some (address, count, byteCount, ()) ∧
          byteCount.toNat ≠ 2 * (count.toNat % 128)
  | .readWriteMultipleRegisters =>
      ∃ readAddress readCount writeAddress writeCount byteCount,
        decode packet.read 8 [.H, .H, .H, .H, .B] =
            some (readAddress, readCount, writeAddress, writeCount, byteCount, ()) ∧
          byteCount.toNat ≠ 2 * (writeCount.toNat % 128)
  | _ => False

/-- The requests that are handled within their bytes: all those that have their
fixed part, and the announced bytes as well unless they are refused early. -/
def Sufficient (table : Table) (bytes : Packet) (function : FunctionCode) : Prop :=
  8 + width function.fixedPart ≤ bytes.length ∧
    (requestSize (ByteBuffer.guarded bytes) function ≤ bytes.length ∨
      RefusedEarly table (ByteBuffer.guarded bytes) function)

theorem Frame.exception_exceptionReply (transaction : UInt16) (unit : UInt8)
    (function : FunctionCode) (code : ExceptionCode) :
    ExceptionReply (Frame.exception transaction unit function.known.toUnderlying code).bytes := by
  refine ⟨_, Frame.getElem?_bytes_function _, ?_⟩
  have small : function.known.toUnderlying.toNat < 0x80 := by
    rw [FunctionCode.known_toUnderlying]
    split
    · rename_i below
      exact Nat.lt_trans (UInt8.lt_iff_toNat_lt.mp below) (by decide)
    · decide
  rw [UInt8.le_iff_toNat_le]
  simp only [Frame.exception, UInt8.toNat_add, UInt8.reduceToNat]
  omega

/-- The abstract server refuses exactly the commands that are not admissible. -/
theorem respond_exceptionReply_iff {packet : ByteBuffer} {function : FunctionCode}
    {parsed : Except ExceptionCode Command}
    (parsing : parse packet function = some parsed) (header : Header) (table : Table) :
    ExceptionReply (respond header function parsed table).1.bytes ↔
      ∀ command, parsed = .ok command → ¬ command.Admissible table := by
  cases parsed with
  | error code => simpa [respond] using Frame.exception_exceptionReply _ _ function code
  | ok command =>
      by_cases admissible : command.Admissible table
      · have small := FunctionCode.supported_lt_max _ (supported_of_parse parsing)
        have normal : ¬ ExceptionReply (Frame.bytes ⟨header.transaction, header.unit,
            function.toUnderlying, command.reply table⟩) :=
          (Frame.normal (UInt8.lt_trans small (by decide))).2
        simpa [respond, admissible] using normal
      · simpa [respond, admissible] using Frame.exception_exceptionReply _ _ function _

theorem parse_guarded_isSome_iff {bytes : Packet} (long : 8 ≤ bytes.length)
    (function : FunctionCode) :
    (parse (ByteBuffer.guarded bytes) function).isSome = true ↔
      8 + width function.fixedPart + 2 * valueCount (ByteBuffer.guarded bytes) function ≤
        bytes.length := by
  rw [parse_isSome_iff, decode_guarded_isSome_iff long]
  constructor
  · rintro ⟨fixed, words⟩
    exact (decodeWords_guarded_isSome_iff fixed _).mp words
  · intro inside
    have fixed : 8 + width function.fixedPart ≤ bytes.length := by omega
    exact ⟨fixed, (decodeWords_guarded_isSome_iff fixed _).mpr inside⟩

/-- What staying inside comes to for a parsed packet. -/
def Answered (table : Table) (bytes : Packet) (function : FunctionCode) : Prop :=
  ∃ parsed, parse (ByteBuffer.guarded bytes) function = some parsed ∧
    (bytes.length < requestSize (ByteBuffer.guarded bytes) function →
      ∀ command, parsed = .ok command → ¬ command.Admissible table)

theorem staysInside_iff_answered [Struc] {bytes : Packet} {header : Header}
    {function : FunctionCode}
    (received : Received (ByteBuffer.guarded bytes) header function) (table : Table) :
    StaysInside table bytes ↔ Answered table bytes function := by
  have truncated : Truncated bytes ↔
      bytes.length < requestSize (ByteBuffer.guarded bytes) function := by
    constructor
    · rintro ⟨⟨byte⟩, found, short⟩
      obtain rfl := Option.some.inj (received.functionByte.symm.trans found)
      exact short
    · exact fun short => ⟨function, received.functionByte, short⟩
  rw [StaysInside, Answered, truncated, handle_run received]
  constructor
  · rintro ⟨reply, stored, ran, refused⟩
    obtain ⟨parsed, parsing, answer⟩ := Option.map_eq_some_iff.mp ran
    refine ⟨parsed, parsing, fun short => ?_⟩
    rw [← respond_exceptionReply_iff parsing header table]
    simp only [Prod.mk.injEq, Except.ok.injEq] at answer
    rcases answer with ⟨rfl, -⟩
    exact (refused short).resolve_right (Frame.bytes_ne_nil _)
  · rintro ⟨parsed, parsing, refused⟩
    refine ⟨_, _, Option.map_eq_some_iff.mpr ⟨parsed, parsing, rfl⟩, fun short => .inl ?_⟩
    exact (respond_exceptionReply_iff parsing header table).mpr (refused short)

/-- A function that announces nothing only needs its fixed part. -/
theorem answered_iff_of_fixed {table : Table} {bytes : Packet} {function : FunctionCode}
    (long : 8 ≤ bytes.length)
    (nothing : declaredBytes (ByteBuffer.guarded bytes) function = 0)
    (noValues : valueCount (ByteBuffer.guarded bytes) function = 0) :
    Answered table bytes function ↔ Sufficient table bytes function := by
  have defined := parse_guarded_isSome_iff long function
  rw [noValues, Option.isSome_iff_exists] at defined
  simp only [Answered, Sufficient, requestSize, nothing, Nat.add_zero]
  constructor
  · rintro ⟨parsed, parsing, -⟩
    have fixed := defined.mp ⟨parsed, parsing⟩
    exact ⟨fixed, .inl fixed⟩
  · rintro ⟨fixed, -⟩
    obtain ⟨parsed, parsing⟩ := defined.mpr fixed
    exact ⟨parsed, parsing, fun short => by omega⟩

theorem answered_writeMultipleCoils {table : Table} {bytes : Packet}
    (long : 8 ≤ bytes.length) :
    Answered table bytes .writeMultipleCoils ↔ Sufficient table bytes .writeMultipleCoils := by
  have fixed := decode_guarded_isSome_iff long [.H, .H, .B]
  have part : FunctionCode.writeMultipleCoils.fixedPart = [.H, .H, .B] := rfl
  simp only [Answered, Sufficient, requestSize, declaredBytes, RefusedEarly, parse, part]
  rw [← fixed]
  cases decode (ByteBuffer.guarded bytes).read 8 [.H, .H, .B] with
  | none => simp
  | some record =>
      rcases record with ⟨address, count, byteCount, ⟨⟩⟩
      have longOr : ∀ (size : Nat) (refused : Prop),
          (bytes.length < size → refused) ↔ size ≤ bytes.length ∨ refused := by
        intro size refused
        rw [← Nat.not_lt]
        exact imp_iff_not_or
      simpa [Command.Admissible] using longOr _ _

theorem answered_writeMultipleRegisters {table : Table} {bytes : Packet}
    (long : 8 ≤ bytes.length) :
    Answered table bytes .writeMultipleRegisters ↔
      Sufficient table bytes .writeMultipleRegisters := by
  have fixed := decode_guarded_isSome_iff long [.H, .H, .B]
  have part : FunctionCode.writeMultipleRegisters.fixedPart = [.H, .H, .B] := rfl
  simp only [Answered, Sufficient, requestSize, declaredBytes, RefusedEarly, parse, part]
  rw [← fixed]
  cases decoded : decode (ByteBuffer.guarded bytes).read 8 [.H, .H, .B] with
  | none => simp
  | some record =>
      rcases record with ⟨address, count, byteCount, ⟨⟩⟩
      by_cases sized : byteCount.toNat = 2 * (count.toNat % 128)
      · have inside : 13 ≤ bytes.length := fixed.mp (by simp [decoded])
        have values := decodeWords_guarded_isSome_iff inside (count.toNat % 128)
        cases found : decodeWords (ByteBuffer.guarded bytes).read 13 (count.toNat % 128) with
        | none => simpa [sized, found, width, Code.width] using values
        | some words =>
            have complete := values.mp (by simp [found])
            simp [sized, found, width, Code.width, complete, Nat.not_lt_of_le complete]
      · simp [sized]

theorem answered_readWriteMultipleRegisters {table : Table} {bytes : Packet}
    (long : 8 ≤ bytes.length) :
    Answered table bytes .readWriteMultipleRegisters ↔
      Sufficient table bytes .readWriteMultipleRegisters := by
  have fixed := decode_guarded_isSome_iff long [.H, .H, .H, .H, .B]
  have part : FunctionCode.readWriteMultipleRegisters.fixedPart =
    [.H, .H, .H, .H, .B] := rfl
  simp only [Answered, Sufficient, requestSize, declaredBytes, RefusedEarly, parse, part]
  rw [← fixed]
  cases decoded : decode (ByteBuffer.guarded bytes).read 8 [.H, .H, .H, .H, .B] with
  | none => simp
  | some record =>
      rcases record with ⟨readAddress, readCount, writeAddress, writeCount, byteCount, ⟨⟩⟩
      by_cases sized : byteCount.toNat = 2 * (writeCount.toNat % 128)
      · have inside : 17 ≤ bytes.length := fixed.mp (by simp [decoded])
        have values := decodeWords_guarded_isSome_iff inside (writeCount.toNat % 128)
        cases found :
            decodeWords (ByteBuffer.guarded bytes).read 17 (writeCount.toNat % 128) with
        | none => simpa [sized, found, width, Code.width] using values
        | some words =>
            have complete := values.mp (by simp [found])
            simp [sized, found, width, Code.width, complete, Nat.not_lt_of_le complete]
      · simp [sized]

theorem answered_iff_sufficient {table : Table} {bytes : Packet} (long : 8 ≤ bytes.length)
    (function : FunctionCode) :
    Answered table bytes function ↔ Sufficient table bytes function := by
  induction function using FunctionCode.cases_supported with
  | writeMultipleCoils => exact answered_writeMultipleCoils long
  | writeMultipleRegisters => exact answered_writeMultipleRegisters long
  | readWriteMultipleRegisters => exact answered_readWriteMultipleRegisters long
  | unsupported function unsupported =>
      exact answered_iff_of_fixed long (declaredBytes_unsupported _ unsupported)
        (valueCount_unsupported _ unsupported)
  | _ => exact answered_iff_of_fixed long rfl rfl

/-- Handling a request stays inside its packet exactly if the packet is
sufficient for its function. -/
theorem staysInside_iff [Struc] (table : Table) (bytes : Packet) :
    StaysInside table bytes ↔
      ∀ function : FunctionCode, bytes[7]? = some function.toUnderlying →
        Sufficient table bytes function := by
  by_cases short : bytes.length ≤ 7
  · have noFunction : bytes[7]? = none := List.getElem?_eq_none short
    refine iff_of_true ⟨[], table, handle_run_short short, fun _ => .inr rfl⟩ ?_
    simp [noFunction]
  · have long : 8 ≤ bytes.length := Nat.lt_of_not_le short
    obtain ⟨header, function, received⟩ :=
      exists_received (show Adu.headerLength < (ByteBuffer.guarded bytes).size from long)
    rw [staysInside_iff_answered received, answered_iff_sufficient long]
    constructor
    · rintro sufficient ⟨byte⟩ found
      obtain rfl := Option.some.inj (received.functionByte.symm.trans found)
      exact sufficient
    · exact fun sufficient => sufficient function received.functionByte

/-- A request to read coils that ends behind its function byte. -/
theorem not_staysInside_readCoils :
    ¬ @StaysInside Struc.documented (Table.cleared 1) [0, 1, 0, 0, 0, 2, 1, 0x01] := by
  rintro ⟨reply, stored, ran, -⟩
  have unread : (@handle Struc.documented
      (ByteBuffer.guarded [0, 1, 0, 0, 0, 2, 1, 0x01])).run (Table.cleared 1) = none := rfl
  simp [unread] at ran

end ModbusCpp
