import ModbusCpp.Command

/-!
# Request packets

What a packet asks for, from the bytes behind its function.  The rest of the
header does not matter for that, and neither does what lies behind the packet.
-/

namespace ModbusCpp

open StructFormat

/-- A packet with this function and these bytes behind it. -/
structure Asks (packet : ByteBuffer) (function : FunctionCode) (body : Packet) : Prop where
  functionByte : packet.bytes[7]? = some function.toUnderlying
  body : packet.bytes.drop 8 = body

namespace Asks

variable {packet : ByteBuffer} {function : FunctionCode} {body rest : Packet}

theorem bytes_eq (asks : Asks packet function body) :
    packet.bytes = packet.bytes.take 8 ++ body := by
  rw [← asks.body, List.take_append_drop]

theorem length_take (asks : Asks packet function body) :
    (packet.bytes.take 8).length = 8 := by
  have long := (List.getElem?_eq_some_iff.mp asks.functionByte).1
  rw [List.length_take]
  omega

/-- A record at the front of the body is decoded. -/
theorem decode {codes : List Code} {values : Record codes}
    (asks : Asks packet function (encode codes values ++ rest)) :
    StructFormat.decode packet.read 8 codes = some values := by
  have decoded := decode_append asks.bytes_eq
  rwa [asks.length_take] at decoded

/-- Words are decoded from behind what comes before them. -/
theorem decodeWords {front : Packet} {values : List UInt16}
    (asks : Asks packet function (front ++ (wordBytes values ++ rest))) :
    StructFormat.decodeWords packet.read (8 + front.length) values.length = some values := by
  have layout := asks.bytes_eq
  rw [← List.append_assoc] at layout
  have decoded := decodeWords_append layout
  rwa [List.length_append, asks.length_take] at decoded

theorem decode_words {first second : UInt16}
    (asks : Asks packet function (wordBytes [first, second])) :
    StructFormat.decode packet.read 8 [.H, .H] = some (first, second, ()) := by
  have front : wordBytes [first, second] =
      encode [.H, .H] (first, second, ()) ++ [] := by
    simp [encode]
  rw [front] at asks
  exact asks.decode

/-- A byte count behind two words. -/
theorem decode_counted {first second : UInt16} {byteCount : UInt8}
    (asks : Asks packet function (wordBytes [first, second] ++ byteCount :: rest)) :
    StructFormat.decode packet.read 8 [.H, .H, .B] = some (first, second, byteCount, ()) := by
  have front : wordBytes [first, second] ++ byteCount :: rest =
      encode [.H, .H, .B] (first, second, byteCount, ()) ++ rest := by
    simp [encode]
  rw [front] at asks
  exact asks.decode

/-- A byte count behind four words. -/
theorem decode_counted_four {first second third fourth : UInt16} {byteCount : UInt8}
    (asks : Asks packet function
      (wordBytes [first, second, third, fourth] ++ byteCount :: rest)) :
    StructFormat.decode packet.read 8 [.H, .H, .H, .H, .B] =
      some (first, second, third, fourth, byteCount, ()) := by
  have front : wordBytes [first, second, third, fourth] ++ byteCount :: rest =
      encode [.H, .H, .H, .H, .B] (first, second, third, fourth, byteCount, ()) ++ rest := by
    simp [encode]
  rw [front] at asks
  exact asks.decode

theorem drop_counted {words : List UInt16} {byteCount : UInt8}
    (asks : Asks packet function (wordBytes words ++ byteCount :: rest)) :
    packet.bytes.drop (9 + 2 * words.length) = rest := by
  rw [show 9 + 2 * words.length = 8 + (2 * words.length + 1) by omega, ← List.drop_drop,
    asks.body, ← List.drop_drop, ← length_wordBytes, List.drop_left]
  rfl

/-- Words behind a byte count are decoded. -/
theorem decodeWords_counted {words values : List UInt16} {byteCount : UInt8}
    (asks : Asks packet function (wordBytes words ++ byteCount :: (wordBytes values ++ rest))) :
    StructFormat.decodeWords packet.read (9 + 2 * words.length) values.length =
      some values := by
  rw [List.append_cons] at asks
  have decoded := asks.decodeWords
  rwa [List.length_append, length_wordBytes, List.length_singleton,
    show 8 + (2 * words.length + 1) = 9 + 2 * words.length by omega] at decoded

end Asks

/-- The function that reads a block of bits. -/
def BitBlock.function : BitBlock → FunctionCode
  | coils => .readCoils
  | discreteInputs => .readDiscreteInputs

/-- The function that reads a block of registers. -/
def RegisterBlock.function : RegisterBlock → FunctionCode
  | holdingRegisters => .readHoldingRegisters
  | inputRegisters => .readInputRegisters

theorem BitBlock.function_supported (block : BitBlock) :
    block.function ∈ FunctionCode.supported := by
  cases block <;> decide

theorem RegisterBlock.function_supported (block : RegisterBlock) :
    block.function ∈ FunctionCode.supported := by
  cases block <;> decide

theorem checkBitsValue_coilWord (value : Bool) :
    checkBitsValue (Command.coilWord value) = true := by
  cases value <;> rfl

theorem coilWord_eq_on (value : Bool) : (⟨Command.coilWord value⟩ == Bits.on) = value := by
  cases value <;> rfl

theorem coilWord_injective {first second : Bool}
    (equal : Command.coilWord first = Command.coilWord second) : first = second := by
  revert first second
  decide

section Parsing

variable {packet : ByteBuffer} {address count : UInt16}

theorem parse_readBits (block : BitBlock)
    (decoded : decode packet.read 8 [.H, .H] = some (address, count, ())) :
    parse packet block.function = some (.ok (.readBits block address count)) := by
  cases block <;> simp [parse, BitBlock.function, decoded]

theorem parse_readRegisters (block : RegisterBlock)
    (decoded : decode packet.read 8 [.H, .H] = some (address, count, ())) :
    parse packet block.function = some (.ok (.readRegisters block address count)) := by
  cases block <;> simp [parse, RegisterBlock.function, decoded]

theorem parse_writeSingleCoil {value : Bool}
    (decoded : decode packet.read 8 [.H, .H] =
      some (address, Command.coilWord value, ())) :
    parse packet .writeSingleCoil = some (.ok (.writeSingleCoil address value)) := by
  simp [parse, decoded, checkBitsValue_coilWord, coilWord_eq_on]

theorem parse_writeSingleRegister {value : UInt16}
    (decoded : decode packet.read 8 [.H, .H] = some (address, value, ())) :
    parse packet .writeSingleRegister = some (.ok (.writeSingleRegister address value)) := by
  simp [parse, decoded]

theorem parse_maskWriteRegister {andMask orMask : UInt16}
    (decoded : decode packet.read 8 [.H, .H, .H] = some (address, andMask, orMask, ())) :
    parse packet .maskWriteRegister =
      some (.ok (.maskWriteRegister address andMask orMask)) := by
  simp [parse, decoded]

/-- The values of several coils are the first bits behind the byte count. -/
theorem parse_writeMultipleCoils_of_resize {byteCount : UInt8} (values : Values Bool count)
    (decoded : decode packet.read 8 [.H, .H, .B] = some (address, count, byteCount, ()))
    (carried : resize (unpackBits (packet.bytes.drop 13)) count.toNat false = values.val) :
    parse packet .writeMultipleCoils =
      some (.ok (.writeMultipleCoils address count values)) := by
  simp [parse, decoded, carried]

theorem parse_writeMultipleCoils {byteCount : UInt8} (values : Values Bool count)
    (decoded : decode packet.read 8 [.H, .H, .B] = some (address, count, byteCount, ()))
    (carried : packet.bytes.drop 13 = packBits values) :
    parse packet .writeMultipleCoils =
      some (.ok (.writeMultipleCoils address count values)) := by
  apply parse_writeMultipleCoils_of_resize values decoded
  have undone := resize_unpackBits_packBits values.val
  rw [values.property] at undone
  rw [carried, undone]

theorem parse_writeMultipleRegisters (values : Values UInt16 count) (small : count.toNat < 128)
    (decoded : decode packet.read 8 [.H, .H, .B] =
      some (address, count, registerBytes count, ()))
    (words : decodeWords packet.read 13 values.val.length = some values.val) :
    parse packet .writeMultipleRegisters =
      some (.ok (.writeMultipleRegisters address count values)) := by
  have whole : resize values.val count.toNat 0 = values.val :=
    resize_of_length 0 values.property
  rw [values.property] at words
  simp [parse, decoded, Nat.mod_eq_of_lt small, words, whole]

theorem parse_readWriteMultipleRegisters {readAddress readCount writeAddress writeCount : UInt16}
    (values : Values UInt16 writeCount) (small : writeCount.toNat < 128)
    (decoded : decode packet.read 8 [.H, .H, .H, .H, .B] =
      some (readAddress, readCount, writeAddress, writeCount, registerBytes writeCount, ()))
    (words : decodeWords packet.read 17 values.val.length = some values.val) :
    parse packet .readWriteMultipleRegisters =
      some (.ok (.readWriteMultipleRegisters readAddress readCount writeAddress writeCount
        values)) := by
  have whole : resize values.val writeCount.toNat 0 = values.val :=
    resize_of_length 0 values.property
  rw [values.property] at words
  simp [parse, decoded, Nat.mod_eq_of_lt small, words, whole]

end Parsing

section Inversion

/- What was decoded where a command was parsed. -/

variable {packet : ByteBuffer} {command : Command}

theorem exists_of_parse_readBits {block : BitBlock}
    (parsed : parse packet block.function = some (.ok command)) :
    ∃ address count, decode packet.read 8 [.H, .H] = some (address, count, ()) ∧
      command = .readBits block address count := by
  cases block <;>
    (obtain ⟨⟨address, count, ⟨⟩⟩, decoded, built⟩ := Option.bind_eq_some_iff.mp parsed
     exact ⟨address, count, decoded, (Except.ok.inj (Option.some.inj built)).symm⟩)

theorem exists_of_parse_readRegisters {block : RegisterBlock}
    (parsed : parse packet block.function = some (.ok command)) :
    ∃ address count, decode packet.read 8 [.H, .H] = some (address, count, ()) ∧
      command = .readRegisters block address count := by
  cases block <;>
    (obtain ⟨⟨address, count, ⟨⟩⟩, decoded, built⟩ := Option.bind_eq_some_iff.mp parsed
     exact ⟨address, count, decoded, (Except.ok.inj (Option.some.inj built)).symm⟩)

theorem exists_of_parse_writeSingleCoil
    (parsed : parse packet .writeSingleCoil = some (.ok command)) :
    ∃ address word, decode packet.read 8 [.H, .H] = some (address, word, ()) ∧
      checkBitsValue word = true ∧
      command = .writeSingleCoil address (⟨word⟩ == Bits.on) := by
  obtain ⟨⟨address, word, ⟨⟩⟩, decoded, built⟩ := Option.bind_eq_some_iff.mp parsed
  cases checked : checkBitsValue word with
  | false => simp [checked] at built
  | true =>
      simp only [checked, if_true, Option.some.injEq, Except.ok.injEq] at built
      exact ⟨address, word, decoded, checked, built.symm⟩

theorem exists_of_parse_writeSingleRegister
    (parsed : parse packet .writeSingleRegister = some (.ok command)) :
    ∃ address value, decode packet.read 8 [.H, .H] = some (address, value, ()) ∧
      command = .writeSingleRegister address value := by
  obtain ⟨⟨address, value, ⟨⟩⟩, decoded, built⟩ := Option.bind_eq_some_iff.mp parsed
  exact ⟨address, value, decoded, (Except.ok.inj (Option.some.inj built)).symm⟩

theorem exists_of_parse_writeMultipleCoils
    (parsed : parse packet .writeMultipleCoils = some (.ok command)) :
    ∃ address count byteCount,
      decode packet.read 8 [.H, .H, .B] = some (address, count, byteCount, ()) ∧
        command = .writeMultipleCoils address count
          ⟨resize (unpackBits (packet.bytes.drop 13)) count.toNat false, length_resize _ _ _⟩ := by
  obtain ⟨⟨address, count, byteCount, ⟨⟩⟩, decoded, built⟩ := Option.bind_eq_some_iff.mp parsed
  exact ⟨address, count, byteCount, decoded, (Except.ok.inj (Option.some.inj built)).symm⟩

theorem exists_of_parse_writeMultipleRegisters
    (parsed : parse packet .writeMultipleRegisters = some (.ok command)) :
    ∃ address count byteCount words,
      decode packet.read 8 [.H, .H, .B] = some (address, count, byteCount, ()) ∧
        byteCount.toNat = 2 * (count.toNat % 128) ∧
        decodeWords packet.read 13 (count.toNat % 128) = some words ∧
        command = .writeMultipleRegisters address count
          ⟨resize words count.toNat 0, length_resize _ _ _⟩ := by
  obtain ⟨⟨address, count, byteCount, ⟨⟩⟩, decoded, built⟩ := Option.bind_eq_some_iff.mp parsed
  by_cases sized : byteCount.toNat = 2 * (count.toNat % 128)
  · simp only [sized, if_true] at built
    obtain ⟨words, decodedWords, built⟩ := Option.bind_eq_some_iff.mp built
    exact ⟨address, count, byteCount, words, decoded, sized, decodedWords,
      (Except.ok.inj (Option.some.inj built)).symm⟩
  · simp [sized] at built

theorem exists_of_parse_maskWriteRegister
    (parsed : parse packet .maskWriteRegister = some (.ok command)) :
    ∃ address andMask orMask,
      decode packet.read 8 [.H, .H, .H] = some (address, andMask, orMask, ()) ∧
        command = .maskWriteRegister address andMask orMask := by
  obtain ⟨⟨address, andMask, orMask, ⟨⟩⟩, decoded, built⟩ := Option.bind_eq_some_iff.mp parsed
  exact ⟨address, andMask, orMask, decoded, (Except.ok.inj (Option.some.inj built)).symm⟩

theorem exists_of_parse_readWriteMultipleRegisters
    (parsed : parse packet .readWriteMultipleRegisters = some (.ok command)) :
    ∃ readAddress readCount writeAddress writeCount byteCount words,
      decode packet.read 8 [.H, .H, .H, .H, .B] =
          some (readAddress, readCount, writeAddress, writeCount, byteCount, ()) ∧
        byteCount.toNat = 2 * (writeCount.toNat % 128) ∧
        decodeWords packet.read 17 (writeCount.toNat % 128) = some words ∧
        command = .readWriteMultipleRegisters readAddress readCount writeAddress writeCount
          ⟨resize words writeCount.toNat 0, length_resize _ _ _⟩ := by
  obtain ⟨⟨readAddress, readCount, writeAddress, writeCount, byteCount, ⟨⟩⟩, decoded, built⟩ :=
    Option.bind_eq_some_iff.mp parsed
  by_cases sized : byteCount.toNat = 2 * (writeCount.toNat % 128)
  · simp only [sized, if_true] at built
    obtain ⟨words, decodedWords, built⟩ := Option.bind_eq_some_iff.mp built
    exact ⟨readAddress, readCount, writeAddress, writeCount, byteCount, words, decoded, sized,
      decodedWords, (Except.ok.inj (Option.some.inj built)).symm⟩
  · simp [sized] at built

end Inversion

end ModbusCpp
