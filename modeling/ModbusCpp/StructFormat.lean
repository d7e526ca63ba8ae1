import ModbusCpp.ByteBuffer

/-!
# Fixed-width big-endian records

A format is a list of codes, one for each field of a record: `B` an unsigned
byte, `H` an unsigned 16-bit word.  A record is laid out without padding and
most significant byte first.  Decoding reads the bytes one by one through a
partial reader and fails as soon as one of them is missing.
-/

namespace StructFormat

/-- The type of one field. -/
inductive Code
  | B
  | H
  deriving DecidableEq

namespace Code

def width : Code → Nat
  | B => 1
  | H => 2

abbrev Value : Code → Type
  | B => UInt8
  | H => UInt16

def encode : (code : Code) → code.Value → List UInt8
  | B, value => [value]
  | H, value => [UInt8.ofNat (value.toNat / 256), UInt8.ofNat value.toNat]

def decode (read : Nat → Option UInt8) (offset : Nat) :
    (code : Code) → Option code.Value
  | B => read offset
  | H => do
      let high ← read offset
      let low ← read (offset + 1)
      pure (UInt16.ofNat (256 * high.toNat + low.toNat))

@[simp]
theorem encode_length (code : Code) (value : code.Value) :
    (code.encode value).length = code.width := by
  cases code <;> rfl

@[simp]
theorem encode_byte (value : UInt8) : encode .B value = [value] :=
  rfl

/-- Two bytes are the encoding of the word they decode to. -/
theorem encode_word (high low : UInt8) :
    encode .H (UInt16.ofNat (256 * high.toNat + low.toNat)) = [high, low] := by
  have highLt := high.toNat_lt
  have lowLt := low.toNat_lt
  have word : (UInt16.ofNat (256 * high.toNat + low.toNat)).toNat =
      256 * high.toNat + low.toNat := by
    rw [UInt16.toNat_ofNat']
    omega
  have highByte : UInt8.ofNat ((256 * high.toNat + low.toNat) / 256) = high := by
    apply UInt8.toNat_inj.mp
    rw [UInt8.toNat_ofNat']
    omega
  have lowByte : UInt8.ofNat (256 * high.toNat + low.toNat) = low := by
    apply UInt8.toNat_inj.mp
    rw [UInt8.toNat_ofNat']
    omega
  simp only [encode, word, highByte, lowByte]

/-- A word decodes from its two bytes. -/
theorem decode_word (value : UInt16) :
    UInt16.ofNat (256 * (UInt8.ofNat (value.toNat / 256)).toNat +
      (UInt8.ofNat value.toNat).toNat) = value := by
  have valueLt := value.toNat_lt
  apply UInt16.toNat_inj.mp
  simp only [UInt16.toNat_ofNat', UInt8.toNat_ofNat']
  omega

theorem decode_eq_some_iff {read : Nat → Option UInt8} {offset : Nat} {code : Code}
    {value : code.Value} :
    decode read offset code = some value ↔
      ∀ index < code.width, read (offset + index) = (code.encode value)[index]? := by
  cases code with
  | B => simp [decode, encode, width]
  | H =>
      constructor
      · intro decoded
        simp only [decode, Option.bind_eq_bind, Option.pure_def, Option.bind_eq_some_iff,
          Option.some.injEq] at decoded
        rcases decoded with ⟨high, highRead, low, lowRead, rfl⟩
        rw [encode_word]
        intro index indexLt
        have : index = 0 ∨ index = 1 := by simp only [width] at indexLt; omega
        rcases this with rfl | rfl
        · simpa using highRead
        · simpa using lowRead
      · intro bytes
        have highRead := bytes 0 (by simp [width])
        have lowRead := bytes 1 (by simp [width])
        simp only [encode, Nat.add_zero, List.getElem?_cons_zero, List.getElem?_cons_succ]
          at highRead lowRead
        simp only [decode, highRead, lowRead, Option.bind_eq_bind, Option.bind_some,
          Option.pure_def]
        exact congrArg some (decode_word value)

theorem decode_isSome_iff {read : Nat → Option UInt8} {offset : Nat} {code : Code} :
    (decode read offset code).isSome = true ↔
      ∀ index < code.width, (read (offset + index)).isSome = true := by
  constructor
  · intro decoded index indexLt
    obtain ⟨value, decoded⟩ := Option.isSome_iff_exists.mp decoded
    rw [decode_eq_some_iff.mp decoded index indexLt]
    simp [indexLt]
  · intro defined
    cases code with
    | B => simpa [decode] using defined 0 (by simp [width])
    | H =>
        obtain ⟨high, highRead⟩ :=
          Option.isSome_iff_exists.mp (defined 0 (by simp [width]))
        obtain ⟨low, lowRead⟩ :=
          Option.isSome_iff_exists.mp (defined 1 (by simp [width]))
        have highRead : read offset = some high := by simpa using highRead
        simp [decode, highRead, lowRead]

end Code

/-- A record has one value for each code of its format. -/
abbrev Record : List Code → Type
  | [] => Unit
  | code :: codes => code.Value × Record codes

def width : List Code → Nat
  | [] => 0
  | code :: codes => code.width + width codes

/-- The bytes of a record. -/
def encode : (codes : List Code) → Record codes → List UInt8
  | [], () => []
  | code :: codes, (value, values) => code.encode value ++ encode codes values

/-- Read a record through `read` from `offset` on. -/
def decode (read : Nat → Option UInt8) : (offset : Nat) → (codes : List Code) →
    Option (Record codes)
  | _, [] => some ()
  | offset, code :: codes => do
      let value ← code.decode read offset
      let values ← decode read (offset + code.width) codes
      pure (value, values)

@[simp]
theorem encode_length (codes : List Code) (values : Record codes) :
    (encode codes values).length = width codes := by
  induction codes with
  | nil => rfl
  | cons code codes ih =>
      rcases values with ⟨value, values⟩
      simp [encode, width, ih]

/-- A record is read field by field. -/
theorem decode_cons_eq_some_iff {read : Nat → Option UInt8} {offset : Nat} {code : Code}
    {codes : List Code} {value : code.Value} {values : Record codes} :
    decode read offset (code :: codes) = some (value, values) ↔
      code.decode read offset = some value ∧
        decode read (offset + code.width) codes = some values := by
  simp only [decode]
  cases code.decode read offset <;> cases decode read (offset + code.width) codes <;> simp

/-- A record only depends on the bytes it is read from. -/
theorem decode_congr {read other : Nat → Option UInt8} {offset : Nat} {codes : List Code}
    (agree : ∀ index < width codes, read (offset + index) = other (offset + index)) :
    decode read offset codes = decode other offset codes := by
  induction codes generalizing offset with
  | nil => rfl
  | cons code codes ih =>
      have head : code.decode read offset = code.decode other offset := by
        cases code with
        | B => exact agree 0 (Nat.lt_of_lt_of_le Nat.one_pos (Nat.le_add_right _ _))
        | H =>
            have high : read offset = other offset :=
              agree 0 (by simp only [width, Code.width]; omega)
            have low : read (offset + 1) = other (offset + 1) :=
              agree 1 (by simp only [width, Code.width]; omega)
            rw [Code.decode, high, low, Code.decode]
      have tail : decode read (offset + code.width) codes =
          decode other (offset + code.width) codes := by
        apply ih
        intro index indexLt
        rw [Nat.add_assoc]
        exact agree (code.width + index) (by simp only [width]; omega)
      rw [decode, head, tail, decode]

/-- The first two words of a record, and what follows them. -/
theorem decode_words_cons {read : Nat → Option UInt8} {offset : Nat} {codes : List Code}
    {first second : UInt16} {rest : Record codes}
    (decoded : decode read offset (.H :: .H :: codes) = some (first, second, rest)) :
    decode read offset [.H, .H] = some (first, second, ()) ∧
      decode read (offset + 4) codes = some rest := by
  obtain ⟨head, tail⟩ := decode_cons_eq_some_iff.mp decoded
  obtain ⟨next, behind⟩ := decode_cons_eq_some_iff.mp tail
  refine ⟨decode_cons_eq_some_iff.mpr ⟨head, decode_cons_eq_some_iff.mpr ⟨next, rfl⟩⟩, ?_⟩
  rwa [Nat.add_assoc] at behind

/-- A record is read exactly from the bytes that encode it. -/
theorem decode_eq_some_iff {read : Nat → Option UInt8} {offset : Nat}
    {codes : List Code} {values : Record codes} :
    decode read offset codes = some values ↔
      ∀ index < width codes, read (offset + index) = (encode codes values)[index]? := by
  induction codes generalizing offset with
  | nil => simp [decode, width]
  | cons code codes ih =>
      rcases values with ⟨value, values⟩
      rw [decode_cons_eq_some_iff, Code.decode_eq_some_iff, ih]
      simp only [encode, width]
      constructor
      · rintro ⟨head, tail⟩ index indexLt
        by_cases inHead : index < code.width
        · rw [head index inHead, List.getElem?_append_left (by simpa using inHead)]
        · rw [List.getElem?_append_right (by simpa using inHead), Code.encode_length,
            ← tail (index - code.width) (by omega)]
          congr 1
          omega
      · intro bytes
        refine ⟨fun index indexLt => ?_, fun index indexLt => ?_⟩
        · rw [bytes index (by omega), List.getElem?_append_left (by simpa using indexLt)]
        · rw [Nat.add_assoc, bytes (code.width + index) (by omega),
            List.getElem?_append_right (by simp)]
          simp

/-- A record is read exactly when all its bytes are there. -/
theorem decode_isSome_iff {read : Nat → Option UInt8} {offset : Nat}
    {codes : List Code} :
    (decode read offset codes).isSome = true ↔
      ∀ index < width codes, (read (offset + index)).isSome = true := by
  induction codes generalizing offset with
  | nil => simp [decode, width]
  | cons code codes ih =>
      have split : (decode read offset (code :: codes)).isSome = true ↔
          (code.decode read offset).isSome = true ∧
            (decode read (offset + code.width) codes).isSome = true := by
        simp only [decode]
        cases code.decode read offset <;>
          cases decode read (offset + code.width) codes <;> simp
      rw [split, Code.decode_isSome_iff, ih]
      simp only [width]
      constructor
      · rintro ⟨head, tail⟩ index indexLt
        by_cases inHead : index < code.width
        · exact head index inHead
        · have defined := tail (index - code.width) (by omega)
          rwa [show offset + code.width + (index - code.width) = offset + index by omega]
            at defined
      · intro defined
        refine ⟨fun index indexLt => defined index (by omega), fun index indexLt => ?_⟩
        rw [Nat.add_assoc]
        exact defined (code.width + index) (by omega)

/-- A record that lies in the byte string is read from it, whatever lies
before and behind. -/
theorem decode_append {buffer : ByteBuffer} {before after : List UInt8}
    {codes : List Code} {values : Record codes}
    (layout : buffer.bytes = before ++ (encode codes values ++ after)) :
    decode buffer.read before.length codes = some values := by
  apply decode_eq_some_iff.mpr
  intro index indexLt
  have inside : before.length + index < buffer.size := by
    simp only [ByteBuffer.size, layout, List.length_append, encode_length]
    omega
  rw [ByteBuffer.read_of_lt inside, layout, List.getElem?_append_right (by omega),
    List.getElem?_append_left (by simp only [encode_length]; omega)]
  congr 1
  omega

/-- Behind a guarded string no part of a record is read. -/
theorem decode_guarded_isSome_iff {bytes : List UInt8} {offset : Nat}
    (inside : offset ≤ bytes.length) (codes : List Code) :
    (decode (ByteBuffer.guarded bytes).read offset codes).isSome = true ↔
      offset + width codes ≤ bytes.length := by
  simp only [decode_isSome_iff, ByteBuffer.read_guarded_isSome]
  constructor
  · intro defined
    by_contra outside
    have last := defined (width codes - 1) (by omega)
    omega
  · intro fits index indexLt
    omega

/-- Behind an unguarded string there is always something to read. -/
theorem exists_decode_unguarded (bytes : List UInt8) (rest : Nat → UInt8) (offset : Nat)
    (codes : List Code) :
    ∃ values, decode (ByteBuffer.unguarded bytes rest).read offset codes = some values :=
  Option.isSome_iff_exists.mp
    (decode_isSome_iff.mpr fun _ _ => ByteBuffer.read_unguarded_isSome bytes rest _)

/-- The bytes of a sequence of words. -/
def wordBytes (values : List UInt16) : List UInt8 :=
  values.flatMap fun value => Code.encode .H value

@[simp]
theorem wordBytes_nil : wordBytes [] = [] :=
  rfl

@[simp]
theorem wordBytes_cons (value : UInt16) (values : List UInt16) :
    wordBytes (value :: values) = Code.encode .H value ++ wordBytes values :=
  rfl

@[simp]
theorem length_wordBytes (values : List UInt16) :
    (wordBytes values).length = 2 * values.length := by
  induction values with
  | nil => rfl
  | cons value values ih =>
      simp only [wordBytes_cons, List.length_append, Code.encode_length, Code.width, ih,
        List.length_cons]
      omega

/-- Read `count` words through `read` from `offset` on. -/
def decodeWords (read : Nat → Option UInt8) : (offset count : Nat) → Option (List UInt16)
  | _, 0 => some []
  | offset, count + 1 => do
      let value ← Code.decode read offset .H
      let values ← decodeWords read (offset + 2) count
      pure (value :: values)

theorem length_of_decodeWords {read : Nat → Option UInt8} {offset count : Nat}
    {values : List UInt16} (decoded : decodeWords read offset count = some values) :
    values.length = count := by
  induction count generalizing offset values with
  | zero => simp [← Option.some.inj decoded]
  | succ count ih =>
      simp only [decodeWords, Option.bind_eq_bind, Option.pure_def, Option.bind_eq_some_iff,
        Option.some.injEq] at decoded
      rcases decoded with ⟨value, -, tail, tailDecoded, rfl⟩
      simp [ih tailDecoded]

/-- Words are read from the bytes that encode them. -/
theorem decodeWords_of_bytes {read : Nat → Option UInt8} {offset : Nat}
    {values : List UInt16}
    (bytes : ∀ index < 2 * values.length, read (offset + index) = (wordBytes values)[index]?) :
    decodeWords read offset values.length = some values := by
  induction values generalizing offset with
  | nil => rfl
  | cons value values ih =>
      have head : Code.decode read offset .H = some value := by
        apply Code.decode_eq_some_iff.mpr
        intro index indexLt
        simp only [Code.width] at indexLt
        rw [bytes index (by simp only [List.length_cons]; omega), wordBytes_cons,
          List.getElem?_append_left (by simpa [Code.width] using indexLt)]
      have tail : decodeWords read (offset + 2) values.length = some values := by
        apply ih
        intro index indexLt
        rw [Nat.add_assoc, bytes (2 + index) (by simp only [List.length_cons]; omega),
          wordBytes_cons, List.getElem?_append_right (by simp [Code.width])]
        simp [Code.width]
      simp [decodeWords, head, tail]

/-- Words are read exactly when all their bytes are there. -/
theorem decodeWords_isSome_iff {read : Nat → Option UInt8} {offset count : Nat} :
    (decodeWords read offset count).isSome = true ↔
      ∀ index < 2 * count, (read (offset + index)).isSome = true := by
  induction count generalizing offset with
  | zero => simp [decodeWords]
  | succ count ih =>
      have split : (decodeWords read offset (count + 1)).isSome = true ↔
          (Code.decode read offset .H).isSome = true ∧
            (decodeWords read (offset + 2) count).isSome = true := by
        simp only [decodeWords]
        cases Code.decode read offset .H <;>
          cases decodeWords read (offset + 2) count <;> simp
      rw [split, Code.decode_isSome_iff, ih]
      simp only [Code.width]
      constructor
      · rintro ⟨head, tail⟩ index indexLt
        by_cases inHead : index < 2
        · exact head index inHead
        · have defined := tail (index - 2) (by omega)
          rwa [show offset + 2 + (index - 2) = offset + index by omega] at defined
      · intro defined
        refine ⟨fun index indexLt => defined index (by omega), fun index indexLt => ?_⟩
        rw [Nat.add_assoc]
        exact defined (2 + index) (by omega)

/-- Words only depend on the bytes they are read from. -/
theorem decodeWords_congr {read other : Nat → Option UInt8} {offset count : Nat}
    (agree : ∀ index < 2 * count, read (offset + index) = other (offset + index)) :
    decodeWords read offset count = decodeWords other offset count := by
  induction count generalizing offset with
  | zero => rfl
  | succ count ih =>
      have high : read offset = other offset := agree 0 (by omega)
      have low : read (offset + 1) = other (offset + 1) := agree 1 (by omega)
      have tail : decodeWords read (offset + 2) count = decodeWords other (offset + 2) count := by
        apply ih
        intro index indexLt
        rw [Nat.add_assoc]
        exact agree (2 + index) (by omega)
      rw [decodeWords, decodeWords, tail, Code.decode, high, low, Code.decode]

/-- Words that lie in the byte string are read from it, whatever lies before
and behind. -/
theorem decodeWords_append {buffer : ByteBuffer} {before after : List UInt8}
    {values : List UInt16} (layout : buffer.bytes = before ++ (wordBytes values ++ after)) :
    decodeWords buffer.read before.length values.length = some values := by
  apply decodeWords_of_bytes
  intro index indexLt
  have inside : before.length + index < buffer.size := by
    simp only [ByteBuffer.size, layout, List.length_append, length_wordBytes]
    omega
  rw [ByteBuffer.read_of_lt inside, layout, List.getElem?_append_right (by omega),
    List.getElem?_append_left (by simp only [length_wordBytes]; omega)]
  congr 1
  omega

/-- The upper and the lower byte of a word, by its place. -/
theorem getElem?_wordBytes (values : List UInt16) (index : Nat) :
    (wordBytes values)[2 * index]? =
        values[index]?.map (fun value => UInt8.ofNat (value.toNat / 256)) ∧
      (wordBytes values)[2 * index + 1]? =
        values[index]?.map (fun value => UInt8.ofNat value.toNat) := by
  induction values generalizing index with
  | nil => simp
  | cons value values ih =>
      rw [wordBytes_cons]
      cases index with
      | zero => exact ⟨rfl, rfl⟩
      | succ index =>
          obtain ⟨upper, lower⟩ := ih index
          exact ⟨upper, lower⟩

/-- A word of a sequence is the word at its place. -/
theorem getElem?_decodeWords {read : Nat → Option UInt8} {offset count index : Nat}
    {values : List UInt16} (decoded : decodeWords read offset count = some values)
    (inside : index < count) :
    values[index]? = Code.decode read (offset + 2 * index) .H := by
  induction count generalizing offset index values with
  | zero => omega
  | succ count ih =>
      obtain ⟨value, head, rest⟩ := Option.bind_eq_some_iff.mp decoded
      obtain ⟨tail, tailDecoded, built⟩ := Option.bind_eq_some_iff.mp rest
      obtain rfl := Option.some.inj built
      cases index with
      | zero => exact head.symm
      | succ index =>
          rw [List.getElem?_cons_succ, ih tailDecoded (by omega)]
          congr 1
          omega

/-- A string of bytes that is long enough starts with words. -/
theorem exists_wordBytes {bytes : List UInt8} {count : Nat} (long : 2 * count ≤ bytes.length) :
    ∃ values rest, values.length = count ∧ bytes = wordBytes values ++ rest := by
  induction count generalizing bytes with
  | zero => exact ⟨[], bytes, rfl, rfl⟩
  | succ count ih =>
      rcases bytes with _ | ⟨high, _ | ⟨low, bytes⟩⟩
      · simp at long
      · simp only [List.length_singleton] at long
        omega
      · simp only [List.length_cons] at long
        obtain ⟨values, rest, lengthEq, rfl⟩ := @ih bytes (by omega)
        refine ⟨UInt16.ofNat (256 * high.toNat + low.toNat) :: values, rest, ?_, ?_⟩
        · rw [List.length_cons, lengthEq]
        · rw [wordBytes_cons, Code.encode_word]
          rfl

/-- A sequence of words is determined by its bytes. -/
theorem wordBytes_injective {first second : List UInt16}
    (equal : wordBytes first = wordBytes second) : first = second := by
  have lengths := congrArg List.length equal
  simp only [length_wordBytes] at lengths
  have read (values : List UInt16) :
      decodeWords (ByteBuffer.guarded (wordBytes values)).read 0 values.length =
        some values := by
    have layout : (ByteBuffer.guarded (wordBytes values)).bytes =
        [] ++ (wordBytes values ++ []) := by simp [ByteBuffer.guarded]
    exact decodeWords_append layout
  have same := read second
  rw [show second.length = first.length by omega, ← equal, read first] at same
  exact Option.some.inj same

theorem wordBytes_inj {first second : List UInt16} :
    wordBytes first = wordBytes second ↔ first = second :=
  ⟨wordBytes_injective, congrArg wordBytes⟩

/-- Words are read exactly as far as a guarded string reaches. -/
theorem decodeWords_guarded_isSome_iff {bytes : List UInt8} {offset : Nat}
    (inside : offset ≤ bytes.length) (count : Nat) :
    (decodeWords (ByteBuffer.guarded bytes).read offset count).isSome = true ↔
      offset + 2 * count ≤ bytes.length := by
  simp only [decodeWords_isSome_iff, ByteBuffer.read_guarded_isSome]
  constructor
  · intro defined
    by_contra outside
    have last := defined (2 * count - 1) (by omega)
    omega
  · intro fits index indexLt
    omega

/-- What is decoded from a guarded string is decoded from it with any memory
behind. -/
theorem decode_of_guarded {buffer : ByteBuffer} {offset : Nat} {codes : List Code}
    {values : Record codes}
    (decoded : decode (ByteBuffer.guarded buffer.bytes).read offset codes = some values) :
    decode buffer.read offset codes = some values := by
  have defined := decode_isSome_iff.mp (Option.isSome_of_eq_some decoded)
  rw [← decoded]
  apply decode_congr
  intro index indexLt
  have inside := (ByteBuffer.read_guarded_isSome _ _).mp (defined index indexLt)
  exact ByteBuffer.read_append (List.append_nil _).symm inside

theorem decodeWords_of_guarded {buffer : ByteBuffer} {offset count : Nat}
    {values : List UInt16}
    (decoded : decodeWords (ByteBuffer.guarded buffer.bytes).read offset count = some values) :
    decodeWords buffer.read offset count = some values := by
  have defined := decodeWords_isSome_iff.mp (Option.isSome_of_eq_some decoded)
  rw [← decoded]
  apply decodeWords_congr
  intro index indexLt
  have inside := (ByteBuffer.read_guarded_isSome _ _).mp (defined index indexLt)
  exact ByteBuffer.read_append (List.append_nil _).symm inside

theorem exists_decodeWords_unguarded (bytes : List UInt8) (rest : Nat → UInt8)
    (offset count : Nat) :
    ∃ values,
      decodeWords (ByteBuffer.unguarded bytes rest).read offset count = some values :=
  Option.isSome_iff_exists.mp
    (decodeWords_isSome_iff.mpr fun _ _ => ByteBuffer.read_unguarded_isSome bytes rest _)

end StructFormat
