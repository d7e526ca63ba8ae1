import ModbusCpp.BitString
import ModbusCpp.Types

/-!
# Packing and unpacking of coils

`operation.cpp`.  Both loops compute in `int`: a `char` is sign extended before
it is combined with a bit, and the result is cut to eight bits where it is
stored in a `char` again.
-/

namespace ModbusCpp

open BitString

/-- The local variables of `pack_bits`. -/
structure Packing where
  packet : Packet := []
  shift : Nat := 0
  oneByte : BitVec 8 := 0

/-- One round of the loop of `pack_bits`. -/
def packBit (state : Packing) (bit : Bool) : Packing :=
  let oneByte : BitVec 8 :=
    (state.oneByte.signExtend 32 ||| (BitVec.ofBool bit).setWidth 32 <<< state.shift).setWidth 8
  if state.shift = 7 then
    { packet := state.packet ++ [⟨oneByte⟩], shift := 0, oneByte := 0 }
  else { state with oneByte, shift := state.shift + 1 }

/-- `pack_bits(begin, end)` -/
def packBits (bits : List Bool) : Packet :=
  let state := bits.foldl packBit {}
  if state.shift ≠ 0 then state.packet ++ [⟨state.oneByte⟩] else state.packet

/-- The inner loop of `unpack_bits`.  An `int` has 32 bits, so `bit` is zero
after 32 rounds at the latest. -/
def unpackByte (byte : UInt8) : (rounds : Nat) → (bit : BitVec 32) → List Bool
  | 0, _ => []
  | rounds + 1, bit =>
      if bit &&& 0xff#32 = 0 then []
      else (byte.toBitVec.signExtend 32 &&& bit != 0) :: unpackByte byte rounds (bit <<< 1)

/-- `unpack_bits(begin, end)` -/
def unpackBits (bytes : Packet) : List Bool :=
  bytes.flatMap fun byte => unpackByte byte 32 0x01#32

/-- The inner loop visits the eight bits of the byte. -/
theorem unpackByte_eq (byte : UInt8) :
    unpackByte byte 32 0x01#32 = byteBits byte.toBitVec := by
  rcases byte with ⟨byte⟩
  revert byte
  decide +kernel

theorem unpackBits_eq (bytes : Packet) : unpackBits bytes = bits bytes := by
  simp only [unpackBits, bits, unpackByte_eq]

/-- The invariant of `pack_bits`: the stored bytes hold whole groups of eight
bits, and the current byte the bits since the last group. -/
def Packs (state : Packing) (processed : List Bool) : Prop :=
  ∃ used : List Bool,
    processed = bits state.packet ++ used ∧ used.length = state.shift ∧ state.shift < 8 ∧
      byteBits state.oneByte = used ++ List.replicate (8 - state.shift) false

theorem packs_initial : Packs {} [] :=
  ⟨[], by decide⟩

private theorem packBit_oneByte (oneByte : BitVec 8) (bit : Bool) (shift : Nat) :
    (oneByte.signExtend 32 ||| (BitVec.ofBool bit).setWidth 32 <<< shift).setWidth 8 =
      oneByte ||| (BitVec.ofBool bit).setWidth 8 <<< shift := by
  apply BitVec.eq_of_getLsbD_eq
  intro position inside
  have wide : position < 32 := by omega
  simp only [BitVec.getLsbD_setWidth, BitVec.getLsbD_or, BitVec.getLsbD_signExtend,
    BitVec.getLsbD_shiftLeft, inside, wide, if_true, decide_true, Bool.true_and]
  by_cases before : position < shift
  · simp [before]
  · simp [before, show position - shift < 8 by omega, show position - shift < 32 by omega]

theorem packBit_packs {state : Packing} {processed : List Bool} (bit : Bool)
    (packs : Packs state processed) : Packs (packBit state bit) (processed ++ [bit]) := by
  rcases packs with ⟨used, split, lengthEq, small, current⟩
  rw [← lengthEq] at small current
  have extended := byteBits_or_shiftLeft bit small current
  rw [packBit, packBit_oneByte, ← lengthEq]
  by_cases full : used.length = 7
  · rw [if_pos full]
    refine ⟨[], ?_, rfl, by simp, by simp only; decide⟩
    rw [full] at extended
    simp [split, full, extended]
  · rw [if_neg full]
    refine ⟨used ++ [bit], by simp [split], by simp, by simp only; omega, ?_⟩
    simp only [extended]
    rw [show 8 - (used.length + 1) = 7 - used.length by omega]
    simp

theorem foldl_packBit_packs {state : Packing} {processed : List Bool} (pending : List Bool)
    (packs : Packs state processed) :
    Packs (pending.foldl packBit state) (processed ++ pending) := by
  induction pending generalizing state processed with
  | nil => simpa using packs
  | cons bit pending ih => simpa using ih (packBit_packs bit packs)

/-- Packing keeps the bits in order and clears the unused ones of the last
byte. -/
theorem bits_packBits (values : List Bool) :
    bits (packBits values) =
      values ++ List.replicate (8 * ((values.length + 7) / 8) - values.length) false := by
  obtain ⟨used, split, lengthEq, small, current⟩ := foldl_packBit_packs values packs_initial
  rw [List.nil_append] at split
  have count := congrArg List.length split
  simp only [List.length_append, length_bits] at count
  simp only [packBits]
  generalize values.foldl packBit {} = state at *
  by_cases flushed : state.shift = 0
  · have nothing : used = [] := List.eq_nil_of_length_eq_zero (by omega)
    have noPadding : 8 * ((values.length + 7) / 8) - values.length = 0 := by omega
    rw [noPadding]
    simp [flushed, split, nothing]
  · have rest : 8 * ((values.length + 7) / 8) - values.length = 8 - state.shift := by omega
    rw [rest]
    simp [flushed, split, current]

@[simp]
theorem length_packBits (values : List Bool) :
    (packBits values).length = (values.length + 7) / 8 := by
  have lengths := congrArg List.length (bits_packBits values)
  simp only [length_bits, List.length_append, List.length_replicate] at lengths
  omega

/-- Unpacking what was packed gives the bits back, and less than a byte of
padding. -/
theorem unpackBits_packBits (values : List Bool) :
    unpackBits (packBits values) =
      values ++ List.replicate (8 * ((values.length + 7) / 8) - values.length) false := by
  rw [unpackBits_eq, bits_packBits]

theorem length_unpackBits (bytes : Packet) : (unpackBits bytes).length = 8 * bytes.length := by
  rw [unpackBits_eq, length_bits]

/-- A packed bit stands in its byte, at its position there. -/
theorem getElem?_packBits (values : List Bool) {index : Nat} (inside : index < values.length) :
    (packBits values)[index / 8]?.map (fun byte => byte.toBitVec.getLsbD (index % 8)) =
      values[index]? := by
  rw [← getElem?_bits, bits_packBits, List.getElem?_append_left inside]

/-- The bits of the last byte that are not used are clear. -/
theorem getElem?_packBits_unused (values : List Bool) {index : Nat}
    (unused : values.length ≤ index) (inside : index < 8 * (packBits values).length) :
    (packBits values)[index / 8]?.map (fun byte => byte.toBitVec.getLsbD (index % 8)) =
      some false := by
  rw [length_packBits] at inside
  rw [← getElem?_bits, bits_packBits, List.getElem?_append_right unused,
    List.getElem?_replicate, if_pos (by omega)]

/-- Packing what was unpacked gives the bytes back. -/
theorem packBits_unpackBits (bytes : Packet) : packBits (unpackBits bytes) = bytes := by
  apply bits_injective
  have whole : 8 * ((8 * bytes.length + 7) / 8) - 8 * bytes.length = 0 := by omega
  rw [unpackBits_eq, bits_packBits, length_bits, whole, List.replicate_zero, List.append_nil]

/-- Cutting the unpacked bits to their number undoes packing. -/
theorem resize_unpackBits_packBits (values : List Bool) :
    resize (unpackBits (packBits values)) values.length false = values := by
  rw [unpackBits_packBits, resize_of_le _ (by simp)]
  simp

/-- Packing and unpacking are inverse, up to the padding of the last byte. -/
theorem packing_inverse (values : List Bool) (bytes : Packet) :
    ((packBits values).length = (values.length + 7) / 8 ∧
      (∀ index < values.length,
        (packBits values)[index / 8]?.map (fun byte => byte.toBitVec.getLsbD (index % 8)) =
          values[index]?) ∧
      (∀ index, values.length ≤ index → index < 8 * (packBits values).length →
        (packBits values)[index / 8]?.map (fun byte => byte.toBitVec.getLsbD (index % 8)) =
          some false) ∧
      ∃ padding < 8,
        unpackBits (packBits values) = values ++ List.replicate padding false) ∧
    (unpackBits bytes).length = 8 * bytes.length ∧
    packBits (unpackBits bytes) = bytes := by
  refine ⟨⟨length_packBits values, ?_, ?_, ?_⟩, length_unpackBits bytes,
    packBits_unpackBits bytes⟩
  · intro index inside
    exact getElem?_packBits values inside
  · intro index unused inside
    exact getElem?_packBits_unused values unused inside
  · have short : 8 * ((values.length + 7) / 8) - values.length < 8 := by omega
    exact ⟨_, short, unpackBits_packBits values⟩

end ModbusCpp
