import Mathlib.Data.List.Basic
import Mathlib.Tactic.Common

/-!
# Byte strings as bit strings

The bits of a byte string, byte after byte and least significant bit first.
A byte string is determined by its bits.
-/

namespace BitString

/-- The eight bits of a byte, least significant first. -/
def byteBits (byte : BitVec 8) : List Bool :=
  (List.range 8).map byte.getLsbD

@[simp]
theorem length_byteBits (byte : BitVec 8) : (byteBits byte).length = 8 := by
  simp [byteBits]

theorem getElem?_byteBits (byte : BitVec 8) {position : Nat} (inside : position < 8) :
    (byteBits byte)[position]? = some (byte.getLsbD position) := by
  simp [byteBits, inside]

theorem byteBits_injective {first second : BitVec 8}
    (equal : byteBits first = byteBits second) : first = second := by
  apply BitVec.eq_of_getLsbD_eq
  intro position inside
  have bit := congrArg (fun bits => bits[position]?) equal
  simpa only [getElem?_byteBits _ inside, Option.some.injEq] using bit

/-- The bits of a byte string. -/
def bits (bytes : List UInt8) : List Bool :=
  bytes.flatMap fun byte => byteBits byte.toBitVec

@[simp]
theorem bits_nil : bits [] = [] :=
  rfl

@[simp]
theorem bits_cons (byte : UInt8) (bytes : List UInt8) :
    bits (byte :: bytes) = byteBits byte.toBitVec ++ bits bytes :=
  rfl

@[simp]
theorem bits_append (first second : List UInt8) :
    bits (first ++ second) = bits first ++ bits second := by
  simp [bits]

@[simp]
theorem length_bits (bytes : List UInt8) : (bits bytes).length = 8 * bytes.length := by
  induction bytes with
  | nil => rfl
  | cons byte bytes ih =>
      simp only [bits_cons, List.length_append, length_byteBits, ih, List.length_cons]
      omega

/-- A bit of a byte string, by its byte and its position there. -/
theorem getElem?_bits (bytes : List UInt8) (position : Nat) :
    (bits bytes)[position]? =
      bytes[position / 8]?.map fun byte => byte.toBitVec.getLsbD (position % 8) := by
  induction bytes generalizing position with
  | nil => simp
  | cons byte bytes ih =>
      rw [bits_cons]
      by_cases first : position < 8
      · rw [List.getElem?_append_left (by simpa using first), getElem?_byteBits byte.toBitVec first,
          Nat.div_eq_of_lt first, Nat.mod_eq_of_lt first]
        rfl
      · have later : position = 8 + (position - 8) := by omega
        rw [List.getElem?_append_right (by simpa using first), length_byteBits, ih]
        rw [show position / 8 = (position - 8) / 8 + 1 by omega,
          show position % 8 = (position - 8) % 8 by omega, List.getElem?_cons_succ]

theorem bits_injective {first second : List UInt8} (equal : bits first = bits second) :
    first = second := by
  induction first generalizing second with
  | nil =>
      have lengths := congrArg List.length equal
      simp only [bits_nil, List.length_nil, length_bits] at lengths
      exact (List.eq_nil_of_length_eq_zero (by omega)).symm
  | cons byte bytes ih =>
      cases second with
      | nil =>
          have lengths := congrArg List.length equal
          simp at lengths
      | cons other others =>
          rw [bits_cons, bits_cons] at equal
          obtain ⟨heads, tails⟩ := List.append_inj equal (by simp)
          rw [ih tails, UInt8.toBitVec_inj.mp (byteBits_injective heads)]

/-- Setting the first clear bit of a byte whose upper bits are clear extends
its used bits by one. -/
theorem byteBits_or_shiftLeft {byte : BitVec 8} {used : List Bool} (bit : Bool)
    (small : used.length < 8)
    (low : byteBits byte = used ++ List.replicate (8 - used.length) false) :
    byteBits (byte ||| (BitVec.ofBool bit).setWidth 8 <<< used.length) =
      used ++ bit :: List.replicate (7 - used.length) false := by
  apply List.ext_getElem?
  intro position
  by_cases inside : position < 8
  · have old := congrArg (fun bits => bits[position]?) low
    simp only [getElem?_byteBits _ inside] at old
    rw [getElem?_byteBits _ inside, BitVec.getLsbD_or, BitVec.getLsbD_shiftLeft]
    rcases Nat.lt_trichotomy position used.length with before | here | after
    · rw [List.getElem?_append_left before] at old ⊢
      rw [← old]
      simp [before]
    · subst here
      rw [List.getElem?_append_right (Nat.le_refl _)] at old ⊢
      have clear : byte.getLsbD used.length = false := by
        simpa only [List.getElem?_replicate, Nat.sub_self, Nat.sub_pos_of_lt small, if_true,
          Option.some.injEq] using old
      rw [clear]
      simp [small]
    · rw [List.getElem?_append_right (Nat.le_of_lt after)] at old ⊢
      have clear : byte.getLsbD position = false := by
        simpa only [List.getElem?_replicate,
          show position - used.length < 8 - used.length by omega, if_true,
          Option.some.injEq] using old
      obtain ⟨later, laterEq⟩ : ∃ later, position - used.length = later + 1 :=
        ⟨position - used.length - 1, by omega⟩
      rw [clear, laterEq, List.getElem?_cons_succ, List.getElem?_replicate,
        if_pos (by omega)]
      simp
  · rw [List.getElem?_eq_none (by simpa using inside),
      List.getElem?_eq_none (by simp only [List.length_append, List.length_cons,
        List.length_replicate]; omega)]

end BitString
