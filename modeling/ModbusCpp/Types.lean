import ModbusCpp.Constants

/-!
# Packets, headers and metadata

`types.hpp`: the header record, the packet type and the metadata classes with
their validators.  A metadata class wraps one 16-bit value, which is used here
directly; its validators carry the class's name.  `num_bits_t` and `num_regs_t`
hide the static `validate` of their base, while the member `validate()` they
inherit was compiled in the base and calls the static one of the base.
-/

namespace ModbusCpp

/-- `packet_t`, a vector of `char`: each byte is kept unsigned, and the places
where the code widens a plain `char` say so. -/
abbrev Packet := List UInt8

/-- `std::vector::resize`: cut at `count` or fill up to it. -/
def resize {α : Type} (values : List α) (count : Nat) (fill : α) : List α :=
  values.take count ++ List.replicate (count - values.length) fill

@[simp]
theorem length_resize {α : Type} (values : List α) (count : Nat) (fill : α) :
    (resize values count fill).length = count := by
  simp only [resize, List.length_append, List.length_take, List.length_replicate]
  omega

/-- A vector that is long enough is only cut. -/
theorem resize_of_le {α : Type} {values : List α} {count : Nat} (fill : α)
    (long : count ≤ values.length) : resize values count fill = values.take count := by
  simp [resize, Nat.sub_eq_zero_of_le long]

theorem getElem?_resize {α : Type} (values : List α) {count index : Nat} (fill : α)
    (inside : index < count) :
    (resize values count fill)[index]? = some (values[index]?.getD fill) := by
  rw [resize, List.getElem?_append]
  by_cases held : index < values.length
  · rw [if_pos (by rw [List.length_take]; omega), List.getElem?_take_of_lt inside,
      List.getElem?_eq_getElem held]
    rfl
  · rw [if_neg (by rw [List.length_take]; omega), List.getElem?_replicate,
      if_pos (by rw [List.length_take]; omega), List.getElem?_eq_none (by omega)]
    rfl

theorem resize_of_length {α : Type} {values : List α} {count : Nat} (fill : α)
    (lengthEq : values.length = count) : resize values count fill = values := by
  rw [resize_of_le fill (Nat.le_of_eq lengthEq.symm), ← lengthEq, List.take_length]

/-- `header_t` -/
structure Header where
  transaction : UInt16 := 0
  length : UInt16 := 0
  unit : UInt8 := 0
  deriving DecidableEq

namespace BaseMetadata

/-- The static `base_metadata_t::validate(T)`. -/
def validateValue (value : UInt16) : Bool :=
  0 ≤ value && value ≤ maxAddress

/-- The member `base_metadata_t::validate()`, also of the derived classes. -/
def validate (value : UInt16) : Bool :=
  validateValue value

/-- No 16-bit value fails the member check. -/
@[simp]
theorem validate_eq_true (value : UInt16) : validate value = true := by
  have valueLt := value.toNat_lt
  simp only [validate, validateValue, maxAddress, Bool.and_eq_true, decide_eq_true_eq,
    UInt16.le_iff_toNat_le]
  exact ⟨Nat.zero_le _, by simpa using Nat.le_of_lt_succ valueLt⟩

end BaseMetadata

/-- The static `num_bits_t<write>::validate(std::uint16_t)`. -/
def NumBits.validate (write : Bool) (value : UInt16) : Bool :=
  value > 0 && value ≤ (if write then maxNumBitsWrite else maxNumBitsRead)

/-- The static `num_regs_t<write>::validate(std::uint16_t)`. -/
def NumRegs.validate (write : Bool) (value : UInt16) : Bool :=
  value > 0 && value ≤ (if write then maxNumRegsWrite else maxNumRegsRead)

theorem NumBits.validate_read_iff (value : UInt16) :
    NumBits.validate false value = true ↔ 1 ≤ value.toNat ∧ value.toNat ≤ 2000 := by
  simp [NumBits.validate, maxNumBitsRead, UInt16.le_iff_toNat_le, UInt16.lt_iff_toNat_lt,
    Nat.succ_le_iff]

theorem NumBits.validate_write_iff (value : UInt16) :
    NumBits.validate true value = true ↔ 1 ≤ value.toNat ∧ value.toNat ≤ 1968 := by
  simp [NumBits.validate, maxNumBitsWrite, UInt16.le_iff_toNat_le, UInt16.lt_iff_toNat_lt,
    Nat.succ_le_iff]

theorem NumRegs.validate_read_iff (value : UInt16) :
    NumRegs.validate false value = true ↔ 1 ≤ value.toNat ∧ value.toNat ≤ 125 := by
  simp [NumRegs.validate, maxNumRegsRead, UInt16.le_iff_toNat_le, UInt16.lt_iff_toNat_lt,
    Nat.succ_le_iff]

theorem NumRegs.validate_write_iff (value : UInt16) :
    NumRegs.validate true value = true ↔ 1 ≤ value.toNat ∧ value.toNat ≤ 123 := by
  simp [NumRegs.validate, maxNumRegsWrite, UInt16.le_iff_toNat_le, UInt16.lt_iff_toNat_lt,
    Nat.succ_le_iff]

theorem NumBits.pos_of_validate {write : Bool} {value : UInt16}
    (valid : NumBits.validate write value = true) : 0 < value.toNat := by
  simp only [NumBits.validate, Bool.and_eq_true, decide_eq_true_eq] at valid
  exact UInt16.lt_iff_toNat_lt.mp valid.1

theorem NumRegs.pos_of_validate {write : Bool} {value : UInt16}
    (valid : NumRegs.validate write value = true) : 0 < value.toNat := by
  simp only [NumRegs.validate, Bool.and_eq_true, decide_eq_true_eq] at valid
  exact UInt16.lt_iff_toNat_lt.mp valid.1

/-- A plain `char` is negative from 128 on, and widening it fills the upper
byte with ones. -/
theorem toNat_widened (byte : UInt8) :
    byte.toInt8.toInt16.toUInt16.toNat =
      if byte.toNat < 128 then byte.toNat else 65280 + byte.toNat := by
  rcases byte with ⟨byte⟩
  revert byte
  decide +kernel

/-- `static_cast<std::uint8_t>(count * 2)` -/
def registerBytes (count : UInt16) : UInt8 :=
  UInt8.ofNat (count.toNat * 2)

@[simp]
theorem toNat_registerBytes (count : UInt16) :
    (registerBytes count).toNat = 2 * (count.toNat % 128) := by
  rw [registerBytes, UInt8.toNat_ofNat']
  omega

end ModbusCpp
