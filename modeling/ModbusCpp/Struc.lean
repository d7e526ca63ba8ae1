import ModbusCpp.StructFormat

/-!
# The `struc` package

Packets are packed and unpacked by a package that is not part of the
repository.  It is a parameter of the development: what the code relies on is
that the formats, all of them marked `>`, denote big-endian records of fixed
width without padding, and that `unpack`, which gets a bare pointer, reads the
bytes of its format without a bounds check.
-/

namespace ModbusCpp

open StructFormat

/-- The functions of the package and their documented behaviour. -/
class Struc where
  pack : (codes : List Code) → Record codes → List UInt8
  unpack : (codes : List Code) → (read : Nat → Option UInt8) → (offset : Nat) →
    Option (Record codes)
  pack_bigEndian : ∀ codes values, pack codes values = encode codes values
  unpack_bigEndian : ∀ codes read offset,
    unpack codes read offset = decode read offset codes

attribute [simp] Struc.pack_bigEndian Struc.unpack_bigEndian

/-- The package as documented, to run the model with. -/
@[reducible]
def Struc.documented : Struc where
  pack := encode
  unpack codes read offset := decode read offset codes
  pack_bigEndian _ _ := rfl
  unpack_bigEndian _ _ _ := rfl

end ModbusCpp
