import ModbusCpp.AddressMap

/-!
# Byte strings in memory

Code that reads a byte string through a bare pointer can read past its end.
A buffer is a byte string with what lies behind it: an unguarded read inside
the string finds its byte, and one at or past the end finds what `beyond`
says, which is `none` when no such read is allowed.
-/

/-- A byte string and the memory behind it. -/
structure ByteBuffer where
  bytes : List UInt8
  beyond : Nat → Option UInt8

namespace ByteBuffer

/-- A buffer behind which nothing can be read. -/
def guarded (bytes : List UInt8) : ByteBuffer :=
  ⟨bytes, fun _ => none⟩

/-- A buffer behind which every read finds an arbitrary byte. -/
def unguarded (bytes : List UInt8) (rest : Nat → UInt8) : ByteBuffer :=
  ⟨bytes, fun index => some (rest index)⟩

def size (buffer : ByteBuffer) : Nat :=
  buffer.bytes.length

/-- The byte that a read through the bare pointer finds at `index`. -/
def read (buffer : ByteBuffer) (index : Nat) : Option UInt8 :=
  if index < buffer.size then buffer.bytes[index]? else buffer.beyond index

@[simp]
theorem size_guarded (bytes : List UInt8) : (guarded bytes).size = bytes.length :=
  rfl

@[simp]
theorem size_unguarded (bytes : List UInt8) (rest : Nat → UInt8) :
    (unguarded bytes rest).size = bytes.length :=
  rfl

theorem read_of_lt {buffer : ByteBuffer} {index : Nat} (inside : index < buffer.size) :
    buffer.read index = buffer.bytes[index]? := by
  rw [read, if_pos inside]

/-- The front of a longer string is read as it is there. -/
theorem read_append {buffer : ByteBuffer} {bytes rest : List UInt8}
    (cut : bytes = buffer.bytes ++ rest) {index : Nat} (inside : index < buffer.size) :
    buffer.read index = (guarded bytes).read index := by
  have longer : index < (guarded bytes).size := by
    rw [size_guarded, cut, List.length_append]
    exact Nat.lt_add_right _ inside
  rw [read_of_lt inside, read_of_lt longer, guarded, cut, List.getElem?_append_left inside]

theorem read_guarded_isSome (bytes : List UInt8) (index : Nat) :
    ((guarded bytes).read index).isSome = true ↔ index < bytes.length := by
  by_cases inside : index < bytes.length <;> simp [read, size, guarded, inside]

theorem read_unguarded_isSome (bytes : List UInt8) (rest : Nat → UInt8) (index : Nat) :
    ((unguarded bytes rest).read index).isSome = true := by
  by_cases inside : index < bytes.length <;> simp [read, size, unguarded, inside]

/-- Reading from `first` up to the end gives the tail of the string, whatever
lies behind it. -/
theorem slice_read_drop (buffer : ByteBuffer) (first : Nat) :
    AddressMap.slice buffer.read first (buffer.size - first) =
      some (buffer.bytes.drop first) := by
  refine AddressMap.slice_eq_some_iff.mpr ⟨by simp [size], ?_⟩
  intro index indexLt
  rw [read_of_lt (by omega), List.getElem?_drop]

end ByteBuffer
