import ModbusCpp.TableOperations

/-!
# Blocks refine finite maps

A map from the addresses of a block to values, with a checked lookup, a checked
slice and checked updates, is all that a block is.  Any run of its updating
members, also of those that throw, leaves it with the contents of the map after
the same run, and every lookup and slice returns what the map holds.
-/

namespace ModbusCpp.Block

open AddressMap

/-- The members that change a block, with their arguments. -/
inductive Update (data : Type)
  | set (address : UInt16) (value : data)
  | setSlice (address : UInt16) (buffer : List data)
  | reset

namespace Update

variable {data σ : Type} {readCount writeCount : UInt16 → Bool}

/-- The call of a member on a block. -/
def onBlock : Update data → Sequential data readCount writeCount →
    Except Exn Unit × Sequential data readCount writeCount
  | set address value, block => BlockOp.commit (block.set address value) block
  | setSlice address buffer, block => BlockOp.commit (block.setSlice address buffer) block
  | reset, block => (.ok (), block.reset)

/-- Replace a run of cells, if there is something to replace and the map has
all of them. -/
def store (memory : Nat → Option data) (address : Nat) (values : List data) :
    Except Exn Unit × (Nat → Option data) :=
  if 0 < values.length ∧ Covers memory address values.length then
    (.ok (), write memory address values)
  else (.error .outOfRange, memory)

/-- The same update of a map that is reset to `blank`. -/
def onMap (blank : Nat → Option data) : Update data → (Nat → Option data) →
    Except Exn Unit × (Nat → Option data)
  | set address value, memory => store memory address.toNat [value]
  | setSlice address buffer, memory => store memory address.toNat buffer
  | reset, _ => (.ok (), blank)

/-- The outcomes of a run of updates, and what the run leaves. -/
def runAll (apply : Update data → σ → Except Exn Unit × σ) :
    List (Update data) → σ → List (Except Exn Unit) × σ
  | [], state => ([], state)
  | update :: updates, state =>
      let (outcome, next) := apply update state
      let (outcomes, last) := runAll apply updates next
      (outcome :: outcomes, last)

theorem runAll_cons (apply : Update data → σ → Except Exn Unit × σ) (update : Update data)
    (updates : List (Update data)) (state : σ) :
    runAll apply (update :: updates) state =
      ((apply update state).1 :: (runAll apply updates (apply update state).2).1,
        (runAll apply updates (apply update state).2).2) :=
  rfl

end Update

/-- A checked lookup in a map. -/
def lookup {data : Type} (memory : Nat → Option data) (address : UInt16) : Except Exn data :=
  match memory address.toNat with
  | some value => .ok value
  | none => .error .outOfRange

/-- A checked slice of a map, of at most `limit` cells. -/
def lookupSlice {data : Type} (limit : Nat) (memory : Nat → Option data)
    (address count : UInt16) : Except Exn (List data) :=
  if 1 ≤ count.toNat ∧ count.toNat ≤ limit then
    match slice memory address.toNat count.toNat with
    | some values => .ok values
    | none => .error .outOfRange
  else .error .outOfRange

namespace Sequential

variable {data : Type} {readCount writeCount : UInt16 → Bool}

theorem covers_cell_iff {block : Sequential data readCount writeCount} {address : UInt16}
    {count : Nat} (positive : 0 < count) :
    Covers block.cell address.toNat count ↔ block.Contains address count := by
  constructor
  · intro covered
    have first := (block.cell_isSome_iff _).mp (covered 0 positive)
    have last := (block.cell_isSome_iff _).mp (covered (count - 1) (by omega))
    exact ⟨first.1, by omega⟩
  · intro inside
    exact covers_iff_slice.mpr ⟨_, slice_cell inside⟩

theorem cell_isSome_iff_contains (block : Sequential data readCount writeCount)
    (address : UInt16) :
    (block.cell address.toNat).isSome = true ↔ block.Contains address 1 := by
  rw [cell_isSome_iff, Contains, Nat.succ_le_iff]

theorem get_eq (block : Sequential data readCount writeCount) (address : UInt16) :
    block.get address = lookup block.cell address := by
  cases held : block.cell address.toNat with
  | some value =>
      obtain ⟨found, got, cell⟩ := get_of_contains (contains_of_cell held)
      rw [read_of_cell held] at cell
      rw [got, lookup, held, List.head_eq_of_cons_eq cell]
  | none =>
      have outside : ¬ block.Contains address 1 := by
        rw [← cell_isSome_iff_contains, held]
        simp
      have invalid : block.validate address = .ok false := by
        rw [validate_eq, decide_eq_false outside]
      rw [lookup, held]
      unfold get
      split
      · rename_i valid
        rw [invalid] at valid
        cases valid
      · rfl
      · rename_i failed
        rw [invalid] at failed
        cases failed

theorem getSlice_eq (block : Sequential data readCount writeCount) {limit : Nat}
    (limited : ∀ count, readCount count = true ↔ 1 ≤ count.toNat ∧ count.toNat ≤ limit)
    (address count : UInt16) :
    block.getSlice address count = lookupSlice limit block.cell address count := by
  rw [lookupSlice]
  by_cases counted : 1 ≤ count.toNat ∧ count.toNat ≤ limit
  · rw [if_pos counted]
    have valid := (limited count).mpr counted
    by_cases inside : block.Contains address count.toNat
    · rw [slice_cell inside, getSlice_of_contains valid counted.1 inside]
    · have uncovered : slice block.cell address.toNat count.toNat = none := by
        rw [Option.eq_none_iff_forall_ne_some]
        intro values sliced
        exact inside ((covers_cell_iff counted.1).mp (covers_iff_slice.mpr ⟨values, sliced⟩))
      have invalid : block.validateRead address count = .ok false := by
        rw [validateRead_eq block address fun _ => counted.1]
        simp [inside]
      simp [getSlice, invalid, uncovered, bind, Except.bind]
  · rw [if_neg counted]
    have uncounted : readCount count = false := by
      rwa [← limited, Bool.not_eq_true] at counted
    simp [getSlice, validateRead, uncounted, bind, Except.bind]

/-- Write a run of values, if there is one and the block contains it. -/
def store (block : Sequential data readCount writeCount) (address : UInt16)
    (values : List data) : Except Exn Unit × Sequential data readCount writeCount :=
  if 0 < values.length ∧ block.Contains address values.length then
    (.ok (), block.write address values)
  else (.error .outOfRange, block)

theorem commit_setSlice (block : Sequential data readCount writeCount) (address : UInt16)
    (buffer : List data) :
    BlockOp.commit (block.setSlice address buffer) block = block.store address buffer := by
  by_cases positive : 0 < buffer.length
  · by_cases inside : block.Contains address buffer.length
    · simp [setSlice_of_contains positive inside, BlockOp.commit, store, positive, inside]
    · simp [setSlice, validateSz_eq block address positive, inside, bind, Except.bind,
        BlockOp.commit, store]
  · simp [setSlice, validateSz, positive, bind, Except.bind, BlockOp.commit, store]

theorem commit_set (block : Sequential data readCount writeCount) (address : UInt16)
    (value : data) :
    BlockOp.commit (block.set address value) block = block.store address [value] := by
  by_cases inside : block.Contains address 1
  · simp [set_of_contains value inside, BlockOp.commit, store, inside]
  · simp [set, validate_eq, inside, bind, Except.bind, BlockOp.commit, store]

theorem store_map_cell (block : Sequential data readCount writeCount) (address : UInt16)
    (values : List data) :
    (block.store address values).map id cell = Update.store block.cell address.toNat values := by
  unfold store Update.store
  by_cases positive : 0 < values.length
  · have covered := @covers_cell_iff _ _ _ block address _ positive
    by_cases inside : block.Contains address values.length
    · rw [if_pos ⟨positive, inside⟩, if_pos ⟨positive, covered.mpr inside⟩, Prod.map,
        cell_write inside]
      rfl
    · rw [if_neg (inside ·.2), if_neg fun both => inside (covered.mp both.2)]
      rfl
  · rw [if_neg (positive ·.1), if_neg (positive ·.1)]
    rfl

theorem cell_reset (block : Sequential data readCount writeCount) :
    block.reset.cell =
      constant block.startingAddress.toNat block.capacity block.defaultValue := by
  funext place
  simp only [cell, reset, constant, List.getElem?_map]
  by_cases low : block.startingAddress.toNat ≤ place
  · by_cases high : place < block.startingAddress.toNat + block.capacity
    · have inside : place - block.startingAddress.toNat < block.container.length := by
        rw [block.container_length]
        omega
      simp [low, high, List.getElem?_eq_getElem inside]
    · have outside : block.container.length ≤ place - block.startingAddress.toNat := by
        rw [block.container_length]
        omega
      simp [low, high, List.getElem?_eq_none outside]
  · simp [low]

/-- A new block is as after a reset. -/
theorem reset_new [Inhabited data] (startingAddress : UInt16) (capacity : Nat)
    (defaultValue : data) :
    (new startingAddress capacity defaultValue : Sequential data readCount writeCount).reset =
      new startingAddress capacity defaultValue := by
  have filled : resize (List.replicate capacity defaultValue) capacity default =
      List.replicate capacity defaultValue := resize_of_length _ List.length_replicate
  simp [reset, new, filled]

/-- Two blocks that may differ in their contents alone. -/
structure SameShape (first second : Sequential data readCount writeCount) : Prop where
  startingAddress : first.startingAddress = second.startingAddress
  capacity : first.capacity = second.capacity
  defaultValue : first.defaultValue = second.defaultValue

theorem SameShape.trans {first second third : Sequential data readCount writeCount}
    (before : SameShape first second) (after : SameShape second third) :
    SameShape first third where
  startingAddress := before.startingAddress.trans after.startingAddress
  capacity := before.capacity.trans after.capacity
  defaultValue := before.defaultValue.trans after.defaultValue

/-- Blocks of one shape with the same cells are one block. -/
theorem SameShape.eq_of_cell {first second : Sequential data readCount writeCount}
    (shape : SameShape first second) (cells : first.cell = second.cell) : first = second := by
  rcases first with ⟨start, container, capacity, defaultValue, length⟩
  rcases second with ⟨otherStart, otherContainer, otherCapacity, otherDefault, otherLength⟩
  rcases shape with ⟨rfl, rfl, rfl⟩
  congr
  apply List.ext_getElem?
  intro index
  have held := congrFun cells (start.toNat + index)
  simpa [cell] using held

theorem sameShape_store (block : Sequential data readCount writeCount) (address : UInt16)
    (values : List data) : SameShape (block.store address values).2 block := by
  unfold store
  split <;> exact ⟨rfl, rfl, rfl⟩

theorem sameShape_onBlock (update : Update data)
    (block : Sequential data readCount writeCount) :
    SameShape (update.onBlock block).2 block := by
  cases update with
  | set address value =>
      rw [Update.onBlock, commit_set]
      exact sameShape_store block address [value]
  | setSlice address buffer =>
      rw [Update.onBlock, commit_setSlice]
      exact sameShape_store block address buffer
  | reset => exact ⟨rfl, rfl, rfl⟩

/-- The step lemma: a member does to the block what it does to its map. -/
theorem onBlock_map_cell {blank : Nat → Option data} (update : Update data)
    {block : Sequential data readCount writeCount} (cleared : block.reset.cell = blank) :
    (update.onBlock block).map id cell = update.onMap blank block.cell := by
  cases update with
  | set address value =>
      rw [Update.onBlock, commit_set]
      exact store_map_cell block address [value]
  | setSlice address buffer =>
      rw [Update.onBlock, commit_setSlice]
      exact store_map_cell block address buffer
  | reset => exact congrArg (Prod.mk _) cleared

/-- The run lemma: so does any run of members. -/
theorem runAll_onBlock {blank : Nat → Option data} (updates : List (Update data))
    {block : Sequential data readCount writeCount} (cleared : block.reset.cell = blank) :
    SameShape (Update.runAll Update.onBlock updates block).2 block ∧
      (Update.runAll Update.onBlock updates block).map id cell =
        Update.runAll (Update.onMap blank) updates block.cell := by
  induction updates generalizing block with
  | nil => exact ⟨⟨rfl, rfl, rfl⟩, rfl⟩
  | cons update updates ih =>
      have step := onBlock_map_cell update cleared
      have shape := sameShape_onBlock update block
      have still : (update.onBlock block).2.reset.cell = blank := by
        rw [cell_reset, shape.startingAddress, shape.capacity, shape.defaultValue,
          ← cell_reset, cleared]
      obtain ⟨kept, followed⟩ := ih still
      refine ⟨kept.trans shape, ?_⟩
      rw [Update.runAll_cons, Update.runAll_cons, ← step]
      dsimp only [Prod.map, id]
      rw [← followed]
      rfl

end Sequential

/-- What a block shows is what a map shows that has run the same updates, both
starting with one default value everywhere. -/
structure RefinesMap (limit : Nat) (startingAddress : UInt16) (capacity : Nat)
    {data : Type} {readCount writeCount : UInt16 → Bool}
    (ran : List (Except Exn Unit) × Sequential data readCount writeCount)
    (mapped : List (Except Exn Unit) × (Nat → Option data)) : Prop where
  outcomes : ran.1 = mapped.1
  domain : ∀ place, (mapped.2 place).isSome = true ↔
    startingAddress.toNat ≤ place ∧ place < startingAddress.toNat + capacity
  get : ∀ address, ran.2.get address = lookup mapped.2 address
  getSlice : ∀ address count,
    ran.2.getSlice address count = lookupSlice limit mapped.2 address count
  length : ran.2.container.length = capacity

theorem Sequential.refinesMap {data : Type} [Inhabited data]
    {readCount writeCount : UInt16 → Bool} {limit : Nat}
    (limited : ∀ count, readCount count = true ↔ 1 ≤ count.toNat ∧ count.toNat ≤ limit)
    (startingAddress : UInt16) (capacity : Nat) (defaultValue : data)
    (updates : List (Update data)) :
    RefinesMap limit startingAddress capacity
      (Update.runAll Update.onBlock updates
        (Sequential.new startingAddress capacity defaultValue :
          Sequential data readCount writeCount))
      (Update.runAll (Update.onMap (constant startingAddress.toNat capacity defaultValue))
        updates (constant startingAddress.toNat capacity defaultValue)) := by
  have cleared : (new startingAddress capacity defaultValue :
      Sequential data readCount writeCount).reset.cell =
        constant startingAddress.toNat capacity defaultValue := cell_reset _
  have blank := cleared
  rw [reset_new] at blank
  obtain ⟨shape, followed⟩ := runAll_onBlock updates cleared
  rw [blank] at followed
  obtain ⟨outcomes, cells⟩ := Prod.mk.inj followed
  have cells := cells.symm
  exact {
    outcomes := outcomes
    domain := by
      intro place
      rw [cells, cell_isSome_iff, shape.startingAddress, shape.capacity]
      rfl
    get := by
      intro address
      rw [get_eq, cells]
    getSlice := by
      intro address count
      rw [getSlice_eq _ limited, cells]
    length := by
      rw [Sequential.container_length, shape.capacity]
      rfl }

/-- Blocks of bits and of registers, over every run of their updates. -/
theorem refinesMap_new (startingAddress : UInt16) (capacity : Nat) :
    (∀ (defaultValue : Bool) (updates : List (Update Bool)),
      RefinesMap 2000 startingAddress capacity
        (Update.runAll Update.onBlock updates
          (Sequential.new startingAddress capacity defaultValue : Bits))
        (Update.runAll (Update.onMap (constant startingAddress.toNat capacity defaultValue))
          updates (constant startingAddress.toNat capacity defaultValue))) ∧
    (∀ (defaultValue : UInt16) (updates : List (Update UInt16)),
      RefinesMap 125 startingAddress capacity
        (Update.runAll Update.onBlock updates
          (Sequential.new startingAddress capacity defaultValue : Registers))
        (Update.runAll (Update.onMap (constant startingAddress.toNat capacity defaultValue))
          updates (constant startingAddress.toNat capacity defaultValue))) :=
  ⟨Sequential.refinesMap NumBits.validate_read_iff startingAddress capacity,
    Sequential.refinesMap NumRegs.validate_read_iff startingAddress capacity⟩

/-- A block may reach beyond the largest address, and so may a slice of it. -/
theorem not_getSlice_within_addresses :
    ¬ ∀ (startingAddress : UInt16) (capacity : Nat) (defaultValue : Bool)
        (address count : UInt16),
      (∃ values, (Sequential.new startingAddress capacity defaultValue : Bits).getSlice
          address count = .ok values) ↔
        (1 ≤ count.toNat ∧ count.toNat ≤ 2000) ∧
          ∀ offset < count.toNat, startingAddress.toNat ≤ address.toNat + offset ∧
            address.toNat + offset < startingAddress.toNat + capacity ∧
            address.toNat + offset ≤ 0xFFFF := by
  intro within
  have sliced : (Sequential.new 0xFFFF 2 false : Bits).getSlice 0xFFFF 2 =
      .ok [false, false] := rfl
  have last := ((within 0xFFFF 2 false 0xFFFF 2).mp ⟨_, sliced⟩).2 1 (by decide)
  exact absurd last.2.2 (by decide)

end ModbusCpp.Block
