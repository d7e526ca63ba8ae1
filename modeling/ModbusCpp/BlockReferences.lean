import ModbusCpp.BlockRefinement
import ModbusCpp.Transitions

/-!
# References into a block

`ref` hands out references and pairs of iterators into the container, which
are used long after the call.  No member changes the length of the container,
so they stay valid; and whatever happens to the block, a reference is one cell
of the map that the block refines, and an assignment through it is an update of
this cell.  This holds for counts whose sum with the address is a `size_t`; a
larger sum wraps, and may get past the check.
-/

namespace ModbusCpp.Block

open AddressMap

/-- The uses of a block: its members, and the references that `ref` has handed
out, by the order in which it did. -/
inductive Access (data : Type)
  | update (update : Update data)
  | get (address : UInt16)
  | getSlice (address count : UInt16)
  | ref (address : UInt16)
  | refSlice (address : UInt16) (count : UInt64)
      (fits : address.toNat + count.toNat < UInt64.size)
  | load (window offset : Nat)
  | assign (window offset : Nat) (value : data)

/-- A block that is reset to `blank`, and what `ref` has handed out, all of which
lies in the container. -/
structure Holder {data : Type} (readCount writeCount : UInt16 → Bool)
    (blank : Nat → Option data) where
  block : Sequential data readCount writeCount
  windows : List Window
  cleared : block.reset.cell = blank
  inside : ∀ window ∈ windows, window.first + window.count ≤ block.capacity

/-- A map, and the runs of addresses that have been named. -/
structure Naming (data : Type) where
  memory : Nat → Option data
  windows : List Window

namespace Sequential

variable {data : Type} {readCount writeCount : UInt16 → Bool}
  (block : Sequential data readCount writeCount)

theorem reset_cell_of_sameShape {block other : Sequential data readCount writeCount}
    (shape : SameShape other block) : other.reset.cell = block.reset.cell := by
  rw [cell_reset, cell_reset, shape.startingAddress, shape.capacity, shape.defaultValue]

theorem sameShape_assign (position : Nat) (value : data) :
    SameShape (block.assign position value) block :=
  ⟨rfl, rfl, rfl⟩

/-- An assignment to a position is an update of its address. -/
theorem cell_assign {position : Nat} (inside : position < block.capacity) (value : data) :
    (block.assign position value).cell =
      AddressMap.write block.cell (block.startingAddress.toNat + position) [value] := by
  have length := block.container_length
  funext place
  simp only [cell, assign, AddressMap.write, List.length_singleton, List.getElem?_set]
  by_cases low : block.startingAddress.toNat ≤ place
  · by_cases same : position = place - block.startingAddress.toNat
    · have here : block.startingAddress.toNat + position = place := by omega
      simp [← here, length, inside]
    · have elsewhere : ¬ (block.startingAddress.toNat + position ≤ place ∧
          place < block.startingAddress.toNat + position + 1) := by omega
      rw [if_pos low, if_neg same, if_neg elsewhere, if_pos low]
  · have elsewhere : ¬ (block.startingAddress.toNat + position ≤ place ∧
        place < block.startingAddress.toNat + position + 1) := by omega
    rw [if_neg low, if_neg elsewhere, if_neg low]

/-- The positions of a run of addresses, if the block has them. -/
def windowOf (address : UInt16) (count : Nat) : Except Exn Window :=
  if 0 < count ∧ block.Contains address count then
    .ok ⟨address.toNat - block.startingAddress.toNat, count⟩
  else .error .outOfRange

theorem ref_eq (address : UInt16) : block.ref address = block.windowOf address 1 := by
  by_cases inside : block.Contains address 1
  · simp [ref, windowOf, validate, validateSz_eq block address Nat.one_pos, inside,
      index_eq inside, bind, Except.bind]
  · simp [ref, windowOf, validate, validateSz_eq block address Nat.one_pos, inside, bind,
      Except.bind]

/-- A sum that does not wrap is compared as it is. -/
theorem validateSize_eq {address : UInt16} {count : UInt64}
    (fits : address.toNat + count.toNat < UInt64.size) :
    block.validateSize address count = block.validateSz address count.toNat := by
  have positive : count > 0 ↔ count.toNat > 0 := UInt64.lt_iff_toNat_lt
  simp only [validateSize, validateSz, Nat.mod_eq_of_lt fits, positive]

theorem refSlice_eq {address : UInt16} {count : UInt64}
    (fits : address.toNat + count.toNat < UInt64.size) :
    block.refSlice address count = block.windowOf address count.toNat := by
  rw [refSlice, block.validateSize_eq fits, windowOf]
  by_cases positive : 0 < count.toNat
  · rw [validateSz_eq block address positive]
    by_cases inside : block.Contains address count.toNat
    · simp [inside, positive, index_eq inside, bind, Except.bind]
    · simp [inside, bind, Except.bind]
  · simp [validateSz, positive, bind, Except.bind]

/-- A sum that wraps into the block passes the check, and the second iterator
lies behind the end of the container. -/
theorem refSlice_of_wrap {address : UInt16} {count : UInt64}
    (above : block.startingAddress ≤ address)
    (wraps : UInt64.size ≤ address.toNat + count.toNat)
    (into : address.toNat + count.toNat - UInt64.size ≤
      block.startingAddress.toNat + block.capacity) :
    block.refSlice address count = .ok ⟨block.index address, count.toNat⟩ := by
  have size : UInt64.size = 2 ^ 64 := rfl
  have small := address.toNat_lt
  have bounded := count.toNat_lt
  have positive : count > 0 := by
    apply UInt64.lt_iff_toNat_lt.mpr
    rw [UInt64.toNat_zero]
    omega
  have rest : (address.toNat + count.toNat) % UInt64.size =
      address.toNat + count.toNat - UInt64.size := by
    rw [Nat.mod_eq_sub_mod wraps, Nat.mod_eq_of_lt (by omega)]
  simp [refSlice, validateSize, positive, rest, above, into, bind, Except.bind]

theorem inside_of_windowOf {address : UInt16} {count : Nat} {window : Window}
    (referred : block.windowOf address count = .ok window) :
    window.first + window.count ≤ block.capacity := by
  unfold windowOf at referred
  split at referred
  · rename_i contained
    obtain rfl := Except.ok.inj referred
    rcases contained with ⟨-, above, below⟩
    dsimp only
    omega
  · cases referred

end Sequential

namespace Holder

variable {data : Type} {readCount writeCount : UInt16 → Bool} {blank : Nat → Option data}
  (holder : Holder readCount writeCount blank)

/-- A block whose references nobody has taken yet. -/
def ofBlock (block : Sequential data readCount writeCount) :
    Holder readCount writeCount block.reset.cell where
  block := block
  windows := []
  cleared := rfl
  inside := by simp

/-- The block has changed in its contents. -/
def withBlock (block : Sequential data readCount writeCount)
    (shape : Sequential.SameShape block holder.block) : Holder readCount writeCount blank where
  block := block
  windows := holder.windows
  cleared := (Sequential.reset_cell_of_sameShape shape).trans holder.cleared
  inside := by
    rw [shape.capacity]
    exact holder.inside

/-- One more reference is held. -/
def withWindow (window : Window)
    (inside : window.first + window.count ≤ holder.block.capacity) :
    Holder readCount writeCount blank where
  block := holder.block
  windows := holder.windows ++ [window]
  cleared := holder.cleared
  inside := by
    intro other held
    rcases List.mem_append.mp held with before | last
    · exact holder.inside other before
    · obtain rfl := List.mem_singleton.mp last
      exact inside

/-- What becomes of the reference that `ref` gave. -/
def refer (referred : Except Exn Window)
    (inside : ∀ window, referred = .ok window →
      window.first + window.count ≤ holder.block.capacity) :
    Except Exn (List data) × Holder readCount writeCount blank :=
  match referred, inside with
  | .ok window, inside => (.ok [], holder.withWindow window (inside window rfl))
  | .error failure, _ => (.error failure, holder)

/-- The map of the block, and the addresses that the references stand for. -/
def naming : Naming data where
  memory := holder.block.cell
  windows := holder.windows.map fun window =>
    ⟨holder.block.startingAddress.toNat + window.first, window.count⟩

end Holder

/-- Name a run of addresses, if there are any and the map has all of them. -/
def Naming.refer {data : Type} (naming : Naming data) (address count : Nat) :
    Except Exn (List data) × Naming data :=
  if 0 < count ∧ Covers naming.memory address count then
    (.ok [], { naming with windows := naming.windows ++ [⟨address, count⟩] })
  else (.error .outOfRange, naming)

namespace Access

variable {data : Type} {readCount writeCount : UInt16 → Bool} {blank : Nat → Option data}

/-- The use of a block; what is not referred to cannot be used. -/
def onHolder : Machine (Holder readCount writeCount blank) (Access data) (Except Exn (List data))
  | update change, holder =>
      some ((change.onBlock holder.block).1.map fun _ => [],
        holder.withBlock (change.onBlock holder.block).2
          (Sequential.sameShape_onBlock change holder.block))
  | get address, holder => some ((holder.block.get address).map fun value => [value], holder)
  | getSlice address count, holder => some (holder.block.getSlice address count, holder)
  | ref address, holder =>
      some (holder.refer (holder.block.ref address) fun _ referred =>
        holder.block.inside_of_windowOf ((holder.block.ref_eq address).symm.trans referred))
  | refSlice address count fits, holder =>
      some (holder.refer (holder.block.refSlice address count) fun _ referred =>
        holder.block.inside_of_windowOf ((holder.block.refSlice_eq fits).symm.trans referred))
  | load window offset, holder =>
      (holder.windows[window]?).bind fun run =>
        if offset < run.count then
          (holder.block.container[run.first + offset]?).map fun value => (.ok [value], holder)
        else none
  | assign window offset value, holder =>
      (holder.windows[window]?).bind fun run =>
        if offset < run.count then
          some (.ok [], holder.withBlock (holder.block.assign (run.first + offset) value)
            (Sequential.sameShape_assign _ _ _))
        else none

/-- The same use of a map that is reset to `blank`. -/
def onMap (limit : Nat) (blank : Nat → Option data) :
    Machine (Naming data) (Access data) (Except Exn (List data))
  | update change, naming =>
      some ((change.onMap blank naming.memory).1.map fun _ => [],
        { naming with memory := (change.onMap blank naming.memory).2 })
  | get address, naming =>
      some ((lookup naming.memory address).map fun value => [value], naming)
  | getSlice address count, naming =>
      some (lookupSlice limit naming.memory address count, naming)
  | ref address, naming => some (naming.refer address.toNat 1)
  | refSlice address count _, naming => some (naming.refer address.toNat count.toNat)
  | load window offset, naming =>
      (naming.windows[window]?).bind fun run =>
        if offset < run.count then
          (naming.memory (run.first + offset)).map fun value => (.ok [value], naming)
        else none
  | assign window offset value, naming =>
      (naming.windows[window]?).bind fun run =>
        if offset < run.count then
          some (.ok [], { naming with memory := write naming.memory (run.first + offset) [value] })
        else none

end Access

section Steps

variable {data : Type} {readCount writeCount : UInt16 → Bool} {blank : Nat → Option data}
  (holder : Holder readCount writeCount blank)

namespace Holder

theorem naming_refer {address : UInt16} {count : Nat} {referred : Except Exn Window}
    (same : referred = holder.block.windowOf address count)
    (inside : ∀ window, referred = .ok window →
      window.first + window.count ≤ holder.block.capacity) :
    (holder.refer referred inside).map id naming = holder.naming.refer address.toNat count := by
  have covered : 0 < count ∧ Covers holder.naming.memory address.toNat count ↔
      0 < count ∧ holder.block.Contains address count :=
    and_congr_right Sequential.covers_cell_iff
  unfold Naming.refer
  by_cases allowed : 0 < count ∧ holder.block.Contains address count
  · have place : holder.block.startingAddress.toNat +
        (address.toNat - holder.block.startingAddress.toNat) = address.toNat :=
      Nat.add_sub_cancel' allowed.2.1
    obtain rfl := same.trans (if_pos allowed)
    rw [if_pos (covered.mpr allowed)]
    simp [refer, naming, withWindow, place]
  · obtain rfl := same.trans (if_neg allowed)
    rw [if_neg (mt covered.mp allowed)]
    rfl

/-- The names stay while the contents change. -/
theorem naming_withBlock {block : Sequential data readCount writeCount}
    (shape : Sequential.SameShape block holder.block) :
    (holder.withBlock block shape).naming =
      { holder.naming with memory := block.cell } := by
  simp only [naming, withBlock, shape.startingAddress]

/-- The name of a reference. -/
theorem naming_windows (index : Nat) :
    holder.naming.windows[index]? = (holder.windows[index]?).map fun window =>
      ⟨holder.block.startingAddress.toNat + window.first, window.count⟩ :=
  List.getElem?_map

/-- What is held is found under its name. -/
theorem naming_memory (window : Window) (offset : Nat) :
    holder.naming.memory (holder.block.startingAddress.toNat + window.first + offset) =
      holder.block.container[window.first + offset]? := by
  simp only [naming, Sequential.cell, Nat.add_assoc, Nat.le_add_right, if_true,
    Nat.add_sub_cancel_left]

/-- An assignment through a reference is an update of what it names. -/
theorem naming_assign {window : Window} (held : window ∈ holder.windows) {offset : Nat}
    (below : offset < window.count) (value : data) :
    (holder.withBlock (holder.block.assign (window.first + offset) value)
        (Sequential.sameShape_assign _ _ _)).naming =
      { holder.naming with
        memory := write holder.naming.memory
          (holder.block.startingAddress.toNat + window.first + offset) [value] } := by
  have inside := holder.inside window held
  rw [naming_withBlock, Sequential.cell_assign _ (by omega), Nat.add_assoc]
  rfl

end Holder

/-- The step lemma: a use of the block is the same use of its map. -/
theorem Access.onHolder_naming {limit : Nat}
    (limited : ∀ count, readCount count = true ↔ 1 ≤ count.toNat ∧ count.toNat ≤ limit)
    (access : Access data) :
    (access.onHolder holder).map (Prod.map id Holder.naming) =
      access.onMap limit blank holder.naming := by
  cases access with
  | update change =>
      have followed := Sequential.onBlock_map_cell change holder.cleared
      have outcome : (change.onBlock holder.block).1 =
          (change.onMap blank holder.naming.memory).1 := congrArg Prod.fst followed
      have cells : (change.onBlock holder.block).2.cell =
          (change.onMap blank holder.naming.memory).2 := congrArg Prod.snd followed
      rw [onHolder, onMap, ← outcome, ← cells, ← Holder.naming_withBlock]
      rfl
  | get address =>
      rw [onHolder, onMap, Sequential.get_eq]
      rfl
  | getSlice address count =>
      rw [onHolder, onMap, Sequential.getSlice_eq _ limited]
      rfl
  | ref address => exact congrArg some (holder.naming_refer (holder.block.ref_eq address) _)
  | refSlice address count fits =>
      exact congrArg some (holder.naming_refer (holder.block.refSlice_eq fits) _)
  | load index offset =>
      rw [onHolder, onMap, Holder.naming_windows]
      cases holder.windows[index]? with
      | none => rfl
      | some window =>
          by_cases below : offset < window.count
          · simp only [Option.map_some, Option.bind_some, if_pos below, Holder.naming_memory,
              Option.map_map]
            rfl
          · simp only [Option.map_some, Option.bind_some, if_neg below, Option.map_none]
  | assign index offset value =>
      rw [onHolder, onMap, Holder.naming_windows]
      cases found : holder.windows[index]? with
      | none => rfl
      | some window =>
          by_cases below : offset < window.count
          · have assigned := holder.naming_assign (List.mem_of_getElem? found) below value
            simp only [Option.map_some, Option.bind_some, if_pos below, ← assigned]
            rfl
          · simp only [Option.map_some, Option.bind_some, if_neg below, Option.map_none]

/-- There is something to read or write, for a use of a reference. -/
def Access.Held (holder : Holder readCount writeCount blank) : Access data → Prop
  | load index offset | assign index offset _ =>
      ∃ window, holder.windows[index]? = some window ∧ offset < window.count
  | _ => True

/-- A reference that is held does not dangle. -/
theorem Access.isSome_onHolder_iff (access : Access data) :
    (access.onHolder holder).isSome = true ↔ access.Held holder := by
  cases access with
  | load index offset =>
      cases found : holder.windows[index]? with
      | none => simp [onHolder, Held, found]
      | some window =>
          have inside := holder.inside window (List.mem_of_getElem? found)
          rw [← holder.block.container_length] at inside
          by_cases below : offset < window.count
          · have present : window.first + offset < holder.block.container.length := by omega
            simp [onHolder, Held, found, below, List.getElem?_eq_getElem present]
          · simp [onHolder, Held, found, below]
  | assign index offset value =>
      cases found : holder.windows[index]? with
      | none => simp [onHolder, Held, found]
      | some window =>
          by_cases below : offset < window.count <;> simp [onHolder, Held, found, below]
  | update | get | getSlice | ref | refSlice => simp [onHolder, Held]

end Steps

/-- A map with named runs of addresses answers a run of uses exactly as a block
with its references does, and ends as the map that the block is left with.
After the run, every reference that was handed out on it can still be used. -/
theorem references_refine {data : Type} {readCount writeCount : UInt16 → Bool} {limit : Nat}
    {blank : Nat → Option data}
    (limited : ∀ count, readCount count = true ↔ 1 ≤ count.toNat ∧ count.toNat ≤ limit)
    (holder : Holder readCount writeCount blank) (accesses : List (Access data))
    (answers : List (Except Exn (List data))) :
    (∀ naming : Naming data,
      Machine.serve (Access.onMap limit blank) accesses holder.naming = some (answers, naming) ↔
        ∃ last : Holder readCount writeCount blank,
          Machine.serve Access.onHolder accesses holder = some (answers, last) ∧
            last.naming = naming) ∧
      ∀ last : Holder readCount writeCount blank,
        Machine.serve Access.onHolder accesses holder = some (answers, last) →
          ∀ access : Access data, (access.onHolder last).isSome = true ↔ access.Held last :=
  ⟨fun naming => Machine.serve_eq_some_iff
      (fun access holder => Access.onHolder_naming holder limited access) accesses holder answers
        naming,
    fun last _ access => access.isSome_onHolder_iff last⟩

/-- Two registers of a block that was made of three, seen through one slice:
`set` is seen, an assignment is seen by `get`, and a reset fills in zeros. -/
theorem references_refine_slice :
    ∃ last, Machine.serve Access.onHolder
        [.refSlice 4 2 (by decide), .update (.set 4 1), .load 0 0, .assign 0 1 5, .get 5,
          .refSlice 5 2 (by decide), .update .reset, .load 0 1]
        (Holder.ofBlock (.ofContainer 3 [7, 8, 9] : Registers)) =
      some ([.ok [], .ok [], .ok [1], .ok [], .ok [5], .error .outOfRange, .ok [], .ok [0]],
        last) := by
  apply Exists.imp fun _ served => And.left served
  exact ((references_refine NumRegs.validate_read_iff _ _ _).1 _).mp rfl

end ModbusCpp.Block
