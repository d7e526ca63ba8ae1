import ModbusCpp.Conflicts
import ModbusCpp.Mutexes

/-!
# Accesses to cells

The members `get` and `set` of a block hold its mutex while they validate, and
`set` also while it assigns the cells one by one.  `get` of a run returns two
iterators, so the cells are read afterwards, without the mutex and one by one:
`encode` first copies them into the response and then reads them again for the
reply.  `get` of a register returns a reference, which is read afterwards as
well; `get` of a bit returns the bit.
-/

namespace ModbusCpp

open Block Resumption

/-- One step of a member on its block: it takes the mutex and validates, it
leaves the mutex, or it uses one cell. -/
inductive BlockAccess (data : Type)
  | lock (op : BlockOp data)
  | unlock
  | read (position : Nat)
  | write (position : Nat) (value : data)

namespace BlockOp

variable {data : Type} {readCount writeCount : UInt16 → Bool}

/-- A window that was validated. -/
def located (valid : Except Exn Bool) (window : Window) : Except Exn Window := do
  if ← valid then .ok window else .error .outOfRange

/-- What a member validates, and the positions of its cells. -/
def window (op : BlockOp data) (block : Sequential data readCount writeCount) :
    Except Exn Window :=
  match op with
  | getSlice address count =>
      located (block.validateRead address count) ⟨block.index address, count.toNat⟩
  | get address | set address _ => located (block.validate address) ⟨block.index address, 1⟩
  | setSlice address buffer =>
      located (block.validateSz address buffer.length) ⟨block.index address, buffer.length⟩

end BlockOp

namespace BlockAccess

variable {data : Type} {readCount writeCount : UInt16 → Bool}

abbrev Value : BlockAccess data → Type
  | lock _ => Except Exn Window
  | read _ => Option data
  | unlock | write _ _ => Unit

def apply : (access : BlockAccess data) → Sequential data readCount writeCount →
    access.Value × Sequential data readCount writeCount
  | lock op, block => (op.window block, block)
  | unlock, block => ((), block)
  | read position, block => (block.container[position]?, block)
  | write position value, block => ((), block.assign position value)

/-- A part of a member, as a program of its accesses. -/
abbrev Part (data α : Type) : Type :=
  Resumption (BlockAccess data) Value α

/-- Read the cells from a position on; what is not in the container is not read. -/
def readAll : Nat → Nat → Part data (List data)
  | _, 0 => pure []
  | first, count + 1 => do
      let value ← access (read first)
      let rest ← readAll (first + 1) count
      pure (value.toList ++ rest)

/-- Assign the cells from a position on. -/
def writeAll : Nat → List data → Part data Unit
  | _, [] => pure ()
  | first, value :: values => do
      let _ ← access (write first value)
      writeAll (first + 1) values

end BlockAccess

namespace BlockOp

open BlockAccess

variable {data : Type}

/-- `get(address)`.  What it returns is a value, or a reference which the caller
reads. -/
def getAccesses (referred : Bool) (address : UInt16) : Part data (Except Exn data) := do
  let found ← access (lock (get address))
  match found with
  | .error failure => do
      let _ ← access unlock
      pure (.error failure)
  | .ok window =>
      if referred then do
        let _ ← access unlock
        let value ← access (read window.first)
        pure (value.elim (.error .outOfRange) .ok)
      else do
        let value ← access (read window.first)
        let _ ← access unlock
        pure (value.elim (.error .outOfRange) .ok)

/-- `get(address, count)`, and the two passes over the cells. -/
def getSliceAccesses (address count : UInt16) : Part data (Except Exn (List data)) := do
  let found ← access (lock (getSlice address count))
  let _ ← access unlock
  match found with
  | .error failure => pure (.error failure)
  | .ok window => do
      -- The copy in the response, which is thrown away with it.
      let _ ← readAll window.first window.count
      let values ← readAll window.first window.count
      pure (.ok values)

/-- Either `set`, with the values that it assigns. -/
def setAccesses (op : BlockOp data) (values : List data) : Part data (Except Exn Unit) := do
  let found ← access (lock op)
  match found with
  | .error failure => do
      let _ ← access unlock
      pure (.error failure)
  | .ok window => do
      writeAll window.first values
      let _ ← access unlock
      pure (.ok ())

/-- A member, with the accesses of its caller to what it returns. -/
def accesses (referred : Bool) : (op : BlockOp data) → Part data (Except Exn op.Value)
  | getSlice address count => getSliceAccesses address count
  | get address => getAccesses referred address
  | setSlice address buffer => setAccesses (.setSlice address buffer) buffer
  | set address value => setAccesses (.set address value) [value]

/-- The accesses of a member that finds its cells at a window: those up to the
last use of its cells, and those from there on. -/
def script (referred : Bool) (op : BlockOp data) :
    Except Exn Window → List (BlockAccess data) × List (BlockAccess data)
  | .error _ => ([lock op, unlock], [])
  | .ok window =>
      let reads := (List.range' window.first window.count).map read
      match op with
      | getSlice _ _ => (lock op :: unlock :: reads, reads)
      | get _ =>
          if referred then ([lock op, unlock], [read window.first])
          else ([lock op], [read window.first, unlock])
      | setSlice _ buffer =>
          ([lock op], (buffer.zipIdx window.first).map (fun cell => write cell.2 cell.1) ++
            [unlock])
      | set _ value => ([lock op], [write window.first value, unlock])

variable {readCount writeCount : UInt16 → Bool}

/-- The accesses of a member come to what the member does on a block `seen`: this
holds in each cell what the cell held when it was last read. -/
def Shows (referred : Bool) (op : BlockOp data) (seen : Sequential data readCount writeCount)
    (accesses : List (BlockAccess data × Sequential data readCount writeCount)) : Prop :=
  ∃ early late, accesses = early ++ late ∧
    early.map Prod.fst = (op.script referred (op.window seen)).1 ∧
    late.map Prod.fst = (op.script referred (op.window seen)).2 ∧
    ∀ position found, (read position, found) ∈ late →
      found.container[position]? = seen.container[position]?

end BlockOp

namespace BlockAccess

variable {data : Type} {readCount writeCount : UInt16 → Bool}
  (block : Sequential data readCount writeCount)

theorem run_readAll (first count : Nat) :
    run apply (readAll first count) block =
      ((block.container.drop first).take count, block) := by
  induction count generalizing first with
  | zero => simp [readAll]
  | succ count ih =>
      have head : (block.container[first]?).toList ++
          (block.container.drop (first + 1)).take count =
            (block.container.drop first).take (count + 1) := by
        by_cases inside : first < block.container.length
        · rw [List.getElem?_eq_getElem inside, List.drop_eq_getElem_cons inside]
          rfl
        · rw [List.getElem?_eq_none (by omega), List.drop_eq_nil_of_le (by omega),
            List.drop_eq_nil_of_le (by omega), List.take_nil, List.take_nil]
          rfl
      simp [readAll, Resumption.access, apply, ih, head]

/-- The loop of `set` is the update of the run of cells. -/
theorem run_writeAll (address : UInt16) (values : List data) :
    run apply (writeAll (block.index address) values) block = ((), block.write address values) := by
  suffices loop : ∀ first, (run apply (writeAll first values) block).2.container =
      SliceUpdate.overwrite block.container first values ∧
        (run apply (writeAll first values) block).2.SameShape block by
    obtain ⟨cells, shape⟩ := loop (block.index address)
    have written : (run apply (writeAll (block.index address) values) block).2.SameShape
        (block.write address values) := shape.trans ⟨rfl, rfl, rfl⟩
    refine Prod.ext rfl (written.eq_of_cell ?_)
    funext place
    simp only [Sequential.cell, cells, written.startingAddress]
    rfl
  intro first
  induction values generalizing first block with
  | nil => exact ⟨rfl, rfl, rfl, rfl⟩
  | cons value values ih =>
      obtain ⟨cells, shape⟩ := ih (block.assign first value) (first + 1)
      exact ⟨cells, shape.trans ⟨rfl, rfl, rfl⟩⟩

variable {initial : Sequential data readCount writeCount}

/-- What is read is what each cell holds at the time. -/
theorem ensures_readAll {first count : Nat} (inside : first + count ≤ initial.container.length) :
    Ensures apply (fun found : Sequential data readCount writeCount => found.SameShape initial)
      (readAll first count) fun steps values =>
        steps.map Prod.fst = (List.range' first count).map read ∧ values.length = count ∧
          ∀ position found, (read position, found) ∈ steps →
            first ≤ position ∧ position < first + count ∧
              found.container[position]? = values[position - first]? := by
  induction count generalizing first with
  | zero => exact ⟨rfl, rfl, by simp⟩
  | succ count ih =>
      rw [readAll, ensures_access_bind]
      intro block shape
      have covered : first < block.container.length := by
        rw [block.container_length, shape.capacity, ← initial.container_length]
        omega
      refine (ensures_bind _ _ _).mpr ((@ih (first + 1) (by omega)).mono ?_)
      rintro steps values ⟨performed, length, held⟩
      simp only [apply, List.getElem?_eq_getElem covered, Option.toList_some, List.cons_append,
        List.nil_append, ensures_pure, List.append_nil]
      refine ⟨?_, by simp [length], ?_⟩
      · rw [List.map_cons, performed]
        rfl
      · intro position found member
        rcases List.mem_cons.mp member with same | later
        · obtain ⟨access, rfl⟩ := Prod.mk.inj same
          obtain rfl := read.inj access
          exact ⟨Nat.le_refl _, by omega, by simp [covered]⟩
        · obtain ⟨above, below, same⟩ := held position found later
          have behind : position - first = position - (first + 1) + 1 := by omega
          exact ⟨by omega, by omega, by rw [same, behind, List.getElem?_cons_succ]⟩

theorem ensures_writeAll (first : Nat) (values : List data) :
    Ensures apply (fun found : Sequential data readCount writeCount => found.SameShape initial)
      (writeAll first values) fun steps _ =>
        steps.map Prod.fst = (values.zipIdx first).map fun cell => write cell.2 cell.1 := by
  induction values generalizing first with
  | nil => rfl
  | cons value values ih =>
      rw [writeAll, ensures_access_bind]
      intro block shape
      refine (ih (first + 1)).mono ?_
      rintro steps result performed
      simp [performed]

end BlockAccess

namespace BlockOp

variable {data : Type} {readCount writeCount : UInt16 → Bool}
  {block other : Sequential data readCount writeCount} {window : Window}

theorem window_congr (shape : block.SameShape other) (op : BlockOp data) :
    op.window block = op.window other := by
  have index (address : UInt16) : block.index address = other.index address := by
    rw [Sequential.index, Sequential.index, shape.startingAddress]
  cases op <;> simp only [BlockOp.window, shape.validateRead_eq, shape.validate_eq,
    shape.validateSz_eq, index]

theorem located_eq_ok_iff {valid : Except Exn Bool} {found : Window} :
    located valid window = .ok found ↔ valid = .ok true ∧ window = found := by
  rcases valid with failure | _ | _ <;> simp [located, Bind.bind, Except.bind]

/-- The positions of a window lie in the container. -/
theorem inside_of_window {op : BlockOp data} (found : op.window block = .ok window) :
    window.first + window.count ≤ block.container.length := by
  cases op <;>
    simp only [BlockOp.window, located_eq_ok_iff] at found <;>
    obtain ⟨valid, rfl⟩ := found
  · exact Sequential.index_add_le (Sequential.contains_of_validateRead valid)
  · exact Sequential.index_add_le (Sequential.contains_of_validateSz valid)
  · exact Sequential.index_add_le (Sequential.contains_of_validateSz valid)
  · exact Sequential.index_add_le (Sequential.contains_of_validateSz valid)

theorem getSlice_eq_window (address count : UInt16) :
    block.getSlice address count =
      ((getSlice address count).window block).map fun window =>
        (block.container.drop window.first).take window.count := by
  rw [Sequential.getSlice, BlockOp.window, located]
  rcases block.validateRead address count with failure | _ | _ <;> rfl

theorem get_eq_window (address : UInt16) :
    block.get address = ((get address).window block).bind fun window =>
      (block.container[window.first]?).elim (.error .outOfRange) .ok := by
  rw [Sequential.get_eq, lookup, BlockOp.window, Sequential.validate_eq]
  by_cases inside : block.Contains address 1
  · have held := Sequential.cell_add_index inside 0
    rw [Nat.add_zero, Nat.add_zero] at held
    rw [decide_eq_true inside, held]
    cases cell : block.container[block.index address]? <;>
      simp [located, Bind.bind, Except.bind, cell]
  · have missing : block.cell address.toNat = none := by
      rw [← Option.not_isSome_iff_eq_none, Sequential.cell_isSome_iff_contains]
      exact inside
    rw [decide_eq_false inside, missing]
    rfl

theorem setSlice_eq_window (address : UInt16) (buffer : List data) :
    block.setSlice address buffer =
      ((setSlice address buffer).window block).map fun _ => block.write address buffer := by
  rw [Sequential.setSlice, BlockOp.window, located]
  rcases block.validateSz address buffer.length with failure | _ | _ <;> rfl

theorem set_eq_window (address : UInt16) (value : data) :
    block.set address value =
      ((set address value).window block).map fun _ => block.write address [value] := by
  rw [Sequential.set, BlockOp.window, located]
  rcases block.validate address with failure | _ | _ <;> rfl

/-- A member runs alone as its accesses do. -/
theorem run_accesses (referred : Bool) (op : BlockOp data)
    (block : Sequential data readCount writeCount) :
    run BlockAccess.apply (op.accesses referred) block = op.apply block := by
  cases op with
  | getSlice address count =>
      rw [accesses, getSliceAccesses, apply, getSlice_eq_window]
      cases found : (getSlice address count).window block <;>
        simp [BlockAccess.apply, found, BlockAccess.run_readAll, Except.map]
  | get address =>
      rw [accesses, getAccesses, apply, get_eq_window]
      cases found : (get address).window block with
      | error failure => simp [BlockAccess.apply, found, Except.bind]
      | ok window => cases referred <;> simp [BlockAccess.apply, found, Except.bind]
  | setSlice address buffer =>
      rw [accesses, setAccesses, apply, setSlice_eq_window]
      cases found : (setSlice address buffer).window block with
      | error failure => simp [BlockAccess.apply, found, Except.map, commit]
      | ok window =>
          obtain ⟨-, rfl⟩ := located_eq_ok_iff.mp found
          simp [BlockAccess.apply, found, BlockAccess.run_writeAll, Except.map, commit]
  | set address value =>
      rw [accesses, setAccesses, apply, set_eq_window]
      cases found : (set address value).window block with
      | error failure => simp [BlockAccess.apply, found, Except.map, commit]
      | ok window =>
          obtain ⟨-, rfl⟩ := located_eq_ok_iff.mp found
          simp [BlockAccess.apply, found, BlockAccess.run_writeAll, Except.map, commit]

section Interfered

variable {initial : Sequential data readCount writeCount} {referred : Bool} {op : BlockOp data}

/-- A member that throws. -/
theorem shows_refused {failure : Exn} (refused : op.window initial = .error failure)
    (found later : Sequential data readCount writeCount) :
    op.Shows referred initial [(.lock op, found), (.unlock, later)] := by
  refine ⟨[(.lock op, found), (.unlock, later)], [], rfl, ?_, ?_, ?_⟩
  · rw [refused]
    rfl
  · rw [refused]
    rfl
  · simp

theorem shows_of_window {seen : Sequential data readCount writeCount}
    (located : op.window seen = .ok window)
    (early late : List (BlockAccess data × Sequential data readCount writeCount))
    (front : early.map Prod.fst = (op.script referred (.ok window)).1)
    (back : late.map Prod.fst = (op.script referred (.ok window)).2)
    (held : ∀ position found, (.read position, found) ∈ late →
      found.container[position]? = seen.container[position]?) :
    op.Shows referred seen (early ++ late) :=
  ⟨early, late, rfl, by rw [located, front], by rw [located, back], held⟩

/-- The members that assign return nothing else. -/
theorem ensures_setAccesses (referred : Bool) {values : List data}
    (scripted : ∀ window, op.script referred (.ok window) =
      ([.lock op], (values.zipIdx window.first).map (fun cell => .write cell.2 cell.1) ++
        [.unlock])) :
    Ensures BlockAccess.apply (fun found => found.SameShape initial) (setAccesses op values)
      fun accesses result => result = (op.window initial).map (fun _ => ()) ∧
        op.Shows referred initial accesses := by
  rw [setAccesses, ensures_access_bind]
  intro found shape
  rw [BlockAccess.apply, window_congr shape]
  cases located : op.window initial with
  | error failure =>
      rw [ensures_access_bind]
      intro later kept
      exact ⟨rfl, shows_refused located found later⟩
  | ok window =>
      rw [ensures_bind]
      refine (BlockAccess.ensures_writeAll window.first values).mono ?_
      rintro steps result performed
      rw [ensures_access_bind]
      intro later kept
      refine ⟨rfl, shows_of_window located [(.lock op, found)] (steps ++ [(.unlock, later)])
        ?_ ?_ ?_⟩
      · rw [scripted]
        rfl
      · rw [scripted, List.map_append, performed]
        rfl
      · intro position found member
        have listed : (BlockAccess.read position : BlockAccess data) ∈
            (steps ++ [(BlockAccess.unlock, later)]).map Prod.fst := List.mem_map_of_mem member
        simp [performed] at listed

theorem ensures_getSliceAccesses (address count : UInt16) :
    Ensures BlockAccess.apply (fun found => found.SameShape initial)
      (getSliceAccesses address count) fun accesses result =>
        ∃ seen, seen.SameShape initial ∧ result = seen.getSlice address count ∧
          (getSlice address count).Shows referred seen accesses := by
  rw [getSliceAccesses, ensures_access_bind]
  intro first firstShape
  rw [ensures_access_bind]
  intro second secondShape
  rw [BlockAccess.apply, window_congr firstShape]
  cases located : (getSlice address count).window initial with
  | error failure =>
      refine ⟨initial, ⟨rfl, rfl, rfl⟩, ?_, shows_refused located first second⟩
      rw [getSlice_eq_window, located]
      rfl
  | ok window =>
      have inside := inside_of_window located
      rw [ensures_bind]
      refine (BlockAccess.ensures_readAll inside).mono ?_
      rintro copied - ⟨copies, -, -⟩
      rw [ensures_bind]
      refine (BlockAccess.ensures_readAll inside).mono ?_
      rintro steps values ⟨performed, length, held⟩
      obtain ⟨-, rfl⟩ := located_eq_ok_iff.mp located
      -- The block that held in every cell what was read there at last.
      let seen := initial.write address values
      have same : (getSlice address count).window seen =
          .ok ⟨initial.index address, count.toNat⟩ :=
        (window_congr ⟨rfl, rfl, rfl⟩ _).trans located
      have fits : initial.index address + values.length ≤ initial.container.length := by
        rw [length]
        exact inside
      refine ⟨seen, ⟨rfl, rfl, rfl⟩, ?_, ?_⟩
      · have kept := SliceUpdate.take_drop_overwrite fits
        rw [length] at kept
        rw [getSlice_eq_window, same]
        exact congrArg Except.ok kept.symm
      · rw [List.append_nil]
        refine shows_of_window same ((_, first) :: (_, second) :: copied) steps ?_ performed ?_
        · rw [List.map_cons, List.map_cons, copies]
          rfl
        · intro position found member
          obtain ⟨above, below, cell⟩ := held position found member
          rw [cell]
          exact (SliceUpdate.getElem?_overwrite_inside fits above (length ▸ below)).symm

theorem ensures_getAccesses (address : UInt16) :
    Ensures BlockAccess.apply (fun found => found.SameShape initial)
      (getAccesses referred address) fun accesses result =>
        ∃ seen, seen.SameShape initial ∧ result = seen.get address ∧
          (get address).Shows referred seen accesses := by
  rw [getAccesses, ensures_access_bind]
  intro first firstShape
  rw [BlockAccess.apply, window_congr firstShape]
  cases located : (get address).window initial with
  | error failure =>
      rw [ensures_access_bind]
      intro second secondShape
      refine ⟨initial, ⟨rfl, rfl, rfl⟩, ?_, shows_refused located first second⟩
      rw [get_eq_window, located]
      rfl
  | ok window =>
      have same {found : Sequential data readCount writeCount} (shape : found.SameShape initial) :
          (get address).window found = .ok window := (window_congr shape _).trans located
      have got {found : Sequential data readCount writeCount} (shape : found.SameShape initial) :
          (found.container[window.first]?).elim (.error .outOfRange) .ok = found.get address := by
        rw [get_eq_window, same shape]
        rfl
      cases referred with
      | true =>
          intro second secondShape found shape
          refine ⟨found, shape, got shape, shows_of_window (same shape)
            [(_, first), (_, second)] [(_, found)] rfl rfl ?_⟩
          simp
      | false =>
          intro found shape last lastShape
          refine ⟨found, shape, got shape, shows_of_window (same shape)
            [(_, first)] [(_, found), (_, last)] rfl rfl ?_⟩
          simp

/-- Under interference, a member does what it does on some block of its shape. -/
theorem ensures_accesses (referred : Bool) (op : BlockOp data) :
    Ensures BlockAccess.apply (fun found => found.SameShape initial) (op.accesses referred)
      fun accesses result => ∃ seen, seen.SameShape initial ∧ result = (op.apply seen).1 ∧
        op.Shows referred seen accesses := by
  cases op with
  | getSlice address count => exact ensures_getSliceAccesses address count
  | get address => exact ensures_getAccesses address
  | setSlice address buffer =>
      refine (ensures_setAccesses referred fun window => rfl).mono ?_
      rintro accesses result ⟨rfl, shows⟩
      refine ⟨initial, ⟨rfl, rfl, rfl⟩, ?_, shows⟩
      rw [apply, setSlice_eq_window]
      cases (setSlice address buffer).window initial <;> rfl
  | set address value =>
      refine (ensures_setAccesses referred fun window => rfl).mono ?_
      rintro accesses result ⟨rfl, shows⟩
      refine ⟨initial, ⟨rfl, rfl, rfl⟩, ?_, shows⟩
      rw [apply, set_eq_window]
      cases (set address value).window initial <;> rfl

end Interfered

end BlockOp

namespace BlockAccess

variable {data : Type} {readCount writeCount : UInt16 → Bool}

/-- Accesses to one cell, of which one assigns it. -/
def Conflict : BlockAccess data → BlockAccess data → Prop
  | read position, write other _ | write position _, read other
  | write position _, write other _ => position = other
  | _, _ => False

theorem sameShape_apply (access : BlockAccess data)
    (block : Sequential data readCount writeCount) : (access.apply block).2.SameShape block := by
  cases access <;> exact ⟨rfl, rfl, rfl⟩

theorem commutes_of_not_conflict {access other : BlockAccess data}
    (apart : ¬ access.Conflict other) :
    Component.Commutes
      (access.apply : Sequential data readCount writeCount → _) other.apply := by
  cases access with
  | lock op =>
      cases other with
      | write => exact ⟨fun block => BlockOp.window_congr ⟨rfl, rfl, rfl⟩ op, fun _ => rfl,
          fun _ => rfl⟩
      | lock | unlock | read => exact ⟨fun _ => rfl, fun _ => rfl, fun _ => rfl⟩
  | unlock => exact ⟨fun _ => rfl, fun _ => rfl, fun _ => rfl⟩
  | read position =>
      cases other with
      | write assigned value =>
          exact ⟨fun block => List.getElem?_set_ne (Ne.symm apart), fun _ => rfl, fun _ => rfl⟩
      | lock | unlock | read => exact ⟨fun _ => rfl, fun _ => rfl, fun _ => rfl⟩
  | write position value =>
      cases other with
      | lock op => exact ⟨fun _ => rfl, fun block => BlockOp.window_congr ⟨rfl, rfl, rfl⟩ op,
          fun _ => rfl⟩
      | unlock => exact ⟨fun _ => rfl, fun _ => rfl, fun _ => rfl⟩
      | read found =>
          exact ⟨fun _ => rfl, fun block => List.getElem?_set_ne apart, fun _ => rfl⟩
      | write assigned later =>
          refine ⟨fun _ => rfl, fun _ => rfl, fun block => ?_⟩
          simp only [apply, Sequential.assign]
          congr 1
          exact List.set_comm _ _ apart

end BlockAccess

section Locks

variable {μ data : Type}

/-- What an access does to the mutex of the block. -/
def BlockAccess.locking (mutex : μ) : BlockAccess data → Locking μ
  | lock _ => .take mutex
  | unlock => .leave mutex
  | read _ | write _ _ => .neither

variable {mutex : μ} {held : Option μ}

theorem BlockAccess.bracketed_readAll (first count : Nat) :
    Bracketed (locking mutex) held (readAll first count : Part data (List data)) held := by
  induction count generalizing first with
  | zero => rfl
  | succ count ih => exact ⟨_, .neither _, fun value => (ih (first + 1)).bind fun rest => rfl⟩

theorem BlockAccess.bracketed_writeAll (first : Nat) (values : List data) :
    Bracketed (locking mutex) held (writeAll first values) held := by
  induction values generalizing first with
  | nil => rfl
  | cons value values ih => exact ⟨_, .neither _, fun _ => ih (first + 1)⟩

/-- A member leaves its mutex, also when it throws. -/
theorem BlockOp.bracketed_accesses (referred : Bool) (op : BlockOp data) :
    Bracketed (BlockAccess.locking mutex) none (op.accesses referred) none := by
  cases op with
  | getSlice address count =>
      refine ⟨_, .take mutex, fun found => ⟨_, .leave mutex, fun _ => ?_⟩⟩
      cases found with
      | error failure => rfl
      | ok window =>
          refine (BlockAccess.bracketed_readAll _ _).bind fun copied => ?_
          exact (BlockAccess.bracketed_readAll _ _).bind fun values => rfl
  | get address =>
      refine ⟨_, .take mutex, fun found => ?_⟩
      cases found with
      | error failure => exact ⟨_, .leave mutex, fun _ => rfl⟩
      | ok window =>
          cases referred with
          | true => exact ⟨_, .leave mutex, fun _ => ⟨_, .neither _, fun value => rfl⟩⟩
          | false => exact ⟨_, .neither _, fun value => ⟨_, .leave mutex, fun _ => rfl⟩⟩
  | setSlice | set =>
      refine ⟨_, .take mutex, fun found => ?_⟩
      cases found with
      | error failure => exact ⟨_, .leave mutex, fun _ => rfl⟩
      | ok window =>
          refine (BlockAccess.bracketed_writeAll _ _).bind fun _ => ?_
          exact ⟨_, .leave mutex, fun _ => rfl⟩

end Locks

end ModbusCpp
