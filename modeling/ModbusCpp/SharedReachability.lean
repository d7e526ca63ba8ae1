import ModbusCpp.Reachability
import ModbusCpp.SharedServer

/-!
# Tables that sessions leave

Concurrent sessions can lose updates, but they make no table that requests
handled one after the other could not have made, not even while replies are
still under way.
-/

namespace ModbusCpp

open Block Method RequestHandler Resumption

/-- The places that an operation on a block may change. -/
def BlockOp.writes {data : Type} : BlockOp data → Set Nat
  | getSlice _ _ | get _ => ∅
  | setSlice address buffer => Set.Ico address.toNat (address.toNat + buffer.length)
  | set address _ => Set.Ico address.toNat (address.toNat + 1)

/-- The place that an access changes, in a block that starts at `start`. -/
def BlockAccess.writes {data : Type} (start : Nat) : BlockAccess data → Set Nat
  | lock _ | unlock | read _ => ∅
  | write position _ => {start + position}

theorem BlockAccess.cell_apply_of_not_mem {data : Type} {readCount writeCount : UInt16 → Bool}
    {access : BlockAccess data} {place : Nat} {block : Sequential data readCount writeCount}
    (elsewhere : place ∉ access.writes block.startingAddress.toNat) :
    (access.apply block).2.cell place = block.cell place := by
  cases access with
  | lock | unlock | read => rfl
  | write position value =>
      change (if block.startingAddress.toNat ≤ place then
        (block.container.set position value)[place - block.startingAddress.toNat]?
          else none) = block.cell place
      rw [Sequential.cell]
      split
      · refine List.getElem?_set_ne fun same => elsewhere ?_
        rw [writes, Set.mem_singleton_iff]
        omega
      · rfl

/-- A member assigns cells that it may change. -/
theorem BlockOp.mem_writes_of_script {data : Type} {readCount writeCount : UInt16 → Bool}
    {referred : Bool} {op : BlockOp data} {block : Sequential data readCount writeCount}
    {position : Nat} {value : data}
    (scripted : .write position value ∈ (op.script referred (op.window block)).1 ++
      (op.script referred (op.window block)).2) :
    block.startingAddress.toNat + position ∈ op.writes := by
  cases found : op.window block with
  | error failure => simp [script, found] at scripted
  | ok window =>
      cases op with
      | getSlice | get => cases referred <;> simp [script, found] at scripted
      | setSlice address buffer =>
          obtain ⟨valid, rfl⟩ := located_eq_ok_iff.mp found
          have inside := Sequential.contains_of_validateSz valid
          have above := inside.1
          have listed : (value, position) ∈ buffer.zipIdx (block.index address) := by
            simpa [script, found] using scripted
          obtain ⟨atLeast, below, -⟩ := List.mem_zipIdx listed
          rw [Sequential.index_eq inside] at atLeast below
          simp only [writes, Set.mem_Ico]
          omega
      | set address value =>
          obtain ⟨valid, rfl⟩ := located_eq_ok_iff.mp found
          have inside := Sequential.contains_of_validateSz valid
          have above := inside.1
          obtain ⟨rfl, -⟩ : position = block.index address ∧ _ = value := by
            simpa [script, found] using scripted
          simp only [writes, Set.mem_Ico, Sequential.index_eq inside]
          omega

theorem BlockOp.Shows.writes_subset {data : Type} {readCount writeCount : UInt16 → Bool}
    {referred : Bool} {op : BlockOp data} {seen : Sequential data readCount writeCount}
    {accesses : List (BlockAccess data × Sequential data readCount writeCount)}
    (shows : op.Shows referred seen accesses) {step : BlockAccess data × _}
    (member : step ∈ accesses) : step.1.writes seen.startingAddress.toNat ⊆ op.writes := by
  obtain ⟨early, late, rfl, front, back, -⟩ := shows
  have scripted : step.1 ∈ (op.script referred (op.window seen)).1 ++
      (op.script referred (op.window seen)).2 := by
    rw [← front, ← back, ← List.map_append]
    exact List.mem_map_of_mem member
  rcases step with ⟨_ | _ | _ | ⟨position, value⟩, found⟩
  · exact Set.empty_subset _
  · exact Set.empty_subset _
  · exact Set.empty_subset _
  · exact Set.singleton_subset_iff.mpr (mem_writes_of_script scripted)

namespace TableOp

/-- The cells that an operation may change. -/
def writes : TableOp → Set Cell
  | bits which op => Cell.bit which '' op.writes
  | registers which op => Cell.register which '' op.writes

end TableOp

namespace TableAccess

/-- The cell that an access changes. -/
def writes (table : Table) : TableAccess → Set Cell
  | bits which access =>
      Cell.bit which '' access.writes (table.bits which).startingAddress.toNat
  | registers which access =>
      Cell.register which '' access.writes (table.registers which).startingAddress.toNat

theorem lookup_apply_of_not_mem {access : TableAccess} {cell : Cell} {table : Table}
    (elsewhere : cell ∉ access.writes table) :
    (access.apply table).2.memory.lookup cell = table.memory.lookup cell := by
  rcases access with ⟨which, access⟩ | ⟨which, access⟩ <;>
    rcases cell with ⟨block, place⟩ | ⟨block, place⟩ <;>
    simp only [apply, Component.lift, Table.bitsOf, Table.registersOf, Table.memory,
      Memory.lookup, Table.registers_setBits, Table.bits_setRegisters]
  · by_cases own : which = block
    · subst own
      rw [Table.bits_setBits]
      exact BlockAccess.cell_apply_of_not_mem fun written => elsewhere ⟨place, written, rfl⟩
    · rw [Table.bits_setBits_of_ne _ _ own]
  · by_cases own : which = block
    · subst own
      rw [Table.registers_setRegisters]
      exact BlockAccess.cell_apply_of_not_mem fun written => elsewhere ⟨place, written, rfl⟩
    · rw [Table.registers_setRegisters_of_ne _ _ own]

end TableAccess

theorem TableOp.Shows.writes_subset {op : TableOp} {seen table : Table}
    {accesses : List (TableAccess × Table)} (shows : op.Shows seen accesses)
    (shape : table.SameShape seen) {step : TableAccess × Table} (member : step ∈ accesses) :
    step.1.writes table ⊆ op.writes := by
  cases op with
  | bits which op =>
      obtain ⟨steps, rfl, shows⟩ := shows
      obtain ⟨own, ownMem, rfl⟩ := List.mem_map.mp member
      have covered := shows.writes_subset (List.mem_map_of_mem ownMem)
      rw [← (shape.bits which).startingAddress] at covered
      exact Set.image_mono covered
  | registers which op =>
      obtain ⟨steps, rfl, shows⟩ := shows
      obtain ⟨own, ownMem, rfl⟩ := List.mem_map.mp member
      have covered := shows.writes_subset (List.mem_map_of_mem ownMem)
      rw [← (shape.registers which).startingAddress] at covered
      exact Set.image_mono covered

/-- The operations of a command change only what the command writes. -/
theorem Command.Performs.writes_subset {command : Command} {initial : Table}
    {steps : List (TableOp × Table)} {payload : Packet}
    (performs : command.Performs steps payload) (admissible : command.Admissible initial) :
    ∀ step ∈ steps, step.1.writes ⊆ command.writes := by
  cases command with
  | readBits | readRegisters =>
      obtain ⟨found, rfl, -⟩ := performs
      simp [TableOp.writes, BlockOp.writes]
  | writeSingleCoil =>
      obtain ⟨before, found, rfl, -⟩ := performs
      simp [TableOp.writes, BlockOp.writes, Command.writes, Cell.bits]
  | writeSingleRegister =>
      obtain ⟨found, rfl, -⟩ := performs
      simp [TableOp.writes, BlockOp.writes, Command.writes, Cell.registers]
  | maskWriteRegister =>
      obtain ⟨before, value, found, -, rfl, -⟩ := performs
      simp [TableOp.writes, BlockOp.writes, Command.writes, Cell.registers]
  | writeMultipleCoils address count values =>
      obtain ⟨found, rfl, -⟩ := performs
      rintro step member cell written
      obtain rfl := List.mem_singleton.mp member
      refine ⟨admissible.1, ?_⟩
      rw [← values.property]
      exact written
  | writeMultipleRegisters address count values =>
      obtain ⟨found, rfl, -⟩ := performs
      rintro step member cell written
      obtain rfl := List.mem_singleton.mp member
      refine ⟨admissible.1, ?_⟩
      rw [← values.property]
      exact written
  | readWriteMultipleRegisters readAddress readCount writeAddress writeCount values =>
      obtain ⟨before, found, rfl, -⟩ := performs
      rintro step member cell written
      rcases List.mem_cons.mp member with rfl | read
      · refine ⟨admissible.2.1, ?_⟩
        rw [← values.property]
        exact written
      · obtain rfl := List.mem_singleton.mp read
        obtain ⟨place, none, -⟩ := written
        exact none.elim

/-- The operations of a conversation change writable cells only. -/
theorem Handles.writable {initial : Table} {packet : ByteBuffer}
    {steps : List (TableOp × Table)} {reply : Packet}
    (handles : Handles initial packet steps reply) {step : TableOp × Table}
    (member : step ∈ steps) : ∀ cell ∈ step.1.writes, cell.Writable := by
  cases handles with
  | short | refused | inadmissible => cases member
  | @served header function command steps payload received parsed admissible performs =>
      intro cell written
      exact command.writes_writable cell (performs.writes_subset admissible step member written)

/-- The accesses of a conversation change writable cells only. -/
theorem Worker.Serves.writable {initial table : Table} {packet : ByteBuffer}
    {accesses : List (TableAccess × Table)} {reply : Packet}
    (serves : Worker.Serves initial packet accesses reply) (shape : table.SameShape initial)
    {access : TableAccess × Table} (member : access ∈ accesses) :
    ∀ cell ∈ access.1.writes table, cell.Writable := by
  obtain ⟨steps, handles, shapes, parts⟩ := serves
  obtain ⟨step, stepMem, part, shows, inPart⟩ := parts.exists_of_mem member
  intro cell written
  have seen := shape.trans (shapes step stepMem).symm
  exact handles.writable stepMem cell (shows.writes_subset seen inPart written)

namespace SharedServer

variable [Struc] {ι κ : Type} {thread : ι → κ}

/-- So does what a session is about to do. -/
theorem Underway.writable {initial table : Table} {owner : ι} {access : TableAccess}
    {next : access.Value → CellProgram (Except Exn Packet)} {recent : List (Event ι)}
    (underway : Underway initial owner (.encoding (.perform access next)) recent)
    (shape : table.SameShape initial) : ∀ cell ∈ access.writes table, cell.Writable := by
  cases underway with
  | @encoding packet accesses program ensures =>
      obtain ⟨later, reply, -, serves⟩ := Ensures.run (ensures table shape)
        (fun access state same => (access.sameShape_apply state).trans same) shape
      exact serves.writable shape (List.mem_append_right accesses List.mem_cons_self)

variable [DecidableEq ι] {initial last : Table} {server next : SharedServer ι}
  {label : Option (Event ι)} {events : List (Event ι)}

/-- The step lemma: no session changes a cell that cannot be written. -/
theorem Step.lookup_dataTable (step : Step thread server label next)
    (shape : server.dataTable.SameShape initial)
    (converses : ∀ owner, Converses initial (server.sessions owner) events owner)
    {cell : Cell} (unwritable : ¬ cell.Writable) :
    next.dataTable.memory.lookup cell = server.dataTable.memory.lookup cell := by
  cases step with
  | receive => rfl
  | @act server actor access next stored holders runs granted acts =>
      obtain ⟨-, recent, -, -, underway⟩ := converses actor
      generalize server.sessions actor = session at acts underway
      cases acts with
      | start | finish => rfl
      | perform =>
          exact TableAccess.lookup_apply_of_not_mem
            fun written => unwritable (underway.writable shape cell written)

/-- The run lemma. -/
theorem run_lookup (run : Transitions.Run (Step thread) (idle initial) events server)
    {cell : Cell} (unwritable : ¬ cell.Writable) :
    server.dataTable.memory.lookup cell = initial.memory.lookup cell := by
  induction run with
  | refl => rfl
  | step run taken ih =>
      obtain ⟨shape, converses⟩ := run_converses run
      exact (taken.lookup_dataTable shape converses unwritable).trans ih

/-- The other sessions have replied. -/
def Alone (owner : ι) (sessions : ι → Worker) : Prop :=
  ∀ other, other ≠ owner → ∃ result, sessions other = .replied result

theorem Step.act_update (thread : ι → κ) {sessions : ι → Worker} {owner : ι}
    (alone : Alone owner sessions) {held after : Option Mutex} {session next : Worker}
    {table stored : Table} (access : Option TableAccess)
    (turns : (locking access).Turns held after)
    (acts : Worker.Acts session table access next stored) :
    Step thread ⟨table, Locking.single owner held, Function.update sessions owner session⟩
      (event owner table access next)
      ⟨stored, Locking.single owner after, Function.update sessions owner next⟩ := by
  have runs : Runs thread
      ⟨table, Locking.single owner held, Function.update sessions owner session⟩ owner := by
    intro other program same busy
    by_contra distinct
    obtain ⟨result, replied⟩ := alone other distinct
    simp only [Function.update_of_ne distinct, replied] at busy
    cases busy
  have turn : Worker.Acts (Function.update sessions owner session owner) table access next
      stored := by
    rwa [Function.update_self]
  have step := Step.act runs (turns.holders_single owner) turn
  rwa [Function.update_idem] at step

/-- A session performs its program while the others wait. -/
theorem exists_run_of_program (thread : ι → κ) {sessions : ι → Worker} {owner : ι}
    (alone : Alone owner sessions) {held : Option Mutex}
    {program : CellProgram (Except Exn Packet)}
    (bracketed : Bracketed TableAccess.locking held program none) (table : Table) :
    ∃ events, Transitions.Run (Step thread)
      ⟨table, Locking.single owner held, Function.update sessions owner (.encoding program)⟩ events
      ⟨(run TableAccess.apply program table).2, Locking.single owner none,
        Function.update sessions owner
          (.encoding (.done (run TableAccess.apply program table).1))⟩ := by
  induction program generalizing held table with
  | done value =>
      obtain rfl : held = none := bracketed
      exact ⟨[], .refl⟩
  | perform access next ih =>
      obtain ⟨after, turns, bracketed⟩ := bracketed
      obtain ⟨events, rest⟩ := ih _ (bracketed (access.apply table).1) (access.apply table).2
      exact ⟨_, (Transitions.Run.single
        (Step.act_update thread alone (some access) turns .perform)).trans rest⟩

/-- It handles a packet while the others wait. -/
theorem exists_run_of_handle {sessions : ι → Worker} {owner : ι} (alone : Alone owner sessions)
    {table stored : Table} {packet : ByteBuffer} {result reply : Except Exn Packet}
    (waiting : sessions owner = .replied result)
    (handled : (handle packet).run table = some (reply, stored)) :
    ∃ events, Transitions.Run (Step thread) ⟨table, Locking.single owner none, sessions⟩ events
      ⟨stored, Locking.single owner none, Function.update sessions owner (.replied reply)⟩ := by
  rw [Worker.handle_run_start] at handled
  obtain ⟨program, started, finished⟩ := Option.bind_eq_some_iff.mp handled
  obtain ⟨sent, answered, same⟩ := Option.map_eq_some_iff.mp finished
  obtain ⟨rfl, rfl⟩ := Prod.mk.inj same
  obtain ⟨events, performed⟩ :=
    exists_run_of_program thread alone (Worker.start_bracketed started) table
  have received := Transitions.Run.single (@Step.receive _ _ _ _ thread
    ⟨table, Locking.single owner none, sessions⟩ _ _ waiting packet)
  have begun := received.trans (.single
    (Step.act_update thread alone none (.neither none) (.start started)))
  exact ⟨_, (begun.trans performed).trans (.single
    (Step.act_update thread alone none (.neither none) (.finish answered)))⟩

/-- One session handles packets one after the other. -/
theorem exists_run_of_handleAll {sessions : ι → Worker} {owner : ι} (alone : Alone owner sessions)
    {table : Table} {packets : List ByteBuffer} {replies : List Packet}
    {result : Except Exn Packet} (waiting : sessions owner = .replied result)
    (ran : (handleAll packets).run table = some (.ok replies, last)) :
    ∃ events left, Transitions.Run (Step thread) ⟨table, Locking.single owner none, sessions⟩
      events left ∧ left.dataTable = last := by
  induction packets generalizing sessions table replies result with
  | nil =>
      obtain ⟨-, rfl⟩ := returned_inj.mp ran
      exact ⟨[], _, .refl, rfl⟩
  | cons packet packets ih =>
      obtain ⟨reply, stored, rest, handled, followed, -⟩ := exists_of_handleAll_cons ran
      obtain ⟨events, front⟩ := exists_run_of_handle alone waiting handled
      have after : Alone owner (Function.update sessions owner (.replied (.ok reply))) := by
        intro other distinct
        rw [Function.update_of_ne distinct]
        exact alone other distinct
      obtain ⟨later, left, back, reached⟩ := ih after (Function.update_self _ _ _) followed
      exact ⟨events ++ later, left, front.trans back, reached⟩

/-- What any number of concurrent sessions can make of the table, at any time,
is what one client can make of it with one request after the other. -/
theorem exists_run_iff (thread : ι → κ) (owner : ι) (initial last : Table) :
    (∃ (events : List (Event ι)) (server : SharedServer ι),
      Transitions.Run (Step thread) (idle initial) events server ∧ server.dataTable = last) ↔
      ∃ packets replies, (handleAll packets).run initial = some (.ok replies, last) := by
  constructor
  · rintro ⟨events, server, run, rfl⟩
    exact exists_handleAll (run_converses run).1 fun cell => run_lookup run
  · rintro ⟨packets, replies, ran⟩
    have alone : Alone owner (fun _ : ι => .replied (.ok [])) := fun other _ => ⟨_, rfl⟩
    obtain ⟨events, left, run, reached⟩ :=
      @exists_run_of_handleAll _ _ _ thread _ _ _ _ alone initial _ _ _ rfl ran
    rw [Locking.single_none] at run
    exact ⟨events, left, run, reached⟩

end SharedServer

end ModbusCpp
