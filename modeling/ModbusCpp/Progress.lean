import Mathlib.Logic.Relation
import ModbusCpp.SharedServer

/-!
# Progress

A session waits for the session that its thread runs, or for the one that holds
the mutex it takes.  Whoever holds a mutex can go on, so no session waits for
itself, and a session has replied after as many of its own steps as the largest
slice takes, whatever the other sessions do in between.
-/

namespace ModbusCpp

open Block Method RequestHandler Resumption

/-- The number of cells that a member works on. -/
def BlockOp.size {data : Type} : BlockOp data → Nat
  | getSlice _ count => count.toNat
  | get _ | set _ _ => 1
  | setSlice _ buffer => buffer.length

def TableOp.size : TableOp → Nat
  | bits _ op => op.size
  | registers _ op => op.size

/-- A slice is read twice; the mutex is taken and left. -/
theorem BlockOp.Shows.length_le {data : Type} {readCount writeCount : UInt16 → Bool}
    {referred : Bool} {op : BlockOp data} {seen : Sequential data readCount writeCount}
    {accesses : List (BlockAccess data × Sequential data readCount writeCount)}
    (shows : op.Shows referred seen accesses) : accesses.length ≤ 2 * op.size + 2 := by
  obtain ⟨early, late, rfl, front, back, -⟩ := shows
  have frontLength := congrArg List.length front
  have backLength := congrArg List.length back
  rw [List.length_map] at frontLength backLength
  rw [List.length_append, frontLength, backLength]
  cases found : op.window seen with
  | error failure => simp [script]
  | ok window =>
      cases op with
      | getSlice | setSlice | set =>
          obtain ⟨-, rfl⟩ := located_eq_ok_iff.mp found
          simp only [script, size, List.length_cons, List.length_append, List.length_map,
            List.length_range', List.length_zipIdx, List.length_nil]
          omega
      | get => cases referred <;> exact Nat.le_succ 3

theorem TableOp.Shows.length_le {op : TableOp} {seen : Table}
    {accesses : List (TableAccess × Table)} (shows : op.Shows seen accesses) :
    accesses.length ≤ 2 * op.size + 2 := by
  cases op with
  | bits | registers =>
      obtain ⟨steps, rfl, shows⟩ := shows
      simpa [size] using shows.length_le

/-- The accesses that these operations take at most. -/
def turns : List (TableOp × Table) → Nat
  | [] => 0
  | step :: steps => 2 * step.1.size + 2 + turns steps

theorem length_le_of_parts {steps : List (TableOp × Table)} {accesses : List (TableAccess × Table)}
    (parts : Parts TableOp.Shows steps accesses) :
    accesses.length ≤ turns steps := by
  induction parts with
  | nil => exact Nat.le_refl 0
  | cons shows parts ih =>
      rw [List.length_append, turns]
      exact Nat.add_le_add shows.length_le ih

/-- The commands work on as many cells as their limits allow. -/
theorem Command.Performs.turns_le {command : Command} {initial : Table}
    {steps : List (TableOp × Table)} {payload : Packet}
    (performs : command.Performs steps payload) (admissible : command.Admissible initial) :
    turns steps ≤ 4002 := by
  cases command with
  | readBits block address count =>
      obtain ⟨found, rfl, -⟩ := performs
      have limit := (NumBits.validate_read_iff count).mp admissible.1
      change 2 * count.toNat + 2 ≤ 4002
      omega
  | readRegisters block address count =>
      obtain ⟨found, rfl, -⟩ := performs
      have limit := (NumRegs.validate_read_iff count).mp admissible.1
      change 2 * count.toNat + 2 ≤ 4002
      omega
  | writeSingleCoil =>
      obtain ⟨before, found, rfl, -⟩ := performs
      exact Nat.le_add_right 8 3994
  | writeSingleRegister =>
      obtain ⟨found, rfl, -⟩ := performs
      exact Nat.le_add_right 4 3998
  | maskWriteRegister =>
      obtain ⟨before, value, found, -, rfl, -⟩ := performs
      exact Nat.le_add_right 8 3994
  | writeMultipleCoils address count values =>
      obtain ⟨found, rfl, -⟩ := performs
      have limit := (NumBits.validate_write_iff count).mp admissible.1
      have length := values.property
      change 2 * values.val.length + 2 ≤ 4002
      omega
  | writeMultipleRegisters address count values =>
      obtain ⟨found, rfl, -⟩ := performs
      have limit := (NumRegs.validate_write_iff count).mp admissible.1
      have length := values.property
      change 2 * values.val.length + 2 ≤ 4002
      omega
  | readWriteMultipleRegisters readAddress readCount writeAddress writeCount values =>
      obtain ⟨before, found, rfl, -⟩ := performs
      have readLimit := (NumRegs.validate_read_iff readCount).mp admissible.1.1
      have writeLimit := (NumRegs.validate_write_iff writeCount).mp admissible.2.1
      have length := values.property
      change 2 * values.val.length + 2 + (2 * readCount.toNat + 2) ≤ 4002
      omega

theorem Worker.Serves.length_le {initial : Table} {packet : ByteBuffer}
    {accesses : List (TableAccess × Table)} {reply : Packet}
    (serves : Serves initial packet accesses reply) : accesses.length ≤ 4002 := by
  obtain ⟨steps, handles, -, parts⟩ := serves
  refine Nat.le_trans (length_le_of_parts parts) ?_
  cases handles with
  | short | refused | inadmissible => exact Nat.zero_le _
  | served received parsed admissible performs => exact performs.turns_le admissible

namespace Worker

variable [Struc] {initial table stored : Table} {session next : Worker}
  {access : Option TableAccess}

/-- The session replies within a number of its own steps. -/
def Within (initial : Table) (left : Nat) : Worker → Prop
  | received _ => 4004 ≤ left
  | encoding program =>
      program.Ensures TableAccess.apply (·.SameShape initial) fun accesses _ =>
        accesses.length + 1 ≤ left
  | replied _ => True

/-- Each of its steps brings a session closer to its reply. -/
theorem Acts.within {left : Nat} (acts : Acts session table access next stored)
    (shape : table.SameShape initial) (within : session.Within initial (left + 1)) :
    next.Within initial left := by
  cases acts with
  | start started =>
      rw [start_congr shape] at started
      refine (start_ensures started).mono ?_
      rintro accesses result ⟨reply, -, serves⟩
      have few := serves.length_le
      have enough : 4004 ≤ left + 1 := within
      omega
  | perform =>
      refine Ensures.mono (within table shape) fun accesses result few => ?_
      exact Nat.le_of_succ_le_succ few
  | finish => exact trivial

omit [Struc] in
/-- A session that is bound to reply at once has replied. -/
theorem exists_replied_of_within (within : session.Within initial 0) :
    ∃ result, session = replied result := by
  cases session with
  | received packet => exact absurd within (by unfold Within; omega)
  | encoding program =>
      obtain ⟨accesses, few⟩ := Ensures.run within
        (fun access state same => (access.sameShape_apply state).trans same) (.refl initial)
      exact absurd few (Nat.not_succ_le_zero _)
  | replied result => exact ⟨result, rfl⟩

/-- The session holds this mutex, and leaves it before it takes another. -/
def Keeps (held : Option Mutex) : Worker → Prop
  | received _ | replied _ => held = none
  | encoding program => Bracketed TableAccess.locking held program none

theorem Acts.exists_keeps {held : Option Mutex} (acts : Acts session table access next stored)
    (keeps : session.Keeps held) :
    ∃ after, (SharedServer.locking access).Turns held after ∧ next.Keeps after := by
  cases acts with
  | start started =>
      obtain rfl : held = none := keeps
      exact ⟨none, .neither none, start_bracketed started⟩
  | perform =>
      obtain ⟨after, turns, bracketed⟩ := keeps
      exact ⟨after, turns, bracketed _⟩
  | finish => exact ⟨held, .neither held, keeps⟩

end Worker

namespace SharedServer

variable {ι κ : Type} {thread : ι → κ} {initial : Table} {owner other : ι}

/-- A session waits for another that its thread runs, or that holds the mutex it
takes next. -/
inductive Waits (thread : ι → κ) (server : SharedServer ι) (owner other : ι) : Prop
  | thread {packet : ByteBuffer} {program : CellProgram (Except Exn Packet)}
      (waiting : server.sessions owner = .received packet) (same : thread other = thread owner)
      (runs : server.sessions other = .encoding program)
  | mutex {access : TableAccess} {next : access.Value → CellProgram (Except Exn Packet)}
      {mutex : Mutex} (encoding : server.sessions owner = .encoding (.perform access next))
      (takes : access.locking = .take mutex) (taken : server.holders mutex = some other)

/-- The mutexes are held as the sessions hold them, and each thread runs one
session at most. -/
structure Orderly (thread : ι → κ) (server : SharedServer ι) (held : ι → Option Mutex) :
    Prop where
  agree : Locking.Agree server.holders held
  keeps : ∀ owner, (server.sessions owner).Keeps (held owner)
  alone : ∀ owner program, server.sessions owner = .encoding program →
    server.Runs thread owner

theorem orderly_idle (table : Table) : Orderly thread (idle table) fun _ : ι => none where
  agree := Locking.agree_free
  keeps _ := rfl
  alone _ _ encoding := nomatch encoding

variable [DecidableEq ι]

/-- One session goes on; if it is in `handle` then, its thread runs no other. -/
theorem Orderly.update {server : SharedServer ι} {held : ι → Option Mutex}
    (orderly : Orderly thread server held) (owner : ι) {next : Worker} {after : Option Mutex}
    {stored : Table} {holders : Mutex → Option ι}
    (agree : Locking.Agree holders (Function.update held owner after)) (keeps : next.Keeps after)
    (runs : ∀ program, next = .encoding program → server.Runs thread owner) :
    Orderly thread ⟨stored, holders, Function.update server.sessions owner next⟩
      (Function.update held owner after) where
  agree := agree
  keeps other := by
    by_cases own : other = owner
    · subst own
      simpa only [Function.update_self] using keeps
    · simpa only [Function.update_of_ne own] using orderly.keeps other
  alone actor program encoding other busy same working := by
    by_cases acts : actor = owner
    · subst acts
      simp only [Function.update_self] at encoding
      by_cases own : other = actor
      · exact own
      · simp only [Function.update_of_ne own] at working
        exact runs program encoding other busy same working
    · simp only [Function.update_of_ne acts] at encoding
      by_cases own : other = owner
      · subst own
        simp only [Function.update_self] at working
        exact (runs busy working actor program same.symm encoding).symm
      · simp only [Function.update_of_ne own] at working
        exact orderly.alone actor program encoding other busy same working

variable [Struc]

/-- The step lemma. -/
theorem Step.exists_orderly {server next : SharedServer ι} {label : Option (Event ι)}
    {held : ι → Option Mutex} (step : Step thread server label next)
    (orderly : Orderly thread server held) : ∃ after, Orderly thread next after := by
  cases step with
  | @receive server actor result waiting packet =>
      have free : held actor = none := by
        have keeps := orderly.keeps actor
        rwa [waiting] at keeps
      have agree : Locking.Agree server.holders (Function.update held actor none) := by
        rw [← free, Function.update_eq_self]
        exact orderly.agree
      exact ⟨_, orderly.update actor agree rfl fun program encoding => nomatch encoding⟩
  | @act server actor access next stored holders runs granted acts =>
      obtain ⟨after, turns, keeps⟩ := acts.exists_keeps (orderly.keeps actor)
      exact ⟨_, orderly.update actor (orderly.agree.step turns granted) keeps fun _ _ => runs⟩

/-- The run lemma. -/
theorem exists_orderly {server : SharedServer ι} {events : List (Event ι)}
    (run : Transitions.Run (Step thread) (idle initial) events server) :
    ∃ held, Orderly thread server held := by
  induction run with
  | refl => exact ⟨_, orderly_idle initial⟩
  | step run taken ih =>
      obtain ⟨held, orderly⟩ := ih
      exact taken.exists_orderly orderly

/-- The steps of the server, with the session that acts for a label. -/
inductive Turn (thread : ι → κ) : Transitions (SharedServer ι) ι
  | receive {server : SharedServer ι} {owner : ι} {result : Except Exn Packet}
      (waiting : server.sessions owner = .replied result) (packet : ByteBuffer) :
      Turn thread server none
        { server with sessions := Function.update server.sessions owner (.received packet) }
  | act {server : SharedServer ι} {owner : ι} {access : Option TableAccess} {next : Worker}
      {stored : Table} {holders : Mutex → Option ι} (runs : server.Runs thread owner)
      (granted : (locking access).holders owner server.holders = some holders)
      (acts : Worker.Acts (server.sessions owner) server.dataTable access next stored) :
      Turn thread server (some owner)
        ⟨stored, holders, Function.update server.sessions owner next⟩

theorem exists_turn_iff {server next : SharedServer ι} :
    (∃ actor, Turn thread server actor next) ↔ ∃ label, Step thread server label next := by
  constructor
  · rintro ⟨_, turn⟩
    cases turn with
    | receive waiting packet => exact ⟨_, .receive waiting packet⟩
    | act runs granted acts => exact ⟨_, .act runs granted acts⟩
  · rintro ⟨_, step⟩
    cases step with
    | receive waiting packet => exact ⟨_, .receive waiting packet⟩
    | act runs granted acts => exact ⟨_, .act runs granted acts⟩

theorem exists_events {first last : SharedServer ι} {actors : List ι}
    (run : Transitions.Run (Turn thread) first actors last) :
    ∃ events, Transitions.Run (Step thread) first events last := by
  induction run with
  | refl => exact ⟨[], .refl⟩
  | step run taken ih =>
      obtain ⟨events, seen⟩ := ih
      obtain ⟨label, step⟩ := exists_turn_iff.mp ⟨_, taken⟩
      exact ⟨_, seen.step step⟩

/-- Who holds a mutex can act. -/
theorem Orderly.exists_turn_of_holds {server : SharedServer ι} {held : ι → Option Mutex}
    {mutex : Mutex} (orderly : Orderly thread server held)
    (holds : server.holders mutex = some owner) :
    ∃ next, Turn thread server (some owner) next := by
  have keeps := orderly.keeps owner
  rw [(orderly.agree mutex owner).mp holds] at keeps
  cases phase : server.sessions owner with
  | received | replied =>
      rw [phase] at keeps
      cases keeps
  | encoding program =>
      rw [phase] at keeps
      have runs := orderly.alone owner program phase
      cases program with
      | done result => cases keeps
      | perform access next =>
          obtain ⟨after, turns, -⟩ := keeps
          obtain ⟨holders, granted⟩ :
              ∃ holders, (locking (some access)).holders owner server.holders = some holders :=
            turns.exists_holders owner server.holders
          exact ⟨_, .act runs granted (by rw [phase]; exact .perform)⟩

/-- A session that its thread runs can act, unless it waits for a mutex. -/
theorem Orderly.exists_turn_or_waits {server : SharedServer ι} {held : ι → Option Mutex}
    {program : CellProgram (Except Exn Packet)} {recent : List (Event ι)}
    (orderly : Orderly thread server held)
    (underway : Underway initial owner (server.sessions owner) recent)
    (phase : server.sessions owner = .encoding program) :
    ∃ other, Relation.ReflGen (Waits thread server) owner other ∧
      ∃ next, Turn thread server (some other) next := by
  have runs := orderly.alone owner program phase
  rw [phase] at underway
  cases underway with
  | encoding ensures =>
      cases program with
      | done result =>
          obtain ⟨reply, finished, -⟩ := ensures
          exact ⟨owner, .refl, _, .act runs rfl (by rw [phase]; exact .finish finished)⟩
      | perform access next =>
          cases granted : (locking (some access)).holders owner server.holders with
          | some holders =>
              exact ⟨owner, .refl, _, .act runs granted (by rw [phase]; exact .perform)⟩
          | none =>
              obtain ⟨mutex, other, takes, taken⟩ := Locking.exists_of_holders_eq_none granted
              exact ⟨other, .single (.mutex phase takes taken), orderly.exists_turn_of_holds taken⟩

omit [DecidableEq ι] in
/-- A session that is under way replies within 4004 steps. -/
theorem Underway.within {session : Worker} {recent : List (Event ι)}
    (underway : Underway initial owner session recent) : session.Within initial 4004 := by
  cases underway with
  | replied => exact trivial
  | received => exact Nat.le_refl 4004
  | @encoding packet accesses program ensures =>
      refine ensures.mono ?_
      rintro later result ⟨reply, -, serves⟩
      have few := serves.length_le
      rw [List.length_append] at few
      omega

/-- A session that has its turns comes closer to its reply, and the others do
not keep it from it. -/
theorem bounded_turn (thread : ι → κ) (initial : Table) (owner : ι) :
    Transitions.Bounded (Turn thread) (· == owner)
      (fun server => server.dataTable.SameShape initial)
      (fun server => ∃ result, server.sessions owner = .replied result)
      fun left server => (server.sessions owner).Within initial left where
  invariant := by
    intro server next actor turn shape
    cases turn with
    | receive => exact shape
    | act runs granted acts => exact acts.sameShape.trans shape
  finished := Worker.exists_replied_of_within
  closer := by
    intro server next actor left turn own shape within
    obtain rfl := beq_iff_eq.mp own
    cases turn with
    | act runs granted acts =>
        simp only [Function.update_self]
        exact acts.within shape within
  kept := by
    intro server next actor left turn others ahead within
    cases turn with
    | @receive server actor result waiting packet =>
        have distinct : owner ≠ actor := by
          rintro rfl
          exact ahead ⟨result, waiting⟩
        simpa only [Function.update_of_ne distinct] using within
    | @act server actor access next stored holders runs granted acts =>
        have distinct : owner ≠ actor := by
          rintro rfl
          simp at others
        simpa only [Function.update_of_ne distinct] using within

/-- A session that has received a packet can start, unless its thread runs another
session or the packet makes the handler read what is not there. -/
theorem exists_start (thread : ι → κ) {server : SharedServer ι} {packet : ByteBuffer}
    (received : server.sessions owner = .received packet) :
    (handle packet).run server.dataTable = none ∨
      (∃ other program, thread other = thread owner ∧
        server.sessions other = .encoding program) ∨
      ∃ next, Turn thread server (some owner) next := by
  by_cases busy : ∃ other program, thread other = thread owner ∧
      server.sessions other = .encoding program
  · exact .inr (.inl busy)
  · have runs : server.Runs thread owner := fun other program same encoding =>
      absurd ⟨other, program, same, encoding⟩ busy
    cases started : Worker.start packet server.dataTable with
    | none =>
        left
        rw [Worker.handle_run_start, started, Option.bind_none]
    | some program =>
        exact .inr (.inr ⟨_, .act runs rfl (by rw [received]; exact .start started)⟩)

/-- Sessions do not wait for one another in a circle.  In every state that the server
comes to, a session that has not replied can act, or one that it waits for, or one
that this one waits for, unless its packet makes the handler read what is not there;
and wherever the server goes from there, the session has replied before it has had
more than 4004 turns. -/
theorem progress {server : SharedServer ι} {before : List ι}
    (run : Transitions.Run (Turn thread) (idle initial) before server) (owner : ι) :
    ((∃ result, server.sessions owner = .replied result) ∨
      (∃ packet, server.sessions owner = .received packet ∧
        (handle packet).run server.dataTable = none) ∨
      ∃ middle, Relation.ReflGen (Waits thread server) owner middle ∧
        ∃ other, Relation.ReflGen (Waits thread server) middle other ∧
          ∃ next, Turn thread server (some other) next) ∧
    ∀ {actors : List ι} {last : SharedServer ι},
      Transitions.Run (Turn thread) server actors last →
        actors.count owner < 4004 ∨
        ∃ front back point, actors = front ++ back ∧
          Transitions.Run (Turn thread) server front point ∧
          Transitions.Run (Turn thread) point back last ∧
          (∃ result, point.sessions owner = .replied result) ∧ front.count owner ≤ 4004 := by
  obtain ⟨events, seen⟩ := exists_events run
  obtain ⟨shape, converses⟩ := run_converses seen
  obtain ⟨held, orderly⟩ := exists_orderly seen
  have underway (session : ι) :
      ∃ recent, Underway initial session (server.sessions session) recent := by
    obtain ⟨-, recent, -, -, underway⟩ := converses session
    exact ⟨recent, underway⟩
  constructor
  · cases phase : server.sessions owner with
    | replied result => exact .inl ⟨result, rfl⟩
    | encoding program =>
        obtain ⟨recent, working⟩ := underway owner
        exact .inr (.inr ⟨owner, .refl, orderly.exists_turn_or_waits working phase⟩)
    | received packet =>
        rcases exists_start thread phase with stuck | busy | turn
        · exact .inr (.inl ⟨packet, rfl, stuck⟩)
        · obtain ⟨middle, program, same, encoding⟩ := busy
          obtain ⟨recent, working⟩ := underway middle
          exact .inr (.inr ⟨middle, .single (.thread phase same encoding),
            orderly.exists_turn_or_waits working encoding⟩)
        · exact .inr (.inr ⟨owner, .refl, owner, .refl, turn⟩)
  · intro actors last onwards
    by_cases enough : 4004 ≤ actors.count owner
    · obtain ⟨recent, working⟩ := underway owner
      exact .inr ((bounded_turn thread initial owner).passes shape working.within onwards enough)
    · exact .inl (Nat.lt_of_not_le enough)

omit [Struc] in
/-- A session waits for the one that its thread runs, which waits for the mutex of
a third. -/
theorem progress_waiting :
    ∃ server : SharedServer (Fin 3),
      Transitions.Run (@Turn _ _ _ Struc.documented (· == 0)) (idle (Table.cleared 2)) [0, 1, 0]
        server ∧
      Waits (· == 0) server 2 1 ∧ Waits (· == 0) server 1 0 ∧
      (∃ middle, Relation.ReflGen (Waits (· == 0) server) 2 middle ∧
        ∃ other, Relation.ReflGen (Waits (· == 0) server) middle other ∧
          ∃ next, @Turn _ _ _ Struc.documented (· == 0) server (some other) next) ∧
      ∀ {actors : List (Fin 3)} {last : SharedServer (Fin 3)},
        Transitions.Run (@Turn _ _ _ Struc.documented (· == 0)) server actors last →
          actors.count 2 < 4004 ∨
          ∃ front back point, actors = front ++ back ∧
            Transitions.Run (@Turn _ _ _ Struc.documented (· == 0)) server front point ∧
            Transitions.Run (@Turn _ _ _ Struc.documented (· == 0)) point back last ∧
            (∃ result, point.sessions 2 = .replied result) ∧ front.count 2 ≤ 4004 := by
  let _ : Struc := Struc.documented
  have alone (server : SharedServer (Fin 3)) : server.Runs (· == 0) 0 :=
    fun other program same _ => eq_of_beq same
  have start : Transitions.Run (@Turn (Fin 3) _ _ _ (· == 0)) (idle (Table.cleared 2)) [] _ :=
    .refl
  have first := start.step (@Turn.receive _ _ _ _ _ _ 0 _ rfl readingBoth)
  have second := first.step (@Turn.receive _ _ _ _ _ _ 1 _ rfl writingBoth)
  have third := second.step (@Turn.receive _ _ _ _ _ _ 2 _ rfl readingBoth)
  have started := third.step (@Turn.act _ _ _ _ _ _ 0 none _ _ _ (alone _) rfl (.start rfl))
  have bothStarted := started.step (@Turn.act _ _ _ _ _ _ 1 none _ _ _ (by
    intro other program same encoding
    match other with
    | 0 => cases same
    | 1 => rfl
    | 2 => cases encoding) rfl (.start rfl))
  have locked := bothStarted.step (@Turn.act _ _ _ _ _ _ 0 _ _ _ _ (alone _) rfl .perform)
  have served : (handle readingBoth).run (Table.cleared 2) ≠ none := by
    rw [Worker.handle_run_start]
    exact Option.some_ne_none _
  obtain ⟨goesOn, few⟩ := progress locked 2
  refine ⟨_, locked, .thread rfl rfl rfl, .mutex rfl rfl rfl, ?_, few⟩
  rcases goesOn with ⟨result, replied⟩ | ⟨packet, received, stuck⟩ | waits
  · cases replied
  · obtain rfl := Worker.received.inj received
    exact absurd stuck served
  · exact waits

end SharedServer

end ModbusCpp
