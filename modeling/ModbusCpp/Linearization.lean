import ModbusCpp.AtomicObjects
import ModbusCpp.LinearizationPoints
import ModbusCpp.SharedServer
import ModbusCpp.Serving

/-!
# The atomic server

A machine that handles each packet in one step, at some time after it was
received and before it is replied to.  As long as each packet uses one cell
once, the server with its concurrent sessions cannot be told from it.
-/

namespace ModbusCpp

open Block Method RequestHandler Resumption

/-- `handle`, as one step on the table. -/
def handler [Struc] : Machine Table ByteBuffer (Except Exn Packet) :=
  fun packet table => (handle packet).run table

/-- What a client sees of a session. -/
def Event.visible {ι : Type} : Event ι → Option (Dealing ι ByteBuffer (Except Exn Packet))
  | received owner packet => some (.asked owner packet)
  | performed _ _ _ => none
  | replied owner result => some (.answered owner result)

/-- A command that one operation on one cell does. -/
def Command.UsesOneCell : Command → Prop
  | readBits _ _ count | readRegisters _ _ count | writeMultipleCoils _ count _
  | writeMultipleRegisters _ count _ => count.toNat ≤ 1
  | writeSingleRegister _ _ => True
  | writeSingleCoil _ _ | maskWriteRegister _ _ _ | readWriteMultipleRegisters _ _ _ _ _ => False

/-- A packet that asks for such a command, or is refused. -/
def UsesOneCell (packet : ByteBuffer) : Prop :=
  ∀ header function command, Received packet header function →
    parse packet function = some (.ok command) → command.UsesOneCell

/-- A member that works on one cell at most. -/
def BlockOp.UsesOneCell {data : Type} : BlockOp data → Prop
  | getSlice _ count => count.toNat ≤ 1
  | setSlice _ buffer => buffer.length ≤ 1
  | get _ | set _ _ => True

def TableOp.UsesOneCell : TableOp → Prop
  | bits _ op => op.UsesOneCell
  | registers _ op => op.UsesOneCell

theorem Handles.usesOneCell {initial : Table} {packet : ByteBuffer}
    {steps : List (TableOp × Table)} {reply : Packet}
    (handles : Handles initial packet steps reply) (one : ModbusCpp.UsesOneCell packet) :
    steps = [] ∨ ∃ op found, steps = [(op, found)] ∧ op.UsesOneCell := by
  cases handles with
  | short | refused | inadmissible => exact .inl rfl
  | @served header function command steps payload received parsed admissible performs =>
      have few := one header function command received parsed
      cases command with
      | readBits | readRegisters | writeSingleRegister =>
          obtain ⟨found, rfl, -⟩ := performs
          exact .inr ⟨_, found, rfl, few⟩
      | writeMultipleCoils address count values =>
          obtain ⟨found, rfl, -⟩ := performs
          exact .inr ⟨_, found, rfl, Nat.le_trans (Nat.le_of_eq values.property) few⟩
      | writeMultipleRegisters address count values =>
          obtain ⟨found, rfl, -⟩ := performs
          exact .inr ⟨_, found, rfl, Nat.le_trans (Nat.le_of_eq values.property) few⟩
      | writeSingleCoil | maskWriteRegister | readWriteMultipleRegisters => exact few.elim

section Members

variable {data : Type} {readCount writeCount : UInt16 → Bool}
  {initial : Sequential data readCount writeCount}

theorem BlockAccess.single_lock {α : Type} {op : BlockOp data}
    {next : Except Exn Window → Part data α}
    (later : Single apply (fun found => found.SameShape initial) (next (op.window initial))) :
    Single apply (fun found => found.SameShape initial) (.perform (.lock op) next) :=
  .quiet (fun _ _ => rfl) (fun _ shape => congrArg next (BlockOp.window_congr shape op)) later

/-- Such a member is decided when it last uses its cell. -/
theorem BlockOp.single_accesses (referred : Bool) {op : BlockOp data} (one : op.UsesOneCell) :
    Single BlockAccess.apply (fun found => found.SameShape initial) (op.accesses referred) := by
  cases op with
  | getSlice address count =>
      refine @BlockAccess.single_lock _ _ _ initial _ (getSlice address count) _ ?_
      refine .quiet (fun _ _ => rfl) (fun _ _ => rfl) ?_
      cases found : (getSlice address count).window initial with
      | error failure => exact .decided .done
      | ok window =>
          obtain ⟨valid, rfl⟩ := located_eq_ok_iff.mp found
          have counted : count.toNat = 1 := by
            have positive := Sequential.pos_of_validateRead valid
            have few : count.toNat ≤ 1 := one
            omega
          rw [counted]
          exact .quiet (fun _ _ => rfl) (fun _ _ => rfl) (.deciding fun _ _ => ⟨_, .done⟩)
  | get address =>
      refine @BlockAccess.single_lock _ _ _ initial _ (get address) _ ?_
      cases found : (get address).window initial with
      | error failure => exact .quiet (fun _ _ => rfl) (fun _ _ => rfl) (.decided .done)
      | ok window =>
          cases referred with
          | true =>
              exact .quiet (fun _ _ => rfl) (fun _ _ => rfl) (.deciding fun _ _ => ⟨_, .done⟩)
          | false =>
              exact .deciding fun _ _ => ⟨_, .quiet (fun _ _ => rfl) fun _ _ => .done⟩
  | setSlice address buffer =>
      refine @BlockAccess.single_lock _ _ _ initial _ (setSlice address buffer) _ ?_
      cases found : (setSlice address buffer).window initial with
      | error failure => exact .quiet (fun _ _ => rfl) (fun _ _ => rfl) (.decided .done)
      | ok window =>
          obtain ⟨valid, rfl⟩ := located_eq_ok_iff.mp found
          have positive := Sequential.pos_of_validateSz valid
          have few : buffer.length ≤ 1 := one
          obtain ⟨value, rfl⟩ := List.length_eq_one_iff.mp (show buffer.length = 1 by omega)
          exact .deciding fun _ _ => ⟨_, .quiet (fun _ _ => rfl) fun _ _ => .done⟩
  | set address value =>
      refine @BlockAccess.single_lock _ _ _ initial _ (set address value) _ ?_
      cases found : (set address value).window initial with
      | error failure => exact .quiet (fun _ _ => rfl) (fun _ _ => rfl) (.decided .done)
      | ok window => exact .deciding fun _ _ => ⟨_, .quiet (fun _ _ => rfl) fun _ _ => .done⟩

end Members

theorem TableOp.single_accesses {initial : Table} {op : TableOp} (one : op.UsesOneCell) :
    Single TableAccess.apply (fun found => found.SameShape initial) op.accesses := by
  cases op with
  | bits which op =>
      exact Single.expand_access (fun state shape => shape.bits which) (fun access state => rfl)
        (BlockOp.single_accesses false one)
  | registers which op =>
      exact Single.expand_access (fun state shape => shape.registers which)
        (fun access state => rfl) (BlockOp.single_accesses true one)

section Programs

variable [Struc] {packet : ByteBuffer} {initial : Table}

/-- A session that performs one operation is done after it. -/
theorem Session.exists_done (one : UsesOneCell packet) {op : TableOp}
    {next : Except Exn op.Value → Program}
    (started : Session.start packet initial = some (.perform op next)) {seen : Table}
    (shape : seen.SameShape initial) :
    op.UsesOneCell ∧ ∃ result, next (op.apply seen).1 = .done result := by
  have ensures := Session.start_ensures started seen shape
  cases rest : next (op.apply seen).1 with
  | perform later after =>
      rw [rest] at ensures
      obtain ⟨steps, reply, -, handles⟩ := Ensures.run (ensures seen shape)
        (fun op state same => (op.sameShape_apply state).trans same) shape
      rcases handles.usesOneCell one with none | ⟨other, found, single, -⟩
      · cases none
      · cases single
  | done result =>
      rw [rest] at ensures
      obtain ⟨reply, -, handles⟩ := ensures
      rcases handles.usesOneCell one with none | ⟨other, found, single, few⟩
      · cases none
      · cases single
        exact ⟨few, result, rfl⟩

theorem Worker.single_start (one : UsesOneCell packet)
    {program : CellProgram (Except Exn Packet)} (started : start packet initial = some program) :
    Single TableAccess.apply (fun found => found.SameShape initial) program := by
  obtain ⟨coarse, begun, rfl⟩ := Option.map_eq_some_iff.mp started
  cases coarse with
  | done result => exact .decided .done
  | perform op next =>
      have few := (Session.exists_done one begun (.refl initial)).1
      refine (TableOp.single_accesses few).bind ?_ (.refl initial)
      refine op.ensures_accesses.mono ?_
      rintro accesses _ ⟨seen, shape, rfl, -⟩
      obtain ⟨result, done⟩ := (Session.exists_done one begun shape).2
      exact ⟨result, by rw [done]; rfl⟩

/-- What a program comes to with its packet, when it runs alone from here. -/
def Worker.Completes (initial : Table) (packet : ByteBuffer)
    (program : CellProgram (Except Exn Packet)) : Prop :=
  ∀ table : Table, table.SameShape initial → handler packet table =
    (Session.finish (run TableAccess.apply program table).1).map fun reply =>
      (reply, (run TableAccess.apply program table).2)

theorem Worker.completes_start {program : CellProgram (Except Exn Packet)}
    (started : start packet initial = some program) : Completes initial packet program := by
  intro table shape
  rw [handler, handle_run_start, start_congr shape, started]
  rfl

end Programs

/-- A session of the server and what it is for the atomic object: it is told its
answer when its program is decided. -/
inductive Worker.Abstracts [Struc] (initial : Table) :
    Worker → Machine.Client ByteBuffer (Except Exn Packet) → Prop
  | received {packet : ByteBuffer} (one : UsesOneCell packet) :
      Abstracts initial (received packet) (.asking packet)
  | encoding {packet : ByteBuffer} {program : CellProgram (Except Exn Packet)}
      (single : Single TableAccess.apply (fun found => found.SameShape initial) program)
      (completes : Completes initial packet program) :
      Abstracts initial (encoding program) (.asking packet)
  | decided {program : CellProgram (Except Exn Packet)} {result reply : Except Exn Packet}
      (decided : Decided TableAccess.apply (fun found => found.SameShape initial) result program)
      (finished : Session.finish result = some reply) :
      Abstracts initial (encoding program) (.told reply)
  | replied (result : Except Exn Packet) : Abstracts initial (replied result) .idle

/-- The server and the atomic object, with the same table. -/
structure SharedServer.Abstracts [Struc] {ι : Type} (initial : Table) (server : SharedServer ι)
    (object : Machine.Atomic Table ι ByteBuffer (Except Exn Packet)) : Prop where
  state : object.state = server.dataTable
  shape : server.dataTable.SameShape initial
  sessions : ∀ owner, (server.sessions owner).Abstracts initial (object.clients owner)

namespace SharedServer

variable [Struc] {ι κ : Type} [DecidableEq ι] {thread : ι → κ} {initial : Table}
  {server : SharedServer ι} {object : Machine.Atomic Table ι ByteBuffer (Except Exn Packet)}

theorem Abstracts.update (abstracts : Abstracts initial server object) (owner : ι)
    {session : Worker} {client : Machine.Client ByteBuffer (Except Exn Packet)}
    (related : session.Abstracts initial client) {stored : Table}
    (shape : stored.SameShape initial) (holders : Mutex → Option ι) :
    Abstracts initial ⟨stored, holders, Function.update server.sessions owner session⟩
      ⟨stored, Function.update object.clients owner client⟩ where
  state := rfl
  shape := shape
  sessions other := by
    by_cases own : other = owner
    · subst own
      simpa only [Function.update_self] using related
    · simpa only [Function.update_of_ne own] using abstracts.sessions other

/-- A session goes on, and its client does not see it. -/
theorem Abstracts.aside (abstracts : Abstracts initial server object) (owner : ι)
    {session : Worker} (related : session.Abstracts initial (object.clients owner))
    (holders : Mutex → Option ι) :
    Abstracts initial ⟨server.dataTable, holders, Function.update server.sessions owner session⟩
      object := by
  have kept := abstracts.update owner related abstracts.shape holders
  rw [Function.update_eq_self] at kept
  rcases object with ⟨_, clients⟩
  obtain rfl := abstracts.state
  exact kept

/-- The object takes the packet of a session that is decided. -/
theorem Abstracts.settle (abstracts : Abstracts initial server object) {owner : ι}
    {program : CellProgram (Except Exn Packet)} {result : Except Exn Packet}
    (busy : server.sessions owner = .encoding program)
    (decided : Decided TableAccess.apply (fun found => found.SameShape initial) result program) :
    ∃ settled reply, Transitions.Run (Machine.Atomic.Step handler) object [] settled ∧
      Abstracts initial server settled ∧ settled.clients owner = .told reply ∧
        Session.finish result = some reply := by
  have related := abstracts.sessions owner
  have shape := abstracts.shape
  rw [busy] at related
  rcases server with ⟨table, holders, sessions⟩
  rcases object with ⟨state, clients⟩
  obtain rfl := abstracts.state
  dsimp only at related shape busy
  generalize asked : clients owner = client at related
  cases related with
  | @encoding packet program single completes =>
      obtain ⟨reply, finished⟩ := Session.exists_finish result
      have taken : handler packet state = some (.ok reply, state) := by
        rw [completes state shape, decided.run shape, finished]
        rfl
      have kept := abstracts.update owner (.decided decided finished) shape holders
      rw [← busy, Function.update_eq_self] at kept
      exact ⟨_, .ok reply, .single (Machine.Atomic.Step.act asked taken), kept,
        Function.update_self _ _ _, finished⟩
  | @decided program other reply same finished =>
      have equal := (same.run shape).symm.trans (decided.run shape)
      obtain rfl := (Prod.mk.inj equal).1
      exact ⟨_, reply, .refl, abstracts, asked, finished⟩

/-- A decided session goes on, and its client does not see it. -/
theorem Abstracts.perform_decided (abstracts : Abstracts initial server object) {owner : ι}
    {access : TableAccess} {next : access.Value → CellProgram (Except Exn Packet)}
    {result : Except Exn Packet} (busy : server.sessions owner = .encoding (.perform access next))
    (decided : Decided TableAccess.apply (fun found => found.SameShape initial) result
      (.perform access next)) (holders : Mutex → Option ι) :
    ∃ follower, Transitions.Run (Machine.Atomic.Step handler) object [] follower ∧
      Abstracts initial ⟨(access.apply server.dataTable).2, holders,
        Function.update server.sessions owner
          (.encoding (next (access.apply server.dataTable).1))⟩ follower := by
  obtain ⟨settled, reply, taken, kept, told, finished⟩ := abstracts.settle busy decided
  cases decided with
  | quiet unchanged later =>
      rw [unchanged _ abstracts.shape]
      refine ⟨settled, taken, kept.aside owner ?_ holders⟩
      rw [told]
      exact .decided (later _ abstracts.shape) finished

/-- The object takes the packet when an access decides what becomes of it. -/
theorem Abstracts.perform (abstracts : Abstracts initial server object) {owner : ι}
    {access : TableAccess} {next : access.Value → CellProgram (Except Exn Packet)}
    (busy : server.sessions owner = .encoding (.perform access next))
    (holders : Mutex → Option ι) :
    ∃ follower, Transitions.Run (Machine.Atomic.Step handler) object [] follower ∧
      Abstracts initial ⟨(access.apply server.dataTable).2, holders,
        Function.update server.sessions owner
          (.encoding (next (access.apply server.dataTable).1))⟩ follower := by
  have related := abstracts.sessions owner
  rw [busy] at related
  generalize asked : object.clients owner = client at related
  cases related with
  | decided decided finished => exact abstracts.perform_decided busy decided holders
  | @encoding packet program single completes =>
      cases single with
      | decided decided => exact abstracts.perform_decided busy decided holders
      | quiet unchanged same later =>
          rw [unchanged _ abstracts.shape, same _ abstracts.shape]
          refine ⟨object, .refl, abstracts.aside owner ?_ holders⟩
          rw [asked]
          refine .encoding later fun table shape => ?_
          rw [completes table shape, run_perform, unchanged table shape, same table shape]
      | deciding decides =>
          obtain ⟨result, decided⟩ := decides _ abstracts.shape
          have shape := (access.sameShape_apply server.dataTable).trans abstracts.shape
          obtain ⟨reply, finished⟩ := Session.exists_finish result
          have taken : handler packet object.state =
              some (.ok reply, (access.apply server.dataTable).2) := by
            rw [abstracts.state, completes _ abstracts.shape, run_perform, decided.run shape,
              finished]
            rfl
          exact ⟨_, .single (Machine.Atomic.Step.act asked taken),
            abstracts.update owner (.decided decided finished) shape holders⟩

/-- The atomic object follows a session that acts. -/
theorem Abstracts.follow (abstracts : Abstracts initial server object) {owner : ι}
    {access : Option TableAccess} {next : Worker} {stored : Table}
    (acts : Worker.Acts (server.sessions owner) server.dataTable access next stored)
    (holders : Mutex → Option ι) :
    ∃ follower, Transitions.Run (Machine.Atomic.Step handler) object
      ((event owner server.dataTable access next).bind Event.visible).toList follower ∧
        Abstracts initial ⟨stored, holders, Function.update server.sessions owner next⟩
          follower := by
  generalize here : server.sessions owner = session at acts
  generalize found : server.dataTable = table at acts
  cases acts with
  | @start packet _ program started =>
      have related := abstracts.sessions owner
      rw [here] at related
      generalize asked : object.clients owner = client at related
      subst found
      cases related with
      | received one =>
          have begun := (Worker.start_congr abstracts.shape packet).symm.trans started
          refine ⟨object, .refl, abstracts.aside owner ?_ holders⟩
          rw [asked]
          exact .encoding (Worker.single_start one begun) (Worker.completes_start begun)
  | perform =>
      subst found
      exact abstracts.perform here holders
  | @finish result reply _ finished =>
      subst found
      obtain ⟨settled, sent, taken, kept, told, answered⟩ := abstracts.settle here .done
      obtain rfl := Option.some.inj (finished.symm.trans answered)
      rcases settled with ⟨state, clients⟩
      obtain rfl := kept.state
      exact ⟨_, taken.trans (.single (Machine.Atomic.Step.tell told)),
        kept.update owner (.replied reply) kept.shape holders⟩

/-- The atomic object simulates the server. -/
theorem simulates (initial : Table) :
    Transitions.Simulates (Step thread) (Machine.Atomic.Step handler) Event.visible
      (fun event : Event ι =>
        ∀ owner packet, event = .received owner packet → UsesOneCell packet)
      (Abstracts initial) := by
  intro server next object label abstracts allowed step
  cases step with
  | @receive server owner result waiting packet =>
      have related := abstracts.sessions owner
      rw [waiting] at related
      generalize idle : object.clients owner = client at related
      cases related with
      | replied =>
          have one := allowed _ rfl owner packet rfl
          have received := abstracts.update owner (.received one) abstracts.shape server.holders
          refine ⟨_, .single (.ask idle packet), ?_⟩
          rw [abstracts.state]
          exact received
  | act runs granted acts => exact abstracts.follow acts _

end SharedServer

end ModbusCpp
