import ModbusCpp.SessionContracts
import ModbusCpp.TableAccesses

/-!
# Sessions and the cells they use

Once a session has decoded its packet, all it does is a program of accesses to
the cells of the table.  Other sessions can change the cells between any two of
them, also those of one operation.
-/

namespace ModbusCpp

open Method RequestHandler Resumption

/-- One session while it handles a packet, down to its accesses. -/
inductive Worker
  | received (packet : ByteBuffer)
  | encoding (program : CellProgram (Except Exn Packet))
  | replied (result : Except Exn Packet)

namespace Worker

variable [Struc]

/-- `handle`, up to the call of `encode` in the switch. -/
def start (packet : ByteBuffer) (table : Table) : Option (CellProgram (Except Exn Packet)) :=
  (Session.start packet table).map (Resumption.expand TableOp.accesses)

/-- What a session can do next. -/
inductive Acts : Worker → Table → Option TableAccess → Worker → Table → Prop
  | start {packet : ByteBuffer} {table : Table} {program : CellProgram (Except Exn Packet)}
      (started : Worker.start packet table = some program) :
      Acts (received packet) table none (encoding program) table
  | perform {access : TableAccess} {next : access.Value → CellProgram (Except Exn Packet)}
      {table : Table} :
      Acts (encoding (.perform access next)) table (some access)
        (encoding (next (access.apply table).1)) (access.apply table).2
  | finish {result reply : Except Exn Packet} {table : Table}
      (finished : Session.finish result = some reply) :
      Acts (encoding (.done result)) table none (replied reply) table

theorem start_congr {first second : Table} (shape : first.SameShape second)
    (packet : ByteBuffer) : start packet first = start packet second := by
  rw [start, start, Session.start_congr shape]

/-- A session that acts alone does what `handle` does. -/
theorem handle_run_start (packet : ByteBuffer) (table : Table) :
    (handle packet).run table =
      (start packet table).bind fun program =>
        (Session.finish (run TableAccess.apply program table).1).map fun reply =>
          (reply, (run TableAccess.apply program table).2) := by
  rw [Session.handle_run_start, start, Option.bind_map]
  simp only [Function.comp_def, run_expand TableOp.run_accesses]

/-- The accesses, each with the table it found, and the reply with which a packet
can be handled: those of operations that each work on a table which its accesses
have shown it. -/
def Serves (initial : Table) (packet : ByteBuffer) (accesses : List (TableAccess × Table))
    (reply : Packet) : Prop :=
  ∃ steps : List (TableOp × Table), Handles initial packet steps reply ∧
    (∀ step ∈ steps, step.2.SameShape initial) ∧ Parts TableOp.Shows steps accesses

/-- What a session's program comes to, however its operations are interrupted. -/
def Replies (initial : Table) (packet : ByteBuffer) (accesses : List (TableAccess × Table))
    (result : Except Exn Packet) : Prop :=
  ∃ reply, Session.finish result = some (.ok reply) ∧ Serves initial packet accesses reply

theorem start_ensures {initial : Table} {packet : ByteBuffer}
    {program : CellProgram (Except Exn Packet)} (started : start packet initial = some program) :
    program.Ensures TableAccess.apply (fun found => found.SameShape initial)
      (Replies initial packet) := by
  obtain ⟨coarse, begun, rfl⟩ := Option.map_eq_some_iff.mp started
  refine (Ensures.expand TableOp.ensures_accesses (Session.start_ensures begun)).mono ?_
  rintro accesses result ⟨steps, ⟨reply, finished, handles⟩, shapes, parts⟩
  exact ⟨reply, finished, steps, handles, shapes, parts⟩

theorem start_bracketed {table : Table} {packet : ByteBuffer}
    {program : CellProgram (Except Exn Packet)} (started : start packet table = some program) :
    Bracketed TableAccess.locking none program none := by
  obtain ⟨coarse, -, rfl⟩ := Option.map_eq_some_iff.mp started
  exact bracketed_expand TableOp.bracketed_accesses coarse

theorem Acts.sameShape {table stored : Table} {worker next : Worker}
    {access : Option TableAccess} (acts : Acts worker table access next stored) :
    stored.SameShape table := by
  cases acts with
  | start | finish => exact .refl table
  | @perform access => exact access.sameShape_apply table

end Worker

/-- A request for registers 0 and 1. -/
def readingBoth : ByteBuffer :=
  ByteBuffer.guarded [0, 1, 0, 0, 0, 6, 1, 0x03, 0, 0, 0, 2]

/-- A request to write both. -/
def writingBoth : ByteBuffer :=
  ByteBuffer.guarded [0, 2, 0, 0, 0, 11, 1, 0x10, 0, 0, 0, 2, 4, 0, 1, 0, 1]

end ModbusCpp
