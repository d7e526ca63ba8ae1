import ModbusCpp.DecodingBounds
import ModbusCpp.RequestPackets

/-!
# Requests that are served

A request is served if it gets a normal reply.  It then asks for an admissible
command, has the reply of that command and leaves its effect; and every
admissible command is served.
-/

namespace ModbusCpp

open Method RequestHandler StructFormat

/-- The handler answers a request of a function normally. -/
structure Served [Struc] (packet : ByteBuffer) (function : FunctionCode) (table : Table)
    (reply : Packet) (stored : Table) : Prop where
  requested : packet.bytes[7]? = some function.toUnderlying
  ran : (handle packet).run table = some (.ok reply, stored)
  normal : reply ≠ [] ∧ ¬ ExceptionReply reply

/-- Handle packets one after the other, on one table. -/
def handleAll [Struc] : List ByteBuffer → Member Table (List Packet)
  | [] => pure []
  | packet :: packets => do
      let reply ← handle packet
      let replies ← handleAll packets
      pure (reply :: replies)

theorem handleAll_cons_run [Struc] {packet : ByteBuffer} {packets : List ByteBuffer}
    {table stored last : Table} {reply : Packet} {replies : List Packet}
    (first : (handle packet).run table = some (.ok reply, stored))
    (rest : (handleAll packets).run stored = some (.ok replies, last)) :
    (handleAll (packet :: packets)).run table = some (.ok (reply :: replies), last) := by
  simp [handleAll, first, rest]

theorem exists_of_handleAll_cons [Struc] {packet : ByteBuffer} {packets : List ByteBuffer}
    {table last : Table} {replies : List Packet}
    (ran : (handleAll (packet :: packets)).run table = some (.ok replies, last)) :
    ∃ reply stored rest, (handle packet).run table = some (.ok reply, stored) ∧
      (handleAll packets).run stored = some (.ok rest, last) ∧ replies = reply :: rest := by
  cases handled : (handle packet).run table with
  | none => simp [handleAll, handled] at ran
  | some answered =>
      rcases answered with ⟨result, stored⟩
      obtain ⟨reply, rfl, -⟩ := handle_effect handled
      cases followed : (handleAll packets).run stored with
      | none => simp [handleAll, handled, followed] at ran
      | some outcome =>
          rcases outcome with ⟨failure | rest, final⟩
          · simp [handleAll, handled, followed] at ran
          · have built : reply :: rest = replies ∧ final = last := by
              simpa [handleAll, handled, followed] using ran
            rcases built with ⟨rfl, rfl⟩
            exact ⟨reply, stored, rest, rfl, followed, rfl⟩

section Commands

variable [Struc] {packet : ByteBuffer} {header : Header} {function : FunctionCode}
  {command : Command} {table stored : Table} {reply : Packet}

/-- An admissible command is served. -/
theorem Received.served (received : Received packet header function)
    (parsed : parse packet function = some (.ok command))
    (admissible : command.Admissible table) :
    Served packet function table (header.frame function (command.reply table)).bytes
      (command.effect table) where
  requested := received.functionByte
  ran := by
    rw [handle_run_of_parse received parsed]
    simp [respond, admissible, Header.frame]
  normal := by
    have small := FunctionCode.supported_lt_max _ (supported_of_parse parsed)
    exact Frame.normal (UInt8.lt_trans small (by decide))

/-- What is served is an admissible command. -/
theorem Served.exists_command (served : Served packet function table reply stored) :
    ∃ header command, Received packet header function ∧
      parse packet function = some (.ok command) ∧ command.Admissible table ∧
      reply = (header.frame function (command.reply table)).bytes ∧
      stored = command.effect table := by
  obtain ⟨header, received⟩ := exists_received_function served.requested
  cases parsed : parse packet function with
  | none =>
      have ran := served.ran
      rw [handle_run received, parsed] at ran
      cases ran
  | some request =>
      have ran := served.ran
      rw [handle_run_of_parse received parsed] at ran
      obtain ⟨rfl, rfl⟩ := returned_inj.mp ran
      have exceptional := served.normal.2
      rw [respond_exceptionReply_iff parsed] at exceptional
      push Not at exceptional
      rcases exceptional with ⟨command, rfl, admissible⟩
      refine ⟨header, command, received, rfl, admissible, ?_, ?_⟩
      · simp [respond, admissible, Header.frame]
      · simp [respond, admissible]

/-- Some requests are served: those for admissible commands. -/
theorem Received.served_iff (received : Received packet header function) :
    (∃ reply stored, Served packet function table reply stored) ↔
      ∃ command, parse packet function = some (.ok command) ∧ command.Admissible table := by
  constructor
  · rintro ⟨reply, stored, served⟩
    obtain ⟨-, command, -, parsed, admissible, -, -⟩ := served.exists_command
    exact ⟨command, parsed, admissible⟩
  · rintro ⟨command, parsed, admissible⟩
    exact ⟨_, _, received.served parsed admissible⟩

end Commands

end ModbusCpp
