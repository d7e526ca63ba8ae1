import ModbusCpp.Conflicts
import ModbusCpp.Refinement

/-!
# Concurrent sessions

The sessions of a server run on its worker threads and share the table.  What
`handle` does before a response is encoded reads the shape of the table alone,
which never changes; what `encode` does with the table it does through `get` and
`set`.  Here each call of these is one step of a session, together with what is
read through its result; `Workers` has the sessions with single cells for steps.
-/

namespace ModbusCpp

open Block Method RequestHandler Resumption

/-- What a session still has to do with the table. -/
abbrev Program : Type :=
  Resumption TableOp (fun op => Except Exn op.Value) (Except Exn Packet)

/-- One session while it handles a packet. -/
inductive Session
  | received (packet : ByteBuffer)
  | encoding (program : Program)
  | replied (result : Except Exn Packet)

namespace Session

variable [Struc]

/-- One case of the switch of `handle`, up to the call of `encode`. -/
def startCase {ρ θ : Type} (request : ρ) (decode : ByteBuffer → Member ρ Unit)
    (execute : ρ → Table → Except Exn θ) (encode : TableMethod θ Packet)
    (packet : ByteBuffer) (table : Table) : Option Program := do
  let (decoded, req) ← (decode packet).run request
  match decoded with
  | .error failure => some (.done (.error failure))
  | .ok () =>
      match execute req table with
      | .error failure => some (.done (.error failure))
      | .ok res => some (encode.run res >>= fun outcome => .done outcome.1)

/-- The switch, with its cases up to there. -/
def startDispatch (packet : ByteBuffer) (function : FunctionCode) :
    Table → Option Program :=
  switch function
    (fun request decode execute encode => startCase request decode execute encode packet)
    fun _ => do
      let (decoded, _) ← (Request.Illegal.decode packet).run Request.Illegal.new
      some (.done (decoded.map fun () => []))

/-- `handle`, up to the call of `encode` in the switch. -/
def start (packet : ByteBuffer) (table : Table) : Option Program :=
  if packet.size ≤ Adu.headerLength then some (.done (.error .badDataSize))
  else
    match packet.bytes[Adu.headerLength]? with
    | some byte => startDispatch packet ⟨byte⟩ table
    | none => some (.done (.error .outOfRange))

/-- The handlers of the try block in `handle`. -/
def finish : Except Exn Packet → Option (Except Exn Packet)
  | .ok reply => some (.ok reply)
  | .error (.specification code function header) =>
      (Response.Error.encode.run (Response.Error.new code function header)).map Prod.fst
  | .error _ => some (.ok [])

/-- What a session can do next: local steps, and locked members of the table. -/
inductive Acts : Session → Table → Option TableOp → Session → Table → Prop
  | start {packet : ByteBuffer} {table : Table} {program : Program}
      (started : Session.start packet table = some program) :
      Acts (received packet) table none (encoding program) table
  | perform {op : TableOp} {next : Except Exn op.Value → Program} {table : Table} :
      Acts (encoding (.perform op next)) table (some op) (encoding (next (op.apply table).1))
        (op.apply table).2
  | finish {result reply : Except Exn Packet} {table : Table}
      (finished : Session.finish result = some reply) :
      Acts (encoding (.done result)) table none (replied reply) table

/-- Two sessions act in any order until both have replied; the trace has the
operations on the table. -/
inductive Concurrent : Session → Session → Table → List (Step TableOp) →
    Except Exn Packet → Except Exn Packet → Table → Prop
  | replied (reply otherReply : Except Exn Packet) (table : Table) :
      Concurrent (replied reply) (replied otherReply) table [] reply otherReply table
  | left {session next other : Session} {table stored last : Table} {op : Option TableOp}
      {trace : List (Step TableOp)} {reply otherReply : Except Exn Packet}
      (acts : Acts session table op next stored)
      (rest : Concurrent next other stored trace reply otherReply last) :
      Concurrent session other table (op.toList.map (Step.mk .left) ++ trace) reply otherReply
        last
  | right {session next other : Session} {table stored last : Table} {op : Option TableOp}
      {trace : List (Step TableOp)} {reply otherReply : Except Exn Packet}
      (acts : Acts other table op next stored)
      (rest : Concurrent session next stored trace reply otherReply last) :
      Concurrent session other table (op.toList.map (Step.mk .right) ++ trace) reply otherReply
        last

end Session

end ModbusCpp
