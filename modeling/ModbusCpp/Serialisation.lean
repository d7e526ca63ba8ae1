import ModbusCpp.Sessions

/-!
# Serial outcomes of concurrent sessions

Two concurrent requests whose calls of `get` and `set` are single steps come to
what handling one after the other does, as long as the conflicting operations of
the two are performed in one order.  Functions that use the table more than once
can have a conflicting operation of the other session in between; a mask write is
lost that way.
-/

namespace ModbusCpp

open Block Method RequestHandler Resumption TableMethod

/-- Two tables that may differ in the contents of their blocks alone. -/
structure Table.SameShape (first second : Table) : Prop where
  bits : ∀ which, (first.bits which).SameShape (second.bits which)
  registers : ∀ which, (first.registers which).SameShape (second.registers which)

theorem Table.SameShape.refl (table : Table) : table.SameShape table :=
  ⟨fun _ => ⟨rfl, rfl, rfl⟩, fun _ => ⟨rfl, rfl, rfl⟩⟩

theorem Table.SameShape.trans {first second third : Table} (before : first.SameShape second)
    (after : second.SameShape third) : first.SameShape third where
  bits which := (before.bits which).trans (after.bits which)
  registers which := (before.registers which).trans (after.registers which)

namespace Table

theorem sameShape_setBits {table : Table} {which : BitBlock} {block : Block.Bits}
    (shape : block.SameShape (table.bits which)) :
    (table.setBits which block).SameShape table where
  bits other := by
    by_cases same : which = other
    · subst same
      rwa [bits_setBits]
    · rw [bits_setBits_of_ne _ _ same]
      exact ⟨rfl, rfl, rfl⟩
  registers other := by
    rw [registers_setBits]
    exact ⟨rfl, rfl, rfl⟩

theorem sameShape_setRegisters {table : Table} {which : RegisterBlock}
    {block : Block.Registers} (shape : block.SameShape (table.registers which)) :
    (table.setRegisters which block).SameShape table where
  bits other := by
    rw [bits_setRegisters]
    exact ⟨rfl, rfl, rfl⟩
  registers other := by
    by_cases same : which = other
    · subst same
      rwa [registers_setRegisters]
    · rw [registers_setRegisters_of_ne _ _ same]
      exact ⟨rfl, rfl, rfl⟩

end Table

theorem TableOp.sameShape_apply (op : TableOp) (table : Table) :
    (op.apply table).2.SameShape table := by
  cases op with
  | bits which op => exact Table.sameShape_setBits (op.sameShape_apply _)
  | registers which op => exact Table.sameShape_setRegisters (op.sameShape_apply _)

/-- A program keeps the shape of the table. -/
theorem sameShape_run {α : Type} (program : Resumption TableOp (fun op => Except Exn op.Value) α)
    (table : Table) : (run TableOp.apply program table).2.SameShape table :=
  run_keeps Table.SameShape.refl Table.SameShape.trans TableOp.sameShape_apply program table

section Executing

variable {first second : Table} (shape : first.SameShape second)

include shape

theorem Request.BaseReadBits.executeOn_congr {code : FunctionCode} (block : BitBlock)
    (request : BaseReadBits code) :
    request.executeOn block first = request.executeOn block second := by
  rw [executeOn, executeOn, (shape.bits block).validateRead_eq]

theorem Request.BaseReadRegisters.executeOn_congr {code : FunctionCode}
    (block : RegisterBlock) (request : BaseReadRegisters code) :
    request.executeOn block first = request.executeOn block second := by
  rw [executeOn, executeOn, (shape.registers block).validateRead_eq]

theorem Request.WriteSingleCoil.execute_congr (request : WriteSingleCoil) :
    request.execute first = request.execute second := by
  have same : first.coils.SameShape second.coils := shape.bits .coils
  rw [execute, execute, same.validate_eq]

theorem Request.WriteSingleRegister.execute_congr (request : WriteSingleRegister) :
    request.execute first = request.execute second := by
  have same : first.holdingRegisters.SameShape second.holdingRegisters :=
    shape.registers .holdingRegisters
  rw [execute, execute, same.validate_eq]

theorem Request.WriteMultipleCoils.execute_congr (request : WriteMultipleCoils) :
    request.execute first = request.execute second := by
  have same : first.coils.SameShape second.coils := shape.bits .coils
  rw [execute, execute, same.validateWrite_eq]

theorem Request.WriteMultipleRegisters.execute_congr (request : WriteMultipleRegisters) :
    request.execute first = request.execute second := by
  have same : first.holdingRegisters.SameShape second.holdingRegisters :=
    shape.registers .holdingRegisters
  rw [execute, execute, same.validateWrite_eq]

theorem Request.MaskWriteRegister.execute_congr (request : MaskWriteRegister) :
    request.execute first = request.execute second := by
  have same : first.holdingRegisters.SameShape second.holdingRegisters :=
    shape.registers .holdingRegisters
  rw [execute, execute, same.validate_eq]

theorem Request.ReadWriteMultipleRegisters.execute_congr
    (request : ReadWriteMultipleRegisters) :
    request.execute first = request.execute second := by
  have same : first.holdingRegisters.SameShape second.holdingRegisters :=
    shape.registers .holdingRegisters
  rw [execute, execute, same.validateRead_eq, same.validateWrite_eq]

end Executing

namespace Session

section Starting

variable {ρ θ : Type} {request : ρ} {decode : ByteBuffer → Member ρ Unit}
  {execute : ρ → Table → Except Exn θ} {encode : TableMethod θ Packet} {packet : ByteBuffer}

theorem startCase_congr {first second : Table}
    (same : ∀ request, execute request first = execute request second) :
    startCase request decode execute encode packet first =
      startCase request decode execute encode packet second := by
  unfold startCase
  simp only [same]

/-- Running what is left of a case is running the case. -/
theorem serve_run_startCase (table : Table) :
    (serve request decode execute encode packet).run table =
      (startCase request decode execute encode packet table).map fun program =>
        run TableOp.apply program table := by
  rw [serve_run, startCase]
  cases (decode packet).run request with
  | none => rfl
  | some decoded =>
      rcases decoded with ⟨failure | ⟨⟩, req⟩
      · rfl
      · cases executed : execute req table with
        | error failure =>
            simp only [Option.bind_eq_bind, Option.bind_some, Option.map_some, process, executed,
              Resumption.run_done]
        | ok res =>
            simp only [Option.bind_eq_bind, Option.bind_some, Option.map_some, process, executed,
              Resumption.run_bind]
            rfl

end Starting

variable [Struc]

/-- It does not matter when a session starts. -/
theorem start_congr {first second : Table} (shape : first.SameShape second)
    (packet : ByteBuffer) : start packet first = start packet second := by
  have dispatched (function : FunctionCode) :
      startDispatch packet function first = startDispatch packet function second := by
    unfold startDispatch switch
    split
    · exact startCase_congr (Request.BaseReadBits.executeOn_congr shape .coils)
    · exact startCase_congr (Request.BaseReadBits.executeOn_congr shape .discreteInputs)
    · exact startCase_congr (Request.BaseReadRegisters.executeOn_congr shape .holdingRegisters)
    · exact startCase_congr (Request.BaseReadRegisters.executeOn_congr shape .inputRegisters)
    · exact startCase_congr (Request.WriteSingleCoil.execute_congr shape)
    · exact startCase_congr (Request.WriteSingleRegister.execute_congr shape)
    · exact startCase_congr (Request.WriteMultipleCoils.execute_congr shape)
    · exact startCase_congr (Request.WriteMultipleRegisters.execute_congr shape)
    · exact startCase_congr (Request.MaskWriteRegister.execute_congr shape)
    · exact startCase_congr (Request.ReadWriteMultipleRegisters.execute_congr shape)
    · rfl
  unfold start
  split
  · rfl
  · split
    · exact dispatched _
    · rfl

theorem dispatch_run_startDispatch (packet : ByteBuffer) (function : FunctionCode)
    (table : Table) :
    (dispatch packet function).run table =
      (startDispatch packet function table).map fun program =>
        run TableOp.apply program table := by
  induction function using FunctionCode.cases_supported with
  | unsupported function unsupported =>
      have left : startDispatch packet function table =
          ((Request.Illegal.decode packet).run Request.Illegal.new).bind fun decoded =>
            some (.done (decoded.1.map fun _ => [])) := by
        unfold startDispatch switch
        split
        all_goals first
          | rfl
          | exact absurd (by decide) unsupported
      rw [left, dispatch_of_unsupported packet unsupported, Method.run_bind, Method.run_onLocal]
      cases (Request.Illegal.decode packet).run Request.Illegal.new with
      | none => rfl
      | some decoded =>
          obtain ⟨failure | ⟨⟩, request⟩ := decoded <;> rfl
  | _ => simp only [dispatch, startDispatch, switch, serve_run_startCase]

/-- A session that acts alone does what `handle` does. -/
theorem handle_run_start (packet : ByteBuffer) (table : Table) :
    (handle packet).run table =
      (start packet table).bind fun program =>
        (finish (run TableOp.apply program table).1).map fun reply =>
          (reply, (run TableOp.apply program table).2) := by
  unfold start
  by_cases short : packet.size ≤ Adu.headerLength
  · rw [handle_run_short short, if_pos short]
    rfl
  · rw [if_neg short, handle, throwIf_neg _ short]
    cases found : packet.bytes[Adu.headerLength]? with
    | none => simp [packetAt, found, finish]
    | some byte =>
        have dispatched := dispatch_run_startDispatch packet ⟨byte⟩ table
        cases started : startDispatch packet ⟨byte⟩ table with
        | none => simp [packetAt, found, dispatched, started]
        | some program =>
            rw [started, Option.map_some] at dispatched
            dsimp only
            rw [started, Option.bind_some]
            generalize run TableOp.apply program table = outcome at dispatched ⊢
            rcases outcome with ⟨failure | reply, stored⟩
            · cases failure with
              | specification code function header =>
                  obtain ⟨left, encoded⟩ := Response.Error.run_encode code function header
                  simp [packetAt, found, dispatched, finish, encoded, Except.map]
              | _ => simp [packetAt, found, dispatched, finish]
            · simp [packetAt, found, dispatched, finish]

/-- What a session comes to that started on a table of this shape. -/
def Follows (initial : Table) : Session → Program → Prop
  | received packet, program => start packet initial = some program
  | encoding current, program => program = current
  | replied reply, program => ∃ result, program = .done result ∧ finish result = some reply

/-- A session goes on with its program: nothing happens to the table, or the
next operation of the program. -/
theorem Acts.follows {initial table stored : Table} {session next : Session}
    {op : Option TableOp} {program : Program} (acts : Acts session table op next stored)
    (shape : table.SameShape initial) (follows : session.Follows initial program) :
    (op = none ∧ stored = table ∧ next.Follows initial program) ∨
      ∃ performed rest, op = some performed ∧ program = .perform performed rest ∧
        stored = (performed.apply table).2 ∧
          next.Follows initial (rest (performed.apply table).1) := by
  cases acts with
  | start started =>
      rw [start_congr shape] at started
      exact .inl ⟨rfl, rfl, Option.some.inj (follows.symm.trans started)⟩
  | @perform op rest _ => exact .inr ⟨op, rest, rfl, follows, rfl, rfl⟩
  | finish finished => exact .inl ⟨rfl, rfl, _, follows, finished⟩

/-- Concurrent sessions interleave their programs. -/
theorem Concurrent.interleaved {initial table last : Table} {session other : Session}
    {program otherProgram : Program} {trace : List (Step TableOp)}
    {reply otherReply : Except Exn Packet}
    (run : Concurrent session other table trace reply otherReply last)
    (shape : table.SameShape initial) (follows : session.Follows initial program)
    (otherFollows : other.Follows initial otherProgram) :
    ∃ result otherResult,
      Interleaved TableOp.apply program otherProgram table trace result otherResult last ∧
        finish result = some reply ∧ finish otherResult = some otherReply := by
  induction run generalizing program otherProgram with
  | replied reply otherReply table =>
      rcases follows with ⟨result, rfl, finished⟩
      rcases otherFollows with ⟨otherResult, rfl, otherFinished⟩
      exact ⟨result, otherResult, .done _ _ _, finished, otherFinished⟩
  | left acts rest ih =>
      rcases acts.follows shape follows with
        ⟨rfl, rfl, follows⟩ | ⟨op, next, rfl, rfl, rfl, follows⟩
      · exact ih shape follows otherFollows
      · obtain ⟨result, otherResult, interleaved, finished⟩ :=
          ih ((op.sameShape_apply _).trans shape) follows otherFollows
        exact ⟨result, otherResult, .left interleaved, finished⟩
  | right acts rest ih =>
      rcases acts.follows shape otherFollows with
        ⟨rfl, rfl, otherFollows⟩ | ⟨op, next, rfl, rfl, rfl, otherFollows⟩
      · exact ih shape follows otherFollows
      · obtain ⟨result, otherResult, interleaved, finished⟩ :=
          ih ((op.sameShape_apply _).trans shape) follows otherFollows
        exact ⟨result, otherResult, .right interleaved, finished⟩

/-- Any interleaving of what two sessions have to do can happen. -/
theorem Concurrent.of_interleaved {program otherProgram : Program} {table last : Table}
    {trace : List (Step TableOp)} {result otherResult reply otherReply : Except Exn Packet}
    (interleaved :
      Interleaved TableOp.apply program otherProgram table trace result otherResult last)
    (finished : finish result = some reply) (otherFinished : finish otherResult = some otherReply) :
    Concurrent (encoding program) (encoding otherProgram) table trace reply otherReply last := by
  induction interleaved with
  | done result otherResult table =>
      have replied := Concurrent.replied reply otherReply table
      have right := Concurrent.right (.finish otherFinished) replied
      exact .left (.finish finished) right
  | left rest ih => exact .left .perform (ih finished otherFinished)
  | right rest ih => exact .right .perform (ih finished otherFinished)

/-- Two packets that are both started before the table is used. -/
theorem Concurrent.of_start {first second : ByteBuffer} {program otherProgram : Program}
    {table last : Table} {trace : List (Step TableOp)}
    {result otherResult reply otherReply : Except Exn Packet}
    (started : start first table = some program)
    (otherStarted : start second table = some otherProgram)
    (interleaved :
      Interleaved TableOp.apply program otherProgram table trace result otherResult last)
    (finished : finish result = some reply) (otherFinished : finish otherResult = some otherReply) :
    Concurrent (received first) (received second) table trace reply otherReply last := by
  have encoded := Concurrent.of_interleaved interleaved finished otherFinished
  have right := Concurrent.right (.start otherStarted) encoded
  exact .left (.start started) right

theorem Acts.sameShape {table stored : Table} {session next : Session}
    {op : Option TableOp} (acts : Acts session table op next stored) :
    stored.SameShape table := by
  cases acts with
  | start | finish => exact .refl table
  | @perform op => exact op.sameShape_apply table

/-- A packet that is replied to was started. -/
theorem Concurrent.exists_start {initial table last : Table} {session other : Session}
    {trace : List (Step TableOp)} {reply otherReply : Except Exn Packet}
    (run : Concurrent session other table trace reply otherReply last)
    (shape : table.SameShape initial) {packet : ByteBuffer}
    (takesPart : session = received packet ∨ other = received packet) :
    ∃ program, start packet initial = some program := by
  induction run with
  | replied => rcases takesPart with taken | taken <;> cases taken
  | left acts rest ih =>
      rcases takesPart with rfl | taken
      · cases acts with
        | start started => exact ⟨_, (start_congr shape packet).symm.trans started⟩
      · exact ih (acts.sameShape.trans shape) (.inr taken)
  | right acts rest ih =>
      rcases takesPart with taken | rfl
      · exact ih (acts.sameShape.trans shape) (.inl taken)
      · cases acts with
        | start started => exact ⟨_, (start_congr shape packet).symm.trans started⟩

/-- The outcome of handling one packet and then another. -/
def Serial (first second : ByteBuffer) (table : Table) (reply otherReply : Except Exn Packet)
    (last : Table) : Prop :=
  ∃ middle, (handle first).run table = some (reply, middle) ∧
    (handle second).run middle = some (otherReply, last)

theorem serial_of_run {first second : ByteBuffer} {table middle last : Table}
    {program otherProgram : Program} {result otherResult reply otherReply : Except Exn Packet}
    (started : start first table = some program)
    (otherStarted : start second table = some otherProgram)
    (ran : run TableOp.apply program table = (result, middle))
    (otherRan : run TableOp.apply otherProgram middle = (otherResult, last))
    (finished : finish result = some reply) (otherFinished : finish otherResult = some otherReply) :
    Serial first second table reply otherReply last := by
  have shape : middle.SameShape table := by
    have kept := sameShape_run program table
    rwa [ran] at kept
  refine ⟨middle, ?_, ?_⟩
  · rw [handle_run_start, started, Option.bind_some, ran, finished]
    rfl
  · rw [handle_run_start, start_congr shape, otherStarted, Option.bind_some, otherRan,
      otherFinished]
    rfl

/-- Two concurrent requests have a serial outcome if the conflicting operations
of one come before those of the other. -/
theorem serial_of_goesFirst {first second : ByteBuffer} {table last : Table}
    {trace : List (Step TableOp)} {reply otherReply : Except Exn Packet}
    (run : Concurrent (received first) (received second) table trace reply otherReply last) :
    (GoesFirst TableOp.Conflict .left trace →
      Serial first second table reply otherReply last) ∧
    (GoesFirst TableOp.Conflict .right trace →
      Serial second first table otherReply reply last) := by
  obtain ⟨program, started⟩ := run.exists_start (.refl table) (.inl rfl)
  obtain ⟨otherProgram, otherStarted⟩ := run.exists_start (.refl table) (.inr rfl)
  obtain ⟨result, otherResult, interleaved, finished, otherFinished⟩ :=
    run.interleaved (.refl table) started otherStarted
  have independent (op next : TableOp) (apart : ¬ op.Conflict next) :
      Independent TableOp.apply op next := TableOp.independent_of_not_conflict apart
  have serial := interleaved.serial independent
  constructor
  · intro order
    obtain ⟨middle, ran, otherRan⟩ := serial.1 order
    exact serial_of_run started otherStarted ran otherRan finished otherFinished
  · intro order
    obtain ⟨middle, otherRan, ran⟩ := serial.2 order
    exact serial_of_run otherStarted started otherRan ran otherFinished finished

end Session

/-- A request to set bits of register 0 with a mask write. -/
def settingBits (transaction bits : UInt8) : ByteBuffer :=
  ByteBuffer.guarded [0, transaction, 0, 0, 0, 8, 1, 0x16, 0, 0, 0xFF, 0xFF, 0, bits]

namespace Session

/-- A request to write register 1 and then read register 0. -/
def writingThenReading : ByteBuffer :=
  ByteBuffer.guarded [0, 2, 0, 0, 0, 13, 1, 0x17, 0, 0, 0, 1, 0, 1, 0, 1, 2, 0, 7]

/-- The mask write takes place between the two operations of the other request,
of which only the second conflicts with it. -/
theorem serial_of_goesFirst_settingBits :
    @Serial Struc.documented (settingBits 1 1) writingThenReading (Table.cleared 2)
      (.ok (settingBits 1 1).bytes) (.ok [0, 2, 0, 0, 0, 5, 1, 0x17, 2, 0, 1])
      ((Table.cleared 2).setRegisters .holdingRegisters
        ((Table.cleared 2).holdingRegisters.write 0 [1, 7])) := by
  let _ : Struc := Struc.documented
  refine (@serial_of_goesFirst _ _ _ _ _
    [⟨.right, .registers .holdingRegisters (.setSlice 1 [7])⟩,
      ⟨.left, .registers .holdingRegisters (.get 0)⟩,
      ⟨.left, .registers .holdingRegisters (.set 0 1)⟩,
      ⟨.right, .registers .holdingRegisters (.getSlice 0 1)⟩] _ _ ?_).1 ?_
  · exact .of_start rfl rfl (.right (.left (.left (.right (.done _ _ _))))) rfl rfl
  · simp [GoesFirst, Side.other, TableOp.Conflict, BlockOp.Conflict, BlockOp.Touches]

/-- Two mask writes that both get the register before either sets it: both are
acknowledged and one of them is lost. -/
theorem not_serial_settingBits :
    ∃ trace last,
      @Concurrent Struc.documented (received (settingBits 1 1)) (received (settingBits 2 2))
        (Table.cleared 1) trace (.ok (settingBits 1 1).bytes) (.ok (settingBits 2 2).bytes)
        last ∧
      ¬ @Serial Struc.documented (settingBits 1 1) (settingBits 2 2) (Table.cleared 1)
        (.ok (settingBits 1 1).bytes) (.ok (settingBits 2 2).bytes) last ∧
      ¬ @Serial Struc.documented (settingBits 2 2) (settingBits 1 1) (Table.cleared 1)
        (.ok (settingBits 2 2).bytes) (.ok (settingBits 1 1).bytes) last := by
  let _ : Struc := Struc.documented
  refine ⟨[⟨.left, .registers .holdingRegisters (.get 0)⟩,
      ⟨.right, .registers .holdingRegisters (.get 0)⟩,
      ⟨.left, .registers .holdingRegisters (.set 0 1)⟩,
      ⟨.right, .registers .holdingRegisters (.set 0 2)⟩],
    (Table.cleared 1).setRegisters .holdingRegisters
      ((Table.cleared 1).holdingRegisters.write 0 [2]), ?_, ?_, ?_⟩
  · exact .of_start rfl rfl (.left (.right (.left (.right (.done _ _ _))))) rfl rfl
  · rintro ⟨middle, ran, otherRan⟩
    obtain ⟨-, rfl⟩ := Prod.mk.inj (Option.some.inj ran)
    obtain ⟨-, same⟩ := Prod.mk.inj (Option.some.inj otherRan)
    exact absurd (congrArg (fun table => table.holdingRegisters.container) same) (by decide)
  · rintro ⟨middle, ran, otherRan⟩
    obtain ⟨-, rfl⟩ := Prod.mk.inj (Option.some.inj ran)
    obtain ⟨-, same⟩ := Prod.mk.inj (Option.some.inj otherRan)
    exact absurd (congrArg (fun table => table.holdingRegisters.container) same) (by decide)

end Session

end ModbusCpp
