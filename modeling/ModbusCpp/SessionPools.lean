import Mathlib.Data.List.Permutation
import ModbusCpp.Pools
import ModbusCpp.Serving
import ModbusCpp.Workers

/-!
# Any number of concurrent sessions

The sessions that handle packets at one time are a pool of the programs that
they have on the cells of the table.  Their replies and the table they leave are
those of handling the packets one after the other in any order that the
conflicting accesses keep to, whether or not a mutex kept them to it.
-/

namespace ModbusCpp

open Method RequestHandler Resumption

namespace Worker

variable [Struc] {ι : Type} [DecidableEq ι]

/-- What a session comes to that started on a table of this shape. -/
def Follows (initial : Table) : Worker → CellProgram (Except Exn Packet) → Prop
  | received packet, program => start packet initial = some program
  | encoding current, program => program = current
  | replied reply, program =>
      ∃ result, program = .done result ∧ Session.finish result = some reply

/-- What a session has left of its program, if its packet can be started. -/
def Remains (initial : Table) (worker : Worker) (program : CellProgram (Except Exn Packet)) :
    Prop :=
  match worker with
  | received packet => ∀ started, start packet initial = some started → program = started
  | _ => worker.Follows initial program

section Step

variable {initial table stored : Table} {worker next : Worker} {access : Option TableAccess}
  {program : CellProgram (Except Exn Packet)}

theorem Follows.remains (follows : worker.Follows initial program) :
    worker.Remains initial program := by
  cases worker with
  | received packet =>
      intro started startedEq
      exact Option.some.inj (follows.symm.trans startedEq)
  | encoding | replied => exact follows

theorem Acts.follows_of_remains (acts : Acts worker table access next stored)
    (shape : table.SameShape initial) (remains : worker.Remains initial program) :
    worker.Follows initial program := by
  cases acts with
  | start started =>
      rw [start_congr shape] at started
      exact started.trans (congrArg some (remains _ started).symm)
  | perform | finish => exact remains

/-- A session goes on with its program: nothing happens to the table, or the
next access of the program. -/
theorem Acts.follows (acts : Acts worker table access next stored)
    (shape : table.SameShape initial) (follows : worker.Follows initial program) :
    (access = none ∧ stored = table ∧ next.Follows initial program) ∨
      ∃ performed rest, access = some performed ∧ program = .perform performed rest ∧
        stored = (performed.apply table).2 ∧
          next.Follows initial (rest (performed.apply table).1) := by
  cases acts with
  | start started =>
      rw [start_congr shape] at started
      exact .inl ⟨rfl, rfl, Option.some.inj (follows.symm.trans started)⟩
  | @perform access rest _ => exact .inr ⟨access, rest, rfl, follows, rfl, rfl⟩
  | finish finished => exact .inl ⟨rfl, rfl, _, follows, finished⟩

end Step

/-- Sessions act in any order; the trace has the accesses to the table. -/
inductive Pooled : (ι → Worker) → Table → List (Move ι TableAccess) → (ι → Worker) →
    Table → Prop
  | refl (workers : ι → Worker) (table : Table) : Pooled workers table [] workers table
  | act {workers left : ι → Worker} (owner : ι) {next : Worker} {table stored last : Table}
      {access : Option TableAccess} {trace : List (Move ι TableAccess)}
      (acts : Acts (workers owner) table access next stored)
      (rest : Pooled (Function.update workers owner next) stored trace left last) :
      Pooled workers table (access.toList.map (Move.mk owner) ++ trace) left last

section Run

variable {workers left : ι → Worker} {pool : ι → CellProgram (Except Exn Packet)}
  {initial table last : Table} {trace : List (Move ι TableAccess)}

/-- A pool of sessions is a run of the pool of their programs. -/
theorem Pooled.programs (run : Pooled workers table trace left last)
    (shape : table.SameShape initial)
    (remains : ∀ owner, (workers owner).Remains initial (pool owner)) :
    ∃ rest, Resumption.Pooled TableAccess.apply pool table trace rest last ∧
      ∀ owner, (left owner).Remains initial (rest owner) := by
  induction run generalizing pool with
  | refl workers table => exact ⟨pool, .refl pool table, remains⟩
  | @act workers left owner next table stored last access trace acts rest ih =>
      have follows := acts.follows_of_remains shape (remains owner)
      rcases acts.follows shape follows with
        ⟨rfl, rfl, after⟩ | ⟨performed, later, rfl, turn, rfl, after⟩
      · refine ih shape fun other => ?_
        by_cases own : other = owner
        · subst own
          rw [Function.update_self]
          exact after.remains
        · rw [Function.update_of_ne own]
          exact remains other
      · have others : ∀ other, (Function.update workers owner next other).Remains initial
            (Function.update pool owner (later (performed.apply table).1) other) := by
          intro other
          by_cases own : other = owner
          · subst own
            rw [Function.update_self, Function.update_self]
            exact after.remains
          · rw [Function.update_of_ne own, Function.update_of_ne own]
            exact remains other
        obtain ⟨programs, pooled, remain⟩ :=
          ih ((performed.sameShape_apply table).trans shape) others
        exact ⟨programs, .perform turn pooled, remain⟩

/-- A packet that is replied to was started. -/
theorem Pooled.exists_start (run : Pooled workers table trace left last)
    (shape : table.SameShape initial) {owner : ι} {packet : ByteBuffer}
    (pending : workers owner = received packet) {reply : Except Exn Packet}
    (answered : left owner = replied reply) :
    ∃ program, start packet initial = some program := by
  induction run with
  | refl =>
      rw [pending] at answered
      cases answered
  | @act workers left actor next table stored last access trace acts rest ih =>
      by_cases own : actor = owner
      · subst own
        rw [pending] at acts
        cases acts with
        | start started => exact ⟨_, (start_congr shape packet).symm.trans started⟩
      · refine ih (acts.sameShape.trans shape) ?_ answered
        rw [Function.update_of_ne (Ne.symm own), pending]

end Run

omit [DecidableEq ι] in
/-- Running the programs of packets one after the other is handling them. -/
theorem handleAll_of_serially {packets : ι → ByteBuffer}
    {pool : ι → CellProgram (Except Exn Packet)} {results replies : ι → Except Exn Packet}
    {order : List ι} {initial table last : Table} (shape : table.SameShape initial)
    (started : ∀ owner ∈ order, start (packets owner) initial = some (pool owner))
    (finished : ∀ owner ∈ order, Session.finish (results owner) = some (replies owner))
    (ran : serially TableAccess.apply pool order table = (order.map results, last)) :
    ∃ sent, order.map replies = sent.map Except.ok ∧
      (handleAll (order.map packets)).run table = some (.ok sent, last) := by
  induction order generalizing table with
  | nil =>
      obtain ⟨-, rfl⟩ := Prod.mk.inj ran
      exact ⟨[], rfl, rfl⟩
  | cons owner order ih =>
      obtain ⟨values, rfl⟩ := Prod.mk.inj ran
      obtain ⟨first, rest⟩ := List.cons.inj values
      have kept := run_keeps Table.SameShape.refl Table.SameShape.trans TableAccess.sameShape_apply
        (pool owner) table
      obtain ⟨sent, same, handled⟩ := ih (kept.trans shape)
        (fun other otherMem => started other (List.mem_cons_of_mem _ otherMem))
        (fun other otherMem => finished other (List.mem_cons_of_mem _ otherMem))
        (Prod.ext rest rfl)
      have answered := finished owner List.mem_cons_self
      obtain ⟨reply, sentReply⟩ := Session.exists_finish (results owner)
      have replied := Option.some.inj (answered.symm.trans sentReply)
      refine ⟨reply :: sent, by simp [same, replied], handleAll_cons_run ?_ handled⟩
      rw [handle_run_start, start_congr shape, started owner List.mem_cons_self,
        Option.bind_some, first, answered, replied]
      rfl

/-- Packets that are handled concurrently get the replies and leave the table of
handling them one after the other, in every order of the sessions in which no
access is followed by a conflicting one of an earlier session. -/
theorem handleAll_of_respects {packets : ι → ByteBuffer} {left : ι → Worker}
    {table last : Table} {trace : List (Move ι TableAccess)}
    (run : Pooled (fun owner => received (packets owner)) table trace left last)
    {order : List ι} {replies : ι → Except Exn Packet} (distinct : order.Nodup)
    (complete : ∀ move ∈ trace, move.owner ∈ order)
    (answered : ∀ owner ∈ order, left owner = replied (replies owner))
    (respects : Respects TableAccess.Conflict order trace) :
    ∃ sent, order.map replies = sent.map Except.ok ∧
      (handleAll (order.map packets)).run table = some (.ok sent, last) := by
  let pool := fun owner => (start (packets owner) table).getD (.done (.error .badDataSize))
  have remains : ∀ owner, (received (packets owner)).Remains table (pool owner) := by
    intro owner started startedEq
    simp only [pool, startedEq, Option.getD_some]
  obtain ⟨rest, pooled, remain⟩ := run.programs (.refl table) remains
  have ends : ∀ owner, ∃ result, owner ∈ order →
      rest owner = .done result ∧ Session.finish result = some (replies owner) := by
    intro owner
    by_cases inOrder : owner ∈ order
    · have follows := remain owner
      rw [answered owner inOrder] at follows
      obtain ⟨result, done, finished⟩ := follows
      exact ⟨result, fun _ => ⟨done, finished⟩⟩
    · exact ⟨.ok [], fun listed => absurd listed inOrder⟩
  choose results done using ends
  have serial := pooled.serial (fun access other => TableAccess.independent_of_not_conflict)
    distinct complete (fun owner listed => (done owner listed).1) respects
  refine handleAll_of_serially (.refl table) ?_ (fun owner listed => (done owner listed).2) serial
  intro owner listed
  obtain ⟨program, started⟩ := run.exists_start (.refl table) rfl (answered owner listed)
  simp only [pool, started, Option.getD_some]

/-- A read of registers 0 and 1, and a write of each. -/
def threeRequests : Fin 3 → ByteBuffer
  | 0 => readingBoth
  | 1 => ByteBuffer.guarded [0, 2, 0, 0, 0, 6, 1, 0x06, 0, 0, 0, 7]
  | 2 => ByteBuffer.guarded [0, 3, 0, 0, 0, 6, 1, 0x06, 0, 1, 0, 9]

def threeReplies : Fin 3 → Packet
  | 0 => [0, 1, 0, 0, 0, 7, 1, 0x03, 4, 0, 7, 0, 0]
  | owner => (threeRequests owner).bytes

/-- Register 0 is written after the slice was validated, before it is read. -/
def threeMoves : List (Move (Fin 3) TableAccess) :=
  let on (owner : Fin 3) (access : BlockAccess UInt16) : Move (Fin 3) TableAccess :=
    ⟨owner, .registers .holdingRegisters access⟩
  [on 0 (.lock (.getSlice 0 2)), on 0 .unlock, on 1 (.lock (.set 0 7)), on 1 (.write 0 7),
    on 0 (.read 0), on 1 .unlock, on 0 (.read 1), on 0 (.read 0), on 0 (.read 1),
    on 2 (.lock (.set 1 9)), on 2 (.write 1 9), on 2 .unlock]

omit [Struc] in
theorem handleAll_of_respects_threeRequests :
    ∃ sent : List Packet,
      [(1 : Fin 3), 0, 2].map (fun owner => (.ok (threeReplies owner) : Except Exn Packet)) =
        sent.map Except.ok ∧
      (@handleAll Struc.documented ([(1 : Fin 3), 0, 2].map threeRequests)).run
        (Table.cleared 2) =
        some (.ok sent, (Table.cleared 2).setRegisters .holdingRegisters
          ((Table.cleared 2).holdingRegisters.write 0 [7, 9])) := by
  let _ : Struc := Struc.documented
  have run : ∃ left, Pooled (fun owner => received (threeRequests owner)) (Table.cleared 2)
      threeMoves left ((Table.cleared 2).setRegisters .holdingRegisters
        ((Table.cleared 2).holdingRegisters.write 0 [7, 9])) ∧
      ∀ owner, left owner = replied (.ok (threeReplies owner)) := by
    refine ⟨?left, ?run, ?answered⟩
    case run =>
      refine @Pooled.act _ _ _ _ _ 0 _ _ _ _ none _ (.start rfl) ?_
      refine @Pooled.act _ _ _ _ _ 1 _ _ _ _ none _ (.start rfl) ?_
      refine @Pooled.act _ _ _ _ _ 2 _ _ _ _ none _ (.start rfl) ?_
      refine @Pooled.act _ _ _ _ _ 0 _ _ _ _ (some _) _ .perform ?_
      refine @Pooled.act _ _ _ _ _ 0 _ _ _ _ (some _) _ .perform ?_
      refine @Pooled.act _ _ _ _ _ 1 _ _ _ _ (some _) _ .perform ?_
      refine @Pooled.act _ _ _ _ _ 1 _ _ _ _ (some _) _ .perform ?_
      refine @Pooled.act _ _ _ _ _ 0 _ _ _ _ (some _) _ .perform ?_
      refine @Pooled.act _ _ _ _ _ 1 _ _ _ _ (some _) _ .perform ?_
      refine @Pooled.act _ _ _ _ _ 0 _ _ _ _ (some _) _ .perform ?_
      refine @Pooled.act _ _ _ _ _ 0 _ _ _ _ (some _) _ .perform ?_
      refine @Pooled.act _ _ _ _ _ 0 _ _ _ _ (some _) _ .perform ?_
      refine @Pooled.act _ _ _ _ _ 2 _ _ _ _ (some _) _ .perform ?_
      refine @Pooled.act _ _ _ _ _ 2 _ _ _ _ (some _) _ .perform ?_
      refine @Pooled.act _ _ _ _ _ 2 _ _ _ _ (some _) _ .perform ?_
      refine @Pooled.act _ _ _ _ _ 0 _ _ _ _ none _ (.finish rfl) ?_
      refine @Pooled.act _ _ _ _ _ 1 _ _ _ _ none _ (.finish rfl) ?_
      refine @Pooled.act _ _ _ _ _ 2 _ _ _ _ none _ (.finish rfl) ?_
      exact @Pooled.refl _ (Fin 3) _ _ _
    case answered =>
      rintro ⟨_ | _ | _ | owner, inside⟩
      · rfl
      · rfl
      · rfl
      · omega
  obtain ⟨left, run, answered⟩ := run
  refine handleAll_of_respects run (by decide) ?_ (fun owner _ => answered owner) ?_
  · simp [threeMoves]
  · simp [threeMoves, Respects, TableAccess.Conflict, BlockAccess.Conflict]

def tornRequests : Fin 2 → ByteBuffer
  | 0 => readingBoth
  | 1 => writingBoth

def tornReplies : Fin 2 → Packet
  | 0 => [0, 1, 0, 0, 0, 7, 1, 0x03, 4, 0, 0, 0, 1]
  | 1 => [0, 2, 0, 0, 0, 6, 1, 0x10, 0, 0, 0, 2]

def tornMoves : List (Move (Fin 2) TableAccess) :=
  let on (owner : Fin 2) (access : BlockAccess UInt16) : Move (Fin 2) TableAccess :=
    ⟨owner, .registers .holdingRegisters access⟩
  [on 0 (.lock (.getSlice 0 2)), on 0 .unlock, on 0 (.read 0), on 0 (.read 1), on 0 (.read 0),
    on 1 (.lock (.setSlice 0 [1, 1])), on 1 (.write 0 1), on 1 (.write 1 1), on 1 .unlock,
    on 0 (.read 1)]

omit [Struc] in
/-- A slice that is written while it is read need not be one that the table ever
held. -/
theorem exists_torn_reply :
    ∃ left last, @Pooled Struc.documented (Fin 2) _ (fun owner => received (tornRequests owner))
        (Table.cleared 2) tornMoves left last ∧
      (∀ owner, left owner = replied (.ok (tornReplies owner))) ∧
      ∀ order : List (Fin 2), order.Perm [0, 1] →
        (@handleAll Struc.documented (order.map tornRequests)).run (Table.cleared 2) ≠
          some (.ok (order.map tornReplies), last) := by
  let _ : Struc := Struc.documented
  refine ⟨?left, ?last, ?run, ?answered, ?serial⟩
  case run =>
    refine @Pooled.act _ _ _ _ _ 0 _ _ _ _ none _ (.start rfl) ?_
    refine @Pooled.act _ _ _ _ _ 1 _ _ _ _ none _ (.start rfl) ?_
    refine @Pooled.act _ _ _ _ _ 0 _ _ _ _ (some _) _ .perform ?_
    refine @Pooled.act _ _ _ _ _ 0 _ _ _ _ (some _) _ .perform ?_
    refine @Pooled.act _ _ _ _ _ 0 _ _ _ _ (some _) _ .perform ?_
    refine @Pooled.act _ _ _ _ _ 0 _ _ _ _ (some _) _ .perform ?_
    refine @Pooled.act _ _ _ _ _ 0 _ _ _ _ (some _) _ .perform ?_
    refine @Pooled.act _ _ _ _ _ 1 _ _ _ _ (some _) _ .perform ?_
    refine @Pooled.act _ _ _ _ _ 1 _ _ _ _ (some _) _ .perform ?_
    refine @Pooled.act _ _ _ _ _ 1 _ _ _ _ (some _) _ .perform ?_
    refine @Pooled.act _ _ _ _ _ 1 _ _ _ _ (some _) _ .perform ?_
    refine @Pooled.act _ _ _ _ _ 0 _ _ _ _ (some _) _ .perform ?_
    refine @Pooled.act _ _ _ _ _ 0 _ _ _ _ none _ (.finish rfl) ?_
    refine @Pooled.act _ _ _ _ _ 1 _ _ _ _ none _ (.finish rfl) ?_
    exact @Pooled.refl _ (Fin 2) _ _ _
  case answered =>
    rintro ⟨_ | _ | owner, inside⟩
    · rfl
    · rfl
    · omega
  case serial =>
    intro order perm same
    have replies : ((@handleAll Struc.documented (order.map tornRequests)).run
        (Table.cleared 2)).map (fun outcome => outcome.1.toOption) =
          some (some (order.map tornReplies)) := by
      rw [same]
      rfl
    rcases List.perm_pair.mp perm with rfl | rfl
    · exact absurd replies (by decide +kernel)
    · exact absurd replies (by decide +kernel)

end Worker

end ModbusCpp
