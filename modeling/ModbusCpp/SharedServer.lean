import ModbusCpp.Transitions
import ModbusCpp.Workers

/-!
# The server and its sessions

Any number of sessions receive packets and reply to them, each to one at a
time, while all of them work on one table.  A thread of the server runs one
session after the other, and a block has a mutex, which a session may have to
wait for.  What a session is seen to do is a sequence of complete conversations,
one for each packet and in the order in which the packets came.
-/

namespace ModbusCpp

open Method RequestHandler Resumption

/-- What happens at a session. -/
inductive Event (ι : Type)
  | received (owner : ι) (packet : ByteBuffer)
  | performed (owner : ι) (access : TableAccess) (found : Table)
  | replied (owner : ι) (result : Except Exn Packet)

namespace Event

variable {ι : Type}

def owner : Event ι → ι
  | received owner _ | performed owner _ _ | replied owner _ => owner

end Event

/-- The table, its mutexes and the sessions of a server.  A session that has
replied waits for the next packet. -/
structure SharedServer (ι : Type) where
  dataTable : Table
  holders : Mutex → Option ι
  sessions : ι → Worker

namespace SharedServer

variable {ι κ : Type}

/-- A server that has received nothing. -/
def idle (table : Table) : SharedServer ι :=
  ⟨table, fun _ => none, fun _ => .replied (.ok [])⟩

/-- The thread of the session is in `handle` for no other session. -/
def Runs (thread : ι → κ) (server : SharedServer ι) (owner : ι) : Prop :=
  ∀ other program, thread other = thread owner →
    server.sessions other = .encoding program → other = owner

/-- What a step of a session does to the mutexes. -/
def locking (access : Option TableAccess) : Locking Mutex :=
  access.elim .neither TableAccess.locking

/-- What is seen of a step of a session. -/
def event (owner : ι) (found : Table) (access : Option TableAccess) (next : Worker) :
    Option (Event ι) :=
  match access, next with
  | some access, _ => some (.performed owner access found)
  | none, .replied result => some (.replied owner result)
  | none, _ => none

variable [Struc] [DecidableEq ι]

inductive Step (thread : ι → κ) : Transitions (SharedServer ι) (Event ι)
  | receive {server : SharedServer ι} {owner : ι} {result : Except Exn Packet}
      (waiting : server.sessions owner = .replied result) (packet : ByteBuffer) :
      Step thread server (some (.received owner packet))
        { server with sessions := Function.update server.sessions owner (.received packet) }
  | act {server : SharedServer ι} {owner : ι} {access : Option TableAccess} {next : Worker}
      {stored : Table} {holders : Mutex → Option ι} (runs : server.Runs thread owner)
      (granted : (locking access).holders owner server.holders = some holders)
      (acts : Worker.Acts (server.sessions owner) server.dataTable access next stored) :
      Step thread server (event owner server.dataTable access next)
        ⟨stored, holders, Function.update server.sessions owner next⟩

end SharedServer

/-- A packet, the accesses that the session made for it and its reply. -/
structure Conversation where
  packet : ByteBuffer
  accesses : List (TableAccess × Table)
  reply : Packet

namespace Conversation

variable {ι : Type}

/-- What is seen of a session before it replies. -/
def opening (owner : ι) (packet : ByteBuffer) (accesses : List (TableAccess × Table)) :
    List (Event ι) :=
  .received owner packet :: accesses.map fun step => .performed owner step.1 step.2

def events (owner : ι) (conversation : Conversation) : List (Event ι) :=
  opening owner conversation.packet conversation.accesses ++
    [.replied owner (.ok conversation.reply)]

theorem opening_snoc (owner : ι) (packet : ByteBuffer) (accesses : List (TableAccess × Table))
    (access : TableAccess) (found : Table) :
    opening owner packet (accesses ++ [(access, found)]) =
      opening owner packet accesses ++ [.performed owner access found] := by
  simp [opening]

end Conversation

namespace SharedServer

open Conversation

variable {ι κ : Type} {thread : ι → κ} [Struc]

/-- What a session has been seen to do since its last reply. -/
inductive Underway (initial : Table) (owner : ι) : Worker → List (Event ι) → Prop
  | replied (result : Except Exn Packet) : Underway initial owner (.replied result) []
  | received (packet : ByteBuffer) :
      Underway initial owner (.received packet) (opening owner packet [])
  | encoding {packet : ByteBuffer} {accesses : List (TableAccess × Table)}
      {program : CellProgram (Except Exn Packet)}
      (ensures : program.Ensures TableAccess.apply (fun found => found.SameShape initial)
        fun later => Worker.Replies initial packet (accesses ++ later)) :
      Underway initial owner (.encoding program) (opening owner packet accesses)

variable [DecidableEq ι]

/-- The events of a session are conversations, and what is under way. -/
def Converses (initial : Table) (session : Worker) (events : List (Event ι)) (owner : ι) :
    Prop :=
  ∃ conversations : List Conversation, ∃ recent : List (Event ι),
    (events.filter fun event => event.owner = owner) =
      conversations.flatMap (Conversation.events owner) ++ recent ∧
    (∀ conversation ∈ conversations, Worker.Serves initial conversation.packet
      conversation.accesses conversation.reply) ∧
    Underway initial owner session recent

omit [Struc] [DecidableEq ι] in
theorem event_owner {owner : ι} {found : Table} {access : Option TableAccess} {next : Worker}
    {seen : Event ι} (shown : seen ∈ event owner found access next) : seen.owner = owner := by
  unfold event at shown
  split at shown
  · obtain rfl := Option.mem_some.mp shown
    rfl
  · obtain rfl := Option.mem_some.mp shown
    rfl
  · cases shown

omit [Struc] in
theorem filter_toList {owner : ι} {label : Option (Event ι)}
    (own : ∀ seen ∈ label, seen.owner = owner) :
    (label.toList.filter fun event => event.owner = owner) = label.toList := by
  apply List.filter_eq_self.mpr
  intro seen seenMem
  exact decide_eq_true (own seen (Option.mem_toList.mp seenMem))

/-- What other sessions are seen to do does not matter. -/
theorem Converses.foreign {initial : Table} {session : Worker} {events : List (Event ι)}
    {owner : ι} (converses : Converses initial session events owner) {label : Option (Event ι)}
    (foreign : ∀ seen ∈ label, seen.owner ≠ owner) :
    Converses initial session (events ++ label.toList) owner := by
  obtain ⟨conversations, recent, split, handled, underway⟩ := converses
  have dropped : (label.toList.filter fun event => event.owner = owner) = [] := by
    apply List.filter_eq_nil_iff.mpr
    intro seen seenMem own
    exact foreign seen (Option.mem_toList.mp seenMem) (of_decide_eq_true own)
  exact ⟨conversations, recent, by rw [List.filter_append, split, dropped, List.append_nil],
    handled, underway⟩

/-- The session goes on, or completes a conversation. -/
theorem Converses.own {initial table stored : Table} {session next : Worker}
    {events : List (Event ι)} {owner : ι} {access : Option TableAccess}
    (converses : Converses initial session events owner) (shape : table.SameShape initial)
    (acts : Worker.Acts session table access next stored) :
    Converses initial next (events ++ (event owner table access next).toList) owner := by
  obtain ⟨conversations, recent, split, handled, underway⟩ := converses
  have appended : ((events ++ (event owner table access next).toList).filter fun event =>
      event.owner = owner) =
        conversations.flatMap (Conversation.events owner) ++
          (recent ++ (event owner table access next).toList) := by
    rw [List.filter_append, split, filter_toList fun seen => event_owner, List.append_assoc]
  cases acts with
  | @start packet table program started =>
      cases underway with
      | received =>
          rw [Worker.start_congr shape] at started
          refine ⟨conversations, opening owner packet [], ?_, handled,
            .encoding (Worker.start_ensures started)⟩
          simpa [event] using appended
  | @perform performed rest table =>
      cases underway with
      | @encoding packet accesses program ensures =>
          refine ⟨conversations, opening owner packet (accesses ++ [(performed, table)]), ?_,
            handled, .encoding ?_⟩
          · rw [opening_snoc]
            exact appended
          · simp only [List.append_assoc]
            exact ensures table shape
  | @finish result reply table finished =>
      cases underway with
      | @encoding packet accesses program ensures =>
          obtain ⟨sent, replied, serves⟩ := ensures
          rw [List.append_nil] at serves
          obtain rfl := Option.some.inj (finished.symm.trans replied)
          refine ⟨conversations ++ [⟨packet, accesses, sent⟩], [], ?_, ?_, .replied _⟩
          · simpa [event, Conversation.events] using appended
          · intro conversation conversationMem
            rcases List.mem_append.mp conversationMem with earlier | last
            · exact handled conversation earlier
            · rw [List.mem_singleton.mp last]
              exact serves

/-- The step lemma: every session goes on with its conversations. -/
theorem Step.converses {initial : Table} {server next : SharedServer ι}
    {label : Option (Event ι)} {events : List (Event ι)}
    (step : Step thread server label next)
    (shape : server.dataTable.SameShape initial)
    (converses : ∀ owner, Converses initial (server.sessions owner) events owner) :
    next.dataTable.SameShape initial ∧
      ∀ owner, Converses initial (next.sessions owner) (events ++ label.toList) owner := by
  cases step with
  | @receive server actor result waiting packet =>
      refine ⟨shape, fun owner => ?_⟩
      by_cases own : owner = actor
      · subst own
        obtain ⟨conversations, recent, split, handled, underway⟩ := converses owner
        rw [waiting] at underway
        cases underway
        rw [List.append_nil] at split
        simp only [Function.update_self]
        refine ⟨conversations, opening owner packet [], ?_, handled, .received packet⟩
        rw [List.filter_append, split]
        simp [opening, Event.owner]
      · simp only [Function.update_of_ne own]
        refine (converses owner).foreign ?_
        rintro seen shown same
        obtain rfl := Option.mem_some.mp shown
        exact own same.symm
  | @act server actor access next stored holders runs granted acts =>
      refine ⟨acts.sameShape.trans shape, fun owner => ?_⟩
      by_cases own : owner = actor
      · subst own
        simp only [Function.update_self]
        exact (converses owner).own shape acts
      · simp only [Function.update_of_ne own]
        refine (converses owner).foreign fun seen shown same => ?_
        exact own (same.symm.trans (event_owner shown))

/-- The run lemma. -/
theorem run_converses {initial : Table} {server : SharedServer ι} {events : List (Event ι)}
    (run : Transitions.Run (Step thread) (idle initial) events server) :
    server.dataTable.SameShape initial ∧
      ∀ owner, Converses initial (server.sessions owner) events owner := by
  induction run with
  | refl => exact ⟨.refl initial, fun owner => ⟨[], [], rfl, by simp, .replied _⟩⟩
  | step run taken ih => exact taken.converses ih.1 ih.2

/-- In every run of any number of sessions, each session has had conversations,
one for every packet it received and in their order, except for the last one,
which may still be under way.  In a conversation the packet is handled as it
would be alone, except that each operation works on what its accesses have shown
it of the cells, one by one, while others changed them. -/
theorem exists_conversations {initial : Table} {server : SharedServer ι}
    {events : List (Event ι)} (run : Transitions.Run (Step thread) (idle initial) events server)
    (owner : ι) :
    ∃ conversations : List Conversation, ∃ recent : List (Event ι),
      (events.filter fun event => event.owner = owner) =
        conversations.flatMap (Conversation.events owner) ++ recent ∧
      (∀ conversation ∈ conversations, Worker.Serves initial conversation.packet
        conversation.accesses conversation.reply) ∧
      (recent = [] ∨ ∃ packet accesses, recent = opening owner packet accesses) := by
  obtain ⟨conversations, recent, split, handled, underway⟩ := (run_converses run).2 owner
  refine ⟨conversations, recent, split, handled, ?_⟩
  generalize server.sessions owner = session at underway
  cases underway with
  | replied => exact .inl rfl
  | received packet => exact .inr ⟨packet, [], rfl⟩
  | @encoding packet accesses program => exact .inr ⟨packet, accesses, rfl⟩

omit [Struc] in
/-- The registers are written while they are read, and the reply shows one of them
as it was before and one as it is afterwards. -/
theorem exists_conversations_torn :
    ∃ (events : List (Event (Fin 2))) (server : SharedServer (Fin 2)),
      Transitions.Run (@Step _ _ Struc.documented _ id) (idle (Table.cleared 2)) events server ∧
      events.map Event.owner = [0, 1, 0, 0, 0, 0, 0, 1, 1, 1, 1, 1, 0, 0] ∧
      events.getLast? = some (.replied 0 (.ok [0, 1, 0, 0, 0, 7, 1, 0x03, 4, 0, 0, 0, 1])) ∧
      ∃ conversations : List Conversation, ∃ recent : List (Event (Fin 2)),
        (events.filter fun event => event.owner = 0) =
          conversations.flatMap (Conversation.events 0) ++ recent ∧
        (∀ conversation ∈ conversations, Worker.Serves (Table.cleared 2) conversation.packet
          conversation.accesses conversation.reply) ∧
        (recent = [] ∨ ∃ packet accesses, recent = opening 0 packet accesses) := by
  let _ : Struc := Struc.documented
  have alone (server : SharedServer (Fin 2)) (owner : Fin 2) : server.Runs id owner :=
    fun other program same _ => same
  have start : Transitions.Run (@Step (Fin 2) _ _ _ id) (idle (Table.cleared 2)) [] _ := .refl
  have received := start.step (@Step.receive _ _ _ _ id _ 0 _ rfl readingBoth)
  have both := received.step (@Step.receive _ _ _ _ id _ 1 _ rfl writingBoth)
  have started := both.step (@Step.act _ _ _ _ id _ 0 none _ _ _ (alone _ 0) rfl (.start rfl))
  have bothStarted :=
    started.step (@Step.act _ _ _ _ id _ 1 none _ _ _ (alone _ 1) rfl (.start rfl))
  have locked := bothStarted.step (@Step.act _ _ _ _ id _ 0 _ _ _ _ (alone _ 0) rfl .perform)
  have left := locked.step (@Step.act _ _ _ _ id _ 0 _ _ _ _ (alone _ 0) rfl .perform)
  have copied := left.step (@Step.act _ _ _ _ id _ 0 _ _ _ _ (alone _ 0) rfl .perform)
  have again := copied.step (@Step.act _ _ _ _ id _ 0 _ _ _ _ (alone _ 0) rfl .perform)
  have read := again.step (@Step.act _ _ _ _ id _ 0 _ _ _ _ (alone _ 0) rfl .perform)
  have taken := read.step (@Step.act _ _ _ _ id _ 1 _ _ _ _ (alone _ 1) rfl .perform)
  have written := taken.step (@Step.act _ _ _ _ id _ 1 _ _ _ _ (alone _ 1) rfl .perform)
  have bothWritten := written.step (@Step.act _ _ _ _ id _ 1 _ _ _ _ (alone _ 1) rfl .perform)
  have given := bothWritten.step (@Step.act _ _ _ _ id _ 1 _ _ _ _ (alone _ 1) rfl .perform)
  have replied := given.step (@Step.act _ _ _ _ id _ 1 none _ _ _ (alone _ 1) rfl (.finish rfl))
  have torn := replied.step (@Step.act _ _ _ _ id _ 0 _ _ _ _ (alone _ 0) rfl .perform)
  have done := torn.step (@Step.act _ _ _ _ id _ 0 none _ _ _ (alone _ 0) rfl (by
    simp only [Function.update_self]
    exact .finish rfl))
  exact ⟨_, _, done, rfl, rfl, exists_conversations done 0⟩

end SharedServer

end ModbusCpp
