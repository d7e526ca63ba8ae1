import ModbusCpp.CommandFootprints
import ModbusCpp.ReplyFrames
import ModbusCpp.ReplyHistory
import ModbusCpp.RequestCodec
import ModbusCpp.Serving

/-!
# Outstanding requests

A client sends several requests before it has heard any reply, and hands every
reply to whichever response object it likes.  Requests that differ in their
transaction or their unit are told apart: the replies to the others are
refused, and an object that was fed them is as good as new.
-/

namespace ModbusCpp

open Method RequestHandler StructFormat

variable [Struc]

/-- The packet of a request that was constructed, initialized and encoded. -/
structure Sent (request : ClientRequest) (packet : ByteBuffer) : Prop where
  constructed : request.val.Constructed
  encoded : ∃ left, RequestObject.encode.run request.val = some (.ok packet.bytes, left)

theorem Sent.received {request : ClientRequest} {packet : ByteBuffer}
    (sent : Sent request packet) : Received packet request.val.sentHeader request.function := by
  rcases packet with ⟨bytes, behind⟩
  obtain ⟨left, encoded⟩ := sent.encoded
  obtain ⟨other, ran⟩ := request.val.run_encode
  rw [encoded] at ran
  have result := (Prod.mk.inj (Option.some.inj ran)).1
  split at result
  · obtain rfl := Except.ok.inj result
    exact (RequestObject.received_packet sent.constructed behind).1
  · cases result

/-- The reply to a packet with another header is no answer. -/
theorem Received.not_answers {packet : ByteBuffer} {header : Header} {function : FunctionCode}
    (received : Received packet header function) {request : Adu}
    (foreign : header.transaction ≠ request.transaction ∨ header.unit ≠ request.unit)
    {table stored : Table} {reply : Packet}
    (handled : (handle packet).run table = some (.ok reply, stored)) (byte : UInt8) :
    ¬ Answers request (ByteBuffer.guarded reply) byte := by
  rintro ⟨-, length, decoded, -⟩
  rw [handle_run received] at handled
  obtain ⟨parsed, -, same⟩ := Option.map_eq_some_iff.mp handled
  obtain rfl := Except.ok.inj (Prod.mk.inj same).1
  obtain ⟨transaction, unit, -⟩ := respond_frame header function parsed table
  have own := Frame.decode_header (respond header function parsed table).1 fun _ => none
  rw [transaction, unit] at own
  have fields := Option.some.inj (own.symm.trans decoded)
  simp only [Prod.mk.injEq] at fields
  exact foreign.elim (absurd fields.1) (absurd fields.2.2.2.1)

/-- Every reply of a run was made to its packet, on some table. -/
theorem exists_handle_of_mem_zip {ι : Type} {packets : ι → ByteBuffer} {order : List ι}
    {table last : Table} {replies : List Packet}
    (ran : (handleAll (order.map packets)).run table = some (.ok replies, last)) {owner : ι}
    {reply : Packet} (replied : (owner, reply) ∈ order.zip replies) :
    owner ∈ order ∧ ∃ before stored,
      (handle (packets owner)).run before = some (.ok reply, stored) := by
  induction order generalizing table replies with
  | nil => cases replied
  | cons first order ih =>
      obtain ⟨answer, middle, rest, handled, later, rfl⟩ := exists_of_handleAll_cons ran
      rcases List.mem_cons.mp replied with own | behind
      · obtain ⟨rfl, rfl⟩ := Prod.mk.inj own
        exact ⟨List.mem_cons_self, table, middle, handled⟩
      · obtain ⟨member, found⟩ := ih later behind
        exact ⟨List.mem_cons_of_mem _ member, found⟩

namespace ResponseClass

variable {responses : ResponseClass} {request : Adu} {asked : responses.Asked}
  {function : FunctionCode} {self other : responses.Object}

/-- Two objects that hold the same function decode alike. -/
theorem Holds.outcome_eq (holds : responses.Holds request asked function self)
    (otherHolds : responses.Holds request asked function other) (bytes : Packet) :
    ResponseObject.outcome bytes (responses.wrap self) =
      ResponseObject.outcome bytes (responses.wrap other) := by
  by_cases answered : ∃ byte, Answers request (ByteBuffer.guarded bytes) byte
  · rcases answered with ⟨byte, answers⟩
    cases known : checkFunctionByte byte with
    | true => exact holds.outcome_known otherHolds answers known
    | false =>
        rw [holds.outcome_unknown answers known, otherHolds.outcome_unknown answers known]
  · push Not at answered
    rw [holds.outcome_foreign answered, otherHolds.outcome_foreign answered]

/-- An object that is fed what is no answer holds what it held. -/
theorem Holds.feed_foreign (holds : responses.Holds request asked function self)
    {history : List Packet}
    (foreign : ∀ bytes ∈ history, ∀ byte, ¬ Answers request (ByteBuffer.guarded bytes) byte) :
    ∃ last, ResponseObject.feed history (responses.wrap self) = some (responses.wrap last) ∧
      responses.Holds request asked function last := by
  obtain ⟨last, fed, left⟩ := holds.feed history
  refine ⟨last, fed, ?_⟩
  suffices kept : history.foldl (fun held bytes => (knownFunction request bytes).getD held)
      function = function by rwa [kept] at left
  clear fed left holds
  induction history with
  | nil => rfl
  | cons bytes history ih =>
      have none := knownFunction_of_foreign (foreign bytes List.mem_cons_self)
      rw [List.foldl_cons, none]
      exact ih fun later member => foreign later (List.mem_cons_of_mem _ member)

end ResponseClass

/-- In every order of handling and in every order of hearing, a response object
refuses the replies to the other requests, and then decodes any packet as a new
object does. -/
theorem demultiplexed {ι : Type} {requests : ι → ClientRequest} {packets : ι → ByteBuffer}
    {order : List ι} (sent : ∀ owner ∈ order, Sent (requests owner) (packets owner))
    (apart : ∀ owner ∈ order, ∀ other ∈ order, owner ≠ other →
      (requests other).adu.transaction ≠ (requests owner).adu.transaction ∨
        (requests other).adu.unit ≠ (requests owner).adu.unit)
    {table last : Table} {replies : List Packet}
    (ran : (handleAll (order.map packets)).run table = some (.ok replies, last))
    {owner : ι} (outstanding : owner ∈ order) {history : List (ι × Packet)}
    (heard : ∀ heard ∈ history, heard ∈ order.zip replies ∧ heard.1 ≠ owner) :
    (∀ other reply, (other, reply) ∈ order.zip replies → other ≠ owner →
      (ResponseObject.feed (history.map Prod.snd) (requests owner).val.newResponse).bind
        (ResponseObject.outcome reply) = some (.error Exn.badData)) ∧
    ∀ bytes, (ResponseObject.feed (history.map Prod.snd)
        (requests owner).val.newResponse).bind (ResponseObject.outcome bytes) =
      ResponseObject.outcome bytes (requests owner).val.newResponse := by
  have foreign {other : ι} {reply : Packet} (replied : (other, reply) ∈ order.zip replies)
      (differs : other ≠ owner) (byte : UInt8) :
      ¬ Answers (requests owner).adu (ByteBuffer.guarded reply) byte := by
    obtain ⟨member, before, stored, handled⟩ := exists_handle_of_mem_zip ran replied
    exact (sent other member).received.not_answers
      (apart owner outstanding other member (Ne.symm differs)) handled byte
  obtain ⟨responses, fresh, constructed, base⟩ := (requests owner).val.exists_class
  have own := base (requests owner).property
  have known := (FunctionCode.supported_spec _ (requests owner).function_supported).2.1
  have holds : responses.Holds (requests owner).adu (responses.request fresh)
      (requests owner).function fresh :=
    ⟨rfl, by rw [own]; rfl, by rw [own]; rfl, known⟩
  have refused : ∀ bytes ∈ history.map Prod.snd, ∀ byte,
      ¬ Answers (requests owner).adu (ByteBuffer.guarded bytes) byte := by
    intro bytes member
    obtain ⟨⟨other, reply⟩, inHistory, rfl⟩ := List.mem_map.mp member
    obtain ⟨replied, differs⟩ := heard _ inHistory
    exact foreign replied differs
  obtain ⟨used, fed, usedHolds⟩ := holds.feed_foreign refused
  rw [constructed, fed]
  exact ⟨fun other reply replied differs => usedHolds.outcome_foreign (foreign replied differs),
    usedHolds.outcome_eq holds⟩

/-- A write of register 0 and one of register 1, by two transactions. -/
def twoRequests : Fin 2 → ClientRequest
  | 0 => ⟨.writeSingleRegister { Request.WriteSingleRegister.new 0 7 with
      toAdu := (Adu.new .writeSingleRegister).initializeWith ⟨1, 1⟩ }, rfl⟩
  | 1 => ⟨.writeSingleRegister { Request.WriteSingleRegister.new 1 9 with
      toAdu := (Adu.new .writeSingleRegister).initializeWith ⟨2, 1⟩ }, rfl⟩

def twoPackets : Fin 2 → ByteBuffer
  | 0 => ByteBuffer.guarded [0, 1, 0, 0, 0, 6, 1, 0x06, 0, 0, 0, 7]
  | 1 => ByteBuffer.guarded [0, 2, 0, 0, 0, 6, 1, 0x06, 0, 1, 0, 9]

omit [Struc] in
theorem demultiplexed_twoRequests :
    ∃ first second last,
      (@handleAll Struc.documented ([(1 : Fin 2), 0].map twoPackets)).run (Table.cleared 2) =
        some (.ok [second, first], last) ∧
      ((@ResponseObject.feed Struc.documented [second]
          (twoRequests 0).val.newResponse).bind
        (@ResponseObject.outcome Struc.documented second) = some (.error Exn.badData)) := by
  let _ : Struc := Struc.documented
  obtain ⟨second, _, answered⟩ := exists_handle_of_commandOf
    (show commandOf (twoPackets 1) = some (.writeSingleRegister 1 9) from rfl) (Table.cleared 2)
  obtain ⟨first, last, handled⟩ := exists_handle_of_commandOf
    (show commandOf (twoPackets 0) = some (.writeSingleRegister 0 7) from rfl) _
  have ended : (handleAll []).run last = some (.ok [], last) := rfl
  have ran := handleAll_cons_run answered (handleAll_cons_run handled ended)
  have sent : ∀ owner ∈ [(1 : Fin 2), 0], Sent (twoRequests owner) (twoPackets owner) := by
    simp only [List.forall_mem_cons, List.not_mem_nil, false_implies, implies_true, and_true]
    exact ⟨⟨⟨rfl, rfl, fun _ same => RequestObject.noConfusion same⟩, _, rfl⟩,
      ⟨⟨rfl, rfl, fun _ same => RequestObject.noConfusion same⟩, _, rfl⟩⟩
  have apart : ∀ owner ∈ [(1 : Fin 2), 0], ∀ other ∈ [(1 : Fin 2), 0], owner ≠ other →
      (twoRequests other).adu.transaction ≠ (twoRequests owner).adu.transaction ∨
        (twoRequests other).adu.unit ≠ (twoRequests owner).adu.unit := by
    decide
  refine ⟨first, second, last, ran, ?_⟩
  exact (@demultiplexed _ _ _ _ _ sent apart _ _ _ ran 0 (by decide) [(1, second)]
    (by simp)).1 1 second (by simp) (by decide)

end ModbusCpp
