import Mathlib.Logic.Function.Basic
import ModbusCpp.Transitions

/-!
# Atomic objects

Any number of clients put questions to a machine, each one at a time.  The
machine takes a question in one step, at some time after it was asked and before
it is answered.  So one order of the questions, which every client agrees with,
explains all answers.
-/

/-- What passes between a client and an object. -/
inductive Dealing (ι Question Answer : Type)
  | asked (owner : ι) (question : Question)
  | answered (owner : ι) (answer : Answer)

namespace Machine

variable {State ι Question Answer : Type}

theorem serve_snoc {machine : Machine State Question Answer} {questions : List Question}
    {question : Question} {first middle last : State} {answers : List Answer} {answer : Answer}
    (front : machine.serve questions first = some (answers, middle))
    (back : machine question middle = some (answer, last)) :
    machine.serve (questions ++ [question]) first = some (answers ++ [answer], last) := by
  induction questions generalizing first answers with
  | nil =>
      obtain ⟨rfl, rfl⟩ := Prod.mk.inj (Option.some.inj front)
      simp [serve, back]
  | cons earlier questions ih =>
      obtain ⟨outcome, taken, rest⟩ := Option.bind_eq_some_iff.mp front
      obtain ⟨later, served, same⟩ := Option.map_eq_some_iff.mp rest
      obtain ⟨rfl, rfl⟩ := Prod.mk.inj same
      rw [List.cons_append, serve, taken, Option.bind_some, ih served]
      rfl

/-- A client of the machine. -/
inductive Client (Question Answer : Type)
  | idle
  | asking (question : Question)
  | told (answer : Answer)

/-- The machine and its clients. -/
structure Atomic (State ι Question Answer : Type) where
  state : State
  clients : ι → Client Question Answer

namespace Atomic

def idle (state : State) : Atomic State ι Question Answer :=
  ⟨state, fun _ => .idle⟩

variable [DecidableEq ι]

inductive Step (machine : Machine State Question Answer) :
    Transitions (Atomic State ι Question Answer) (Dealing ι Question Answer)
  | ask {object : Atomic State ι Question Answer} {owner : ι}
      (idle : object.clients owner = .idle) (question : Question) :
      Step machine object (some (.asked owner question))
        ⟨object.state, Function.update object.clients owner (.asking question)⟩
  | act {object : Atomic State ι Question Answer} {owner : ι} {question : Question}
      {answer : Answer} {next : State} (asking : object.clients owner = .asking question)
      (taken : machine question object.state = some (answer, next)) :
      Step machine object none ⟨next, Function.update object.clients owner (.told answer)⟩
  | tell {object : Atomic State ι Question Answer} {owner : ι} {answer : Answer}
      (told : object.clients owner = .told answer) :
      Step machine object (some (.answered owner answer))
        ⟨object.state, Function.update object.clients owner .idle⟩

end Atomic

/-- A question that the machine took, and its answer. -/
structure Transaction (ι Question Answer : Type) where
  owner : ι
  question : Question
  answer : Answer

end Machine

section Order

open Machine

variable {State ι Question Answer : Type} [DecidableEq ι]

/-- What a client asked. -/
def questionsOf (owner : ι) (dealings : List (Dealing ι Question Answer)) : List Question :=
  dealings.filterMap fun dealing =>
    match dealing with
    | .asked other question => if other = owner then some question else none
    | .answered _ _ => none

/-- What it was answered. -/
def answersTo (owner : ι) (dealings : List (Dealing ι Question Answer)) : List Answer :=
  dealings.filterMap fun dealing =>
    match dealing with
    | .asked _ _ => none
    | .answered other answer => if other = owner then some answer else none

/-- What was done for it. -/
def transactionsOf (owner : ι) (order : List (Transaction ι Question Answer)) :
    List (Transaction ι Question Answer) :=
  order.filter fun transaction => transaction.owner = owner

section Snoc

variable (owner actor : ι) (dealings : List (Dealing ι Question Answer))
  (order : List (Transaction ι Question Answer)) (question : Question) (answer : Answer)

theorem questionsOf_asked :
    questionsOf owner (dealings ++ [.asked actor question]) =
      questionsOf owner dealings ++ if actor = owner then [question] else [] := by
  by_cases own : actor = owner <;> simp [questionsOf, own]

theorem questionsOf_answered :
    questionsOf owner (dealings ++ [.answered actor answer]) = questionsOf owner dealings := by
  simp [questionsOf]

theorem answersTo_asked :
    answersTo owner (dealings ++ [.asked actor question]) = answersTo owner dealings := by
  simp [answersTo]

theorem answersTo_answered :
    answersTo owner (dealings ++ [.answered actor answer]) =
      answersTo owner dealings ++ if actor = owner then [answer] else [] := by
  by_cases own : actor = owner <;> simp [answersTo, own]

theorem transactionsOf_snoc :
    transactionsOf owner (order ++ [⟨actor, question, answer⟩]) =
      transactionsOf owner order ++
        if actor = owner then [⟨actor, question, answer⟩] else [] := by
  by_cases own : actor = owner <;> simp [transactionsOf, own]

end Snoc

namespace Machine

namespace Client

/-- What the client has asked and the machine has not taken. -/
def untaken : Client Question Answer → List Question
  | asking question => [question]
  | _ => []

/-- What the machine has answered and the client has not heard. -/
def untold : Client Question Answer → List Answer
  | told answer => [answer]
  | _ => []

theorem length_le (client : Client Question Answer) :
    client.untaken.length + client.untold.length ≤ 1 := by
  cases client <;> simp [untaken, untold]

/-- What it asked was taken or will be, and what was taken was answered or
will be. -/
def Accounts (client : Client Question Answer) (questions : List Question)
    (answers : List Answer) (done : List (Transaction ι Question Answer)) : Prop :=
  questions = done.map Transaction.question ++ client.untaken ∧
    done.map Transaction.answer = answers ++ client.untold

end Client

namespace Atomic

/-- The machine has taken questions one after the other. -/
structure InOrder (machine : Machine State Question Answer) (initial : State)
    (object : Atomic State ι Question Answer) (dealings : List (Dealing ι Question Answer))
    (order : List (Transaction ι Question Answer)) : Prop where
  served : machine.serve (order.map Transaction.question) initial =
    some (order.map Transaction.answer, object.state)
  accounts : ∀ owner, (object.clients owner).Accounts (questionsOf owner dealings)
    (answersTo owner dealings) (transactionsOf owner order)

variable {machine : Machine State Question Answer} {initial : State}
  {object next : Atomic State ι Question Answer} {dealings : List (Dealing ι Question Answer)}
  {order : List (Transaction ι Question Answer)}

/-- The step lemma: a question joins the order when it is taken. -/
theorem Step.inOrder {label : Option (Dealing ι Question Answer)}
    (step : Step machine object label next)
    (inOrder : InOrder machine initial object dealings order) :
    ∃ order, InOrder machine initial next (dealings ++ label.toList) order := by
  rcases inOrder with ⟨served, accounts⟩
  cases step with
  | @ask object actor idle question =>
      refine ⟨order, served, fun owner => ?_⟩
      have before := accounts owner
      simp only [Option.toList_some, questionsOf_asked, answersTo_asked]
      by_cases own : actor = owner
      · subst own
        rw [idle] at before
        simpa [Client.Accounts, Client.untaken, Client.untold] using before
      · simpa [Function.update_of_ne (Ne.symm own), own] using before
  | @act object actor question answer stored asking taken =>
      refine ⟨order ++ [⟨actor, question, answer⟩], by simpa using serve_snoc served taken,
        fun owner => ?_⟩
      have before := accounts owner
      simp only [Option.toList_none, List.append_nil, transactionsOf_snoc]
      by_cases own : actor = owner
      · subst own
        rw [asking] at before
        simpa [Client.Accounts, Client.untaken, Client.untold] using before
      · simpa [Function.update_of_ne (Ne.symm own), own] using before
  | @tell object actor answer told =>
      refine ⟨order, served, fun owner => ?_⟩
      have before := accounts owner
      simp only [Option.toList_some, questionsOf_answered, answersTo_answered]
      by_cases own : actor = owner
      · subst own
        rw [told] at before
        simpa [Client.Accounts, Client.untaken, Client.untold] using before
      · simpa [Function.update_of_ne (Ne.symm own), own] using before

end Atomic

end Machine

end Order
