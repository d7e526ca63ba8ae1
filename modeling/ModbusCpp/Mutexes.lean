import Mathlib.Logic.Function.Basic
import ModbusCpp.Expansion

/-!
# Mutexes

Parties take mutexes and leave them.  Who finds a mutex taken has to wait.  A
program that leaves each mutex before it takes another never keeps one while it
waits, so whoever holds a mutex can go on.
-/

/-- What an operation does to the mutexes. -/
inductive Locking (μ : Type)
  | take (mutex : μ)
  | leave (mutex : μ)
  | neither

namespace Locking

variable {μ ι : Type}

/-- The mutex that its owner holds before and after an operation, of one at most. -/
inductive Turns : Locking μ → Option μ → Option μ → Prop
  | take (mutex : μ) : Turns (take mutex) none (some mutex)
  | leave (mutex : μ) : Turns (leave mutex) (some mutex) none
  | neither (held : Option μ) : Turns neither held held

variable [DecidableEq μ]

/-- Who holds the mutexes after an operation, unless its owner has to wait. -/
def holders (locking : Locking μ) (owner : ι) (before : μ → Option ι) : Option (μ → Option ι) :=
  match locking with
  | take mutex =>
      if (before mutex).isNone then some (Function.update before mutex (some owner)) else none
  | leave mutex => some (Function.update before mutex none)
  | neither => some before

/-- An owner that has to wait takes a mutex that another holds. -/
theorem exists_of_holders_eq_none {locking : Locking μ} {owner : ι} {before : μ → Option ι}
    (waits : locking.holders owner before = none) :
    ∃ mutex holder, locking = take mutex ∧ before mutex = some holder := by
  cases locking with
  | take mutex =>
      cases held : before mutex with
      | none => simp [holders, held] at waits
      | some holder => exact ⟨mutex, holder, rfl, held⟩
  | leave | neither => cases waits

/-- An owner that holds a mutex does not wait. -/
theorem Turns.exists_holders {locking : Locking μ} {mutex : μ} {after : Option μ}
    (turns : locking.Turns (some mutex) after) (owner : ι) (before : μ → Option ι) :
    ∃ next, locking.holders owner before = some next := by
  cases turns with
  | leave | neither => exact ⟨_, rfl⟩

/-- The holders of the mutexes where only one owner holds any. -/
def single (owner : ι) (held : Option μ) (mutex : μ) : Option ι :=
  if held = some mutex then some owner else none

theorem single_none (owner : ι) : single owner (none : Option μ) = fun _ => none := by
  funext mutex
  simp [single]

theorem Turns.holders_single {locking : Locking μ} {held after : Option μ}
    (turns : locking.Turns held after) (owner : ι) :
    locking.holders owner (single owner held) = some (single owner after) := by
  cases turns with
  | take mutex =>
      rw [single_none]
      refine congrArg some (funext fun other => ?_)
      by_cases same : mutex = other
      · subst same
        simp [single]
      · simp [single, same, Function.update_of_ne (Ne.symm same)]
  | leave mutex =>
      rw [single_none]
      refine congrArg some (funext fun other => ?_)
      by_cases same : mutex = other
      · subst same
        simp
      · simp [single, same, Function.update_of_ne (Ne.symm same)]
  | neither => rfl

/-- Each mutex is held by the owner that knows to hold it. -/
def Agree (holders : μ → Option ι) (held : ι → Option μ) : Prop :=
  ∀ mutex owner, holders mutex = some owner ↔ held owner = some mutex

omit [DecidableEq μ] in
theorem agree_free : Agree (fun _ => none : μ → Option ι) fun _ => none := by
  simp [Agree]

theorem Agree.step [DecidableEq ι] {locking : Locking μ} {owner : ι}
    {before next : μ → Option ι} {held : ι → Option μ} {after : Option μ}
    (agree : Agree before held) (turns : locking.Turns (held owner) after)
    (granted : locking.holders owner before = some next) :
    Agree next (Function.update held owner after) := by
  generalize own : held owner = kept at turns
  intro mutex other
  cases turns with
  | take taken =>
      obtain ⟨free, stored⟩ := Option.ite_none_right_eq_some.mp granted
      obtain rfl := Option.some.inj stored
      have unheld : ∀ other, held other ≠ some taken := by
        intro other heldBy
        rw [(agree taken other).mpr heldBy] at free
        cases free
      by_cases mine : other = owner
      · subst mine
        by_cases here : mutex = taken
        · simp [here]
        · simp [here, agree mutex other, own, Ne.symm here]
      · by_cases here : mutex = taken
        · simp [here, mine, unheld other, Ne.symm mine]
        · simp [here, mine, agree mutex other]
  | leave left =>
      obtain rfl := Option.some.inj granted
      have holds := (agree left owner).mpr own
      by_cases mine : other = owner
      · subst mine
        by_cases here : mutex = left
        · simp [here]
        · simp [here, agree mutex other, own, Ne.symm here]
      · by_cases here : mutex = left
        · have foreign : held other ≠ some left := by
            intro heldBy
            exact mine (Option.some.inj (((agree left other).mpr heldBy).symm.trans holds))
          simp [here, mine, foreign]
        · simp [here, mine, agree mutex other]
  | neither =>
      obtain rfl := Option.some.inj granted
      rw [← own, Function.update_eq_self]
      exact agree mutex other

end Locking

namespace Resumption

variable {Op Small : Type} {Result : Op → Type} {SmallResult : Small → Type} {μ α β : Type}

/-- A program that leaves each mutex that it takes before it takes another,
with the mutex that it holds at first and at last. -/
def Bracketed (locking : Op → Locking μ) : Option μ → Resumption Op Result α → Option μ → Prop
  | held, done _, last => held = last
  | held, perform op next, last => ∃ after, (locking op).Turns held after ∧
      ∀ result, Bracketed locking after (next result) last

variable {locking : Op → Locking μ} {held middle last : Option μ}

theorem Bracketed.bind {program : Resumption Op Result α} {next : α → Resumption Op Result β}
    (bracketed : Bracketed locking held program middle)
    (following : ∀ value, Bracketed locking middle (next value) last) :
    Bracketed locking held (program >>= next) last := by
  induction program generalizing held with
  | done value =>
      obtain rfl : held = middle := bracketed
      exact following value
  | perform op rest ih =>
      obtain ⟨after, turns, bracketed⟩ := bracketed
      exact ⟨after, turns, fun result => ih result (bracketed result)⟩

/-- Operations that leave the mutexes they take make such a program. -/
theorem bracketed_expand {carryOut : (op : Op) → Resumption Small SmallResult (Result op)}
    {locking : Small → Locking μ} (carried : ∀ op, Bracketed locking none (carryOut op) none)
    (program : Resumption Op Result α) :
    Bracketed locking none (program.expand carryOut) none := by
  induction program with
  | done value => rfl
  | perform op next ih => exact (carried op).bind ih

/-- Operations that are single ones of another kind. -/
theorem Bracketed.expand_access {wrap : Op → Small}
    {unwrap : (op : Op) → SmallResult (wrap op) → Result op} {smallLocking : Small → Locking μ}
    (same : ∀ op, smallLocking (wrap op) = locking op) {program : Resumption Op Result α}
    (bracketed : Bracketed locking held program last) :
    Bracketed smallLocking held
      (program.expand fun op => .perform (wrap op) fun result => .done (unwrap op result))
      last := by
  induction program generalizing held with
  | done value => exact bracketed
  | perform op next ih =>
      obtain ⟨after, turns, bracketed⟩ := bracketed
      refine ⟨after, ?_, fun result => ih _ (bracketed _)⟩
      rwa [same]

end Resumption
