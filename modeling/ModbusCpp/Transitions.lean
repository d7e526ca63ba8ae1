import Mathlib.Tactic.Common

/-!
# Labelled transition systems

A system takes internal transitions and transitions with a label, which its
environment sees.  One system simulates another if it can follow every
transition with the same visible labels; then it can follow every run.  Where
each call has one outcome at most, the same is said with equations.
-/

/-- A transition without a label is internal. -/
abbrev Transitions (State Label : Type) : Type :=
  State → Option Label → State → Prop

namespace Transitions

variable {State Other Label Visible : Type} {step : Transitions State Label}

/-- A run and the labels that are seen on it. -/
inductive Run (step : Transitions State Label) (first : State) : List Label → State → Prop
  | refl : Run step first [] first
  | step {labels : List Label} {label : Option Label} {middle last : State}
      (run : Run step first labels middle) (taken : step middle label last) :
      Run step first (labels ++ label.toList) last

theorem Run.single {first last : State} {label : Option Label} (taken : step first label last) :
    Run step first label.toList last :=
  .step .refl taken

theorem Run.trans {first middle last : State} {labels more : List Label}
    (front : Run step first labels middle) (back : Run step middle more last) :
    Run step first (labels ++ more) last := by
  induction back with
  | refl => rwa [List.append_nil]
  | step run taken ih =>
      rw [← List.append_assoc]
      exact .step ih taken

/-- The abstract system follows every transition whose label is allowed, with
what is visible of the label. -/
def Simulates (concrete : Transitions State Label) (abstract : Transitions Other Visible)
    (visible : Label → Option Visible) (Allowed : Label → Prop)
    (Related : State → Other → Prop) : Prop :=
  ∀ {state next : State} {other : Other} {label : Option Label}, Related state other →
    (∀ seen ∈ label, Allowed seen) → concrete state label next →
      ∃ follower, Run abstract other (label.bind visible).toList follower ∧ Related next follower

/-- What is visible of at most one label. -/
theorem filterMap_toList (visible : Label → Option Visible) (label : Option Label) :
    label.toList.filterMap visible = (label.bind visible).toList := by
  cases label with
  | none => rfl
  | some seen => cases shown : visible seen <;> simp [shown]

theorem Simulates.run {concrete : Transitions State Label}
    {abstract : Transitions Other Visible} {visible : Label → Option Visible}
    {Allowed : Label → Prop} {Related : State → Other → Prop}
    (simulates : Simulates concrete abstract visible Allowed Related) {first last : State}
    {other : Other} {labels : List Label} (related : Related first other)
    (run : Run concrete first labels last) (allowed : ∀ label ∈ labels, Allowed label) :
    ∃ follower, Run abstract other (labels.filterMap visible) follower ∧
      Related last follower := by
  induction run with
  | refl => exact ⟨other, .refl, related⟩
  | @step labels label middle last run taken ih =>
      obtain ⟨middleFollower, front, related⟩ :=
        ih fun seen seenMem => allowed seen (List.mem_append_left _ seenMem)
      obtain ⟨follower, back, related⟩ := simulates related
        (fun seen seenMem => allowed seen
          (List.mem_append_right _ (Option.mem_toList.mpr seenMem))) taken
      refine ⟨follower, ?_, related⟩
      rw [List.filterMap_append, filterMap_toList]
      exact front.trans back

/-- Whatever happens, some labels are seen a limited number of times until the
system comes to a certain point. -/
structure Bounded (step : Transitions State Label) (mine : Label → Bool) (Inv Done : State → Prop)
    (Within : Nat → State → Prop) : Prop where
  invariant : ∀ {state next : State} {label : Option Label}, step state label next →
    Inv state → Inv next
  finished : ∀ {state : State}, Within 0 state → Done state
  closer : ∀ {state next : State} {label : Label} {left : Nat}, step state (some label) next →
    mine label = true → Inv state → Within (left + 1) state → Within left next
  kept : ∀ {state next : State} {label : Option Label} {left : Nat}, step state label next →
    (∀ seen ∈ label, mine seen = false) → ¬ Done state → Within left state → Within left next

/-- The run is at that point after some labels, of which few are counted. -/
def Passes (step : Transitions State Label) (mine : Label → Bool) (Done : State → Prop)
    (bound : Nat) (first : State) (labels : List Label) (last : State) : Prop :=
  ∃ front back middle, labels = front ++ back ∧ Run step first front middle ∧
    Run step middle back last ∧ Done middle ∧ front.countP mine ≤ bound

theorem Passes.onward {mine : Label → Bool} {Done : State → Prop} {bound : Nat}
    {first middle last : State} {labels : List Label} {label : Option Label}
    (passes : Passes step mine Done bound first labels middle) (taken : step middle label last) :
    Passes step mine Done bound first (labels ++ label.toList) last := by
  obtain ⟨front, back, point, rfl, before, after, done, few⟩ := passes
  exact ⟨front, back ++ label.toList, point, List.append_assoc _ _ _, before, .step after taken,
    done, few⟩

section Progress

variable {mine : Label → Bool} {Inv Done : State → Prop} {Within : Nat → State → Prop}
  (bounded : Bounded step mine Inv Done Within) {first middle last : State} {bound left : Nat}

include bounded

/-- The step lemma: as long as the point lies ahead, it comes closer with every
label that is counted. -/
theorem Bounded.exists_left {label : Option Label} (taken : step middle label last)
    (holds : Inv middle) (ahead : ¬ Done middle) (near : Within left middle) :
    ∃ fewer, fewer + label.toList.countP mine = left ∧ Within fewer last := by
  cases label with
  | none => exact ⟨left, rfl, bounded.kept taken (by simp) ahead near⟩
  | some seen =>
      rw [Option.toList_some, List.countP_singleton]
      cases own : mine seen with
      | false => exact ⟨left, rfl, bounded.kept taken (by simp [own]) ahead near⟩
      | true =>
          cases left with
          | zero => exact absurd (bounded.finished near) ahead
          | succ left => exact ⟨left, rfl, bounded.closer taken own holds near⟩

/-- The run lemma. -/
theorem Bounded.passes_or {labels : List Label} (inv : Inv first) (within : Within bound first)
    (run : Run step first labels last) :
    Inv last ∧ (Passes step mine Done bound first labels last ∨
      ∃ left, left + labels.countP mine = bound ∧ Within left last) := by
  induction run with
  | refl => exact ⟨inv, .inr ⟨bound, rfl, within⟩⟩
  | @step labels label middle last run taken ih =>
      obtain ⟨holds, passes | ⟨left, spent, near⟩⟩ := ih
      · exact ⟨bounded.invariant taken holds, .inl (passes.onward taken)⟩
      · refine ⟨bounded.invariant taken holds, ?_⟩
        by_cases done : Done middle
        · exact .inl ⟨labels, label.toList, middle, rfl, run, .single taken, done, by omega⟩
        · obtain ⟨fewer, counted, nearer⟩ := bounded.exists_left taken holds done near
          refine .inr ⟨fewer, ?_, nearer⟩
          rw [List.countP_append]
          omega

/-- A run with as many of these labels has come to that point. -/
theorem Bounded.passes {labels : List Label} (inv : Inv first) (within : Within bound first)
    (run : Run step first labels last) (enough : bound ≤ labels.countP mine) :
    Passes step mine Done bound first labels last := by
  rcases (bounded.passes_or inv within run).2 with passes | ⟨left, spent, near⟩
  · exact passes
  · obtain rfl : left = 0 := by omega
    exact ⟨labels, [], last, (List.append_nil _).symm, run, .refl, bounded.finished near, by omega⟩

end Progress

end Transitions

/-- A system that answers a call and goes on in a new state, unless it is stuck. -/
abbrev Machine (State Call Answer : Type) : Type :=
  Call → State → Option (Answer × State)

namespace Machine

variable {State Other Call Answer : Type}

/-- The answers to calls that are made one after the other. -/
def serve (machine : Machine State Call Answer) : List Call → State → Option (List Answer × State)
  | [], state => some ([], state)
  | call :: calls, state =>
      (machine call state).bind fun first =>
        (serve machine calls first.2).map fun rest => (first.1 :: rest.1, rest.2)

/-- A machine that answers each call from the image of its state answers every
run of calls from it. -/
theorem serve_map {machine : Machine State Call Answer} {image : Machine Other Call Answer}
    {view : State → Other}
    (follows : ∀ call state,
      (machine call state).map (Prod.map id view) = image call (view state))
    (calls : List Call) (state : State) :
    (machine.serve calls state).map (Prod.map id view) = image.serve calls (view state) := by
  induction calls generalizing state with
  | nil => rfl
  | cons call calls ih =>
      have first := follows call state
      cases served : machine call state with
      | none =>
          rw [served, Option.map_none] at first
          rw [serve, serve, served, ← first]
          rfl
      | some outcome =>
          rw [served, Option.map_some] at first
          rw [serve, serve, served, ← first, Option.bind_some, Option.bind_some, Option.map_map]
          simp only [Prod.map_snd, ← ih, Option.map_map]
          rfl

/-- Its runs are the images of the runs of the machine. -/
theorem serve_eq_some_iff {machine : Machine State Call Answer} {image : Machine Other Call Answer}
    {view : State → Other}
    (follows : ∀ call state,
      (machine call state).map (Prod.map id view) = image call (view state))
    (calls : List Call) (state : State) (answers : List Answer) (seen : Other) :
    image.serve calls (view state) = some (answers, seen) ↔
      ∃ last, machine.serve calls state = some (answers, last) ∧ view last = seen := by
  rw [← serve_map follows, Option.map_eq_some_iff]
  constructor
  · rintro ⟨⟨given, last⟩, served, same⟩
    obtain ⟨rfl, rfl⟩ := Prod.mk.inj same
    exact ⟨last, served, rfl⟩
  · rintro ⟨last, served, rfl⟩
    exact ⟨_, served, rfl⟩

end Machine
