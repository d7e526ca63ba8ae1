import ModbusCpp.Interleaving

/-!
# Components of a state

A step on a component of a state is a step on the state.  Steps on one component
commute if they do so there; steps on components that lie apart always commute.
-/

/-- A component that can be taken from a state and stored in it. -/
structure Component (σ τ : Type) where
  part : σ → τ
  store : σ → τ → σ
  part_store : ∀ state stored, part (store state stored) = stored
  store_part : ∀ state, store state (part state) = state
  store_store : ∀ state stored later, store (store state stored) later = store state later

namespace Component

variable {σ τ υ α β : Type} {component : Component σ τ} {other : Component σ υ}

/-- Neither of two steps sees the other. -/
structure Commutes (step : σ → α × σ) (other : σ → β × σ) : Prop where
  result : ∀ state, (step (other state).2).1 = (step state).1
  otherResult : ∀ state, (other (step state).2).1 = (other state).1
  state : ∀ state, (other (step state).2).2 = (step (other state).2).2

theorem Commutes.symm {step : σ → α × σ} {other : σ → β × σ} (commutes : Commutes step other) :
    Commutes other step where
  result := commutes.otherResult
  otherResult := commutes.result
  state state := (commutes.state state).symm

/-- A step on the component. -/
def lift (component : Component σ τ) (step : τ → α × τ) (state : σ) : α × σ :=
  ((step (component.part state)).1, component.store state (step (component.part state)).2)

theorem commutes_lift {step : τ → α × τ} {later : τ → β × τ} (commutes : Commutes step later) :
    Commutes (component.lift step) (component.lift later) where
  result state := by simp only [lift, component.part_store, commutes.result]
  otherResult state := by simp only [lift, component.part_store, commutes.otherResult]
  state state := by
    simp only [lift, component.part_store, component.store_store, commutes.state]

/-- Storing one component leaves the other as it was. -/
structure Apart (component : Component σ τ) (other : Component σ υ) : Prop where
  part : ∀ state stored, component.part (other.store state stored) = component.part state
  otherPart : ∀ state stored, other.part (component.store state stored) = other.part state
  store : ∀ state stored later, other.store (component.store state stored) later =
    component.store (other.store state later) stored

theorem Apart.commutes_lift (apart : component.Apart other) (step : τ → α × τ)
    (later : υ → β × υ) : Commutes (component.lift step) (other.lift later) where
  result state := by simp only [lift, apart.part]
  otherResult state := by simp only [lift, apart.otherPart]
  state state := by simp only [lift, apart.part, apart.otherPart, apart.store]

/-- Steps on components of a family, where different ones lie apart. -/
theorem commutes_lift_family {κ : Type} {family : κ → Component σ τ} {key otherKey : κ}
    {step : τ → α × τ} {later : τ → β × τ}
    (apart : key ≠ otherKey → (family key).Apart (family otherKey))
    (commutes : key = otherKey → Commutes step later) :
    Commutes ((family key).lift step) ((family otherKey).lift later) := by
  by_cases same : key = otherKey
  · subst same
    exact commutes_lift (commutes rfl)
  · exact (apart same).commutes_lift step later

end Component

namespace Resumption

variable {Op : Type} {Result : Op → Type} {σ : Type}
  {apply : (op : Op) → σ → Result op × σ} {op other : Op}

theorem independent_iff_commutes :
    Independent apply op other ↔ Component.Commutes (apply op) (apply other) :=
  ⟨fun independent => ⟨independent.result, independent.otherResult, independent.state⟩,
    fun commutes => ⟨commutes.result, commutes.otherResult, commutes.state⟩⟩

end Resumption
