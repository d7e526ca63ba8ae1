import Mathlib.Tactic.Common

/-!
# Member functions that throw

A member function reads and writes its object, may throw, and runs over a base
monad `m`.  What it wrote before it threw stays written, so the state is
returned beside the result and not inside it.  The `run` laws evaluate a
function step by step.
-/

/-- A member function of objects of type `σ` throwing exceptions of type `ε`. -/
def Method (ε : Type) (m : Type → Type) (σ α : Type) : Type :=
  σ → m (Except ε α × σ)

namespace Method

variable {ε σ τ α β : Type} {m : Type → Type} [Monad m]

def run (method : Method ε m σ α) (object : σ) : m (Except ε α × σ) :=
  method object

instance : Monad (Method ε m σ) where
  pure value := fun object => pure (.ok value, object)
  bind method next := fun object => do
    let outcome ← method object
    match outcome.1 with
    | .ok value => next value outcome.2
    | .error failure => pure (.error failure, outcome.2)

instance : MonadExceptOf ε (Method ε m σ) where
  throw failure := fun object => pure (.error failure, object)
  tryCatch method handler := fun object => do
    let outcome ← method object
    match outcome.1 with
    | .ok value => pure (.ok value, outcome.2)
    | .error failure => handler failure outcome.2

instance : MonadStateOf σ (Method ε m σ) where
  get := fun object => pure (.ok object, object)
  set object := fun _ => pure (.ok (), object)
  modifyGet update := fun object => pure (.ok (update object).1, (update object).2)

instance : MonadLift m (Method ε m σ) where
  monadLift computation := fun object => do
    let value ← computation
    pure (.ok value, object)

/-- Return the result of a computation that may throw. -/
def fromExcept (result : Except ε α) : Method ε m σ α :=
  fun object => pure (result, object)

/-- Call a member function of another object, which is returned as the call
left it. -/
def onLocal (method : Method ε m τ α) (other : τ) : Method ε m σ (α × τ) :=
  fun object => do
    let outcome ← method other
    pure (outcome.1.map (·, outcome.2), object)

/-- Call a member function of the part of the object that `part` selects. -/
def onPart (part : σ → τ) (replace : τ → σ → σ) (method : Method ε m τ α) :
    Method ε m σ α :=
  fun object => do
    let outcome ← method (part object)
    pure (outcome.1, replace outcome.2 object)

/-- `if (condition) throw failure;` -/
def throwIf {n : Type → Type} [Monad n] [MonadExcept ε n] (condition : Prop)
    [Decidable condition] (failure : ε) : n Unit :=
  if condition then throw failure else pure ()

@[simp]
theorem run_pure (value : α) (object : σ) :
    (pure value : Method ε m σ α).run object = pure (.ok value, object) :=
  rfl

@[simp]
theorem run_bind (method : Method ε m σ α) (next : α → Method ε m σ β) (object : σ) :
    (method >>= next).run object = method.run object >>= fun outcome =>
      match outcome.1 with
      | .ok value => (next value).run outcome.2
      | .error failure => pure (.error failure, outcome.2) :=
  rfl

@[simp]
theorem run_throw (failure : ε) (object : σ) :
    (throw failure : Method ε m σ α).run object = pure (.error failure, object) :=
  rfl

@[simp]
theorem run_tryCatch (method : Method ε m σ α) (handler : ε → Method ε m σ α)
    (object : σ) :
    (tryCatch method handler).run object = method.run object >>= fun outcome =>
      match outcome.1 with
      | .ok value => pure (.ok value, outcome.2)
      | .error failure => (handler failure).run outcome.2 :=
  rfl

@[simp]
theorem run_get (object : σ) :
    (get : Method ε m σ σ).run object = pure (.ok object, object) :=
  rfl

@[simp]
theorem run_modify (update : σ → σ) (object : σ) :
    (modify update : Method ε m σ PUnit).run object = pure (.ok (), update object) :=
  rfl

@[simp]
theorem run_liftM (computation : m α) (object : σ) :
    (liftM computation : Method ε m σ α).run object =
      computation >>= fun value => pure (.ok value, object) :=
  rfl

@[simp]
theorem run_fromExcept (result : Except ε α) (object : σ) :
    (fromExcept result : Method ε m σ α).run object = pure (result, object) :=
  rfl

@[simp]
theorem run_onLocal (method : Method ε m τ α) (other : τ) (object : σ) :
    (onLocal method other).run object = method.run other >>= fun outcome =>
      pure (outcome.1.map (·, outcome.2), object) :=
  rfl

@[simp]
theorem run_onPart (part : σ → τ) (replace : τ → σ → σ) (method : Method ε m τ α)
    (object : σ) :
    (onPart part replace method).run object = method.run (part object) >>= fun outcome =>
      pure (outcome.1, replace outcome.2 object) :=
  rfl

@[simp]
theorem throwIf_pos {n : Type → Type} [Monad n] [MonadExcept ε n] {condition : Prop}
    [Decidable condition] (failure : ε) (holds : condition) :
    (throwIf condition failure : n Unit) = throw failure :=
  if_pos holds

@[simp]
theorem throwIf_neg {n : Type → Type} [Monad n] [MonadExcept ε n] {condition : Prop}
    [Decidable condition] (failure : ε) (fails : ¬ condition) :
    (throwIf condition failure : n Unit) = pure () :=
  if_neg fails

/-- A run that returns comes to one value and leaves one object. -/
theorem returned_inj {value other : α} {object last : σ} :
    some ((Except.ok value : Except ε α), object) = some (.ok other, last) ↔
      value = other ∧ object = last := by
  simp only [Option.some.injEq, Prod.mk.injEq, Except.ok.injEq]

section Guards

/- Functions that make all their checks before they are done with an object.  What
they come to is decided by a part of the object that they only read. -/

variable {κ : Type} {method : Method ε Option σ Unit} {failure : ε} {kept : σ → κ} {part : κ}

/-- Every object with this part fails, and keeps the part. -/
def Throws (method : Method ε Option σ Unit) (failure : ε) (kept : σ → κ) (part : κ) : Prop :=
  ∀ self, kept self = part →
    ∃ left, method.run self = some (.error failure, left) ∧ kept left = part

/-- Every object with this part becomes one and the same object with it. -/
def Returns (method : Method ε Option σ Unit) (kept : σ → κ) (part : κ) : Prop :=
  ∃ done, kept done = part ∧ ∀ self, kept self = part → method.run self = some (.ok (), done)

/-- A function returns under the condition, and fails otherwise. -/
structure DecidedBy (method : Method ε Option σ Unit) (failure : ε) (kept : σ → κ) (part : κ)
    (accepts : Prop) : Prop where
  throws : ¬ accepts → Throws method failure kept part
  returns : accepts → Returns method kept part

/-- A check comes before the others. -/
theorem DecidedBy.check {condition accepts : Prop}
    (fails : ¬ condition → Throws method failure kept part)
    (holds : condition → DecidedBy method failure kept part accepts) :
    DecidedBy method failure kept part (condition ∧ accepts) where
  throws refused := by
    by_cases passed : condition
    · exact (holds passed).throws fun accepted => refused ⟨passed, accepted⟩
    · exact fails passed
  returns accepted := (holds accepted.1).returns accepted.2

theorem DecidedBy.congr {accepts condition : Prop}
    (decides : DecidedBy method failure kept part condition) (same : accepts ↔ condition) :
    DecidedBy method failure kept part accepts := by
  rwa [same]

/-- There is an outcome, and the part is kept. -/
theorem DecidedBy.exists_run {accepts : Prop} {self : σ}
    (decides : DecidedBy method failure kept (kept self) accepts) :
    ∃ result left, method.run self = some (result, left) ∧ kept left = kept self ∧
      (accepts ∧ result = .ok () ∨ ¬ accepts ∧ result = .error failure) := by
  by_cases accepted : accepts
  · obtain ⟨done, keeps, ran⟩ := decides.returns accepted
    exact ⟨.ok (), done, ran self rfl, keeps, .inl ⟨accepted, rfl⟩⟩
  · obtain ⟨left, ran, keeps⟩ := decides.throws accepted self rfl
    exact ⟨.error failure, left, ran, keeps, .inr ⟨accepted, rfl⟩⟩

end Guards

section Except

/- The same for functions that have no object. -/

@[simp]
theorem except_pure (value : α) : (pure value : Except ε α) = .ok value :=
  rfl

@[simp]
theorem except_throw (failure : ε) : (throw failure : Except ε α) = .error failure :=
  rfl

@[simp]
theorem except_ok_bind (value : α) (next : α → Except ε β) :
    (Except.ok value >>= next) = next value :=
  rfl

@[simp]
theorem except_error_bind (failure : ε) (next : α → Except ε β) :
    (Except.error failure >>= next) = .error failure :=
  rfl

end Except

end Method
