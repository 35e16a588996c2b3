import RecordFilter.Expr.Reader

/-!
# Compiled expressions

Compiling an expression binds each of its conditions to a test of models, whatever a model is.
The conditions are bound from left to right, and the first one that cannot be bound ends the
matter. Evaluation goes from left to right as well, and stops as soon as the value is decided.
-/

namespace RecordFilter

/-- A condition with the test that it is bound to. -/
structure Bound (μ : Type) where
  condition : Condition
  test : μ → Bool

/-- An expression whose conditions are bound to tests. -/
abbrev Compiled (μ : Type) : Type := Tree (Sourced Connective) (Bound μ) .chain

/-! ## Compilation -/

/-- Binds one condition. -/
def Condition.bindTest {m : Type → Type} [Monad m] {μ : Type} (bind : Condition → m (μ → Bool))
    (condition : Condition) : m (Bound μ) := do
  return ⟨condition, ← bind condition⟩

/-- Binds the conditions of an expression from left to right. -/
def Expr.compile {m : Type → Type} [Monad m] {μ : Type} (bind : Condition → m (μ → Bool))
    (e : Expr) : m (Compiled μ) :=
  Tree.visitChain (Condition.bindTest bind) e

/-! ## Evaluation -/

namespace Tree

variable {ω α : Type}

/-- The value of a tree, given the value of each leaf as an action. Once an operand decides the
value of its chain, nothing to the right of it is run. -/
def evaluateM {m : Type → Type} [Monad m] (connective : ω → Connective) (test : α → m Bool) :
    {l : Level} → Tree ω α l → m Bool
  | _, leaf content => test content
  | _, group inner => inner.evaluateM connective test
  | _, single operand => operand.evaluateM connective test
  | _, join operand c rest => do
    let left ← operand.evaluateM connective test
    if (connective c).decides left then return left else rest.evaluateM connective test

end Tree

namespace Compiled

variable {μ : Type}

/-- The value of a compiled expression, its tests run as actions. -/
def evaluateM {m : Type → Type} [Monad m] (test : Bound μ → m Bool) (compiled : Compiled μ) :
    m Bool :=
  Tree.evaluateM Sourced.item test compiled

/-- The value of a compiled expression on a model. -/
def evaluate (compiled : Compiled μ) (model : μ) : Bool :=
  Id.run (compiled.evaluateM fun bound => pure (bound.test model))

/-- The models that a compiled expression holds of, in order. -/
def filter (compiled : Compiled μ) (models : List μ) : List μ :=
  models.filter compiled.evaluate

/-- The bound conditions from left to right. -/
def conditions (compiled : Compiled μ) : List (Bound μ) := compiled.leaves

/-- A compiled expression in the canonical spelling of its source. -/
def describe (compiled : Compiled μ) : String :=
  compiled.render (fun connective => connective.item.keyword) fun bound => bound.condition.describe

end Compiled

end RecordFilter
