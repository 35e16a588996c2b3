import Mathlib
import RecordFilter.Expr.Condition

/-!
# Trees with other leaves, and the shapes of expressions

A tree keeps its form when its connectives and leaves are replaced (`Tree.map`, and `Tree.mapM`
where an action replaces the leaves): its leaves stand in the same order, its parentheses are nested
as deep. Replacing the conditions of an expression
by what is said of them apart from their tokens gives the *shape* of the expression, which is all
that printing shows of it, and all that a test of models may depend on if places do not matter.
-/

namespace RecordFilter

/-! ## Replacing connectives and leaves -/

namespace Tree

variable {ω ω' α β : Type} {l : Level}

/-- The tree with other connectives and leaves. -/
def map (f : ω → ω') (g : α → β) : {l : Level} → Tree ω α l → Tree ω' β l
  | _, leaf content => leaf (g content)
  | _, group inner => group (inner.map f g)
  | _, single operand => single (operand.map f g)
  | _, join operand connective rest => join (operand.map f g) (f connective) (rest.map f g)

/-- The tree with every leaf replaced by what an action makes of it, form by form, the action being
run on the leaves from left to right. -/
def mapM {m : Type → Type} [Monad m] (f : α → m β) : {l : Level} → Tree ω α l → m (Tree ω β l)
  | _, leaf content => do return leaf (← f content)
  | _, group inner => do return group (← inner.mapM f)
  | _, single operand => do return single (← operand.mapM f)
  | _, join operand connective rest => do
    let operand ← operand.mapM f
    let rest ← rest.mapM f
    return join operand connective rest

/-- Other connectives and leaves leave the parentheses alone. -/
theorem depth_map (f : ω → ω') (g : α → β) (t : Tree ω α l) : (t.map f g).depth = t.depth := by
  induction t with
  | leaf content => rfl
  | group inner ih => rw [map, depth, depth, ih]
  | single operand ih => rw [map, depth, depth, ih]
  | join operand connective rest ihOperand ihRest =>
    rw [map, depth, depth, ihOperand, ihRest]

/-- The leaves of a tree with other leaves, in their order. -/
@[simp] theorem leaves_map (f : ω → ω') (g : α → β) (t : Tree ω α l) :
    (t.map f g).leaves = t.leaves.map g := by
  induction t with
  | leaf content => rfl
  | group inner ih => rw [map, leaves, leaves, ih]
  | single operand ih => rw [map, leaves, leaves, ih]
  | join operand connective rest ihOperand ihRest =>
    rw [map, leaves, leaves, ihOperand, ihRest, List.map_append]

/-- Replacing twice is replacing once. -/
theorem map_map {ω₁ β₁ : Type} (f : ω → ω') (g : α → β) (f' : ω' → ω₁) (g' : β → β₁)
    (t : Tree ω α l) :
    (t.map f g).map f' g' = t.map (fun connective => f' (f connective)) fun a => g' (g a) := by
  induction t with
  | leaf content => rfl
  | group inner ih => rw [map, map, map, ih]
  | single operand ih => rw [map, map, map, ih]
  | join operand connective rest ihOperand ihRest => rw [map, map, map, ihOperand, ihRest]

/-- Printing a tree with other leaves is printing the tree with other texts for its leaves. -/
theorem render_map (f : ω → ω') (g : α → β) (connectiveText : ω' → String) (leafText : β → String)
    (t : Tree ω α l) :
    (t.map f g).render connectiveText leafText
      = t.render (fun connective => connectiveText (f connective))
          (fun content => leafText (g content)) := by
  induction t with
  | leaf content => rfl
  | group inner ih => rw [map, render, render, ih]
  | single operand ih => rw [map, render, render, ih]
  | join operand connective rest ihOperand ihRest =>
    rw [map, render, render, ihOperand, ihRest]

end Tree

/-- What printing shows of a condition, and its value. -/
structure Condition.Shape where
  name : String
  operator : Comparison
  literal : String
  value : Value
deriving DecidableEq, Repr

def Condition.shape (c : Condition) : Condition.Shape :=
  ⟨c.name, c.operator, c.literal.token.literal, c.value⟩

/-- An expression without its tokens: how it is grouped and chained, its connectives, and of its
conditions the names, the comparisons, the literals as they are written and their values. -/
def Expr.shape (e : Expr) : Tree Connective Condition.Shape .chain :=
  e.map Sourced.item Condition.shape

/-- A token without its place. -/
def Token.unplaced (token : Token) : Token :=
  { token with position := .start }

/-- A condition without the places of its tokens. -/
def Condition.unplaced (c : Condition) : Condition :=
  ⟨c.name, c.identifier.unplaced, ⟨c.operator, c.comparison.token.unplaced⟩,
    ⟨c.value, c.literal.token.unplaced⟩⟩

/-- A connective without the place and the spelling of its token. -/
def Sourced.unspelled (joint : Sourced Connective) : Sourced Connective :=
  ⟨joint.item, ⟨joint.token.kind, "", .start⟩⟩

/-- An expression without the places of its tokens and the spelling of its connectives. -/
def Expr.unplaced (e : Expr) : Expr :=
  e.map Sourced.unspelled Condition.unplaced

/-- The shape says how an expression is printed. -/
theorem Expr.describe_eq_of_shape {e e' : Expr} (h : e'.shape = e.shape) :
    e'.describe = e.describe := by
  have hrender : ∀ e : Expr, e.describe = e.shape.render Connective.keyword
      (fun c => c.name ++ " " ++ c.operator.symbol ++ " " ++ c.literal) := by
    intro e
    rw [Expr.shape, Tree.render_map]
    rfl
  rw [hrender e', hrender e, h]

/-- The shape of an expression has its parentheses. -/
theorem Expr.depth_eq_of_shape {e e' : Expr} (h : e'.shape = e.shape) : e'.depth = e.depth := by
  have hdepth := congrArg Tree.depth h
  rwa [Expr.shape, Expr.shape, Tree.depth_map, Tree.depth_map] at hdepth

end RecordFilter
