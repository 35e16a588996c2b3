/-!
# Trees of joined operands

An expression is a chain of operands with connectives between them. An operand is a leaf or a
chain in parentheses. Connectives have one rank and associate to the right, so a chain is its
first operand and, behind a connective, the rest of the chain.

The type is generic in its leaves and connectives: the leaves are conditions when an expression
has been read, and conditions with a test when it has been compiled. It is one family over the
two levels, so every function and every induction below has one clause per form.
-/

namespace RecordFilter

/-- The two levels of a tree. -/
inductive Level where
  | operand
  | chain
deriving DecidableEq, Repr

/-- Operands and chains over leaves of one type, with connectives of another. -/
inductive Tree (ω α : Type) : Level → Type where
  /-- A leaf is an operand. -/
  | leaf (content : α) : Tree ω α .operand
  /-- A chain in parentheses is an operand. -/
  | group (inner : Tree ω α .chain) : Tree ω α .operand
  /-- An operand is a chain by itself. -/
  | single (operand : Tree ω α .operand) : Tree ω α .chain
  /-- An operand joined to the rest of its chain. -/
  | join (operand : Tree ω α .operand) (connective : ω) (rest : Tree ω α .chain) :
    Tree ω α .chain

namespace Tree

variable {ω α β : Type} {l : Level}

/-! ## Leaves and depth -/

/-- The leaves from left to right. -/
def leaves : {l : Level} → Tree ω α l → List α
  | _, leaf content => [content]
  | _, group inner => inner.leaves
  | _, single operand => operand.leaves
  | _, join operand _ rest => operand.leaves ++ rest.leaves

/-- How deep parentheses are nested. -/
def depth : {l : Level} → Tree ω α l → Nat
  | _, leaf _ => 0
  | _, group inner => inner.depth + 1
  | _, single operand => operand.depth
  | _, join operand _ rest => max operand.depth rest.depth

/-! ## Chains and their links

A link is a connective with the operand behind it. A chain is its first operand with its links,
and `chain` and `first`, `links` go back and forth between the two forms. -/

/-- One more link in front of the end of a chain. An end has a connective in front of it, which
waits for the operand that it stands behind: that of the new link. -/
def attach (tail : ω × Tree ω α .chain) (link : ω × Tree ω α .operand) : ω × Tree ω α .chain :=
  (link.1, join link.2 tail.1 tail.2)

/-- The chain of a first operand and links. It is put together from its end, link by link, so that
a long chain takes no deep recursion. -/
def chain (first : Tree ω α .operand) (links : List (ω × Tree ω α .operand)) :
    Tree ω α .chain :=
  match links.reverse with
  | [] => single first
  | (connective, last) :: earlier =>
    let tail := earlier.foldl attach (connective, single last)
    join first tail.1 tail.2

@[simp] theorem chain_nil (first : Tree ω α .operand) : chain first [] = single first := rfl

theorem chain_cons (first : Tree ω α .operand) (connective : ω) (operand : Tree ω α .operand)
    (links : List (ω × Tree ω α .operand)) :
    chain first ((connective, operand) :: links) = join first connective (chain operand links) := by
  unfold chain
  rw [List.reverse_cons]
  cases links.reverse with
  | nil => rfl
  | cons last earlier =>
    -- the new link comes last of all and takes the whole chain behind it
    simp only [List.cons_append, List.foldl_append, List.foldl_cons, List.foldl_nil, attach]

/-- The first operand of a chain. -/
def first : Tree ω α .chain → Tree ω α .operand
  | single operand => operand
  | join operand _ _ => operand

/-- The links of a chain. -/
def links : Tree ω α .chain → List (ω × Tree ω α .operand)
  | single _ => []
  | join _ connective rest => (connective, rest.first) :: rest.links

/-! ## Copies -/

/-- The parts of a copy: the first operand and the links of a chain, each of them copied. An
operand has no links, and the copy of a chain in parentheses is put together from its parts. -/
def copyParts : {l : Level} → Tree ω α l → Tree ω α .operand × List (ω × Tree ω α .operand)
  | _, leaf content => (leaf content, [])
  | _, group inner =>
    let parts := inner.copyParts
    (group (chain parts.1 parts.2), [])
  | _, single operand => operand.copyParts
  | _, join operand connective rest =>
    let parts := rest.copyParts
    (operand.copyParts.1, (connective, parts.1) :: parts.2)

/-- A copy of a chain, put together from copied parts. -/
def copy (e : Tree ω α .chain) : Tree ω α .chain :=
  let parts := e.copyParts
  chain parts.1 parts.2

/-! ## Flat form -/

/-- What a tree is made of, in source order. -/
inductive Piece (ω α : Type) where
  | opening
  | closing
  | connective (connective : ω)
  | leaf (content : α)

/-- The pieces of a tree from left to right. -/
def pieces : {l : Level} → Tree ω α l → List (Piece ω α)
  | _, leaf content => [.leaf content]
  | _, group inner => .opening :: (inner.pieces ++ [.closing])
  | _, single operand => operand.pieces
  | _, join operand connective rest => operand.pieces ++ .connective connective :: rest.pieces

/-! ## Text -/

/-- A tree as text: blanks around connectives, none inside parentheses. -/
def render (connectiveText : ω → String) (leafText : α → String) :
    {l : Level} → Tree ω α l → String
  | _, leaf content => leafText content
  | _, group inner => "(" ++ inner.render connectiveText leafText ++ ")"
  | _, single operand => operand.render connectiveText leafText
  | _, join operand connective rest =>
    operand.render connectiveText leafText ++ " " ++ connectiveText connective ++ " "
      ++ rest.render connectiveText leafText

/-! ## Equality -/

/-- Equality of trees, given when connectives and leaves count as equal. -/
def eqv (sameConnective : ω → ω → Bool) (sameLeaf : α → α → Bool) :
    {l : Level} → Tree ω α l → Tree ω α l → Bool
  | _, leaf a, leaf b => sameLeaf a b
  | _, group a, group b => a.eqv sameConnective sameLeaf b
  | _, single a, single b => a.eqv sameConnective sameLeaf b
  | _, join a c s, join b d t =>
    a.eqv sameConnective sameLeaf b && sameConnective c d && s.eqv sameConnective sameLeaf t
  | _, _, _ => false

/-! ## Visiting the leaves -/

/-- The parts of a visited tree: the first operand and the links of a chain, with every leaf
replaced by what an action makes of it. The action is run on the leaves from left to right. -/
def visitParts {m : Type → Type} [Monad m] (f : α → m β) :
    {l : Level} → Tree ω α l → m (Tree ω β .operand × List (ω × Tree ω β .operand))
  | _, leaf content => do return (leaf (← f content), [])
  | _, group inner => do
    let parts ← inner.visitParts f
    return (group (chain parts.1 parts.2), [])
  | _, single operand => operand.visitParts f
  | _, join operand connective rest => do
    let before ← operand.visitParts f
    let parts ← rest.visitParts f
    return (before.1, (connective, parts.1) :: parts.2)

/-- A visited chain, put together from its parts. -/
def visitChain {m : Type → Type} [Monad m] (f : α → m β) (e : Tree ω α .chain) :
    m (Tree ω β .chain) := do
  let parts ← e.visitParts f
  return chain parts.1 parts.2

end Tree

end RecordFilter
