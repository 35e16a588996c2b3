import RecordFilter.Proofs.Expr.Equality

/-!
# Chains and their links

A chain is put together from its end, one link at a time, and the connective of a link waits until
the operand in front of it is known. What is there after each step is walked again as the links
that have gone into it (`tailLinks_foldl_attach`); so walking a chain gives the links that it was
made from, and making a chain of what a walk gives is the way back (`chain_inverse_of_walk`).
Copies, compiled expressions and expressions that are read are all such chains.
-/

namespace RecordFilter

namespace Tree

variable {ω α β : Type}

/-! ## Walking what has been put together -/

/-- The links in the end of a chain, the first one with the connective that waits. -/
def tailLinks (tail : ω × Tree ω α .chain) : List (ω × Tree ω α .operand) :=
  (tail.1, tail.2.first) :: tail.2.links

/-- A step adds its link in front of those that are there. -/
theorem tailLinks_attach (tail : ω × Tree ω α .chain) (link : ω × Tree ω α .operand) :
    tailLinks (attach tail link) = link :: tailLinks tail := by
  rw [tailLinks, attach, links]
  rfl

theorem tailLinks_foldl_attach (earlier : List (ω × Tree ω α .operand))
    (tail : ω × Tree ω α .chain) :
    tailLinks (earlier.foldl attach tail) = earlier.reverse ++ tailLinks tail := by
  induction earlier generalizing tail with
  | nil => rfl
  | cons link earlier ih =>
    rw [List.foldl_cons, ih, tailLinks_attach, List.reverse_cons, List.append_assoc,
      List.singleton_append]

theorem first_chain (first : Tree ω α .operand) (links : List (ω × Tree ω α .operand)) :
    (chain first links).first = first := by
  unfold chain
  split <;> rfl

/-- A chain is walked as the links that it was made from. -/
theorem links_chain (first : Tree ω α .operand) (links : List (ω × Tree ω α .operand)) :
    (chain first links).links = links := by
  unfold chain
  split
  · next hreverse => rw [Tree.links, List.reverse_eq_nil_iff.mp hreverse]
  · next connective last earlier hreverse =>
    calc (join first _ _).links = tailLinks (earlier.foldl attach (connective, single last)) := by
          rw [Tree.links, tailLinks]
      _ = earlier.reverse ++ [(connective, last)] := by
          rw [tailLinks_foldl_attach, tailLinks, Tree.links, Tree.first]
      _ = links := by rw [← List.reverse_cons, ← hreverse, List.reverse_reverse]

/-- A chain is determined by its walk. -/
theorem eq_of_walk : ∀ {e e' : Tree ω α .chain}, e.first = e'.first → e.links = e'.links → e = e'
  | single _, single _, hfirst, _ => congrArg single hfirst
  | single _, join _ _ _, _, hlinks => by
    rw [links, links] at hlinks
    cases hlinks
  | join _ _ _, single _, _, hlinks => by
    rw [links, links] at hlinks
    cases hlinks
  | join operand connective rest, join operand' connective' rest', hfirst, hlinks => by
    rw [links, links] at hlinks
    obtain ⟨hlink, hrest⟩ := List.cons.inj hlinks
    obtain ⟨rfl, hnext⟩ := Prod.mk.inj hlink
    obtain rfl : operand = operand' := hfirst
    rw [eq_of_walk hnext hrest]

/-- Making a chain of a walk is the way back. -/
theorem chain_walk (e : Tree ω α .chain) : chain e.first e.links = e :=
  eq_of_walk (first_chain _ _) (links_chain _ _)

/-! ## What chains show -/

/-- A chain shows its first operand and then its links in their order, each connective in front of
its operand. -/
theorem pieces_chain (first : Tree ω α .operand) (links : List (ω × Tree ω α .operand)) :
    (chain first links).pieces
      = first.pieces ++ links.flatMap fun link => .connective link.1 :: link.2.pieces := by
  induction links generalizing first with
  | nil => exact (List.append_nil _).symm
  | cons link links ih =>
    rw [chain_cons, pieces, ih link.2, List.flatMap_cons, List.cons_append]

theorem first_map (f : ω → ω) (g : α → β) (e : Tree ω α .chain) :
    (e.map f g).first = e.first.map f g := by
  cases e <;> rfl

theorem links_map (f : ω → ω) (g : α → β) : ∀ e : Tree ω α .chain,
    (e.map f g).links = e.links.map fun link => (f link.1, link.2.map f g)
  | single operand => by rw [map, links, links, List.map_nil]
  | join operand connective rest => by
    rw [map, links, links, List.map_cons, links_map f g rest, first_map]

/-! ## Chains that are made of walks -/

theorem copyParts_operand (t : Tree ω α .operand) : t.copyParts.2 = [] := by
  cases t <;> rfl

theorem copyParts_chain : ∀ e : Tree ω α .chain, e.copyParts
    = (e.first.copyParts.1, e.links.map fun link => (link.1, link.2.copyParts.1))
  | single operand => by
    rw [copyParts, first, links, List.map_nil, ← copyParts_operand operand]
  | join operand connective rest => by
    rw [copyParts, first, links, List.map_cons, copyParts_chain rest]

/-- A copy is the chain of what is walked, with every operand copied. -/
theorem copy_eq_chain (e : Tree ω α .chain) : e.copy
    = chain e.first.copyParts.1 (e.links.map fun link => (link.1, link.2.copyParts.1)) := by
  rw [copy, copyParts_chain]

/-- Visiting a chain is walking it, visiting one operand after the other, and making a chain of
what comes out. -/
theorem mapM_eq_chain {m : Type → Type} [Monad m] [LawfulMonad m] (f : α → m β) :
    ∀ e : Tree ω α .chain, e.mapM f = do
      let first ← e.first.mapM f
      let links ← e.links.mapM fun link => do return (link.1, ← link.2.mapM f)
      return chain first links
  | single operand => by simp [mapM, first, links]
  | join operand connective rest => by
    rw [mapM, first, links, mapM_eq_chain f rest]
    simp [chain_cons]

end Tree

/-! ## Chains that are read -/

namespace Reader

/-- Joining keeps the operands in order: those that stand before, the latest first, and then those
of the chain. -/
theorem operands_joinAll (before : List Joined) (e : Expr) :
    (joinAll before e).first :: (joinAll before e).links.map Prod.snd
      = before.reverse.map Prod.fst ++ e.first :: e.links.map Prod.snd := by
  induction before generalizing e with
  | nil => rfl
  | cons joined before ih =>
    have hrest := ih (.join joined.1 joined.2 e)
    rw [Tree.first, Tree.links, List.map_cons] at hrest
    rw [List.reverse_cons, List.map_append, List.append_assoc]
    exact hrest

/-- Joining keeps the connectives in order. -/
theorem connectives_joinAll (before : List Joined) (e : Expr) :
    (joinAll before e).links.map Prod.fst
      = before.reverse.map Prod.snd ++ e.links.map Prod.fst := by
  induction before generalizing e with
  | nil => rfl
  | cons joined before ih =>
    have hrest := ih (.join joined.1 joined.2 e)
    rw [Tree.links, List.map_cons] at hrest
    rw [List.reverse_cons, List.map_append, List.append_assoc]
    exact hrest

end Reader

/-! ## Links that are kept -/

/-- **A chain keeps its links.** However many links it is made of, a chain is walked as its first
operand and then these links in their order, every connective in front of its own operand, and this
is how it is shown. Making a chain of what a walk gives is the way back. So is copying an
expression, which copies the operands on the way; and so is compiling one, whatever the callback
does, which leaves it as it was walked but for the tests at its conditions. A chain that was read
is walked as the operands and connectives that were put aside while it was read. -/
theorem chain_inverse_of_walk :
    (∀ {ω α : Type} (first : Tree ω α .operand) (links : List (ω × Tree ω α .operand)),
        (Tree.chain first links).first = first ∧ (Tree.chain first links).links = links
          ∧ (Tree.chain first links).pieces
            = first.pieces ++ links.flatMap fun link => .connective link.1 :: link.2.pieces)
      ∧ (∀ {ω α : Type} (e : Tree ω α .chain), Tree.chain e.first e.links = e)
      ∧ (∀ e : Expr, e.copy = Tree.chain e.first.copyParts.1
            (e.links.map fun link => (link.1, link.2.copyParts.1))
          ∧ e.copy.first = e.first ∧ e.copy.links = e.links)
      ∧ (∀ {σ ε μ : Type} (bind : Callback σ ε μ) (e : Expr),
        e.compile bind = (do
          let first ← e.first.mapM (Condition.bindTest bind)
          let links ← e.links.mapM fun link => do
            return (link.1, ← link.2.mapM (Condition.bindTest bind))
          return Tree.chain first links)
        ∧ ∀ s s' compiled, (e.compile bind).run.run s = (.ok compiled, s') →
          compiled.first.map id Bound.condition = e.first
            ∧ (compiled.links.map fun link => (link.1, link.2.map id Bound.condition)) = e.links)
      ∧ ∀ (before : List Reader.Joined) (last : Operand),
        let e := Reader.close before last
        e.first :: e.links.map Prod.snd = before.reverse.map Prod.fst ++ [last]
          ∧ e.links.map Prod.fst = before.reverse.map Prod.snd := by
  refine ⟨fun first links => ?_, Tree.chain_walk, fun e => ?_, fun bind e => ⟨?_, ?_⟩,
    fun before last => ⟨?_, ?_⟩⟩
  · exact ⟨Tree.first_chain first links, Tree.links_chain first links,
      Tree.pieces_chain first links⟩
  · have hcopy := Tree.copy_eq_chain e
    rw [Tree.copy_eq] at hcopy ⊢
    exact ⟨hcopy, rfl, rfl⟩
  · rw [compile_eq_mapM]
    exact Tree.mapM_eq_chain (Condition.bindTest bind) e
  · intro s s' compiled hrun
    obtain ⟨-, rfl⟩ := compile_eq_ok hrun
    exact ⟨(Tree.first_map id Bound.condition compiled).symm, (Tree.links_map id _ compiled).symm⟩
  · have hoperands := Reader.operands_joinAll before (.single last)
    rwa [Tree.links] at hoperands
  · have hconnectives := Reader.connectives_joinAll before (.single last)
    rwa [Tree.links, List.map_nil, List.append_nil] at hconnectives

end RecordFilter
