import RecordFilter.Proofs.Expr.Evaluation
import RecordFilter.Proofs.Expr.Shape
import RecordFilter.Proofs.Json.Pretty
import RecordFilter.Report.Expression

/-!
# The tree of an expression as a value

The value of an expression shows a chain as its operands and the connectives between them, each of
which joins the operand at its index to the rest of the chain. From this the tree is put together
again (`Json.chain?`), and nothing is lost on the way (`Report.chain?_treeJson`): the groups, the
chains and the connectives are those of the expression, and its leaves are the values of its
conditions.
-/

namespace RecordFilter

/-! ## Operands and connectives -/

namespace Tree

variable {ω α : Type} {l : Level}

/-- The operands of a chain from left to right. An operand by itself is a chain of one. -/
def operands : {l : Level} → Tree ω α l → List (Tree ω α .operand)
  | _, leaf content => [leaf content]
  | _, group inner => [group inner]
  | _, single operand => [operand]
  | _, join operand _ rest => operand :: rest.operands

/-- The connectives of a chain from left to right. -/
def connectives : {l : Level} → Tree ω α l → List ω
  | _, leaf _ => []
  | _, group _ => []
  | _, single _ => []
  | _, join _ connective rest => connective :: rest.connectives

/-- The chain of some operands and connectives, if there are as many as it takes: a connective
joins the operand at its index to the rest of the chain, which begins at the next operand. -/
def ofChain? : List (Tree ω α .operand) → List ω → Option (Tree ω α .chain)
  | [operand], [] => some (single operand)
  | operand :: operands, connective :: connectives =>
    (ofChain? operands connectives).map (join operand connective)
  | _, _ => none

/-- An operand is a chain of one. -/
theorem operands_operand (t : Tree ω α .operand) : t.operands = [t] := by
  cases t <;> rfl

/-- A chain is put together from its operands and its connectives. -/
theorem ofChain?_operands : ∀ t : Tree ω α .chain, ofChain? t.operands t.connectives = some t
  | single operand => rfl
  | join operand connective rest => by
    have hrest := ofChain?_operands rest
    cases rest with
    | single next => rfl
    | join next _ _ =>
      rw [operands, connectives, ofChain?, hrest]
      rfl

theorem connectives_map {ω' β : Type} (f : ω → ω') (g : α → β) (t : Tree ω α l) :
    (t.map f g).connectives = t.connectives.map f := by
  induction t with
  | leaf | group | single => rfl
  | join operand connective rest _ ih => rw [map, connectives, connectives, List.map_cons, ih]

/-- A chain has one operand more than it has connectives. -/
theorem length_of_ofChain? {operands : List (Tree ω α .operand)} {connectives : List ω}
    {t : Tree ω α .chain} (h : ofChain? operands connectives = some t) :
    operands.length = connectives.length + 1 := by
  fun_induction ofChain? operands connectives generalizing t with
  | case1 operand => rfl
  | case2 operand operands connective connectives ih =>
    obtain ⟨rest, hrest, -⟩ := Option.map_eq_some_iff.mp h
    rw [List.length_cons, List.length_cons, ih hrest]
  | case3 => cases h

end Tree

/-! ## Reading a tree from a value -/

/-- The connective with a keyword. -/
def Connective.ofKeyword? (keyword : String) : Option Connective :=
  [and, or].find? fun connective => connective.keyword == keyword

/-- The comparison with a symbol. -/
def Comparison.ofSymbol? (symbol : String) : Option Comparison :=
  [equals, notEquals, matching, notMatching, less, lessOrEqual, greater, greaterOrEqual].find?
    fun comparison => comparison.symbol == symbol

/-- A connective is known by its keyword. -/
theorem Connective.ofKeyword?_keyword (connective : Connective) :
    ofKeyword? connective.keyword = some connective := by
  cases connective <;> decide

/-- A comparison is known by its symbol. -/
theorem Comparison.ofSymbol?_symbol (comparison : Comparison) :
    ofSymbol? comparison.symbol = some comparison := by
  cases comparison <;> decide

namespace Json

/-- The connectives that a member of an object names. -/
def connectives? (members : List (String × Json)) : Option (List Connective) :=
  match Keyed.find? "ops" members with
  | some (array items) => items.mapM fun item => item.asString? >>= Connective.ofKeyword?
  | _ => none

mutual

/-- The chain that a value describes. Its leaves are the values of the conditions. -/
def chain? : Json → Option (Tree Connective Json .chain)
  | object members => do Tree.ofChain? (← operandsAmong? members) (← connectives? members)
  | _ => none

/-- The operands that a member of an object describes. -/
def operandsAmong? : List (String × Json) → Option (List (Tree Connective Json .operand))
  | [] => none
  | (key, value) :: members =>
    if key = "operands" then value.operands? else operandsAmong? members

/-- The operands that an array describes. -/
def operands? : Json → Option (List (Tree Connective Json .operand))
  | array items => operandsOf? items
  | _ => none

/-- The operands that values describe, one by one. -/
def operandsOf? : List Json → Option (List (Tree Connective Json .operand))
  | [] => some []
  | item :: items => do return (← item.operand?) :: (← operandsOf? items)

/-- The operand that a value describes: a condition or a chain in parentheses. -/
def operand? : Json → Option (Tree Connective Json .operand)
  | object [(key, value)] =>
    if key = "condition" then some (.leaf value)
    else if key = "group" then value.chain?.map .group
    else none
  | _ => none

end

/-- A tree that a value describes, with what a reader makes of its leaves. -/
def rebuild? {α : Type} (leaf? : Json → Option α) (value : Json) :
    Option (Tree Connective α .chain) :=
  value.chain?.bind fun t => t.mapM leaf?

/-- Operands are read one by one. -/
theorem operandsOf?_eq_mapM (items : List Json) : operandsOf? items = items.mapM operand? := by
  induction items with
  | nil => rw [operandsOf?, List.mapM_nil]; rfl
  | cons item items ih => rw [operandsOf?, List.mapM_cons, ih]

/-- The operands of a group are those under their key. -/
theorem operandsAmong?_eq (members : List (String × Json)) :
    operandsAmong? members = (Keyed.find? "operands" members).bind operands? := by
  induction members with
  | nil => rw [operandsAmong?]; rfl
  | cons entry members ih =>
    rw [operandsAmong?, Keyed.find?, ih]
    split_ifs <;> rfl

/-- What a row of values is read as is as long as the row, and each of the values is read. -/
theorem exists_of_mapM_eq_some {α β : Type} {read? : α → Option β} {items : List α}
    {results : List β} (h : items.mapM read? = some results) :
    results.length = items.length ∧ ∀ item ∈ items, ∃ result, read? item = some result := by
  induction items generalizing results with
  | nil =>
    cases h
    exact ⟨rfl, List.forall_mem_nil _⟩
  | cons item items ih =>
    rw [List.mapM_cons] at h
    obtain ⟨result, hitem, h⟩ := Option.bind_eq_some_iff.mp h
    obtain ⟨rest, hitems, h⟩ := Option.bind_eq_some_iff.mp h
    cases h
    obtain ⟨hlength, hread⟩ := ih hitems
    exact ⟨congrArg Nat.succ hlength, List.forall_mem_cons.mpr ⟨⟨result, hitem⟩, hread⟩⟩

/-- What has operands is an array of them. -/
theorem exists_of_operands? {value : Json} {trees : List (Tree Connective Json .operand)}
    (h : value.operands? = some trees) :
    ∃ items, value = array items ∧ items.mapM operand? = some trees := by
  unfold operands? at h
  split at h
  · next items => exact ⟨items, rfl, operandsOf?_eq_mapM items ▸ h⟩
  · cases h

/-- What has connectives keeps them in an array, one item for each. -/
theorem exists_of_connectives? {members : List (String × Json)} {names : List Connective}
    (h : connectives? members = some names) :
    ∃ items, Keyed.find? "ops" members = some (array items) ∧ names.length = items.length := by
  unfold connectives? at h
  split at h
  · next items hitems => exact ⟨items, hitems, (exists_of_mapM_eq_some h).1⟩
  · cases h

/-- A value that describes a chain has one operand more than connectives, and every operand is
read. -/
theorem exists_of_chain? {value : Json} {t : Tree Connective Json .chain}
    (h : value.chain? = some t) :
    ∃ operands connectives, value.get? "operands" = some (array operands)
      ∧ value.get? "ops" = some (array connectives)
      ∧ operands.length = connectives.length + 1
      ∧ ∀ operand ∈ operands, ∃ t, operand.operand? = some t := by
  unfold chain? at h
  split at h
  · next members =>
    rw [operandsAmong?_eq] at h
    obtain ⟨trees, htrees, h⟩ := Option.bind_eq_some_iff.mp h
    obtain ⟨names, hnames, h⟩ := Option.bind_eq_some_iff.mp h
    obtain ⟨row, hrow, htrees⟩ := Option.bind_eq_some_iff.mp htrees
    obtain ⟨operands, rfl, hoperands⟩ := exists_of_operands? htrees
    obtain ⟨connectives, hops, hlength⟩ := exists_of_connectives? hnames
    obtain ⟨hcount, hread⟩ := exists_of_mapM_eq_some hoperands
    refine ⟨operands, connectives, hrow, hops, ?_, hread⟩
    rw [← hcount, ← hlength, Tree.length_of_ofChain? h]
  · cases h

/-- The chains in a value that describes one: itself, and those that its operands have in
parentheses. -/
inductive ChainIn (value : Json) : Json → Prop where
  | itself : ChainIn value value
  | group {chain operand inner : Json} {operands : List Json} (h : ChainIn value chain)
    (hoperands : chain.get? "operands" = some (array operands)) (hmem : operand ∈ operands)
    (hgroup : operand.get? "group" = some inner) : ChainIn value inner

/-- An operand that is read as a group holds a chain that can be read itself. -/
theorem exists_chain?_of_group {operand inner : Json} {t : Tree Connective Json .operand}
    (h : operand.operand? = some t) (hgroup : operand.get? "group" = some inner) :
    ∃ t, inner.chain? = some t := by
  unfold operand? at h
  split at h
  · next key value =>
    rw [get?, Keyed.find?] at hgroup
    split_ifs at hgroup with hkey
    · cases hgroup
      subst hkey
      rw [if_neg (by decide), if_pos rfl] at h
      obtain ⟨chain, hchain, -⟩ := Option.map_eq_some_iff.mp h
      exact ⟨chain, hchain⟩
    · cases hgroup
  · cases h

/-- All chains in a value that describes one are read. -/
theorem ChainIn.exists_chain? {value chain : Json} {t : Tree Connective Json .chain}
    (h : value.chain? = some t) (hchain : ChainIn value chain) : ∃ t, chain.chain? = some t := by
  induction hchain with
  | itself => exact ⟨t, h⟩
  | group _ hoperands hmem hgroup ih =>
    obtain ⟨chain, hchain⟩ := ih
    obtain ⟨operands, connectives, hrow, -, -, hread⟩ := exists_of_chain? hchain
    obtain rfl := array.inj (Option.some.inj (hrow.symm.trans hoperands))
    obtain ⟨operand, hoperand⟩ := hread _ hmem
    exact exists_chain?_of_group hoperand hgroup

end Json

/-! ## The value of a tree -/

namespace Report

open Json (inKeyOrder)

variable {l : Level}

/-- A group is read by its operands and its connectives. -/
theorem chain?_chainJson (items connectives : List Json) :
    (chainJson items connectives).chain? = (do
      Tree.ofChain? (← items.mapM Json.operand?)
        (← connectives.mapM fun item => item.asString? >>= Connective.ofKeyword?)) := by
  have hops : Json.connectives? [("operands", .array items), ("ops", .array connectives)]
      = connectives.mapM fun item => item.asString? >>= Connective.ofKeyword? := rfl
  rw [chainJson, Json.chain?, hops, Json.operandsAmong?, if_pos rfl, Json.operands?,
    Json.operandsOf?_eq_mapM]

theorem inKeyOrder_member (key : String) (value : Json) :
    (Json.object [(key, value)]).inKeyOrder = .object [(key, value.inKeyOrder)] := by
  rw [Json.inKeyOrder_object_of_ordered]
  · rfl
  · exact List.pairwise_singleton _ _

/-- The two keys of a group are in order as they are written. -/
theorem inKeyOrder_chainJson (items connectives : List Json) :
    (chainJson items connectives).inKeyOrder
      = chainJson (items.map inKeyOrder) (connectives.map inKeyOrder) := by
  have hkeys : ["operands", "ops"].Pairwise fun a b => Text.compareText a b = .lt := by decide
  rw [chainJson, Json.inKeyOrder_object_of_ordered, List.map_cons, List.map_singleton,
    Json.inKeyOrder_array, Json.inKeyOrder_array]
  · rfl
  · exact hkeys

theorem chainParts_group (inner : Expr) :
    chainParts (.group inner : Operand)
      = ([.object [("group", chainJson (chainParts inner).1 (chainParts inner).2)]], []) := rfl

theorem chainParts_join (operand : Operand) (joint : Sourced Connective) (rest : Expr) :
    chainParts (.join operand joint rest)
      = ((chainParts operand).1 ++ (chainParts rest).1,
        .string joint.item.keyword :: (chainParts rest).2) := rfl

/-- The connectives that are written are those of the chain, in their order. -/
theorem chainParts_connectives (t : Tree (Sourced Connective) Condition l) :
    (chainParts t).2 = t.connectives.map fun joint => .string joint.item.keyword := by
  induction t with
  | leaf c => rfl
  | group inner _ => rfl
  | single operand _ => cases operand <;> rfl
  | join operand joint rest _ ih => rw [chainParts_join, Tree.connectives, List.map_cons, ih]

/-- Connectives are read back from their keywords. -/
theorem mapM_connectives (joints : List (Sourced Connective)) :
    ((joints.map fun joint => Json.string joint.item.keyword).map inKeyOrder).mapM
        (fun item => item.asString? >>= Connective.ofKeyword?)
      = some (joints.map Sourced.item) := by
  induction joints with
  | nil => rfl
  | cons joint joints ih =>
    have hjoint : ((Json.string joint.item.keyword).inKeyOrder.asString? >>=
        Connective.ofKeyword?) = some joint.item := by
      rw [inKeyOrder]
      exact joint.item.ofKeyword?_keyword
    rw [List.map_cons, List.map_cons, List.mapM_cons, hjoint, ih]
    rfl

/-- An expression whose leaves are the values of its conditions. -/
def valueTree (t : Tree (Sourced Connective) Condition l) : Tree Connective Json l :=
  t.map Sourced.item fun c => (conditionJson c).inKeyOrder

/-- A chain is found again if its operands are. -/
theorem chain?_of_operands {e : Expr}
    (h : ((chainParts e).1.map inKeyOrder).mapM Json.operand? = some (valueTree e).operands) :
    (chainJson (chainParts e).1 (chainParts e).2).inKeyOrder.chain? = some (valueTree e) := by
  rw [inKeyOrder_chainJson, chain?_chainJson, h, chainParts_connectives, mapM_connectives]
  show Tree.ofChain? _ _ = _
  rw [← Tree.connectives_map, ← valueTree, Tree.ofChain?_operands]

/-- The operands of a tree are found in its parts again. -/
theorem mapM_operand?_chainParts (t : Tree (Sourced Connective) Condition l) :
    ((chainParts t).1.map inKeyOrder).mapM Json.operand? = some (valueTree t).operands := by
  induction t with
  | leaf c =>
    rw [chainParts, List.map_singleton, inKeyOrder_member]
    rfl
  | group inner ih =>
    rw [chainParts_group, List.map_singleton, inKeyOrder_member, List.mapM_cons, List.mapM_nil,
      Json.operand?, chain?_of_operands ih]
    rfl
  | single operand ih =>
    rw [Tree.operands_operand] at ih
    exact ih
  | join operand joint rest ihOperand ihRest =>
    rw [chainParts_join, List.map_append, List.mapM_append, ihOperand, ihRest,
      Tree.operands_operand]
    rfl

/-- The tree of an expression is read back from its JSON, with the conditions as they are written.
-/
theorem chain?_treeJson (e : Expr) : (treeJson e).inKeyOrder.chain? = some (valueTree e) :=
  chain?_of_operands (mapM_operand?_chainParts e)

/-! ## The value of a condition -/

/-- A literal has no keys that could be out of order. -/
theorem inKeyOrder_literalJson (value : Value) :
    (literalJson value).inKeyOrder = literalJson value := by
  unfold literalJson
  split
  · split_ifs <;> rw [inKeyOrder]
  · rw [inKeyOrder]

/-- The keys of a condition in their order. -/
theorem insertAll_conditionMembers {α : Type} (field op value line column : α) :
    Keyed.insertAll [("field", field), ("op", op), ("value", value), ("line", line),
      ("column", column)] []
      = [("column", column), ("field", field), ("line", line), ("op", op), ("value", value)] := by
  cbv

/-- A condition as it is printed. -/
theorem inKeyOrder_conditionJson (c : Condition) :
    (conditionJson c).inKeyOrder = .object [("column", .ofNat c.identifier.position.column),
      ("field", .string c.name), ("line", .ofNat c.identifier.position.line),
      ("op", .string c.operator.symbol), ("value", literalJson c.value)] := by
  have htext (text : String) : (Json.string text).inKeyOrder = .string text := by rw [inKeyOrder]
  rw [conditionJson, Json.inKeyOrder_object]
  simp only [List.map_cons, List.map_nil, htext, Json.inKeyOrder_ofNat, inKeyOrder_literalJson]
  exact congrArg Json.object (insertAll_conditionMembers ..)

end Report

/-- What a literal stands for: a number or a text. -/
def Value.content : Value → Binary64 ⊕ String
  | .number x => .inl x
  | .string raw => .inr (String.ofList (Text.Quoted.decode raw.toList))

/-- What a condition states, apart from how it is written and where. -/
structure Statement where
  field : String
  operator : Comparison
  content : Binary64 ⊕ String
deriving DecidableEq, Repr

def Condition.statement (c : Condition) : Statement := ⟨c.name, c.operator, c.value.content⟩

namespace Json

/-- The number or the text that a value is. -/
def content? : Json → Option (Binary64 ⊕ String)
  | number value => some (.inl value.toBinary64)
  | string text => some (.inr text)
  | _ => none

/-- What the condition states that a value describes. -/
def statement? (value : Json) : Option Statement := do
  let field ← value.get? "field" >>= asString?
  let symbol ← value.get? "op" >>= asString?
  let operator ← Comparison.ofSymbol? symbol
  let content ← value.get? "value" >>= content?
  return ⟨field, operator, content⟩

/-- The line and the column that a value names. -/
def place (value : Json) : Option Json × Option Json := (value.get? "line", value.get? "column")

/-- A value without the line and the column that it names. -/
def unplaced : Json → Json
  | object members => object (members.filter fun entry => entry.1 ∉ ["line", "column"])
  | value => value

end Json

namespace Report

/-- A literal is read back, as long as its number is finite. -/
theorem content?_literalJson {value : Value} (h : ∀ x, value = .number x → x.isFinite = true) :
    (literalJson value).content? = some value.content := by
  cases value with
  | number x =>
    rw [literalJson, dif_pos (h x rfl)]
    rfl
  | string raw => rfl

/-- A condition is read back as field, comparison and literal. -/
theorem statement?_conditionJson {c : Condition}
    (h : ∀ x, c.value = .number x → x.isFinite = true) :
    (conditionJson c).inKeyOrder.statement? = some c.statement := by
  have hcontent := content?_literalJson h
  have hsymbol := c.operator.ofSymbol?_symbol
  rw [inKeyOrder_conditionJson]
  show (Comparison.ofSymbol? c.operator.symbol >>= fun operator =>
    (literalJson c.value).content? >>= fun content =>
      some (⟨c.name, operator, content⟩ : Statement)) = _
  rw [hsymbol, hcontent]
  rfl

/-- Without its place, a condition is printed as its shape says. -/
theorem unplaced_conditionJson (c : Condition) :
    (conditionJson c).inKeyOrder.unplaced = .object [("field", .string c.shape.name),
      ("op", .string c.shape.operator.symbol), ("value", literalJson c.shape.value)] := by
  rw [inKeyOrder_conditionJson]
  rfl

/-! ## The value of an expression -/

variable {l : Level} {e e' : Expr}

/-- Leaves that stand for others are read as what these are, one by one. -/
theorem mapM_map_of_some {α β γ : Type} {leaf? : β → Option γ} {g : α → β} {k : α → γ}
    {t : Tree (Sourced Connective) α l} (h : ∀ a ∈ t.leaves, leaf? (g a) = some (k a)) :
    (t.map Sourced.item g).mapM leaf? = some (t.map Sourced.item k) := by
  induction t with
  | leaf content =>
    rw [Tree.map, Tree.mapM, h content (List.mem_singleton_self content)]
    rfl
  | group inner ih =>
    rw [Tree.map, Tree.mapM, ih h]
    rfl
  | single operand ih =>
    rw [Tree.map, Tree.mapM, ih h]
    rfl
  | join operand connective rest ihOperand ihRest =>
    rw [Tree.map, Tree.mapM, ihOperand fun a ha => h a (List.mem_append_left _ ha),
      ihRest fun a ha => h a (List.mem_append_right _ ha)]
    rfl

/-- What an expression states: its tree with the statements of its conditions as leaves. -/
def statements (e : Expr) : Tree Connective Statement .chain :=
  e.map Sourced.item Condition.statement

/-- The tree with what its conditions say is rebuilt from the JSON that is printed. -/
theorem rebuild?_treeJson
    (h : ∀ c ∈ e.conditions, ∀ x, c.value = .number x → x.isFinite = true) :
    (treeJson e).inKeyOrder.rebuild? Json.statement? = some (statements e) := by
  rw [Json.rebuild?, chain?_treeJson]
  exact mapM_map_of_some fun c hc => statement?_conditionJson (h c hc)

/-- What an expression states is as true as the expression, whichever of the conditions hold. -/
theorem value_statements (e : Expr) (truth : Nat → Bool) :
    ((statements e).zipIdx 0).value id (fun numbered => truth numbered.2) = e.valueWhere truth := by
  rw [statements, Tree.zipIdx_map, Tree.value_map]
  rfl

/-- Expressions of one shape have the same values, places apart. -/
theorem map_unplaced_valueTree (h : e'.shape = e.shape) :
    (valueTree e').map id Json.unplaced = (valueTree e).map id Json.unplaced := by
  have hshape (e : Expr) : (valueTree e).map id Json.unplaced
      = e.shape.map id fun c => .object [("field", .string c.name),
        ("op", .string c.operator.symbol), ("value", literalJson c.value)] := by
    rw [valueTree, Tree.map_map, Expr.shape, Tree.map_map]
    exact congrArg (Tree.map _ · e) (funext unplaced_conditionJson)
  rw [hshape e', hshape e, h]

/-- The leaves of that tree are the conditions as they are printed, from left to right. -/
theorem leaves_valueTree (e : Expr) :
    (valueTree e).leaves = e.conditions.map fun c => (conditionJson c).inKeyOrder :=
  Tree.leaves_map _ _ e

/-- The keys of an expression in their order. -/
theorem insertAll_expressionMembers {α : Type} (expression tree conditions : α) :
    Keyed.insertAll [("expression", expression), ("tree", tree), ("conditions", conditions)] []
      = [("conditions", conditions), ("expression", expression), ("tree", tree)] := by
  cbv

/-- An expression as it is printed. -/
theorem inKeyOrder_expressionJson (e : Expr) :
    (expressionJson e).inKeyOrder = .object [("conditions", .array (valueTree e).leaves),
      ("expression", .string e.describe), ("tree", (treeJson e).inKeyOrder)] := by
  have htext : (Json.string e.describe).inKeyOrder = .string e.describe := by rw [Json.inKeyOrder]
  have hconditions : (Json.array (e.conditions.map conditionJson)).inKeyOrder
      = .array (valueTree e).leaves := by
    rw [Json.inKeyOrder_array, List.map_map, leaves_valueTree]
    rfl
  rw [expressionJson, Json.inKeyOrder_object]
  simp only [List.map_cons, List.map_nil, htext, hconditions]
  exact congrArg Json.object (insertAll_expressionMembers ..)

/-- What a value says of an expression, whose tree it shows as one value and whose conditions as
others. -/
structure Describes (value tree : Json) (conditions : List Json) (e : Expr) : Prop where
  getExpression : value.get? "expression" = some (.string e.describe)
  getTree : value.get? "tree" = some tree
  getConditions : value.get? "conditions" = some (.array conditions)
  /-- Every chain has one operand more than connectives. -/
  lengths : ∀ chain, Json.ChainIn tree chain → ∃ operands connectives,
    chain.get? "operands" = some (.array operands)
      ∧ chain.get? "ops" = some (.array connectives)
      ∧ operands.length = connectives.length + 1
  /-- Put together again, the tree has the groups, the chains and the connectives of the expression
  and the statements of its conditions, and so their order, and is true when the expression is. -/
  rebuilt : ∃ t, tree.rebuild? Json.statement? = some t
    ∧ t = e.map Sourced.item Condition.statement
    ∧ t.leaves = e.conditions.map Condition.statement
    ∧ ∀ truth : Nat → Bool,
      (t.zipIdx 0).value id (fun numbered => truth numbered.2) = e.valueWhere truth
  /-- The conditions are those of the tree from left to right. -/
  flattened : tree.chain?.map Tree.leaves = some conditions
  /-- Each of them names the place of its field. -/
  placed : conditions.map Json.place = e.conditions.map fun c =>
    (some (.ofNat c.identifier.position.line), some (.ofNat c.identifier.position.column))

/-- All that is said about the JSON of an expression, of one whose numbers are finite. -/
theorem describes_expressionJson
    (h : ∀ c ∈ e.conditions, ∀ x, c.value = .number x → x.isFinite = true) :
    Describes (expressionJson e).inKeyOrder (treeJson e).inKeyOrder (valueTree e).leaves e where
  getExpression := by rw [inKeyOrder_expressionJson]; rfl
  getTree := by rw [inKeyOrder_expressionJson]; rfl
  getConditions := by rw [inKeyOrder_expressionJson]; rfl
  lengths := fun chain hchain => by
    obtain ⟨t, ht⟩ := hchain.exists_chain? (chain?_treeJson e)
    obtain ⟨operands, connectives, hoperands, hconnectives, hlength, -⟩ := Json.exists_of_chain? ht
    exact ⟨operands, connectives, hoperands, hconnectives, hlength⟩
  rebuilt := ⟨statements e, rebuild?_treeJson h, rfl, Tree.leaves_map _ _ e, value_statements e⟩
  flattened := by rw [chain?_treeJson]; rfl
  placed := by
    rw [leaves_valueTree, List.map_map]
    refine List.map_congr_left fun c _ => ?_
    show ((conditionJson c).inKeyOrder).place = _
    rw [inKeyOrder_conditionJson]
    rfl

/-! ## Depth -/

theorem within_conditionJson (c : Condition) : Json.Within 1 (conditionJson c) := by
  have hliteral : Json.Within 0 (literalJson c.value) := by
    unfold literalJson
    split
    · split_ifs
      · exact .number _
      · exact .null
    · exact .string _
  exact .object <| Json.within_cons (.string _) <| Json.within_cons (.string _) <|
    Json.within_cons hliteral <| Json.within_cons (Json.within_ofNat 0 _) <|
    Json.within_cons (Json.within_ofNat 0 _) Json.within_nil

/-- A group is nested two levels deeper than its operands. -/
theorem within_chainJson {levels : Nat} {items : List Json} {joints : List (Sourced Connective)}
    (h : ∀ item ∈ items, Json.Within levels item) :
    Json.Within (levels + 2)
      (chainJson items (joints.map fun joint => .string joint.item.keyword)) := by
  refine .object (Json.within_cons (.array h) (Json.within_cons (.array fun item hitem => ?_)
    Json.within_nil))
  obtain ⟨joint, -, rfl⟩ := List.mem_map.mp hitem
  exact .string _

/-- A level of parentheses is three levels of a value. -/
theorem within_chainParts (t : Tree (Sourced Connective) Condition l) :
    ∀ item ∈ (chainParts t).1, Json.Within (3 * t.depth + 2) item := by
  induction t with
  | leaf c =>
    exact List.forall_mem_singleton.mpr
      (.object (Json.within_cons (within_conditionJson c) Json.within_nil))
  | group inner ih =>
    rw [chainParts_group, chainParts_connectives]
    exact List.forall_mem_singleton.mpr
      (.object (Json.within_cons (within_chainJson ih) Json.within_nil))
  | single operand ih => exact ih
  | join operand joint rest ihOperand ihRest =>
    rw [chainParts_join, Tree.depth]
    refine List.forall_mem_append.mpr ⟨fun item hitem => ?_, fun item hitem => ?_⟩
    · exact (ihOperand item hitem).mono (by omega)
    · exact (ihRest item hitem).mono (by omega)

/-- How deep the JSON of an expression is nested: three levels for each parenthesis around. -/
theorem within_expressionJson (e : Expr) :
    Json.Within (3 * e.depth + 5) (expressionJson e) := by
  have htree : Json.Within (3 * e.depth + 4) (treeJson e) := by
    show Json.Within _ (chainJson (chainParts e).1 (chainParts e).2)
    rw [chainParts_connectives]
    exact within_chainJson (within_chainParts e)
  have hconditions : Json.Within 2 (.array (e.conditions.map conditionJson)) :=
    .array fun item hitem => by
      obtain ⟨c, -, rfl⟩ := List.mem_map.mp hitem
      exact within_conditionJson c
  exact .object <| Json.within_cons (.string _) <| Json.within_cons htree <|
    Json.within_cons (hconditions.mono (by omega)) Json.within_nil

end Report

end RecordFilter
