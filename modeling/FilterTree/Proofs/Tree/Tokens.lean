/-
Module: FilterTree.Proofs.Tree.Tokens
Layer: Proofs
Purpose: A filter tree as one sequence of tokens. A group stands between parentheses, and an `&&` stands between
  any two neighbours that are operands, whether the tree has it or implies it. Every spelling writes these
  tokens one by one, so predicates and remote queries never differ in structure, and an `&&` that a tree only
  implies may be written out anywhere.
Imports: Mathlib.Logic.Relation, FilterTree.Predicate.Text, FilterTree.Query.Envelope
Main exports: Node.Token, Node.tokensAll, Node.WritesOut, Spelling.writeAll_tokens, Node.texts_share_tokens
-/
import Mathlib.Logic.Relation
import FilterTree.Predicate.Text
import FilterTree.Query.Envelope

namespace FilterTree

namespace Node

/-- A part of a filter tree as it is written: a parenthesis of a group, a connective, or a comparison. -/
inductive Token where
  | opening
  | closing
  | connective (connective : Connective)
  | comparison (comparison : Comparison)
deriving DecidableEq, Repr

/-- Whether siblings begin with an operand. -/
def beginOperand (siblings : List Node) : Bool :=
  siblings.head?.any isOperand

/-- What stands between a node and the siblings behind it: an `&&` when both neighbours are operands. -/
def joint (node : Node) (behind : List Node) : List Token :=
  if node.isOperand && beginOperand behind then [.connective .and] else []

mutual

/-- The tokens of a node, a group before its children. -/
def tokens : Node → List Token
  | .comparison _ c => [.comparison c]
  | .connective _ c => [.connective c]
  | .group _ children => .opening :: (tokensAll children ++ [.closing])

/-- The tokens of siblings, from the first to the last. -/
def tokensAll : List Node → List Token
  | [] => []
  | node :: rest => tokens node ++ (joint node rest ++ tokensAll rest)

end

/-- An `&&` that a tree implies is written out, under any label, at one place of any depth. -/
inductive WritesOut : List Node → List Node → Prop where
  | here {left right : Node} {rest : List Node} (label : Label) (before : left.isOperand = true)
      (behind : right.isOperand = true) :
      WritesOut (left :: right :: rest) (left :: .connective label .and :: right :: rest)
  | inside {children more : List Node} {label : Label} {rest : List Node} (deeper : WritesOut children more) :
      WritesOut (.group label children :: rest) (.group label more :: rest)
  | later {node : Node} {rest more : List Node} (further : WritesOut rest more) :
      WritesOut (node :: rest) (node :: more)

end Node

/-! ### Writing tokens -/

namespace Spelling

variable (spelling : Spelling)

/-- The text of a token. -/
def token : Node.Token → List Char
  | .opening => ['(']
  | .closing => [')']
  | .connective c => spelling.connective c
  | .comparison c => spelling.comparison c

/-- The text of what stands between a node and the siblings behind it. -/
theorem flatMap_joint (node : Node) (behind : List Node) :
    (node.joint behind).flatMap spelling.token =
      if node.isOperand && Node.beginOperand behind then spelling.connective .and else [] := by
  rw [Node.joint]
  split
  · exact List.append_nil _
  · rfl

mutual

/-- A node is written token by token. -/
theorem write_tokens : ∀ node : Node, spelling.write node = node.tokens.flatMap spelling.token
  | .comparison _ c => (List.append_nil _).symm
  | .connective _ c => (List.append_nil _).symm
  | .group _ children => by
      rw [write, writeAfter_tokens false children, Node.tokens, List.flatMap_cons, List.flatMap_append]
      rfl

/-- Siblings are written token by token, behind the `&&` between them and the operand before them. -/
theorem writeAfter_tokens (afterOperand : Bool) :
    ∀ siblings : List Node, spelling.writeAfter afterOperand siblings =
      (if afterOperand && Node.beginOperand siblings then spelling.connective .and else []) ++
        (Node.tokensAll siblings).flatMap spelling.token
  | [] => by
      rw [writeAfter, Node.beginOperand, List.head?_nil, Option.any_none, Bool.and_false]
      rfl
  | node :: rest => by
      rw [writeAfter, write_tokens node, writeAfter_tokens node.isOperand rest, Node.tokensAll,
        List.flatMap_append, List.flatMap_append, flatMap_joint]
      rfl

end

/-- A list of siblings is written token by token. -/
theorem writeAll_tokens (siblings : List Node) :
    spelling.writeAll siblings = (Node.tokensAll siblings).flatMap spelling.token :=
  writeAfter_tokens spelling false siblings

/-- A group that stands alone is written as its children are, in parentheses. -/
theorem writeAll_group (label : Label) (children : List Node) :
    String.ofList (spelling.writeAll [.group label children]) =
      "(" ++ String.ofList (spelling.writeAll children) ++ ")" := by
  have written : spelling.writeAll [.group label children] = '(' :: (spelling.writeAll children ++ [')']) :=
    List.append_nil _
  apply String.toList_injective
  simp [written]

end Spelling

/-- The text of a token in a predicate. -/
def Predicate.tokenChars : Node.Token → List Char
  | .opening => ['(']
  | .closing => [')']
  | .connective .and => [' ', '&', '&', ' ']
  | .connective .or => [' ', '|', '|', ' ']
  | .connective .not => [' ', '!', ' ']
  | .comparison c => c.predicate

/-- The text of a token in a remote query. -/
def Query.tokenChars : Node.Token → List Char
  | .opening => ['(']
  | .closing => [')']
  | .connective .and => [',']
  | .connective .or => ['|']
  | .connective .not => []
  | .comparison c =>
    if c.field = "" then [] else c.plainField ++ (c.operator.symbol.toList ++ c.value.chars)

theorem Predicate.spelling_token : Predicate.spelling.token = Predicate.tokenChars := by
  funext token
  cases token with
  | opening => rfl
  | closing => rfl
  | connective c => cases c <;> rfl
  | comparison c => rfl

theorem Query.spelling_token : Query.spelling.token = Query.tokenChars := by
  funext token
  cases token with
  | opening => rfl
  | closing => rfl
  | connective c => cases c <;> rfl
  | comparison c =>
      show c.condition = Query.tokenChars (.comparison c)
      simp only [Comparison.condition, Query.tokenChars, String.isEmpty_iff]

/-- The predicate text is written token by token. -/
theorem Predicate.text_tokens (nodes : List Node) :
    (Predicate.text nodes).toList = (Node.tokensAll nodes).flatMap Predicate.tokenChars := by
  rw [Predicate.text, String.toList_ofList, Spelling.writeAll_tokens, Predicate.spelling_token]

/-- The filter text of a remote query is written token by token. -/
theorem Query.filterText_tokens (nodes : List Node) :
    (Query.filterText nodes).toList = (Node.tokensAll nodes).flatMap Query.tokenChars := by
  rw [Query.filterText, String.toList_ofList, Spelling.writeAll_tokens, Query.spelling_token]

namespace Node

/-! ### One sequence for trees that differ in implied connectives -/

/-- Trees with the same tokens have the same texts. -/
theorem texts_of_tokens {first second : List Node} (same : tokensAll first = tokensAll second) :
    Predicate.text first = Predicate.text second ∧ Query.filterText first = Query.filterText second := by
  constructor
  · apply String.toList_injective
    rw [Predicate.text_tokens, Predicate.text_tokens, same]
  · apply String.toList_injective
    rw [Query.filterText_tokens, Query.filterText_tokens, same]

/-- Writing out an implied `&&` does not change whether siblings begin with an operand. -/
theorem WritesOut.beginOperand {nodes more : List Node} (written : WritesOut nodes more) :
    beginOperand more = beginOperand nodes := by
  cases written with
  | here => rfl
  | inside => rfl
  | later => rfl

/-- The tokens of siblings depend on those of the first, on those behind it, and on which of them are operands. -/
theorem tokensAll_cons_congr {first second : Node} {rest others : List Node} (tokens : first.tokens = second.tokens)
    (operand : first.isOperand = second.isOperand) (begins : Node.beginOperand rest = Node.beginOperand others)
    (behind : tokensAll rest = tokensAll others) : tokensAll (first :: rest) = tokensAll (second :: others) := by
  rw [Node.tokensAll, Node.tokensAll, joint, joint, tokens, operand, begins, behind]

/-- An `&&` between an operand and siblings that begin with one is a token there already. -/
theorem tokensAll_and {node : Node} {rest : List Node} (label : Label) (before : node.isOperand = true)
    (behind : Node.beginOperand rest = true) :
    tokensAll (node :: .connective label .and :: rest) = tokensAll (node :: rest) := by
  have ahead : joint node (.connective label .and :: rest) = [] := by
    rw [joint, Node.beginOperand, List.head?_cons, Option.any_some, isOperand, Bool.and_false]
    rfl
  have between : joint node rest = [.connective .and] := by
    rw [joint, before, behind]
    rfl
  have after : joint (.connective label .and) rest = [] := rfl
  simp only [tokensAll, tokens, ahead, between, after, List.nil_append]

/-- Writing out an implied `&&` does not change the tokens. -/
theorem WritesOut.tokensAll {nodes more : List Node} (written : WritesOut nodes more) :
    tokensAll more = tokensAll nodes := by
  induction written with
  | here label before behind => exact tokensAll_and label before behind
  | inside deeper ih =>
      apply tokensAll_cons_congr
      · rw [tokens, tokens, ih]
      · rfl
      · rfl
      · rfl
  | later further ih => exact tokensAll_cons_congr rfl rfl further.beginOperand ih

/-- The predicate and the filter text of a remote query are one sequence of tokens in two spellings: the tree
    from the top down, with an `&&` between neighbouring operands at every depth. So writing out any number of
    implied `&&`s, at any depth, changes neither text. -/
theorem texts_share_tokens (nodes : List Node) :
    (Predicate.text nodes).toList = (tokensAll nodes).flatMap Predicate.tokenChars ∧
      (Query.filterText nodes).toList = (tokensAll nodes).flatMap Query.tokenChars ∧
      ∀ explicit : List Node, Relation.ReflTransGen WritesOut nodes explicit →
        Predicate.text explicit = Predicate.text nodes ∧
          Query.filterText explicit = Query.filterText nodes := by
  refine ⟨Predicate.text_tokens nodes, Query.filterText_tokens nodes, ?_⟩
  intro explicit written
  apply texts_of_tokens
  induction written with
  | refl => rfl
  | tail _ last ih => rw [last.tokensAll, ih]

/-- Two `&&`s that a tree implies, one inside a group and one behind it, are written out one after the other. -/
theorem texts_share_tokens_of_two :
    let left : Node := .comparison ⟨"a", none⟩ ⟨"x", .equals, .bool true⟩
    let right : Node := .comparison ⟨"b", none⟩ ⟨"", .contains, .text "y"⟩
    let implied : Node := .connective ⟨"c", none⟩ .and
    let nodes : List Node := [.group ⟨"g", none⟩ [left, right], left]
    let explicit : List Node := [.group ⟨"g", none⟩ [left, implied, right], implied, left]
    Relation.ReflTransGen WritesOut nodes explicit ∧
      Predicate.text explicit = Predicate.text nodes ∧
      Query.filterText explicit = Query.filterText nodes := by
  intro left right implied nodes explicit
  have inner : WritesOut nodes [.group ⟨"g", none⟩ [left, implied, right], left] := .inside (.here _ rfl rfl)
  have outer : WritesOut [.group ⟨"g", none⟩ [left, implied, right], left] explicit := .here _ rfl rfl
  have written : Relation.ReflTransGen WritesOut nodes explicit := .tail (.single inner) outer
  exact ⟨written, (texts_share_tokens nodes).2.2 explicit written⟩

end Node

end FilterTree
