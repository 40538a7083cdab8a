/-
Module: FilterTree.Proofs.Query.QueryString
Layer: Proofs
Purpose: What a query string carries. The filter text always travels, the sort order and the page only when they
  are set, and whoever reads the query string finds exactly these, in their own characters. A page that is left
  out was zero and a sort order that is left out was empty, so the envelope is found again as a whole.
Imports: FilterTree.Proofs.Text.Form, FilterTree.Query.Envelope
Main exports: Query.Envelope.told, Query.Envelope.ofPairs?, Query.Envelope.queryString_faithful
-/
import FilterTree.Proofs.Text.Form
import FilterTree.Query.Envelope

namespace FilterTree.Query.Envelope

/-! ### What an envelope tells -/

/-- What is to be told of an envelope: its filter, a sort order that is not empty, and the numbers above zero. -/
def told (envelope : Envelope) : List (String × String) :=
  ("filter", envelope.filter) ::
    ((if envelope.orderBy ≠ "" then [("orderBy", envelope.orderBy)] else []) ++
      ((if 0 < envelope.page then [("page", toString envelope.page.toNat)] else []) ++
        (if 0 < envelope.pageSize then [("pageSize", toString envelope.pageSize.toNat)] else [])))

/-- A page number in decimal digits; no digits at all stand for zero. -/
def pageOf? : Option String → Option UInt32
  | none => some 0
  | some digits => do
    let page ← digits.toNat?
    if page < UInt32.size then some (UInt32.ofNat page) else none

/-- The envelope that named values tell. The filter has to be there; what else is not named is empty or zero. -/
def ofPairs? (pairs : List (String × String)) : Option Envelope := do
  return {
    filter := ← pairs.lookup "filter"
    orderBy := (pairs.lookup "orderBy").getD ""
    page := ← pageOf? (pairs.lookup "page")
    pageSize := ← pageOf? (pairs.lookup "pageSize")
  }

/-- A page number is read from its digits, or from their absence when it is zero. -/
theorem pageOf_digits (page : UInt32) :
    pageOf? (if 0 < page then some (toString page.toNat) else none) = some page := by
  split
  · have small : page.toNat < UInt32.size := page.toNat_lt
    rw [pageOf?, Nat.toString_eq_repr, Nat.toNat?_repr]
    simp [small]
  · next unset =>
      have zero : page = 0 := by
        simpa using unset
      rw [zero, pageOf?]

/-- A value that is named under a condition is found under its name when the condition holds. -/
theorem lookup_named (key name value : String) (condition : Prop) [Decidable condition] :
    (if condition then [(name, value)] else []).lookup key =
      if condition ∧ key = name then some value else none := by
  by_cases told : condition
  · by_cases same : key = name
    · simp [told, same]
    · simp [told, same, List.lookup_cons, beq_false_of_ne same]
  · simp [told]

/-- What is told of an envelope tells the envelope. -/
theorem ofPairs_told (envelope : Envelope) : ofPairs? envelope.told = some envelope := by
  have filter : envelope.told.lookup "filter" = some envelope.filter := List.lookup_cons_self
  have orderBy : (envelope.told.lookup "orderBy").getD "" = envelope.orderBy := by
    simp only [told, List.lookup_cons, List.lookup_append, lookup_named]
    by_cases unset : envelope.orderBy = "" <;> simp [unset]
  have page : envelope.told.lookup "page" =
      if 0 < envelope.page then some (toString envelope.page.toNat) else none := by
    simp only [told, List.lookup_cons, List.lookup_append, lookup_named]
    simp
  have pageSize : envelope.told.lookup "pageSize" =
      if 0 < envelope.pageSize then some (toString envelope.pageSize.toNat) else none := by
    simp only [told, List.lookup_cons, List.lookup_append, lookup_named]
    simp
  rw [ofPairs?, filter, orderBy, page, pageSize, pageOf_digits, pageOf_digits]
  rfl

/-! ### Reading the query string -/

/-- The digits of a page number are its decimal notation. -/
theorem ofList_pageChars (page : UInt32) : String.ofList (pageChars page) = toString page.toNat :=
  rfl

/-- A query string is read as what its envelope tells. -/
theorem readPairs_queryString (envelope : Envelope) :
    Text.readPairs? envelope.queryString.toList = some envelope.told := by
  rw [queryString, String.toList_ofList, Text.readPairs_formPairs, pairs, told]
  simp only [List.map_append, apply_ite (List.map _), List.map_cons, List.map_nil, String.ofList_toList,
    ofList_pageChars, List.append_assoc, List.cons_append, List.nil_append, String.isEmpty_iff, ite_not, ne_eq,
    UInt32.pos_iff_ne_zero]

/-- A query string carries its envelope faithfully. Cut at its marks and read part by part, it gives the filter,
    the sort order when it is not empty and each number when it is above zero, in this order and with their own
    characters and digits. With empty and zero in place of what is absent that is the envelope, so two envelopes
    with one query string are the same. -/
theorem queryString_faithful (envelope : Envelope) :
    Text.readPairs? envelope.queryString.toList = some envelope.told ∧
      ofPairs? envelope.told = some envelope ∧
      ∀ other : Envelope, other.queryString = envelope.queryString ↔ other = envelope := by
  refine ⟨readPairs_queryString envelope, ofPairs_told envelope, fun other => ⟨fun same => ?_, congrArg _⟩⟩
  have tells : some envelope.told = some other.told := by
    rw [← readPairs_queryString, ← readPairs_queryString, same]
  have restored := ofPairs_told other
  rw [← Option.some_inj.mp tells, ofPairs_told, Option.some_inj] at restored
  exact restored.symm

example : queryString ⟨"(name=*ü & co,a=1)", "", 0, 25⟩ =
    "filter=%28name%3D*%C3%BC+%26+co%2Ca%3D1%29&pageSize=25" := by
  decide +kernel

end FilterTree.Query.Envelope
