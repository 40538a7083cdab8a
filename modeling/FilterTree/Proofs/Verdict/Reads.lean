/-
Module: FilterTree.Proofs.Verdict.Reads
Layer: Proofs
Purpose: What of a record a verdict can depend on. A path shows one value of a record, and of that value only its
  surface: a scalar, the length of a list, or that it is a mapping. Records on which every path of an expression
  shows the same surface have the same verdict, so what no path reads may change: other fields, the order of
  entries and whatever stands inside a list or a mapping at the end of a path. The paths of a clean tree are
  those of its comparisons.
Imports: FilterTree.Proofs.Tree.Inheritance, FilterTree.Proofs.Verdict.Alike, FilterTree.Proofs.Verdict.Comparisons
Main exports: Value.Alike, Value.ReachesAlike, Value.VariesOff, Predicate.verdict_of_reads
-/
import FilterTree.Proofs.Tree.Inheritance
import FilterTree.Proofs.Verdict.Alike
import FilterTree.Proofs.Verdict.Comparisons

namespace FilterTree

namespace Value

/-! ### Surfaces -/

/-- The number that a value is. -/
def number? : Value → Option Number
  | .int value => some (Number.ofInt value)
  | .float value => some value
  | _ => none

/-- Two values have one surface: they are the same scalar, where numbers are the same when they are equal or both a
    NaN, or two lists of one length, or two mappings. Tags on them do not count. -/
inductive Alike : Value → Value → Prop where
  | null : Alike .null .null
  | bool (value : Bool) : Alike (.bool value) (.bool value)
  | number {first second : Value} {x y : Number} (left : first.number? = some x) (right : second.number? = some y)
      (alike : x.Alike y) : Alike first second
  | text (value : String) : Alike (.text value) (.text value)
  | list {items others : List Value} (sameLength : items.length = others.length) : Alike (.list items) (.list others)
  | map (entries others : List (Value × Value)) : Alike (.map entries) (.map others)
  | tagLeft {tag : String} {first second : Value} (alike : Alike first second) : Alike (.tagged tag first) second
  | tagRight {tag : String} {first second : Value} (alike : Alike first second) : Alike first (.tagged tag second)

/-- The steps reach the same in two records: they lead nowhere in both, or to values with one surface. -/
def ReachesAlike (first second : Value) (names : List String) : Prop :=
  (first.LeadsNowhere names ∧ second.LeadsNowhere names) ∨
    ∃ last other, first.Leads names last ∧ second.Leads names other ∧ last.Alike other

/-- A value that is a number counts as that number. -/
theorem ofValue_number {value : Value} {x : Number} (h : value.number? = some x) :
    Operand.ofValue value = .number x := by
  cases value <;> cases h <;> rfl

/-- Values with one surface count as alike operands. -/
theorem Alike.operands {first second : Value} (alike : first.Alike second) :
    (Operand.ofValue first).Alike (Operand.ofValue second) := by
  induction alike with
  | null => exact .same _
  | bool value => exact .same _
  | number left right alike =>
      rw [ofValue_number left, ofValue_number right]
      exact .numbers alike
  | text value => exact .same _
  | list sameLength => exact .lists (by simpa using sameLength)
  | map entries others => exact .same _
  | tagLeft alike ih => exact ih
  | tagRight alike ih => exact ih

/-- A path that reaches the same in two records has alike operands. -/
theorem ReachesAlike.operands {first second : Value} {names : List String} (same : first.ReachesAlike second names) :
    (first.resolve names).Alike (second.resolve names) := by
  rcases same with ⟨nowhere, neither⟩ | ⟨last, other, leads, leadsToo, alike⟩
  · rw [resolve_of_leadsNowhere nowhere, resolve_of_leadsNowhere neither]
    exact .same _
  · rw [resolve_of_leads leads, resolve_of_leads leadsToo]
    exact alike.operands

/-! ### Entries and items -/

theorem entry?_cons_self (name : String) (part : Value) (rest : List (Value × Value)) :
    entry? name ((.text name, part) :: rest) = some part :=
  if_pos rfl

/-- An entry under another key is passed. -/
theorem entry?_cons_of_ne {name : String} {key : Value} (other : key ≠ .text name) (part : Value)
    (rest : List (Value × Value)) : entry? name ((key, part) :: rest) = entry? name rest := by
  cases key with
  | text own =>
      have different : own ≠ name := fun same => other (congrArg _ same)
      exact if_neg different
  | null | bool | int | float | list | map | tagged => rfl

/-- An entry is looked for in front, and then behind. -/
theorem entry?_append (name : String) (before rest : List (Value × Value)) :
    entry? name (before ++ rest) =
      match entry? name before with
      | some part => some part
      | none => entry? name rest := by
  induction before with
  | nil => rfl
  | cons entry before ih =>
      obtain ⟨key, part⟩ := entry
      rw [List.cons_append]
      by_cases same : key = .text name
      · rw [same, entry?_cons_self, entry?_cons_self]
      · rw [entry?_cons_of_ne same, entry?_cons_of_ne same, ih]

/-- Where no key stands twice, what is found under a name is what stands there. -/
theorem entry?_eq_some_iff {name : String} {part : Value} {entries : List (Value × Value)}
    (distinct : (entries.map Prod.fst).Nodup) :
    entry? name entries = some part ↔ (.text name, part) ∈ entries := by
  induction entries with
  | nil => simp [ entry?]
  | cons entry entries ih =>
      obtain ⟨key, held⟩ := entry
      rw [List.map_cons, List.nodup_cons] at distinct
      obtain ⟨fresh, distinct⟩ := distinct
      by_cases same : key = .text name
      · subst same
        have once : (.text name, part) ∉ entries := fun again =>
          fresh (List.mem_map.mpr ⟨_, again, rfl⟩)
        simp [entry?_cons_self, once, eq_comm]
      · rw [entry?_cons_of_ne same, ih distinct]
        simp [Ne.symm same]

/-- The order of entries makes no difference where no key stands twice. -/
theorem entry?_perm {entries others : List (Value × Value)} (distinct : (entries.map Prod.fst).Nodup)
    (order : entries.Perm others) (name : String) : entry? name entries = entry? name others := by
  have distinctToo : (others.map Prod.fst).Nodup := (order.map Prod.fst).nodup_iff.mp distinct
  ext part
  rw [entry?_eq_some_iff distinct, entry?_eq_some_iff distinctToo, order.mem_iff]

theorem resolve_tagged (tag : String) (value : Value) (names : List String) :
    (tagged tag value).resolve names = value.resolve names := by
  cases names <;> rfl

/-- What steps reach in a mapping goes on from the entry under the first of them. -/
theorem resolve_map (entries : List (Value × Value)) (name : String) (names : List String) :
    (map entries).resolve (name :: names) =
      match entry? name entries with
      | some part => part.resolve names
      | none => .undefined :=
  rfl

/-- What steps reach in a list goes on from the item with the number of the first of them. -/
theorem resolve_list (items : List Value) (name : String) (names : List String) :
    (list items).resolve (name :: names) =
      match (Text.unsigned? name.toList).bind (items[·]?) with
      | some part => part.resolve names
      | none => .undefined :=
  rfl

/-- Items at other places do not tell which item stands at one. -/
theorem getElem?_other (before after : List Value) (first second : Value) {index : Nat}
    (other : index ≠ before.length) : (before ++ first :: after)[index]? = (before ++ second :: after)[index]? := by
  rcases Nat.lt_or_gt_of_ne other with inFront | behind
  · rw [List.getElem?_append_left inFront, List.getElem?_append_left inFront]
  · obtain ⟨more, rfl⟩ := Nat.exists_eq_add_of_lt behind
    simp [List.getElem?_append_right, Nat.add_assoc]

/-! ### Changes that are not read -/

/-- One value becomes the other by changes off the paths that are read, which start at these two values: where no
    path leads, anything may stand, and where paths only end, anything with the same surface. Below a key or a
    number, only the paths count that step there. An entry under another key than those that are read may come
    or go, and the entries may stand in another order. -/
inductive VariesOff : (List String → Prop) → Value → Value → Prop where
  | unread {reads : List String → Prop} {first second : Value} (nothing : ∀ names, ¬ reads names) :
      VariesOff reads first second
  | surface {reads : List String → Prop} {first second : Value} (ends : ∀ names, reads names → names = [])
      (alike : first.Alike second) : VariesOff reads first second
  | entry {reads : List String → Prop} {key first second : Value} {before after : List (Value × Value)}
      (inside : VariesOff (fun names => ∃ name, key = .text name ∧ reads (name :: names)) first second) :
      VariesOff reads (.map (before ++ (key, first) :: after)) (.map (before ++ (key, second) :: after))
  | added {reads : List String → Prop} {key value : Value} {before after : List (Value × Value)}
      (other : ∀ name names, reads (name :: names) → key ≠ .text name) :
      VariesOff reads (.map (before ++ after)) (.map (before ++ (key, value) :: after))
  | reordered {reads : List String → Prop} {entries others : List (Value × Value)}
      (distinct : (entries.map Prod.fst).Nodup) (order : entries.Perm others) :
      VariesOff reads (.map entries) (.map others)
  | item {reads : List String → Prop} {first second : Value} {before after : List Value}
      (inside : VariesOff (fun names => ∃ name, Text.unsigned? name.toList = some before.length ∧
        reads (name :: names)) first second) :
      VariesOff reads (.list (before ++ first :: after)) (.list (before ++ second :: after))
  | tagged {reads : List String → Prop} {tag other : String} {first second : Value}
      (inside : VariesOff reads first second) : VariesOff reads (.tagged tag first) (.tagged other second)
  | refl {reads : List String → Prop} (value : Value) : VariesOff reads value value
  | symm {reads : List String → Prop} {first second : Value} (varies : VariesOff reads first second) :
      VariesOff reads second first
  | trans {reads : List String → Prop} {first second third : Value} (varies : VariesOff reads first second)
      (more : VariesOff reads second third) : VariesOff reads first third

/-- Changes off the paths that are read leave alike operands at them. -/
theorem VariesOff.operands {reads : List String → Prop} {first second : Value}
    (varies : VariesOff reads first second) {names : List String} (read : reads names) :
    (first.resolve names).Alike (second.resolve names) := by
  induction varies generalizing names with
  | unread nothing => exact absurd read (nothing names)
  | surface ends alike =>
      rw [ends names read]
      exact alike.operands
  | @entry reads key first second before after inside ih =>
      cases names with
      | nil => exact .same _
      | cons name names =>
          rw [resolve_map, resolve_map, entry?_append, entry?_append]
          cases entry? name before with
          | some part => exact .same _
          | none =>
              by_cases same : key = .text name
              · subst same
                rw [entry?_cons_self, entry?_cons_self]
                exact ih ⟨name, rfl, read⟩
              · rw [entry?_cons_of_ne same, entry?_cons_of_ne same]
                exact .same _
  | added other =>
      cases names with
      | nil => exact .same _
      | cons name names =>
          rw [resolve_map, resolve_map, entry?_append, entry?_append, entry?_cons_of_ne (other name names read)]
          exact .same _
  | reordered distinct order =>
      cases names with
      | nil => exact .same _
      | cons name names =>
          rw [resolve_map, resolve_map, entry?_perm distinct order]
          exact .same _
  | @item reads first second before after inside ih =>
      cases names with
      | nil =>
          have sameLength : (before ++ first :: after).length = (before ++ second :: after).length := by simp
          exact (Alike.list sameLength).operands
      | cons name names =>
          rw [resolve_list, resolve_list]
          cases numbered : Text.unsigned? name.toList with
          | none => exact .same _
          | some index =>
              by_cases here : index = before.length
              · subst here
                simpa using ih ⟨name, numbered, read⟩
              · rw [Option.bind_some, Option.bind_some, getElem?_other before after first second here]
                exact .same _
  | tagged inside ih =>
      rw [resolve_tagged, resolve_tagged]
      exact ih read
  | refl value => exact .same _
  | symm varies ih => exact (ih read).symm
  | trans varies more ih ihMore => exact (ih read).trans (ihMore read)

end Value

namespace Predicate

open Value (VariesOff)

/-- The paths of a question are the path that it asks. -/
theorem paths_check (check : Check) (steps : List String) (value : Scalar) :
    ∀ names ∈ (check.expr steps value).paths, names = steps := by
  cases check with
  | matching function negated => cases negated <;> simp [Check.expr, Expr.paths, Expr.pathsAll]
  | compared | size | constant | day => simp [Check.expr, Expr.paths, Expr.pathsAll]

/-- Connectives read nothing. -/
theorem paths_inherited (reads : List String → Prop) :
    Inherited (fun comparison => reads comparison.steps) (fun expr => ∀ names ∈ expr.paths, reads names) where
  asked {comparison} read names hmem := by
    rw [paths_check _ _ _ names hmem]
    exact read
  negated {term} each := by
    obtain ⟨reached, compared⟩ := term
    cases compared with
    | none => exact each
    | some sides => exact each
  and first second := List.forall_mem_append.mpr ⟨first, second⟩
  or first second := List.forall_mem_append.mpr ⟨first, second⟩

/-- A verdict depends only on what the expression reads, and only on its surface. Two records in which every path of
    an expression reaches the same have one verdict, or one fault. So do two records that differ only off these
    paths, and for what a clean tree says, two records that differ only off the paths of its comparisons. -/
theorem verdict_of_reads :
    (∀ (expr : Expr) (first second : Value), (∀ names ∈ expr.paths, first.ReachesAlike second names) →
      expr.verdict first = expr.verdict second) ∧
    (∀ (expr : Expr) (first second : Value), VariesOff (· ∈ expr.paths) first second →
      expr.verdict first = expr.verdict second) ∧
    ∀ (nodes : List Node) (expr : Expr) (reads : List String → Prop), Clean nodes →
      Node.EveryAmong (fun comparison => reads comparison.steps) (fun _ => True) nodes →
      parse (text nodes) = .ok expr → ∀ first second : Value, VariesOff reads first second →
      expr.verdict first = expr.verdict second := by
  refine ⟨fun expr first second same => ?_, fun expr first second varies => ?_, ?_⟩
  · exact Expr.verdict_alike fun names read => (same names read).operands
  · exact Expr.verdict_alike fun names read => varies.operands read
  · intro nodes expr reads clean named hparse first second varies
    obtain ⟨ordered, -, rfl⟩ := eq_meaning_of_parse clean hparse
    have inside := (paths_inherited reads).of_meaning (fun bad => absurd ordered bad) named
    exact Expr.verdict_alike fun names read => varies.operands (inside names read)

/-- A price of zero and one of minus zero with a tag, two lists of two items, another order of the entries, and a note
    that only one record has. -/
theorem verdict_of_reads_of_price :
    let nodes : List Node := [
      .comparison ⟨"a", none⟩ ⟨"price", .lessThanOrEqual, .number .zero⟩,
      .comparison ⟨"b", none⟩ ⟨"tags", .isNotEmpty, .undefined⟩]
    let reads : List String → Prop := fun names => names = ["price"] ∨ names = ["tags"]
    let expr : Expr := .and (.compare .le (.path ["price"]) (.literal (.number .zero)))
      (.compare .ne (.call .len [.path ["tags"]]) (.literal (.number .zero)))
    let first : Value := .map [(.text "price", .int 0), (.text "tags", .list [.text "old", .null]),
      (.text "note", .text "sold")]
    let second : Value := .map [(.text "tags", .list [.map [], .bool true]),
      (.text "price", .tagged "!money" (.float (.finite true ⟨0, by decide⟩)))]
    (∀ names ∈ expr.paths, first.ReachesAlike second names) ∧ VariesOff reads first second ∧
      parse (text nodes) = .ok expr ∧ expr.verdict first = .ok true ∧ expr.verdict second = .ok true ∧
      expr.verdict first = expr.verdict second := by
  intro nodes reads expr first second
  have price : IsPath ['p', 'r', 'i', 'c', 'e'] := .last (by decide)
  have tags : IsPath ['t', 'a', 'g', 's'] := .last (by decide)
  have clean : Clean nodes :=
    ⟨⟨price, fun _ _ h => by cases h; rfl⟩, ⟨tags, fun _ _ h => nomatch h⟩, trivial⟩
  have hparse : parse (text nodes) = .ok expr := by
    decide +kernel
  have holds : expr.verdict first = .ok true := by
    decide +kernel
  have zeros : (Value.int 0).Alike (.tagged "!money" (.float (.finite true ⟨0, by decide⟩))) :=
    .tagRight (.number rfl rfl (.inl (by decide +kernel)))
  have pairs : (Value.list [.text "old", .null]).Alike (.list [.map [], .bool true]) := .list rfl
  have reached : ∀ names ∈ expr.paths, first.ReachesAlike second names := by
    intro names hmem
    rcases List.mem_pair.mp hmem with rfl | rfl
    · exact .inr ⟨_, _, .step (.entry rfl rfl) (.here _), .step (.entry rfl rfl) (.here _), zeros⟩
    · exact .inr ⟨_, _, .step (.entry rfl rfl) (.here _), .step (.entry rfl rfl) (.here _), pairs⟩
  have varies : VariesOff reads first second := by
    -- The note goes, the two values that are read change below their surface, and the entries change places.
    have note : ∀ name names, reads (name :: names) → Value.text "note" ≠ .text name := by
      rintro name names (h | h) <;> cases h <;> simp
    have dropped := (@VariesOff.added reads (.text "note") (.text "sold")
      [(.text "price", .int 0), (.text "tags", .list [.text "old", .null])] [] note).symm
    have priced := @VariesOff.entry reads (.text "price") (.int 0)
      (.tagged "!money" (.float (.finite true ⟨0, by decide⟩))) [] [(.text "tags", .list [.text "old", .null])]
      (.surface (by simp [reads]) zeros)
    have listed := @VariesOff.entry reads (.text "tags") (.list [.text "old", .null]) (.list [.map [], .bool true])
      [(.text "price", .tagged "!money" (.float (.finite true ⟨0, by decide⟩)))] []
      (.surface (by simp [reads]) pairs)
    exact dropped.trans (priced.trans (listed.trans (.reordered (by simp) (.swap _ _ _))))
  have same := verdict_of_reads.1 expr first second reached
  have named : Node.EveryAmong (fun comparison => reads comparison.steps) (fun _ => True) nodes :=
    ⟨.inl rfl, .inr rfl, trivial⟩
  have sameToo := verdict_of_reads.2.2 nodes expr reads clean named hparse first second varies
  exact ⟨reached, varies, hparse, holds, same.symm.trans holds, sameToo⟩

end Predicate

end FilterTree
