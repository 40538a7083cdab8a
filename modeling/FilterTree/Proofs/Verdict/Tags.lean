/-
Module: FilterTree.Proofs.Verdict.Tags
Layer: Proofs
Purpose: Tags make no difference to a predicate. A path steps through tags, and the value at its end counts as what
  stands under them, at every depth. So a record has the same verdict when one tag is taken off it or off
  anything inside it, and when all of them are; only the keys of mappings, which a path compares as they stand,
  keep theirs.
Imports: FilterTree.Proofs.Filter.Pointwise, FilterTree.Proofs.Verdict.Reads
Main exports: Value.withoutTags, Value.Untags, Value.resolve_withoutTags, Predicate.tags_invisible
-/
import FilterTree.Proofs.Filter.Pointwise
import FilterTree.Proofs.Verdict.Reads

namespace FilterTree

namespace Value

/-! ### Taking tags off -/

mutual

/-- A value without the tags on it and on what it holds. The keys of a mapping stay as they are. -/
def withoutTags : Value → Value
  | .list items => .list (itemsWithoutTags items)
  | .map entries => .map (entriesWithoutTags entries)
  | .tagged _ value => value.withoutTags
  | value => value

/-- Several values, each without its tags. -/
def itemsWithoutTags : List Value → List Value
  | [] => []
  | item :: rest => item.withoutTags :: itemsWithoutTags rest

/-- Entries whose values are without their tags. -/
def entriesWithoutTags : List (Value × Value) → List (Value × Value)
  | [] => []
  | (key, value) :: rest => (key, value.withoutTags) :: entriesWithoutTags rest

end

theorem itemsWithoutTags_eq_map (items : List Value) : itemsWithoutTags items = items.map withoutTags := by
  induction items with
  | nil => rfl
  | cons item rest ih => rw [itemsWithoutTags, ih, List.map_cons]

theorem entriesWithoutTags_eq_map (entries : List (Value × Value)) :
    entriesWithoutTags entries = entries.map fun entry => (entry.1, entry.2.withoutTags) := by
  induction entries with
  | nil => rfl
  | cons entry rest ih => rw [entriesWithoutTags, ih, List.map_cons]

/-- One tag is taken off: the one on a value, or one inside it, but none of a key. -/
inductive Untags : Value → Value → Prop where
  | here (tag : String) (value : Value) : Untags (.tagged tag value) value
  | under (tag : String) {first second : Value} (inside : Untags first second) :
      Untags (.tagged tag first) (.tagged tag second)
  | item {before after : List Value} {first second : Value} (inside : Untags first second) :
      Untags (.list (before ++ first :: after)) (.list (before ++ second :: after))
  | entry {before after : List (Value × Value)} {key first second : Value} (inside : Untags first second) :
      Untags (.map (before ++ (key, first) :: after)) (.map (before ++ (key, second) :: after))

/-- It makes no difference to the value without tags when one tag is taken off before. -/
theorem Untags.withoutTags_eq {first second : Value} (untags : Untags first second) :
    first.withoutTags = second.withoutTags := by
  induction untags with
  | here tag value => rfl
  | under tag inside ih => exact ih
  | item inside ih => simp only [withoutTags, itemsWithoutTags_eq_map, List.map_append, List.map_cons, ih]
  | entry inside ih => simp only [withoutTags, entriesWithoutTags_eq_map, List.map_append, List.map_cons, ih]

/-- Nor when any number of tags is taken off, one after the other. -/
theorem withoutTags_eq_of_untags {first second : Value} (run : Relation.ReflTransGen Untags first second) :
    first.withoutTags = second.withoutTags := by
  induction run with
  | refl => rfl
  | tail _ last ih => exact ih.trans last.withoutTags_eq

mutual

/-- Tag after tag, every value comes to be without tags. -/
theorem untags_withoutTags : ∀ value : Value, Relation.ReflTransGen Untags value value.withoutTags
  | .null | .bool _ | .int _ | .float _ | .text _ => .refl
  | .list items => untags_items [] items
  | .map entries => untags_entries [] entries
  | .tagged tag value => .head (.here tag value) (untags_withoutTags value)

/-- So do the items of a list, behind items that are done. -/
theorem untags_items (done : List Value) : ∀ items : List Value,
    Relation.ReflTransGen Untags (.list (done ++ items)) (.list (done ++ itemsWithoutTags items))
  | [] => .refl
  | item :: rest => by
      have front : Relation.ReflTransGen Untags (.list (done ++ item :: rest))
          (.list (done ++ item.withoutTags :: rest)) :=
        Relation.ReflTransGen.lift (fun item => Value.list (done ++ item :: rest))
          (fun _ _ inside => Untags.item inside) _ _ (untags_withoutTags item)
      have behind := untags_items (done ++ [item.withoutTags]) rest
      rw [List.append_assoc, List.append_assoc] at behind
      exact front.trans behind

/-- And the entries of a mapping, behind entries that are done. -/
theorem untags_entries (done : List (Value × Value)) : ∀ entries : List (Value × Value),
    Relation.ReflTransGen Untags (.map (done ++ entries)) (.map (done ++ entriesWithoutTags entries))
  | [] => .refl
  | (key, value) :: rest => by
      have front : Relation.ReflTransGen Untags (.map (done ++ (key, value) :: rest))
          (.map (done ++ (key, value.withoutTags) :: rest)) :=
        Relation.ReflTransGen.lift (fun value => Value.map (done ++ (key, value) :: rest))
          (fun _ _ inside => Untags.entry inside) _ _ (untags_withoutTags value)
      have behind := untags_entries (done ++ [(key, value.withoutTags)]) rest
      rw [List.append_assoc, List.append_assoc] at behind
      exact front.trans behind

end

/-- No tag is left on a value. -/
theorem withoutTags_ne_tagged (tag : String) (inner : Value) : ∀ value : Value, value.withoutTags ≠ .tagged tag inner
  | .null | .bool _ | .int _ | .float _ | .text _ | .list _ | .map _ => nofun
  | .tagged _ value => withoutTags_ne_tagged tag inner value

/-- The items that are left in a list are without tags. -/
theorem items_of_withoutTags {items : List Value} : ∀ value : Value, value.withoutTags = .list items →
    ∃ held : List Value, items = held.map withoutTags
  | .list held, left => by
      cases left
      exact ⟨held, itemsWithoutTags_eq_map held⟩
  | .tagged _ value, left => items_of_withoutTags value left
  | .null, left | .bool _, left | .int _, left | .float _, left | .text _, left | .map _, left => nomatch left

/-- So are the values of the entries that are left in a mapping. -/
theorem entries_of_withoutTags {entries : List (Value × Value)} : ∀ value : Value,
    value.withoutTags = .map entries →
    ∃ held : List (Value × Value), entries = held.map fun entry => (entry.1, entry.2.withoutTags)
  | .map held, left => by
      cases left
      exact ⟨held, entriesWithoutTags_eq_map held⟩
  | .tagged _ value, left => entries_of_withoutTags value left
  | .null, left | .bool _, left | .int _, left | .float _, left | .text _, left | .list _, left => nomatch left

/-- From a value without tags no tag can be taken. -/
theorem Untags.ne_withoutTags {first second : Value} (untags : Untags first second) (value : Value) :
    first ≠ value.withoutTags := by
  induction untags generalizing value with
  | here tag inner => exact (withoutTags_ne_tagged tag inner value).symm
  | under tag inside ih => exact (withoutTags_ne_tagged tag _ value).symm
  | item inside ih =>
      intro left
      obtain ⟨held, hitems⟩ := items_of_withoutTags value left.symm
      obtain ⟨item, -, hitem⟩ := List.mem_map.mp (hitems ▸ List.mem_append_cons_self)
      exact ih item hitem.symm
  | entry inside ih =>
      intro left
      obtain ⟨held, hentries⟩ := entries_of_withoutTags value left.symm
      obtain ⟨entry, -, hentry⟩ := List.mem_map.mp (hentries ▸ List.mem_append_cons_self)
      exact ih entry.2 (congrArg Prod.snd hentry).symm

/-! ### What a path reaches -/

mutual

/-- Tags do not count in what a value counts as. -/
theorem ofValue_withoutTags : ∀ value : Value, Operand.ofValue value.withoutTags = Operand.ofValue value
  | .null | .bool _ | .int _ | .float _ | .text _ | .map _ => rfl
  | .list items => congrArg Operand.list (ofValues_withoutTags items)
  | .tagged _ value => ofValue_withoutTags value

theorem ofValues_withoutTags : ∀ items : List Value,
    Operand.ofValues (itemsWithoutTags items) = Operand.ofValues items
  | [] => rfl
  | item :: rest => by
      rw [itemsWithoutTags, Operand.ofValues, Operand.ofValues, ofValue_withoutTags item,
        ofValues_withoutTags rest]

end

/-- The entry under a name is the one that stands there with its tags, without them. -/
theorem entry?_withoutTags (name : String) (entries : List (Value × Value)) :
    entry? name (entriesWithoutTags entries) = ( entry? name entries).map withoutTags := by
  induction entries with
  | nil => rfl
  | cons entry rest ih =>
      obtain ⟨key, value⟩ := entry
      rw [entriesWithoutTags]
      by_cases same : key = .text name
      · rw [same, entry?_cons_self, entry?_cons_self, Option.map_some]
      · rw [entry?_cons_of_ne same, entry?_cons_of_ne same, ih]

/-- A name selects the same part with tags and without. -/
theorem part?_withoutTags (name : String) : ∀ value : Value,
    value.withoutTags.part? name = (value.part? name).map withoutTags
  | .null | .bool _ | .int _ | .float _ | .text _ => rfl
  | .list items => by
      show (Text.unsigned? name.toList).bind ((itemsWithoutTags items)[·]?) =
        ((Text.unsigned? name.toList).bind (items[·]?)).map withoutTags
      cases Text.unsigned? name.toList with
      | none => rfl
      | some index => simp only [itemsWithoutTags_eq_map, Option.bind_some, List.getElem?_map]
  | .map entries => entry?_withoutTags name entries
  | .tagged _ value => part?_withoutTags name value

/-- A path reaches the same with tags and without. -/
theorem resolve_withoutTags (names : List String) (value : Value) :
    value.withoutTags.resolve names = value.resolve names := by
  induction names generalizing value with
  | nil => exact ofValue_withoutTags value
  | cons name names ih =>
      rw [resolve, resolve, part?_withoutTags]
      cases value.part? name with
      | none => rfl
      | some part => exact ih part

end Value

/-! ### Verdicts -/

/-- A record has one verdict, or one fault, with its tags and without them. -/
theorem Expr.verdict_withoutTags (expr : Expr) (record : Value) :
    expr.verdict record.withoutTags = expr.verdict record :=
  verdict_alike fun names _ => by
    rw [record.resolve_withoutTags names]
    exact .same _

namespace Predicate

open Value (Untags withoutTags)

/-- Records without their tags are kept when they are kept with them. -/
theorem keep_withoutTags (expr : Expr) (records : List Value) :
    keep .ok expr (records.map withoutTags) = (keep .ok expr records).map (List.map withoutTags) := by
  induction records with
  | nil => rfl
  | cons record rest ih =>
      have same : outcome .ok expr record.withoutTags = outcome .ok expr record :=
        expr.verdict_withoutTags record
      rw [List.map_cons, keep_cons, keep_cons, same, ih]
      cases outcome .ok expr record with
      | error fault => rfl
      | ok matched =>
          cases keep .ok expr rest with
          | error fault => rfl
          | ok kept => cases matched <;> rfl

/-- Tags are invisible to predicates. A record has one verdict, or one fault, whether any of its tags are taken
    off or none. To take them off one by one leads to the record without tags, from which none can be taken.
    And from records without tags a predicate text selects what it selects from the records with them, or
    fails as it does there. -/
theorem tags_invisible :
    (∀ (expr : Expr) (record : Value), expr.verdict record.withoutTags = expr.verdict record) ∧
    (∀ record : Value, Relation.ReflTransGen Untags record record.withoutTags ∧
      ∀ other, ¬ Untags record.withoutTags other) ∧
    (∀ (expr : Expr) (record other : Value), Relation.ReflTransGen Untags record other →
      expr.verdict other = expr.verdict record) ∧
    ∀ (text : String) (records : List Value),
      select .ok text (records.map withoutTags) = (select .ok text records).map (List.map withoutTags) := by
  refine ⟨Expr.verdict_withoutTags, fun record => ⟨record.untags_withoutTags, fun other untags => ?_⟩,
    fun expr record other run => ?_, fun text records => ?_⟩
  · exact untags.ne_withoutTags record rfl
  · rw [← expr.verdict_withoutTags other, ← Value.withoutTags_eq_of_untags run, expr.verdict_withoutTags]
  · rcases select_cases .ok text with all | ⟨fault, failed⟩ | ⟨expr, keeps⟩
    · rw [all, all]
      rfl
    · rw [failed, failed]
      rfl
    · rw [keeps, keeps, keep_withoutTags]

end Predicate

end FilterTree
