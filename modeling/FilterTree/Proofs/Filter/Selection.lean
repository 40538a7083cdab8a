/-
Module: FilterTree.Proofs.Filter.Selection
Layer: Proofs
Purpose: Which records a filter gives. A predicate has an outcome on every record, a verdict or a fault. The
  records of a list are kept where their verdicts are true, and one fault anywhere in the list is a fault of
  the whole. Every node of a tree writes something that is not blank, so only the tree without nodes keeps
  records without a look at them.
Imports: FilterTree.Proofs.Tree.Comparisons, FilterTree.Filter
Main exports: Predicate.outcome, Predicate.accepts, Predicate.Fails, Predicate.keep_eq_ok_iff,
  Predicate.isBlankText_text_iff, Predicate.filter_fails_closed
-/
import FilterTree.Proofs.Tree.Comparisons
import FilterTree.Filter

namespace FilterTree

/-! ### What is written is not blank -/

/-- What a question asks of the field has a character that is not blank. -/
theorem Check.exists_visible (check : Check) (field value : List Char) :
    ∃ c ∈ check.reachedText field value, Text.isBlank c = false := by
  cases check with
  | compared | constant => exact ⟨'r', by simp [reachedText, pathText], by decide⟩
  | size | day | matching => exact ⟨'(', by simp [reachedText, callText], by decide⟩

namespace Predicate

/-- Every node writes a character that is not blank. -/
theorem exists_visible (node : Node) : ∃ c ∈ spelling.write node, Text.isBlank c = false := by
  cases node with
  | comparison label comparison =>
      obtain ⟨c, hmem, hvisible⟩ :=
        comparison.operator.check.exists_visible comparison.field.toList comparison.value.literal
      refine ⟨c, ?_, hvisible⟩
      have hwrite : spelling.write (.comparison label comparison) =
          comparison.operator.check.reachedText comparison.field.toList comparison.value.literal ++
            Check.behind (comparison.operator.check.opposedText comparison.value.literal) :=
        comparison.operator.check.fill_pieces _ _
      rw [hwrite]
      exact List.mem_append_left _ hmem
  | connective label connective =>
      rw [Spelling.write]
      cases connective with
      | and => exact ⟨'&', by decide, by decide⟩
      | or => exact ⟨'|', by decide, by decide⟩
      | not => exact ⟨'!', by decide, by decide⟩
  | group label children =>
      exact ⟨'(', by rw [Spelling.write]; exact List.mem_cons_self, by decide⟩

/-- Some character of a text is not blank exactly when the tree has a node. -/
theorem exists_visible_text_iff (nodes : List Node) :
    (∃ c ∈ (text nodes).toList, Text.isBlank c = false) ↔ nodes ≠ [] := by
  rw [text, String.toList_ofList, Spelling.writeAll]
  cases nodes with
  | nil => simp [Spelling.writeAfter]
  | cons node rest =>
      obtain ⟨c, hmem, hvisible⟩ := exists_visible node
      refine ⟨fun _ => List.cons_ne_nil _ _, fun _ => ⟨c, ?_, hvisible⟩⟩
      rw [Spelling.writeAfter, Bool.false_and]
      exact List.mem_append_right _ (List.mem_append_left _ hmem)

/-- A text is blank exactly when the tree has no nodes. -/
theorem isBlankText_text_iff (nodes : List Node) :
    Text.isBlankText (text nodes).toList = true ↔ nodes = [] := by
  rw [← not_iff_not, ← ne_eq nodes, ← exists_visible_text_iff]
  simp [Text.isBlankText]

/-! ### Outcomes -/

section Outcomes

variable {α : Type} (view : α → Except String Value) (expr : Expr)

/-- What a predicate makes of a record: its verdict, or why there is none. -/
def outcome (record : α) : Except Fault Bool := do
  let value ← (view record).mapError Fault.unreadableRecord
  expr.verdict value

/-- The predicate is true of the record. -/
def accepts (record : α) : Bool :=
  match outcome view expr record with
  | .ok verdict => verdict
  | .error _ => false

/-- The record cannot be shown as a value, or the predicate cannot be decided on it. -/
def Fails (record : α) : Prop :=
  ∃ fault, outcome view expr record = .error fault

variable {view expr} {record : α} {records : List α}

theorem outcome_of_not_fails (h : ¬ Fails view expr record) :
    outcome view expr record = .ok (accepts view expr record) := by
  rw [accepts]
  cases houtcome : outcome view expr record with
  | error fault => exact absurd ⟨fault, houtcome⟩ h
  | ok verdict => rfl

variable (view expr) in
/-- A record is kept by its outcome, and the others after it. -/
theorem keep_cons (record : α) (rest : List α) : keep view expr (record :: rest) = (do
    let matched ← outcome view expr record
    let others ← keep view expr rest
    .ok (if matched then record :: others else others)) := by
  rw [keep, outcome]
  cases (view record).mapError Fault.unreadableRecord with
  | error fault => rfl
  | ok value => rfl

/-- Where no record fails, those with a true verdict are kept, in their order. -/
theorem keep_of_decided (h : ∀ record ∈ records, ¬ Fails view expr record) :
    keep view expr records = .ok (records.filter (accepts view expr)) := by
  induction records with
  | nil => rfl
  | cons record rest ih =>
      rw [List.forall_mem_cons] at h
      rw [keep_cons, bind_of_ok (outcome_of_not_fails h.1), bind_of_ok (ih h.2), List.filter_cons]

/-- Where a record fails, the whole list does. -/
theorem keep_of_fails (h : ∃ record ∈ records, Fails view expr record) :
    ∃ fault, keep view expr records = .error fault := by
  induction records with
  | nil => simp at h
  | cons record rest ih =>
      rw [keep_cons]
      cases houtcome : outcome view expr record with
      | error fault => exact ⟨fault, rfl⟩
      | ok verdict =>
          have others : ∃ record ∈ rest, Fails view expr record := by
            obtain ⟨failing, hmem, hfails⟩ := h
            rcases List.mem_cons.mp hmem with rfl | hmem
            · obtain ⟨fault, hfault⟩ := hfails
              rw [houtcome] at hfault
              cases hfault
            · exact ⟨failing, hmem, hfails⟩
          obtain ⟨fault, hfault⟩ := ih others
          exact ⟨fault, bind_error hfault _⟩

/-- Records are kept exactly when none of the list fails, and they are those with a true verdict. -/
theorem keep_eq_ok_iff {kept : List α} : keep view expr records = .ok kept ↔
    (∀ record ∈ records, ¬ Fails view expr record) ∧ records.filter (accepts view expr) = kept := by
  by_cases h : ∃ record ∈ records, Fails view expr record
  · obtain ⟨fault, hfault⟩ := keep_of_fails h
    obtain ⟨record, hmem, hfails⟩ := h
    rw [hfault]
    exact ⟨(nomatch ·), fun hkept => absurd hfails (hkept.1 record hmem)⟩
  · have decided : ∀ record ∈ records, ¬ Fails view expr record :=
      fun record hmem hfails => h ⟨record, hmem, hfails⟩
    rw [keep_of_decided decided, Except.ok.injEq]
    exact ⟨fun hkept => ⟨decided, hkept⟩, And.right⟩

end Outcomes

/-! ### Filters -/

section Filters

variable {α : Type} (view : α → Except String Value) {nodes : List Node} (records : List α)

/-- The text of a tree with a node is read before any record is looked at. -/
theorem select_text (nonempty : nodes ≠ []) :
    select view (text nodes) records = (do
      let expr ← parse (text nodes)
      keep view expr records) := by
  rw [select, if_neg]
  exact fun blank => nonempty ((isBlankText_text_iff nodes).mp blank)

/-- With a predicate at hand, that is keeping. -/
theorem select_of_parse {expr : Expr} (nonempty : nodes ≠ []) (hparse : parse (text nodes) = .ok expr) :
    select view (text nodes) records = keep view expr records := by
  rw [select_text view records nonempty, bind_of_ok hparse]

/-- So is filtering by the tree. -/
theorem tryFilter_of_parse {expr : Expr} (nonempty : nodes ≠ []) (hparse : parse (text nodes) = .ok expr) :
    ((Filter.ofNodes nodes).tryFilter (select view) records).1 = keep view expr records := by
  have handed : ((Filter.ofNodes nodes).tryFilter (select view) records).1 = select view (text nodes) records := rfl
  rw [handed, select_of_parse view records nonempty hparse]

/-- A filter gives the records of its evaluator, and nothing where the evaluator fails. -/
theorem filter_getD {ε : Type} (evaluate : Evaluator ε α) (filter : Filter) :
    (filter.filter evaluate records).1 = (filter.tryFilter evaluate records).1.toOption.getD [] := by
  simp only [Filter.filter, Filter.filterM, Filter.tryFilter, Filter.tryFilterM, pure_bind]
  cases evaluate filter.predicate.1 records with
  | error fault => rfl
  | ok kept => rfl

/-- A filter fails closed. The text of a tree with a node is never blank. Without a node, a filter gives every
    record unseen; with one, it gives nothing when the text is no predicate or some record fails, and else the
    records with a true verdict, in their order. -/
theorem filter_fails_closed (nodes : List Node) :
    let kept := ((Filter.ofNodes nodes).filter (select view) records).1
    (nodes ≠ [] → ∃ c ∈ (text nodes).toList, Text.isBlank c = false) ∧
      (Text.isBlankText (text nodes).toList = true ↔ nodes = []) ∧
      (nodes = [] → kept = records) ∧
      (nodes ≠ [] →
        (∀ fault, parse (text nodes) = .error fault → kept = []) ∧
        ∀ expr, parse (text nodes) = .ok expr →
          ((∃ record ∈ records, Fails view expr record) → kept = []) ∧
          ((∀ record ∈ records, ¬ Fails view expr record) → kept = records.filter (accepts view expr))) := by
  intro kept
  have hkept : kept = (select view (text nodes) records).toOption.getD [] := filter_getD records _ _
  refine ⟨(exists_visible_text_iff nodes).mpr, isBlankText_text_iff nodes, ?_, fun nonempty => ⟨?_, ?_⟩⟩
  · rintro rfl
    exact hkept
  · intro fault hparse
    rw [hkept, select_text view records nonempty, bind_error hparse]
    rfl
  · intro expr hparse
    rw [select_of_parse view records nonempty hparse] at hkept
    constructor
    · intro fails
      obtain ⟨fault, hfault⟩ := keep_of_fails fails
      rw [hkept, hfault]
      rfl
    · intro decided
      rw [hkept, keep_of_decided decided]
      rfl

/-- Without nodes, a filter gives a record that nobody can read: every predicate fails on it, and the text of
    the tree is none. -/
theorem empty_keeps_unreadable :
    let view : Unit → Except String Value := fun _ => .error "unreadable"
    ((Filter.ofNodes []).filter (select view) [()]).1 = [()] ∧ (∀ expr, Fails view expr ()) ∧
      ∃ fault, parse (text []) = .error fault :=
  ⟨rfl, fun _ => ⟨_, rfl⟩, ⟨_, rfl⟩⟩

end Filters

end Predicate

end FilterTree
