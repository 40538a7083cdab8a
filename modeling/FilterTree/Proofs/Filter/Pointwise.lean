/-
Module: FilterTree.Proofs.Filter.Pointwise
Layer: Proofs
Purpose: Selecting records by a predicate text looks at them one by one. A list may be cut anywhere: what is
  selected from the whole is what is selected from the two parts, one behind the other, and where records fail
  the first one gives the fault. A text that cannot be read is a fault before any record is looked at. Selecting
  from what was selected changes nothing.
Imports: FilterTree.Proofs.Filter.Selection
Main exports: Predicate.keep_append, Predicate.FailsFirst, Predicate.keep_eq_error_iff, Predicate.select_cases,
  Predicate.select_pointwise
-/
import FilterTree.Proofs.Filter.Selection

namespace FilterTree.Predicate

variable {α : Type} {view : α → Except String Value} {expr : Expr} {text : String}

/-! ### Records one by one -/

/-- Keeping goes over a list that is cut anywhere. -/
theorem keep_append (first second : List α) : keep view expr (first ++ second) = (do
    let kept ← keep view expr first
    let others ← keep view expr second
    .ok (kept ++ others)) := by
  induction first with
  | nil =>
      rw [List.nil_append, keep]
      cases keep view expr second with
      | error fault => rfl
      | ok others => rfl
  | cons record first ih =>
      rw [List.cons_append, keep_cons, keep_cons, ih]
      cases outcome view expr record with
      | error fault => rfl
      | ok matched =>
          cases keep view expr first with
          | error fault => rfl
          | ok kept =>
              cases keep view expr second with
              | error fault => rfl
              | ok others => cases matched <;> rfl

variable (view expr) in
/-- A fault is that of the first record that has one. -/
def FailsFirst (records : List α) (fault : Fault) : Prop :=
  ∃ front record back, records = front ++ record :: back ∧ (∀ other ∈ front, ¬ Fails view expr other) ∧
    outcome view expr record = .error fault

/-- The fault of a list is that of its first failing record. -/
theorem keep_eq_error_iff {records : List α} {fault : Fault} :
    keep view expr records = .error fault ↔ FailsFirst view expr records fault := by
  constructor
  · intro failed
    induction records with
    | nil => cases failed
    | cons record rest ih =>
        cases houtcome : outcome view expr record with
        | error other =>
            rw [keep_cons, bind_error houtcome] at failed
            cases failed
            exact ⟨[], record, rest, rfl, List.forall_mem_nil _, houtcome⟩
        | ok matched =>
            have passes : ¬ Fails view expr record := by
              rintro ⟨other, hother⟩
              rw [houtcome] at hother
              cases hother
            have behind : keep view expr rest = .error fault := by
              rw [keep_cons, bind_of_ok houtcome] at failed
              cases hrest : keep view expr rest with
              | error other =>
                  rw [bind_error hrest] at failed
                  exact failed
              | ok others =>
                  rw [bind_of_ok hrest] at failed
                  cases failed
            obtain ⟨front, failing, back, rfl, earlier, hfault⟩ := ih behind
            exact ⟨record :: front, failing, back, rfl, List.forall_mem_cons.mpr ⟨passes, earlier⟩, hfault⟩
  · rintro ⟨front, record, back, rfl, earlier, hfault⟩
    rw [keep_append, bind_of_ok (keep_of_decided earlier), keep_cons, bind_error hfault]
    rfl

/-- What is kept is kept again. -/
theorem keep_kept {records kept : List α} (h : keep view expr records = .ok kept) :
    keep view expr kept = .ok kept := by
  obtain ⟨decided, rfl⟩ := keep_eq_ok_iff.mp h
  refine keep_eq_ok_iff.mpr ⟨fun record hmem => decided record (List.mem_filter.mp hmem).1, ?_⟩
  exact List.filter_eq_self.mpr fun record hmem => (List.mem_filter.mp hmem).2

/-! ### Texts -/

variable (view)

/-- A blank text selects every record. -/
theorem select_blank (blank : Text.isBlankText text.toList = true) (records : List α) :
    select view text records = .ok records := by
  rw [select, if_pos blank]

/-- Any other text is read before a record is looked at. -/
theorem select_visible (visible : Text.isBlankText text.toList = false) (records : List α) :
    select view text records = (do
      let expr ← parse text
      keep view expr records) := by
  rw [select, visible, if_neg Bool.false_ne_true]

variable (text) in
/-- A text selects everything, or always fails in one way, or selects what a predicate keeps. -/
theorem select_cases : (∀ records, select view text records = .ok records) ∨
    (∃ fault, ∀ records, select view text records = .error fault) ∨
    ∃ expr, ∀ records, select view text records = keep view expr records := by
  cases hblank : Text.isBlankText text.toList with
  | true => exact .inl (select_blank view hblank)
  | false =>
      cases hparse : parse text with
      | error fault =>
          exact .inr (.inl ⟨fault, fun records => by rw [select_visible view hblank, bind_error hparse]⟩)
      | ok expr =>
          exact .inr (.inr ⟨expr, fun records => by rw [select_visible view hblank, bind_of_ok hparse]⟩)

variable (text) in
/-- Selecting by a predicate text is a pointwise filter that keeps the order. From a list that is cut in two it
    selects what it selects from the first part and then from the second, up to the first fault. A blank text
    selects everything; a text that cannot be read fails on every list, also on the empty one; a predicate fails
    as the first record on which it does, and else selects the records of which it is true, as often as they are
    there. From what it has selected it selects all. -/
theorem select_pointwise :
    (∀ first second, select view text (first ++ second) = (do
      let kept ← select view text first
      let others ← select view text second
      .ok (kept ++ others))) ∧
    (Text.isBlankText text.toList = true → ∀ records, select view text records = .ok records) ∧
    (Text.isBlankText text.toList = false →
      (∀ fault, parse text = .error fault → ∀ records, select view text records = .error fault) ∧
      ∀ expr, parse text = .ok expr → ∀ records,
        (∀ fault, select view text records = .error fault ↔ FailsFirst view expr records fault) ∧
        ∀ kept, select view text records = .ok kept ↔
          (∀ record ∈ records, ¬ Fails view expr record) ∧ records.filter (accepts view expr) = kept) ∧
    ∀ records kept, select view text records = .ok kept → select view text kept = .ok kept := by
  refine ⟨fun first second => ?_, select_blank view, fun visible => ⟨fun fault hparse records => ?_,
    fun expr hparse records => ?_⟩, fun records kept selected => ?_⟩
  · rcases select_cases view text with all | ⟨fault, failed⟩ | ⟨expr, keeps⟩
    · simp only [all]
      rfl
    · simp only [failed]
      rfl
    · simp only [keeps, keep_append]
  · rw [select_visible view visible, bind_error hparse]
  · rw [select_visible view visible, bind_of_ok hparse]
    exact ⟨fun _ => keep_eq_error_iff, fun _ => keep_eq_ok_iff⟩
  · rcases select_cases view text with all | ⟨fault, failed⟩ | ⟨expr, keeps⟩
    · exact all kept
    · rw [failed] at selected
      cases selected
    · rw [keeps] at selected ⊢
      exact keep_kept selected

end FilterTree.Predicate
