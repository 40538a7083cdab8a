/-
Module: FilterTree.Proofs.Filter.Conjunction
Layer: Proofs
Purpose: Filtering by two groups with an `&&` between them is filtering by the first and then by the second.
  On one record the right side of an `&&` is looked at only where the left one is true, and those are the
  records that the first filter hands on. So the two ways keep the same records, and one of them fails where
  the other does, though perhaps at another record.
Imports: FilterTree.Proofs.Tree.RoundTrip, FilterTree.Proofs.Filter.Selection, FilterTree.Proofs.Verdict.Chains
Main exports: Predicate.accepts_and, Predicate.fails_and_iff, Predicate.keep_and_eq_ok_iff,
  Predicate.filter_conjunction
-/
import FilterTree.Proofs.Tree.RoundTrip
import FilterTree.Proofs.Filter.Selection
import FilterTree.Proofs.Verdict.Chains

namespace FilterTree.Predicate

/-! ### An `&&` on records -/

section Records

variable {α : Type} (view : α → Except String Value) (left right : Expr)

/-- The right side decides where the left one is true, and nothing else is looked at. -/
theorem outcome_and (record : α) : outcome view (.and left right) record = (do
    let first ← outcome view left record
    if first then outcome view right record else .ok false) := by
  rw [outcome, outcome, outcome]
  cases (view record).mapError Fault.unreadableRecord with
  | error fault => rfl
  | ok value => exact verdict_and value left right

/-- An `&&` is true of the records that both sides are true of. -/
theorem accepts_and (record : α) : accepts view (.and left right) record =
    (accepts view left record && accepts view right record) := by
  rw [accepts, accepts, outcome_and]
  cases outcome view left record with
  | error fault => rfl
  | ok first =>
      cases first with
      | false => rfl
      | true => rfl

/-- An `&&` fails where its left side does, and where its right side does behind a true left side. -/
theorem fails_and_iff (record : α) : Fails view (.and left right) record ↔
    Fails view left record ∨ accepts view left record = true ∧ Fails view right record := by
  rw [Fails, Fails, accepts, outcome_and]
  cases outcome view left record with
  | error fault => exact ⟨fun _ => .inl ⟨fault, rfl⟩, fun _ => ⟨fault, rfl⟩⟩
  | ok first =>
      cases first with
      | false => simp [bind, Except.bind]
      | true => simp [bind, Except.bind, Fails]

/-- Keeping by an `&&` is keeping by its left side and then, of what that gives, by its right side. -/
theorem keep_and_eq_ok_iff (records kept : List α) : keep view (.and left right) records = .ok kept ↔
    ∃ first, keep view left records = .ok first ∧ keep view right first = .ok kept := by
  have filters : records.filter (accepts view (.and left right)) =
      (records.filter (accepts view left)).filter (accepts view right) := by
    rw [List.filter_filter]
    refine List.filter_congr fun record _ => ?_
    rw [accepts_and, Bool.and_comm]
  have decided : (∀ record ∈ records, ¬ Fails view (.and left right) record) ↔
      (∀ record ∈ records, ¬ Fails view left record) ∧
        ∀ record ∈ records.filter (accepts view left), ¬ Fails view right record := by
    simp only [fails_and_iff, not_or, not_and, List.mem_filter, and_imp]
    exact ⟨fun h => ⟨fun record hmem => (h record hmem).1, fun record hmem => (h record hmem).2⟩,
      fun h record hmem => ⟨h.1 record hmem, h.2 record hmem⟩⟩
  simp only [keep_eq_ok_iff, filters, decided]
  constructor
  · rintro ⟨⟨hleft, hright⟩, hkept⟩
    exact ⟨_, ⟨hleft, rfl⟩, hright, hkept⟩
  · rintro ⟨first, ⟨hleft, rfl⟩, hright, hkept⟩
    exact ⟨⟨hleft, hright⟩, hkept⟩

/-- Keeping by an `&&` fails where keeping by the left side does, or by the right side of what the left one
    gives. -/
theorem keep_and_eq_error_iff (records : List α) :
    (∃ fault, keep view (.and left right) records = .error fault) ↔
      (∃ fault, keep view left records = .error fault) ∨
      ∃ first, keep view left records = .ok first ∧ ∃ fault, keep view right first = .error fault := by
  constructor
  · rintro ⟨fault, hfault⟩
    cases hleft : keep view left records with
    | error fault => exact .inl ⟨fault, rfl⟩
    | ok first =>
        cases hright : keep view right first with
        | error fault => exact .inr ⟨first, rfl, fault, hright⟩
        | ok kept =>
            have hboth := (keep_and_eq_ok_iff view left right records kept).mpr ⟨first, hleft, hright⟩
            rw [hfault] at hboth
            cases hboth
  · intro staged
    cases hboth : keep view (.and left right) records with
    | error fault => exact ⟨fault, rfl⟩
    | ok kept =>
        obtain ⟨first, hleft, hright⟩ := (keep_and_eq_ok_iff view left right records kept).mp hboth
        rcases staged with ⟨fault, hfault⟩ | ⟨other, hother, fault, hfault⟩
        · rw [hleft] at hfault
          cases hfault
        · rw [hleft] at hother
          cases hother
          rw [hright] at hfault
          cases hfault

/-- What is kept by an `&&`, or nothing where that fails, is what the two sides keep one after the other. -/
theorem keep_and_getD (records : List α) :
    (keep view (.and left right) records).toOption.getD [] =
      (keep view right ((keep view left records).toOption.getD [])).toOption.getD [] := by
  cases hboth : keep view (.and left right) records with
  | ok kept =>
      obtain ⟨first, hleft, hright⟩ := (keep_and_eq_ok_iff view left right records kept).mp hboth
      rw [hleft, Except.toOption, Except.toOption, Option.getD_some, Option.getD_some, hright]
      rfl
  | error fault =>
      rcases (keep_and_eq_error_iff view left right records).mp ⟨fault, hboth⟩ with
        ⟨other, hleft⟩ | ⟨first, hleft, other, hright⟩
      · rw [hleft]
        rfl
      · rw [hleft, Except.toOption, Except.toOption, Option.getD_none, Option.getD_some, hright]
        rfl

end Records

/-! ### Two groups -/

section Groups

variable {first second : List Node} {own other label : Label} (cleanFirst : Clean first)
  (cleanSecond : Clean second) (readsFirst : ∃ expr, parse (text [.group own first]) = .ok expr)
  (readsSecond : ∃ expr, parse (text [.group other second]) = .ok expr)

include cleanFirst readsFirst

/-- What a group holds reads as what it means, and is something. -/
theorem parse_held : first ≠ [] ∧ parse (text first) = .ok (meaning first) := by
  obtain ⟨expr, hexpr⟩ := readsFirst
  obtain ⟨ordered, enough⟩ := ordered_of_parse_group cleanFirst hexpr
  constructor
  · rintro rfl
    exact (isSequence_iff_runs.mp ordered.1).elim
  · exact parse_meaning cleanFirst ordered (by omega)

include cleanSecond readsSecond

/-- Two groups with an `&&` between them read as an `&&` between what they mean. -/
theorem parse_both : parse (text [.group own first, .connective label .and, .group other second]) =
    .ok (.and (meaning first) (meaning second)) := by
  obtain ⟨_, hfirst⟩ := readsFirst
  obtain ⟨_, hsecond⟩ := readsSecond
  obtain ⟨orderedFirst, enoughFirst⟩ := ordered_of_parse_group cleanFirst hfirst
  obtain ⟨orderedSecond, enoughSecond⟩ := ordered_of_parse_group cleanSecond hsecond
  let both : List Node := [.group own first, .connective label .and, .group other second]
  have clean : Clean both := ⟨cleanFirst, trivial, cleanSecond, trivial⟩
  have ordered : Ordered both :=
    ⟨.join .operand (.inl rfl) (.last .operand), orderedFirst, trivial, orderedSecond, trivial⟩
  have enough : levels both ≤ maxLevels := by
    have most : levels both = max (0 + (1 + levels first)) (max (0 + (1 + levels second)) 0) := rfl
    omega
  exact parse_meaning clean ordered enough

/-- Filtering by a conjunction is filtering twice. Two clean groups that read as expressions, with an `&&`
    between them, give the records that the second gives of those that the first gives, in the same order and
    as often; and they fail exactly where one of the two stages does. -/
theorem filter_conjunction {α : Type} (view : α → Except String Value) (records : List α) :
    let both : List Node := [.group own first, .connective label .and, .group other second]
    let firstKept := ((Filter.ofNodes first).filter (select view) records).1
    ((Filter.ofNodes both).filter (select view) records).1 =
        ((Filter.ofNodes second).filter (select view) firstKept).1 ∧
      ((∃ fault, ((Filter.ofNodes both).tryFilter (select view) records).1 = .error fault) ↔
        (∃ fault, ((Filter.ofNodes first).tryFilter (select view) records).1 = .error fault) ∨
        ∃ kept, ((Filter.ofNodes first).tryFilter (select view) records).1 = .ok kept ∧
          ∃ fault, ((Filter.ofNodes second).tryFilter (select view) kept).1 = .error fault) := by
  intro both firstKept
  obtain ⟨filledFirst, hfirst⟩ := parse_held cleanFirst readsFirst
  obtain ⟨filledSecond, hsecond⟩ := parse_held cleanSecond readsSecond
  have hboth : parse (text both) = .ok (.and (meaning first) (meaning second)) :=
    parse_both cleanFirst cleanSecond readsFirst readsSecond
  have tryBoth : ((Filter.ofNodes both).tryFilter (select view) records).1 =
      keep view (.and (meaning first) (meaning second)) records :=
    select_of_parse view records (List.cons_ne_nil _ _) hboth
  have tryFirst : ((Filter.ofNodes first).tryFilter (select view) records).1 =
      keep view (meaning first) records :=
    select_of_parse view records filledFirst hfirst
  have trySecond : ∀ kept, ((Filter.ofNodes second).tryFilter (select view) kept).1 =
      keep view (meaning second) kept :=
    fun kept => select_of_parse view kept filledSecond hsecond
  constructor
  · simp only [firstKept, filter_getD, tryBoth, tryFirst, trySecond]
    exact keep_and_getD view (meaning first) (meaning second) records
  · simp only [tryBoth, tryFirst, trySecond]
    exact keep_and_eq_error_iff view (meaning first) (meaning second) records

end Groups

/-- The second of two groups cannot decide a name that is no text, but the first one does not let that record
    through. -/
theorem filter_conjunction_of_active :
    let first : List Node := [.comparison ⟨"c", some "g"⟩ ⟨"active", .equals, .bool true⟩]
    let second : List Node := [.comparison ⟨"d", some "h"⟩ ⟨"name", .startsWith, .text "a"⟩]
    let both : List Node := [.group ⟨"g", none⟩ first, .connective ⟨"n", none⟩ .and, .group ⟨"h", none⟩ second]
    let records : List Value := [.map [(.text "active", .bool true), (.text "name", .text "Ann")],
      .map [(.text "active", .bool false), (.text "name", .int 5)]]
    (Clean first ∧ Clean second) ∧
      ((∃ expr, parse (text [.group ⟨"g", none⟩ first]) = .ok expr) ∧
        ∃ expr, parse (text [.group ⟨"h", none⟩ second]) = .ok expr) ∧
      ((Filter.ofNodes both).filter (select .ok) records).1 =
        ((Filter.ofNodes second).filter (select .ok) ((Filter.ofNodes first).filter (select .ok) records).1).1 := by
  intro first second both records
  have active : IsPath ['a', 'c', 't', 'i', 'v', 'e'] := .last (by decide)
  have name : IsPath ['n', 'a', 'm', 'e'] := .last (by decide)
  have cleanFirst : Clean first := ⟨⟨active, fun _ _ h => nomatch h⟩, trivial⟩
  have cleanSecond : Clean second := ⟨⟨name, fun _ _ h => nomatch h⟩, trivial⟩
  have readsFirst : ∃ expr, parse (text [.group ⟨"g", none⟩ first]) = .ok expr :=
    ⟨_, @parse_meaning [.group ⟨"g", none⟩ first] ⟨cleanFirst, trivial⟩
      ⟨.last .operand, ⟨.last .operand, trivial, trivial⟩, trivial⟩ (by decide)⟩
  have readsSecond : ∃ expr, parse (text [.group ⟨"h", none⟩ second]) = .ok expr :=
    ⟨_, @parse_meaning [.group ⟨"h", none⟩ second] ⟨cleanSecond, trivial⟩
      ⟨.last .operand, ⟨.last .operand, trivial, trivial⟩, trivial⟩ (by decide)⟩
  exact ⟨⟨cleanFirst, cleanSecond⟩, ⟨readsFirst, readsSecond⟩,
    (filter_conjunction cleanFirst cleanSecond readsFirst readsSecond .ok records).1⟩

end FilterTree.Predicate
