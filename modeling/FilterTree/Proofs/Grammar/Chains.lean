/-
Module: FilterTree.Proofs.Grammar.Chains
Layer: Proofs
Purpose: A disjunction of conjunctions as one run from left to right. While it reads, the parser holds the
  conjunction that it is in and the disjunction before that; an `&&` adds to the one, an `||` moves the one
  into the other, and anything else ends both.
Imports: FilterTree.Proofs.Grammar.Completeness
Main exports: attach, goOn, resume, orExpr_resume, goOn_both, goOn_either, goOn_end
-/
import FilterTree.Proofs.Grammar.Completeness

namespace FilterTree.Predicate

open Text (skipBlanks)

/-- An expression joined to what stands before it, if anything does. -/
def attach (join : Expr → Expr → Expr) : Option Expr → Expr → Expr
  | none, expr => expr
  | some before, expr => join before expr

variable {bound : Nat} {reader : Parser}

/-- Goes on behind a comparison, in the conjunction `held` behind the disjunction `before`. -/
def goOn (bound : Nat) (reader : Parser) (before : Option Expr) (held : Expr) : Parser := fun text => do
  let (conjunction, rest) ← chain .and ['&', '&'] (compareExpr reader) bound held text
  chain .or ['|', '|'] (andExpr bound reader) bound (attach .or before conjunction) rest

/-- Goes on in front of a comparison. -/
def resume (bound : Nat) (reader : Parser) (before held : Option Expr) : Parser := fun text => do
  let (compared, rest) ← compareExpr reader text
  goOn bound reader before (attach .and held compared) rest

/-- A disjunction is a run that holds nothing at first. -/
theorem orExpr_resume (text : List Char) : orExpr bound reader text = resume bound reader none none text := by
  rw [orExpr, andExpr, resume]
  cases compareExpr reader text with
  | error stop => rfl
  | ok pair => rfl

/-- What a chain gives does not depend on its bound, as long as no text is longer. -/
theorem chain_bound {derives : List Token → Expr → Prop} {operand : Parser} (sound : Sound derives operand)
    {join : Expr → Expr → Expr} {s : Char} {symbol : List Char} (one other : Nat) (left : Expr)
    (text : List Char) (hone : text.length ≤ one) (hother : text.length ≤ other) :
    chain join (s :: symbol) operand one left text = chain join (s :: symbol) operand other left text := by
  induction one generalizing other left text with
  | zero =>
      obtain rfl := List.length_eq_zero_iff.mp (Nat.le_zero.mp hone)
      cases other <;> rfl
  | succ one ih =>
      cases other with
      | zero =>
          obtain rfl := List.length_eq_zero_iff.mp (Nat.le_zero.mp hother)
          rfl
      | succ other =>
          rw [chain, chain]
          cases hsymbol : Text.stripPrefix? (s :: symbol) (skipBlanks text) with
          | none => rfl
          | some behind =>
              simp only
              cases hread : operand behind with
              | error stop => rfl
              | ok pair =>
                  obtain ⟨right, rest⟩ := pair
                  have hrest := sound.length_le hread
                  have hskip := Text.length_skipBlanks_le text
                  have htext := congrArg List.length (stripPrefix?_eq_some hsymbol)
                  simp only [List.length_append, List.length_cons] at htext
                  exact ih other (join left right) rest (by omega) (by omega)

section Steps

variable {levels : Nat} {before : Option Expr} {held : Expr} {text rest : List Char}

/-- An `&&` adds the comparison behind it to the conjunction that is held. -/
theorem goOn_both (sound : Sound (Grammar.Unary levels) reader) (hbound : text.length ≤ bound)
    (hskip : skipBlanks text = '&' :: '&' :: rest) :
    goOn bound reader before held text = resume bound reader before (some held) rest := by
  have hlength := Text.length_skipBlanks_le text
  rw [hskip] at hlength
  simp only [List.length_cons] at hlength
  cases bound with
  | zero => omega
  | succ bound =>
      have hsymbol : Text.stripPrefix? ['&', '&'] (skipBlanks text) = some rest := by rw [hskip]; rfl
      rw [goOn, chain, hsymbol, resume]
      simp only
      cases hread : compareExpr reader rest with
      | error stop => rfl
      | ok pair =>
          obtain ⟨right, last⟩ := pair
          have hlast := (compareExpr_sound sound).length_le hread
          show (chain .and ['&', '&'] (compareExpr reader) bound (.and held right) last >>= _) = _
          rw [chain_bound (compareExpr_sound sound) bound (bound + 1) _ last (by omega) (by omega)]
          rfl

/-- An `||` moves the conjunction that is held into the disjunction. -/
theorem goOn_either (sound : Sound (Grammar.Unary levels) reader) (hbound : text.length ≤ bound)
    (hskip : skipBlanks text = '|' :: '|' :: rest) :
    goOn bound reader before held text =
      resume bound reader (some (attach .or before held)) none rest := by
  have hlength := Text.length_skipBlanks_le text
  rw [hskip] at hlength
  simp only [List.length_cons] at hlength
  cases bound with
  | zero => omega
  | succ bound =>
      have hno : Text.stripPrefix? ['&', '&'] (skipBlanks text) = none := by rw [hskip]; rfl
      have hsymbol : Text.stripPrefix? ['|', '|'] (skipBlanks (skipBlanks text)) = some rest := by
        rw [Text.skipBlanks_skipBlanks, hskip]
        rfl
      have hchain : chain .and ['&', '&'] (compareExpr reader) (bound + 1) held text =
          .ok (held, skipBlanks text) := by
        rw [chain, hno]
      rw [goOn, hchain]
      show chain .or ['|', '|'] (andExpr (bound + 1) reader) (bound + 1) (attach .or before held)
        (skipBlanks text) = _
      rw [chain, hsymbol, resume]
      simp only
      rw [andExpr]
      cases hread : compareExpr reader rest with
      | error stop => rfl
      | ok pair =>
          obtain ⟨compared, last⟩ := pair
          have hlast := (compareExpr_sound sound).length_le hread
          show (chain .and ['&', '&'] (compareExpr reader) (bound + 1) compared last >>= _) =
            (chain .and ['&', '&'] (compareExpr reader) (bound + 1) compared last >>= _)
          cases hconjunction : chain .and ['&', '&'] (compareExpr reader) (bound + 1) compared last with
          | error stop => rfl
          | ok pair =>
              obtain ⟨conjunction, behind⟩ := pair
              have hboth : andExpr (bound + 1) reader rest = .ok (conjunction, behind) := by
                rw [andExpr, hread]
                exact hconjunction
              have hbehind := (andExpr_sound sound).length_le hboth
              exact chain_bound (andExpr_sound sound) bound (bound + 1) _ behind (by omega) (by omega)

/-- Where neither follows, the run is over. -/
theorem goOn_end (noBoth : Text.stripPrefix? ['&', '&'] (skipBlanks text) = none)
    (noEither : Text.stripPrefix? ['|', '|'] (skipBlanks text) = none) :
    ∃ last, goOn bound reader before held text = .ok (attach .or before held, last) ∧
      skipBlanks last = skipBlanks text := by
  cases bound with
  | zero => exact ⟨text, rfl, rfl⟩
  | succ bound =>
      have hchain : chain .and ['&', '&'] (compareExpr reader) (bound + 1) held text =
          .ok (held, skipBlanks text) := by
        rw [chain, noBoth]
      refine ⟨skipBlanks text, ?_, Text.skipBlanks_skipBlanks text⟩
      rw [goOn, hchain]
      show chain .or ['|', '|'] (andExpr (bound + 1) reader) (bound + 1) (attach .or before held)
        (skipBlanks text) = _
      rw [chain, Text.skipBlanks_skipBlanks, noEither]

end Steps

end FilterTree.Predicate
