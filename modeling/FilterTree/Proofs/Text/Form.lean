/-
Module: FilterTree.Proofs.Text.Form
Layer: Proofs
Purpose: Reading the form encoding. A plus is a space, a percent sign and two digits are a byte, and every other
  character is itself; the bytes of a part are then read as UTF-8. What the encoding writes of a text is read as
  that text, whatever its characters are. Neither mark that stands between parts is ever written inside one, so
  cutting at these marks finds the parts again.
Imports: FilterTree.Proofs.Text, FilterTree.Text.Form, FilterTree.Text.Digits
Main exports: Text.formBytes?, Text.formRead?, Text.formRead_formEncode, Text.readPairs?, Text.readPairs_formPairs
-/
import FilterTree.Proofs.Text
import FilterTree.Text.Form
import FilterTree.Text.Digits

namespace FilterTree.Text

/-! ### Bytes -/

/-- The byte of two hexadecimal digits. -/
def byte? (high low : Char) : Option UInt8 := do
  return UInt8.ofNat (16 * (← digit? 16 high) + (← digit? 16 low))

/-- The bytes that a part in the form encoding stands for. A percent sign without two hexadecimal digits is
    refused. -/
def formBytes? : List Char → Option (List UInt8)
  | [] => some []
  | '+' :: rest => (formBytes? rest).map (32 :: ·)
  | '%' :: high :: low :: rest => (byte? high low).bind fun byte => (formBytes? rest).map (byte :: ·)
  | '%' :: _ => none
  | c :: rest => (formBytes? rest).map (String.utf8EncodeChar c ++ ·)

/-- Each hexadecimal digit is read as its value, and stands for itself in the encoding. -/
theorem hexDigit_read : ∀ value < 16,
    digit? 16 (hexDigit value) = some value ∧ isFormSafe (hexDigit value) = true := by
  decide

theorem byte_hexDigits (byte : UInt8) :
    byte? (hexDigit (byte.toNat / 16)) (hexDigit (byte.toNat % 16)) = some byte := by
  have small : byte.toNat < 256 := byte.toNat_lt
  rw [byte?, (hexDigit_read (byte.toNat / 16) (by omega)).1, (hexDigit_read (byte.toNat % 16) (by omega)).1]
  have joined : UInt8.ofNat (16 * (byte.toNat / 16) + byte.toNat % 16) = byte := by
    rw [Nat.div_add_mod, UInt8.ofNat_toNat]
  exact congrArg some joined

theorem formBytes_percent (byte : UInt8) (rest : List Char) :
    formBytes? (percent byte ++ rest) = (formBytes? rest).map (byte :: ·) := by
  rw [percent, List.cons_append, List.cons_append, List.cons_append, List.nil_append, formBytes?, byte_hexDigits]
  rfl

theorem formBytes_percents (bytes : List UInt8) (rest : List Char) :
    formBytes? (bytes.flatMap percent ++ rest) = (formBytes? rest).map (bytes ++ ·) := by
  induction bytes with
  | nil => simp
  | cons byte bytes ih =>
      rw [List.flatMap_cons, List.append_assoc, formBytes_percent, ih, Option.map_map]
      rfl

/-- A character that stands for itself is neither of the two that do not. -/
theorem marks_not_safe {c : Char} (h : isFormSafe c = true) : c ≠ '%' ∧ c ≠ '+' := by
  constructor <;> rintro rfl <;> exact absurd h (by decide)

/-- One character is read as its bytes. -/
theorem formBytes_formEncodeChar (c : Char) (rest : List Char) :
    formBytes? (formEncodeChar c ++ rest) = (formBytes? rest).map (String.utf8EncodeChar c ++ ·) := by
  rw [formEncodeChar]
  split
  · next safe =>
      obtain ⟨noPercent, noPlus⟩ := marks_not_safe safe
      simp [formBytes?, noPercent]
  · split
    · next space =>
        subst space
        rfl
    · exact formBytes_percents _ rest

/-- A text is read as its bytes. -/
theorem formBytes_formEncode (text : List Char) :
    formBytes? (formEncode text) = some (text.flatMap String.utf8EncodeChar) := by
  induction text with
  | nil => rfl
  | cons c text ih =>
      rw [formEncode, List.flatMap_cons, formBytes_formEncodeChar, ← formEncode, ih]
      rfl

/-! ### Texts -/

/-- The text that a part in the form encoding stands for. Bytes that are no UTF-8 are refused. -/
def formRead? (part : List Char) : Option String := do
  String.fromUTF8? (← formBytes? part).toByteArray

/-- A string is read from the bytes of its characters. -/
theorem fromUTF8_utf8Encode (text : List Char) : String.fromUTF8? text.utf8Encode = some (String.ofList text) :=
  dif_pos ByteArray.isValidUTF8_utf8Encode

/-- Every text is read back from what the encoding writes of it. -/
theorem formRead_formEncode (text : List Char) : formRead? (formEncode text) = some (String.ofList text) := by
  rw [formRead?, formBytes_formEncode]
  exact fromUTF8_utf8Encode text

/-! ### Pairs -/

/-- A character in the encoding of a text stands for itself, or is one of two marks. -/
theorem mem_formEncode {text : List Char} {c : Char} (h : c ∈ formEncode text) :
    isFormSafe c = true ∨ c = '+' ∨ c = '%' := by
  rw [formEncode, List.mem_flatMap] at h
  obtain ⟨d, -, hd⟩ := h
  rw [formEncodeChar] at hd
  split at hd
  · next safe =>
      rw [List.mem_singleton] at hd
      exact .inl (hd ▸ safe)
  · split at hd
    · exact .inr (.inl (List.mem_singleton.mp hd))
    · obtain ⟨byte, -, hbyte⟩ := List.mem_flatMap.mp hd
      have small : byte.toNat < 256 := byte.toNat_lt
      rw [percent, List.mem_cons, List.mem_cons, List.mem_singleton] at hbyte
      rcases hbyte with rfl | rfl | rfl
      · exact .inr (.inr rfl)
      · exact .inl (hexDigit_read _ (by omega)).2
      · exact .inl (hexDigit_read _ (by omega)).2

/-- No part holds a mark that separates parts. -/
theorem separators_not_mem (text : List Char) : '&' ∉ formEncode text ∧ '=' ∉ formEncode text := by
  constructor <;> intro h <;> exact absurd (mem_formEncode h) (by decide)

/-- Reads a pair: one part in front of one equality sign, and one behind it. -/
def readPair? (pair : List Char) : Option (String × String) :=
  match splitOn '=' pair with
  | [name, value] => do return (← formRead? name, ← formRead? value)
  | _ => none

/-- Reads the pairs of a text, cut at every ampersand. The empty text has none. -/
def readPairs? (text : List Char) : Option (List (String × String)) :=
  if text = [] then some [] else (splitOn '&' text).mapM readPair?

/-- The encoding of one pair. -/
def formPair (pair : List Char × List Char) : List Char :=
  formEncode pair.1 ++ '=' :: formEncode pair.2

/-- A pair is read back. -/
theorem readPair_formPair (pair : List Char × List Char) :
    readPair? (formPair pair) = some (String.ofList pair.1, String.ofList pair.2) := by
  have parts : splitOn '=' (formPair pair) = [formEncode pair.1, formEncode pair.2] := by
    rw [formPair, splitOn_append (separators_not_mem pair.1).2, splitOn_none (separators_not_mem pair.2).2]
  rw [readPair?, parts]
  simp only [formRead_formEncode]
  rfl

/-- No pair holds the mark between pairs. -/
theorem ampersand_not_mem (pair : List Char × List Char) : '&' ∉ formPair pair := by
  rw [formPair, List.mem_append, List.mem_cons, not_or, not_or]
  exact ⟨(separators_not_mem pair.1).1, by decide, (separators_not_mem pair.2).1⟩

/-- Cut at the marks between them, one or more pairs fall into the encodings of each. -/
theorem splitOn_formPairs (first : List Char × List Char) (others : List (List Char × List Char)) :
    splitOn '&' (formPairs (first :: others)) = (first :: others).map formPair := by
  induction others generalizing first with
  | nil => exact splitOn_none (ampersand_not_mem first)
  | cons second others ih =>
      have joined : formPairs (first :: second :: others) =
          formPair first ++ '&' :: formPairs (second :: others) := by
        simp [formPairs, formPair]
      rw [joined, splitOn_append (ampersand_not_mem first), ih]
      rfl

/-- Pairs are read back one by one. -/
theorem mapM_readPair (pairs : List (List Char × List Char)) :
    (pairs.map formPair).mapM readPair? =
      some (pairs.map fun pair => (String.ofList pair.1, String.ofList pair.2)) := by
  induction pairs with
  | nil => rfl
  | cons pair pairs ih =>
      rw [List.map_cons, List.mapM_cons, readPair_formPair, ih]
      rfl

/-- Named values are read back from their encoding, in their order. -/
theorem readPairs_formPairs (pairs : List (List Char × List Char)) :
    readPairs? (formPairs pairs) = some (pairs.map fun pair => (String.ofList pair.1, String.ofList pair.2)) := by
  cases pairs with
  | nil => rfl
  | cons first others =>
      have filled : formPairs (first :: others) ≠ [] := by
        cases others <;> simp [formPairs]
      rw [readPairs?, if_neg filled, splitOn_formPairs, mapM_readPair]

end FilterTree.Text
