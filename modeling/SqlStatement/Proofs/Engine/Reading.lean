import Mathlib.Data.List.DropRight
import SqlStatement.Engine.Statement
import SqlStatement.Proofs.Engine.Tokens
import SqlStatement.Text.Blank

/-!
# Reading a selection of markers

A text that selects indexed markers is one statement, without white space at its ends
(`trim_selection`) and without a semicolon (`split_selection`). It is read as the selection of these
variables, and a column is named by its marker (`ofTokens_selection`).
-/

namespace SqlStatement

/-! ## Readers -/

namespace TokenReader

variable {α β : Type}

theorem bind_of_some {reader : TokenReader α} {tokens rest : List Token} {a : α}
    (h : reader tokens = some (a, rest)) (f : α → TokenReader β) :
    (reader >>= f) tokens = f a rest := by
  show (reader tokens).bind _ = _
  rw [h]
  rfl

theorem seqRight_of_some {first : TokenReader α} {tokens rest : List Token} {a : α}
    (h : first tokens = some (a, rest)) (second : TokenReader β) :
    (first *> second) tokens = second rest := by
  show (first tokens).bind _ = _
  rw [h]
  rfl

theorem optional_of_none {reader : TokenReader α} {tokens : List Token}
    (h : reader tokens = none) : optional reader tokens = some (none, tokens) := by
  show (((reader tokens).bind fun read => some (some read.1, read.2)) <|> some (none, tokens)) = _
  rw [h]
  rfl

/-- A repetition takes all parts that the tokens are made of, one after the other. -/
theorem manyUpTo_flatMap {reader : TokenReader α} {part : β → List Token} {value : β → α}
    (hend : reader [] = none)
    (hparts : ∀ (b : β) (bs : List β),
      reader (part b ++ bs.flatMap part) = some (value b, bs.flatMap part))
    (bs : List β) {count : Nat} (hcount : bs.length ≤ count) :
    manyUpTo reader count (bs.flatMap part) = some (bs.map value, []) := by
  induction bs generalizing count with
  | nil =>
    cases count with
    | zero => rfl
    | succ count => simp [manyUpTo, hend]
  | cons b bs ih =>
    cases count with
    | zero => simp at hcount
    | succ count =>
      have hmore := @ih count (by simpa using hcount)
      simp [manyUpTo, hparts, hmore]

end TokenReader

/-! ## The ends of the text -/

theorem Text.whiteSpace_of_isDigit {c : Char} (h : c.isDigit = true) :
    whiteSpace.contains c = false := by
  have hrange : 0x30 ≤ c.toNat ∧ c.toNat ≤ 0x39 := by
    simpa [Char.isDigit, UInt32.le_iff_toNat_le] using h
  simp [whiteSpace, CodePointRanges.contains]
  omega

namespace Token

theorem continuesBlank_of_isDigit {c : Char} (h : c.isDigit = true) : continuesBlank c = false := by
  have hne : ∀ d : Char, d.isDigit = false → c ≠ d := fun d hd => ne_of_isDigit h hd
  simp [continuesBlank, startsBlank, hne ' ' rfl, hne '\t' rfl, hne '\n' rfl, hne '\x0c' rfl,
    hne '\r' rfl, hne '\x0b' rfl]

theorem last_marker (index : Nat) (hne : (Clause.marker index).toList ≠ []) :
    ((Clause.marker index).toList.getLast hne).isDigit = true := by
  simp only [toList_marker, List.getLast_cons Nat.toDigits_ne_nil]
  exact isDigit_of_mem_toDigits (List.getLast_mem _)

/-- A list of markers ends with a digit. -/
theorem last_markers (index : Nat) (indices : List Nat)
    (hne : (Clause.marker index).toList ++ furtherText indices ≠ []) :
    (((Clause.marker index).toList ++ furtherText indices).getLast hne).isDigit = true := by
  induction indices generalizing index with
  | nil =>
    simp only [furtherText, List.flatMap_nil, List.append_nil]
    exact last_marker index _
  | cons next indices ih =>
    have hnext : (Clause.marker next).toList ++ furtherText indices ≠ [] := by
      simp [toList_marker]
    simp only [furtherText_cons]
    rw [List.getLast_append_of_ne_nil _ (by simp), List.getLast_append_of_ne_nil _ hnext]
    exact ih next hnext

end Token

theorem Text.trim_selection (index : Nat) (indices : List Nat) :
    trim (Clause.select ((index :: indices).map Clause.marker)).text =
      (Clause.select ((index :: indices).map Clause.marker)).text := by
  have hne : (Clause.marker index).toList ++ Token.furtherText indices ≠ [] := by
    simp [Token.toList_marker]
  have hfirst : ¬whiteSpace.contains 'S' = true := by decide
  show String.ofList (List.rdropWhile _ (List.dropWhile _ _)) = _
  rw [← String.toList_inj, String.toList_ofList, Token.toList_select_markers,
    List.dropWhile_eq_self_iff.mpr (fun _ => hfirst), List.rdropWhile_eq_self_iff]
  intro _
  rw [List.getLast_append_of_ne_nil _ hne]
  simp [whiteSpace_of_isDigit (Token.last_markers index indices hne)]

theorem nul_not_mem_selection (index : Nat) (indices : List Nat) :
    '\x00' ∉ (Clause.select ((index :: indices).map Clause.marker)).text.toList := by
  have hdigits : ∀ n, '\x00' ∉ Nat.toDigits 10 n := fun n hmem =>
    absurd (isDigit_of_mem_toDigits hmem) (by decide)
  rw [Token.toList_select_markers]
  simp [Token.furtherText, Token.toList_marker, hdigits]

namespace Statement

open TokenReader

/-! ## The columns -/

def markerColumn (index : Nat) : ResultColumn := ⟨.parameter (.indexed index), Clause.marker index⟩

theorem written_marker (index : Nat) : written [Token.marker index] = Clause.marker index := by
  have hkept : (Clause.marker index).toList.rdropWhile Token.continuesBlank =
      (Clause.marker index).toList := by
    rw [List.rdropWhile_eq_self_iff]
    intro hne
    simp [Token.continuesBlank_of_isDigit (Token.last_marker index hne)]
  have htext : [Token.marker index].flatMap (fun token => token.written ++ token.gap) =
      (Clause.marker index).toList := by simp [Token.marker]
  show String.ofList (List.rdropWhile Token.continuesBlank _) = _
  rw [htext, hkept, String.ofList_toList]

theorem resultColumn_marker (index : Nat) (indices : List Nat) :
    resultColumn (Token.marker index :: Token.further indices) =
      some (markerColumn index, Token.further indices) := by
  have hoperand : operand (Token.marker index :: Token.further indices) =
      some (.parameter (.indexed index), Token.further indices) := rfl
  have hname : columnName (Token.further indices) = none := by
    cases indices with
    | nil => rfl
    | cons next indices => rfl
  have hlength : (Token.marker index :: Token.further indices).length -
      (Token.further indices).length = 1 := by simp
  rw [resultColumn, bind_of_some (a := Token.marker index :: Token.further indices) rfl,
    bind_of_some hoperand, bind_of_some (a := Token.further indices) rfl,
    bind_of_some (optional_of_none hname), hlength]
  show some (ResultColumn.mk _ (written [Token.marker index]), _) = _
  rw [written_marker]
  rfl

theorem listOf_resultColumn (index : Nat) (indices : List Nat) :
    listOf resultColumn (Token.marker index :: Token.further indices) =
      some ((index :: indices).map markerColumn, []) := by
  have hparts : ∀ (next : Nat) (others : List Nat),
      (symbol "," *> resultColumn) ([Token.comma, Token.marker next] ++ Token.further others) =
        some (markerColumn next, Token.further others) := by
    intro next others
    have hcomma : symbol "," (Token.comma :: Token.marker next :: Token.further others) =
        some ((), Token.marker next :: Token.further others) := rfl
    exact (seqRight_of_some hcomma _).trans (resultColumn_marker next others)
  have hlength : indices.length ≤ (Token.further indices).length := by
    simp [Token.further]
    omega
  have hothers : many (symbol "," *> resultColumn) (Token.further indices) =
      some (indices.map markerColumn, []) := manyUpTo_flatMap rfl hparts indices hlength
  rw [listOf, bind_of_some (resultColumn_marker index indices), bind_of_some hothers]
  rfl

def markerSelection (indices : List Nat) : Selection := { columns := indices.map markerColumn }

theorem ofTokens_selection (index : Nat) (indices : List Nat) :
    ofTokens (Token.select :: Token.marker index :: Token.further indices) =
      .ok (.select (markerSelection (index :: indices))) := by
  have hkeyword : keyword "SELECT" (Token.select :: Token.marker index :: Token.further indices) =
      some ((), Token.marker index :: Token.further indices) := by
    have hword : Token.select.isKeyword "SELECT" = true := by decide +kernel
    simp [keyword, next, hword]
  have hplain : optional (keywordOf ["ALL", "DISTINCT"])
      (Token.marker index :: Token.further indices) =
        some (none, Token.marker index :: Token.further indices) := optional_of_none rfl
  have hselection : selection (Token.select :: Token.marker index :: Token.further indices) =
      some (markerSelection (index :: indices), []) := by
    rw [selection, bind_of_some ((seqRight_of_some hkeyword _).trans hplain),
      bind_of_some (listOf_resultColumn index indices)]
    rfl
  have hstatement : statement (Token.select :: Token.marker index :: Token.further indices) =
      some (.select (markerSelection (index :: indices)), []) := by
    show (((selection _).bind fun read => some (Statement.select read.1, read.2)) <|> _) = _
    rw [hselection]
    rfl
  rw [ofTokens, readAll, hstatement]

/-- Without a token that separates, there is one part. -/
theorem splitBy_of_all_not {p : Token → Bool} {tokens : List Token}
    (h : ∀ token ∈ tokens, p token = false) : splitBy p tokens = [tokens] := by
  induction tokens with
  | nil => rfl
  | cons token rest ih =>
    have hrest := ih fun token htoken => h token (by simp [htoken])
    simp [splitBy, h token (by simp), hrest]

theorem split_selection (index : Nat) (indices : List Nat) :
    split (Clause.select ((index :: indices).map Clause.marker)).text =
      [Token.select :: Token.marker index :: Token.further indices] := by
  have hall : ∀ token ∈ Token.select :: Token.marker index :: Token.further indices,
      (decide (token.kind = .symbol ";")) = false := by
    intro token htoken
    simp only [Token.further, List.mem_cons, List.mem_flatMap, List.not_mem_nil, or_false] at htoken
    obtain rfl | rfl | ⟨next, -, rfl | rfl⟩ := htoken
    · decide
    · rfl
    · decide
    · rfl
  rw [split, Token.read_selection, splitBy_of_all_not hall]
  rfl

end Statement

end SqlStatement
