import Mathlib.Data.List.Infix
import Mathlib.Data.List.TakeWhile

/-!
# Lexemes

A statement falls into lexemes, from left to right: runs in quotes, runs that go to the first end
mark behind their opening, written markers, bare markers, and single characters. `Lexeme.Fits` says
what a whole lexeme is, given what follows it, and `Splits` that a text falls into these lexemes.
Nothing here knows of a scanner.

`lexemes` computes the lexemes of a text. Main statement, `splits_iff`: every text falls into
lexemes in exactly one way.
-/

namespace SqlStatement

/-- Runs that go to the first end mark behind their opening. -/
inductive Enclosure where
  | brackets
  | lineComment
  | blockComment
  deriving DecidableEq, Repr

namespace Enclosure

def opening : Enclosure → List Char
  | .brackets => ['[']
  | .lineComment => ['-', '-']
  | .blockComment => ['/', '*']

def endMark : Enclosure → List Char
  | .brackets => [']']
  | .lineComment => ['\n']
  | .blockComment => ['*', '/']

def opened? (c : Char) (rest : List Char) : Option Enclosure :=
  if c = '[' then some .brackets
  else if c = '-' ∧ rest.head? = some '-' then some .lineComment
  else if c = '/' ∧ rest.head? = some '*' then some .blockComment
  else none

theorem opening_ne_nil (kind : Enclosure) : kind.opening ≠ [] := by
  cases kind <;> simp [opening]

theorem endMark_ne_nil (kind : Enclosure) : kind.endMark ≠ [] := by
  cases kind <;> simp [endMark]

theorem opening_prefix_iff (kind : Enclosure) (c : Char) (rest : List Char) :
    kind.opening <+: c :: rest ↔
      match kind with
      | .brackets => c = '['
      | .lineComment => c = '-' ∧ rest.head? = some '-'
      | .blockComment => c = '/' ∧ rest.head? = some '*' := by
  cases kind <;> cases rest <;> simp [opening, eq_comm]

theorem opened?_eq_some_iff {c : Char} {rest : List Char} {kind : Enclosure} :
    opened? c rest = some kind ↔ kind.opening <+: c :: rest := by
  rw [opening_prefix_iff, opened?]
  split
  · rename_i hc
    cases kind <;> simp [hc]
  · split
    · rename_i hdash
      cases kind <;> simp [hdash]
    · split
      · rename_i hslash
        cases kind <;> simp [hslash]
      · cases kind <;> simp_all

end Enclosure

/-- A character that opens a run in which it stands only doubled. -/
def isQuote (c : Char) : Bool := c = '\'' || c = '"' || c = '\x60'

def startsWithDigit (text : List Char) : Bool := text.head?.any Char.isDigit

/-- A piece of a statement. A run has an end or goes on to the end of the text. -/
inductive Lexeme where
  | quoted (quote : Char) (body : List Char) (ended : Bool)
  | enclosed (kind : Enclosure) (body : List Char) (ended : Bool)
  /-- A marker with its index. -/
  | written (sign : Char) (digits : List Char)
  | bare
  | other (c : Char)
  deriving DecidableEq, Repr

/-- In this text the quote stands only doubled. -/
inductive Doubled (quote : Char) : List Char → Prop
  | nil : Doubled quote []
  | other {c : Char} {text : List Char} :
      c ≠ quote → Doubled quote text → Doubled quote (c :: text)
  | pair {text : List Char} : Doubled quote text → Doubled quote (quote :: quote :: text)

namespace Lexeme

def text : Lexeme → List Char
  | .quoted quote body ended => quote :: body ++ if ended then [quote] else []
  | .enclosed kind body ended => kind.opening ++ body ++ if ended then kind.endMark else []
  | .written sign digits => sign :: digits
  | .bare => ['?']
  | .other c => [c]

/-- Where `rest` follows, this is a whole lexeme. -/
inductive Fits : Lexeme → List Char → Prop
  /-- A run goes to the first quote that is not doubled. -/
  | quoted {quote : Char} {body rest : List Char} (hquote : isQuote quote = true)
      (hbody : Doubled quote body) (hrest : rest.head? ≠ some quote) :
      Fits (.quoted quote body true) rest
  | quotedToEnd {quote : Char} {body : List Char} (hquote : isQuote quote = true)
      (hbody : Doubled quote body) : Fits (.quoted quote body false) []
  /-- No end mark ends before the one at the end. -/
  | enclosed {kind : Enclosure} {body rest : List Char}
      (hfirst : ¬kind.endMark <:+: (body ++ kind.endMark).dropLast) :
      Fits (.enclosed kind body true) rest
  | enclosedToEnd {kind : Enclosure} {body : List Char} (hnone : ¬kind.endMark <:+: body) :
      Fits (.enclosed kind body false) []
  /-- An index has all the digits there are. -/
  | written {sign : Char} {digits rest : List Char} (hsign : sign = '?' ∨ sign = '$')
      (hne : digits ≠ []) (hdigits : ∀ d ∈ digits, d.isDigit = true)
      (hrest : startsWithDigit rest = false) : Fits (.written sign digits) rest
  | bare {rest : List Char} (hrest : startsWithDigit rest = false) : Fits .bare rest
  /-- A character that begins nothing else. -/
  | other {c : Char} {rest : List Char} (hquote : isQuote c = false)
      (hopening : ∀ kind : Enclosure, ¬kind.opening <+: c :: rest) (hbare : c ≠ '?')
      (hwritten : c = '$' → startsWithDigit rest = false) : Fits (.other c) rest

end Lexeme

inductive Splits : List Char → List Lexeme → Prop
  | nil : Splits [] []
  | cons {l : Lexeme} {rest : List Char} {ls : List Lexeme} (hfits : l.Fits rest)
      (hrest : Splits rest ls) : Splits (l.text ++ rest) (l :: ls)

/-! ## Reading a run -/

/-- What stands before the end of a run, whether the end is there, and what follows it. -/
structure Run where
  body : List Char
  ended : Bool
  rest : List Char

namespace Run

def cons (c : Char) (run : Run) : Run := { run with body := c :: run.body }

/-- Reads up to the first end mark. -/
def upTo (mark : List Char) : List Char → Run
  | [] => ⟨[], false, []⟩
  | c :: rest =>
    if mark <+: c :: rest then ⟨[], true, (c :: rest).drop mark.length⟩
    else (upTo mark rest).cons c

/-- Reads up to the first quote that is not doubled. -/
def quoted (quote : Char) : List Char → Run
  | [] => ⟨[], false, []⟩
  | [c] => if c = quote then ⟨[], true, []⟩ else ⟨[c], false, []⟩
  | c :: d :: rest =>
    if c ≠ quote then (quoted quote (d :: rest)).cons c
    else if d = quote then ((quoted quote rest).cons d).cons c
    else ⟨[], true, d :: rest⟩

/-- An end mark at the front of a longer run ends before the run does. -/
theorem prefix_cons_iff (c : Char) (body mark rest : List Char) :
    mark <+: c :: (body ++ mark ++ rest) ↔ mark <+: c :: (body ++ mark).dropLast := by
  have hrun : c :: (body ++ mark).dropLast <+: c :: (body ++ mark ++ rest) :=
    List.cons_prefix_cons.mpr ⟨rfl, (List.dropLast_prefix _).trans (List.prefix_append _ _)⟩
  constructor
  · intro h
    apply List.prefix_of_prefix_length_le h hrun
    simp only [List.length_cons, List.length_dropLast, List.length_append]
    omega
  · intro h
    exact h.trans hrun

theorem dropLast_cons_append {c : Char} {body mark : List Char} (hmark : mark ≠ []) :
    (c :: body ++ mark).dropLast = c :: (body ++ mark).dropLast := by
  rw [List.cons_append, List.dropLast_cons_of_ne_nil (by simp [hmark])]

/-- What is read is a run to the first end mark, or a run without one to the end of the text. -/
theorem upTo_spec {mark : List Char} (hmark : mark ≠ []) (text : List Char) :
    (∃ body rest, upTo mark text = ⟨body, true, rest⟩ ∧ text = body ++ mark ++ rest ∧
        ¬mark <:+: (body ++ mark).dropLast) ∨
      upTo mark text = ⟨text, false, []⟩ ∧ ¬mark <:+: text := by
  induction text with
  | nil => exact .inr ⟨rfl, by simpa using hmark⟩
  | cons c text ih =>
    rw [upTo]
    split
    · rename_i hprefix
      obtain ⟨rest, hrest⟩ := hprefix
      refine .inl ⟨[], rest, by simp [← hrest], by simp [hrest], ?_⟩
      -- The end mark does not occur in a text that is shorter than it.
      intro hoccurs
      have hlength := hoccurs.length_le
      have hpos := List.length_pos_iff.mpr hmark
      simp only [List.nil_append, List.length_dropLast] at hlength
      omega
    · rename_i hprefix
      obtain ⟨body, rest, hrun, htext, hfirst⟩ | ⟨hrun, hnone⟩ := ih
      · refine .inl ⟨c :: body, rest, by rw [hrun]; rfl, by simp [htext], ?_⟩
        rw [dropLast_cons_append hmark, List.infix_cons_iff]
        rintro (hfront | hoccurs)
        · apply hprefix
          rw [htext]
          exact (prefix_cons_iff c body mark rest).mpr hfront
        · exact hfirst hoccurs
      · refine .inr ⟨by rw [hrun]; rfl, ?_⟩
        rw [List.infix_cons_iff]
        rintro (hfront | hoccurs)
        · exact hprefix hfront
        · exact hnone hoccurs

theorem upTo_append {mark : List Char} (hmark : mark ≠ []) {body : List Char}
    (hfirst : ¬mark <:+: (body ++ mark).dropLast) (rest : List Char) :
    upTo mark (body ++ mark ++ rest) = ⟨body, true, rest⟩ := by
  induction body with
  | nil =>
    obtain ⟨m, ms, rfl⟩ := List.exists_cons_of_ne_nil hmark
    have hprefix : m :: ms <+: m :: (ms ++ rest) := List.prefix_append (m :: ms) rest
    simp [upTo, hprefix]
  | cons c body ih =>
    rw [dropLast_cons_append hmark, List.infix_cons_iff, not_or] at hfirst
    have hprefix : ¬mark <+: c :: (body ++ mark ++ rest) := fun h =>
      hfirst.1 ((prefix_cons_iff c body mark rest).mp h)
    rw [List.cons_append, List.cons_append, upTo, if_neg hprefix, ih hfirst.2]
    rfl

theorem upTo_of_none {mark text : List Char} (hnone : ¬mark <:+: text) :
    upTo mark text = ⟨text, false, []⟩ := by
  induction text with
  | nil => rfl
  | cons c text ih =>
    rw [List.infix_cons_iff, not_or] at hnone
    rw [upTo, if_neg hnone.1, ih hnone.2]
    rfl

/-- What is read is a run in which the quote stands only doubled. -/
theorem quoted_spec (quote : Char) (text : List Char) :
    (∃ body rest, quoted quote text = ⟨body, true, rest⟩ ∧ text = body ++ quote :: rest ∧
        Doubled quote body ∧ rest.head? ≠ some quote) ∨
      quoted quote text = ⟨text, false, []⟩ ∧ Doubled quote text := by
  fun_induction quoted quote text with
  | case1 => exact .inr ⟨rfl, .nil⟩
  | case2 => exact .inl ⟨[], [], rfl, rfl, .nil, by simp⟩
  | case3 c hc => exact .inr ⟨rfl, .other hc .nil⟩
  | case4 c d rest hc ih =>
    obtain ⟨body, after, hrun, htext, hbody, hafter⟩ | ⟨hrun, hbody⟩ := ih
    · exact .inl ⟨c :: body, after, by rw [hrun]; rfl, by rw [htext]; rfl, .other hc hbody, hafter⟩
    · exact .inr ⟨by rw [hrun]; rfl, .other hc hbody⟩
  | case5 c rest hc ih =>
    obtain rfl := not_not.mp hc
    obtain ⟨body, after, hrun, htext, hbody, hafter⟩ | ⟨hrun, hbody⟩ := ih
    · exact .inl ⟨c :: c :: body, after, by rw [hrun]; rfl, by rw [htext]; rfl, .pair hbody, hafter⟩
    · exact .inr ⟨by rw [hrun]; rfl, .pair hbody⟩
  | case6 c d rest hc hd =>
    obtain rfl := not_not.mp hc
    exact .inl ⟨[], d :: rest, rfl, rfl, .nil, by simpa using hd⟩

theorem quoted_append {quote : Char} {body : List Char} (hbody : Doubled quote body)
    {rest : List Char} (hrest : rest.head? ≠ some quote) :
    quoted quote (body ++ quote :: rest) = ⟨body, true, rest⟩ := by
  induction hbody with
  | nil =>
    cases rest with
    | nil => simp [quoted]
    | cons d rest =>
      have hd : d ≠ quote := by simpa using hrest
      simp [quoted, hd]
  | @other c text hc htext ih =>
    -- `quoted` looks at two characters, so there has to be one behind `c`.
    obtain ⟨d, after, hafter⟩ : ∃ d after, text ++ quote :: rest = d :: after :=
      List.exists_cons_of_ne_nil (by simp)
    rw [List.cons_append, hafter, quoted, if_pos hc, ← hafter, ih]
    rfl
  | pair htext ih => simp [quoted, ih, cons]

theorem quoted_of_doubled {quote : Char} {text : List Char} (htext : Doubled quote text) :
    quoted quote text = ⟨text, false, []⟩ := by
  induction htext with
  | nil => rfl
  | @other c text hc htext ih =>
    cases text with
    | nil => simp [quoted, hc]
    | cons d rest => rw [quoted, if_pos hc, ih]; rfl
  | pair htext ih => simp [quoted, ih, cons]

end Run

/-! ## Reading lexemes -/

theorem startsWithDigit_dropWhile (text : List Char) :
    startsWithDigit (text.dropWhile Char.isDigit) = false := by
  rw [startsWithDigit, ← List.find?_not_eq_head?_dropWhile]
  cases hfind : text.find? (fun c => !c.isDigit) with
  | none => rfl
  | some c => simpa using List.find?_some hfind

/-- The digits of an index end where no digit follows. -/
theorem span_digits_append {digits rest : List Char} (hdigits : ∀ d ∈ digits, d.isDigit = true)
    (hrest : startsWithDigit rest = false) :
    (digits ++ rest).takeWhile Char.isDigit = digits ∧
      (digits ++ rest).dropWhile Char.isDigit = rest := by
  rw [List.takeWhile_append_of_pos hdigits, List.dropWhile_append_of_pos hdigits]
  cases rest with
  | nil => simp
  | cons c rest =>
    have hc : c.isDigit = false := hrest
    simp [hc]

namespace Lexeme

/-- The first lexeme of a text that starts with this character, and what follows it. -/
def front (c : Char) (rest : List Char) : Lexeme × List Char :=
  if isQuote c then
    let run := Run.quoted c rest
    (.quoted c run.body run.ended, run.rest)
  else
    match Enclosure.opened? c rest with
    | some kind =>
      let run := Run.upTo kind.endMark ((c :: rest).drop kind.opening.length)
      (.enclosed kind run.body run.ended, run.rest)
    | none =>
      if (c = '?' ∨ c = '$') ∧ startsWithDigit rest then
        (.written c (rest.takeWhile Char.isDigit), rest.dropWhile Char.isDigit)
      else if c = '?' then (.bare, rest)
      else (.other c, rest)

theorem front_spec (c : Char) (rest : List Char) :
    (front c rest).1.Fits (front c rest).2 ∧
      c :: rest = (front c rest).1.text ++ (front c rest).2 := by
  unfold front
  split
  · rename_i hquote
    obtain ⟨body, after, hrun, rfl, hbody, hafter⟩ | ⟨hrun, hbody⟩ := Run.quoted_spec c rest
    · rw [hrun]
      exact ⟨.quoted hquote hbody hafter, by simp [text]⟩
    · rw [hrun]
      exact ⟨.quotedToEnd hquote hbody, by simp [text]⟩
  · rename_i hquote
    split
    · rename_i kind hkind
      obtain ⟨inner, hinner⟩ := Enclosure.opened?_eq_some_iff.mp hkind
      rw [← hinner, List.drop_left]
      obtain ⟨body, after, hrun, rfl, hfirst⟩ | ⟨hrun, hnone⟩ :=
        Run.upTo_spec kind.endMark_ne_nil inner
      · rw [hrun]
        exact ⟨.enclosed hfirst, by simp [text]⟩
      · rw [hrun]
        exact ⟨.enclosedToEnd hnone, by simp [text]⟩
    · rename_i hnone
      have hopening : ∀ kind : Enclosure, ¬kind.opening <+: c :: rest := by
        intro kind hprefix
        rw [← Enclosure.opened?_eq_some_iff, hnone] at hprefix
        cases hprefix
      split
      · rename_i hwritten
        obtain ⟨hsign, hdigit⟩ := hwritten
        have hne : rest.takeWhile Char.isDigit ≠ [] := by
          cases rest with
          | nil => simp [startsWithDigit] at hdigit
          | cons d rest =>
            have hd : d.isDigit = true := hdigit
            simp [hd]
        refine ⟨.written hsign hne ?_ (startsWithDigit_dropWhile rest), ?_⟩
        · exact fun d hd => List.mem_takeWhile_imp hd
        · simp [text]
      · rename_i hwritten
        split
        · rename_i hc
          subst hc
          exact ⟨.bare (by simpa using hwritten), rfl⟩
        · rename_i hc
          refine ⟨.other (by simpa using hquote) hopening hc ?_, rfl⟩
          rintro rfl
          simpa using hwritten

theorem text_ne_nil (l : Lexeme) : l.text ≠ [] := by
  cases l with
  | enclosed kind body ended => simp [text, kind.opening_ne_nil]
  | _ => simp [text]

/-- Every lexeme takes something of the text. -/
theorem length_front_lt (c : Char) (rest : List Char) :
    (front c rest).2.length < (c :: rest).length := by
  have hpos := List.length_pos_iff.mpr (front c rest).1.text_ne_nil
  rw [(front_spec c rest).2, List.length_append]
  omega

/-- A text that starts with the opening of a run has the run as its first lexeme. -/
theorem front_of_opening {kind : Enclosure} {c : Char} {rest inner : List Char}
    (htext : c :: rest = kind.opening ++ inner) :
    front c rest =
      (.enclosed kind (Run.upTo kind.endMark inner).body (Run.upTo kind.endMark inner).ended,
        (Run.upTo kind.endMark inner).rest) := by
  have hopened : Enclosure.opened? c rest = some kind :=
    Enclosure.opened?_eq_some_iff.mpr ⟨inner, htext.symm⟩
  have hquote : isQuote c = false := by cases kind <;> cases htext <;> rfl
  have hinner : (c :: rest).drop kind.opening.length = inner := by rw [htext, List.drop_left]
  rw [front, if_neg (by simp [hquote]), hopened]
  simp only [hinner]

theorem Fits.front_eq {l : Lexeme} {rest : List Char} (h : l.Fits rest) :
    ∃ c tail, l.text = c :: tail ∧ front c (tail ++ rest) = (l, rest) := by
  cases h with
  | @quoted quote body rest hquote hbody hrest =>
    refine ⟨quote, body ++ [quote], by simp [text], ?_⟩
    rw [front, if_pos hquote, List.append_assoc, List.singleton_append,
      Run.quoted_append hbody hrest]
  | @quotedToEnd quote body hquote hbody =>
    refine ⟨quote, body, by simp [text], ?_⟩
    rw [front, if_pos hquote, List.append_nil, Run.quoted_of_doubled hbody]
  | @enclosed kind body rest hfirst =>
    obtain ⟨c, tail, hopening⟩ := List.exists_cons_of_ne_nil kind.opening_ne_nil
    refine ⟨c, tail ++ body ++ kind.endMark, by simp [text, hopening], ?_⟩
    have htext : c :: (tail ++ body ++ kind.endMark ++ rest) =
        kind.opening ++ (body ++ kind.endMark ++ rest) := by simp [hopening]
    rw [front_of_opening htext, Run.upTo_append kind.endMark_ne_nil hfirst]
  | @enclosedToEnd kind body hnone =>
    obtain ⟨c, tail, hopening⟩ := List.exists_cons_of_ne_nil kind.opening_ne_nil
    refine ⟨c, tail ++ body, by simp [text, hopening], ?_⟩
    have htext : c :: (tail ++ body ++ []) = kind.opening ++ body := by simp [hopening]
    rw [front_of_opening htext, Run.upTo_of_none hnone]
  | @written sign digits rest hsign hne hdigits hrest =>
    obtain ⟨d, ds, rfl⟩ := List.exists_cons_of_ne_nil hne
    obtain ⟨htake, hdrop⟩ := span_digits_append hdigits hrest
    have hdigit : startsWithDigit (d :: ds ++ rest) = true := hdigits d (by simp)
    have hquote : isQuote sign = false := by rcases hsign with rfl | rfl <;> rfl
    have hopened : Enclosure.opened? sign (d :: ds ++ rest) = none := by
      rcases hsign with rfl | rfl <;> rfl
    refine ⟨sign, d :: ds, rfl, ?_⟩
    rw [front, if_neg (by simp [hquote]), hopened]
    simp only [hsign, hdigit, htake, hdrop, and_self, if_true]
  | bare hrest =>
    refine ⟨'?', [], rfl, ?_⟩
    rw [front, if_neg (by decide)]
    simp [Enclosure.opened?, hrest]
  | @other c rest hquote hopening hbare hwritten =>
    have hopened : Enclosure.opened? c rest = none := by
      rw [Option.eq_none_iff_forall_ne_some]
      exact fun kind hkind => hopening kind (Enclosure.opened?_eq_some_iff.mp hkind)
    have hdigit : ¬((c = '?' ∨ c = '$') ∧ startsWithDigit rest = true) := by
      rintro ⟨hc | hc, hdigit⟩
      · exact hbare hc
      · simp [hwritten hc] at hdigit
    refine ⟨c, [], rfl, ?_⟩
    rw [front, if_neg (by simp [hquote]), List.nil_append, hopened]
    simp only [if_neg hdigit, if_neg hbare]

end Lexeme

def lexemes : List Char → List Lexeme
  | [] => []
  | c :: rest => (Lexeme.front c rest).1 :: lexemes (Lexeme.front c rest).2
termination_by text => text.length
decreasing_by exact Lexeme.length_front_lt c rest

/-- **Lexemes are unique.** Every text falls into lexemes in exactly one way. -/
theorem splits_iff {text : List Char} {ls : List Lexeme} : Splits text ls ↔ lexemes text = ls := by
  constructor
  · intro h
    induction h with
    | nil => rw [lexemes]
    | @cons l rest ls hfits hrest ih =>
      obtain ⟨c, tail, htext, hfront⟩ := hfits.front_eq
      rw [htext, List.cons_append, lexemes, hfront, ih]
  · rintro rfl
    fun_induction lexemes text with
    | case1 => exact .nil
    | case2 c rest ih =>
      obtain ⟨hfits, htext⟩ := Lexeme.front_spec c rest
      rw [htext]
      exact .cons hfits ih

example : lexemes "a ?12'?''' $".toList =
    [.other 'a', .other ' ', .written '?' ['1', '2'], .quoted '\'' ['?', '\'', '\''] true,
      .other ' ', .other '$'] := by decide +kernel

end SqlStatement
