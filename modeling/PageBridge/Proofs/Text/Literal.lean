import PageBridge.Proofs.Text.Split
import PageBridge.Text.Literal

/-!
# Literals in scripts

What `escape` writes is read back as it was, and the reader stops just behind the literal, whatever
follows (`readBodyWith_escape_append`).  This takes no more of a script language than the four escapes
that `escape` writes; `escaped_text_is_one_body` draws from it that no text can leave its literal.  A
script that carries texts is a skeleton, a fixed text with gaps, with a literal in each gap;
`Skeleton.read?_fill` says that nothing that stands in a gap is read as anything but the text that was
put there.
-/

namespace PageBridge.Text

namespace Literal

/-! ## Readers of a literal -/

/-- Reads what follows the opening quote of a literal in a script language of which `unescape?` says
what a backslash followed by a character denotes.  A bare line end and a missing closing quote are
errors in each of them. -/
def readBodyWith (unescape? : Char → Option Char) : List Char → Option (List Char × List Char)
  | [] => none
  | '\'' :: rest => some ([], rest)
  | ['\\'] => none
  | '\\' :: c :: rest =>
    match unescape? c with
    | none => none
    | some c => (readBodyWith unescape? rest).map fun (text, rest) => (c :: text, rest)
  | c :: rest =>
    if c = '\n' ∨ c = '\r' then none
    else (readBodyWith unescape? rest).map fun (text, rest) => (c :: text, rest)

/-- The escapes that `escape` writes denote what they are written for. -/
structure Unescapes (unescape? : Char → Option Char) : Prop where
  backslash : unescape? '\\' = some '\\'
  quote : unescape? '\'' = some '\''
  lineFeed : unescape? 'n' = some '\n'
  carriageReturn : unescape? 'r' = some '\r'

/-- The plainest escapes: two letters denote the line ends, and every other character itself. -/
def unescapePlain? (c : Char) : Option Char :=
  if c = 'n' then some '\n' else if c = 'r' then some '\r' else some c

theorem unescapes_unescapePlain? : Unescapes unescapePlain? := ⟨rfl, rfl, rfl, rfl⟩

theorem unescapes_unescapeChar? : Unescapes unescapeChar? := ⟨rfl, rfl, rfl, rfl⟩

/-- The reader of a script engine is the one with its escapes. -/
theorem readBodyWith_unescapeChar? (cs : List Char) :
    readBodyWith unescapeChar? cs = readBody cs := by
  induction cs using readBody.induct <;> simp_all [readBodyWith, readBody]

variable {unescape? : Char → Option Char}

/-- A backslash and a character are read as what the two denote. -/
theorem readBodyWith_escaped {c d : Char} (h : unescape? c = some d) (cs : List Char) :
    readBodyWith unescape? ('\\' :: c :: cs) =
      (readBodyWith unescape? cs).map fun (text, rest) => (d :: text, rest) := by
  rw [readBodyWith, h]

/-- A character that is none of the four special ones stands for itself. -/
theorem readBodyWith_plain {c : Char} (hquote : c ≠ '\'') (hbackslash : c ≠ '\\')
    (hend : ¬(c = '\n' ∨ c = '\r')) (cs : List Char) :
    readBodyWith unescape? (c :: cs) =
      (readBodyWith unescape? cs).map fun (text, rest) => (c :: text, rest) := by
  rw [readBodyWith.eq_def]
  simp [hbackslash, hend]

/-- A character is read from what it becomes inside a literal. -/
theorem readBodyWith_escapeChar_append (h : Unescapes unescape?) (c : Char) (cs : List Char) :
    readBodyWith unescape? (escapeChar c ++ cs) =
      (readBodyWith unescape? cs).map fun (text, rest) => (c :: text, rest) := by
  by_cases hbackslash : c = '\\'
  · rw [hbackslash]
    exact readBodyWith_escaped h.backslash cs
  by_cases hquote : c = '\''
  · rw [hquote]
    exact readBodyWith_escaped h.quote cs
  by_cases hfeed : c = '\n'
  · rw [hfeed]
    exact readBodyWith_escaped h.lineFeed cs
  by_cases hreturn : c = '\r'
  · rw [hreturn]
    exact readBodyWith_escaped h.carriageReturn cs
  · rw [escapeChar, if_neg hbackslash, if_neg hquote, if_neg hfeed, if_neg hreturn]
    exact readBodyWith_plain hquote hbackslash (not_or.mpr ⟨hfeed, hreturn⟩) cs

/-- A text is read from its literal, up to the closing quote and no further. -/
theorem readBodyWith_escape_append (h : Unescapes unescape?) (cs rest : List Char) :
    readBodyWith unescape? (escape cs ++ '\'' :: rest) = some (cs, rest) := by
  induction cs with
  | nil => rfl
  | cons c cs ih =>
      rw [escape_cons, List.append_assoc, readBodyWith_escapeChar_append h, ih]
      rfl

/-- A script engine reads a text from its literal, up to the closing quote and no further. -/
theorem readBody_escape_append (cs rest : List Char) :
    readBody (escape cs ++ '\'' :: rest) = some (cs, rest) := by
  rw [← readBodyWith_unescapeChar?]
  exact readBodyWith_escape_append unescapes_unescapeChar? cs rest

/-- What is read as a whole literal is read as the same one in front of anything. -/
theorem readBodyWith_append {cs text rest : List Char}
    (h : readBodyWith unescape? cs = some (text, rest)) (more : List Char) :
    readBodyWith unescape? (cs ++ more) = some (text, rest ++ more) := by
  fun_induction readBodyWith unescape? cs generalizing text with
  | case1 | case3 | case4 | case6 => cases h
  | case2 cs =>
      cases h
      rfl
  -- an escape: the rest is read as before, and so is what the escape denotes
  | case5 c cs d hd ih =>
      obtain ⟨⟨text', rest'⟩, hread, heq⟩ := Option.map_eq_some_iff.mp h
      cases heq
      rw [List.cons_append, List.cons_append, readBodyWith_escaped hd, ih hread]
      rfl
  | case7 c cs hquote hlast hescape hend ih =>
      obtain ⟨⟨text', rest'⟩, hread, heq⟩ := Option.map_eq_some_iff.mp h
      cases heq
      -- the reader got past the cases of a backslash, so this is none
      have hbackslash : c ≠ '\\' := fun hc => by
        cases cs with
        | nil => exact hlast hc rfl
        | cons d cs => exact hescape d cs hc rfl
      rw [List.cons_append, readBodyWith_plain hquote hbackslash hend, ih hread]
      rfl

/-- No part at the start of an escaped text is a whole literal: only the quote behind the text
closes it. -/
theorem readBodyWith_of_prefix_escape (h : Unescapes unescape?) {front cs : List Char}
    (hfront : front <+: escape cs) : readBodyWith unescape? front = none := by
  obtain ⟨more, hescape⟩ := hfront
  cases hread : readBodyWith unescape? front with
  | none => rfl
  | some found =>
      -- a part that were a literal already would leave its rest to be read before the quote
      have hclosed := readBodyWith_append hread (more ++ ['\''])
      rw [← List.append_assoc, hescape, readBodyWith_escape_append h] at hclosed
      simp at hclosed

/-- Whatever a text holds, its escaped form and a quote behind it are one literal in front of any
script: read by the plainest escapes or by all those of a script engine it denotes just that text, and
the reader stops right behind the quote.  No part at the start of the escaped form is a literal
already, so nothing in it closes the literal early and nothing in it takes the closing quote for its
own.  And the literal tells the text and what follows it apart: no two texts have one escaped form. -/
theorem escaped_text_is_one_body (text : String) :
    (∀ rest, readBodyWith unescapePlain? ((escapeText text).toList ++ '\'' :: rest) =
        some (text.toList, rest)) ∧
      (∀ rest, readBody ((escapeText text).toList ++ '\'' :: rest) = some (text.toList, rest)) ∧
      (∀ front, front <+: (escapeText text).toList →
        readBodyWith unescapePlain? front = none ∧ readBody front = none) ∧
      (∀ other rest rest',
        (escapeText other).toList ++ '\'' :: rest = (escapeText text).toList ++ '\'' :: rest' →
          other = text ∧ rest = rest') ∧
      ∀ other, escapeText other = escapeText text → other = text := by
  have hplain (s : String) (rest : List Char) :
      readBodyWith unescapePlain? ((escapeText s).toList ++ '\'' :: rest) = some (s.toList, rest) := by
    rw [toList_escapeText]
    exact readBodyWith_escape_append unescapes_unescapePlain? s.toList rest
  have hapart (other : String) (rest rest' : List Char)
      (h : (escapeText other).toList ++ '\'' :: rest = (escapeText text).toList ++ '\'' :: rest') :
      other = text ∧ rest = rest' := by
    have hsame := hplain other rest
    rw [h, hplain text rest', Option.some.injEq, Prod.mk.injEq] at hsame
    exact ⟨(String.toList_inj.mp hsame.1).symm, hsame.2.symm⟩
  refine ⟨hplain text, ?_, ?_, hapart, ?_⟩
  · intro rest
    rw [toList_escapeText]
    exact readBody_escape_append text.toList rest
  · intro front hfront
    rw [toList_escapeText] at hfront
    rw [← readBodyWith_unescapeChar?]
    exact ⟨readBodyWith_of_prefix_escape unescapes_unescapePlain? hfront,
      readBodyWith_of_prefix_escape unescapes_unescapeChar? hfront⟩
  · intro other h
    exact (hapart other [] [] (by rw [h])).1

theorem toList_quote (s : String) : (quote s).toList = '\'' :: (escape s.toList ++ ['\'']) := by
  simp [quote, toList_escapeText]

/-- A text is read back from its literal, whatever follows. -/
theorem read_quote_append (s : String) (rest : List Char) :
    read ((quote s).toList ++ rest) = some (s.toList, rest) := by
  rw [toList_quote, List.cons_append, List.append_assoc]
  exact readBody_escape_append s.toList rest

end Literal

/-- A script with gaps for literals: the text up to the first gap, and the text behind each. -/
structure Skeleton where
  start : String
  pieces : List String
deriving DecidableEq, Repr

namespace Skeleton

/-- Puts the literals of texts into the gaps behind a text. -/
def fillFrom (start : String) : List String → List String → String
  | piece :: pieces, text :: texts => start ++ (Literal.quote text ++ fillFrom piece pieces texts)
  | _, _ => start

/-- The script with the literals of texts in its gaps. -/
def fill (skeleton : Skeleton) (texts : List String) : String :=
  fillFrom skeleton.start skeleton.pieces texts

/-- Reads the texts in the gaps behind a text, if a script is what they leave and nothing more. -/
def readFrom (start : String) : List String → List Char → Option (List String)
  | [], cs => if cs = start.toList then some [] else none
  | piece :: pieces, cs =>
    match dropStart? start.toList cs with
    | none => none
    | some rest =>
      match Literal.read rest with
      | none => none
      | some (text, rest) => (readFrom piece pieces rest).map (String.ofList text :: ·)

/-- The texts that the literals of a script denote, if the script has this skeleton. -/
def read? (skeleton : Skeleton) (script : String) : Option (List String) :=
  readFrom skeleton.start skeleton.pieces script.toList

theorem fillFrom_nil (start : String) (texts : List String) : fillFrom start [] texts = start := by
  cases texts <;> rfl

/-- The texts in the gaps behind a text are read from them. -/
theorem readFrom_fillFrom (start : String) {pieces texts : List String}
    (h : texts.length = pieces.length) :
    readFrom start pieces (fillFrom start pieces texts).toList = some texts := by
  induction pieces generalizing start texts with
  | nil =>
      rw [List.length_nil, List.length_eq_zero_iff] at h
      rw [h, fillFrom_nil, readFrom, if_pos rfl]
  | cons piece pieces ih =>
      cases texts with
      | nil => cases h
      | cons text texts =>
          have hlen : texts.length = pieces.length := Nat.succ.inj h
          rw [fillFrom, String.toList_append, String.toList_append, readFrom, dropStart?_append]
          simp only [Literal.read_quote_append, ih piece hlen, String.ofList_toList,
            Option.map_some]

/-- The texts that were put into the gaps are read from them. -/
theorem read?_fill (skeleton : Skeleton) {texts : List String}
    (h : texts.length = skeleton.pieces.length) :
    skeleton.read? (skeleton.fill texts) = some texts :=
  readFrom_fillFrom skeleton.start h

end Skeleton

end PageBridge.Text
