import SplitTest.Yaml.Scalar

/-!
# YAML tokens

A text is a list of tokens.  Block collections have tokens for their beginning and
end: one begins where a dash or key stands further in than the collection around it,
and ends where a later token stands further out.

That a scalar or a flow collection is a key is only known at the colon behind it.
Each is kept as a candidate, at most one in each flow collection, and the colon puts
the tokens of a key in its place.  A candidate does not last beyond its line or 1024
bytes.

A byte order mark at the beginning of a line, where a token may stand, is passed over
and takes a column.

Directives, anchors, tags and block scalars have no tokens, and a text with one of them
is refused.
-/

namespace SplitTest.Yaml

/-- A token. -/
inductive Token where
  /-- Three dashes. -/
  | documentStart
  /-- Three dots. -/
  | documentEnd
  /-- The beginning of a block sequence. -/
  | sequenceStart
  /-- The beginning of a block mapping. -/
  | mappingStart
  /-- The end of a block collection. -/
  | blockEnd
  /-- The dash of an item. -/
  | item
  /-- The beginning of a key. -/
  | key
  /-- The beginning of a value. -/
  | value
  /-- An opening bracket. -/
  | openBracket
  /-- A closing bracket. -/
  | closeBracket
  /-- An opening brace. -/
  | openBrace
  /-- A closing brace. -/
  | closeBrace
  /-- The comma of a flow collection. -/
  | comma
  /-- A scalar without quotes. -/
  | plain (s : String)
  /-- A scalar between quotes. -/
  | quoted (s : String)
deriving DecidableEq, Repr

/-- A node that is a key if a colon follows it. -/
structure Candidate where
  /-- Number of tokens before it. -/
  place : Nat
  /-- Its line. -/
  line : Nat
  /-- Its column. -/
  column : Nat
  /-- Number of bytes before it on its line. -/
  offset : Nat
  /-- Whether only a key may stand there. -/
  required : Bool
deriving DecidableEq, Repr

namespace Candidate

/-- Whether a candidate lasts up to a place. -/
def lasts (c : Candidate) (p : Cursor) : Bool := p.line ≤ c.line && p.offset ≤ c.offset + 1024

end Candidate

/-- How far a text has been read into tokens. -/
structure Lexer where
  /-- The place that was come to. -/
  place : Cursor
  /-- The tokens before it, the last one first. -/
  tokens : List Token
  /-- The columns of the open block collections, the innermost first. -/
  indents : List Nat
  /-- Whether a key may begin here without being marked. -/
  keyAllowed : Bool
  /-- The candidate of the innermost flow collection, or of the block outside of all. -/
  candidate : Option Candidate
  /-- The candidates of the collections and the block around that one. -/
  outer : List (Option Candidate)

namespace Lexer

/-- The state at the beginning of a text. -/
def start (text : List Char) : Lexer := ⟨.ofText text, [], [], true, none, []⟩

/-- Whether a flow collection is open. -/
def inFlow (l : Lexer) : Bool := !l.outer.isEmpty

/-- The state with another token. -/
def emit (t : Token) (l : Lexer) : Lexer := { l with tokens := t :: l.tokens }

/-- The state with another token of `n` characters, which is passed over. -/
def take (n : Nat) (t : Token) (l : Lexer) : Lexer :=
  { l with place := l.place.skip n, tokens := t :: l.tokens }

/-- The tokens, the last one first, with one more behind the first `place` of them. -/
def insertAt (place : Nat) (t : Token) (ts : List Token) : List Token :=
  ts.insertIdx (ts.length - place) t

/-! ## Candidates -/

/-- The state without candidates that do not last; refused if one of them is
required. -/
def dropStale (l : Lexer) : Option Lexer :=
  let isStale (c : Candidate) : Bool := !c.lasts l.place
  if (l.candidate :: l.outer).any fun c => c.any fun c => c.required && isStale c then none
  else
    let keep (c : Option Candidate) : Option Candidate := c.filter fun c => !isStale c
    some { l with candidate := keep l.candidate, outer := l.outer.map keep }

/-- The state without its candidate; refused if that is required. -/
def dropCandidate (l : Lexer) : Option Lexer :=
  if l.candidate.any (·.required) then none else some { l with candidate := none }

/-- The state in which the node that begins here is the candidate, if a key may. -/
def propose (l : Lexer) : Option Lexer :=
  if l.keyAllowed then
    l.dropCandidate.map fun l =>
      { l with
        candidate := some
          { place := l.tokens.length
            line := l.place.line
            column := l.place.column
            offset := l.place.offset
            required := !l.inFlow && l.indents.head? == some l.place.column } }
  else
    some l

/-! ## Block collections -/

/-- Whether a block collection that begins at `column` is a new one. -/
def isDeeper (column : Nat) (l : Lexer) : Bool := !l.inFlow && !l.indents.head?.any (column ≤ ·)

/-- The state in which a block collection is open at the column here. -/
def openBlock (t : Token) (l : Lexer) : Lexer :=
  if l.isDeeper l.place.column then
    { l with tokens := t :: l.tokens, indents := l.place.column :: l.indents }
  else
    l

/-- The state without the first `n` open block collections. -/
def closeBlocks (n : Nat) (l : Lexer) : Lexer :=
  { l with tokens := List.replicate n .blockEnd ++ l.tokens, indents := l.indents.drop n }

/-- The state without the block collections that are indented deeper than `column`. -/
def closeDeeper (column : Nat) (l : Lexer) : Lexer :=
  if l.inFlow then l else l.closeBlocks (l.indents.takeWhile (column < ·)).length

/-- The state without open block collections. -/
def closeAll (l : Lexer) : Lexer := if l.inFlow then l else l.closeBlocks l.indents.length

/-! ## Tokens -/

/-- The mark of a document. -/
def readMark (l : Lexer) : Option Lexer :=
  let t := if l.place.rest.head? == some '-' then Token.documentStart else .documentEnd
  l.closeAll.dropCandidate.map fun l => { l.take 3 t with keyAllowed := false }

/-- The beginning of a flow collection, which may be a key. -/
def openFlow (t : Token) (l : Lexer) : Option Lexer :=
  l.propose.map fun l =>
    { l.take 1 t with keyAllowed := true, candidate := none, outer := l.candidate :: l.outer }

/-- The end of a flow collection. -/
def closeFlow (t : Token) (l : Lexer) : Option Lexer :=
  l.dropCandidate.map fun l =>
    match l.outer with
    | [] => { l.take 1 t with keyAllowed := false }
    | c :: cs => { l.take 1 t with keyAllowed := false, candidate := c, outer := cs }

/-- A comma. -/
def readComma (l : Lexer) : Option Lexer :=
  l.dropCandidate.map fun l => { l.take 1 .comma with keyAllowed := true }

/-- The dash of an item, which may only stand where a key may. -/
def readDash (l : Lexer) : Option Lexer :=
  if !l.inFlow && !l.keyAllowed then none
  else
    (l.openBlock .sequenceStart).dropCandidate.map fun l =>
      { l.take 1 .item with keyAllowed := true }

/-- The question mark before a key. -/
def readKeyMark (l : Lexer) : Option Lexer :=
  if !l.inFlow && !l.keyAllowed then none
  else
    (l.openBlock .mappingStart).dropCandidate.map fun l =>
      { l.take 1 .key with keyAllowed := !l.inFlow }

/-- The state in which a candidate is a key. -/
def accept (c : Candidate) (l : Lexer) : Lexer :=
  let l := { l with tokens := insertAt c.place .key l.tokens, candidate := none }
  if l.isDeeper c.column then
    { l with tokens := insertAt c.place .mappingStart l.tokens, indents := c.column :: l.indents }
  else
    l

/-- The colon before a value.  Where no candidate is its key, it has an empty one or
one behind a question mark. -/
def readColon (l : Lexer) : Option Lexer :=
  match l.candidate with
  | some c => some { (l.accept c).take 1 .value with keyAllowed := false }
  | none =>
    if !l.inFlow && !l.keyAllowed then none
    else some { (l.openBlock .mappingStart).take 1 .value with keyAllowed := !l.inFlow }

/-- A scalar between quotes; `fuel` bounds its length. -/
def readQuotedToken (fuel : Nat) (l : Lexer) : Option Lexer := do
  let l ← l.propose
  let (s, p) ← readQuoted fuel l.place
  return { l.emit (.quoted (.ofList s)) with place := p, keyAllowed := false }

/-- A scalar without quotes; a key may begin on the line behind it.  `fuel` bounds the
number of its words. -/
def readPlainToken (fuel : Nat) (l : Lexer) : Option Lexer := do
  let l ← l.propose
  let least := (l.indents.head?.map (· + 1)).getD 0
  let (s, g, p) ← readPlain l.inFlow least fuel l.place
  return { l.emit (.plain (.ofList s)) with place := p, keyAllowed := !g.breaks.isEmpty }

/-- The token that begins here; `fuel` bounds its length. -/
def readToken (fuel : Nat) (l : Lexer) : Option Lexer :=
  if l.place.atMark then l.readMark
  else
    match l.place.rest with
    | [] => none
    | '[' :: _ => l.openFlow .openBracket
    | '{' :: _ => l.openFlow .openBrace
    | ']' :: _ => l.closeFlow .closeBracket
    | '}' :: _ => l.closeFlow .closeBrace
    | ',' :: _ => l.readComma
    | '\'' :: _ => l.readQuotedToken fuel
    | '"' :: _ => l.readQuotedToken fuel
    | c :: s =>
      if c == '-' && endsWord s then l.readDash
      else if c == '?' && (l.inFlow || endsWord s) then l.readKeyMark
      else if c == ':' && (l.inFlow || endsWord s) then l.readColon
      else if beginsPlain l.inFlow (c :: s) then l.readPlainToken fuel
      else none

/-! ## The text -/

/-- Whether `c` stands for nothing at a place where a token may: a space, a byte order
mark at the beginning of a line, or a tab where no key may begin. -/
def isIdle (inFlow allowed : Bool) (p : Cursor) (c : Char) : Bool :=
  c == ' ' || (c == '\uFEFF' && p.column == 0) || (c == '\t' && (inFlow || !allowed))

/-- The place of the next token, and whether a key may begin there, from a place `p` in a
text or in a comment of it.  A key may begin on a new line. -/
def seek (inFlow : Bool) : (allowed inComment : Bool) → Cursor → List Char → Bool × Cursor
  | allowed, _, p, [] => (allowed, p)
  | allowed, inComment, p, c :: s =>
    if isBreak c then seek inFlow (allowed || !inFlow) false (p.past c s) s
    else if inComment || c == '#' then seek inFlow allowed true (p.past c s) s
    else if isIdle inFlow allowed p c then seek inFlow allowed false (p.past c s) s
    else (allowed, p)

/-- The state at the next token. -/
def sought (l : Lexer) : Lexer :=
  let (allowed, p) := seek l.inFlow l.keyAllowed false l.place l.place.rest
  { l with place := p, keyAllowed := allowed }

/-- The tokens of a text from a state on; `fuel` bounds its length. -/
def run : Nat → Lexer → Option (List Token)
  | 0, _ => none
  | fuel + 1, l =>
    match l.sought.dropStale with
    | none => none
    | some l =>
      if l.place.rest.isEmpty then l.closeAll.dropCandidate.map (·.tokens.reverse)
      else ((l.closeDeeper l.place.column).readToken fuel).bind (run fuel)

end Lexer

/-- The tokens of a text. -/
def tokens? (text : List Char) : Option (List Token) :=
  if text.all isAdmitted then (Lexer.start (unifyBreaks text)).run (text.length + 1) else none

end SplitTest.Yaml
