import SheetQuery.Sql.Value

/-!
# Lexemes

A statement falls into lexemes: names, literals and symbols, with the spaces and comments in front of
each. Nothing is lost: the lexemes of a text, one behind the other, are the text.

* `cut` tells where the first piece of a text ends and of what kind it is.
* `lexemes` lists the lexemes of a text with their places, closed by one that marks its end.
-/

namespace SheetQuery.Sql

inductive Kind where
  | word
  /-- A name in double quotes, back quotes or brackets. -/
  | quotedName
  | string
  | blob
  | integer
  | float
  | variable
  | symbol
  | illegal
  | blank
  | finish
deriving DecidableEq, Repr

structure Lexeme where
  kind : Kind
  text : Text
  /-- The spaces and comments in front of it. -/
  lead : Text
  /-- The number of bytes in front of it. -/
  offset : Nat
  /-- The number of a variable. -/
  number : Nat
deriving DecidableEq

def isNameChar (c : Char) : Bool := c.isAlphanum || c = '_' || c = '$' || c.toNat ≥ 0x80

def isNameStart (c : Char) : Bool := c.isAlpha || c = '_' || c.toNat ≥ 0x80

def countWhile (p : Char → Bool) (s : Text) : Nat := (s.takeWhile p).length

/-- The length of the rest of a quoted piece up to its closing quote, and whether there is one; a
doubled quote does not close. -/
def quotedLength (quote : Char) : Text → Nat × Bool
  | [] => (0, false)
  | [c] => if c = quote then (1, true) else (1, false)
  | c :: d :: s =>
    if c = quote then
      if d = quote then
        let rest := quotedLength quote s
        (rest.1 + 2, rest.2)
      else (1, true)
    else
      let rest := quotedLength quote (d :: s)
      (rest.1 + 1, rest.2)

def bracketLength : Text → Nat × Bool
  | [] => (0, false)
  | c :: s =>
    if c = ']' then (1, true)
    else
      let rest := bracketLength s
      (rest.1 + 1, rest.2)

def commentLength : Text → Nat
  | [] => 0
  | [_] => 1
  | c :: d :: s => if c = '*' ∧ d = '/' then 2 else commentLength (d :: s) + 1

def isDigitOrSeparator (c : Char) : Bool := c.isDigit || c = '_'

def isHexDigit (c : Char) : Bool := (Text.hexValue? c).isSome

def isHexOrSeparator (c : Char) : Bool := isHexDigit c || c = '_'

def startsExponent : Text → Bool
  | e :: c :: s =>
    (e = 'e' || e = 'E') && (c.isDigit || ((c = '+' || c = '-') && (s.head?.any Char.isDigit)))
  | _ => false

def startsHex : Text → Bool
  | '0' :: x :: d :: _ => (x = 'x' || x = 'X') && isHexDigit d
  | _ => false

def fractionLength (s : Text) : Nat :=
  if s.head? = some '.' then 1 + countWhile isDigitOrSeparator (s.drop 1) else 0

def exponentLength (s : Text) : Nat :=
  if startsExponent s then 2 + countWhile isDigitOrSeparator (s.drop 2) else 0

/-- Kind and length of a number, name characters stuck to it left out. -/
def numberLength (s : Text) : Kind × Nat :=
  if startsHex s then (.integer, 2 + countWhile isHexOrSeparator (s.drop 2))
  else
    let whole := countWhile isDigitOrSeparator s
    let fraction := fractionLength (s.drop whole)
    let exponent := exponentLength ((s.drop whole).drop fraction)
    (if fraction = 0 ∧ exponent = 0 then .integer else .float, whole + fraction + exponent)

/-- Kind and length of a number; name characters stuck to it make it illegal. -/
def cutNumber (s : Text) : Kind × Nat :=
  let number := numberLength s
  let stuck := countWhile isNameChar (s.drop number.2)
  (if stuck = 0 then number.1 else .illegal, number.2 + stuck)

/-- Kind and length of a blob literal, whose digits come in pairs. -/
def cutBlob (s : Text) : Kind × Nat :=
  let digits := countWhile isHexDigit (s.drop 2)
  let rest := s.drop (2 + digits)
  if rest.head? = some '\'' ∧ digits % 2 = 0 then (.blob, digits + 3)
  else
    let skipped := countWhile (· != '\'') rest
    (.illegal, 2 + digits + skipped + (if skipped < rest.length then 1 else 0))

def cutVariable (s : Text) : Kind × Nat :=
  let length := countWhile isNameChar (s.drop 1)
  (if length = 0 then .illegal else .variable, length + 1)

def isPair (c d : Char) : Bool :=
  match c, d with
  | '<', '=' | '<', '>' | '<', '<' | '>', '=' | '>', '>' | '=', '=' | '!', '=' | '|', '|' => true
  | _, _ => false

def isSymbol (c : Char) : Bool := "()+-*/%=<>|,&~;.".toList.contains c

inductive Opening where
  | space
  | mark
  | lineComment
  | comment
  | quote
  | bracket
  | number
  | blob
  | word
  | numbered
  | named
  | pair
  | single
  | other
deriving DecidableEq, Repr

/-- The ways in which a piece that begins with `c` can begin, each with its condition: the next character, and
whether there is more behind it. -/
def openings (c : Char) (next : Option Char) (more : Bool) : List (Opening × Bool) :=
  [(.space, isSpace c),
   (.mark, c = '\uFEFF'),
   (.lineComment, c = '-' && next = some '-'),
   (.comment, c = '/' && next = some '*' && more),
   (.quote, c = '\'' || c = '"' || c = '`'),
   (.bracket, c = '['),
   (.number, c.isDigit || (c = '.' && next.any Char.isDigit)),
   (.blob, (c = 'x' || c = 'X') && next = some '\''),
   (.word, isNameStart c),
   (.numbered, c = '?'),
   (.named, c = '$' || c = '@' || c = '#' || c = ':'),
   (.pair, next.any (isPair c)),
   (.single, isSymbol c)]

/-- How a piece that begins with `c` begins: the first way whose condition is met. -/
def opening (c : Char) (next : Option Char) (more : Bool) : Opening :=
  (((openings c next more).find? (·.2)).map (·.1)).getD .other

def Opening.cut (c : Char) (rest : Text) : Opening → Kind × Nat
  | space => (.blank, 1 + countWhile isSpace rest)
  | mark => (.blank, 1)
  | lineComment => (.blank, 1 + countWhile (· != '\n') rest)
  | comment => (.blank, 2 + commentLength (rest.drop 1))
  | quote =>
    let body := quotedLength c rest
    (if !body.2 then .illegal else if c = '\'' then .string else .quotedName, body.1 + 1)
  | bracket =>
    let body := bracketLength rest
    (if body.2 then .quotedName else .illegal, body.1 + 1)
  | number => cutNumber (c :: rest)
  | blob => cutBlob (c :: rest)
  | word => (.word, 1 + countWhile isNameChar rest)
  | numbered => (.variable, 1 + countWhile Char.isDigit rest)
  | named => cutVariable (c :: rest)
  | pair => (.symbol, 2)
  | single => (.symbol, 1)
  | other => (.illegal, 1)

def cut : Text → Kind × Nat
  | [] => (.finish, 0)
  | c :: rest => (opening c rest.head? (rest.length > 1)).cut c rest

/-- The pieces of a text, at most `limit` of them. -/
def piecesFrom : Nat → Text → List (Kind × Text)
  | 0, _ => []
  | _, [] => []
  | limit + 1, c :: s =>
    let piece := cut (c :: s)
    (piece.1, (c :: s).take piece.2) :: piecesFrom limit ((c :: s).drop piece.2)

/-- The pieces of a text: lexemes, spaces and comments. -/
def pieces (s : Text) : List (Kind × Text) := piecesFrom s.length s

/-- The lexemes of pieces; `lead` and `offset` are the blanks and the bytes in front. -/
def placeFrom (lead : Text) (offset : Nat) : List (Kind × Text) → List Lexeme
  | [] => [⟨.finish, [], lead, offset, 0⟩]
  | (.blank, text) :: rest => placeFrom (lead ++ text) (offset + Utf8.size text) rest
  | (kind, text) :: rest =>
    ⟨kind, text, lead, offset, 0⟩ :: placeFrom [] (offset + Utf8.size text) rest

/-- The variables get numbers: a bare one the next, one with a number that number, and a name the number
that it had before, if any. -/
def numberFrom (names : List (Text × Nat)) (highest : Nat) : List Lexeme → List Lexeme
  | [] => []
  | l :: rest =>
    if l.kind = .variable then
      let given : Option Nat :=
        if l.text.length = 1 then none
        else if l.text.head? = some '?' then some (Text.digitsValue (l.text.drop 1))
        else names.lookup l.text
      let n := given.getD (highest + 1)
      { l with number := n } :: numberFrom ((l.text, n) :: names) (max highest n) rest
    else l :: numberFrom names highest rest

/-- The lexemes of a statement; a null character ends it. -/
def lexemes (sql : Text) : List Lexeme :=
  numberFrom [] 0 (placeFrom [] 0 (pieces (sql.takeWhile (·.toNat != 0))))

/-- The text inside a quoted piece, with doubled quotes as one. -/
def undouble (quote : Char) : Text → Text
  | c :: d :: s => if c = quote ∧ d = quote then c :: undouble quote s else c :: undouble quote (d :: s)
  | s => s

namespace Lexeme

def unquoted (l : Lexeme) : Text :=
  match l.text with
  | '[' :: rest => rest.dropLast
  | c :: rest => if c = '"' ∨ c = '`' ∨ c = '\'' then undouble c rest.dropLast else l.text
  | [] => []

def isWord (l : Lexeme) (keyword : String) : Bool :=
  l.kind == .word && Text.lower l.text == keyword.toList

def isSymbol (l : Lexeme) (symbol : String) : Bool := l.kind == .symbol && l.text == symbol.toList

end Lexeme

end SheetQuery.Sql
