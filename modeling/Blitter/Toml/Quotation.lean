import Blitter.Text.Hex
import Blitter.Toml.Lexeme

/-!
# Strings of TOML

A string stands between quotes in one of four ways: with escapes or literally, and on one line or
over several. The readers here start after the opening quotes and give the string and the text
after the closing quotes. `Quotation.write` picks the way that shows a string most plainly.
-/

namespace Blitter.Toml

/-! ### Reading -/

/-- The character of a one-letter escape. -/
def escaped? : Char → Option Char
  | 'b' => some '\x08'
  | 't' => some '\t'
  | 'n' => some '\n'
  | 'f' => some '\x0c'
  | 'r' => some '\r'
  | '"' => some '"'
  | '\\' => some '\\'
  | _ => none

/-- The character whose number is written in hexadecimal digits. -/
def numbered? (digits : List Char) : Option Char :=
  match Text.readHex? digits with
  | some n => if h : n.isValidChar then some (Char.ofNatAux n h) else none
  | none => none

/-- Puts a character before a string that was read. -/
def consRead (c : Char) (r : Option (List Char × List Char)) : Option (List Char × List Char) :=
  r.map fun (cs, s) => (c :: cs, s)

/-- A string with escapes on one line. -/
def readBasic : List Char → Option (List Char × List Char)
  | [] => none
  | '"' :: s => some ([], s)
  | '\\' :: 'u' :: a :: b :: c :: d :: s =>
    (numbered? [a, b, c, d]).bind fun x => consRead x (readBasic s)
  | '\\' :: 'U' :: a :: b :: c :: d :: e :: f :: g :: h :: s =>
    (numbered? [a, b, c, d, e, f, g, h]).bind fun x => consRead x (readBasic s)
  | '\\' :: c :: s => (escaped? c).bind fun x => consRead x (readBasic s)
  | c :: s => if isPlain c && c != '\\' then consRead c (readBasic s) else none

/-- A string without escapes on one line. -/
def readLiteral : List Char → Option (List Char × List Char)
  | [] => none
  | '\'' :: s => some ([], s)
  | c :: s => if isPlain c then consRead c (readLiteral s) else none

/-- A string with escapes over several lines; `trimming` tells that blanks and newlines are passed
over, as they are after a backslash at the end of a line. Up to two quotes may stand before the
three that close the string. -/
def readLongBasic (trimming : Bool) : List Char → Option (List Char × List Char)
  | [] => none
  | '"' :: '"' :: '"' :: '"' :: '"' :: s => some (['"', '"'], s)
  | '"' :: '"' :: '"' :: '"' :: s => some (['"'], s)
  | '"' :: '"' :: '"' :: s => some ([], s)
  | '"' :: s => consRead '"' (readLongBasic false s)
  | '\r' :: '\n' :: s =>
    if trimming then readLongBasic true s else consRead '\n' (readLongBasic false s)
  | '\n' :: s => if trimming then readLongBasic true s else consRead '\n' (readLongBasic false s)
  | '\\' :: 'u' :: a :: b :: c :: d :: s =>
    (numbered? [a, b, c, d]).bind fun x => consRead x (readLongBasic false s)
  | '\\' :: 'U' :: a :: b :: c :: d :: e :: f :: g :: h :: s =>
    (numbered? [a, b, c, d, e, f, g, h]).bind fun x => consRead x (readLongBasic false s)
  | '\\' :: c :: s =>
    if (newline? (skipSpaces (c :: s))).isSome then
      if c = '\r' then
        match s with
        | '\n' :: s => readLongBasic true s
        | _ => none
      else readLongBasic true s
    else (escaped? c).bind fun x => consRead x (readLongBasic false s)
  | c :: s =>
    if trimming && isSpace c then readLongBasic true s
    else if isPlain c && c != '\\' then consRead c (readLongBasic false s)
    else none

/-- A string without escapes over several lines. Up to two quotes may stand before the three that
close the string. -/
def readLongLiteral : List Char → Option (List Char × List Char)
  | [] => none
  | '\'' :: '\'' :: '\'' :: '\'' :: '\'' :: s => some (['\'', '\''], s)
  | '\'' :: '\'' :: '\'' :: '\'' :: s => some (['\''], s)
  | '\'' :: '\'' :: '\'' :: s => some ([], s)
  | '\r' :: '\n' :: s => consRead '\n' (readLongLiteral s)
  | c :: s => if isPlain c || c == '\n' then consRead c (readLongLiteral s) else none

/-- The text after a newline that follows the opening quotes at once; it is not part of the
string. -/
def skipFirstNewline (s : List Char) : List Char := (newline? s).getD s

/-- Any string, from its opening quotes. -/
def readString : List Char → Option (List Char × List Char)
  | '"' :: '"' :: '"' :: s => readLongBasic false (skipFirstNewline s)
  | '"' :: s => readBasic s
  | '\'' :: '\'' :: '\'' :: s => readLongLiteral (skipFirstNewline s)
  | '\'' :: s => readLiteral s
  | _ => none

/-! ### Writing -/

/-- The ways of quoting a string. -/
inductive Quotation where
  | basic
  | literal
  | longBasic
  | longLiteral
  deriving DecidableEq, Repr

namespace Quotation

/-- The longest run of `q` in a text, where a run of `open` characters stands before it and
`best` is the longest so far. -/
def longestRun (q : Char) (run best : Nat) : List Char → Nat
  | [] => best
  | c :: cs =>
    if c = q then longestRun q (run + 1) (max best (run + 1)) cs else longestRun q 0 best cs

/-- A control character that has to be escaped wherever it stands. -/
def isControl (c : Char) : Bool :=
  c != '\t' && c != '\n' && (c.toNat ≤ 0x1F || c.toNat == 0x7F)

/-- The plainest way of quoting a string. -/
def choose (cs : List Char) : Quotation :=
  let control := cs.any isControl
  let backslash := cs.contains '\\'
  let lines := cs.contains '\n'
  let singles := longestRun '\'' 0 0 cs
  let doubles := longestRun '"' 0 0 cs
  if !control && !backslash && doubles == 0 && !lines then basic
  else if !control && singles == 0 && !lines then literal
  else if !control && !backslash && doubles ≤ 2 then longBasic
  else if !control && singles ≤ 2 then longLiteral
  else if lines then longBasic
  else basic

/-- The quotes before and after a string. -/
def delimiter : Quotation → List Char
  | basic => ['"']
  | literal => ['\'']
  | longBasic => ['"', '"', '"']
  | longLiteral => ['\'', '\'', '\'']

/-- The escape of a character in a string with escapes. A quote is looked after by
`escapedChars`. -/
def escapeChar (long : Bool) (c : Char) : List Char :=
  if c = '\x08' then ['\\', 'b']
  else if c = '\t' then ['\\', 't']
  else if c = '\n' then if long then ['\n'] else ['\\', 'n']
  else if c = '\x0c' then ['\\', 'f']
  else if c = '\r' then ['\\', 'r']
  else if c = '\\' then ['\\', '\\']
  else if c.toNat ≤ 0x1F ∨ c.toNat = 0x7F then
    '\\' :: 'u' :: Text.hexChars .upper 4 c.toNat
  else [c]

/-- A string with escapes. On one line every quote is escaped; over several lines only the third
in a row is, and `quotes` counts those before. -/
def escapedChars (long : Bool) (quotes : Nat) : List Char → List Char
  | [] => []
  | c :: cs =>
    if c = '"' then
      if long && quotes < 2 then '"' :: escapedChars long (quotes + 1) cs
      else '\\' :: '"' :: escapedChars long 0 cs
    else escapeChar long c ++ escapedChars long 0 cs

/-- The string between its quotes. A string over several lines starts on a line of its own. -/
def body (q : Quotation) (cs : List Char) : List Char :=
  match q with
  | basic => escapedChars false 0 cs
  | literal => cs
  | longBasic => if cs.contains '\n' then '\n' :: escapedChars true 0 cs else escapedChars true 0 cs
  | longLiteral => if cs.contains '\n' then '\n' :: cs else cs

/-- The longest run of quotes of one kind that a string to be written may have. -/
def runLimit : Nat := 255

/-- **Writes** a string with its quotes; nothing if it has too long a run of quotes. -/
def write? (cs : List Char) : Option (List Char) :=
  if runLimit < longestRun '\'' 0 0 cs ∨ runLimit < longestRun '"' 0 0 cs then none
  else
    let q := choose cs
    some (q.delimiter ++ q.body cs ++ q.delimiter)

end Quotation

end Blitter.Toml
