/-!
# Characters and blanks of TOML

The character classes of TOML 1.0 and the text between its tokens: blanks, newlines and comments.
-/

namespace Blitter.Toml

/-- A blank inside a line. -/
def isSpace (c : Char) : Bool := c == ' ' || c == '\t'

/-- A character beyond ASCII; all of them may stand in comments and strings. -/
def isWide (c : Char) : Bool := 0x80 ≤ c.toNat

/-- A character of a comment or of a literal string, the quote aside: any but control
characters. -/
def isPlain (c : Char) : Bool := c == '\t' || (0x20 ≤ c.toNat && c.toNat ≤ 0x7E) || isWide c

/-- The text after blanks. -/
def skipSpaces (s : List Char) : List Char := s.dropWhile isSpace

/-- The text after a newline, if it starts with one. -/
def newline? : List Char → Option (List Char)
  | '\n' :: s => some s
  | '\r' :: '\n' :: s => some s
  | _ => none

/-- The text after a comment, if it starts with one. -/
def skipComment : List Char → List Char
  | '#' :: s => s.dropWhile isPlain
  | s => s

/-- The text after the end of a line, with nothing but blanks and a comment before it. -/
def lineEnd? (s : List Char) : Option (List Char) :=
  match skipComment (skipSpaces s) with
  | [] => some []
  | s => newline? s

/-- The text after blanks, newlines and comments; `inComment` tells that it starts inside a
comment. -/
def skipGap (inComment : Bool) : List Char → List Char
  | [] => []
  | '\r' :: '\n' :: s => skipGap false s
  | c :: s =>
    if c = '\n' then skipGap false s
    else if inComment then if isPlain c then skipGap true s else c :: s
    else if isSpace c then skipGap false s
    else if c = '#' then skipGap true s
    else c :: s

end Blitter.Toml
