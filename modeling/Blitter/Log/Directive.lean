import Blitter.Log.Event
import Blitter.Text.Blank

/-!
# Directives of a log filter

A directive says down to which level events are shown: a level for every part of the program, or
the start of some parts' paths with a level after an equals sign. Without a level it shows every
event of those parts. Between path and level may stand the name of a span in brackets and, in
braces before the closing bracket, a field that an event has to have, with or without a value.

Blanks around a directive do not count for its shape, but they stay in the text that its parts are
cut from. A part is cut out by the places where it stands once the blanks are gone, counted in
bytes, so that blanks in front of a directive push its parts out of place.
-/

namespace Blitter

/-- A **directive**. -/
structure Directive where
  /-- The start of the paths of the parts that it speaks of. -/
  path : List Char := []
  /-- It asks for a span or for the value of a field, which no event of this program has. -/
  asksForSpan : Bool := false
  /-- A field that an event has to have. -/
  field : Option (List Char) := none
  /-- The highest rank of events that it shows. -/
  rank : Nat := Level.trace.rank
  deriving DecidableEq, Repr

namespace Directive

/-- Why a text is no directive. -/
inductive Fault where
  | malformed
  /-- One of its parts would have to be cut inside a character. -/
  | insideCharacter
  deriving DecidableEq, Repr

/-- A result of reading, or why there is none. -/
abbrev Reading := Except Fault

/-! ### Levels -/

/-- The names of ranks, in order. -/
def rankNames : List (List Char) :=
  ["off", "error", "warn", "info", "debug", "trace"].map String.toList

/-- The number written by decimal digits after at most one plus sign. -/
def number? (cs : List Char) : Option Nat :=
  let digits := match cs with
    | '+' :: ds => ds
    | ds => ds
  if digits.isEmpty || !digits.all Char.isDigit then none
  else some (digits.foldl (fun n c => 10 * n + (c.toNat - 48)) 0)

/-- The rank with a name, in letters of any case, or with a number. -/
def rank? (cs : List Char) : Option Nat :=
  match number? cs with
  | some n => if n ≤ Level.trace.rank then some n else none
  | none => rankNames.findIdx? fun name => name == cs.map Char.toLower

/-! ### Places -/

/-- The number of bytes that characters take. -/
def byteCount (cs : List Char) : Nat := (cs.map Char.utf8Size).foldr (· + ·) 0

/-- The characters after the first `n` bytes, if a character ends there. -/
def dropBytes? : (n : Nat) → List Char → Option (List Char)
  | 0, cs => some cs
  | _ + 1, [] => none
  | n + 1, c :: cs => if c.utf8Size ≤ n + 1 then dropBytes? (n + 1 - c.utf8Size) cs else none

/-- The characters of the first `n` bytes, if a character ends there. -/
def takeBytes? : (n : Nat) → List Char → Option (List Char)
  | 0, _ => some []
  | _ + 1, [] => none
  | n + 1, c :: cs =>
    if c.utf8Size ≤ n + 1 then (takeBytes? (n + 1 - c.utf8Size) cs).map (c :: ·) else none

/-- A **place in a directive**: the text with the blanks around it, the bytes before the place and
the characters after it, both without those blanks. -/
structure Place where
  text : List Char
  offset : Nat
  rest : List Char

namespace Place

/-- The start of a text. -/
def start (text : List Char) : Place := ⟨text, 0, Text.trimChars text⟩

/-- The place one byte further. -/
def next (p : Place) : Place := { p with offset := p.offset + 1, rest := p.rest.tail }

/-- The first place from here on that is in front of one of the given characters. -/
def before (p : Place) (stops : List Char) : Place :=
  let passed := p.rest.takeWhile fun c => !stops.contains c
  { p with offset := p.offset + byteCount passed, rest := p.rest.drop passed.length }

/-- The part of the text that is left from here on. -/
def remainder (p : Place) : Reading (List Char) :=
  match dropBytes? p.offset p.text with
  | some cs => .ok cs
  | none => .error .insideCharacter

/-- The part of the text from here to another place. -/
def upTo (p q : Place) : Reading (List Char) := do
  let cs ← p.remainder
  match takeBytes? (q.offset - p.offset) cs with
  | some part => .ok part
  | none => .error .insideCharacter

end Place

/-! ### Reading -/

/-- The rank that is named from here to the end; the highest one if nothing is left. -/
def rankFrom (p : Place) : Reading Nat := do
  let level ← p.remainder
  if level.isEmpty then return Level.trace.rank
  else
    match rank? level with
    | some rank => return rank
    | none => .error .malformed

/-- What follows the brackets: nothing, or a level. -/
def readLevel (d : Directive) (p : Place) : Reading Directive :=
  match p.rest with
  | [] => .ok d
  | '=' :: _ => do
    let rank ← rankFrom p.next
    return { d with rank }
  | _ => .error .malformed

/-- What follows the opening brace. -/
def readField (d : Directive) (p : Place) : Reading Directive := do
  let close := p.before ['\x7d']
  if close.rest.isEmpty then .error .malformed
  else
    let field ← p.upTo close
    let after := close.next
    if field.isEmpty || after.rest.head? != some ']' then .error .malformed
    else
      readLevel
        { d with
          field := some (field.takeWhile (· != '='))
          asksForSpan := d.asksForSpan || field.contains '=' } after.next

/-- What follows the opening bracket. -/
def readSpan (d : Directive) (p : Place) : Reading Directive := do
  let stop := p.before [']', '\x7b']
  if stop.rest.isEmpty then .error .malformed
  else
    let span ← p.upTo stop
    if stop.rest.head? = some ']' then readLevel { d with asksForSpan := true } stop.next
    else readField { d with asksForSpan := !span.isEmpty } stop.next

/-- A character that a path or a level may start with. Characters beyond ASCII all count as
letters. -/
def startsPath (c : Char) : Bool :=
  c.isAlphanum || c == '_' || c == '-' || c == ':' || 0x80 ≤ c.toNat

/-- **Reads a directive.** -/
def read (text : List Char) : Reading Directive :=
  let p := Place.start text
  match p.rest with
  | [] => .error .malformed
  | '[' :: _ => readSpan {} p.next
  | c :: _ =>
    if startsPath c then
      let stop := p.before ['=', '[']
      match stop.rest with
      | '=' :: _ => do
        let path ← p.upTo stop
        let rank ← rankFrom stop.next
        return { path, rank }
      | '[' :: _ => do
        let path ← p.upTo stop
        readSpan { path } stop.next
      | _ =>
        match rank? text with
        | some rank => .ok { rank }
        | none => .ok { path := text }
    else .error .malformed

end Directive

end Blitter
