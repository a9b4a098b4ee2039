import Blitter.Text.Hex

/-!
# Log events

An event says what happened, in which part of the program, and how much it matters. Parts are
named by paths such as `g2d::device`. A log shows an event in one line; a character of its message
that could steer the terminal is written by its number.
-/

namespace Blitter

/-- How much an event matters, the gravest first. -/
inductive Level where
  | error
  | warn
  | info
  | debug
  | trace
  deriving DecidableEq, Repr

namespace Level

/-- The rank of a level: a filter that lets a level through lets every lower rank through. -/
def rank : Level → Nat
  | error => 1
  | warn => 2
  | info => 3
  | debug => 4
  | trace => 5

/-- The level in a log line. -/
def text : Level → String
  | error => "ERROR"
  | warn => "WARN"
  | info => "INFO"
  | debug => "DEBUG"
  | trace => "TRACE"

end Level

/-- A **log event**. -/
structure Event where
  level : Level
  /-- The part of the program that speaks. -/
  part : String
  message : String
  deriving DecidableEq, Repr

namespace Event

/-- How a log line writes one character of a message. The controls that ring the bell, step back,
feed a form, start an escape sequence or delete have two digits, and those of the upper set are
written in braces; every other character stands for itself. -/
def shown (c : Char) : List Char :=
  if c.toNat ∈ [0x07, 0x08, 0x0C, 0x1B, 0x7F] then
    '\\' :: 'x' :: Text.hexChars .lower 2 c.toNat
  else if 0x80 ≤ c.toNat ∧ c.toNat ≤ 0x9F then
    '\\' :: 'u' :: '\x7b' :: Text.hexDigits .lower c.toNat ++ ['\x7d']
  else [c]

/-- The line that a log shows for the event. -/
def line (e : Event) : String :=
  e.level.text ++ " " ++ e.part ++ ": " ++ String.ofList (e.message.toList.flatMap shown)

end Event

/-- A list as messages show it. -/
def bracketed (items : List String) : String := "[" ++ ", ".intercalate items ++ "]"

end Blitter
