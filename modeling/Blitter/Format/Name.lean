import Blitter.Failure
import Blitter.Text.Blank

/-!
# Names of formats

A format is named by its catalog name in any letter case, or by its code in hexadecimal digits,
with blank characters around either. Before the digits may stand any number of `0X` and then one
plus sign.
-/

namespace Blitter

namespace FormatCode

/-- The characters after every leading `0X`. -/
def dropRadixMarks : List Char → List Char
  | '0' :: 'X' :: cs => dropRadixMarks cs
  | cs => cs

/-- The word written by hexadecimal digits after at most one plus sign. -/
def readWord? (cs : List Char) : Option UInt32 :=
  let digits := match cs with
    | '+' :: ds => ds
    | ds => ds
  match Text.readHex? digits with
  | some n => if n < 0x100000000 then some (UInt32.ofNat n) else none
  | none => none

/-- The code named by characters in upper case. -/
def ofUpper? (cs : List Char) : Option FormatCode :=
  match Format.catalog.find? fun f => f.name.toList == cs with
  | some f => some f.code
  | none => (readWord? (dropRadixMarks cs)).map FormatCode.mk

/-- The **code that a text names**, if it names one. -/
def ofName? (text : String) : Option FormatCode :=
  ofUpper? ((Text.trimChars text.toList).map Char.toUpper)

/-- The code that a text names; a text that names none is turned down. -/
def ofName (text : String) : Outcome FormatCode :=
  match ofName? text with
  | some c => .ok c
  | none => reject (.unknownFormatName (Text.trim text))

end FormatCode

/-- The layout of a format that is read. -/
def FormatCode.readLayout (c : FormatCode) : Outcome PixelLayout :=
  match c.format? with
  | some f => .ok f.layout
  | none => reject (.unsupportedFormat c)

/-- The layout of a format that is written, and the write pipe's stages it passes by. -/
def FormatCode.writeLayout (c : FormatCode) : Outcome (PixelLayout × StageBypass) :=
  match c.format? with
  | some f =>
    if f.writable then .ok (f.layout, .ofLayout f.layout) else reject (.unsupportedWriteFormat c)
  | none => reject (.unsupportedFormat c)

end Blitter
