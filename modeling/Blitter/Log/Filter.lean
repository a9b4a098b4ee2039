import Blitter.Log.Directive

/-!
# Log filters

A filter says down to which level the events of each part of the program are shown. It is written
as directives joined by commas. A directive holds for every part whose path starts like its own,
and the one with the longest path decides.
-/

namespace Blitter

/-- A **log filter**. -/
structure LogFilter where
  directives : List Directive
  deriving DecidableEq, Repr

namespace LogFilter

/-- The pieces of a text between separators. -/
def pieces (separator : Char) (cs : List Char) : List (List Char) :=
  cs.foldr (fun c ps =>
    if c = separator then [] :: ps
    else match ps with
      | p :: ps => (c :: p) :: ps
      | [] => [[c]]) [[]]

/-- The filter that shows events down to a level, whatever their part. -/
def ofLevel (l : Level) : LogFilter := ⟨[{ rank := l.rank }]⟩

/-- The filter as it is written. One that is not written, or that holds a malformed directive,
shows events down to level `info`; one without directives shows errors. There is no answer if a
directive would be cut inside a character. -/
def ofText (text : Option String) : Option LogFilter :=
  match text with
  | none => some (ofLevel .info)
  | some text =>
    match ((pieces ',' text.toList).filter (!·.isEmpty)).mapM Directive.read with
    | .error .malformed => some (ofLevel .info)
    | .error .insideCharacter => none
    | .ok [] => some (ofLevel .error)
    | .ok directives => some ⟨directives⟩

/-- The fields of every event: its message. -/
def eventFields : List (List Char) := ["message".toList]

/-- The directive holds for events of a part. -/
def holds (part : String) (d : Directive) : Bool :=
  !d.asksForSpan && d.path.isPrefixOf part.toList && d.field.all eventFields.contains

/-- The first directive is more general than the second: its path is shorter, or it alone asks for
no field. -/
def isMoreGeneral (d e : Directive) : Bool :=
  d.path.length < e.path.length ||
    (d.path.length == e.path.length && d.field.isNone && e.field.isSome)

/-- The directive that decides between two that hold: the less general one, and among equals the
later one. -/
def closer (best : Option Directive) (d : Directive) : Option Directive :=
  match best with
  | some b => if isMoreGeneral d b then some b else some d
  | none => some d

/-- The highest rank that is shown of a part. -/
def rankFor (f : LogFilter) (part : String) : Nat :=
  match (f.directives.filter (holds part)).foldl closer none with
  | some d => d.rank
  | none => 0

/-- The event is **shown**. -/
def shows (f : LogFilter) (e : Event) : Bool := e.level.rank ≤ f.rankFor e.part

/-- The lines of a log. A message of several lines takes as many in the log. -/
def lines (f : LogFilter) (events : List Event) : List String :=
  (events.filter f.shows).flatMap fun e =>
    (pieces '\n' e.line.toList).map String.ofList

end LogFilter

end Blitter
