import Blitter.Config.File
import Blitter.Request.Reader

/-!
# Request files

A request, or a job, is kept in a TOML document. A job is read more strictly than a request:
an array that stands for a record has no more items than the record has fields.
-/

namespace Blitter

open Data Toml

/-- The composition request in the text of a file. -/
def Request.load (text : String) : Option Request :=
  (Codec.standard.parse text).bind (Request.read Toml.dialect)

/-- How records and alternatives are read for a job. -/
def Job.dialect : Dialect :=
  { surplusItems := false
    besideName := fun
      | .table [] => true
      | _ => false }

/-- The job in the text of a file. -/
def Job.loadWith (t : Codec) (text : String) : Option Job :=
  (t.parse text).bind (Job.read Job.dialect)

end Blitter
