import Blitter.Data.Value

/-!
# Records to be written

What a document is made of when it is written: a record is a list of named fields, some of which
may hold nothing. How it becomes a text is up to the format.
-/

namespace Blitter.Data

/-- What a field **holds**. -/
inductive Item where
  | string (s : String)
  | integer (n : Nat)
  deriving DecidableEq, Repr

/-- The item as the value of a document. -/
def Item.value : Item → Value
  | string s => .string s
  | integer n => .integer n

/-- A **record**: its fields by their names, in order, those that hold nothing among them. -/
structure Record where
  fields : List (String × Option Item)
  deriving DecidableEq, Repr

namespace Record

/-- The fields that hold anything. -/
def present (r : Record) : List (String × Item) :=
  r.fields.filterMap fun field => field.2.map fun item => (field.1, item)

@[simp] theorem present_cons_none (name : String) (fields : List (String × Option Item)) :
    present ⟨(name, none) :: fields⟩ = present ⟨fields⟩ := rfl

@[simp] theorem present_cons_some (name : String) (item : Item)
    (fields : List (String × Option Item)) :
    present ⟨(name, some item) :: fields⟩ = (name, item) :: present ⟨fields⟩ := rfl

theorem forall_mem_present_iff {r : Record} {p : String × Item → Prop} :
    (∀ field ∈ r.present, p field) ↔ ∀ field ∈ r.fields, ∀ item ∈ field.2, p (field.1, item) := by
  simp only [present, List.mem_filterMap, Option.map_eq_some_iff]
  constructor
  · exact fun h field hfield item hitem => h _ ⟨field, hfield, item, hitem, rfl⟩
  · rintro h _ ⟨field, hfield, item, hitem, rfl⟩
    exact h field hfield item hitem

/-- The value of the field of that name, if there is one and it holds anything. -/
def value? (r : Record) (name : String) : Option Value :=
  (r.fields.lookup name).bind fun item => item.map Item.value

end Record

end Blitter.Data
