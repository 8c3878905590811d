import Mbv.Sequence.Ordered
import Mathlib.Data.String.Basic

namespace Mbv.Settings

inductive Value where
  | string (text : String)
  | integer (value : Int64)
  | float (text : String)
  | boolean (value : Bool)
  | datetime (text : String)
  | array (values : List Value)
  | table (entries : List (String × Value))

abbrev Table := List (String × Value)

namespace Value

inductive InOrder : Value → Prop
  | string {text : String} : InOrder (string text)
  | integer {value : Int64} : InOrder (integer value)
  | float {text : String} : InOrder (float text)
  | boolean {value : Bool} : InOrder (boolean value)
  | datetime {text : String} : InOrder (datetime text)
  | array {values : List Value} (each : ∀ value ∈ values, InOrder value) : InOrder (array values)
  | table {entries : Table} (sorted : Ordered.Sorted entries)
      (each : ∀ entry ∈ entries, InOrder entry.2) : InOrder (table entries)

def asStr : Value → Option String
  | string text => some text
  | _ => none

def asInteger : Value → Option Int
  | integer value => some value.toInt
  | _ => none

def asBool : Value → Option Bool
  | boolean value => some value
  | _ => none

def asArray : Value → Option (List Value)
  | array values => some values
  | _ => none

def asTable : Value → Option Table
  | table entries => some entries
  | _ => none

/-- `Value::get` with a string: only a table has keys. -/
def get (value : Value) (key : String) : Option Value :=
  match value with
  | table entries => Ordered.get key entries
  | _ => none

@[simp] theorem get_table {entries : Table} {key : String} : (table entries).get key = Ordered.get key entries := rfl

end Value

def Document := { table : Table // (Value.table table).InOrder }

theorem Document.get_inOrder (doc : Document) (key : String) : ∀ value ∈ Ordered.get key doc.val, value.InOrder := by
  intro value found
  obtain ⟨table, order⟩ := doc
  cases order with
  | table sorted each => exact each (key, value) (Ordered.mem_of_get found)

end Mbv.Settings
