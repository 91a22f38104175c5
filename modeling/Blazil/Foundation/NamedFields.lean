import Mathlib.Algebra.Ring.Int.Defs
import Mathlib.Algebra.Ring.Nat
import Mathlib.Data.List.Basic

/-! Messages as lists of named fields, and a reader that is driven by the fields of a
record. The fields of a message are checked as they come; unknown ones are skipped, and a
field of the record that never came is missing. -/

set_option autoImplicit false

namespace Foundation

inductive Datum where
  | null
  | bool (value : Bool)
  | int (value : Int)
  | text (value : String)
deriving DecidableEq

abbrev Message := List (String × Datum)

/-- The types of the fields of a record: texts, and unsigned numbers of some width. -/
inductive Kind where
  | text
  | unsigned (bits : Nat)
deriving DecidableEq

inductive ReadError where
  | missingField (name : String)
  | duplicateField (name : String)
  | invalidType (found expected : String)
  | invalidValue (found expected : String)
deriving DecidableEq

def ReadError.message : ReadError → String
  | missingField name => "missing field `" ++ name ++ "`"
  | duplicateField name => "duplicate field `" ++ name ++ "`"
  | invalidType found expected => "invalid type: " ++ found ++ ", expected " ++ expected
  | invalidValue found expected => "invalid value: " ++ found ++ ", expected " ++ expected

/-- How an error names a datum that was not expected. -/
def Datum.unexpected : Datum → String
  | null => "unit value"
  | bool value => "boolean `" ++ toString value ++ "`"
  | int value => "integer `" ++ toString value ++ "`"
  | text value => "string " ++ value.quote

def Kind.expected : Kind → String
  | text => "a string"
  | unsigned bits => "u" ++ toString bits

def Kind.check : Kind → Datum → Option ReadError
  | .text, .text _ => none
  | .unsigned bits, .int value =>
    if 0 ≤ value ∧ value < 2 ^ bits then none
    else some (.invalidValue (Datum.int value).unexpected (Kind.unsigned bits).expected)
  | kind, datum => some (.invalidType datum.unexpected kind.expected)

namespace Message

def scan (fields : List (String × Kind)) : List String → Message → Except ReadError Unit
  | _, [] => .ok ()
  | seen, (name, datum) :: rest =>
    match fields.lookup name with
    | none => scan fields seen rest
    | some kind =>
      if name ∈ seen then .error (.duplicateField name)
      else
        match kind.check datum with
        | some cause => .error cause
        | none => scan fields (name :: seen) rest

def check (fields : List (String × Kind)) (message : Message) : Except ReadError Unit :=
  match scan fields [] message with
  | .error cause => .error cause
  | .ok () =>
    match fields.find? fun field => (message.lookup field.1).isNone with
    | some field => .error (.missingField field.1)
    | none => .ok ()

def textOf (message : Message) (name : String) : String :=
  match message.lookup name with
  | some (.text value) => value
  | _ => ""

def numberOf (message : Message) (name : String) : Nat :=
  match message.lookup name with
  | some (.int value) => value.toNat
  | _ => 0

theorem present_of_check {fields message} (accepted : check fields message = .ok ())
    {field} (member : field ∈ fields) : (message.lookup field.1).isSome = true := by
  unfold check at accepted
  split at accepted
  · cases accepted
  · cases absent : fields.find? fun field => (message.lookup field.1).isNone with
    | some =>
      rw [absent] at accepted
      cases accepted
    | none =>
      have present := List.find?_eq_none.mp absent field member
      simpa using present

end Message

end Foundation
