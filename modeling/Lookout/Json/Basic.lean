/-!
# JSON values

The values that travel between the console and the device.  Whole numbers of sixty-four bits are
kept apart from all other numbers, and the members of an object are sorted by name, so that equal
objects have one form.

## Main definitions

* `Json.Number`, `Json` — the values.
* `Json.insert` — adds a member; a name that is there already gets the new value.
* `Json.get?` — looks a member up.
-/

namespace Lookout

/-- A JSON number: whole if it is written without point and exponent and has at most sixty-four
bits, a float otherwise. -/
inductive Json.Number where
  | whole (n : Int)
  | float (x : Float)

/-- A JSON value. -/
inductive Json where
  | null
  | bool (b : Bool)
  | number (n : Json.Number)
  | string (s : String)
  | array (items : List Json)
  | object (members : List (String × Json))

namespace Json

instance : Inhabited Json := ⟨null⟩

/-- A whole number. -/
def nat (n : Nat) : Json := .number (.whole n)

/-- Puts a member at its place in a sorted list of members, instead of one of that name. -/
def insert (name : String) (value : Json) : List (String × Json) → List (String × Json)
  | [] => [(name, value)]
  | (other, old) :: rest =>
    if name < other then (name, value) :: (other, old) :: rest
    else if name = other then (name, value) :: rest
    else (other, old) :: insert name value rest

/-- Sorts members by name; of several with one name the last stays. -/
def sortMembers (members : List (String × Json)) : List (String × Json) :=
  members.foldl (fun sorted (name, value) => insert name value sorted) []

/-- The object with these members. -/
def ofMembers (members : List (String × Json)) : Json := .object (sortMembers members)

/-- The value of a member; a value that is no object has none. -/
def get? (value : Json) (name : String) : Option Json :=
  match value with
  | .object members => members.lookup name
  | _ => none

/-- The whole number that fits a signed word of sixty-four bits, if the value is one. -/
def asInt64? : Json → Option Int
  | .number (.whole n) => if n ≤ Int64.maxValue.toInt then some n else none
  | _ => none

/-- The kind of a value, with its article. -/
def article : Json → String
  | .null => "null"
  | .bool _ => "a boolean"
  | .number _ => "a number"
  | .string _ => "a string"
  | .array _ => "an array"
  | .object _ => "an object"

end Json

end Lookout
