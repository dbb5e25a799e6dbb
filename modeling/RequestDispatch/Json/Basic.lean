import RequestDispatch.NameMap

/-!
# JSON Values

The data that controllers answer with and that templates read. The members of an object are
kept in name order, each name once; `Json.ofMembers` brings them into this form.
-/

namespace RequestDispatch

/-- A number: whole, or binary floating-point. A whole number differs from the
floating-point number of the same value, also when it is written. -/
inductive JsonNumber where
  | whole (value : Int)
  | float (value : Float)

namespace JsonNumber

/-- Equality of numbers. A number that is not a number equals nothing, zero equals its own
negation, and whole numbers equal only whole numbers. -/
def beq : JsonNumber → JsonNumber → Bool
  | whole a, whole b => a == b
  | float a, float b => a == b
  | _, _ => false

instance : BEq JsonNumber := ⟨beq⟩

end JsonNumber

/-- A JSON value. -/
inductive Json where
  | null
  | bool (value : Bool)
  | number (value : JsonNumber)
  | string (value : String)
  | array (items : List Json)
  | object (members : List (String × Json))

namespace Json

instance : Inhabited Json := ⟨null⟩

/-- The object with the given members. Of two members of one name the later counts. -/
def ofMembers (members : List (String × Json)) : Json :=
  object (NameMap.ofList members).entries

/-- A whole number. -/
def int (value : Int) : Json := number (.whole value)

/-- The value of an object's member. -/
def member? (value : Json) (name : String) : Option Json :=
  match value with
  | object members => lookupByName name members
  | _ => none

/-- The object of named texts. -/
def ofTexts (texts : NameMap String) : Json :=
  object (texts.entries.map fun entry => (entry.1, string entry.2))

mutual

/-- Equality of values, number by number as `JsonNumber.beq` has it. -/
def beq : Json → Json → Bool
  | null, null => true
  | bool a, bool b => a == b
  | number a, number b => a == b
  | string a, string b => a == b
  | array a, array b => beqItems a b
  | object a, object b => beqMembers a b
  | _, _ => false

/-- Equality of lists of values. -/
def beqItems : List Json → List Json → Bool
  | [], [] => true
  | a :: as, b :: bs => beq a b && beqItems as bs
  | _, _ => false

/-- Equality of lists of members. -/
def beqMembers : List (String × Json) → List (String × Json) → Bool
  | [], [] => true
  | (name, a) :: as, (name', b) :: bs => name == name' && beq a b && beqMembers as bs
  | _, _ => false

end

instance : BEq Json := ⟨beq⟩

end Json

end RequestDispatch
