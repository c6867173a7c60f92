import BrokerWire.Number.Double.Text

namespace BrokerWire

/-- A JSON value. Whole numbers and floating point numbers are kept apart, since a field of one kind
does not take the other. -/
inductive Json where
  | null
  | bool (value : Bool)
  | integer (value : Int)
  | double (value : Double)
  | string (value : String)
  | array (items : List Json)
  | object (members : List (String × Json))

namespace Json

def find? (key : String) : List (String × Json) → Option Json
  | [] => none
  | (name, value) :: rest => if name = key then some value else find? key rest

/-- The object with one more member, in place of an earlier one of that name. -/
def insert (members : List (String × Json)) (name : String) (value : Json) :
    List (String × Json) :=
  if members.any fun m => m.1 = name then
    members.map fun m => if m.1 = name then (name, value) else m
  else members ++ [(name, value)]

end Json

end BrokerWire
