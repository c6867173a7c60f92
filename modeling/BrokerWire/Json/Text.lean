import BrokerWire.Json.Basic

namespace BrokerWire.Json

def hexDigit (n : Nat) : Char :=
  if n < 10 then Char.ofNat (48 + n) else Char.ofNat (87 + n)

/-- A character inside quotes. Quotes, backslashes and control characters are escaped, nothing
else. -/
def quotedChar (c : Char) : List Char :=
  let n := c.toNat
  if n = 0x22 ∨ n = 0x5C then ['\\', c]
  else if n = 8 then ['\\', 'b']
  else if n = 9 then ['\\', 't']
  else if n = 10 then ['\\', 'n']
  else if n = 12 then ['\\', 'f']
  else if n = 13 then ['\\', 'r']
  else if n < 0x20 then ['\\', 'u', '0', '0', hexDigit (n / 16), hexDigit (n % 16)]
  else [c]

def quoted (text : String) : String :=
  String.ofList ('\x22' :: (text.toList.flatMap quotedChar ++ ['\x22']))

mutual

/-- The compact text of a value; the writer of floating point numbers is given. -/
def render (double : Double → String) : Json → String
  | .null => "null"
  | .bool true => "true"
  | .bool false => "false"
  | .integer n => String.ofList (Number.integerText n)
  | .double d => double d
  | .string s => quoted s
  | .array items => "[" ++ String.intercalate "," (renderItems double items) ++ "]"
  | .object members => "\x7b" ++ String.intercalate "," (renderMembers double members) ++ "\x7d"

def renderItems (double : Double → String) : List Json → List String
  | [] => []
  | item :: rest => render double item :: renderItems double rest

def renderMembers (double : Double → String) : List (String × Json) → List String
  | [] => []
  | (name, value) :: rest =>
    (quoted name ++ ":" ++ render double value) :: renderMembers double rest

end

end BrokerWire.Json
