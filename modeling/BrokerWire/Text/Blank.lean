namespace BrokerWire.Blank

/-- Whether a character has the white space property. -/
def isBlank (c : Char) : Bool :=
  let n := c.toNat
  (9 ≤ n && n ≤ 13) || n = 0x20 || n = 0x85 || n = 0xA0 || n = 0x1680
    || (0x2000 ≤ n && n ≤ 0x200A) || n = 0x2028 || n = 0x2029 || n = 0x202F || n = 0x205F
    || n = 0x3000

/-- The parts of a text between the characters that `cut` holds of; empty parts are dropped. -/
def partsBy (cut : Char → Bool) : (part : List Char) → List Char → List (List Char)
  | part, [] => if part = [] then [] else [part.reverse]
  | part, c :: rest =>
    if cut c then
      if part = [] then partsBy cut [] rest else part.reverse :: partsBy cut [] rest
    else partsBy cut (c :: part) rest

def parts (cut : Char → Bool) (text : List Char) : List (List Char) :=
  partsBy cut [] text

def trim (text : List Char) : List Char :=
  ((text.dropWhile isBlank).reverse.dropWhile isBlank).reverse

end BrokerWire.Blank
