namespace BrokerWire

/-- A finite enumeration whose members have integer codes and names. -/
class Numbered (κ : Type) where
  members : List κ
  code : κ → Int32
  name : κ → String

namespace Numbered

variable {κ : Type} [Numbered κ]

def ofCode? (c : Int32) : Option κ :=
  (members : List κ).find? fun member => code member = c

def ofName? (text : String) : Option κ :=
  (members : List κ).find? fun member => name member = text

end Numbered

end BrokerWire
