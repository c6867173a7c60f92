namespace BrokerWire

/-- A finite set of words, each with the text it is written as and further texts that mean it. -/
class Vocabulary (κ : Type) where
  words : List κ
  text : κ → String
  aliases : κ → List String := fun _ => []

/-- A text code: a known word, or any other text, so that a word the gateway introduces later is
kept as it came. -/
inductive Code (κ : Type) where
  | known (word : κ)
  | other (text : String)
  deriving DecidableEq

namespace Code

variable {κ : Type} [Vocabulary κ]

def text : Code κ → String
  | .known word => Vocabulary.text word
  | .other text => text

/-- The code of a text: the first word that the text means, or else the text itself. -/
def ofText (text : String) : Code κ :=
  match Vocabulary.words.find? fun word : κ =>
      Vocabulary.text word = text || (Vocabulary.aliases word).contains text with
  | some word => .known word
  | none => .other text

def isKnown : Code κ → Bool
  | .known _ => true
  | .other _ => false

end Code

end BrokerWire
