import CharacterSheet.Settings

/-!
# The words of previews
-/

namespace CharacterSheet

/-- What previews say in one language. -/
structure Wording where
  statNotFound : Int → String
  sectionNotFound : Int → String
  unknownProperty : String → String
  calculated : String
  mathError : String → String
  diceError : String → String
  unnamedStat : Int → String
  unnamedSection : Int → String
  unnamedOption : String

namespace Wording

/-- English. -/
def english : Wording where
  statNotFound id := "[Stat " ++ toString id ++ " not found]"
  sectionNotFound id := "[Section " ++ toString id ++ " not found]"
  unknownProperty word := "[unknown property " ++ word ++ "]"
  calculated := "[calculated]"
  mathError expression := "[Error: " ++ expression ++ "]"
  diceError message := "[Dice error: " ++ message ++ "]"
  unnamedStat id := "Stat " ++ toString id
  unnamedSection id := "Section " ++ toString id
  unnamedOption := "Option 1"

/-- Portuguese. -/
def portuguese : Wording where
  statNotFound id := "[Stat " ++ toString id ++ " não encontrado]"
  sectionNotFound id := "[Seção " ++ toString id ++ " não encontrada]"
  unknownProperty word := "[propriedade " ++ word ++ " desconhecida]"
  calculated := "[calculado]"
  mathError expression := "[Erro: " ++ expression ++ "]"
  diceError message := "[Erro dados: " ++ message ++ "]"
  unnamedStat id := "Stat " ++ toString id
  unnamedSection id := "Seção " ++ toString id
  unnamedOption := "Opção 1"

end Wording

/-- What previews say in a language. -/
def Language.wording : Language → Wording
  | .english => .english
  | .portuguese => .portuguese

end CharacterSheet
