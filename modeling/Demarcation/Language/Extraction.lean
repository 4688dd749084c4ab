import Demarcation.Language.GoDeclarations
import Demarcation.Language
import Demarcation.Language.PythonDeclarations
import Demarcation.Language.Strict.Declarations

namespace Demarcation

/-- The declarations of a text. A text that does not follow the grammar of its language is refused as a whole. -/
def Language.extract : Language → String → String → Except Fault Extraction
  | .go => Go.extract
  | .python => Python.extract

end Demarcation
