import StyleAudit.EnvFile
import StyleAudit.Libraries
import StyleAudit.Syntax.Program
import StyleAudit.Text.Markup

/-!
The libraries that the program comes with. Sources are free of syntax errors for this parser, and
tables are drawn as plain text.
-/

namespace StyleAudit

open Text

namespace Language

def isTyped : Language → Bool
  | javascript => false
  | typescript | tsx => true

/-- Whether the language has markup elements; where it has none, `<T>x` gives `x` a type. -/
def hasMarkup : Language → Bool
  | typescript => false
  | javascript | tsx => true

end Language

def Display.lines : Display → List String
  | .progress _ => []
  | .print objects => objects.flatMap fun
    | .text text => [shownText text]
    | .object table => { table with rows := table.rows.map (List.map shownText) }.lines

def Libraries.builtin : Libraries where
  parse language bytes :=
    Syntax.parseSource (.ofBytes ⟨bytes.toArray⟩ language.isTyped language.hasMarkup)
  load := EnvFile.load
  escape := escapeMarkup
  drawn _ display := String.join (display.lines.map (· ++ "\n"))
  echoed _ text := text

end StyleAudit
