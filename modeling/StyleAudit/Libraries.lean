import StyleAudit.Config
import StyleAudit.Display
import StyleAudit.Language
import StyleAudit.Syntax.Node

/-!
The libraries that the program is built on. A run is given them, and relies on nothing about them but
the types of their functions.
-/

namespace StyleAudit

structure Libraries where
  parse : Language → List UInt8 → Syntax.Node
  load : Loader
  /-- The markup that shows a text as it is. -/
  escape : String → String
  /-- What the stream of a terminal is given to encode when something is shown on it. -/
  drawn : Terminal → Display → String
  /-- What the stream of a terminal is given to encode when a text is put out. -/
  echoed : Terminal → String → String

end StyleAudit
