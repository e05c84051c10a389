import StyleAudit.Syntax.Statement

/-!
Whole sources. The rules are joined into a grammar that nests as deep as a source of a given size can
ask for, and a source is read statement by statement.
-/

namespace StyleAudit.Syntax

open Reader

def Grammar.upTo : Nat → Grammar
  | 0 => .nothing
  | depth + 1 =>
    { expression := fun context source offset => expressionRule (upTo depth) context source offset
      assignment := fun context source offset => assignmentRule (upTo depth) context source offset
      unary := fun context source offset => unaryRule (upTo depth) context source offset
      pattern := fun source offset => patternRule (upTo depth) source offset
      type := fun source offset => typeRule (upTo depth) source offset
      element := fun source offset => elementRule (upTo depth) source offset
      statement := fun source offset => statementRule (upTo depth) source offset }

/-- Between two bytes of a source, rules nest in a chain of a few links only. -/
def nestingBound (s : Source) : Nat := 8 * s.size + 64

/-- The next statement of a source; a token that starts none is passed over. -/
def topLevel (g : Grammar) : Reader (Option Node) := do
  if ← atEnd then return none
  match ← optionally g.statement with
  | some statement => return some statement
  | none =>
    let start ← tokenStart
    moveTo (start + 1)
    return some (.branch "ERROR" ((← source).point start) [])

/-- The offset behind a first line that names an interpreter. -/
def firstOffset (s : Source) : Nat :=
  let start := if s.charAt 0 == '\xEF' then 3 else 0
  if s.hasText start "#!" then s.lineCommentEnd s.size start else 0

def parseSource (s : Source) : Node :=
  let statements := match collect (topLevel (.upTo (nestingBound s))) s (firstOffset s) with
    | some (statements, _) => statements
    | none => []
  .branch "program" (s.point (s.nextToken 0).1) statements

end StyleAudit.Syntax
