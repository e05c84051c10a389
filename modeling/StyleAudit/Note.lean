/-!
The remarks that are logged while a file is examined.
-/

namespace StyleAudit

inductive Note where
  /-- A style whose key cannot be read from the source was passed over. -/
  | skippedKey (line : Nat)
  | containerDefined (name : String) (styles : Nat)
  | unusedCounted (unused defined : Nat)
  | walked (nodes : Nat)
  deriving Repr, DecidableEq, Inhabited

namespace Note

def origin : Note → String
  | skippedKey _ | containerDefined .. | unusedCounted .. => "stylesweep.analyzer.unused_styles"
  | walked _ => "stylesweep.analyzer.tree_walker"

def text : Note → String
  | skippedKey line => "Skipping non-static style key at line " ++ toString line
  | containerDefined name styles =>
    "Style container '" ++ name ++ "' defines " ++ toString styles ++ " styles"
  | unusedCounted unused defined => toString unused ++ " of " ++ toString defined ++ " styles unused"
  | walked nodes => "Walked " ++ toString nodes ++ " nodes"

def line (n : Note) : String := "DEBUG " ++ n.origin ++ ": " ++ n.text

end Note

end StyleAudit
