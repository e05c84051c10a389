import StyleAudit.Term

/-!
What the sites of a file mean to the analysis.

A container is defined by binding a name to `StyleSheet.create(...)`. Styles are used by taking a
container apart, by attributes whose name ends in `style` or `Style`, by returned values and by
assigned values.
-/

namespace StyleAudit

def Term.isStyleFactoryCall : Term → Bool
  | .call (.member (.identifier factory _) (some method) _) _ _ =>
    factory == "StyleSheet" && method == "create"
  | _ => false

/-- Whether an attribute of this name carries styles: it ends in `style` or `Style`, where one line
break at the very end does not count. -/
def isStyleAttributeName (name : String) : Bool :=
  let ends (reversed : List Char) : Bool :=
    match reversed with
    | 'e' :: 'l' :: 'y' :: 't' :: s :: _ => s == 's' || s == 'S'
    | _ => false
  match name.toList.reverse with
  | '\n' :: rest => ends rest
  | reversed => ends reversed

inductive Visit where
  | definition (container : String) (arguments : List Term)
  | destructuring (keys : List String) (source : String)
  | usage (value : Term)
  deriving Inhabited

namespace Visit

def definition? : Site → Option Visit
  | .binding (.identifier name _) init _ =>
    if init.isStyleFactoryCall then
      match init with
      | .call _ arguments _ => some (.definition name arguments)
      | _ => none
    else none
  | _ => none

def destructuring? : Site → Option Visit
  | .binding (.objectPattern keys _) (.identifier source _) _ => some (.destructuring keys source)
  | _ => none

def styleAttribute? : Site → Option Visit
  | .attr (some name) value _ =>
    if isStyleAttributeName name && !value.isAbsent then some (.usage value) else none
  | _ => none

def returned? : Site → Option Visit
  | .returned argument _ => some (.usage argument)
  | _ => none

def assigned? : Site → Option Visit
  | .assignment _ _ value _ => some (.usage value)
  | _ => none

end Visit

namespace Site

def isContainerDefinition (s : Site) : Bool := (Visit.definition? s).isSome

def isContainerDestructuring (s : Site) : Bool := (Visit.destructuring? s).isSome

def isStyleAttribute (s : Site) : Bool := (Visit.styleAttribute? s).isSome

end Site

end StyleAudit
