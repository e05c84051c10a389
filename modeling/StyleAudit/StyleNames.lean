import StyleAudit.Names
import StyleAudit.Term

/-!
The style names that an expression may refer to.

Every rule errs towards a reference: a style wrongly taken as used only hides a report, one wrongly
taken as unused is a false alarm. A value flows through arrays, spreads, conditions and operators; it
does not flow out of a call, and an access counts for its member only when its object is a plain name.
-/

namespace StyleAudit

abbrev Containers := Registry NameSet

/-- The names behind a bare identifier: a container handed on as a whole may be asked for any of its
styles. -/
def Containers.members (containers : Containers) (name : String) : List String :=
  match containers.get? name with
  | some members => members.toList
  | none => []

def accessedName : Term → Option String → List String
  | .identifier .., some member => if member.isEmpty then [] else [member]
  | _, _ => []

mutual

def styleNames (containers : Containers) : Term → List String
  | .member object member _ => accessedName object member
  | .array elements _ => styleNamesOfAll containers elements
  | .spread argument _ => styleNames containers argument
  | .conditional test consequent alternate _ =>
    styleNames containers consequent ++ styleNames containers alternate ++ styleNames containers test
  | .identifier name _ => containers.members name
  | .object entries _ => styleNamesOfEntries containers entries
  | .property _ value _ => styleNames containers value
  | .logical _ left right _ => styleNames containers left ++ styleNames containers right
  | .binary _ left right _ => styleNames containers left ++ styleNames containers right
  | .unary _ argument _ => styleNames containers argument
  | .update _ argument _ => styleNames containers argument
  | .absent | .other .. | .call .. | .objectPattern .. | .binding .. | .attr .. | .returned ..
  | .assignment .. => []

def styleNamesOfAll (containers : Containers) : List Term → List String
  | [] => []
  | t :: rest => styleNames containers t ++ styleNamesOfAll containers rest

/-- The names that the entries of an object refer to; what is neither an entry nor a spread is passed
over. -/
def styleNamesOfEntries (containers : Containers) : List Term → List String
  | [] => []
  | .property _ value _ :: rest => styleNames containers value ++ styleNamesOfEntries containers rest
  | .spread argument _ :: rest => styleNames containers argument ++ styleNamesOfEntries containers rest
  | _ :: rest => styleNamesOfEntries containers rest

end

end StyleAudit
