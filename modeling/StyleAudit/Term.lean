import StyleAudit.Syntax.Node

/-!
What the analysis sees of a source: terms of a closed set of shapes, and the four kinds of site at
which styles are defined or used. A shape without a rule of its own is `Term.other`, a position where
the source has nothing is `Term.absent`.
-/

namespace StyleAudit

open Syntax (Location)

inductive Term where
  | absent
  | other (kind : String) (loc : Location)
  | identifier (name : String) (loc : Location)
  /-- An access to a member; the member is `none` when it cannot be read from the source. -/
  | member (object : Term) (member : Option String) (loc : Location)
  | spread (argument : Term) (loc : Location)
  | array (elements : List Term) (loc : Location)
  /-- An entry of an object; computed and numeric keys are `none`. -/
  | property (key : Option String) (value : Term) (loc : Location)
  | object (entries : List Term) (loc : Location)
  | conditional (test consequent alternate : Term) (loc : Location)
  | logical (operator : String) (left right : Term) (loc : Location)
  | binary (operator : String) (left right : Term) (loc : Location)
  | unary (operator : String) (argument : Term) (loc : Location)
  | update (operator : String) (argument : Term) (loc : Location)
  | call (callee : Term) (arguments : List Term) (loc : Location)
  /-- An object taken apart; only keys that can be read from the source are kept. -/
  | objectPattern (keys : List String) (loc : Location)
  | binding (target init : Term) (loc : Location)
  | attr (name : Option String) (value : Term) (loc : Location)
  | returned (argument : Term) (loc : Location)
  | assignment (operator : String) (target value : Term) (loc : Location)
  deriving Inhabited

structure Entry where
  key : Option String
  value : Term
  loc : Location
  deriving Inhabited

namespace Term

def isAbsent : Term → Bool
  | absent => true
  | _ => false

def asEntry : Term → Option Entry
  | property key value loc => some ⟨key, value, loc⟩
  | _ => none

end Term

def Entry.toTerm (e : Entry) : Term := .property e.key e.value e.loc

inductive Site where
  | binding (target init : Term) (loc : Location)
  | attr (name : Option String) (value : Term) (loc : Location)
  | returned (argument : Term) (loc : Location)
  | assignment (operator : String) (target value : Term) (loc : Location)
  deriving Inhabited

inductive Shape where
  | binding
  | attr
  | returned
  | assignment
  deriving Repr, DecidableEq, Inhabited

namespace Site

def shape : Site → Shape
  | binding .. => .binding
  | attr .. => .attr
  | returned .. => .returned
  | assignment .. => .assignment

def toTerm : Site → Term
  | binding target init loc => .binding target init loc
  | attr name value loc => .attr name value loc
  | returned argument loc => .returned argument loc
  | assignment operator target value loc => .assignment operator target value loc

end Site

end StyleAudit
