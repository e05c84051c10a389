import StyleAudit.Config
import StyleAudit.Text.Utf8

/-!
Files of variables. Each line binds a name to a value, with or without quotes; a line may start with
the word `export`, and a comment runs from a hash to the end of its line. In a value, `${NAME}` stands
for a variable and `${NAME:-text}` for a variable or a text in its stead.

A line that is no binding is passed over as a whole.
-/

namespace StyleAudit.EnvFile

open Text

/-- The value of a name; a line with a name alone gives it none. -/
structure Binding where
  name : String
  value : Option String
  deriving Repr, DecidableEq, Inhabited

def isLineEnd (c : Char) : Bool := c == '\n' || c == '\r'

def isInnerBlank (c : Char) : Bool := isBlank c && !isLineEnd c

def skipInnerBlanks (cs : List Char) : List Char := cs.dropWhile isInnerBlank

/-! ## Lines -/

def commonLineEnds : List Char → List Char
  | [] => []
  | '\r' :: '\n' :: rest => '\n' :: commonLineEnds rest
  | '\r' :: rest => '\n' :: commonLineEnds rest
  | c :: rest => c :: commonLineEnds rest

def afterLine (cs : List Char) : List Char :=
  match cs.dropWhile fun c => !isLineEnd c with
  | _ :: rest => rest
  | [] => []

/-- Passes a comment and the end of the line; none if anything else is left on the line. -/
def lineEnd? (cs : List Char) : Option (List Char) :=
  let rest := match skipInnerBlanks cs with
    | '#' :: comment => comment.dropWhile fun c => !isLineEnd c
    | rest => rest
  match rest with
  | [] => some []
  | c :: rest => if isLineEnd c then some rest else none

/-! ## Names and values -/

def skipExport (cs : List Char) : List Char :=
  match cs with
  | 'e' :: 'x' :: 'p' :: 'o' :: 'r' :: 't' :: c :: rest =>
    if isInnerBlank c then skipInnerBlanks rest else cs
  | _ => cs

def name? (cs : List Char) : Option (List Char × List Char) :=
  match cs with
  | '\'' :: inner =>
    let (name, rest) := inner.span (· != '\'')
    match rest with
    | _ :: rest => if name.isEmpty then none else some (name, rest)
    | [] => none
  | _ =>
    let (name, rest) := cs.span fun c => c != '=' && c != '#' && !isBlank c
    if name.isEmpty then none else some (name, rest)

/-- What stands before the closing quote, and what stands behind it. A quote behind a backslash closes
only if no later one does: `last` is the split at the latest such quote. -/
def quotedSpan (quote : Char) (read : List Char) (last : Option (List Char × List Char)) :
    List Char → Option (List Char × List Char)
  | [] => last
  | [c] => if c == quote then some (read.reverse, []) else last
  | c :: d :: rest =>
    if c == quote then some (read.reverse, d :: rest)
    else if c == '\\' && d == quote then
      quotedSpan quote (d :: c :: read) (some ((c :: read).reverse, rest)) rest
    else quotedSpan quote (c :: read) last (d :: rest)

def escaped? (quote : Char) (c : Char) : Option Char :=
  if c == '\\' || c == '\'' then some c
  else if quote == '\'' then none
  else
    match c with
    | '"' => some '"'
    | 'a' => some '\x07'
    | 'b' => some '\x08'
    | 'f' => some '\x0c'
    | 'n' => some '\n'
    | 'r' => some '\r'
    | 't' => some '\t'
    | 'v' => some '\x0b'
    | _ => none

def unescape (quote : Char) : List Char → List Char
  | '\\' :: c :: rest =>
    match escaped? quote c with
    | some meant => meant :: unescape quote rest
    | none => '\\' :: unescape quote (c :: rest)
  | c :: rest => c :: unescape quote rest
  | [] => []

/-- The part of a line before a comment: blanks and a hash start one. -/
def beforeComment : List Char → List Char
  | [] => []
  | c :: rest =>
    if isBlank c && (rest.dropWhile isBlank).head? == some '#' then [] else c :: beforeComment rest

def value? (cs : List Char) : Option (List Char × List Char) :=
  match cs with
  | [] => some ([], [])
  | c :: rest =>
    if c == '\'' || c == '"' then
      (quotedSpan c [] none rest).map fun (value, rest) => (unescape c value, rest)
    else if isLineEnd c then some ([], cs)
    else
      let (line, rest) := cs.span fun c => !isLineEnd c
      some (stripEnd (beforeComment line), rest)

/-! ## Bindings -/

structure Line where
  binding : Option Binding
  rest : List Char

def boundLine? (name rest : List Char) : Option Line :=
  match skipInnerBlanks rest with
  | '=' :: afterSign =>
    (value? (skipInnerBlanks afterSign)).bind fun (value, rest) =>
      (lineEnd? rest).map fun rest => ⟨some ⟨String.ofList name, some (String.ofList value)⟩, rest⟩
  | rest => (lineEnd? rest).map fun rest => ⟨some ⟨String.ofList name, none⟩, rest⟩

/-- Where reading stops on a line that is no binding: the rest of the line from here is passed over. -/
def brokenFrom (cs : List Char) : List Char :=
  match name? cs with
  | none => cs
  | some (_, rest) =>
    match skipInnerBlanks rest with
    | '=' :: afterSign =>
      let start := skipInnerBlanks afterSign
      match value? start with
      | some (_, rest) => rest
      | none => start
    | rest => rest

def readLine (cs : List Char) : Line :=
  let start := skipExport cs
  match start with
  | '#' :: _ => ⟨none, afterLine start⟩
  | _ =>
    match (name? start).bind fun (name, rest) => boundLine? name rest with
    | some line => line
    | none => ⟨none, afterLine (brokenFrom start)⟩

def readLines : Nat → List Char → List Binding
  | 0, _ => []
  | bound + 1, cs =>
    match stripStart cs with
    | [] => []
    | start =>
      let line := readLine start
      line.binding.toList ++ readLines bound line.rest

def bindings (text : String) : List Binding :=
  let cs := commonLineEnds text.toList
  readLines (cs.length + 1) cs

/-! ## Variables in values -/

inductive Piece where
  | text (chars : List Char)
  | reference (name : String) (fallback : String)
  deriving Repr, DecidableEq, Inhabited

def reference? (cs : List Char) : Option (Piece × List Char) :=
  let (name, rest) := cs.span fun c => c != '\x7d' && c != ':'
  match rest with
  | '\x7d' :: rest => some (.reference (String.ofList name) "", rest)
  | ':' :: '-' :: rest =>
    let (fallback, rest) := rest.span (· != '\x7d')
    match rest with
    | _ :: rest => some (.reference (String.ofList name) (String.ofList fallback), rest)
    | [] => none
  | _ => none

def piecesOf : Nat → List Char → List Piece
  | 0, cs => [.text cs]
  | _, [] => []
  | bound + 1, c :: rest =>
    match c, rest with
    | '$', '\x7b' :: inner =>
      match reference? inner with
      | some (piece, rest) => piece :: piecesOf bound rest
      | none => .text [c] :: piecesOf bound rest
    | c, rest => .text [c] :: piecesOf bound rest

/-- The text of a piece: variables of the process come before those of the file. -/
def Piece.resolve (env : Environment) (known : Registry (Option String)) : Piece → List Char
  | text chars => chars
  | reference name fallback =>
    match env.get? name with
    | some value => value.toList
    | none =>
      match known.get? name with
      | some value => (value.getD "").toList
      | none => fallback.toList

/-- The value of each name, the last binding of a name counting. -/
def resolve (env : Environment) (found : List Binding) : Registry (Option String) :=
  found.foldl (fun known binding =>
    known.put binding.name (binding.value.map fun value =>
      String.ofList ((piecesOf (value.length + 1) value.toList).flatMap (Piece.resolve env known))))
    Registry.empty

/-! ## Loading -/

def text? (bytes : List UInt8) : Option String :=
  let text := Utf8.decode bytes
  if Utf8.encode text = bytes then some text else none

def objection? (name value : String) : Option String :=
  if (name.toList ++ value.toList).contains '\x00' then some "embedded null byte"
  else if name.toList.contains '=' then some "illegal environment variable name"
  else none

def setAll (env : Environment) :
    List (String × Option String) → Environment × Except LoadFailure Unit
  | [] => (env, .ok ())
  | (_, none) :: rest => setAll env rest
  | (name, some value) :: rest =>
    if env.contains name then setAll env rest
    else
      match objection? name value with
      | some reason => (env, .error (.malformed reason))
      | none => setAll (env.put name value) rest

def load : Loader
  | none, env => (env, .ok ())
  | some file, env =>
    if file.readable then
      match text? file.bytes with
      | some text => setAll env (resolve env (bindings text)).entries
      | none => (env, .error (.malformed "'utf-8' codec can't decode the file"))
    else (env, .error (.unreadable "Permission denied"))

end StyleAudit.EnvFile
