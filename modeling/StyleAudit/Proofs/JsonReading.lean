import StyleAudit.Text.Json
import Mathlib.Data.List.Basic

/-!
# Reading data back from JSON

`read?` reads the part of JSON that reports consist of: texts, natural numbers, lists and objects, with
any blanks between the tokens and any escapes in the texts. It knows nothing of how data is written; a
text is first taken apart into tokens (`lexFrom`), and the tokens are put together by a machine with a
stack of the containers that are still open (`parseFrom`).

Both are followed with what comes behind as a parameter: the text of a value passes the first machine
as the tokens of the value, whatever else follows (`Lexes`), and the tokens pass the second one as the
value (`readsBack`). So what has been written is read as it was (`read?_render`).
-/

namespace StyleAudit.Text.JsonValue

inductive Token where
  | text (text : String)
  | number (n : Nat)
  | listStart
  | listEnd
  | objectStart
  | objectEnd
  | comma
  | colon
  deriving DecidableEq

/-! ## From characters to tokens -/

/-- The part of a token that has been read, the last characters first. -/
inductive Partial where
  | nothing
  | number (n : Nat)
  | text (read : List Char)
  /-- Behind a backslash. -/
  | escape (read : List Char)
  /-- Behind a backslash and the letter u. -/
  | code (read digits : List Char)

def hexadecimalValue? (c : Char) : Option Nat :=
  if c.isDigit then some (c.toNat - '0'.toNat)
  else if 'a' ≤ c ∧ c ≤ 'f' then some (c.toNat - 'a'.toNat + 10)
  else if 'A' ≤ c ∧ c ≤ 'F' then some (c.toNat - 'A'.toNat + 10)
  else none

/-- The character with a hexadecimal code; halves of surrogate pairs are not read. -/
def coded? (digits : List Char) : Option Char := do
  let n ← digits.foldlM (fun n c => (hexadecimalValue? c).map (16 * n + ·)) 0
  if n.isValidChar then some (Char.ofNat n) else none

def escaped? (c : Char) : Option Char :=
  if c = '"' ∨ c = '\\' ∨ c = '/' then some c
  else if c = 'b' then some '\x08'
  else if c = 'f' then some '\x0c'
  else if c = 'n' then some '\n'
  else if c = 'r' then some '\r'
  else if c = 't' then some '\t'
  else none

namespace Partial

def begin? (c : Char) : Option (Partial × List Token) :=
  if c = ' ' ∨ c = '\n' ∨ c = '\r' ∨ c = '\t' then some (nothing, [])
  else if c.isDigit then some (number (c.toNat - '0'.toNat), [])
  else if c = '"' then some (text [], [])
  else if c = '[' then some (nothing, [.listStart])
  else if c = ']' then some (nothing, [.listEnd])
  else if c = '\x7b' then some (nothing, [.objectStart])
  else if c = '\x7d' then some (nothing, [.objectEnd])
  else if c = ',' then some (nothing, [.comma])
  else if c = ':' then some (nothing, [.colon])
  else none

/-- Goes on by one character; gives the tokens that end before it or with it. -/
def next? : Partial → Char → Option (Partial × List Token)
  | nothing, c => begin? c
  | number n, c =>
    -- A number has no zero in front.
    if c.isDigit then if n = 0 then none else some (number (10 * n + (c.toNat - '0'.toNat)), [])
    else (begin? c).map fun (begun, tokens) => (begun, .number n :: tokens)
  | text read, c =>
    if c = '"' then some (nothing, [.text (String.ofList read.reverse)])
    else if c = '\\' then some (escape read, [])
    else if c.toNat < 0x20 then none
    else some (text (c :: read), [])
  | escape read, c =>
    if c = 'u' then some (code read [], [])
    else (escaped? c).map fun meant => (text (meant :: read), [])
  | code read digits, c =>
    if digits.length = 3 then
      (coded? (c :: digits).reverse).map fun meant => (text (meant :: read), [])
    else some (code read (c :: digits), [])

def end? : Partial → Option (List Token)
  | nothing => some []
  | number n => some [.number n]
  | _ => none

end Partial

def lexFrom (read : Partial) : List Char → Option (List Token)
  | [] => read.end?
  | c :: rest => (read.next? c).bind fun (next, tokens) => (lexFrom next rest).map (tokens ++ ·)

/-! ## From tokens to values -/

/-- A container that is still open, with what it holds so far, the last first. -/
inductive Frame where
  | list (items : List JsonValue)
  /-- An object that waits for the value of the named member. -/
  | object (members : List (String × JsonValue)) (name : String)

inductive Reading where
  | value (around : List Frame)
  | name (members : List (String × JsonValue)) (around : List Frame)
  | colon (members : List (String × JsonValue)) (name : String) (around : List Frame)
  /-- A value has ended; more of what is around it comes next. -/
  | more (value : JsonValue) (around : List Frame)

namespace Reading

def next? : Reading → Token → Option Reading
  | value around, .text t => some (more (.text t) around)
  | value around, .number n => some (more (.number n) around)
  | value around, .listStart => some (value (.list [] :: around))
  | value (.list [] :: around), .listEnd => some (more (.list []) around)
  | value around, .objectStart => some (name [] around)
  | name [] around, .objectEnd => some (more (.object []) around)
  | name members around, .text t => some (colon members t around)
  | colon members t around, .colon => some (value (.object members t :: around))
  | more v (.list items :: around), .comma => some (value (.list (v :: items) :: around))
  | more v (.list items :: around), .listEnd => some (more (.list (v :: items).reverse) around)
  | more v (.object members t :: around), .comma => some (name ((t, v) :: members) around)
  | more v (.object members t :: around), .objectEnd =>
    some (more (.object ((t, v) :: members).reverse) around)
  | _, _ => none

def end? : Reading → Option JsonValue
  | more v [] => some v
  | _ => none

end Reading

def parseFrom (reading : Reading) : List Token → Option JsonValue
  | [] => reading.end?
  | token :: rest => (reading.next? token).bind fun next => parseFrom next rest

def read? (text : String) : Option JsonValue :=
  (lexFrom .nothing text.toList).bind (parseFrom (.value []))

/-! ## Tokens of a value -/

mutual

def tokens : JsonValue → List Token
  | text t => [.text t]
  | number n => [.number n]
  | list items => .listStart :: ([.comma].intercalate (itemTokens items) ++ [.listEnd])
  | object members => .objectStart :: ([.comma].intercalate (memberTokens members) ++ [.objectEnd])

def itemTokens : List JsonValue → List (List Token)
  | [] => []
  | item :: rest => tokens item :: itemTokens rest

def memberTokens : List (String × JsonValue) → List (List Token)
  | [] => []
  | (name, value) :: rest => (.text name :: .colon :: tokens value) :: memberTokens rest

end

/-! ## Reading texts and numbers -/

theorem lexFrom_cons {read next : Partial} {c : Char} {out : List Token} {rest : List Char}
    (goes : read.next? c = some (next, out)) :
    lexFrom read (c :: rest) = (lexFrom next rest).map (out ++ ·) := by
  rw [lexFrom, goes, Option.bind_some]

/-- A step that ends no token. -/
theorem lexFrom_cons_of_silent {read next : Partial} {c : Char} {rest : List Char}
    (goes : read.next? c = some (next, [])) : lexFrom read (c :: rest) = lexFrom next rest := by
  rw [lexFrom_cons goes]
  exact Option.map_id'

theorem lexFrom_code {n : Nat} (control : n < 0x20) (read rest : List Char) :
    lexFrom (.code read []) (hexadecimal 4 n ++ rest) = lexFrom (.text (Char.ofNat n :: read)) rest := by
  have digits : ∀ n < 0x20, (hexadecimal 4 n).length = 4 ∧
      coded? (hexadecimal 4 n) = some (Char.ofNat n) := by decide +kernel
  obtain ⟨four, coded⟩ := digits n control
  obtain ⟨a, b, c, d, written⟩ := List.length_eq_four.1 four
  rw [written] at coded ⊢
  have last : (Partial.code read [c, b, a]).next? d = some (.text (Char.ofNat n :: read), []) := by
    simp [Partial.next?, coded]
  exact (lexFrom_cons_of_silent rfl).trans ((lexFrom_cons_of_silent rfl).trans
    ((lexFrom_cons_of_silent rfl).trans (lexFrom_cons_of_silent last)))

def shortEscapes : List Char := ['"', '\\', '\n', '\r', '\t', '\x08', '\x0c']

theorem lexFrom_escapedChar (c : Char) (read rest : List Char) :
    lexFrom (.text read) (escapedChar c ++ rest) = lexFrom (.text (c :: read)) rest := by
  by_cases short : c ∈ shortEscapes
  · simp only [shortEscapes, List.mem_cons, List.not_mem_nil, or_false] at short
    obtain rfl | rfl | rfl | rfl | rfl | rfl | rfl := short <;>
      exact (lexFrom_cons_of_silent rfl).trans (lexFrom_cons_of_silent rfl)
  · simp only [shortEscapes, List.mem_cons, List.not_mem_nil, or_false, not_or] at short
    obtain ⟨quote, backslash, line, carriage, tab, back, feed⟩ := short
    simp only [escapedChar, quote, backslash, line, carriage, tab, back, feed, if_false]
    by_cases control : c.toNat < 0x20
    · rw [if_pos control]
      refine (lexFrom_cons_of_silent rfl).trans ((lexFrom_cons_of_silent rfl).trans ?_)
      refine (lexFrom_code control read rest).trans ?_
      rw [Char.ofNat_toNat]
    · rw [if_neg control]
      refine lexFrom_cons_of_silent ?_
      simp [Partial.next?, quote, backslash, control]

theorem lexFrom_text (chars read rest : List Char) :
    lexFrom (.text read) (chars.flatMap escapedChar ++ '"' :: rest) =
      (lexFrom .nothing rest).map (.text (String.ofList (read.reverse ++ chars)) :: ·) := by
  induction chars generalizing read with
  | nil =>
      have closes : (Partial.text read).next? '"' =
          some (.nothing, [.text (String.ofList read.reverse)]) := rfl
      rw [List.append_nil]
      exact lexFrom_cons closes
  | cons c chars ih =>
      rw [List.flatMap_cons, List.append_assoc, lexFrom_escapedChar, ih, List.reverse_cons,
        List.append_assoc, List.singleton_append]

theorem begin?_digitChar {d : Nat} (digit : d < 10) :
    Partial.begin? d.digitChar = some (.number d, []) := by
  have all : ∀ d < 10, ¬ (d.digitChar = ' ' ∨ d.digitChar = '\n' ∨ d.digitChar = '\r' ∨
      d.digitChar = '\t') ∧ d.digitChar.isDigit = true ∧ d.digitChar.toNat - '0'.toNat = d := by
    decide
  obtain ⟨blank, isDigit, value⟩ := all d digit
  rw [Partial.begin?, if_neg blank, if_pos isDigit, value]

theorem next?_number_digitChar {n d : Nat} (positive : n ≠ 0) (digit : d < 10) :
    (Partial.number n).next? d.digitChar = some (.number (10 * n + d), []) := by
  have all : ∀ d < 10, d.digitChar.isDigit = true ∧ d.digitChar.toNat - '0'.toNat = d := by
    decide
  obtain ⟨isDigit, value⟩ := all d digit
  rw [Partial.next?, if_pos isDigit, if_neg positive, value]

theorem lexFrom_toDigits (n : Nat) (rest : List Char) :
    lexFrom .nothing (Nat.toDigits 10 n ++ rest) = lexFrom (.number n) rest := by
  induction n using Nat.strongRecOn generalizing rest with
  | _ n ih =>
      by_cases small : n < 10
      · rw [Nat.toDigits_of_lt_base small]
        exact lexFrom_cons_of_silent (begin?_digitChar small)
      · have front := ih (n / 10) (by omega)
        have goes := next?_number_digitChar (n := n / 10) (d := n % 10) (by omega) (by omega)
        rw [Nat.div_add_mod] at goes
        rw [Nat.toDigits_of_base_le (by decide) (by omega), List.append_assoc, front]
        exact lexFrom_cons_of_silent goes

/-! ## Reading whole values -/

/-- What follows does not go on with a number. -/
def StartsApart (rest : List Char) : Prop := ∀ c ∈ rest.head?, c.isDigit = false

theorem startsApart_cons {c : Char} (apart : c.isDigit = false) (rest : List Char) :
    StartsApart (c :: rest) := by
  intro d first
  cases first
  exact apart

/-- The characters pass as the tokens, whatever follows them. -/
def Lexes (chars : List Char) (tokens : List Token) : Prop :=
  ∀ rest, lexFrom .nothing (chars ++ rest) = (lexFrom .nothing rest).map (tokens ++ ·)

/-- The characters may end with a number, which what follows must not go on with. -/
def LexesApart (chars : List Char) (tokens : List Token) : Prop :=
  ∀ rest, StartsApart rest →
    lexFrom .nothing (chars ++ rest) = (lexFrom .nothing rest).map (tokens ++ ·)

section

variable {chars more : List Char} {tokens others : List Token}

theorem Lexes.apart (first : Lexes chars tokens) : LexesApart chars tokens := fun rest _ => first rest

theorem Lexes.append_apart (first : Lexes chars tokens) (second : LexesApart more others) :
    LexesApart (chars ++ more) (tokens ++ others) := by
  intro rest apart
  rw [List.append_assoc, first, second rest apart, Option.map_map]
  simp only [Function.comp_def, List.append_assoc]

theorem Lexes.append (first : Lexes chars tokens) (second : Lexes more others) :
    Lexes (chars ++ more) (tokens ++ others) := by
  intro rest
  rw [List.append_assoc, first, second, Option.map_map]
  simp only [Function.comp_def, List.append_assoc]

theorem LexesApart.append {c : Char} (first : LexesApart chars tokens)
    (second : Lexes (c :: more) others) (apart : c.isDigit = false) :
    Lexes (chars ++ c :: more) (tokens ++ others) := by
  intro rest
  rw [List.append_assoc, first (c :: more ++ rest) (startsApart_cons apart _), second, Option.map_map]
  simp only [Function.comp_def, List.append_assoc]

theorem lexes_begin {c : Char} {token : Token}
    (begins : Partial.begin? c = some (.nothing, [token])) : Lexes [c] [token] :=
  fun _ => lexFrom_cons begins

theorem lexes_singleton {c : Char} {token : Token}
    (begins : Partial.begin? c = some (.nothing, [token])) :
    Lexes (String.singleton c).toList [token] := by
  rw [String.toList_singleton]
  exact lexes_begin begins

theorem lexes_cons_of_blank {c : Char} (blank : Partial.begin? c = some (.nothing, []))
    (rest : Lexes chars tokens) : Lexes (c :: chars) tokens :=
  fun later =>
    have silent : Partial.nothing.next? c = some (.nothing, []) := blank
    (lexFrom_cons_of_silent silent).trans (rest later)

theorem lexes_nil : Lexes [] [] := fun _ => Option.map_id'.symm

theorem toList_newline (depth : Nat) :
    (newline depth).toList = '\n' :: List.replicate (2 * depth) ' ' := by
  simp [newline]

theorem lexes_newline (depth : Nat) : Lexes ('\n' :: List.replicate (2 * depth) ' ') [] := by
  refine lexes_cons_of_blank rfl ?_
  induction 2 * depth with
  | zero => exact lexes_nil
  | succ count ih => exact lexes_cons_of_blank rfl ih

theorem lexes_quotedText (t : String) : Lexes (quotedText t).toList [.text t] := by
  intro rest
  have written : (quotedText t).toList ++ rest =
      '"' :: (t.toList.flatMap escapedChar ++ '"' :: rest) := by
    simp [quotedText]
  rw [written, lexFrom_cons_of_silent rfl, lexFrom_text]
  simp

theorem lexesApart_number (n : Nat) : LexesApart (toString n).toList [.number n] := by
  intro rest apart
  rw [Nat.toString_eq_ofList_toDigits, String.toList_ofList, lexFrom_toDigits]
  cases rest with
  | nil => rfl
  | cons c rest =>
      have goes : (Partial.number n).next? c =
          (Partial.begin? c).map fun (begun, tokens) => (begun, .number n :: tokens) := by
        simp [Partial.next?, apart c rfl]
      rw [lexFrom, lexFrom, goes, Partial.next?]
      cases Partial.begin? c with
      | none => rfl
      | some begun => simp [Option.map_map, Function.comp_def]

end

/-! ## Containers -/

theorem lexesApart_intercalate (depth : Nat) {items : List String} {tokens : List (List Token)}
    (each : List.Forall₂ (fun item tokens => LexesApart item.toList tokens) items tokens) :
    LexesApart (("," ++ newline depth).intercalate items).toList ([.comma].intercalate tokens) := by
  have comma : Lexes (',' :: '\n' :: List.replicate (2 * depth) ' ') [.comma] :=
    (lexes_begin rfl).append (lexes_newline depth)
  induction each with
  | nil => exact lexes_nil.apart
  | @cons item first items tokens here later ih =>
      cases later with
      | nil => simpa [List.intercalate] using here
      | cons next rest =>
          have joined := (here.append comma (by decide)).append_apart ih
          simpa [String.intercalate_cons_cons, List.intercalate, toList_newline] using joined

theorem lexes_bracketed {opening closing : String} {start finish : Token}
    (opens : Lexes opening.toList [start]) (closes : Lexes closing.toList [finish]) (depth : Nat)
    {items : List String} {tokens : List (List Token)}
    (each : List.Forall₂ (fun item tokens => LexesApart item.toList tokens) items tokens) :
    Lexes (bracketed opening closing depth items).toList
      (start :: ([.comma].intercalate tokens ++ [finish])) := by
  cases items with
  | nil =>
      cases each
      simpa [bracketed, List.intercalate] using opens.append closes
  | cons item items =>
      have inner := (opens.append (lexes_newline (depth + 1))).append_apart
        (lexesApart_intercalate (depth + 1) each)
      have whole := (inner.append (lexes_newline depth) (by decide)).append closes
      simpa [bracketed, toList_newline] using whole

/-! ## Values -/

mutual

theorem lexesApart_renderAt : ∀ (value : JsonValue) (depth : Nat),
    LexesApart (value.renderAt depth).toList value.tokens
  | text t, _ => (lexes_quotedText t).apart
  | number n, _ => lexesApart_number n
  | list items, depth =>
      (lexes_bracketed (lexes_singleton (c := '[') rfl) (lexes_singleton (c := ']') rfl) depth
        (forall₂_renderItems items (depth + 1))).apart
  | object members, depth =>
      (lexes_bracketed (lexes_singleton (c := '\x7b') rfl) (lexes_singleton (c := '\x7d') rfl) depth
        (forall₂_renderMembers members (depth + 1))).apart

theorem forall₂_renderItems : ∀ (items : List JsonValue) (depth : Nat),
    List.Forall₂ (fun item tokens => LexesApart item.toList tokens) (renderItems depth items)
      (itemTokens items)
  | [], _ => .nil
  | item :: rest, depth => .cons (lexesApart_renderAt item depth) (forall₂_renderItems rest depth)

theorem forall₂_renderMembers : ∀ (members : List (String × JsonValue)) (depth : Nat),
    List.Forall₂ (fun item tokens => LexesApart item.toList tokens) (renderMembers depth members)
      (memberTokens members)
  | [], _ => .nil
  | (name, value) :: rest, depth => by
      refine .cons ?_ (forall₂_renderMembers rest depth)
      have colon : Lexes [':', ' '] [.colon] :=
        (lexes_begin rfl).append (lexes_cons_of_blank rfl lexes_nil)
      have named := ((lexes_quotedText name).append colon).append_apart
        (lexesApart_renderAt value depth)
      simpa using named

end

/-! ## Putting tokens together -/

theorem parseFrom_cons {reading next : Reading} {token : Token} {rest : List Token}
    (goes : reading.next? token = some next) :
    parseFrom reading (token :: rest) = parseFrom next rest := by
  rw [parseFrom, goes, Option.bind_some]

/-- The tokens of the value are read as the value, whatever it stands in and whatever follows. -/
def ReadsBack (value : JsonValue) : Prop :=
  ∀ around rest, parseFrom (.value around) (value.tokens ++ rest) = parseFrom (.more value around) rest

theorem intercalate_comma_cons (first next : List Token) (later : List (List Token)) :
    [Token.comma].intercalate (first :: next :: later) =
      first ++ .comma :: [.comma].intercalate (next :: later) := by
  simp [List.intercalate]

theorem parseFrom_items {item : JsonValue} {items : List JsonValue}
    (each : ∀ other ∈ item :: items, ReadsBack other) (done : List JsonValue) (around : List Frame)
    (rest : List Token) :
    parseFrom (.value (.list done :: around))
        ([.comma].intercalate (itemTokens (item :: items)) ++ .listEnd :: rest) =
      parseFrom (.more (.list (done.reverse ++ item :: items)) around) rest := by
  obtain ⟨here, later⟩ := List.forall_mem_cons.1 each
  induction items generalizing item done with
  | nil =>
      have last := here (.list done :: around) (.listEnd :: rest)
      rw [parseFrom_cons rfl, List.reverse_cons] at last
      simpa [itemTokens, List.intercalate] using last
  | cons next items ih =>
      have others := ih later (item :: done) (later next List.mem_cons_self)
        fun other member => later other (List.mem_cons_of_mem _ member)
      rw [itemTokens, itemTokens, intercalate_comma_cons, List.append_assoc, here, List.cons_append,
        parseFrom_cons rfl]
      simpa [itemTokens] using others

theorem ReadsBack.named {value : JsonValue} (reads : ReadsBack value) (name : String)
    (done : List (String × JsonValue)) (around : List Frame) (rest : List Token) :
    parseFrom (.name done around) ((.text name :: .colon :: value.tokens) ++ rest) =
      parseFrom (.more value (.object done name :: around)) rest := by
  -- Only where no member has been read yet may the object also end here.
  cases done <;> exact (parseFrom_cons rfl).trans ((parseFrom_cons rfl).trans (reads _ rest))

theorem parseFrom_members {member : String × JsonValue} {members : List (String × JsonValue)}
    (each : ∀ other ∈ member :: members, ReadsBack other.2) (done : List (String × JsonValue))
    (around : List Frame) (rest : List Token) :
    parseFrom (.name done around)
        ([.comma].intercalate (memberTokens (member :: members)) ++ .objectEnd :: rest) =
      parseFrom (.more (.object (done.reverse ++ member :: members)) around) rest := by
  obtain ⟨here, later⟩ := List.forall_mem_cons.1 each
  induction members generalizing member done with
  | nil =>
      obtain ⟨name, value⟩ := member
      have last := here.named name done around (.objectEnd :: rest)
      rw [parseFrom_cons rfl, List.reverse_cons] at last
      simpa [memberTokens, List.intercalate] using last
  | cons next members ih =>
      obtain ⟨name, value⟩ := member
      have others := ih later ((name, value) :: done) (later next List.mem_cons_self)
        fun other member => later other (List.mem_cons_of_mem _ member)
      rw [memberTokens, memberTokens, intercalate_comma_cons, List.append_assoc, here.named,
        List.cons_append, parseFrom_cons rfl]
      simpa [memberTokens] using others

mutual

theorem readsBack : ∀ value : JsonValue, value.ReadsBack
  | text _ => fun _ _ => rfl
  | number _ => fun _ _ => rfl
  | list [] => fun _ _ => rfl
  | list (item :: items) => fun around rest => by
      rw [tokens, List.cons_append, List.append_assoc, parseFrom_cons rfl]
      exact parseFrom_items (readsBack_items (item :: items)) [] around rest
  | object [] => fun _ _ => rfl
  | object (member :: members) => fun around rest => by
      rw [tokens, List.cons_append, List.append_assoc, parseFrom_cons rfl]
      exact parseFrom_members (readsBack_members (member :: members)) [] around rest

theorem readsBack_items : ∀ items : List JsonValue, ∀ item ∈ items, item.ReadsBack
  | [] => nofun
  | item :: items => List.forall_mem_cons.2 ⟨readsBack item, readsBack_items items⟩

theorem readsBack_members : ∀ members : List (String × JsonValue), ∀ member ∈ members, member.2.ReadsBack
  | [] => nofun
  | (_, value) :: members => List.forall_mem_cons.2 ⟨readsBack value, readsBack_members members⟩

end

/-- What is written, with the end of the line behind it, is read as it was. -/
theorem read?_render (value : JsonValue) : read? (value.render ++ "\n") = some value := by
  have lexed := lexesApart_renderAt value 0 ['\n'] (startsApart_cons rfl [])
  have parsed := readsBack value [] []
  have ended : lexFrom .nothing ['\n'] = some [] := rfl
  rw [ended, Option.map_some] at lexed
  have whole : (value.render ++ "\n").toList = (value.renderAt 0).toList ++ ['\n'] := by simp [render]
  rw [read?, whole, lexed, Option.bind_some, parsed]
  rfl

end StyleAudit.Text.JsonValue
