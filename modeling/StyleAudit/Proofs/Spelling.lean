import StyleAudit.Proofs.StyleObjects
import StyleAudit.Proofs.UsageOrder

/-!
# A definition and a reference with one spelling have one name

A style can be spelled as a plain name or between quotes, and it is spelled in entries of objects, in
accesses and in patterns. Whatever bytes the spelling consists of, all these places read the text that
the bytes stand for: a quote stands for itself, so it can be taken off before or after reading. A style
that is declared and then referred to with the same bytes is therefore not reported.
-/

namespace StyleAudit.Text.Utf8

/-! ## Reading up to a quote -/

/-- No byte that stands for itself continues the character under way. -/
def Guarded (pending : Option Pending) : Prop := ∀ p, pending = some p → 0x80 ≤ p.low

theorem guarded_none : Guarded none := by
  intro p under
  cases under

theorem guarded_lead (b : UInt8) : Guarded (lead b).2 := by
  unfold lead
  dsimp only
  repeat' split
  all_goals
    intro p under
    cases under
  all_goals
    dsimp only
    decide

theorem guarded_feed (pending : Option Pending) (b : UInt8) : Guarded (feed pending b).2 := by
  cases pending with
  | none => exact guarded_lead b
  | some p =>
      by_cases continues : p.low ≤ b ∧ b ≤ p.high
      · rw [feed, if_pos continues]
        by_cases last : p.needed = 1
        · rw [if_pos last]
          exact guarded_none
        · rw [if_neg last]
          intro next under
          cases under
          exact UInt8.le_refl 0x80
      · rw [feed, if_neg continues]
        exact guarded_lead b

theorem decodeFrom_cons (pending : Option Pending) (b : UInt8) (rest : List UInt8) :
    decodeFrom pending (b :: rest) = (feed pending b).1 ++ decodeFrom (feed pending b).2 rest := rfl

theorem lead_of_ascii {b : UInt8} (ascii : b.toNat < 0x80) : lead b = ([Char.ofNat b.toNat], none) := by
  simp [lead, ascii]

theorem feed_of_ascii {pending : Option Pending} (guarded : Guarded pending) {b : UInt8}
    (ascii : b.toNat < 0x80) :
    feed pending b = (decodeFrom pending [] ++ [Char.ofNat b.toNat], none) := by
  cases pending with
  | none => exact lead_of_ascii ascii
  | some p =>
      have low : 0x80 ≤ p.low.toNat := UInt8.le_iff_toNat_le.1 (guarded p rfl)
      have outside : ¬ (p.low ≤ b ∧ b ≤ p.high) := by
        rintro ⟨above, -⟩
        have bound := UInt8.le_iff_toNat_le.1 above
        omega
      simp [feed, outside, lead_of_ascii ascii, decodeFrom]

theorem decodeFrom_concat {pending : Option Pending} (guarded : Guarded pending) (bytes : List UInt8)
    {b : UInt8} (ascii : b.toNat < 0x80) :
    decodeFrom pending (bytes ++ [b]) = decodeFrom pending bytes ++ [Char.ofNat b.toNat] := by
  -- The character under way changes with each byte, but every one of them ends at a byte like `b`.
  induction bytes generalizing pending with
  | nil =>
      rw [List.nil_append, decodeFrom_cons, feed_of_ascii guarded ascii]
      exact List.append_nil _
  | cons first rest ih =>
      rw [List.cons_append, decodeFrom_cons, ih (guarded_feed pending first), decodeFrom_cons,
        List.append_assoc]

/-- A byte that stands for itself reads the same wherever the text ends. -/
theorem decode_quoted {q : UInt8} (ascii : q.toNat < 0x80) (t : List UInt8) :
    decode (q :: t ++ [q]) =
      String.ofList [Char.ofNat q.toNat] ++ decode t ++ String.ofList [Char.ofNat q.toNat] := by
  rw [decode, List.cons_append, decodeFrom_cons, feed, lead_of_ascii ascii,
    decodeFrom_concat guarded_none t ascii, decode, ← String.ofList_append, ← String.ofList_append,
    List.append_assoc]

end StyleAudit.Text.Utf8

namespace StyleAudit.Syntax.Node

/-! ## Places where a style is spelled -/

def quotes : List UInt8 := [0x22, 0x27]

/-- The key node spells `t`, as a plain name or between quotes. -/
inductive Spells (t : List UInt8) (n : Node) : Prop
  | plain (kind : n.kind ∈ ["property_identifier", "identifier", "shorthand_property_identifier",
      "shorthand_property_identifier_pattern"]) (text : n.text = some t)
  | quoted {q : UInt8} (literal : n.kind = "string") (quote : q ∈ quotes)
      (text : n.text = some (q :: t ++ [q]))

inductive DeclaresAs (t : List UInt8) (e : Node) : Prop
  | pair {key : Node} (kind : e.kind = "pair") (child : e.child? "key" = some key)
      (spelled : key.Spells t)
  | shorthand (kind : e.kind = "shorthand_property_identifier") (text : e.text = some t)
  | method {name : Node} (kind : e.kind = "method_definition") (child : e.child? "name" = some name)
      (spelled : name.Spells t)

/-- The node accesses the member spelled `t` of the plain name `object`. -/
inductive AccessesAs (t : List UInt8) (n object : Node) : Prop
  | property {property : Node} (kind : n.kind = "member_expression")
      (child : n.child? "object" = some object) (named : n.child? "property" = some property)
      (plain : property.kind = "property_identifier") (text : property.text = some t)
  | index {index : Node} {q : UInt8} (kind : n.kind = "subscript_expression")
      (child : n.child? "object" = some object) (named : n.child? "index" = some index)
      (literal : index.kind = "string") (quote : q ∈ quotes) (text : index.text = some (q :: t ++ [q]))

inductive TakesOutAs (t : List UInt8) (entry : Node) : Prop
  | shorthand (kind : entry.kind = "shorthand_property_identifier_pattern") (text : entry.text = some t)
  | pair {key : Node} (kind : entry.kind = "pair_pattern") (child : entry.child? "key" = some key)
      (spelled : key.Spells t)
  | assigned {left : Node} (kind : entry.kind = "object_assignment_pattern")
      (child : entry.child? "left" = some left) (spelled : left.Spells t)

/-- The node is a name of the source, not one supplied by error recovery. -/
structure IsName (n : Node) : Prop where
  kind : n.kind = "identifier"
  present : n.missing = false

/-- The site uses a style spelled `t`: its value leads to an access, or it takes the container apart. -/
inductive UsesAs (t : List UInt8) (container : String) (u : Node) : Prop
  | access {e access object : Node} {deep : Nat} (used : u.StyleValue e) (way : e.Leads deep access)
      (present : access.missing = false) (accesses : access.AccessesAs t object) (name : object.IsName)
      (examined : Examined (deep + 1))
  | taken {pattern entry value source : Node} {wraps : Nat} (kind : u.kind = "variable_declarator")
      (target : u.child? "name" = some pattern) (apart : pattern.kind = "object_pattern")
      (member : entry ∈ pattern.namedChildren) (takes : entry.TakesOutAs t)
      (init : u.child? "value" = some value) (unwraps : value.Unwraps wraps source)
      (name : source.IsName) (same : source.spelling = container) (examined : Examined wraps)

end StyleAudit.Syntax.Node

namespace StyleAudit

open Syntax Text

variable {t : List UInt8}

/-! ## Reading the spellings -/

theorem spelling_of_text {n : Node} {bytes : List UInt8} (text : n.text = some bytes) :
    n.spelling = Utf8.decode bytes := by
  rw [Node.spelling, text]

theorem spelling_quoted {n : Node} {q : UInt8} (quote : q ∈ Node.quotes)
    (text : n.text = some (q :: t ++ [q])) :
    n.spelling = "'" ++ Utf8.decode t ++ "'" ∨ n.spelling = "\"" ++ Utf8.decode t ++ "\"" := by
  rw [spelling_of_text text]
  simp only [Node.quotes, List.mem_cons, List.not_mem_nil, or_false] at quote
  rcases quote with rfl | rfl
  · exact .inr (Utf8.decode_quoted (by decide) t)
  · exact .inl (Utf8.decode_quoted (by decide) t)

theorem staticKey_of_spells {n : Node} (spelled : n.Spells t) (filled : Utf8.decode t ≠ "") :
    staticKey n = some (Utf8.decode t) := by
  cases spelled with
  | plain kind text =>
      have key : staticKey n = nonEmpty? n.spelling := by
        simp only [List.mem_cons, List.not_mem_nil, or_false] at kind
        rcases kind with kind | kind | kind | kind <;> rw [staticKey, kind] <;> rfl
      rw [key, spelling_of_text text, nonEmpty?_of_ne filled]
  | quoted literal quote text => exact staticKey_quoted literal (spelling_quoted quote text) filled

theorem styleKey?_of_declaresAs {e : Node} (declares : e.DeclaresAs t)
    (filled : Utf8.decode t ≠ "") : e.styleKey? = some (Utf8.decode t) := by
  cases declares with
  | pair kind child spelled =>
      rw [Node.styleKey?, Node.keyNode?, kind]
      simp [child, staticKey_of_spells spelled filled]
  | shorthand kind text =>
      rw [Node.styleKey?, Node.keyNode?, kind]
      exact staticKey_of_spells (.plain (by simp [kind]) text) filled
  | method kind child spelled =>
      rw [Node.styleKey?, Node.keyNode?, kind]
      simp [child, staticKey_of_spells spelled filled]

theorem accesses_of_accessesAs {n object : Node} (accesses : n.AccessesAs t object) :
    n.Accesses object (Utf8.decode t) := by
  cases accesses with
  | property kind child named plain text =>
      rw [← spelling_of_text text]
      exact .property kind child named plain
  | index kind child named literal quote text =>
      exact .index kind child named literal (spelling_quoted quote text)

theorem patternKey?_of_takesOutAs {entry : Node} (takes : entry.TakesOutAs t)
    (filled : Utf8.decode t ≠ "") : patternKey? entry = some (Utf8.decode t) := by
  cases takes with
  | shorthand kind text =>
      rw [patternKey?, kind]
      exact staticKey_of_spells (.plain (by simp [kind]) text) filled
  | pair kind child spelled =>
      rw [patternKey?, kind]
      simp [child, staticKey_of_spells spelled filled]
  | assigned kind child spelled =>
      rw [patternKey?, kind]
      simp [child, staticKey_of_spells spelled filled]

/-! ## What the places stand for -/

theorem styleNames_of_accessesAs {n object : Node} (present : n.missing = false)
    (accesses : n.AccessesAs t object) (name : object.IsName) (filled : Utf8.decode t ≠ "")
    (scope : Containers) : styleNames scope (lowerExpression n) = [Utf8.decode t] := by
  obtain ⟨spare, levels⟩ := (examined_iff 1).1 (by decide)
  have lowered : lowerExpression n =
      .member (.identifier object.spelling object.location) (some (Utf8.decode t)) n.location := by
    rw [lowerExpression_unwraps (.here n) levels,
      lowerWithin_access present (accesses_of_accessesAs accesses) filled,
      lowerWithin_name name.present (by simp [name.kind])]
  rw [lowered, styleNames]
  simp [accessedName, filled]

theorem keys_of_takesOutAs {pattern entry : Node} (apart : pattern.kind = "object_pattern")
    (member : entry ∈ pattern.namedChildren) (takes : entry.TakesOutAs t)
    (filled : Utf8.decode t ≠ "") :
    ∃ keys, lowerPattern (some pattern) = .objectPattern keys pattern.location ∧
      Utf8.decode t ∈ keys := by
  refine ⟨pattern.namedChildren.filterMap patternKey?, ?_, ?_⟩
  · simp [lowerPattern, apart]
  · exact List.mem_filterMap.2 ⟨entry, member, patternKey?_of_takesOutAs takes filled⟩

/-! ## Declared and used with one spelling -/

theorem get?_scopeAfter_of_mem {sites : List Site} {s : Site} {d : Declaration} (member : s ∈ sites)
    (declared : s.declaration? = some d) :
    ∃ members, (scopeAfter sites).get? d.container = some members := by
  have known : ((scopeAfter sites).entries.find? fun entry => entry.1 = d.container).isSome := by
    rw [List.find?_isSome]
    refine ⟨(d.container, .ofList (d.members.map (·.1))), ?_, by simp⟩
    refine List.mem_map.2 ⟨d, List.mem_reverse.2 ?_, rfl⟩
    exact List.mem_filterMap.2 ⟨s, member, declared⟩
  obtain ⟨entry, found⟩ := Option.isSome_iff_exists.1 known
  exact ⟨entry.2, by rw [Registry.get?, found, Option.map_some]⟩

theorem takesOut_of_declarator {u pattern entry value source : Node} {wraps : Nat}
    (kind : u.kind = "variable_declarator") (target : u.child? "name" = some pattern)
    (apart : pattern.kind = "object_pattern") (member : entry ∈ pattern.namedChildren)
    (takes : entry.TakesOutAs t) (init : u.child? "value" = some value)
    (unwraps : value.Unwraps wraps source) (name : source.IsName)
    (examined : Examined wraps) (filled : Utf8.decode t ≠ "") :
    ∃ s, lowerSite? u = some s ∧ s.TakesOut source.spelling (Utf8.decode t) := by
  obtain ⟨keys, lowered, key⟩ := keys_of_takesOutAs apart member takes filled
  obtain ⟨spare, levels⟩ := (examined_iff wraps).1 examined
  have reached : lowerExpression value = .identifier source.spelling source.location := by
    rw [lowerExpression_unwraps unwraps levels, lowerWithin_name name.present (by simp [name.kind])]
  refine ⟨_, lowerSite?_declarator kind, keys, pattern.location, source.location, u.location, ?_, key⟩
  rw [target, init, lowered, lowerChild, reached]

theorem mem_usedNames_of_takesOut {root d u object : Node} {container style : String} {levels : Nat}
    {s : Site} {before middle after : List Node}
    (walked : root.preorder = before ++ d :: middle ++ u :: after)
    (binds : d.BindsObject container levels object) (lowered : lowerSite? u = some s)
    (takes : s.TakesOut container style) : style ∈ usedNames root.sites := by
  obtain ⟨site, declaration, declarator, declared, rfl, -⟩ := declaration?_of_bindsObject binds
  have sites : root.sites = (before ++ d :: middle).filterMap lowerSite? ++
      s :: after.filterMap lowerSite? := by
    rw [Node.sites, walked, List.filterMap_append, List.filterMap_cons_some lowered]
  have above : site ∈ (before ++ d :: middle).filterMap lowerSite? :=
    List.mem_filterMap.2 ⟨d, List.mem_append_right _ List.mem_cons_self, declarator⟩
  obtain ⟨members, known⟩ := get?_scopeAfter_of_mem above declared
  exact mem_usedNames_iff.2 ⟨_, s, _, sites, mem_uses_iff.2 (.inr ⟨_, members, known, .inr takes⟩)⟩

theorem mem_usedNames_of_usesAs {root d u object : Node} {container : String} {levels : Nat}
    {before middle after : List Node} (walked : root.preorder = before ++ d :: middle ++ u :: after)
    (binds : d.BindsObject container levels object) (uses : u.UsesAs t container)
    (filled : Utf8.decode t ≠ "") : Utf8.decode t ∈ usedNames root.sites := by
  cases uses with
  | access used way present accesses name examined =>
      have reached : root.Reaches u := by
        rw [← Node.mem_preorder_iff, walked]
        exact List.mem_append_right _ List.mem_cons_self
      exact mem_usedNames_of_styleValue reached used
        (mem_styleNames_of_access way present (accesses_of_accessesAs accesses) filled (.here _)
          name.present (by simp [name.kind]) (by simpa [Examined] using examined))
  | taken kind target apart member takes init unwraps name same examined =>
      obtain ⟨s, lowered, out⟩ :=
        takesOut_of_declarator kind target apart member takes init unwraps name examined filled
      rw [same] at out
      exact mem_usedNames_of_takesOut walked binds lowered out

theorem spelling_determines_name (t : List UInt8) (filled : Utf8.decode t ≠ "") :
    (∀ d object e : Node, ∀ container levels, d.BindsObject container levels object →
      Examined levels → e ∈ object.namedChildren → e.DeclaresAs t → ∃ s, lowerSite? d = some s ∧
        ∃ style ∈ s.members, style.1 = Utf8.decode t ∧ style.2.loc = e.location) ∧
    (∀ n object : Node, n.missing = false → n.AccessesAs t object → object.IsName →
      ∀ scope, styleNames scope (lowerExpression n) = [Utf8.decode t]) ∧
    (∀ pattern entry : Node, pattern.kind = "object_pattern" → entry ∈ pattern.namedChildren →
      entry.TakesOutAs t → ∃ keys, lowerPattern (some pattern) = .objectPattern keys pattern.location ∧
        Utf8.decode t ∈ keys) ∧
    (∀ root d u object e : Node, ∀ container levels before middle after,
      root.preorder = before ++ d :: middle ++ u :: after → d.BindsObject container levels object →
      e ∈ object.namedChildren → e.DeclaresAs t → u.UsesAs t container →
      ∃ findings, analyzeTree root = .ok findings ∧ ∀ f ∈ findings, f.name ≠ Utf8.decode t) := by
  refine ⟨?_, ?_, ?_, ?_⟩
  · intro d object e container levels binds examined entry spelled
    exact member_of_bindsObject binds examined entry (styleKey?_of_declaresAs spelled filled)
  · intro n object present accesses name scope
    exact styleNames_of_accessesAs present accesses name filled scope
  · intro pattern entry apart member takes
    exact keys_of_takesOutAs apart member takes filled
  · intro root d u object e container levels before middle after walked binds _ _ uses
    have used := mem_usedNames_of_usesAs walked binds uses filled
    obtain ⟨findings, analyzed, reported⟩ := analyzeTree_reports root
    exact ⟨findings, analyzed, fun f found same => ((reported _).1 ⟨f, found, same⟩).2 used⟩

namespace Sample

/-- A letter and the first two bytes of a character of three. -/
def broken : List UInt8 := [0x62, 0xe2, 0x82]

def brokenMethod : Node :=
  tree "method_definition" [(word "string" (0x27 :: broken ++ [0x27])).filling "name"]

/-- The tree of a declaration `s = StyleSheet.create({ '…'() })` of the broken name. -/
def brokenSheet : Node :=
  tree "variable_declarator" [
    (word "identifier" [0x73]).filling "name",
    (tree "call_expression" [
      factory.filling "function",
      (tree "arguments" [tree "object" [brokenMethod]]).filling "arguments"]).filling "value"]

def brokenPair : Node :=
  tree "pair_pattern" [(word "string" (0x22 :: broken ++ [0x22])).filling "key"]

def brokenTaking : Node :=
  tree "variable_declarator" [(tree "object_pattern" [brokenPair]).filling "name",
    (word "identifier" [0x73]).filling "value"]

def brokenProgram : Node := tree "program" [brokenSheet, brokenTaking]

end Sample

open Sample in
/-- A broken name, declared between single quotes and taken out between double quotes. -/
theorem spelling_determines_name_sample :
    Utf8.decode broken = "b\uFFFD" ∧
      "b\uFFFD" ∈ (brokenProgram.sites.flatMap Site.members).map (·.1) ∧
      ∃ findings, analyzeTree brokenProgram = .ok findings ∧ ∀ f ∈ findings, f.name ≠ "b\uFFFD" := by
  have decoded : Utf8.decode broken = "b\uFFFD" := by decide
  let name := (word "identifier" [0x73]).filling "name"
  have binds : brokenSheet.BindsObject name.spelling 1 (tree "object" [brokenMethod]) :=
    .intro rfl rfl rfl rfl (.here _) rfl rfl rfl rfl (.here _) rfl rfl rfl rfl
  have spelled : brokenMethod.DeclaresAs broken :=
    .method rfl rfl (.quoted rfl (by decide) rfl)
  have uses : brokenTaking.UsesAs broken name.spelling :=
    .taken rfl rfl rfl (List.mem_singleton.2 rfl) (.pair rfl rfl (.quoted rfl (by decide) rfl)) rfl
      (.here _) ⟨rfl, rfl⟩ rfl (by decide)
  have walked : brokenProgram.preorder =
      [brokenProgram] ++ brokenSheet :: brokenSheet.preorder.tail ++
        brokenTaking :: brokenTaking.preorder.tail := rfl
  obtain ⟨-, -, -, unreported⟩ := spelling_determines_name broken (by decide)
  have result := unreported _ _ _ _ _ _ _ _ _ _ walked binds (List.mem_singleton.2 rfl) spelled uses
  rw [decoded] at result
  exact ⟨decoded, by decide, result⟩

end StyleAudit
