import StyleAudit.Proofs.Calls

/-!
# Comments and tokens do not matter

Comments without children and unnamed nodes are trivia as long as they fill no field. Two trees that
differ by trivia, put in or taken out anywhere, have the same sites and so the same findings. Each
tree is compared with its bare tree, in which no trivia are left: an insertion does not change the bare
tree, and a tree has the sites of its bare tree.
-/

namespace StyleAudit.Syntax.Node

def isTrivia (n : Node) : Bool :=
  n.field.isNone && (!n.named || n.kind == "comment" && n.children.isEmpty)

/-- The second tree is the first with one more node, a trivial one, among the children of some node. -/
inductive Inserts : Node → Node → Prop
  | among {n trivial : Node} {before after : List Node} (children : n.children = before ++ after)
      (trivia : trivial.isTrivia = true) :
      Inserts n { n with children := before ++ trivial :: after }
  | deeper {n child grown : Node} {before after : List Node}
      (children : n.children = before ++ child :: after) (inner : Inserts child grown) :
      Inserts n { n with children := before ++ grown :: after }

/-- Trivia put in and taken out, any number of times, lead from one tree to the other. -/
def SameUpToTrivia : Node → Node → Prop := Relation.EqvGen Inserts

/-! ## Bare trees -/

mutual

def bare : Node → Node
  | ⟨kind, named, field, missing, start, text, children⟩ =>
      ⟨kind, named, field, missing, start, text, bareAll children⟩

def bareAll : List Node → List Node
  | [] => []
  | n :: rest => if n.bare.isTrivia then bareAll rest else n.bare :: bareAll rest

end

theorem bareAll_eq (ns : List Node) :
    bareAll ns = (ns.map bare).filter fun n => !n.isTrivia := by
  induction ns with
  | nil => rfl
  | cons n rest ih =>
      by_cases trivia : n.bare.isTrivia = true
      · simp [bareAll, trivia, ih]
      · simp [bareAll, trivia, ih]

theorem bare_eq (n : Node) : n.bare = { n with children := bareAll n.children } := by
  cases n
  rw [bare]

@[simp] theorem kind_bare (n : Node) : n.bare.kind = n.kind := by rw [bare_eq]
@[simp] theorem named_bare (n : Node) : n.bare.named = n.named := by rw [bare_eq]
@[simp] theorem field_bare (n : Node) : n.bare.field = n.field := by rw [bare_eq]
@[simp] theorem missing_bare (n : Node) : n.bare.missing = n.missing := by rw [bare_eq]
@[simp] theorem location_bare (n : Node) : n.bare.location = n.location := by rw [bare_eq]; rfl
@[simp] theorem spelling_bare (n : Node) : n.bare.spelling = n.spelling := by rw [bare_eq]; rfl

theorem children_bare (n : Node) :
    n.bare.children = (n.children.map bare).filter fun n => !n.isTrivia := by
  rw [bare_eq, bareAll_eq]

theorem isTrivia_bare {n : Node} (trivia : n.isTrivia = true) : n.bare.isTrivia = true := by
  simp only [isTrivia, field_bare, named_bare, kind_bare, Bool.and_eq_true, Bool.or_eq_true] at trivia ⊢
  refine ⟨trivia.1, trivia.2.imp_right fun comment => ⟨comment.1, ?_⟩⟩
  rw [children_bare, List.isEmpty_iff.1 comment.2]
  rfl

theorem bare_of_inserts {n m : Node} (inserts : Inserts n m) : n.bare = m.bare := by
  induction inserts with
  | @among n trivial before after children trivia =>
      have same : bareAll n.children = bareAll (before ++ trivial :: after) := by
        simp [bareAll_eq, children, isTrivia_bare trivia]
      rw [bare_eq n, same, bare]
  | @deeper n child grown before after children _ ih =>
      have same : bareAll n.children = bareAll (before ++ grown :: after) := by
        simp [bareAll_eq, children, ih]
      rw [bare_eq n, same, bare]

theorem bare_of_sameUpToTrivia {n m : Node} (same : SameUpToTrivia n m) : n.bare = m.bare := by
  induction same with
  | rel n m inserts => exact bare_of_inserts inserts
  | refl n => rfl
  | symm n m _ ih => exact ih.symm
  | trans n m l _ _ first second => exact first.trans second

/-! ## Children of a bare tree -/

theorem field_of_isTrivia {n : Node} (trivia : n.isTrivia = true) : n.field = none := by
  simp only [isTrivia, Bool.and_eq_true, Option.isNone_iff_eq_none] at trivia
  exact trivia.1

theorem comment_of_isTrivia {n : Node} (trivia : n.isTrivia = true) (named : n.named = true) :
    n.kind = "comment" ∧ n.children = [] := by
  simpa [isTrivia, named] using (Bool.and_eq_true_iff.1 trivia).2

theorem child?_bare (n : Node) (field : String) : n.bare.child? field = (n.child? field).map bare := by
  have kept : (fun child : Node => decide (!child.isTrivia ∧ child.field == some field)) =
      fun child => child.field == some field := by
    funext child
    rw [Bool.eq_iff_iff]
    cases trivia : child.isTrivia with
    | false => simp
    | true => simp [field_of_isTrivia trivia]
  -- A child that fills a field is never trivial, so the filter does not hide it.
  rw [child?, children_bare, List.find?_filter, kept, List.find?_map]
  simp only [Function.comp_def, field_bare]
  rfl

theorem namedChildren_bare (n : Node) :
    n.bare.namedChildren = (n.namedChildren.map bare).filter fun n => !n.isTrivia := by
  rw [namedChildren, children_bare, namedChildren, List.filter_map, List.filter_map, List.filter_map]
  simp only [List.filter_filter, Function.comp_def, named_bare, Bool.and_comm]

theorem parts_bare (n : Node) : n.bare.parts = n.parts.map bare := by
  rw [parts, namedChildren_bare, parts, List.filter_filter, List.filter_map]
  congr 1
  apply List.filter_congr
  intro child member
  have named : child.named = true := (List.mem_filter.1 member).2
  cases trivia : child.bare.isTrivia with
  | false => simp [trivia]
  | true =>
      have comment := (comment_of_isTrivia trivia (by rw [named_bare, named])).1
      rw [kind_bare] at comment
      simp [comment]

end StyleAudit.Syntax.Node

namespace StyleAudit

open Syntax

/-! ## Lowering a bare tree -/

@[simp] theorem unexamined_bare (n : Node) : unexamined n.bare = unexamined n := by
  simp [unexamined]

@[simp] theorem staticKey_bare (n : Node) : staticKey n.bare = staticKey n := by
  simp [staticKey]

theorem bind_staticKey_bare (n : Option Node) : (n.map Node.bare).bind staticKey = n.bind staticKey := by
  cases n <;> simp

theorem lowerChild_bare (lower : Node → Term) (n : Option Node) :
    lowerChild lower (n.map Node.bare) = lowerChild (lower ∘ Node.bare) n := by
  cases n <;> rfl

theorem operatorOf_bare (n : Node) : operatorOf n.bare = operatorOf n := by
  rw [operatorOf, Node.child?_bare, operatorOf]
  cases n.child? "operator" <;> simp

theorem lowerArguments_bare (lower : Node → Term) (n : Node) :
    lowerArguments lower n.bare = lowerArguments (lower ∘ Node.bare) n := by
  rw [lowerArguments, Node.child?_bare, lowerArguments]
  cases n.child? "arguments" with
  | none => rfl
  | some arguments => simp [Node.parts_bare]

theorem lowerItem?_bare (lower : Node → Term) (n : Node) :
    lowerItem? lower n.bare = lowerItem? (lower ∘ Node.bare) n := by
  simp only [lowerItem?, Node.kind_bare, Node.location_bare, Node.child?_bare, bind_staticKey_bare,
    lowerChild_bare, staticKey_bare, unexamined_bare, Function.comp_apply]

/-- What passes over comments finds the same among the children of a bare tree. -/
theorem filterMap_namedChildren_bare {α : Type} {f : Node → Option α}
    (silent : ∀ n : Node, n.kind = "comment" → f n = none) (n : Node) :
    n.bare.namedChildren.filterMap f = n.namedChildren.filterMap (f ∘ Node.bare) := by
  rw [Node.namedChildren_bare, List.filterMap_filter, List.filterMap_map]
  apply List.filterMap_congr
  intro child member
  have named : child.bare.named = true := by
    rw [Node.named_bare]
    exact (List.mem_filter.1 member).2
  cases trivia : child.bare.isTrivia with
  | false => simp [trivia]
  | true => simp [trivia, silent _ (Node.comment_of_isTrivia trivia named).1]

theorem lowerNode_bare (lower : Node → Term) (n : Node) :
    lowerNode lower n.bare = lowerNode (lower ∘ Node.bare) n := by
  unfold lowerNode
  simp only [Node.kind_bare, Node.location_bare, Node.spelling_bare, Node.child?_bare, Node.parts_bare,
    lowerChild_bare, operatorOf_bare, lowerArguments_bare, unexamined_bare]
  cases Form.ofKind n.kind with
  | wrapper => cases n.parts <;> rfl
  | member =>
      cases n.child? "object" with
      | none => rfl
      | some object => cases n.child? "property" <;> simp
  | subscript =>
      cases n.child? "object" with
      | none => rfl
      | some object => cases n.child? "index" <;> simp
  | array => simp
  | spread => rw [List.head?_map, lowerChild_bare]
  | object =>
      have silent : ∀ child : Node, child.kind = "comment" → lowerItem? lower child = none := by
        intro child comment
        rw [lowerItem?, comment]
        rfl
      have items : lowerItem? lower ∘ Node.bare = lowerItem? (lower ∘ Node.bare) :=
        funext (lowerItem?_bare lower)
      simp only [filterMap_namedChildren_bare silent, items]
  | _ => rfl

theorem lowerWithin_bare (budget : Nat) (n : Node) : lowerWithin budget n.bare = lowerWithin budget n := by
  induction budget generalizing n with
  | zero => exact unexamined_bare n
  | succ budget ih =>
      have below : lowerWithin budget ∘ Node.bare = lowerWithin budget := funext ih
      rw [lowerWithin, lowerWithin, Node.missing_bare, unexamined_bare, lowerNode_bare, below]

theorem lowerExpression_bare (n : Option Node) :
    lowerChild lowerExpression (n.map Node.bare) = lowerChild lowerExpression n := by
  rw [lowerChild_bare]
  exact congrArg (lowerChild · n) (funext fun child => lowerWithin_bare _ child)

/-! ## Sites of a bare tree -/

theorem patternKey?_bare (n : Node) : patternKey? n.bare = patternKey? n := by
  simp only [patternKey?, Node.kind_bare, staticKey_bare, Node.child?_bare, bind_staticKey_bare]

theorem lowerPattern_bare (n : Option Node) : lowerPattern (n.map Node.bare) = lowerPattern n := by
  cases n with
  | none => rfl
  | some n =>
      have silent : ∀ child : Node, child.kind = "comment" → patternKey? child = none := by
        intro child comment
        rw [patternKey?, comment]
        rfl
      have keys : patternKey? ∘ Node.bare = patternKey? := funext patternKey?_bare
      simp only [Option.map_some, lowerPattern, Node.kind_bare, Node.spelling_bare, Node.location_bare,
        filterMap_namedChildren_bare silent, keys, unexamined_bare]

theorem attributeName?_bare (n : Node) : attributeName? n.bare = attributeName? n := by
  rw [attributeName?, Node.parts_bare, List.head?_map, attributeName?]
  cases n.parts.head? <;> simp

theorem attributeValue?_bare (n : Node) :
    attributeValue? n.bare = (attributeValue? n).map Node.bare := by
  rw [attributeValue?, Node.parts_bare, attributeValue?]
  cases n.parts with
  | nil => rfl
  | cons first rest =>
      simp only [List.map_cons, List.getLast?_map]
      cases rest.getLast? with
      | none => rfl
      | some value =>
          by_cases braces : value.kind = "jsx_expression"
          · simp [braces, Node.parts_bare]
          · simp [braces]

theorem lowerSite?_bare (n : Node) : lowerSite? n.bare = lowerSite? n := by
  unfold lowerSite?
  simp only [Node.kind_bare, Node.location_bare, Node.child?_bare, Node.parts_bare, List.head?_map,
    lowerExpression_bare, lowerPattern_bare, attributeName?_bare, attributeValue?_bare]
  cases n.child? "operator" <;> simp

theorem sites_eq (n : Node) : n.sites = (lowerSite? n).toList ++ n.namedChildren.flatMap Node.sites := by
  rw [Node.sites, Node.preorder_eq, List.filterMap_cons, List.filterMap_flatMap]
  cases lowerSite? n <;> rfl

theorem sites_of_isTrivia {n : Node} (trivia : n.isTrivia = true) (named : n.named = true) :
    n.sites = [] := by
  obtain ⟨kind, children⟩ := Node.comment_of_isTrivia trivia named
  have comment : Shape.ofKind? "comment" = none := rfl
  rw [sites_eq, lowerSite?, kind, comment, Node.namedChildren, children]
  rfl

theorem flatMap_filter_of_silent {α β : Type} {keep : α → Bool} {f : α → List β} {items : List α}
    (silent : ∀ a ∈ items, keep a = false → f a = []) :
    (items.filter keep).flatMap f = items.flatMap f := by
  induction items with
  | nil => rfl
  | cons a rest ih =>
      have later := ih fun b member => silent b (List.mem_cons_of_mem _ member)
      cases kept : keep a with
      | true => rw [List.filter_cons_of_pos kept, List.flatMap_cons, List.flatMap_cons, later]
      | false =>
          rw [List.filter_cons_of_neg (by simp [kept]), List.flatMap_cons,
            silent a List.mem_cons_self kept, later, List.nil_append]

theorem sites_bare (n : Node) : n.bare.sites = n.sites := by
  have inner : ∀ child ∈ n.namedChildren, child.bare.sites = child.sites := by
    intro child member
    have smaller := Node.size_lt_of_namedChild member
    exact sites_bare child
  -- What the bare tree has lost are comments without children, and these have no sites.
  have silent : ∀ child ∈ n.namedChildren.map Node.bare, (!child.isTrivia) = false →
      child.sites = [] := by
    intro child member dropped
    obtain ⟨original, below, rfl⟩ := List.mem_map.1 member
    refine sites_of_isTrivia (by simpa using dropped) ?_
    rw [Node.named_bare]
    exact (List.mem_filter.1 below).2
  rw [sites_eq, sites_eq n, lowerSite?_bare, Node.namedChildren_bare, flatMap_filter_of_silent silent,
    List.flatMap_map, List.flatMap_congr inner]
termination_by n.size

/-! ## Trees that differ by trivia -/

theorem trivia_never_matters {t t' : Node} (same : t.SameUpToTrivia t') :
    sitesOf t' = sitesOf t ∧ analyzeTree t' = analyzeTree t := by
  have sites : t'.sites = t.sites := by
    -- Both trees have one bare tree.
    rw [← sites_bare, ← Node.bare_of_sameUpToTrivia same, sites_bare]
  rw [sitesOf_eq, sitesOf_eq, analyzeTree_eq_unused, analyzeTree_eq_unused, sites]
  exact ⟨rfl, rfl⟩

namespace Sample

def comment : Node := word "comment" [0x2f, 0x2f]

def comma : Node := ⟨",", false, none, false, ⟨0, 0⟩, some [0x2c], []⟩

/-- The tree of a declared container and `return [items]`. -/
def returning (items : List Node) : Node :=
  tree "program" [sheet, tree "return_statement" [tree "array" items]]

theorem inserts_returning {trivial : Node} (trivia : trivial.isTrivia = true)
    (before after : List Node) :
    (returning (before ++ after)).Inserts (returning (before ++ trivial :: after)) :=
  @Node.Inserts.deeper _ _ _ [sheet] [] rfl (@Node.Inserts.deeper _ _ _ [] [] rfl (.among rfl trivia))

end Sample

open Sample in
/-- A comma is taken out and a comment is put in. -/
theorem trivia_never_matters_sample :
    (returning [word "identifier" [0x73], comma]).SameUpToTrivia
        (returning [comment, word "identifier" [0x73]]) ∧
      sitesOf (returning [comment, word "identifier" [0x73]]) =
        sitesOf (returning [word "identifier" [0x73], comma]) ∧
      analyzeTree (returning [comment, word "identifier" [0x73]]) =
        analyzeTree (returning [word "identifier" [0x73], comma]) := by
  have same : (returning [word "identifier" [0x73], comma]).SameUpToTrivia
      (returning [comment, word "identifier" [0x73]]) :=
    .trans _ _ _
      (.symm _ _ (.rel _ _ (inserts_returning rfl [word "identifier" [0x73]] [])))
      (.rel _ _ (inserts_returning rfl [] [word "identifier" [0x73]]))
  exact ⟨same, trivia_never_matters same⟩

end StyleAudit
