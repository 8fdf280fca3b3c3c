/-
Trees with comments put in.

`Annotated k n m` says that `m` is `n` with comments put in, anywhere and any number,
and everything that was there moved down by `k` rows: the nodes keep their kinds,
fields and texts and their nesting. A comment stands among the children of a node as a
named child of its own, so whoever counts children or looks for one has to step over
comments. What is shown here is that every question about a node that the rules are
made of has the same answer for both, since it asks for a field, which a comment does
not fill, or for a kind, which is not that of a comment.
-/
import CodeSmell.Catalogue
import Mathlib.Data.List.Forall2

set_option autoImplicit false

namespace CodeSmell

namespace SyntaxNode

/-- A comment: a named node with nothing in it, which fills no field. -/
structure IsComment (n : SyntaxNode) : Prop where
  kind : n.kind = "comment"
  named : n.named = true
  children : n.children = []
  field : n.field = none

/-- The second node is the first one, moved down by `k` rows, its children apart. -/
structure Moved (k : Int) (n m : SyntaxNode) : Prop where
  kind : m.kind = n.kind
  named : m.named = n.named
  bytes : m.bytes = n.bytes
  field : m.field = n.field
  start : m.start.row = n.start.row + k
  stop : m.stop.row = n.stop.row + k

/-- The second list has, in their order, a counterpart of each node of the first list,
and comments between them. -/
inductive Interspersed (R : SyntaxNode → SyntaxNode → Prop) :
    List SyntaxNode → List SyntaxNode → Prop where
  | nil : Interspersed R [] []
  | comment {c : SyntaxNode} {ns ms : List SyntaxNode} (isComment : c.IsComment)
      (rest : Interspersed R ns ms) : Interspersed R ns (c :: ms)
  | cons {n m : SyntaxNode} {ns ms : List SyntaxNode} (head : R n m)
      (rest : Interspersed R ns ms) : Interspersed R (n :: ns) (m :: ms)

/-- The second tree is the first one with comments put in, moved down by `k` rows. -/
inductive Annotated (k : Int) : SyntaxNode → SyntaxNode → Prop where
  | node {n m : SyntaxNode} (moved : Moved k n m)
      (children : Interspersed (Annotated k) n.children m.children) : Annotated k n m

/-! ## Lists with comments in them -/

theorem rel_head? {R : SyntaxNode → SyntaxNode → Prop} {ns ms : List SyntaxNode}
    (h : List.Forall₂ R ns ms) : Option.Rel R ns.head? ms.head? := by
  cases h with
  | nil => exact .none
  | cons head _ => exact .some head

section

variable {R : SyntaxNode → SyntaxNode → Prop} {p q : SyntaxNode → Bool}
  (hR : ∀ n m, R n m → q m = p n)

include hR

/-- What is asked of a node that there may be has the same answer for its counterpart. -/
theorem any_eq_of_rel {a b : Option SyntaxNode} (h : Option.Rel R a b) : b.any q = a.any p := by
  cases h with
  | none => rfl
  | some h => exact hR _ _ h

namespace Interspersed

variable {ns ms : List SyntaxNode} (hcomment : ∀ c, IsComment c → q c = false)

include hcomment

/-- A choice that leaves out comments takes counterparts of the same nodes. -/
theorem filter (h : Interspersed R ns ms) : List.Forall₂ R (ns.filter p) (ms.filter q) := by
  induction h with
  | nil => exact .nil
  | comment isComment _ ih =>
    have hc := Bool.eq_false_iff.mp (hcomment _ isComment)
    rw [List.filter_cons_of_neg hc]
    exact ih
  | @cons n m _ _ head _ ih =>
    have hpq := hR n m head
    by_cases hn : p n = true
    · rw [List.filter_cons_of_pos hn, List.filter_cons_of_pos (hpq.trans hn)]
      exact .cons head ih
    · rw [List.filter_cons_of_neg hn, List.filter_cons_of_neg (hpq ▸ hn)]
      exact ih

/-- The first node that is looked for has a counterpart, which is found. -/
theorem find? (h : Interspersed R ns ms) : Option.Rel R (ns.find? p) (ms.find? q) := by
  rw [← List.head?_filter, ← List.head?_filter]
  exact rel_head? (h.filter hR hcomment)

theorem any_eq (h : Interspersed R ns ms) : ms.any q = ns.any p := by
  have hfound := h.find? hR hcomment
  rw [← List.isSome_find?, ← List.isSome_find?]
  generalize ns.find? p = a, ms.find? q = b at hfound
  cases hfound with
  | none => rfl
  | some _ => rfl

end Interspersed

end

/-! ## Questions about a node -/

namespace Annotated

variable {k : Int} {n m : SyntaxNode} (h : Annotated k n m)

include h

theorem moved : Moved k n m := by
  cases h with
  | node moved _ => exact moved

theorem children : Interspersed (Annotated k) n.children m.children := by
  cases h with
  | node _ children => exact children

theorem content_eq : m.content = n.content := by
  rw [content, content, h.moved.bytes]

/-- A field is filled by counterparts. -/
theorem child? (field : String) : Option.Rel (Annotated k) (n.child? field) (m.child? field) := by
  refine h.children.find? ?_ ?_
  · intro a b hab
    rw [hab.moved.field]
  · intro c hc
    rw [hc.field]
    rfl

theorem rowSpan_eq : m.rowSpan = n.rowSpan := by
  rw [rowSpan, rowSpan, h.moved.start, h.moved.stop]
  omega

theorem hasAccessorToken_eq : m.children.any isAccessorToken = n.children.any isAccessorToken := by
  refine h.children.any_eq ?_ ?_
  · intro a b hab
    rw [isAccessorToken, isAccessorToken, hab.moved.named, hab.moved.kind]
  · intro c hc
    rw [isAccessorToken, hc.named]
    rfl

theorem isDeclarationContext_eq : m.isDeclarationContext = n.isDeclarationContext := by
  rw [isDeclarationContext, isDeclarationContext, h.moved.kind]

theorem isClassLike_eq : m.isClassLike = n.isClassLike := by
  rw [isClassLike, isClassLike, h.moved.kind, h.moved.named]

theorem isNumericLiteral_eq : m.isNumericLiteral = n.isNumericLiteral := by
  rw [isNumericLiteral, isNumericLiteral, h.moved.kind, h.moved.named, h.content_eq]

theorem isAnyKeyword_eq : m.isAnyKeyword = n.isAnyKeyword := by
  rw [isAnyKeyword, isAnyKeyword, h.moved.kind, h.moved.named, h.content_eq]

theorem isNonNullAssertion_eq : m.isNonNullAssertion = n.isNonNullAssertion := by
  rw [isNonNullAssertion, isNonNullAssertion, h.moved.kind, h.moved.named]

theorem numericValue_eq : m.numericValue = n.numericValue := by
  rw [numericValue, numericValue, h.content_eq]

section

variable {around beyond : Option SyntaxNode} (hparent : Option.Rel (Annotated k) around beyond)

include hparent

omit h in
theorem inClassBody_eq : inClassBody beyond = inClassBody around := by
  refine any_eq_of_rel ?_ hparent
  intro a b hab
  rw [hab.moved.kind]

theorem isMethod_eq : isMethod beyond m = isMethod around n := by
  have hname : ((m.child? "name").any fun name => name.content == "constructor")
      = (n.child? "name").any fun name => name.content == "constructor" := by
    refine any_eq_of_rel ?_ (h.child? "name")
    intro a b hab
    rw [hab.content_eq]
  rw [isMethod, isMethod, h.moved.kind, inClassBody_eq hparent, hname, h.hasAccessorToken_eq]

theorem isFunctionLike_eq : isFunctionLike beyond m = isFunctionLike around n := by
  rw [isFunctionLike, isFunctionLike, h.moved.named, h.moved.kind, h.isMethod_eq hparent]

end

/-! ## Measurements -/

/-- Named children of one kind or another are counterparts of each other, unless the
choice takes comments. -/
theorem filter_namedChildren {p q : SyntaxNode → Bool}
    (hpq : ∀ a b, Annotated k a b → q b = p a) (hcomment : ∀ c, IsComment c → q c = false) :
    List.Forall₂ (Annotated k) (n.namedChildren.filter p) (m.namedChildren.filter q) := by
  rw [namedChildren, namedChildren, List.filter_filter, List.filter_filter]
  refine h.children.filter ?_ ?_
  · intro a b hab
    rw [hpq a b hab, hab.moved.named]
  · intro c hc
    rw [hcomment c hc, Bool.false_and]

theorem parameterCount_eq : m.parameterCount = n.parameterCount := by
  have hparameters := h.child? "parameters"
  have hparameter := h.child? "parameter"
  unfold parameterCount
  generalize n.child? "parameters" = a, m.child? "parameters" = b at hparameters
  generalize n.child? "parameter" = c, m.child? "parameter" = d at hparameter
  cases hparameters with
  | none =>
    cases hparameter with
    | none => rfl
    | some _ => rfl
  | some hlist =>
    refine (hlist.filter_namedChildren ?_ ?_).length_eq.symm
    · intro a b hab
      rw [hab.moved.kind]
    · intro c hc
      rw [hc.kind]
      rfl

theorem methodCount_eq : m.methodCount = n.methodCount := by
  have hbody := h.child? "body"
  unfold methodCount
  generalize n.child? "body" = a, m.child? "body" = b at hbody
  cases hbody with
  | none => rfl
  | some hbody =>
    refine (hbody.filter_namedChildren ?_ ?_).length_eq.symm
    · intro a b hab
      exact hab.isMethod_eq (.some hbody)
    · intro c hc
      rw [isMethod, hc.kind]
      rfl

end Annotated

end SyntaxNode

/-- As many functions stand around a node as around its counterpart. -/
theorem functionDepth_eq {k : Int} {around beyond : List SyntaxNode}
    (h : List.Forall₂ (SyntaxNode.Annotated k) around beyond) :
    functionDepth beyond = functionDepth around := by
  induction h with
  | nil => rfl
  | cons head rest ih =>
    rw [functionDepth, functionDepth, ih, head.isFunctionLike_eq (SyntaxNode.rel_head? rest)]

end CodeSmell
