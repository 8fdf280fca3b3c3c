/-
Functions around functions.

The rule about nesting is shown a function with the nodes around it and counts the
functions among them anew at each function. Here the count is one of visits: the nodes
around a visited node were visited too, each with what is around it, so being a function
is a question about each of those visits alone, and nothing else that stands in between
counts.

Main statement: with a limit below every count the rule reports each function of the
tree, as the rule about parameters does with such a limit; the depth that it reports
grows by one from a function to the next one inside it; and with any other limit it
reports the functions that stand in more functions than that, so along with a function
all functions inside it.
-/
import CodeSmell.Proofs.Walk.Order

set_option autoImplicit false

namespace CodeSmell

open Catalogue

/-! ## Visits around a visit -/

namespace Visit

/-- The visited node is a function, in any of its shapes. -/
def isFunction (v : Visit) : Bool := v.node.isFunctionLike v.parent?

/-- The visits to nodes that each stand in the next. -/
def chain : List SyntaxNode → List Visit
  | [] => []
  | n :: around => ⟨n, around⟩ :: chain around

/-- The visits to the nodes around the visited one, nearest first. -/
def outer (v : Visit) : List Visit := chain v.ancestors

/-- The number of functions that the visited node stands in. -/
def depth (v : Visit) : Nat := v.outer.countP isFunction

/-- Around one of the nodes of a chain stands the rest of the chain. -/
theorem exists_chain_eq_append {around : List SyntaxNode} {w : Visit} (h : w ∈ chain around) :
    ∃ before, chain around = before ++ w :: w.outer := by
  induction around with
  | nil => cases h
  | cons n around ih =>
    rcases List.mem_cons.mp h with rfl | h
    · exact ⟨[], rfl⟩
    · obtain ⟨before, hbefore⟩ := ih h
      exact ⟨⟨n, around⟩ :: before, by rw [chain, hbefore, List.cons_append]⟩

/-- Whatever stands around a visited node is visited, or stands around the whole tree. -/
theorem mem_visits_or_mem_chain {n : SyntaxNode} {v w : Visit} (hw : w ∈ v.outer) :
    ∀ {outside : List SyntaxNode}, v ∈ visits outside n →
      w ∈ visits outside n ∨ w ∈ chain outside := by
  induction n using SyntaxNode.induct_children with
  | node n ih =>
    intro outside hv
    rw [visits_eq] at hv ⊢
    rcases List.mem_cons.mp hv with rfl | hv
    · exact .inr hw
    -- Inside a child the node itself is the nearest one of those around.
    obtain ⟨c, hc, hv⟩ := List.mem_flatMap.mp hv
    rcases ih c (List.mem_filter.mp hc).1 hv with hw | hw
    · exact .inl (List.mem_cons_of_mem _ (List.mem_flatMap.mpr ⟨c, hc, hw⟩))
    rcases List.mem_cons.mp hw with rfl | hw
    · exact .inl List.mem_cons_self
    · exact .inr hw

/-- Whatever stands around a visited node is visited. -/
theorem mem_visits_of_mem_outer {root : SyntaxNode} {v w : Visit} (hv : v ∈ visits [] root)
    (hw : w ∈ v.outer) : w ∈ visits [] root :=
  (mem_visits_or_mem_chain hw hv).resolve_right List.not_mem_nil

/-! ## Depths -/

/-- The rule counts the functions among the visits around a node. -/
theorem functionDepth_eq_countP (around : List SyntaxNode) :
    functionDepth around = (chain around).countP isFunction := by
  induction around with
  | nil => rfl
  | cons n around ih =>
    rw [functionDepth, ih, chain, List.countP_cons]
    rfl

/-- A node that stands in no function has no depth. -/
theorem depth_eq_zero {v : Visit} (h : v.outer.find? isFunction = none) : v.depth = 0 := by
  rw [depth, List.countP_eq_zero]
  exact List.find?_eq_none.mp h

/-- A node is one deeper than the nearest function that it stands in. -/
theorem depth_eq_succ {v w : Visit} (h : v.outer.find? isFunction = some w) :
    v.depth = w.depth + 1 := by
  obtain ⟨node, around⟩ := v
  change (chain around).find? isFunction = some w at h
  change (chain around).countP isFunction = w.depth + 1
  -- Nodes that are no functions add nothing, and behind the first function its own count begins.
  induction around with
  | nil => cases h
  | cons n around ih =>
    rw [chain, List.find?_cons] at h
    rw [chain, List.countP_cons]
    cases hn : isFunction ⟨n, around⟩ with
    | false =>
      rw [hn] at h
      rw [ih h]
      rfl
    | true =>
      rw [hn] at h
      obtain rfl := Option.some.inj h
      rfl

/-- A node is deeper than each function that it stands in. -/
theorem depth_lt_of_mem_outer {v w : Visit} (hw : w ∈ v.outer) (hfunction : w.isFunction = true) :
    w.depth < v.depth := by
  obtain ⟨before, hbefore⟩ := exists_chain_eq_append hw
  rw [depth, depth, outer, outer, hbefore, List.countP_append, List.countP_cons, hfunction,
    if_pos rfl]
  exact Nat.lt_of_lt_of_le (Nat.lt_succ_self _) (Nat.le_add_left _ _)

end Visit

/-! ## Reports -/

namespace Rule

/-- What the rule reports at a visit. -/
def reportAt? (rule : Rule) (v : Visit) : Option Detection := (rule.outcome v).detection?

/-- The visits of a tree at which the rule reports something, in the order of the walk. -/
def reported (rule : Rule) (root : SyntaxNode) : List Visit :=
  (visits [] root).filter fun v => (rule.reportAt? v).isSome

theorem reportAt?_of_evaluate {rule : Rule} {v : Visit} {d : Option Detection}
    (h : rule.evaluate v = .ok d) : rule.reportAt? v = d := by
  rw [reportAt?, outcome, h]
  cases d <;> rfl

/-- A walk with one rule detects what the rule reports, visit by visit. -/
theorem detections_walk_singleton (rule : Rule) (root : SyntaxNode) :
    (walk root [rule]).detections.toList = (visits [] root).filterMap rule.reportAt? := by
  rw [detections_walk_eq, List.filterMap_eq_flatMap_toList]
  refine List.flatMap_congr fun v _ => ?_
  rw [List.map_singleton, List.filterMap_cons, List.filterMap_nil, reportAt?]
  cases (rule.outcome v).detection? <;> rfl

/-- A rule that makes a report where a condition holds reports at the visits with it, and
the walk with it detects these reports. -/
theorem reported_of_reportAt? {rule : Rule} {p : Visit → Bool} {make : Visit → Detection}
    (h : ∀ v, rule.reportAt? v = if p v then some (make v) else none) (root : SyntaxNode) :
    rule.reported root = (visits [] root).filter p
      ∧ (walk root [rule]).detections.toList = (rule.reported root).map make := by
  have hreported : rule.reported root = (visits [] root).filter p := by
    refine List.filter_congr fun v _ => ?_
    rw [h]
    cases p v <;> rfl
  refine ⟨hreported, ?_⟩
  rw [detections_walk_singleton, hreported, ← List.filterMap_eq_map, List.filterMap_filter]
  exact List.filterMap_congr fun v _ => h v

end Rule

namespace Catalogue

/-- The report about a function with a depth. -/
def depthReport (v : Visit) (depth : Nat) : Detection :=
  ⟨callbackHellInfo, v.node.start.row, [("depth", .int depth)]⟩

/-- The rule about nesting reports functions that stand in more functions than the limit. -/
theorem reportAt?_callbackHell (t : Thresholds) (v : Visit) :
    (callbackHell t).reportAt? v
      = if v.isFunction && decide (t.maxNestingDepth < v.depth) then
          some (depthReport v v.depth) else none := by
  have hdepth : functionDepth v.ancestors = v.depth := Visit.functionDepth_eq_countP v.ancestors
  have hevaluate : (callbackHell t).evaluate v
      = .ok (if v.isFunction && decide (t.maxNestingDepth < v.depth) then
          some (depthReport v v.depth) else none) := by
    simp only [callbackHell, hdepth]
    change (if v.isFunction = true then _ else _) = _
    cases v.isFunction
    · rfl
    · simp only [Bool.true_and, decide_eq_true_eq, if_true]
      rfl
  exact Rule.reportAt?_of_evaluate hevaluate

/-- The rule about parameters reports functions with more of them than the limit. -/
theorem reportAt?_longParameterList (t : Thresholds) (v : Visit) :
    (longParameterList t).reportAt? v
      = if v.isFunction && decide (t.maxParameters < v.node.parameterCount) then
          report longParameterListInfo v [("count", .int v.node.parameterCount)] else none := by
  have hevaluate : (longParameterList t).evaluate v
      = .ok (if v.isFunction && decide (t.maxParameters < v.node.parameterCount) then
          report longParameterListInfo v [("count", .int v.node.parameterCount)] else none) := by
    simp only [longParameterList, Bool.and_eq_true, decide_eq_true_eq]
    rfl
  exact Rule.reportAt?_of_evaluate hevaluate

/-- No count is below zero, so a limit of minus one lets every function through. -/
theorem and_decide_minus_one_lt (b : Bool) (n : Nat) : (b && decide ((-1 : Int) < n)) = b := by
  rw [decide_eq_true (by omega), Bool.and_true]

/-- **Depth is counted along the way down.** With a limit of minus one the rules about
nesting and about parameters report the same visits, those to functions. The depth that is
then reported for a function is zero if it stands in no function, and otherwise one more than
the depth that is reported for the nearest function around it. With a limit from zero on, the
functions are reported that stand in more functions than the limit, in the order of the walk,
and along with a function each function inside it, with a greater depth. -/
theorem depth_is_counted_on_the_way_down (t : Thresholds) (root : SyntaxNode) :
    let functions := (visits [] root).filter Visit.isFunction
    let anyDepth := callbackHell { t with maxNestingDepth := -1 }
    let anyCount := longParameterList { t with maxParameters := -1 }
    (anyDepth.reported root = functions ∧ anyCount.reported root = functions)
      ∧ (∀ v ∈ functions, ∃ depth : Nat, anyDepth.reportAt? v = some (depthReport v depth)
          ∧ ((∀ w ∈ v.outer, w.isFunction = false) ∧ depth = 0
            ∨ ∃ w ∈ functions, ∃ less : Nat, v.outer.find? Visit.isFunction = some w
                ∧ anyDepth.reportAt? w = some (depthReport w less) ∧ depth = less + 1))
      ∧ ∀ limit : Nat,
          let rule := callbackHell { t with maxNestingDepth := limit }
          rule.reported root
              = functions.filter (fun v => decide (limit + 1 ≤ v.outer.countP Visit.isFunction))
            ∧ (walk root [rule]).detections.toList
              = (rule.reported root).map (fun v => depthReport v v.depth)
            ∧ ∀ w ∈ rule.reported root, ∀ v ∈ functions, w ∈ v.outer →
                v ∈ rule.reported root ∧ w.depth < v.depth := by
  intro functions anyDepth anyCount
  have hdepth : ∀ v, anyDepth.reportAt? v
      = if v.isFunction then some (depthReport v v.depth) else none := by
    intro v
    rw [reportAt?_callbackHell, and_decide_minus_one_lt]
  have hcount : ∀ v, anyCount.reportAt? v = if v.isFunction then
      report longParameterListInfo v [("count", .int v.node.parameterCount)] else none := by
    intro v
    rw [reportAt?_longParameterList, and_decide_minus_one_lt]
  refine ⟨⟨(Rule.reported_of_reportAt? hdepth root).1, (Rule.reported_of_reportAt? hcount root).1⟩,
    ?_, ?_⟩
  · intro v hv
    obtain ⟨hvisit, hfunction⟩ := List.mem_filter.mp hv
    refine ⟨v.depth, by rw [hdepth, if_pos hfunction], ?_⟩
    cases hnearest : v.outer.find? Visit.isFunction with
    | none =>
      refine .inl ⟨fun w hw => ?_, Visit.depth_eq_zero hnearest⟩
      exact Bool.eq_false_iff.mpr (List.find?_eq_none.mp hnearest w hw)
    | some w =>
      have hw : w.isFunction = true := List.find?_some hnearest
      have houter : w ∈ visits [] root :=
        Visit.mem_visits_of_mem_outer hvisit (List.mem_of_find?_eq_some hnearest)
      exact .inr ⟨w, List.mem_filter.mpr ⟨houter, hw⟩, w.depth, rfl,
        by rw [hdepth, if_pos hw], Visit.depth_eq_succ hnearest⟩
  · intro limit rule
    obtain ⟨hreported, hwalk⟩ :=
      Rule.reported_of_reportAt? (reportAt?_callbackHell { t with maxNestingDepth := limit }) root
    have hmem : ∀ v, v ∈ rule.reported root ↔ v ∈ functions ∧ limit < v.depth := by
      intro v
      rw [hreported, List.mem_filter, List.mem_filter, Bool.and_eq_true, decide_eq_true_eq,
        Int.ofNat_lt, and_assoc]
    refine ⟨?_, hwalk, ?_⟩
    · rw [hreported, List.filter_filter]
      refine List.filter_congr fun v _ => ?_
      rw [Bool.and_comm]
      congr 1
      exact decide_eq_decide.mpr Int.ofNat_lt
    · intro w hw v hv houter
      obtain ⟨hfunction, hlimit⟩ := (hmem w).mp hw
      have hless := Visit.depth_lt_of_mem_outer houter (List.mem_filter.mp hfunction).2
      exact ⟨(hmem v).mpr ⟨hv, Nat.lt_trans hlimit hless⟩, hless⟩

/-- The nodes around an arrow function in the constructor of a class in a function, nearest
first, where the arrow function is `callback`. -/
def aroundCallback (callback : SyntaxNode) : List SyntaxNode :=
  let name : SyntaxNode :=
    { SyntaxNode.leaf "property_identifier" with
      field := some "name", text := some (.ofBytes "constructor".toUTF8) }
  let method := { SyntaxNode.leaf "method_definition" with children := [name, callback] }
  let body := { SyntaxNode.leaf "class_body" with children := [method] }
  let function := { SyntaxNode.leaf "function_declaration" with children := [body] }
  [method, body, function]

/-- The visit to an arrow function with another one in it. -/
def callbackVisit : Visit :=
  let callback := { SyntaxNode.leaf "arrow_function" with
    children := [.leaf "arrow_function"] }
  ⟨callback, aroundCallback callback⟩

/-- The visit to the arrow function in it. -/
def innerVisit : Visit :=
  ⟨.leaf "arrow_function", callbackVisit.node :: callbackVisit.ancestors⟩

/-- The function around all of them. -/
def nestedTree : SyntaxNode := (callbackVisit.ancestors.getLast?).getD default

theorem depth_is_counted_on_the_way_down_nestedTree :
    let rule := callbackHell { Thresholds.standard with maxNestingDepth := (0 : Nat) }
    callbackVisit ∈ rule.reported nestedTree ∧ callbackVisit ∈ innerVisit.outer
      ∧ innerVisit ∈ rule.reported nestedTree
      ∧ callbackVisit.depth = 1 ∧ callbackVisit.depth < innerVisit.depth := by
  intro rule
  have hvisits : callbackVisit ∈ visits [] nestedTree ∧ innerVisit ∈ visits [] nestedTree :=
    ⟨.tail _ (.tail _ (.tail _ (.tail _ (.head _)))),
      .tail _ (.tail _ (.tail _ (.tail _ (.tail _ (.head _)))))⟩
  have houter : callbackVisit ∈ innerVisit.outer := .head _
  have hcallback : callbackVisit ∈ rule.reported nestedTree :=
    List.mem_filter.mpr ⟨hvisits.1, by decide +kernel⟩
  have hinner : innerVisit ∈ (visits [] nestedTree).filter Visit.isFunction :=
    List.mem_filter.mpr ⟨hvisits.2, by decide +kernel⟩
  obtain ⟨-, -, hlimits⟩ := depth_is_counted_on_the_way_down .standard nestedTree
  obtain ⟨-, -, hinside⟩ := hlimits 0
  obtain ⟨hreported, hless⟩ := hinside callbackVisit hcallback innerVisit hinner houter
  exact ⟨hcallback, houter, hreported, by decide +kernel, hless⟩

end Catalogue

end CodeSmell
