/-
Looser limits report less.

A rule compares one measurement with one limit, and its limit is exceeded only by
something strictly greater. So where the limits of one setting are nowhere below those
of another, and every number that was exempt still is, a rule says of a node what it
said before, or keeps silent about something it reported. It never begins to report,
and it fails where it failed, since the value of a literal is computed before it is
asked whether the value is exempt. Main statement: the walk with the looser limits
detects a part of what the other one detects, in the same order, and has the same
diagnostics.

Exempt numbers are compared as numbers: an integer and a double may be the same one,
and so may the zeros of both signs.
-/
import CodeSmell.Proofs.Number.Equality
import CodeSmell.Proofs.Walk.Order

set_option autoImplicit false

namespace CodeSmell

open Catalogue

/-! ## Exempt numbers -/

namespace ExemptNumber

/-- The two are the same number. -/
def isSame : ExemptNumber → ExemptNumber → Bool
  | integer a, integer b => a == b
  | integer a, double y => y.eqInt a
  | double x, n => n.isValue x

/-- What is exempt by a number is exempt by another one that is the same. -/
theorem isValue_of_isSame {n m : ExemptNumber} {x : Binary64} (h : n.isSame m = true)
    (hx : n.isValue x = true) : m.isValue x = true := by
  cases n with
  | integer a =>
    cases m with
    | integer b =>
      obtain rfl : a = b := beq_iff_eq.mp h
      exact hx
    | double y => exact Binary64.sameNumber_of_eqInt hx h
  | double y =>
    cases m with
    | integer b => exact Binary64.eqInt_of_sameNumber hx h
    | double z => exact Binary64.sameNumber_trans hx h

end ExemptNumber

/-! ## Limits -/

/-- The second limits are nowhere below the first ones, and exempt every number that
these exempt: the same entry, or another one for the same number. -/
structure Thresholds.Loosened (t u : Thresholds) : Prop where
  maxParameters : t.maxParameters ≤ u.maxParameters
  maxMethods : t.maxMethods ≤ u.maxMethods
  maxClassLines : t.maxClassLines ≤ u.maxClassLines
  maxNestingDepth : t.maxNestingDepth ≤ u.maxNestingDepth
  exemptNumbers : ∀ n ∈ t.exemptNumbers, ∃ m ∈ u.exemptNumbers, n = m ∨ n.isSame m = true

theorem Thresholds.Loosened.exempts {t u : Thresholds} (h : t.Loosened u) {x : Binary64}
    (hx : t.exempts x = true) : u.exempts x = true := by
  obtain ⟨n, hn, hvalue⟩ := List.any_eq_true.mp hx
  obtain ⟨m, hm, hsame⟩ := h.exemptNumbers n hn
  refine List.any_eq_true.mpr ⟨m, hm, ?_⟩
  rcases hsame with rfl | hsame
  · exact hvalue
  · exact ExemptNumber.isValue_of_isSame hsame hvalue

/-! ## Outcomes -/

/-- The second outcome is the first one, or nothing where the first one is a report. -/
inductive RuleOutcome.Loosened : RuleOutcome → RuleOutcome → Prop where
  | same (o : RuleOutcome) : Loosened o o
  | dropped (d : Detection) : Loosened (.detected d) .silent

/-- Two rules of one name that fail alike, or say the same, have the same outcome. -/
theorem RuleOutcome.loosened_of_eq {rule other : Rule} {v : Visit} (hid : rule.id = other.id)
    (h : rule.evaluate v = other.evaluate v) :
    Loosened (rule.outcome v) (other.outcome v) := by
  unfold Rule.outcome
  rw [h, hid]
  exact .same _

/-- A report under a stricter condition is the report, or nothing. -/
theorem RuleOutcome.loosened_of_imp {rule other : Rule} {v : Visit} {info : RuleInfo}
    {facts : Facts} {p q : Prop} [Decidable p] [Decidable q]
    (hrule : rule.evaluate v = .ok (if p then report info v facts else none))
    (hother : other.evaluate v = .ok (if q then report info v facts else none)) (hqp : q → p) :
    Loosened (rule.outcome v) (other.outcome v) := by
  unfold Rule.outcome
  rw [hrule, hother]
  by_cases hq : q
  · rw [if_pos hq, if_pos (hqp hq)]
    exact .same _
  · rw [if_neg hq]
    by_cases hp : p
    · rw [if_pos hp]
      exact .dropped _
    · rw [if_neg hp]
      exact .same _

section

variable {t u : Thresholds} (h : t.Loosened u) (v : Visit)

include h

theorem loosened_longParameterList :
    ((longParameterList t).outcome v).Loosened ((longParameterList u).outcome v) := by
  refine RuleOutcome.loosened_of_imp rfl rfl ?_
  rintro ⟨hfunction, hcount⟩
  exact ⟨hfunction, Int.lt_of_le_of_lt h.maxParameters hcount⟩

theorem loosened_magicNumber :
    ((magicNumber t).outcome v).Loosened ((magicNumber u).outcome v) := by
  by_cases hliteral : v.node.isNumericLiteral = true
  · cases hvalue : v.node.numericValue with
    | error e =>
      have hfails (limits : Thresholds) : (magicNumber limits).evaluate v = .error e.toFault := by
        simp only [magicNumber, if_pos hliteral, hvalue]
      exact RuleOutcome.loosened_of_eq rfl ((hfails t).trans (hfails u).symm)
    | ok value =>
      have hreports (limits : Thresholds) : (magicNumber limits).evaluate v
          = .ok (if ¬(limits.exempts value || v.parent?.any (·.isDeclarationContext)) = true
              then report magicNumberInfo v
                [("value", .str (Numeral.write Numeral.script value))]
              else none) := by
        simp only [magicNumber, if_pos hliteral, hvalue, ite_not]
      refine RuleOutcome.loosened_of_imp (hreports t) (hreports u) fun hu ht => hu ?_
      rw [Bool.or_eq_true] at ht ⊢
      exact ht.imp_left h.exempts
  · have hsilent (limits : Thresholds) : (magicNumber limits).evaluate v = .ok none := by
      simp only [magicNumber, if_neg hliteral]
    exact RuleOutcome.loosened_of_eq rfl ((hsilent t).trans (hsilent u).symm)

theorem loosened_godClass :
    ((godClass t).outcome v).Loosened ((godClass u).outcome v) := by
  refine RuleOutcome.loosened_of_imp rfl rfl ?_
  rintro ⟨hclass, hmethods | hlines⟩
  · exact ⟨hclass, .inl (Int.lt_of_le_of_lt h.maxMethods hmethods)⟩
  · exact ⟨hclass, .inr (Int.lt_of_le_of_lt h.maxClassLines hlines)⟩

theorem loosened_callbackHell :
    ((callbackHell t).outcome v).Loosened ((callbackHell u).outcome v) := by
  by_cases hfunction : v.node.isFunctionLike v.parent? = true
  · have hreports (limits : Thresholds) : (callbackHell limits).evaluate v
        = .ok (if limits.maxNestingDepth < functionDepth v.ancestors
            then report callbackHellInfo v [("depth", .int (functionDepth v.ancestors))]
            else none) := by
      simp only [callbackHell, if_pos hfunction]
    exact RuleOutcome.loosened_of_imp (hreports t) (hreports u) fun hdepth =>
      Int.lt_of_le_of_lt h.maxNestingDepth hdepth
  · have hsilent (limits : Thresholds) : (callbackHell limits).evaluate v = .ok none := by
      simp only [callbackHell, if_neg hfunction]
    exact RuleOutcome.loosened_of_eq rfl ((hsilent t).trans (hsilent u).symm)

/-- At a visit, each of the rules says the same with the looser limits, or nothing where
it reported something. -/
theorem loosened_outcomes :
    List.Forall₂ RuleOutcome.Loosened ((rules t).map (·.outcome v)) ((rules u).map (·.outcome v)) :=
  .cons (.same _) <| .cons (loosened_longParameterList h v) <| .cons (loosened_magicNumber h v) <|
    .cons (loosened_godClass h v) <| .cons (loosened_callbackHell h v) <| .cons (.same _) .nil

end

/-! ## Walks -/

/-- Of outcomes that are loosened one by one, a part of the detections is left, and all
diagnostics are. -/
theorem collected_of_loosened {os ps : List RuleOutcome}
    (h : List.Forall₂ RuleOutcome.Loosened os ps) :
    (ps.filterMap RuleOutcome.detection?).Sublist (os.filterMap RuleOutcome.detection?)
      ∧ ps.filterMap RuleOutcome.diagnostic? = os.filterMap RuleOutcome.diagnostic? := by
  induction h with
  | nil => exact ⟨.slnil, rfl⟩
  | @cons o _ _ _ head rest ih =>
    obtain ⟨hdetections, hdiagnostics⟩ := ih
    cases head with
    | same =>
      cases o with
      | silent => exact ⟨hdetections, hdiagnostics⟩
      | detected d => exact ⟨hdetections.cons_cons d, hdiagnostics⟩
      | failed d => exact ⟨hdetections, congrArg (d :: ·) hdiagnostics⟩
    | dropped d => exact ⟨hdetections.cons d, hdiagnostics⟩

/-- Parts of the pieces, put together, are a part of the whole. -/
theorem sublist_flatMap {α β : Type} {f g : α → List β} (h : ∀ a, (f a).Sublist (g a))
    (as : List α) : (as.flatMap f).Sublist (as.flatMap g) := by
  induction as with
  | nil => exact .slnil
  | cons a rest ih =>
    rw [List.flatMap_cons, List.flatMap_cons]
    exact (h a).append ih

/-- **Looser limits report less.** If no limit of `u` is below that of `t`, and every
number that `t` exempts is exempt by `u`, the walk over any tree with the limits `u`
detects a part of what the walk with the limits `t` detects, with the same rules, rows
and facts and in the same order, and it has exactly the same diagnostics. -/
theorem looser_limits_report_less {t u : Thresholds} (h : t.Loosened u) (root : SyntaxNode) :
    (walk root (rules u)).detections.toList.Sublist (walk root (rules t)).detections.toList
      ∧ (walk root (rules u)).diagnostics = (walk root (rules t)).diagnostics := by
  constructor
  · rw [detections_walk_eq, detections_walk_eq]
    exact sublist_flatMap (fun v => (collected_of_loosened (loosened_outcomes h v)).1) _
  · rw [← Array.toList_inj, diagnostics_walk_eq, diagnostics_walk_eq]
    exact List.flatMap_congr fun v _ => (collected_of_loosened (loosened_outcomes h v)).2

/-- Limits above the built-in ones. Zero and one are exempt as doubles, and seven is new. -/
def wideThresholds : Thresholds :=
  { maxParameters := 4
    maxMethods := 20
    maxClassLines := 301
    maxNestingDepth := 9
    exemptNumbers :=
      [.double (.zero true), .double ⟨0x3FF0000000000000⟩, .integer (-1), .integer 7] }

/-- An arrow function with four parameters, whose value is the sum of a number and of one
that is cut off. -/
def sumTree : SyntaxNode :=
  let node (kind : String) (bytes : List UInt8) (children : List SyntaxNode) : SyntaxNode :=
    { SyntaxNode.leaf kind with text := some (.ofBytes ⟨bytes.toArray⟩), children := children }
  node "program" []
    [node "arrow_function" []
      [{ node "formal_parameters" [] (List.replicate 4 (.leaf "required_parameter")) with
          field := some "parameters" },
       node "binary_expression" [] [node "number" [0x37] [], node "number" [0x30, 0x78] []]]]

theorem looser_limits_report_less_sumTree :
    Thresholds.standard.Loosened wideThresholds
      ∧ (walk sumTree (rules wideThresholds)).detections.toList.Sublist
          (walk sumTree (rules .standard)).detections.toList
      ∧ (walk sumTree (rules wideThresholds)).diagnostics
          = (walk sumTree (rules .standard)).diagnostics := by
  have h : Thresholds.standard.Loosened wideThresholds := by
    refine ⟨by decide, by decide, by decide, by decide, ?_⟩
    decide +kernel
  exact ⟨h, looser_limits_report_less h sumTree⟩

end CodeSmell
