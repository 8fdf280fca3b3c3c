/-
Number literals and the rule about magic numbers.

What the rule says about a literal depends on the double that the literal is read as, and on
whether a declaration names it; nothing else of its spelling matters. So two spellings of one
number are treated alike wherever both are read. Where a literal is refused the rule fails,
also if the literal stands in a declaration, and on a tree whose literals are well formed no
rule that is built in fails otherwise.
-/
import CodeSmell.Proofs.Catalogue.Detections
import CodeSmell.Proofs.Number.LiteralReading
import CodeSmell.Proofs.Number.ReadBack
import CodeSmell.Proofs.Tree.Spelling
import CodeSmell.Proofs.Walk.Order

set_option autoImplicit false

namespace CodeSmell

/-- The description that a rule gives of what it sees, without the place. -/
def Rule.describes (r : Rule) (v : Visit) :
    Except RuleFault (Option (Except TemplateError String)) :=
  (r.evaluate v).map fun said => said.map fun d => Template.fill d.rule.description d.facts

/-- A declaration names what is visited. -/
def Visit.isDeclared (v : Visit) : Bool := v.parent?.any (·.isDeclarationContext)

namespace SyntaxNode

variable {n : SyntaxNode} {l : NumberLiteral} {x : Binary64}

/-- What spells a literal is no big integer, so it is a number to the rules if it is one to the
grammar. -/
theorem isNumericLiteral_of_text (h : n.content = l.text) :
    n.isNumericLiteral = (n.named && n.kind == "number") := by
  have hlast : (n.content.toList.getLast? != some 'n') = true := by
    rw [bne_iff_ne, h]
    exact fun hn => l.ne_of_mem_text (List.mem_of_getLast? hn) rfl
  rw [isNumericLiteral, hlast, Bool.and_true]

/-- A literal has the double that its value is rounded to as its value, unless it is
refused. -/
theorem numericValue_of_text (h : n.content = l.text) (hx : Binary64.IsRounding l.value x) :
    n.numericValue = l.refusal?.elim (.ok x) .error := by
  rw [numericValue, h, l.literal_text hx]

theorem isRounding_of_numericValue (h : n.content = l.text) (hx : n.numericValue = .ok x) :
    Binary64.IsRounding l.value x := by
  obtain ⟨y, hy⟩ := Binary64.exists_isRounding l.value
  have hvalue := numericValue_of_text h hy
  rw [hx] at hvalue
  cases hrefusal : l.refusal? with
  | none =>
    rw [hrefusal] at hvalue
    obtain rfl : x = y := Except.ok.inj hvalue
    exact hy
  | some e =>
    rw [hrefusal] at hvalue
    cases hvalue

end SyntaxNode

namespace Catalogue

section

variable (t : Thresholds) {v : Visit} (hv : v.node.isNumericLiteral = true)

include hv

theorem evaluate_magicNumber_of_ok {x : Binary64} (hx : v.node.numericValue = .ok x) :
    (magicNumber t).evaluate v
      = .ok (if t.exempts x || v.isDeclared then none
          else report magicNumberInfo v [("value", .str (Numeral.write Numeral.script x))]) := by
  simp only [magicNumber, if_pos hv, hx, Visit.isDeclared]
  rfl

theorem evaluate_magicNumber_of_error {e : NumeralError} (he : v.node.numericValue = .error e) :
    (magicNumber t).evaluate v = .error e.toFault := by
  simp only [magicNumber, if_pos hv, he]

end

/-- What is reported about a literal quotes the double that it is read as. -/
theorem eq_of_evaluate_magicNumber_of_ok {t : Thresholds} {v : Visit} {x : Binary64}
    {d : Detection} (hx : v.node.numericValue = .ok x)
    (h : (magicNumber t).evaluate v = .ok (some d)) :
    ⟨magicNumberInfo, v.node.start.row,
      [("value", .str (Numeral.write Numeral.script x))]⟩ = d := by
  by_cases hv : v.node.isNumericLiteral = true
  · rw [evaluate_magicNumber_of_ok t hv hx] at h
    have hreport := Except.ok.inj h
    rw [← ite_not] at hreport
    exact eq_of_ite_eq_some hreport
  · simp only [magicNumber, if_neg hv] at h
    cases h

/-- What is said about two literals that are read as one double is the same, if a declaration
names both or neither. -/
theorem describes_magicNumber_congr (t : Thresholds) {v w : Visit} {x : Binary64}
    (hliteral : w.node.isNumericLiteral = v.node.isNumericLiteral)
    (hv : v.node.numericValue = .ok x) (hw : w.node.numericValue = .ok x)
    (hdeclared : w.isDeclared = v.isDeclared) :
    (magicNumber t).describes w = (magicNumber t).describes v := by
  by_cases h : v.node.isNumericLiteral = true
  · rw [Rule.describes, Rule.describes, evaluate_magicNumber_of_ok t h hv,
      evaluate_magicNumber_of_ok t (hliteral.trans h) hw, hdeclared]
    by_cases hsilent : (t.exempts x || v.isDeclared) = true
    · rw [if_pos hsilent, if_pos hsilent]
    · rw [if_neg hsilent, if_neg hsilent]
      rfl
  · have hsilent {u : Visit} (hu : ¬u.node.isNumericLiteral = true) :
        (magicNumber t).evaluate u = .ok none := by
      simp only [magicNumber, if_neg hu]
    rw [Rule.describes, Rule.describes, hsilent h, hsilent (hliteral ▸ h)]

/-- **Literals are rounded.** Whenever a literal has a value, it is the double that the
rational number that it stands for is rounded to, the nearest one, with ties to even and
infinity past the largest. So two spellings of one number that have values have the same
one; they are exempt from reporting alike, and the rule gives the same description of them
where a declaration names both or neither. -/
theorem literals_are_rounded {l : NumberLiteral} {n : SyntaxNode} {x : Binary64}
    (hn : n.content = l.text) (hx : n.numericValue = .ok x) :
    (∀ y, Binary64.IsRounding l.value y ↔ y = x)
      ∧ ∀ {k : NumberLiteral} {m : SyntaxNode} {y : Binary64},
        m.content = k.text → m.numericValue = .ok y → k.value = l.value →
          y = x
            ∧ (∀ t : Thresholds, t.exempts y = t.exempts x)
            ∧ ∀ (t : Thresholds) (v w : Visit), v.node = n → w.node = m →
                m.named = n.named → m.kind = n.kind → w.isDeclared = v.isDeclared →
                (magicNumber t).describes w = (magicNumber t).describes v := by
  have hround := SyntaxNode.isRounding_of_numericValue hn hx
  refine ⟨fun y => ⟨fun hy => hy.unique hround, fun h => h ▸ hround⟩, ?_⟩
  intro k m y hm hy hvalue
  have hsame : y = x := by
    have hround' := SyntaxNode.isRounding_of_numericValue hm hy
    rw [hvalue] at hround'
    exact hround'.unique hround
  subst hsame
  refine ⟨rfl, fun _ => rfl, ?_⟩
  rintro t v w rfl rfl hnamed hkind hdeclared
  refine describes_magicNumber_congr t ?_ hx hy hdeclared
  rw [SyntaxNode.isNumericLiteral_of_text hn, SyntaxNode.isNumericLiteral_of_text hm, hnamed, hkind]

/-- A node of the grammar for a number with the bytes of its text. -/
def numberNode (bytes : List UInt8) : SyntaxNode :=
  { SyntaxNode.leaf "number" with text := some (.ofBytes ⟨bytes.toArray⟩) }

theorem numberNode_content (bytes : List UInt8) :
    (numberNode bytes).content = String.ofList (Text.Utf8.decode bytes) := by
  have hbytes : (numberNode bytes).bytes = bytes := Excerpt.toList_ofBytes bytes
  rw [SyntaxNode.content, hbytes]

/-- Thirty-one in hexadecimal digits, with a separator between them. -/
def hexThirtyOne : NumberLiteral := .based .hexadecimal false ⟨⟨1, false⟩, [(true, ⟨15, true⟩)]⟩

/-- Thirty-one in decimal digits, with a point after them. -/
def pointThirtyOne : NumberLiteral :=
  .decimal (.plain ⟨⟨⟨3, by decide⟩, false⟩, [(false, ⟨⟨1, by decide⟩, false⟩)]⟩ (by decide))
    (some none) none

theorem literals_are_rounded_thirtyOne :
    hexThirtyOne.text = "0x1_F" ∧ pointThirtyOne.text = "31."
      ∧ (∀ y, Binary64.IsRounding hexThirtyOne.value y ↔ y = ⟨0x403F000000000000⟩)
      ∧ ∀ (t : Thresholds) (v w : Visit),
          v.node = numberNode [0x30, 0x78, 0x31, 0x5F, 0x46] →
          w.node = numberNode [0x33, 0x31, 0x2E] → w.isDeclared = v.isDeclared →
          (magicNumber t).describes w = (magicNumber t).describes v := by
  have hhex : (numberNode [0x30, 0x78, 0x31, 0x5F, 0x46]).content = hexThirtyOne.text := by
    decide +kernel
  have hpoint : (numberNode [0x33, 0x31, 0x2E]).content = pointThirtyOne.text := by
    decide +kernel
  have hhexRead : (numberNode [0x30, 0x78, 0x31, 0x5F, 0x46]).numericValue
      = .ok ⟨0x403F000000000000⟩ := by
    decide +kernel
  have hpointRead : (numberNode [0x33, 0x31, 0x2E]).numericValue = .ok ⟨0x403F000000000000⟩ := by
    decide +kernel
  have hvalue : pointThirtyOne.value = hexThirtyOne.value := by
    decide +kernel
  obtain ⟨hround, hsame⟩ := literals_are_rounded hhex hhexRead
  obtain ⟨-, -, hdescribes⟩ := hsame hpoint hpointRead hvalue
  refine ⟨by decide, by decide, hround, ?_⟩
  intro t v w hv hw hdeclared
  exact hdescribes t v w hv hw rfl rfl hdeclared

/-! ## Refused literals -/

/-- No other rule that is built in fails. -/
theorem eq_magicNumber_of_evaluate_error {t : Thresholds} {rule : Rule} (hrule : rule ∈ rules t)
    {v : Visit} {fault : RuleFault} (h : rule.evaluate v = .error fault) :
    rule = magicNumber t := by
  simp only [rules, List.mem_cons, List.not_mem_nil, or_false] at hrule
  rcases hrule with rfl | rfl | rfl | rfl | rfl | rfl
  · cases h
  · cases h
  · rfl
  · cases h
  · simp only [callbackHell] at h
    split at h <;> cases h
  · cases h

/-- The rule about magic numbers fails on literals without a value. -/
theorem evaluate_magicNumber_eq_error_iff {t : Thresholds} {v : Visit} {fault : RuleFault} :
    (magicNumber t).evaluate v = .error fault
      ↔ v.node.isNumericLiteral = true
          ∧ ∃ e, v.node.numericValue = .error e ∧ fault = e.toFault := by
  by_cases hv : v.node.isNumericLiteral = true
  · cases hvalue : v.node.numericValue with
    | ok x => simp [evaluate_magicNumber_of_ok t hv hvalue]
    | error e => simp [evaluate_magicNumber_of_error t hv hvalue, hv, eq_comm]
  · simp [magicNumber, hv]

/-- **Refused literals fail.** A literal has the double that its value is rounded to, as the
language has it, with two exceptions: one that is read as an integer first has no value if
it is past the finite doubles, or if it is decimal and has more digits than are converted.
On a tree whose number nodes spell literals the diagnostics are about these exceptions and
nothing else. -/
theorem refused_literals_fail {t : Thresholds} {root : SyntaxNode}
    (h : ∀ v ∈ visits [] root, v.node.isNumericLiteral = true →
      ∃ l : NumberLiteral, v.node.content = l.text) :
    (∀ (l : NumberLiteral) (n : SyntaxNode) (x : Binary64), n.content = l.text →
        Binary64.IsRounding l.value x → n.numericValue = l.refusal?.elim (.ok x) .error)
      ∧ (∀ d, d ∈ (walk root (rules t)).diagnostics.toList
          ↔ ∃ v ∈ visits [] root, v.node.isNumericLiteral = true
              ∧ ∃ l : NumberLiteral, v.node.content = l.text
                  ∧ ∃ e, l.refusal? = some e
                      ∧ d = ⟨magicNumberInfo.id, v.node.kind, v.node.line, e.toFault.describe⟩)
      ∧ ((walk root (rules t)).diagnostics = #[]
          ↔ ∀ v ∈ visits [] root, v.node.isNumericLiteral = true →
              ∀ l : NumberLiteral, v.node.content = l.text → l.refusal? = none) := by
  have herror {n : SyntaxNode} {l : NumberLiteral} (hn : n.content = l.text) {e : NumeralError} :
      n.numericValue = .error e ↔ l.refusal? = some e := by
    obtain ⟨x, hx⟩ := Binary64.exists_isRounding l.value
    rw [SyntaxNode.numericValue_of_text hn hx]
    cases l.refusal? <;> simp
  have hmem : ∀ d, d ∈ (walk root (rules t)).diagnostics.toList
      ↔ ∃ v ∈ visits [] root, v.node.isNumericLiteral = true
          ∧ ∃ l : NumberLiteral, v.node.content = l.text
              ∧ ∃ e, l.refusal? = some e
                  ∧ d = ⟨magicNumberInfo.id, v.node.kind, v.node.line, e.toFault.describe⟩ := by
    intro d
    rw [mem_diagnostics_walk]
    constructor
    · rintro ⟨v, hv, rule, hrule, fault, hfault, rfl⟩
      obtain rfl := eq_magicNumber_of_evaluate_error hrule hfault
      obtain ⟨hliteral, e, he, rfl⟩ := evaluate_magicNumber_eq_error_iff.mp hfault
      obtain ⟨l, hl⟩ := h v hv hliteral
      exact ⟨v, hv, hliteral, l, hl, e, (herror hl).mp he, rfl⟩
    · rintro ⟨v, hv, hliteral, l, hl, e, he, rfl⟩
      refine ⟨v, hv, magicNumber t, by simp [rules], e.toFault, ?_, rfl⟩
      exact evaluate_magicNumber_eq_error_iff.mpr ⟨hliteral, e, (herror hl).mpr he, rfl⟩
  refine ⟨fun l n x => SyntaxNode.numericValue_of_text, hmem, ?_⟩
  rw [← Array.toList_eq_nil_iff, List.eq_nil_iff_forall_not_mem]
  constructor
  · intro hnone v hv hliteral l hl
    by_contra hrefusal
    obtain ⟨e, he⟩ := Option.ne_none_iff_exists'.mp hrefusal
    exact hnone _ ((hmem _).mpr ⟨v, hv, hliteral, l, hl, e, he, rfl⟩)
  · intro hread d hd
    obtain ⟨v, hv, hliteral, l, hl, e, he, -⟩ := (hmem d).mp hd
    have hnone := hread v hv hliteral l hl
    rw [he] at hnone
    cases hnone

/-- A hexadecimal literal with 256 digits, all of them the greatest. -/
def hugeLiteral : NumberLiteral :=
  .based .hexadecimal false ⟨⟨15, false⟩, List.replicate 255 (false, ⟨15, false⟩)⟩

/-- The node of the literal. -/
def hugeNode : SyntaxNode := numberNode (0x30 :: 0x78 :: List.replicate 256 0x66)

theorem refused_literals_fail_hugeNode :
    hugeNode.numericValue = .error .tooLarge
      ∧ ∀ d, d ∈ (walk hugeNode (rules .standard)).diagnostics.toList
          ↔ ∃ v ∈ visits [] hugeNode, v.node.isNumericLiteral = true
              ∧ ∃ l : NumberLiteral, v.node.content = l.text
                  ∧ ∃ e, l.refusal? = some e
                      ∧ d = ⟨magicNumberInfo.id, v.node.kind, v.node.line, e.toFault.describe⟩ := by
  have htext : hugeNode.content = hugeLiteral.text := by
    rw [hugeNode, numberNode_content, NumberLiteral.text]
    exact congrArg String.ofList (by decide +kernel)
  have hspelled : ∀ v ∈ visits [] hugeNode, v.node.isNumericLiteral = true →
      ∃ l : NumberLiteral, v.node.content = l.text := by
    intro v hv _
    obtain rfl := List.mem_singleton.mp hv
    exact ⟨hugeLiteral, htext⟩
  refine ⟨?_, (refused_literals_fail hspelled).2.1⟩
  rw [SyntaxNode.numericValue, htext, Reading.literal, NumberLiteral.filter_text]
  decide +kernel

/-! ## Quoted numbers -/

/-- The description of a magic number quotes it. -/
theorem fill_magicNumber (quoted : String) :
    Template.fill magicNumberInfo.description [("value", .str quoted)]
      = .ok ("Unnamed numeric literal \"" ++ quoted ++ "\" found.") := by
  let facts : Facts := [("value", .str quoted)]
  let segments : List Template.Segment :=
    [.text "Unnamed numeric literal \"", .fact "value", .text "\" found."]
  have hfill : Template.fill magicNumberInfo.description facts
      = .ok (String.ofList (segments.flatMap (Template.Segment.shown facts))) :=
    Template.fill_segments (by decide) (by decide)
      (by simp [segments, facts, Template.Segment.IsDefined])
  have hshown : String.ofList (segments.flatMap (Template.Segment.shown facts))
      = "Unnamed numeric literal \"" ++ quoted ++ "\" found." := by
    rw [← String.toList_inj]
    simp [segments, facts, Template.Segment.shown, Json.display]
  rw [hfill, hshown]

/-- **Numerals read back.** A number node whose text is a number as scripts print it has that
number as its value, a zero without its sign. So different numbers are printed differently,
and what the description of a magic number quotes denotes the value of the literal. -/
theorem numerals_read_back {x : Binary64} (hx : x.isNaN = false) :
    (∀ n : SyntaxNode, n.content = Numeral.write Numeral.script x →
        n.numericValue = .ok x.unsignedZero ∧ x.unsignedZero.sameNumber x = true)
      ∧ (∀ y : Binary64, y.isNaN = false →
          Numeral.write Numeral.script y = Numeral.write Numeral.script x →
            y.sameNumber x = true)
      ∧ ∀ (t : Thresholds) (v : Visit) (d : Detection), v.node.numericValue = .ok x →
          (magicNumber t).evaluate v = .ok (some d) →
            ∃ quoted : String,
              Template.fill d.rule.description d.facts
                  = .ok ("Unnamed numeric literal \"" ++ quoted ++ "\" found.")
                ∧ ∀ n : SyntaxNode, n.content = quoted →
                    ∃ y, n.numericValue = .ok y ∧ y.sameNumber x = true := by
  have hreads {n : SyntaxNode} (hn : n.content = Numeral.write Numeral.script x) :
      n.numericValue = .ok x.unsignedZero := by
    rw [SyntaxNode.numericValue, hn, Reading.literal_write hx]
  refine ⟨fun n hn => ⟨hreads hn, Binary64.sameNumber_unsignedZero hx⟩, ?_, ?_⟩
  · intro y hy hwrite
    have hsame : y.unsignedZero = x.unsignedZero := by
      have hvalue := Reading.literal_write hy
      rw [hwrite, Reading.literal_write hx] at hvalue
      exact (Except.ok.inj hvalue).symm
    have hback := Binary64.sameNumber_unsignedZero hy
    rw [hsame] at hback
    exact Binary64.sameNumber_trans (Binary64.sameNumber_symm hback) (Binary64.sameNumber_unsignedZero hx)
  · intro t v d hvalue hd
    obtain rfl := eq_of_evaluate_magicNumber_of_ok hvalue hd
    exact ⟨_, fill_magicNumber _, fun n hn => ⟨_, hreads hn, Binary64.sameNumber_unsignedZero hx⟩⟩

theorem numerals_read_back_tenth :
    Binary64.isNaN ⟨0x3FB999999999999A⟩ = false
      ∧ Numeral.write Numeral.script ⟨0x3FB999999999999A⟩ = "0.1"
      ∧ ∀ n : SyntaxNode, n.content = Numeral.write Numeral.script ⟨0x3FB999999999999A⟩ →
          n.numericValue = .ok ⟨0x3FB999999999999A⟩ := by
  have hnan : Binary64.isNaN ⟨0x3FB999999999999A⟩ = false := by decide
  have hzero : ¬Binary64.isZero ⟨0x3FB999999999999A⟩ = true := by decide
  refine ⟨hnan, by decide +kernel, fun n hn => ?_⟩
  obtain ⟨hread, -⟩ := (numerals_read_back hnan).1 n hn
  rwa [Binary64.unsignedZero, if_neg hzero] at hread

end Catalogue

end CodeSmell
