/-
Reading written strings and integers back.

A text that a writer made is always read in front of more of the same text, so every
statement here has a rest behind what is read. Behind a string the rest may be
anything, since the closing quote says where it ends. A number ends where it does not
go on: `Stops` says that the rest begins with nothing that could belong to it.

A written character is one of three things, a letter behind a backslash, four digits
behind one, or the character itself, and in each of them one step of the reader takes
it off. The one thing that the reader looks at beyond it is that something follows
four digits, and behind a written character that is at least the closing quote.
-/
import CodeSmell.Json.Printer
import CodeSmell.Json.Reader
import CodeSmell.Proofs.Number.Integer
import Mathlib.Data.List.TakeDrop

set_option autoImplicit false

namespace CodeSmell.Json

namespace Reader

/-! ## Strings -/

section

variable (opening : List Char) (steps : Nat) (acc : Spelling)

theorem string_close (rest : List Char) :
    string opening (steps + 1) acc ('"' :: rest) = .ok (acc.reverse, rest) := by
  rw [string.eq_def]
  rfl

theorem string_letter {l ch : Char} (hl : l ≠ 'u') (h : letterEscape? l = some ch)
    (rest : List Char) :
    string opening (steps + 1) acc ('\\' :: l :: rest)
      = string opening steps (.char ch :: acc) rest := by
  rw [string]
  · simp only [h]
    rfl
  · exact hl

theorem string_unicode {p : CodePoint} {more after : List Char}
    (h : unicodeEscape more = .ok (p, after)) :
    string opening (steps + 1) acc ('\\' :: 'u' :: more)
      = string opening steps (p :: acc) after := by
  rw [string]
  simp only [h]
  rfl

theorem string_plain {c : Char} (hquote : c ≠ '"') (hslash : c ≠ '\\') (hcontrol : ¬c.toNat < 0x20)
    (rest : List Char) :
    string opening (steps + 1) acc (c :: rest) = string opening steps (.char c :: acc) rest := by
  rw [string.eq_def]
  simp only [if_neg hquote, if_neg hslash, if_neg hcontrol]

end

end Reader

open Reader

/-- A character is written with a letter, by its number, or as it is. -/
theorem escapeChar_cases (c : Char) :
    (∃ l, escapeChar c = ['\\', l] ∧ l ≠ 'u' ∧ letterEscape? l = some c)
      ∨ (escapeChar c = '\\' :: 'u' :: Text.Quoted.hex 4 c.toNat ∧ c.toNat < 0x20)
      ∨ (escapeChar c = [c] ∧ c ≠ '"' ∧ c ≠ '\\' ∧ ¬c.toNat < 0x20) := by
  by_cases hletter : c ∈ ['"', '\\', '\n', '\r', '\t', '\x08', '\x0c']
  · simp only [List.mem_cons, List.not_mem_nil, or_false] at hletter
    rcases hletter with rfl | rfl | rfl | rfl | rfl | rfl | rfl
    all_goals exact .inl ⟨_, rfl, by decide, rfl⟩
  · simp only [List.mem_cons, List.not_mem_nil, or_false, not_or] at hletter
    obtain ⟨h1, h2, h3, h4, h5, h6, h7⟩ := hletter
    unfold escapeChar
    rw [if_neg h1, if_neg h2, if_neg h3, if_neg h4, if_neg h5, if_neg h6, if_neg h7]
    by_cases hcontrol : c.toNat < 0x20
    · rw [if_pos hcontrol]
      exact .inr (.inl ⟨rfl, hcontrol⟩)
    · rw [if_neg hcontrol]
      exact .inr (.inr ⟨rfl, h1, h2, hcontrol⟩)

namespace Reader

/-- The number of a control character, in four digits, is read as that number. -/
theorem unicodeUnit?_hex {n : Nat} (h : n < 0x20) (e : Char) (rest : List Char) :
    unicodeUnit? (Text.Quoted.hex 4 n ++ e :: rest) = some (n, e :: rest) := by
  have hvalue : ∀ n < 0x20, hexValue? (Text.Quoted.hex 4 n) = some n := by decide
  have hn := hvalue n h
  simp only [Text.Quoted.hex, List.nil_append, List.cons_append] at hn ⊢
  rw [unicodeUnit?, hn]
  rfl

/-- The escape of a control character is read as that character. -/
theorem unicodeEscape_hex {c : Char} (h : c.toNat < 0x20) (e : Char) (rest : List Char) :
    unicodeEscape (Text.Quoted.hex 4 c.toNat ++ e :: rest) = .ok (.char c, e :: rest) := by
  have hhigh : isHighSurrogate c.toNat = false := by
    rw [isHighSurrogate, decide_eq_false (by omega), Bool.false_and]
  rw [unicodeEscape, unicodeUnit?_hex h]
  simp only [hhigh, CodePoint.ofUnit_toNat]

/-- A written character is read as itself, whatever stands behind it. -/
theorem string_escapeChar (opening : List Char) (steps : Nat) (acc : Spelling) (c e : Char)
    (rest : List Char) :
    string opening (steps + 1) acc (escapeChar c ++ e :: rest)
      = string opening steps (.char c :: acc) (e :: rest) := by
  rcases escapeChar_cases c with ⟨l, hc, hl, hletter⟩ | ⟨hc, hcontrol⟩
    | ⟨hc, hquote, hslash, hcontrol⟩
  · rw [hc]
    exact string_letter opening steps acc hl hletter (e :: rest)
  · rw [hc]
    exact string_unicode opening steps acc (unicodeEscape_hex hcontrol e rest)
  · rw [hc]
    exact string_plain opening steps acc hquote hslash hcontrol (e :: rest)

/-- What stands between quotes is read as the characters it was written for. -/
theorem string_flatMap (opening : List Char) (cs rest : List Char) {steps : Nat}
    (h : cs.length < steps) (acc : Spelling) :
    string opening steps acc (cs.flatMap escapeChar ++ '"' :: rest)
      = .ok (acc.reverse ++ cs.map .char, rest) := by
  induction cs generalizing steps acc with
  | nil =>
    obtain ⟨steps, rfl⟩ := Nat.exists_eq_add_one_of_ne_zero (Nat.ne_of_gt h)
    rw [List.flatMap_nil, List.nil_append, string_close, List.map_nil, List.append_nil]
  | cons c cs ih =>
    obtain ⟨steps, rfl⟩ := Nat.exists_eq_add_one_of_ne_zero (Nat.ne_of_gt (Nat.zero_lt_of_lt h))
    -- Something always stands behind a character: another one or the quote.
    obtain ⟨e, more, hmore⟩ : ∃ e more, cs.flatMap escapeChar ++ '"' :: rest = e :: more :=
      List.exists_cons_of_ne_nil (List.append_ne_nil_of_right_ne_nil _ (List.cons_ne_nil _ _))
    rw [List.flatMap_cons, List.append_assoc, hmore, string_escapeChar, ← hmore,
      ih (Nat.lt_of_succ_lt_succ h), List.reverse_cons, List.append_assoc, List.singleton_append,
      List.map_cons]

theorem length_le_length_flatMap_escapeChar (cs : List Char) :
    cs.length ≤ (cs.flatMap escapeChar).length := by
  induction cs with
  | nil => exact Nat.le_refl 0
  | cons c cs ih =>
    have hc : 1 ≤ (escapeChar c).length := by
      rcases escapeChar_cases c with ⟨l, hc, -⟩ | ⟨hc, -⟩ | ⟨hc, -⟩
      all_goals
        rw [hc]
        exact Nat.le_add_left 1 _
    rw [List.flatMap_cons, List.length_append, List.length_cons]
    omega

/-- A written string is read as the string, up to its closing quote. -/
theorem string_quote (opening : List Char) (s : String) (rest : List Char) :
    ∃ body, quote s ++ rest = '"' :: body
      ∧ string opening (body.length + 1) [] body = .ok (.ofString s, rest) := by
  refine ⟨s.toList.flatMap escapeChar ++ '"' :: rest, ?_, ?_⟩
  · rw [quote, List.append_assoc]
    rfl
  · have hsteps : s.toList.length < (s.toList.flatMap escapeChar ++ '"' :: rest).length + 1 := by
      have := length_le_length_flatMap_escapeChar s.toList
      rw [List.length_append]
      omega
    rw [string_flatMap opening s.toList rest hsteps, List.reverse_nil, List.nil_append,
      Spelling.ofString]

/-! ## Numbers -/

/-- The text does not go on with a number: it ends, or its first character is none that
a number could go on with. -/
def Stops : List Char → Prop
  | [] => True
  | c :: _ => isAsciiDigit c = false ∧ c ≠ '.' ∧ c ≠ 'e' ∧ c ≠ 'E'

theorem isAsciiDigit_of_isDigit {c : Char} (h : c.isDigit = true) : isAsciiDigit c = true := by
  obtain ⟨d, hd, rfl⟩ := exists_digitChar h
  revert d
  decide

theorem dropWhile_of_stops {rest : List Char} (h : Stops rest) :
    rest.takeWhile isAsciiDigit = [] ∧ rest.dropWhile isAsciiDigit = rest := by
  cases rest with
  | nil => exact ⟨rfl, rfl⟩
  | cons c rest =>
    have hc : ¬isAsciiDigit c = true := by
      rw [h.1]
      exact Bool.false_ne_true
    exact ⟨List.takeWhile_cons_of_neg hc, List.dropWhile_cons_of_neg hc⟩

/-- The digits at the head of a text are taken off it. -/
theorem span_digits {ds rest : List Char} (hds : ∀ c ∈ ds, c.isDigit = true) (h : Stops rest) :
    (ds ++ rest).span isAsciiDigit = (ds, rest) := by
  obtain ⟨htake, hdrop⟩ := dropWhile_of_stops h
  have hall : ∀ c ∈ ds, isAsciiDigit c = true := fun c hc => isAsciiDigit_of_isDigit (hds c hc)
  rw [List.span_eq_takeWhile_dropWhile, List.takeWhile_append_of_pos hall,
    List.dropWhile_append_of_pos hall, htake, hdrop, List.append_nil]

theorem naturalDigits_zero_or (n : Nat) :
    naturalDigits n = ['0'] ∨ ∃ c rest, naturalDigits n = c :: rest ∧ c ≠ '0' := by
  induction n using Nat.strongRecOn with
  | ind n ih =>
    unfold naturalDigits
    by_cases hn : n < 10
    · rw [Nat.toDigits_of_lt_base hn]
      by_cases hzero : n = 0
      · exact .inl (hzero ▸ rfl)
      · exact .inr ⟨_, _, rfl, mt Nat.digitChar_eq_zero.mp hzero⟩
    · rw [Nat.toDigits_of_base_le (by decide) (Nat.le_of_not_lt hn)]
      -- More than one digit: the first is that of a smaller number, which is not zero.
      have hpos : 0 < n / 10 := Nat.div_pos (Nat.le_of_not_lt hn) (by decide)
      rcases ih (n / 10) (by omega) with hzero | ⟨c, rest, hcons, hc⟩
      · have hvalue : Nat.ofDigitChars 10 (naturalDigits (n / 10)) 0 = n / 10 :=
          Nat.ofDigitChars_ten_toDigits
        rw [hzero] at hvalue
        exact absurd hvalue (Nat.ne_of_lt hpos)
      · exact .inr ⟨c, rest ++ [Nat.digitChar (n % 10)], congrArg (· ++ _) hcons, hc⟩

/-- The digits of a natural number are its whole part. -/
theorem wholePart?_naturalDigits (n : Nat) {rest : List Char} (h : Stops rest) :
    wholePart? (naturalDigits n ++ rest) = some (naturalDigits n, rest) := by
  have hdigits : ∀ c ∈ naturalDigits n, c.isDigit = true := fun _ => isDigit_of_mem_naturalDigits
  rcases naturalDigits_zero_or n with hzero | ⟨c, ds, hcons, hc⟩
  · rw [hzero]
    rfl
  · have hspan := span_digits hdigits h
    rw [hcons] at hspan ⊢
    rw [List.cons_append] at hspan ⊢
    rw [wholePart?, hspan]
    · rfl
    · exact fun _ h => hc (List.head_eq_of_cons_eq h)

theorem fractionPart_of_stops {rest : List Char} (h : Stops rest) :
    fractionPart rest = ([], rest) := by
  cases rest with
  | nil => rfl
  | cons c rest =>
    rw [fractionPart]
    exact fun _ hrest => h.2.1 (List.head_eq_of_cons_eq hrest)

theorem exponentPart_of_stops {rest : List Char} (h : Stops rest) :
    exponentPart rest = ([], rest) := by
  cases rest with
  | nil => rfl
  | cons c rest =>
    have hc : ¬(c = 'e' ∨ c = 'E') := not_or.mpr h.2.2
    simp only [exponentPart, if_neg hc]

/-- A written integer is read as the integer. -/
theorem number_integerText {n : Int} (limit : (naturalDigits n.natAbs).length ≤ Reading.digitLimit)
    {rest : List Char} (h : Stops rest) :
    number ((integerText n).toList ++ rest) = .ok (.int n, rest) := by
  have hread := Reading.integer_integerText limit
  cases n with
  | ofNat n =>
    obtain ⟨c, ds, hcons, hc⟩ := exists_naturalDigits_eq_cons n
    obtain ⟨-, -, hminus, -⟩ := ne_of_isDigit hc
    have hwhole := wholePart?_naturalDigits n h
    simp only [integerText, String.toList_ofList, hcons, List.cons_append] at hread hwhole ⊢
    rw [number]
    · simp only [hwhole, fractionPart_of_stops h, exponentPart_of_stops h, List.nil_append, hread]
      rfl
    · exact fun _ h => hminus (List.head_eq_of_cons_eq h)
  | negSucc n =>
    simp only [integerText, String.toList_ofList] at hread ⊢
    simp only [number, List.cons_append, wholePart?_naturalDigits _ h, fractionPart_of_stops h,
      exponentPart_of_stops h, List.nil_append, hread]
    rfl

end Reader

end CodeSmell.Json
