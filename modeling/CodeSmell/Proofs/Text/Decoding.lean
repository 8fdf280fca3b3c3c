/-
Bytes and the text that is read from them.

A strict reading takes bytes for what they are: where it succeeds, the bytes are those of the
characters that it gives. A step that reads a character has found each continuation byte in
the range that is asked for, and the narrowed ranges leave only values that are characters
and are written as short as they can be, so writing the character gives the same bytes again.

The text of a file has its line ends unified, and so it is shorter than the file by one byte
for each carriage return that stands before a line feed, and of the same length without them.
-/
import CodeSmell.Proofs.Text.Encoding
import Mathlib.Data.String.Basic

set_option autoImplicit false

namespace CodeSmell

namespace Text.Utf8

/-! ## Reading a character -/

section

variable {b : UInt8} {rest : List UInt8} {c : Char}

/-- A continuation byte that is taken is in the range that is asked for. -/
theorem continuation_eq_char {count acc width : Nat} {low high : UInt8} {bytes : List UInt8}
    (h : continuation (count + 1) low high acc width bytes = .char c rest) :
    ∃ b after, bytes = b :: after ∧ low.toNat ≤ b.toNat ∧ b.toNat ≤ high.toNat
      ∧ continuation count 0x80 0xBF (acc * 64 + (b.toNat - 0x80)) (width + 1) after
        = .char c rest := by
  cases bytes with
  | nil => cases h
  | cons b after =>
    rw [continuation] at h
    by_cases hrange : low ≤ b ∧ b ≤ high
    · rw [if_pos hrange] at h
      exact ⟨b, after, rfl, UInt8.le_iff_toNat_le.mp hrange.1, UInt8.le_iff_toNat_le.mp hrange.2, h⟩
    · rw [if_neg hrange] at h
      cases h

theorem eq_of_continuation_zero {acc width : Nat} {low high : UInt8} {bytes : List UInt8}
    (h : continuation 0 low high acc width bytes = .char c rest) :
    Char.ofNat acc = c ∧ bytes = rest := by
  rw [continuation] at h
  injection h with hc hrest
  exact ⟨hc, hrest⟩

/-- The bytes of a character by its code point. -/
theorem utf8EncodeChar_ofNat {v : Nat} (hv : v.isValidChar) :
    String.utf8EncodeChar (Char.ofNat v)
      = if v ≤ 0x7F then [UInt8.ofNat v]
        else if v ≤ 0x7FF then [UInt8.ofNat (v / 64 % 0x20 + 0xC0), tail v]
        else if v ≤ 0xFFFF then
          [UInt8.ofNat (v / 4096 % 0x10 + 0xE0), tail (v / 64), tail v]
        else
          [UInt8.ofNat (v / 262144 % 0x08 + 0xF0), tail (v / 4096), tail (v / 64), tail v] := by
  have hvalue : (Char.ofNat v).val.toNat = v := by
    rw [Char.ofNat, dif_pos hv]
    rfl
  simp only [String.utf8EncodeChar, hvalue]
  rfl

theorem ofNat_eq {n : Nat} (h : n = b.toNat) : UInt8.ofNat n = b := by
  rw [h, UInt8.ofNat_toNat]

theorem tail_eq {n : Nat} (h : n % 0x40 + 0x80 = b.toNat) : tail n = b := ofNat_eq h

/-- A character below 0x80 is one byte. -/
theorem utf8EncodeChar_one (h : b.toNat < 0x80) :
    String.utf8EncodeChar (Char.ofNat b.toNat) = [b] := by
  rw [utf8EncodeChar_ofNat (.inl (by omega)), if_pos (by omega), UInt8.ofNat_toNat]

/-! The bytes of a character that is put together from bytes within the ranges of a step are
these bytes. -/

section

variable {b1 b2 b3 : UInt8} (hlow1 : 0x80 ≤ b1.toNat) (hhigh1 : b1.toNat ≤ 0xBF)

include hlow1 hhigh1

theorem utf8EncodeChar_two (hlow : 0xC2 ≤ b.toNat) (hhigh : b.toNat < 0xE0) :
    String.utf8EncodeChar (Char.ofNat ((b.toNat - 0xC0) * 64 + (b1.toNat - 0x80))) = [b, b1] := by
  obtain ⟨v, hv⟩ : ∃ v, (b.toNat - 0xC0) * 64 + (b1.toNat - 0x80) = v := ⟨_, rfl⟩
  rw [hv, utf8EncodeChar_ofNat (.inl (by omega)), if_neg (by omega), if_pos (by omega),
    ofNat_eq (b := b) (by omega), tail_eq (b := b1) (by omega)]

variable (hlow2 : 0x80 ≤ b2.toNat) (hhigh2 : b2.toNat ≤ 0xBF)

include hlow2 hhigh2

theorem utf8EncodeChar_three (hlow : 0xE0 ≤ b.toNat) (hhigh : b.toNat < 0xF0)
    (hlong : b.toNat = 0xE0 → 0xA0 ≤ b1.toNat) (hsurrogate : b.toNat = 0xED → b1.toNat ≤ 0x9F) :
    String.utf8EncodeChar (Char.ofNat
        (((b.toNat - 0xE0) * 64 + (b1.toNat - 0x80)) * 64 + (b2.toNat - 0x80)))
      = [b, b1, b2] := by
  obtain ⟨v, hv⟩ : ∃ v, ((b.toNat - 0xE0) * 64 + (b1.toNat - 0x80)) * 64 + (b2.toNat - 0x80) = v :=
    ⟨_, rfl⟩
  -- The narrowed ranges keep the value above what is written shorter, and off surrogates.
  have hvalid : 0x7FF < v ∧ v ≤ 0xFFFF ∧ (v < 0xD800 ∨ 0xDFFF < v) := by omega
  rw [hv, utf8EncodeChar_ofNat (hvalid.2.2.imp_right fun h => ⟨h, by omega⟩), if_neg (by omega),
    if_neg (by omega), if_pos (by omega), ofNat_eq (b := b) (by omega), tail_eq (b := b1) (by omega),
    tail_eq (b := b2) (by omega)]

theorem utf8EncodeChar_four (hlow3 : 0x80 ≤ b3.toNat) (hhigh3 : b3.toNat ≤ 0xBF)
    (hlow : 0xF0 ≤ b.toNat) (hhigh : b.toNat < 0xF5) (hlong : b.toNat = 0xF0 → 0x90 ≤ b1.toNat)
    (hlast : b.toNat = 0xF4 → b1.toNat ≤ 0x8F) :
    String.utf8EncodeChar (Char.ofNat
        ((((b.toNat - 0xF0) * 64 + (b1.toNat - 0x80)) * 64 + (b2.toNat - 0x80)) * 64
          + (b3.toNat - 0x80)))
      = [b, b1, b2, b3] := by
  obtain ⟨v, hv⟩ : ∃ v, (((b.toNat - 0xF0) * 64 + (b1.toNat - 0x80)) * 64 + (b2.toNat - 0x80)) * 64
      + (b3.toNat - 0x80) = v := ⟨_, rfl⟩
  have hvalid : 0xFFFF < v ∧ v < 0x110000 := by omega
  rw [hv, utf8EncodeChar_ofNat (.inr ⟨by omega, hvalid.2⟩), if_neg (by omega), if_neg (by omega),
    if_neg (by omega), ofNat_eq (b := b) (by omega), tail_eq (b := b1) (by omega),
    tail_eq (b := b2) (by omega), tail_eq (b := b3) (by omega)]

end

/-- A bound that is narrowed in one case. -/
theorem le_of_ite_le {p : Prop} [Decidable p] {low narrow n : Nat} (hle : low ≤ narrow)
    (h : (if p then narrow else low) ≤ n) : low ≤ n ∧ (p → narrow ≤ n) := by
  by_cases hp : p
  · rw [if_pos hp] at h
    exact ⟨hle.trans h, fun _ => h⟩
  · rw [if_neg hp] at h
    exact ⟨h, fun hp' => absurd hp' hp⟩

theorem le_of_le_ite {p : Prop} [Decidable p] {high narrow n : Nat} (hle : narrow ≤ high)
    (h : n ≤ if p then narrow else high) : n ≤ high ∧ (p → n ≤ narrow) := by
  by_cases hp : p
  · rw [if_pos hp] at h
    exact ⟨h.trans hle, fun _ => h⟩
  · rw [if_neg hp] at h
    exact ⟨h, fun hp' => absurd hp' hp⟩

/-- A step that reads a character has gone over the bytes of that character. -/
theorem append_eq_of_step {after : List UInt8} (h : step b rest = .char c after) :
    String.utf8EncodeChar c ++ after = b :: rest := by
  simp only [step, UInt8.lt_iff_toNat_lt, ← UInt8.toNat_inj, UInt8.reduceToNat] at h
  by_cases h1 : b.toNat < 0x80
  · rw [if_pos h1] at h
    injection h with hc hrest
    subst hc hrest
    rw [utf8EncodeChar_one h1]
    rfl
  rw [if_neg h1] at h
  by_cases h2 : b.toNat < 0xC2
  · rw [if_pos h2] at h
    cases h
  rw [if_neg h2] at h
  by_cases h3 : b.toNat < 0xE0
  · rw [if_pos h3] at h
    obtain ⟨b1, rest, rfl, hlow1, hhigh1, h⟩ := continuation_eq_char h
    obtain ⟨rfl, rfl⟩ := eq_of_continuation_zero h
    rw [utf8EncodeChar_two hlow1 hhigh1 (Nat.le_of_not_lt h2) h3]
    rfl
  rw [if_neg h3] at h
  by_cases h4 : b.toNat < 0xF0
  · rw [if_pos h4] at h
    obtain ⟨b1, rest, rfl, hlow1, hhigh1, h⟩ := continuation_eq_char h
    obtain ⟨b2, rest, rfl, hlow2, hhigh2, h⟩ := continuation_eq_char h
    obtain ⟨rfl, rfl⟩ := eq_of_continuation_zero h
    simp only [apply_ite UInt8.toNat, UInt8.reduceToNat] at hlow1 hhigh1
    obtain ⟨hlow1, hlong⟩ := le_of_ite_le (by decide) hlow1
    obtain ⟨hhigh1, hsurrogate⟩ := le_of_le_ite (by decide) hhigh1
    rw [utf8EncodeChar_three hlow1 hhigh1 hlow2 hhigh2 (Nat.le_of_not_lt h3) h4 hlong hsurrogate]
    rfl
  rw [if_neg h4] at h
  by_cases h5 : b.toNat < 0xF5
  · rw [if_pos h5] at h
    obtain ⟨b1, rest, rfl, hlow1, hhigh1, h⟩ := continuation_eq_char h
    obtain ⟨b2, rest, rfl, hlow2, hhigh2, h⟩ := continuation_eq_char h
    obtain ⟨b3, rest, rfl, hlow3, hhigh3, h⟩ := continuation_eq_char h
    obtain ⟨rfl, rfl⟩ := eq_of_continuation_zero h
    simp only [apply_ite UInt8.toNat, UInt8.reduceToNat] at hlow1 hhigh1
    obtain ⟨hlow1, hlong⟩ := le_of_ite_le (by decide) hlow1
    obtain ⟨hhigh1, hlast⟩ := le_of_le_ite (by decide) hhigh1
    rw [utf8EncodeChar_four hlow1 hhigh1 hlow2 hhigh2 hlow3 hhigh3 (Nat.le_of_not_lt h4) h5 hlong
      hlast]
    rfl
  · rw [if_neg h5] at h
    cases h

end

/-! ## Reading a text -/

theorem flatMap_of_readOnto {acc cs : List Char} {position : Nat} {bytes : List UInt8}
    (h : readOnto acc position bytes = .ok cs) :
    cs.flatMap String.utf8EncodeChar = acc.reverse.flatMap String.utf8EncodeChar ++ bytes := by
  fun_induction readOnto acc position bytes with
  | case1 acc position =>
    cases h
    rw [List.append_nil]
  | case2 acc position b rest c after hstep ih =>
    rw [ih h, List.reverse_cons, List.flatMap_append, List.flatMap_singleton, List.append_assoc,
      append_eq_of_step hstep]
  | case3 => cases h

/-- Bytes that have a text are the bytes of its characters. -/
theorem flatMap_of_read {cs : List Char} {bytes : List UInt8} (h : read bytes = .ok cs) :
    cs.flatMap String.utf8EncodeChar = bytes := by
  rw [flatMap_of_readOnto h, List.reverse_nil, List.flatMap_nil, List.nil_append]

theorem length_flatMap (cs : List Char) :
    (cs.flatMap String.utf8EncodeChar).length = String.utf8Len cs := by
  induction cs with
  | nil => rfl
  | cons c rest ih =>
    rw [List.flatMap_cons, List.length_append, ih, String.length_utf8EncodeChar,
      String.utf8Len_cons, Nat.add_comm]

end Text.Utf8

/-! ## Size of a text -/

namespace Text

open String

theorem utf8Len_unifyLineEndsOnto_le (acc cs : List Char) :
    utf8Len (unifyLineEndsOnto acc cs) ≤ utf8Len acc + utf8Len cs := by
  fun_induction unifyLineEndsOnto acc cs with
  | case1 acc =>
    rw [utf8Len_reverse]
    exact Nat.le_add_right _ _
  | case2 acc rest ih =>
    have hreturn : ('\r' : Char).utf8Size = 1 := rfl
    simp only [utf8Len_cons] at ih ⊢
    omega
  | case3 acc rest _ ih =>
    have hends : ('\r' : Char).utf8Size = ('\n' : Char).utf8Size := rfl
    simp only [utf8Len_cons] at ih ⊢
    omega
  | case4 acc c rest _ _ ih =>
    simp only [utf8Len_cons] at ih ⊢
    omega

/-- A text gets no longer where its line ends are unified. -/
theorem utf8Len_unifyLineEnds_le (cs : List Char) :
    utf8Len (unifyLineEnds cs) ≤ utf8Len cs := by
  have h := utf8Len_unifyLineEndsOnto_le [] cs
  rwa [utf8Len_nil, Nat.zero_add] at h

theorem utf8Len_unifyLineEndsOnto {acc cs : List Char} (h : ¬['\r', '\n'] <:+: cs) :
    utf8Len (unifyLineEndsOnto acc cs) = utf8Len acc + utf8Len cs := by
  have hrest {c : Char} {rest : List Char} (h : ¬['\r', '\n'] <:+: c :: rest) :
      ¬['\r', '\n'] <:+: rest := fun hin => h (List.infix_cons hin)
  fun_induction unifyLineEndsOnto acc cs with
  | case1 acc => rw [utf8Len_reverse, utf8Len_nil, Nat.add_zero]
  | case2 acc rest _ => exact absurd ⟨[], rest, rfl⟩ h
  | case3 acc rest _ ih =>
    have hends : ('\r' : Char).utf8Size = ('\n' : Char).utf8Size := rfl
    rw [ih (hrest h), utf8Len_cons, utf8Len_cons, hends, Nat.add_right_comm, Nat.add_assoc]
  | case4 acc c rest _ _ ih =>
    rw [ih (hrest h), utf8Len_cons, utf8Len_cons, Nat.add_right_comm, Nat.add_assoc]

/-- Only a carriage return before a line feed makes a text shorter. -/
theorem utf8Len_unifyLineEnds {cs : List Char} (h : ¬['\r', '\n'] <:+: cs) :
    utf8Len (unifyLineEnds cs) = utf8Len cs := by
  rw [unifyLineEnds, utf8Len_unifyLineEndsOnto h, utf8Len_nil, Nat.zero_add]

end Text

namespace Encoding

variable {bytes : List UInt8} {source : String}

/-- The bytes of characters have a text, with its line ends unified. -/
theorem text_flatMap (cs : List Char) :
    Encoding.text "utf-8" (cs.flatMap String.utf8EncodeChar)
      = .ok (String.ofList (Text.unifyLineEnds cs)) := by
  rw [Encoding.text, Encoding.read, if_pos rfl, Encoding.readUtf8, Text.Utf8.read,
    Text.Utf8.readOnto_flatMap]
  rfl

/-- A text is that of characters with these bytes, with its line ends unified. -/
theorem exists_of_text (h : Encoding.text "utf-8" bytes = .ok source) :
    ∃ cs, cs.flatMap String.utf8EncodeChar = bytes ∧ source = String.ofList (Text.unifyLineEnds cs) := by
  rw [Encoding.text, Encoding.read, if_pos rfl, Encoding.readUtf8] at h
  cases hread : Text.Utf8.read bytes with
  | error place =>
    rw [hread] at h
    cases h
  | ok cs =>
    rw [hread] at h
    cases h
    exact ⟨cs, Text.Utf8.flatMap_of_read hread, rfl⟩

/-- A text takes no more bytes than it was read from. -/
theorem utf8ByteSize_le_of_text (h : Encoding.text "utf-8" bytes = .ok source) :
    source.utf8ByteSize ≤ bytes.length := by
  obtain ⟨cs, rfl, rfl⟩ := exists_of_text h
  rw [String.utf8ByteSize_ofList, Text.Utf8.length_flatMap]
  exact Text.utf8Len_unifyLineEnds_le cs

/-- A text that takes fewer bytes was read from bytes with a carriage return before a line
feed. -/
theorem infix_of_text_lt (h : Encoding.text "utf-8" bytes = .ok source)
    (hlt : source.utf8ByteSize < bytes.length) : [0x0D, 0x0A] <:+: bytes := by
  obtain ⟨cs, rfl, rfl⟩ := exists_of_text h
  rw [String.utf8ByteSize_ofList, Text.Utf8.length_flatMap] at hlt
  by_contra hends
  refine Nat.ne_of_lt hlt (Text.utf8Len_unifyLineEnds fun ⟨front, back, hcs⟩ => hends ?_)
  refine ⟨front.flatMap String.utf8EncodeChar, back.flatMap String.utf8EncodeChar, ?_⟩
  rw [← hcs, List.flatMap_append, List.flatMap_append]
  rfl

end Encoding

end CodeSmell
