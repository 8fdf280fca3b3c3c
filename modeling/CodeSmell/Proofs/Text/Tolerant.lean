/-
The tolerant reading of bytes.

The tolerant reading gives a text for every sequence of bytes: where a stretch of bytes begins
no character, it puts one replacement character for the stretch and goes on behind it. So a
text says less about its bytes than with the strict reading, and what it does say is here.

A text without a replacement character has the bytes of its characters, no others
(`encode_decode`): a step that reads a character has gone over the bytes of that character, and
every other step leaves a replacement character behind. And an ASCII byte is never part of a
stretch, since every byte that may continue a character is from 0x80 on. So the reading of what
stands in front of such a byte does not depend on it, and begins anew behind it
(`decode_append_ascii`); the last character of a text is an ASCII character exactly where the
last byte is (`getLast?_decode`).
-/
import CodeSmell.Proofs.Text.Decoding

set_option autoImplicit false

namespace CodeSmell.Text.Utf8

/-! ## Steps -/

/-- The character that the tolerant reading has for a step. -/
def Step.shown : Step → Char
  | .char c _ => c
  | .broken _ _ _ => replacement

/-- What holds of bytes if it holds of what a step leaves of them holds of all bytes. -/
theorem induct_steps {motive : List UInt8 → Prop} (nil : motive [])
    (cons : ∀ b rest, motive (step b rest).rest → motive (b :: rest)) :
    ∀ bytes : List UInt8, motive bytes
  | [] => nil
  | b :: rest =>
    have := step_rest_length b rest
    cons b rest (induct_steps nil cons (step b rest).rest)
termination_by bytes => bytes.length
decreasing_by
  simp only [List.length_cons]
  omega

theorem decodeOnto_cons (acc : List Char) (b : UInt8) (rest : List UInt8) :
    decodeOnto acc (b :: rest)
      = decodeOnto ((step b rest).shown :: acc) (step b rest).rest := by
  rw [decodeOnto]
  split
  · next h =>
    rw [h]
    rfl
  · next h =>
    rw [h]
    rfl

/-- The characters read so far stand in front of what is read. -/
theorem decodeOnto_eq (acc : List Char) (bytes : List UInt8) :
    decodeOnto acc bytes = acc.reverse ++ decode bytes := by
  induction bytes using induct_steps generalizing acc with
  | nil => simp [decode, decodeOnto]
  | cons b rest ih =>
    rw [decode, decodeOnto_cons, decodeOnto_cons, ih, ih]
    simp

@[simp] theorem decode_nil : decode [] = [] := by
  simp [decode, decodeOnto]

/-- The tolerant reading, step by step. -/
theorem decode_cons (b : UInt8) (rest : List UInt8) :
    decode (b :: rest) = (step b rest).shown :: decode (step b rest).rest := by
  rw [decode, decodeOnto_cons, decodeOnto_eq]
  rfl

/-! ## Bytes of what is read -/

/-- The bytes of characters are read as these characters. -/
theorem decode_flatMap (cs : List Char) : decode (cs.flatMap String.utf8EncodeChar) = cs := by
  induction cs with
  | nil => simp
  | cons c cs ih =>
    obtain ⟨b, bs, hbytes, hstep⟩ := step_utf8EncodeChar c (cs.flatMap String.utf8EncodeChar)
    rw [List.flatMap_cons, hbytes, List.cons_append, decode_cons, hstep]
    simp [Step.shown, Step.rest, ih]

/-- The bytes of a text are read as the text. -/
theorem decode_encode (s : String) : decode (encode s) = s.toList := by
  rw [encode_eq, decode_flatMap]

/-- Where no replacement character is read, the bytes are those of the characters. -/
theorem flatMap_decode {bytes : List UInt8} (h : replacement ∉ decode bytes) :
    (decode bytes).flatMap String.utf8EncodeChar = bytes := by
  induction bytes using induct_steps with
  | nil => simp
  | cons b rest ih =>
    rw [decode_cons] at h ⊢
    obtain ⟨hshown, hrest⟩ := not_or.mp (mt List.mem_cons.mpr h)
    rw [List.flatMap_cons, ih hrest]
    cases hstep : step b rest with
    | char c after => exact append_eq_of_step hstep
    | broken width fault after =>
      rw [hstep] at hshown
      exact absurd rfl hshown

/-- **A text without a replacement character has no bytes but its own.** -/
theorem encode_decode {bytes : List UInt8} (h : replacement ∉ decode bytes) :
    encode (String.ofList (decode bytes)) = bytes := by
  rw [encode_eq, String.toList_ofList, flatMap_decode h]

/-! ## ASCII bytes -/

/-- An ASCII character does not stand for bytes that are no character. -/
theorem ascii_ne_replacement {b : UInt8} (h : b < 0x80) :
    Char.ofNat b.toNat ≠ replacement := by
  intro heq
  have hthree : (String.utf8EncodeChar replacement).length = 3 := by decide
  rw [← heq, utf8EncodeChar_one (UInt8.lt_iff_toNat_lt.mp h)] at hthree
  simp at hthree

theorem step_ascii {b : UInt8} (h : b < 0x80) (rest : List UInt8) :
    step b rest = .char (Char.ofNat b.toNat) rest := by
  rw [step, if_pos h]

/-- The second step shows what the first shows, and leaves more behind what the first leaves. -/
structure Step.Extends (first second : Step) (more : List UInt8) : Prop where
  shown : second.shown = first.shown
  rest : second.rest = first.rest ++ more

section

variable {b : UInt8} (hb : b < 0x80) (more : List UInt8)

include hb

/-- Where a character is cut short by the end of the bytes, an ASCII byte cuts it short at the
same place, since it continues none. -/
theorem extends_continuation (count : Nat) {low : UInt8} (hlow : 0x80 ≤ low) (high : UInt8)
    (acc width : Nat) (bytes : List UInt8) :
    (continuation count low high acc width bytes).Extends
      (continuation count low high acc width (bytes ++ b :: more)) (b :: more) := by
  induction count generalizing low high acc width bytes with
  | zero => exact ⟨rfl, rfl⟩
  | succ count ih =>
    cases bytes with
    | nil =>
      have hout : ¬(low ≤ b ∧ b ≤ high) := by
        intro hrange
        rw [UInt8.lt_iff_toNat_lt] at hb
        rw [UInt8.le_iff_toNat_le] at hlow hrange
        omega
      simp only [List.nil_append, continuation, if_neg hout]
      exact ⟨rfl, rfl⟩
    | cons first bytes =>
      simp only [List.cons_append, continuation]
      by_cases hrange : low ≤ first ∧ first ≤ high
      · simp only [if_pos hrange]
        exact ih (by decide) ..
      · simp only [if_neg hrange]
        exact ⟨rfl, rfl⟩

/-- A step is not changed by what stands behind an ASCII byte behind it, nor by that byte. -/
theorem extends_step (first : UInt8) (bytes : List UInt8) :
    (step first bytes).Extends (step first (bytes ++ b :: more)) (b :: more) := by
  have hnarrow (p : Prop) [Decidable p] {narrow : UInt8} (h : 0x80 ≤ narrow) :
      0x80 ≤ if p then narrow else (0x80 : UInt8) := by
    split
    · exact h
    · decide
  unfold step
  by_cases h1 : first < 0x80
  · simp only [if_pos h1]
    exact ⟨rfl, rfl⟩
  by_cases h2 : first < 0xC2
  · simp only [if_neg h1, if_pos h2]
    exact ⟨rfl, rfl⟩
  by_cases h3 : first < 0xE0
  · simp only [if_neg h1, if_neg h2, if_pos h3]
    exact extends_continuation hb more 1 (by decide) ..
  by_cases h4 : first < 0xF0
  · simp only [if_neg h1, if_neg h2, if_neg h3, if_pos h4]
    exact extends_continuation hb more 2 (hnarrow _ (by decide)) ..
  by_cases h5 : first < 0xF5
  · simp only [if_neg h1, if_neg h2, if_neg h3, if_neg h4, if_pos h5]
    exact extends_continuation hb more 3 (hnarrow _ (by decide)) ..
  · simp only [if_neg h1, if_neg h2, if_neg h3, if_neg h4, if_neg h5]
    exact ⟨rfl, rfl⟩

/-- **An ASCII byte is read as itself, and parts the reading in two.** Whatever stands in front
of it, a character that is cut short included, is read as if it stood alone, and so is what
stands behind it. -/
theorem decode_append_ascii (bytes : List UInt8) :
    decode (bytes ++ b :: more) = decode bytes ++ Char.ofNat b.toNat :: decode more := by
  induction bytes using induct_steps with
  | nil =>
    rw [List.nil_append, decode_cons, step_ascii hb]
    simp [Step.shown, Step.rest]
  | cons first rest ih =>
    have hstep := extends_step hb more first rest
    rw [List.cons_append, decode_cons, decode_cons, hstep.shown, hstep.rest, ih, List.cons_append]

/-- The last character is an ASCII character exactly where the last byte is that character. -/
theorem getLast?_decode (bytes : List UInt8) :
    (decode bytes).getLast? = some (Char.ofNat b.toNat) ↔ bytes.getLast? = some b := by
  constructor
  · intro hlast
    induction bytes using induct_steps with
    | nil => simp at hlast
    | cons first rest ih =>
      rw [decode_cons] at hlast
      cases hafter : (step first rest).rest with
      | nil =>
        -- The last step: it shows no replacement character, so it has read one byte.
        simp only [hafter, decode_nil, List.getLast?_singleton, Option.some.injEq] at hlast
        cases hstep : step first rest with
        | char c after =>
          simp only [hstep, Step.shown, Step.rest] at hlast hafter
          have hbytes := append_eq_of_step hstep
          rw [hlast, utf8EncodeChar_one (UInt8.lt_iff_toNat_lt.mp hb), hafter, List.append_nil] at hbytes
          rw [← hbytes]
          simp
        | broken width fault after =>
          simp only [hstep, Step.shown] at hlast
          exact absurd hlast.symm (ascii_ne_replacement hb)
      | cons next after =>
        -- The last byte is among those that the step leaves.
        obtain ⟨front, hfront⟩ := step_rest_suffix first rest
        rw [hafter] at hlast hfront ih
        rw [decode_cons, List.getLast?_cons_cons, ← decode_cons] at hlast
        rw [← hfront, ← List.cons_append, List.getLast?_append, ih hlast]
        simp
  · intro hlast
    obtain ⟨front, rfl⟩ := List.getLast?_eq_some_iff.mp hlast
    rw [decode_append_ascii hb]
    simp

end

end CodeSmell.Text.Utf8
