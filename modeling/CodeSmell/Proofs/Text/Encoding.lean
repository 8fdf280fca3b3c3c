/-
Reading a text back from its bytes.

Main statement: the strict reading of the bytes of a text gives the text, and so does
the reading of a file or of standard input, as long as the text has no carriage
return, since such a reading makes every line end a line feed.

A character is written in one to four bytes. The first says how many follow, the
others hold six bits of the code point each, and a step puts them together again.
The narrowed ranges that a step has for the byte after the first leave out what is
no character or is written too long; that the bytes of a character lie within them
is where its being a scalar value, and its being written as short as it can be, are
used.
-/
import CodeSmell.Intake.Encoding

set_option autoImplicit false

namespace CodeSmell

namespace Text.Utf8

/-! ## Bytes of a character -/

theorem toNat_ofNat_of_lt {n : Nat} (h : n < 256) : (UInt8.ofNat n).toNat = n := by
  rw [UInt8.toNat_ofNat', Nat.mod_eq_of_lt h]

/-- The byte that holds the last six bits of a number. -/
def tail (n : Nat) : UInt8 := UInt8.ofNat (n % 0x40 + 0x80)

theorem toNat_tail (n : Nat) : (tail n).toNat = n % 0x40 + 0x80 := toNat_ofNat_of_lt (by omega)

/-- A byte that continues a character adds its six bits, if it lies in the range that
is asked for. -/
theorem continuation_tail {low high : UInt8} {n : Nat} (hlow : low.toNat ≤ n % 0x40 + 0x80)
    (hhigh : n % 0x40 + 0x80 ≤ high.toNat) (count acc width : Nat) (rest : List UInt8) :
    continuation (count + 1) low high acc width (tail n :: rest)
      = continuation count 0x80 0xBF (acc * 64 + n % 0x40) (width + 1) rest := by
  rw [← toNat_tail] at hlow hhigh
  rw [continuation, if_pos ⟨UInt8.le_iff_toNat_le.mpr hlow, UInt8.le_iff_toNat_le.mpr hhigh⟩,
    toNat_tail, Nat.add_sub_cancel]

/-- Where the range is not narrowed, every such byte lies in it. -/
theorem continuation_tail_any (n count acc width : Nat) (rest : List UInt8) :
    continuation (count + 1) 0x80 0xBF acc width (tail n :: rest)
      = continuation count 0x80 0xBF (acc * 64 + n % 0x40) (width + 1) rest := by
  have hbits : n % 0x40 < 0x40 := Nat.mod_lt n (by decide)
  apply continuation_tail
  · exact Nat.le_add_left 0x80 (n % 0x40)
  · exact Nat.le_of_lt_succ (Nat.add_lt_add_right hbits 0x80)

section

variable {v : Nat} (rest : List UInt8)

theorem step_one (h : v ≤ 0x7F) : step (UInt8.ofNat v) rest = .char (Char.ofNat v) rest := by
  have hb : (UInt8.ofNat v).toNat = v := toNat_ofNat_of_lt (by omega)
  simp only [step, UInt8.lt_iff_toNat_lt, hb, UInt8.reduceToNat]
  rw [if_pos (by omega)]

theorem step_two (hlow : 0x7F < v) (hhigh : v ≤ 0x7FF) :
    step (UInt8.ofNat (v / 64 % 0x20 + 0xC0)) (tail v :: rest) = .char (Char.ofNat v) rest := by
  have hb : (UInt8.ofNat (v / 64 % 0x20 + 0xC0)).toNat = v / 64 + 0xC0 := by
    rw [toNat_ofNat_of_lt (by omega)]
    omega
  have hv : v / 64 * 64 + v % 0x40 = v := by omega
  simp only [step, UInt8.lt_iff_toNat_lt, hb, UInt8.reduceToNat, Nat.add_sub_cancel]
  rw [if_neg (by omega), if_neg (by omega), if_pos (by omega), continuation_tail_any, continuation,
    hv]

theorem step_three (hlow : 0x7FF < v) (hhigh : v ≤ 0xFFFF) (hscalar : v < 0xD800 ∨ 0xDFFF < v) :
    step (UInt8.ofNat (v / 4096 % 0x10 + 0xE0)) (tail (v / 64) :: tail v :: rest)
      = .char (Char.ofNat v) rest := by
  have hb : (UInt8.ofNat (v / 4096 % 0x10 + 0xE0)).toNat = v / 4096 + 0xE0 := by
    rw [toNat_ofNat_of_lt (by omega)]
    omega
  have hv : (v / 4096 * 64 + v / 64 % 0x40) * 64 + v % 0x40 = v := by omega
  simp only [step, UInt8.lt_iff_toNat_lt, ← UInt8.toNat_inj, hb, UInt8.reduceToNat,
    Nat.add_sub_cancel]
  rw [if_neg (by omega), if_neg (by omega), if_neg (by omega), if_pos (by omega),
    continuation_tail, continuation_tail_any, continuation, hv]
  -- What is left are the two ends of the narrowed range.
  · split <;> simp only [UInt8.reduceToNat] <;> omega
  · split <;> simp only [UInt8.reduceToNat] <;> omega

theorem step_four (hlow : 0xFFFF < v) (hhigh : v < 0x110000) :
    step (UInt8.ofNat (v / 262144 % 0x08 + 0xF0)) (tail (v / 4096) :: tail (v / 64) :: tail v :: rest)
      = .char (Char.ofNat v) rest := by
  have hb : (UInt8.ofNat (v / 262144 % 0x08 + 0xF0)).toNat = v / 262144 + 0xF0 := by
    rw [toNat_ofNat_of_lt (by omega)]
    omega
  have hv : ((v / 262144 * 64 + v / 4096 % 0x40) * 64 + v / 64 % 0x40) * 64 + v % 0x40 = v := by
    omega
  simp only [step, UInt8.lt_iff_toNat_lt, ← UInt8.toNat_inj, hb, UInt8.reduceToNat,
    Nat.add_sub_cancel]
  rw [if_neg (by omega), if_neg (by omega), if_neg (by omega), if_neg (by omega),
    if_pos (by omega), continuation_tail, continuation_tail_any, continuation_tail_any,
    continuation, hv]
  · split <;> simp only [UInt8.reduceToNat] <;> omega
  · split <;> simp only [UInt8.reduceToNat] <;> omega

end

/-- A step reads a character off its bytes. -/
theorem step_utf8EncodeChar (c : Char) (rest : List UInt8) :
    ∃ b bs, String.utf8EncodeChar c = b :: bs ∧ step b (bs ++ rest) = .char c rest := by
  have hvalid : c.toNat < 0xD800 ∨ 0xDFFF < c.toNat ∧ c.toNat < 0x110000 := c.valid
  have hvalue : c.val.toNat = c.toNat := rfl
  suffices h : ∃ b bs, String.utf8EncodeChar c = b :: bs
      ∧ step b (bs ++ rest) = .char (Char.ofNat c.toNat) rest by
    rwa [Char.ofNat_toNat] at h
  simp only [String.utf8EncodeChar, hvalue]
  by_cases h1 : c.toNat ≤ 0x7F
  · rw [if_pos h1]
    exact ⟨_, _, rfl, step_one rest h1⟩
  by_cases h2 : c.toNat ≤ 0x7FF
  · rw [if_neg h1, if_pos h2]
    exact ⟨_, _, rfl, step_two rest (Nat.lt_of_not_le h1) h2⟩
  by_cases h3 : c.toNat ≤ 0xFFFF
  · rw [if_neg h1, if_neg h2, if_pos h3]
    exact ⟨_, _, rfl, step_three rest (Nat.lt_of_not_le h2) h3 (hvalid.imp_right (·.1))⟩
  · rw [if_neg h1, if_neg h2, if_neg h3]
    exact ⟨_, _, rfl, step_four rest (Nat.lt_of_not_le h3) (by omega)⟩

/-! ## Bytes of a text -/

theorem toList_loop_eq (bytes : ByteArray) (i : Nat) (seen : List UInt8) :
    ByteArray.toList.loop bytes i seen = seen.reverse ++ bytes.data.toList.drop i := by
  fun_induction ByteArray.toList.loop bytes i seen with
  | case1 i seen h ih =>
    have hi : i < bytes.data.toList.length := h
    have hget : bytes.get! i = bytes.data.toList[i] := by
      rw [ByteArray.get!, Array.getElem_toList]
      exact getElem!_pos bytes.data i h
    rw [ih, List.drop_eq_getElem_cons hi, hget, List.reverse_cons, List.append_assoc,
      List.singleton_append]
  | case2 i seen h =>
    rw [List.drop_eq_nil_of_le (Nat.le_of_not_lt h), List.append_nil]

theorem toList_eq (bytes : ByteArray) : bytes.toList = bytes.data.toList := by
  rw [ByteArray.toList, toList_loop_eq]
  rfl

theorem length_toList (bytes : ByteArray) : bytes.toList.length = bytes.size := by
  rw [toList_eq]
  rfl

/-- The bytes of a text are those of its characters, one after another. -/
theorem encode_eq (s : String) : encode s = s.toList.flatMap String.utf8EncodeChar := by
  have hdata : s.toUTF8 = (s.toList.flatMap String.utf8EncodeChar).toByteArray := by
    rw [String.toUTF8_eq_toByteArray, ← String.utf8Encode_toList, List.utf8Encode]
  rw [encode, hdata, toList_eq, List.toList_data_toByteArray]

theorem readOnto_utf8EncodeChar (acc : List Char) (position : Nat) (c : Char)
    (rest : List UInt8) :
    readOnto acc position (String.utf8EncodeChar c ++ rest)
      = readOnto (c :: acc) (position + c.utf8Size) rest := by
  obtain ⟨b, bs, hbytes, hstep⟩ := step_utf8EncodeChar c rest
  rw [hbytes, List.cons_append, readOnto]
  split
  · next h =>
    rw [hstep] at h
    injection h with hc hrest
    rw [hc, hrest]
  · next h =>
    rw [hstep] at h
    cases h

theorem readOnto_flatMap (acc cs : List Char) (position : Nat) :
    readOnto acc position (cs.flatMap String.utf8EncodeChar) = .ok (acc.reverse ++ cs) := by
  induction cs generalizing acc position with
  | nil => rw [List.flatMap_nil, readOnto, List.append_nil]
  | cons c rest ih =>
    rw [List.flatMap_cons, readOnto_utf8EncodeChar, ih, List.reverse_cons, List.append_assoc,
      List.singleton_append]

/-- The strict reading of the bytes of a text gives its characters. -/
theorem read_encode (s : String) : read (encode s) = .ok s.toList := by
  rw [read, encode_eq, readOnto_flatMap, List.reverse_nil, List.nil_append]

end Text.Utf8

/-! ## Line ends -/

namespace Text

theorem unifyLineEndsOnto_eq {cs : List Char} (h : '\r' ∉ cs) (acc : List Char) :
    unifyLineEndsOnto acc cs = acc.reverse ++ cs := by
  induction cs generalizing acc with
  | nil => rw [unifyLineEndsOnto, List.append_nil]
  | cons c rest ih =>
    obtain ⟨hc, hrest⟩ := not_or.mp (mt List.mem_cons.mpr h)
    rw [unifyLineEndsOnto, ih hrest, List.reverse_cons, List.append_assoc, List.singleton_append]
    · rintro _ rfl
      contradiction
    · rintro rfl
      contradiction

/-- Without a carriage return there is no line end to change. -/
theorem unifyLineEnds_eq {cs : List Char} (h : '\r' ∉ cs) : unifyLineEnds cs = cs := by
  rw [unifyLineEnds, unifyLineEndsOnto_eq h, List.reverse_nil, List.nil_append]

end Text

/-- A text without a carriage return is read back from its bytes. -/
theorem Encoding.text_encode {s : String} (h : '\r' ∉ s.toList) :
    Encoding.text "utf-8" (Text.Utf8.encode s) = .ok s := by
  rw [Encoding.text, Encoding.read, if_pos rfl, Encoding.readUtf8, Text.Utf8.read_encode]
  simp only [Except.map, Text.unifyLineEnds_eq h, String.ofList_toList]

end CodeSmell
