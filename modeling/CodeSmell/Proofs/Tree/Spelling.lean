/-
Words that a classification asks for.

Three questions about a node turn on a word in the source: is it the type `any`, is it a number
that ends in `n`, is it a member that is named `constructor`. They are asked of the text of the
node, which is its bytes in the tolerant reading, and that reading gives one text for many
sequences of bytes. None of the words holds a replacement character, though. So a node has such
a word for its text exactly where it has the bytes of the word (`content_eq_iff`), and it ends
in an ASCII character exactly where its bytes do (`getLast?_content_eq_iff`): bytes that are
malformed, too long for their character, or cut short spell none of these words.

Main statement (`words_are_told_by_their_bytes`): the two laws of the reading that this rests
on, and each of the three questions answered from the bytes alone.
-/
import CodeSmell.Classify
import CodeSmell.Proofs.Text.Tolerant

set_option autoImplicit false

namespace CodeSmell

open Text.Utf8

/-- All of a byte string. -/
theorem Excerpt.toList_ofBytes (bytes : List UInt8) : (ofBytes ⟨bytes.toArray⟩).toList = bytes := by
  let all : ByteArray := ⟨bytes.toArray⟩
  change (all.extract 0 all.size).toList = bytes
  rw [ByteArray.extract_zero_size, toList_eq]

namespace SyntaxNode

/-! ## The text of a node -/

/-- A word without a replacement character is the text of its own bytes and of no others. -/
theorem content_eq_iff (n : SyntaxNode) {word : String} (h : replacement ∉ word.toList) :
    n.content = word ↔ n.bytes = encode word := by
  constructor
  · intro hcontent
    have hread : decode n.bytes = word.toList := by
      rw [← hcontent, content, String.toList_ofList]
    rw [← hread] at h
    rw [← encode_decode h, hread, String.ofList_toList]
  · intro hbytes
    rw [content, hbytes, decode_encode, String.ofList_toList]

theorem getLast?_content_eq_iff (n : SyntaxNode) {b : UInt8} (h : b < 0x80) :
    n.content.toList.getLast? = some (Char.ofNat b.toNat) ↔ n.bytes.getLast? = some b := by
  rw [content, String.toList_ofList, getLast?_decode h]

/-! ## Questions that turn on a word -/

theorem isAnyKeyword_iff (n : SyntaxNode) :
    n.isAnyKeyword = true
      ↔ n.named = true ∧ n.kind = "predefined_type" ∧ n.bytes = encode "any" := by
  have hword : n.content = "any" ↔ n.bytes = encode "any" := n.content_eq_iff (by decide)
  rw [isAnyKeyword, Bool.and_eq_true, Bool.and_eq_true, beq_iff_eq, beq_iff_eq, hword, and_assoc]

theorem isNumericLiteral_iff (n : SyntaxNode) :
    n.isNumericLiteral = true
      ↔ n.named = true ∧ n.kind = "number" ∧ n.bytes.getLast? ≠ some 0x6E := by
  have hlast : n.content.toList.getLast? = some 'n' ↔ n.bytes.getLast? = some 0x6E :=
    n.getLast?_content_eq_iff (b := 0x6E) (by decide)
  rw [isNumericLiteral, Bool.and_eq_true, Bool.and_eq_true, beq_iff_eq, bne_iff_ne, and_assoc]
  exact and_congr_right' (and_congr_right' (not_congr hlast))

/-- In a class body, a member is a method unless it is an accessor or its name has the bytes of
`constructor`. -/
theorem isMethod_iff_of_class_body {body : SyntaxNode} (h : body.kind = "class_body")
    (n : SyntaxNode) :
    isMethod (some body) n = true
      ↔ n.kind ∈ memberKinds ∧ n.children.any isAccessorToken = false
        ∧ ∀ name, n.child? "name" = some name → name.bytes ≠ encode "constructor" := by
  have hclass : inClassBody (some body) = true := by
    simp [inClassBody, h]
  have hname : ((n.child? "name").any fun name => name.content == "constructor") = false
      ↔ ∀ name, n.child? "name" = some name → name.bytes ≠ encode "constructor" := by
    cases n.child? "name" with
    | none => simp
    | some name =>
      have hword : name.content = "constructor" ↔ name.bytes = encode "constructor" :=
        name.content_eq_iff (by decide)
      simp [hword]
  rw [← hname]
  -- In a class body a signature counts like any other member.
  simp only [isMethod, hclass, Bool.not_true, Bool.and_false, Bool.not_false, Bool.and_true,
    Bool.true_and, Bool.and_eq_true, Bool.not_eq_true', List.contains_iff_mem]
  tauto

/-- **Words are told by their bytes.** The tolerant reading has a text for all bytes. If it puts
no replacement character, the bytes are those of the text. An ASCII byte is read as itself,
whatever stands in front of it, and it is the last character exactly where it is the last byte.
A named node is the type `any` exactly if it is a predefined type with the bytes of `any`; a
number is refused exactly if its last byte is `n`; and in a class body a member that is no
accessor is excluded exactly if its name has the bytes of `constructor`. -/
theorem words_are_told_by_their_bytes :
    (∀ bytes, replacement ∉ decode bytes → encode (String.ofList (decode bytes)) = bytes)
      ∧ (∀ b : UInt8, b < 0x80 → ∀ bytes,
          ((decode bytes).getLast? = some (Char.ofNat b.toNat) ↔ bytes.getLast? = some b)
            ∧ ∀ rest,
                decode (bytes ++ b :: rest) = decode bytes ++ Char.ofNat b.toNat :: decode rest)
      ∧ ∀ n : SyntaxNode, n.named = true →
          (n.isAnyKeyword = true ↔ n.kind = "predefined_type" ∧ n.bytes = encode "any")
            ∧ (n.kind = "number" →
                (n.isNumericLiteral = false ↔ n.bytes.getLast? = some 0x6E))
            ∧ ∀ body : SyntaxNode, body.kind = "class_body" →
                (isMethod (some body) n = true
                  ↔ n.kind ∈ memberKinds ∧ n.children.any isAccessorToken = false
                    ∧ ∀ name, n.child? "name" = some name →
                        name.bytes ≠ encode "constructor") := by
  refine ⟨fun bytes h => encode_decode h, ?_, ?_⟩
  · intro b hb bytes
    exact ⟨getLast?_decode hb bytes, fun rest => decode_append_ascii hb rest bytes⟩
  · intro n hnamed
    refine ⟨?_, ?_, ?_⟩
    · rw [n.isAnyKeyword_iff]
      simp [hnamed]
    · intro hkind
      rw [← Bool.not_eq_true, n.isNumericLiteral_iff]
      simp [hnamed, hkind]
    · intro body hbody
      exact isMethod_iff_of_class_body hbody n

/-- A named node of a kind that covers the bytes. -/
def spelled (kind : String) (bytes : List UInt8) : SyntaxNode :=
  { leaf kind with text := some (.ofBytes ⟨bytes.toArray⟩) }

theorem bytes_spelled (kind : String) (bytes : List UInt8) : (spelled kind bytes).bytes = bytes :=
  Excerpt.toList_ofBytes bytes

/-- A method whose name covers the bytes. -/
def memberNamed (bytes : List UInt8) : SyntaxNode :=
  { leaf "method_definition" with
    children := [{ spelled "property_identifier" bytes with field := some "name" }] }

/-- The `a` of `any` written too long for its character, a character that is cut short in front
of the `n` of a number, and one that is cut short behind `constructor`. -/
theorem words_are_told_by_their_bytes_malformed :
    encode (String.ofList (decode [0x61, 0x6E, 0x79])) = [0x61, 0x6E, 0x79]
      ∧ decode ([0xE2, 0x82] ++ [0x6E]) = decode [0xE2, 0x82] ++ ['n']
      ∧ (decode [0x31, 0xE2, 0x82, 0x6E]).getLast? = some 'n'
      ∧ (spelled "predefined_type" [0xC1, 0xA1, 0x6E, 0x79]).isAnyKeyword = false
      ∧ (spelled "number" [0x31, 0xE2, 0x82, 0x6E]).isNumericLiteral = false
      ∧ isMethod (some (leaf "class_body")) (memberNamed (encode "constructor" ++ [0xC2])) = true
      ∧ isMethod (some (leaf "class_body")) (memberNamed (encode "constructor")) = false := by
  obtain ⟨hback, hascii, hwords⟩ := words_are_told_by_their_bytes
  have hcut := (hascii 0x6E (by decide) [0xE2, 0x82]).2 []
  rw [decode_nil] at hcut
  have hlast := (hascii 0x6E (by decide) [0x31, 0xE2, 0x82, 0x6E]).1.mpr rfl
  refine ⟨hback _ (by decide +kernel), hcut, hlast, ?_, ?_, ?_, ?_⟩
  · rw [← Bool.not_eq_true, (hwords _ rfl).1, bytes_spelled]
    decide +kernel
  · rw [(hwords _ rfl).2.1 rfl, bytes_spelled]
    rfl
  · rw [(hwords _ rfl).2.2 _ rfl]
    refine ⟨by decide, rfl, ?_⟩
    intro name hname
    obtain rfl := Option.some.inj hname
    change (spelled "property_identifier" (encode "constructor" ++ [0xC2])).bytes ≠ _
    rw [bytes_spelled]
    simp
  · rw [← Bool.not_eq_true, (hwords _ rfl).2.2 _ rfl]
    rintro ⟨-, -, hname⟩
    exact hname _ rfl (bytes_spelled "property_identifier" (encode "constructor"))

end SyntaxNode

end CodeSmell
