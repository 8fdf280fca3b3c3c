/-
Names and sizes that are taken in.

Endings are compared in lower case, and how a character is put in lower case may depend on
what stands around it. Main statement: letters that are written in one byte do not depend
on it, so a name that ends in an allowed ending as it stands is not refused, whatever
stands in front of the ending.
-/
import CodeSmell.Intake.Limits

set_option autoImplicit false

namespace CodeSmell

namespace Text

/-- An ending is put in lower case behind whatever its front becomes. -/
theorem exists_lowerFrom_append (before cs ending : List Char) :
    ∃ front, lowerFrom before (cs ++ ending) = front ++ lowerFrom (cs.reverse ++ before) ending := by
  induction cs generalizing before with
  | nil => exact ⟨[], rfl⟩
  | cons c rest ih =>
    obtain ⟨front, hfront⟩ := ih (c :: before)
    refine ⟨lowerAt before c (rest ++ ending) ++ front, ?_⟩
    rw [List.cons_append, lowerFrom, hfront, List.append_assoc, List.reverse_cons,
      List.append_assoc, List.singleton_append]

theorem lowerFrom_ascii {cs : List Char} (h : ∀ c ∈ cs, c.toNat < 0x80) (before : List Char) :
    lowerFrom before cs = cs.map Char.toLower := by
  induction cs generalizing before with
  | nil => rfl
  | cons c rest ih =>
    rw [lowerFrom, lowerAt, if_pos (h c List.mem_cons_self),
      ih (fun d hd => h d (List.mem_cons_of_mem c hd)), List.map_cons, List.singleton_append]

/-- What a text ends in, it ends in with case aside. -/
theorem endsWithFolded_of_suffix {s ending : String} (hascii : ∀ c ∈ ending.toList, c.toNat < 0x80)
    (h : ending.toList <:+ s.toList) : endsWithFolded s ending = true := by
  obtain ⟨start, hs⟩ := h
  obtain ⟨front, hfront⟩ := exists_lowerFrom_append [] start ending.toList
  rw [endsWithFolded, List.isSuffixOf_iff_suffix, lower, lower, String.toList_ofList,
    String.toList_ofList, ← hs, hfront, lowerFrom_ascii hascii, lowerFrom_ascii hascii]
  exact List.suffix_append front _

end Text

namespace IntakeLimits

variable {l : IntakeLimits} {name : String}

/-- A name with an allowed ending is not refused. -/
theorem checkName_of_suffix {ending : String} (hmem : ending ∈ l.suffixes)
    (hascii : ∀ c ∈ ending.toList, c.toNat < 0x80) (h : ending.toList <:+ name.toList) :
    l.checkName name = .ok () := by
  have hallows : l.allowsName name = true :=
    List.any_eq_true.mpr ⟨ending, hmem, Text.endsWithFolded_of_suffix hascii h⟩
  rw [checkName, if_pos hallows]

theorem checkSize_of_le {size : Int} (h : size ≤ l.maxBytes) : l.checkSize size = .ok () := by
  rw [checkSize, if_neg (Int.not_lt.mpr h)]

theorem checkSize_of_lt {size : Int} (h : l.maxBytes < size) :
    l.checkSize size = .error (.tooLarge size l.maxBytes) := by
  rw [checkSize, if_pos h]

/-- Under a name that is not refused, a text is refused by its size only. -/
theorem checkText_of_checkName (h : l.checkName name = .ok ()) (text : String) :
    l.checkText text (some name) = l.checkSize text.utf8ByteSize := by
  unfold checkText
  cases l.checkSize text.utf8ByteSize with
  | error e => rfl
  | ok =>
    dsimp only [bind, Except.bind]
    rw [h]
    split <;> rfl

end IntakeLimits

end CodeSmell
