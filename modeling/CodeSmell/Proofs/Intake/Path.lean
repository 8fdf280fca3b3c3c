/-
Paths of texts.

A text is cut at its slashes by places counted in bytes. Main statements: the pieces are
those of the list of its characters, and so a name, which has no slash, is a path of
which it is the only part.
-/
import CodeSmell.Intake.Path
import Mathlib.Data.String.Basic

set_option autoImplicit false

namespace CodeSmell.Path

open String

/-- The splitting of what is left of a text. Behind the parts that are done come the
characters of the part that is not, and the rest. -/
theorem splitOnAux_ofList (c : Char) (done part rest : List Char) (acc : List String) :
    splitOnAux (ofList (done ++ part ++ rest)) (ofList [c]) ⟨utf8Len done⟩
        ⟨utf8Len (done ++ part)⟩ 0 acc
      = acc.reverse ++ (List.splitOnPPrepend (· == c) rest part.reverse).map ofList := by
  have hget : Pos.Raw.get (ofList [c]) 0 = c := get_of_valid [] [c]
  have hnext : Pos.Raw.next (ofList [c]) 0 = ⟨utf8Len [c]⟩ := by
    simpa using next_of_valid [] c []
  have hend : Pos.Raw.atEnd (ofList [c]) ⟨utf8Len [c]⟩ = true := by
    simpa using (atEnd_of_valid [c] []).mpr rfl
  induction rest generalizing done part acc with
  | nil =>
    have hdone : Pos.Raw.atEnd (ofList (done ++ part ++ [])) ⟨utf8Len (done ++ part)⟩ = true :=
      (atEnd_of_valid (done ++ part) []).mpr rfl
    have hpart := extract_of_valid done part []
    rw [splitOnAux, if_pos hdone, utf8Len_append, hpart, List.reverse_cons,
      List.splitOnPPrepend_nil, List.reverse_reverse]
    rfl
  | cons d rest ih =>
    have hmore : ¬Pos.Raw.atEnd (ofList (done ++ part ++ d :: rest)) ⟨utf8Len (done ++ part)⟩
        = true := fun h => List.cons_ne_nil d rest ((atEnd_of_valid (done ++ part) _).mp h)
    have hd : Pos.Raw.get (ofList (done ++ part ++ d :: rest)) ⟨utf8Len (done ++ part)⟩ = d :=
      get_of_valid (done ++ part) (d :: rest)
    have hstep := next_of_valid (done ++ part) d rest
    rw [splitOnAux, if_neg hmore, hd, hget]
    have hplace : utf8Len (done ++ part) + d.utf8Size = utf8Len (done ++ (part ++ [d])) := by
      rw [← List.append_assoc, utf8Len_append _ [d], utf8Len_cons, utf8Len_nil, Nat.zero_add]
    have htext : done ++ part ++ d :: rest = done ++ (part ++ [d]) ++ rest := by
      rw [List.append_assoc, List.append_assoc, List.append_assoc, List.singleton_append]
    by_cases heq : (d == c) = true
    · obtain rfl := beq_iff_eq.mp heq
      have hback : Pos.Raw.unoffsetBy ⟨utf8Len (done ++ part) + d.utf8Size⟩ ⟨utf8Len [d]⟩
          = ⟨utf8Len done + utf8Len part⟩ := by
        rw [Pos.Raw.ext_iff]
        simp [utf8Len_append]
      have hpart := extract_of_valid done part (d :: rest)
      have hnew := ih (done ++ (part ++ [d])) [] (ofList part :: acc)
      rw [List.append_nil] at hnew
      rw [if_pos heq, hstep, hnext]
      dsimp only
      rw [if_pos hend, hback, hpart, hplace, htext, hnew,
        List.splitOnPPrepend_cons_eq_if, if_pos heq, List.reverse_reverse, List.reverse_cons,
        List.append_assoc]
      rfl
    · have hstay : Pos.Raw.unoffsetBy ⟨utf8Len (done ++ part)⟩ 0
          = ⟨utf8Len (done ++ part)⟩ := rfl
      rw [if_neg heq, hstay, hstep, hplace, htext, ih done (part ++ [d]) acc,
        List.splitOnPPrepend_cons_eq_if, if_neg heq, List.reverse_append]
      rfl

/-- The pieces of a text are those of its characters. -/
theorem pieces_eq (text : String) :
    pieces text = (text.toList.splitOn '/').map ofList := by
  have h := splitOnAux_ofList '/' [] [] text.toList []
  rw [List.nil_append, List.nil_append, ofList_toList] at h
  exact h

section

variable {name : String} (hslash : '/' ∉ name.toList)

include hslash

theorem pieces_of_name : pieces name = [name] := by
  have hother : ∀ c ∈ name.toList, (c == '/') = false :=
    fun c hc => beq_eq_false_iff_ne.mpr fun heq => hslash (heq ▸ hc)
  rw [pieces_eq, List.splitOn, List.splitOnP_eq_singleton hother, List.map_singleton, ofList_toList]

theorem rootOf_of_name : rootOf name = "" := by
  have hhead : name.toList.takeWhile (· = '/') = [] := by
    cases hname : name.toList with
    | nil => rfl
    | cons c rest =>
      have hc : c ≠ '/' := fun heq => hslash (hname ▸ heq ▸ List.mem_cons_self)
      rw [List.takeWhile_cons_of_neg (by simpa using hc)]
  rw [rootOf, hhead]
  rfl

/-- A name is a path of one part. -/
theorem ofText_of_name (hempty : name ≠ "") (hpoint : name ≠ ".") :
    ofText name = ⟨"", [name]⟩ := by
  rw [ofText, pieces_of_name hslash, rootOf_of_name hslash,
    List.filter_cons_of_pos (by simpa using ⟨hempty, hpoint⟩), List.filter_nil]

/-- A name is its own last part. -/
theorem name_ofText_of_name (hempty : name ≠ "") (hpoint : name ≠ ".") :
    (ofText name).name = name := by
  rw [ofText_of_name hslash hempty hpoint]
  rfl

end

end CodeSmell.Path
