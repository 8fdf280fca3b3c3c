/-
Endings from the environment.

Which names the service takes in is settled by a variable of the environment, in three
steps that stand apart: the text is cut at its commas, the pieces are trimmed and blank ones
dropped, and a name is compared with what is left, case aside. Main statement: taken
together the steps let a name pass exactly if it ends in some piece that is not blank. No
piece that is left is empty, and none holds a comma, so no text lets every name pass.

The variable is read last and on its own: it never keeps the settings from being read, and
it changes none of the others.
-/
import CodeSmell.Proofs.Intake.Limits
import CodeSmell.Proofs.Service.Agreement
import Mathlib.Data.List.TakeWhile
import Mathlib.Data.String.Basic

set_option autoImplicit false

namespace CodeSmell

namespace Text

/-! ## Pieces of a text -/

/-- The pieces between separators are those of the library. -/
theorem splitAt_eq_splitOn (sep : Char) (cs : List Char) : splitAt sep cs = cs.splitOn sep := by
  induction cs with
  | nil => rfl
  | cons c rest ih =>
    rw [splitAt, List.splitOn_eq_splitOnP, List.splitOnP_cons_eq_if_modifyHead,
      ← List.splitOn_eq_splitOnP, ← ih]
    by_cases hc : c = sep
    · simp [hc]
    · rw [if_neg hc, if_neg (by simpa using hc)]
      cases hrest : splitAt sep rest with
      | nil =>
        rw [ih] at hrest
        exact absurd hrest (List.splitOn_ne_nil sep rest)
      | cons piece pieces => rfl

/-- A piece holds characters of the text, and no separator. -/
theorem mem_of_mem_splitOn {sep : Char} {cs piece : List Char} (h : piece ∈ cs.splitOn sep) :
    ∀ c ∈ piece, c ∈ cs ∧ c ≠ sep := by
  rw [← splitAt_eq_splitOn] at h
  induction cs generalizing piece with
  | nil =>
    obtain rfl := List.mem_singleton.mp h
    simp
  | cons d rest ih =>
    have hrest : ∀ piece ∈ splitAt sep rest, ∀ c ∈ piece, c ∈ d :: rest ∧ c ≠ sep := by
      intro piece hpiece c hc
      obtain ⟨hmem, hne⟩ := ih hpiece c hc
      exact ⟨List.mem_cons_of_mem d hmem, hne⟩
    rw [splitAt] at h
    by_cases hd : d = sep
    · rw [if_pos hd] at h
      rcases List.mem_cons.mp h with rfl | h
      · simp
      · exact hrest piece h
    · rw [if_neg hd] at h
      cases hsplit : splitAt sep rest with
      | nil =>
        rw [hsplit] at h
        obtain rfl := List.mem_singleton.mp h
        intro c hc
        obtain rfl := List.mem_singleton.mp hc
        exact ⟨List.mem_cons_self, hd⟩
      | cons first pieces =>
        rw [hsplit] at h hrest
        obtain ⟨hfirst, hpieces⟩ := List.forall_mem_cons.mp hrest
        rcases List.mem_cons.mp h with rfl | h
        · exact List.forall_mem_cons.mpr ⟨⟨List.mem_cons_self, hd⟩, hfirst⟩
        · exact hpieces piece h

/-! ## Trimming -/

/-- Trimming takes characters off and puts none in. -/
theorem mem_of_mem_trimWhere {p : Char → Bool} {cs : List Char} {c : Char}
    (h : c ∈ trimWhere p cs) : c ∈ cs := by
  rw [trimWhere, trimEndWhere, List.mem_reverse] at h
  have hback := (List.dropWhile_sublist p).subset h
  exact (List.dropWhile_sublist p).subset (List.mem_reverse.mp hback)

/-- Nothing is left of a list by trimming exactly if all of it passes the test. -/
theorem trimWhere_eq_nil_iff {p : Char → Bool} {cs : List Char} :
    trimWhere p cs = [] ↔ ∀ c ∈ cs, p c = true := by
  rw [trimWhere, trimEndWhere, List.reverse_eq_nil_iff, List.dropWhile_eq_nil_iff]
  constructor
  · intro h c hc
    rw [← List.takeWhile_append_dropWhile (p := p) (l := cs)] at hc
    rcases List.mem_append.mp hc with hc | hc
    · exact List.mem_takeWhile_imp hc
    · exact h c (List.mem_reverse.mpr hc)
  · intro h c hc
    exact h c ((List.dropWhile_sublist p).subset (List.mem_reverse.mp hc))

/-! ## Lower case -/

theorem lowerAt_ne_nil (before : List Char) (c : Char) (after : List Char) :
    lowerAt before c after ≠ [] := by
  unfold lowerAt
  split
  · simp
  · split
    · simp
    · split <;> simp

theorem lower_ne_empty {s : String} (h : s ≠ "") : lower s ≠ "" := by
  intro hlower
  cases hs : s.toList with
  | nil => exact h (String.toList_eq_nil_iff.mp hs)
  | cons c rest =>
    rw [lower, hs, lowerFrom] at hlower
    have hnil := congrArg String.toList hlower
    rw [String.toList_ofList] at hnil
    exact lowerAt_ne_nil [] c rest (List.append_eq_nil_iff.mp hnil).1

theorem toNat_of_ofNat_eq {n : Nat} {c : Char} (hc : c.toNat ≠ 0) (h : Char.ofNat n = c) :
    n = c.toNat := by
  by_cases hvalid : n.isValidChar
  · have hcode : Char.ofNat n = Char.ofNatAux n hvalid := dif_pos hvalid
    rw [← h, hcode]
    rfl
  · have hcode : Char.ofNat n = Char.ofNat 0 := dif_neg hvalid
    rw [← h, hcode] at hc
    exact absurd rfl hc

/-- The small letters of all runs of capitals lie behind the comma. -/
theorem comma_lt_of_mem_lowerRuns : ∀ r ∈ lowerRuns, (','.toNat : Int) < r.low + r.shift := by
  decide +kernel

theorem lowerSingle_ne_comma {c : Char} (hc : 0x80 ≤ c.toNat) : lowerSingle c ≠ ',' := by
  intro h
  unfold lowerSingle at h
  split at h
  · rename_i r hr
    have hrun := comma_lt_of_mem_lowerRuns r (List.mem_of_find?_eq_some hr)
    have hholds : r.holds c = true := by simpa using List.find?_some hr
    simp only [CaseRun.holds, Bool.and_eq_true, decide_eq_true_eq] at hholds
    have hcode := toNat_of_ofNat_eq (by decide) h
    omega
  · rw [h] at hc
    exact absurd hc (by decide)

/-- The small letter of an ASCII character is a comma only if the character is. -/
theorem eq_of_toLower_ofNat_eq_comma :
    ∀ n < 0x80, (Char.ofNat n).toLower = ',' → n = ','.toNat := by
  decide +kernel

/-- Only a comma becomes a comma. -/
theorem eq_comma_of_mem_lowerAt {before after : List Char} {c : Char}
    (h : ',' ∈ lowerAt before c after) : c = ',' := by
  unfold lowerAt at h
  by_cases hascii : c.toNat < 0x80
  · rw [if_pos hascii, List.mem_singleton] at h
    have hsmall : (Char.ofNat c.toNat).toLower = ',' := by
      rw [Char.ofNat_toNat, h]
    exact Char.toNat_inj.mp (eq_of_toLower_ofNat_eq_comma c.toNat hascii hsmall)
  · rw [if_neg hascii] at h
    split at h
    · split at h <;> simp at h
    · split at h
      · simp at h
      · rw [List.mem_singleton] at h
        exact absurd h.symm (lowerSingle_ne_comma (Nat.le_of_not_lt hascii))

theorem comma_mem_of_mem_lowerFrom {before cs : List Char} (h : ',' ∈ lowerFrom before cs) :
    ',' ∈ cs := by
  induction cs generalizing before with
  | nil => exact h
  | cons c rest ih =>
    rw [lowerFrom] at h
    rcases List.mem_append.mp h with h | h
    · exact eq_comma_of_mem_lowerAt h ▸ List.mem_cons_self
    · exact List.mem_cons_of_mem c (ih h)

/-- Where a text ends in a comma, so does all that it ends in with case aside, and a text
without commas is not among it. -/
theorem not_suffix_of_comma {item name : String} (hne : item ≠ "") (hitem : ',' ∉ item.toList)
    (hname : [','] <:+ name.toList) : ¬(lower item).toList <:+ (lower name).toList := by
  rintro ⟨rest, hrest⟩
  obtain ⟨front, hfront⟩ := hname
  obtain ⟨before, hbefore⟩ := exists_lowerFrom_append [] front [',']
  have hcomma : (lower name).toList = before ++ [','] := by
    rw [lower, String.toList_ofList, ← hfront, hbefore]
    rfl
  have hlower : (lower item).toList ≠ [] := by
    intro hnil
    exact lower_ne_empty hne (String.toList_eq_nil_iff.mp hnil)
  -- Compare the last characters: the ending then holds a comma, in lower case and so before.
  obtain ⟨start, last, hsplit⟩ := List.eq_nil_or_concat' _ |>.resolve_left hlower
  rw [hcomma, hsplit, ← List.append_assoc] at hrest
  have hlast : last = ',' := (List.append_inj' hrest rfl).2 |> List.singleton_inj.mp
  have hmem : ',' ∈ lowerFrom [] item.toList := by
    have : ',' ∈ (lower item).toList := by simp [hsplit, hlast]
    rwa [lower, String.toList_ofList] at this
  exact hitem (comma_mem_of_mem_lowerFrom hmem)

end Text

/-! ## Lists in the environment -/

namespace Setting

/-- What is read from a list are its pieces between commas, trimmed, as far as they are not
blank. -/
theorem mem_readList {raw item : String} :
    item ∈ readList raw ↔ ∃ piece ∈ raw.toList.splitOn ',',
      (∃ c ∈ piece, Text.isBlank c = false) ∧ item = Text.trim (String.ofList piece) := by
  have hblank (piece : List Char) : (Text.trim (String.ofList piece)).isEmpty = false
      ↔ ∃ c ∈ piece, Text.isBlank c = false := by
    rw [← Bool.not_eq_true, String.isEmpty_iff, Text.trim, String.toList_ofList,
      ← String.toList_eq_nil_iff, String.toList_ofList, Text.trimWhere_eq_nil_iff]
    simp
  rw [readList, Text.splitAt_eq_splitOn, List.mem_filter, List.mem_map]
  constructor
  · rintro ⟨⟨piece, hpiece, rfl⟩, hne⟩
    exact ⟨piece, hpiece, (hblank piece).mp (by simpa using hne), rfl⟩
  · rintro ⟨piece, hpiece, hchar, rfl⟩
    exact ⟨⟨piece, hpiece, rfl⟩, by simpa using (hblank piece).mpr hchar⟩

/-- No item that is read is empty, and none holds a comma. -/
theorem item_of_mem_readList {raw item : String} (h : item ∈ readList raw) :
    item ≠ "" ∧ ',' ∉ item.toList := by
  constructor
  · have hne := (List.mem_filter.mp h).2
    rintro rfl
    simp at hne
  · obtain ⟨piece, hpiece, -, rfl⟩ := mem_readList.mp h
    intro hcomma
    rw [Text.trim, String.toList_ofList, String.toList_ofList] at hcomma
    exact (Text.mem_of_mem_splitOn hpiece _ (Text.mem_of_mem_trimWhere hcomma)).2 rfl

/-- Nothing is read from a text of blanks and commas. -/
theorem readList_eq_nil {raw : String}
    (h : ∀ c ∈ raw.toList, Text.isBlank c = true ∨ c = ',') : readList raw = [] := by
  rw [List.eq_nil_iff_forall_not_mem]
  intro item hitem
  obtain ⟨piece, hpiece, ⟨c, hc, hblank⟩, -⟩ := mem_readList.mp hitem
  obtain ⟨hmem, hne⟩ := Text.mem_of_mem_splitOn hpiece c hc
  rw [(h c hmem).resolve_right hne] at hblank
  cases hblank

/-- Items that are put together with commas are read back. -/
theorem readList_intercalate {items : List String}
    (h : ∀ item ∈ items, item ≠ "" ∧ ',' ∉ item.toList ∧ Text.trim item = item) :
    readList (",".intercalate items) = items := by
  cases items with
  | nil => rfl
  | cons first rest =>
    have hpieces : (",".intercalate (first :: rest)).toList.splitOn ','
        = (first :: rest).map String.toList := by
      rw [String.toList_intercalate]
      refine List.splitOn_intercalate ',' ?_ (by simp)
      exact List.forall_mem_map.mpr fun item hitem => (h item hitem).2.1
    have htrim : ((first :: rest).map String.toList).map
        (fun piece => Text.trim (String.ofList piece)) = first :: rest := by
      rw [List.map_map, List.map_congr_left (g := id), List.map_id]
      intro item hitem
      rw [Function.comp_apply, String.ofList_toList]
      exact (h item hitem).2.2
    rw [readList, Text.splitAt_eq_splitOn, hpieces, htrim, List.filter_eq_self]
    intro item hitem
    simpa using (h item hitem).1

end Setting

/-! ## Reading one variable -/

namespace Settings

variable {environment : List (String × String)} {name raw : String}

/-- One step of reading the settings: one of them is read if the environment has its
variable. -/
def readFrom (environment : List (String × String)) (s : Settings) (setting : Setting) :
    Except NumeralError Settings :=
  match environment.lookup setting.variableName with
  | some text => s.set setting text
  | none => .ok s

theorem override_eq_foldlM (s : Settings) (environment : List (String × String)) :
    s.override environment = Setting.all.foldlM (readFrom environment) s := rfl

/-- A setting is not read from the variable of another. -/
theorem readFrom_cons_of_ne {setting : Setting} (h : setting.variableName ≠ name)
    (s : Settings) : readFrom ((name, raw) :: environment) s setting
      = readFrom environment s setting := by
  rw [readFrom, readFrom, List.lookup_cons, beq_false_of_ne h]

theorem foldlM_readFrom_cons_of_ne {settings : List Setting}
    (h : ∀ setting ∈ settings, setting.variableName ≠ name) (s : Settings) :
    settings.foldlM (readFrom ((name, raw) :: environment)) s
      = settings.foldlM (readFrom environment) s := by
  induction settings generalizing s with
  | nil => rfl
  | cons setting rest ih =>
    obtain ⟨hsetting, hrest⟩ := List.forall_mem_cons.mp h
    rw [List.foldlM_cons, List.foldlM_cons, readFrom_cons_of_ne hsetting]
    exact congrArg _ (funext (ih hrest))

/-- The variable of the endings sets the endings, and nothing else. -/
theorem override_allowedSuffixes {s base : Settings} (h : s.override environment = .ok base)
    (raw : String) : s.override (("ALLOWED_SUFFIXES", raw) :: environment)
      = .ok { base with allowedSuffixes := Setting.readList raw } := by
  have hall : Setting.all = Setting.all.dropLast ++ [.allowedSuffixes] := rfl
  rw [override_eq_foldlM, hall, List.foldlM_append] at h ⊢
  rw [foldlM_readFrom_cons_of_ne (by decide)]
  cases hfront : Setting.all.dropLast.foldlM (readFrom environment) s with
  | error e =>
    rw [hfront] at h
    cases h
  | ok front =>
    rw [hfront] at h
    -- The endings are read last; before them, the two runs have come to the same settings.
    have hlast (env : List (String × String)) (s : Settings) :
        [Setting.allowedSuffixes].foldlM (readFrom env) s = readFrom env s .allowedSuffixes :=
      bind_pure _
    have hwith : readFrom (("ALLOWED_SUFFIXES", raw) :: environment) front .allowedSuffixes
        = .ok { front with allowedSuffixes := Setting.readList raw } := by
      rw [readFrom, Setting.variableName, List.lookup_cons_self]
      rfl
    have hbase : ∃ suffixes, base = { front with allowedSuffixes := suffixes } := by
      change [Setting.allowedSuffixes].foldlM (readFrom environment) front = .ok base at h
      rw [hlast, readFrom] at h
      split at h
      · obtain rfl := Except.ok.inj h
        exact ⟨_, rfl⟩
      · obtain rfl := Except.ok.inj h
        exact ⟨_, rfl⟩
    obtain ⟨suffixes, rfl⟩ := hbase
    exact (hlast _ front).trans hwith

end Settings

/-! ## Names that are taken in -/

/-- The name ends, case aside, in a piece of the text that is not blank. -/
def EndsInPiece (raw name : String) : Prop :=
  ∃ piece ∈ raw.toList.splitOn ',', (∃ c ∈ piece, Text.isBlank c = false)
    ∧ (Text.lower (Text.trim (String.ofList piece))).toList <:+ (Text.lower name).toList

namespace IntakeLimits

/-- A name is taken in exactly if it ends in one of the endings, case aside. -/
theorem checkName_eq_ok_iff {l : IntakeLimits} {name : String} : l.checkName name = .ok ()
    ↔ ∃ ending ∈ l.suffixes, (Text.lower ending).toList <:+ (Text.lower name).toList := by
  have hallows : l.allowsName name = true
      ↔ ∃ ending ∈ l.suffixes, (Text.lower ending).toList <:+ (Text.lower name).toList := by
    simp [allowsName, Text.endsWithFolded, List.isSuffixOf_iff_suffix]
  rw [checkName, ← hallows]
  split <;> simp_all

/-- A name that is not taken in is refused together with the endings. -/
theorem checkName_of_ne_ok {l : IntakeLimits} {name : String} (h : l.checkName name ≠ .ok ()) :
    l.checkName name = .error (.unsupported name l.suffixes) := by
  rw [checkName] at h ⊢
  split at h
  · exact absurd rfl h
  · rename_i hnot
    rw [if_neg hnot]

/-- Where the endings are read from a text, these are its pieces. -/
theorem checkName_readList {l : IntakeLimits} {raw : String} (h : l.suffixes = Setting.readList raw)
    (name : String) : l.checkName name = .ok () ↔ EndsInPiece raw name := by
  rw [checkName_eq_ok_iff, h, EndsInPiece]
  constructor
  · rintro ⟨ending, hmem, hsuffix⟩
    obtain ⟨piece, hpiece, hchar, rfl⟩ := Setting.mem_readList.mp hmem
    exact ⟨piece, hpiece, hchar, hsuffix⟩
  · rintro ⟨piece, hpiece, hchar, hsuffix⟩
    exact ⟨_, Setting.mem_readList.mpr ⟨piece, hpiece, hchar, rfl⟩, hsuffix⟩

end IntakeLimits

namespace Service

/-- A source that is taken in is not answered as unsupported. -/
theorem answerSubmission_status_ne_unsupported {s : Settings} {sub : Submission}
    (h : s.intake.checkText sub.source sub.filename = .ok ()) (parser : SourceParser) :
    (sent (answerSubmission s parser sub)).status ≠ 415 := by
  rw [answerSubmission, h]
  dsimp only
  rw [answerSource]
  split
  · rw [answerReport]
    split <;> simp [sent, serverError, refusal]
  · simp [sent, refusal]
  · simp [sent, serverError, refusal]

/-- A submission with a name is answered as unsupported exactly if it is not too large and
its name is not taken in. -/
theorem answerSubmission_status_eq_unsupported_iff (s : Settings) (parser : SourceParser)
    (source : String) {name : String} (hname : name ≠ "") :
    (sent (answerSubmission s parser ⟨source, some name⟩)).status = 415
      ↔ source.utf8ByteSize ≤ s.maxSourceBytes ∧ s.intake.checkName name ≠ .ok () := by
  have hnonempty : name.isEmpty = false := by simpa using hname
  rcases Int.lt_or_le s.maxSourceBytes source.utf8ByteSize with hlarge | hsmall
  · have hcheck : s.intake.checkText source (some name)
        = .error (.tooLarge source.utf8ByteSize s.maxSourceBytes) := by
      rw [IntakeLimits.checkText, IntakeLimits.checkSize_of_lt (l := s.intake) hlarge]
      rfl
    rw [answerSubmission, hcheck]
    simp [sent, refusal, intakeStatus, Int.not_le.mpr hlarge]
  · have hcheck : s.intake.checkText source (some name) = s.intake.checkName name := by
      rw [IntakeLimits.checkText, IntakeLimits.checkSize_of_le (l := s.intake) hsmall, hnonempty]
      rfl
    by_cases hok : s.intake.checkName name = .ok ()
    · have hstatus : (sent (answerSubmission s parser ⟨source, some name⟩)).status ≠ 415 :=
        answerSubmission_status_ne_unsupported (hcheck.trans hok) parser
      simp [hok, hstatus]
    · have herror : s.intake.checkText source (some name)
          = .error (.unsupported name s.allowedSuffixes) := by
        rw [hcheck, IntakeLimits.checkName_of_ne_ok hok]
        rfl
      rw [answerSubmission, herror]
      simp [sent, refusal, intakeStatus, hok, hsmall]

end Service

/-- With the endings taken from a variable of the environment, a name is taken in exactly
if it ends in a piece of the variable that is not blank, and over HTTP just the other names
are answered as unsupported. No ending is empty, and a name that ends in a comma is always
refused; so is every name, if the variable holds blanks and commas only. Endings that are
put together with commas are read back. -/
theorem intake_from_environment (raw : String) (others : List (String × String))
    (base : Settings) (h : Settings.override {} others = .ok base) :
    ∃ s, Settings.override {} (("ALLOWED_SUFFIXES", raw) :: others) = .ok s
      ∧ s = { base with allowedSuffixes := s.allowedSuffixes }
      ∧ (∀ name, s.intake.checkName name = .ok () ↔ EndsInPiece raw name)
      ∧ (∀ parser body source name, Service.Submission.ofBody body = .ok ⟨source, some name⟩ →
          name ≠ "" →
          ((Service.respond s parser ⟨"POST", "/analyze", body⟩).status = 415
            ↔ source.utf8ByteSize ≤ s.maxSourceBytes ∧ ¬EndsInPiece raw name))
      ∧ (∀ ending ∈ s.allowedSuffixes, Text.lower ending ≠ "")
      ∧ (∀ name, [','] <:+ name.toList →
          s.intake.checkName name = .error (.unsupported name s.allowedSuffixes))
      ∧ ((∀ c ∈ raw.toList, Text.isBlank c = true ∨ c = ',') →
          ∀ name, s.intake.checkName name = .error (.unsupported name []))
      ∧ ∀ items, (∀ item ∈ items, item ≠ "" ∧ ',' ∉ item.toList ∧ Text.trim item = item) →
          raw = ",".intercalate items → s.allowedSuffixes = items := by
  refine ⟨_, Settings.override_allowedSuffixes h raw, rfl, ?_, ?_, ?_, ?_, ?_, ?_⟩
  · exact IntakeLimits.checkName_readList rfl
  · intro parser body source name hbody hname
    rw [Service.respond_analyze, Service.answerBody_of_submission hbody,
      Service.answerSubmission_status_eq_unsupported_iff _ _ _ hname, ne_eq,
      IntakeLimits.checkName_readList rfl]
  · intro ending hmem
    exact Text.lower_ne_empty (Setting.item_of_mem_readList hmem).1
  · intro name hcomma
    refine IntakeLimits.checkName_of_ne_ok fun hok => ?_
    obtain ⟨ending, hmem, hsuffix⟩ := IntakeLimits.checkName_eq_ok_iff.mp hok
    obtain ⟨hne, hfree⟩ := Setting.item_of_mem_readList hmem
    exact Text.not_suffix_of_comma hne hfree hcomma hsuffix
  · intro hblank name
    rw [Settings.intake, Setting.readList_eq_nil hblank]
    rfl
  · rintro items hitems rfl
    exact Setting.readList_intercalate hitems

/-- Blanks, doubled commas and capitals in the variable leave two endings. -/
theorem intake_from_environment_untidy :
    ∃ s, Settings.override {} [("ALLOWED_SUFFIXES", " .TSX ,, ,.Mts,"), ("PORT", "9000")] = .ok s
      ∧ s.intake.checkName "lib.mts" = .ok () ∧ s.intake.checkName "lib.ts" ≠ .ok ()
      ∧ ∀ parser, (Service.respond s parser ⟨"POST", "/analyze",
          (Service.Submission.toJson ⟨"let x", some "lib.ts"⟩).render none⟩).status = 415 := by
  have hbase : Settings.override {} [("PORT", "9000")] = .ok { port := 9000 } := by
    decide +kernel
  obtain ⟨s, hs, hsame, hname, hstatus, -⟩ :=
    intake_from_environment " .TSX ,, ,.Mts," _ _ hbase
  have hends (name : String) := IntakeLimits.checkName_readList
    (l := { suffixes := Setting.readList " .TSX ,, ,.Mts," }) rfl name
  have hmts : EndsInPiece " .TSX ,, ,.Mts," "lib.mts" := (hends _).mp (by decide +kernel)
  have hts : ¬EndsInPiece " .TSX ,, ,.Mts," "lib.ts" := by
    intro h
    exact absurd ((hends _).mpr h) (by decide +kernel)
  have hsize : (("let x".utf8ByteSize : Nat) : Int) ≤ 1024 * 1024 := by
    decide +kernel
  refine ⟨s, hs, (hname _).mpr hmts, fun hok => hts ((hname _).mp hok), fun parser => ?_⟩
  exact (hstatus parser _ _ _ (Service.Submission.ofBody_render _ none) (by decide)).mpr
    ⟨by rw [hsame]; exact hsize, hts⟩

end CodeSmell
