import ClassPad.Cli.Run
import ClassPad.Proofs.Cli.Files
import ClassPad.Proofs.Diagnostic.Exactness

/-!
What a check of files comes to, and what it prints. The counters and the lines of the loop over the
files are those of the files that it has passed, each with the words of two or more capitals in its
text up to the limit; the first file that cannot be read ends the check, and otherwise the counters
decide. The printed text is those lines, each behind the other, and unless a path has a line feed in
it the lines can be told apart again.
-/

set_option autoImplicit false
set_option relaxedAutoImplicit false

namespace ClassPad.Cli

open Text (loudBounds LoudBetween positionAt length16)

/-! The lines and the problems of a file -/

/-- The number of words of two or more capitals in a text. -/
def loudCount (text : String) : Nat := (loudBounds text.toList).length

def wordReport (verbose : Bool) (path text : String) (b : Nat × Nat) : List CheckLine :=
  .warning path (positionAt text.toList b.1).sent
      (String.ofList (text.toList.extract b.1 b.2) ++ " is all uppercase.") ::
    if verbose then Diagnostic.remarks.map .note else []

/-- The lines for a file: those for its words up to the limit, and if there are none one that says
so where it is asked for. -/
def fileReport (limit : Nat) (verbose : Bool) (path text : String) : List CheckLine :=
  if loudCount text = 0 then if verbose then [.clean path] else []
  else ((loudBounds text.toList).take limit).flatMap (wordReport verbose path text)

def CheckLine.isWarning : CheckLine → Bool
  | .warning _ _ _ => true
  | _ => false

variable {limit : Nat}

private theorem loudCount_eq_zero_iff {text : String} :
    loudCount text = 0 ↔ ∀ i j, ¬LoudBetween text.toList i j := by
  rw [loudCount, List.length_eq_zero_iff, List.eq_nil_iff_forall_not_mem, Prod.forall]
  simp only [Text.mem_loudBounds]

private theorem length_findings (limit : Nat) (verbose : Bool) (path text : String) :
    (findings limit verbose path text).length = min limit (loudCount text) := by
  rw [findings, Document.validate_eq, List.length_map, List.length_take, loudCount]

private theorem isEmpty_findings_iff (hlimit : limit ≠ 0) {verbose : Bool} {path text : String} :
    (findings limit verbose path text).isEmpty = true ↔ loudCount text = 0 := by
  have hlength := length_findings limit verbose path text
  rw [List.isEmpty_iff, ← List.length_eq_zero_iff]
  omega

private theorem findingLines_finding (verbose : Bool) (path text : String) {b : Nat × Nat}
    (hb : b ∈ loudBounds text.toList) :
    findingLines path (Document.finding ⟨fileUri path, text.toList, 0⟩ verbose b) =
      wordReport verbose path text b := by
  have hspan := Document.span_finding ⟨fileUri path, text.toList, 0⟩ verbose hb
  rw [findingLines, hspan, wordReport]
  cases verbose <;> rfl

private theorem fileLines_findings (hlimit : limit ≠ 0) (verbose : Bool) (path text : String) :
    fileLines verbose path (findings limit verbose path text) =
      fileReport limit verbose path text := by
  by_cases hnone : loudCount text = 0
  · rw [fileLines, if_pos ((isEmpty_findings_iff hlimit).mpr hnone), fileReport, if_pos hnone]
  · have hsome : ¬(findings limit verbose path text).isEmpty = true :=
      mt (isEmpty_findings_iff hlimit).mp hnone
    rw [fileLines, if_neg hsome, fileReport, if_neg hnone, findings, Document.validate_eq,
      List.flatMap_map]
    refine List.flatMap_congr fun b hb => ?_
    exact findingLines_finding verbose path text (List.mem_of_mem_take hb)

private theorem countP_wordReport (verbose : Bool) (path text : String) (b : Nat × Nat) :
    (wordReport verbose path text b).countP CheckLine.isWarning = 1 := by
  cases verbose <;> rfl

private theorem countP_fileReport (limit : Nat) (verbose : Bool) (path text : String) :
    (fileReport limit verbose path text).countP CheckLine.isWarning =
      min limit (loudCount text) := by
  rw [fileReport]
  split_ifs with hnone
  · simp [hnone, CheckLine.isWarning]
  · simp [hnone]
  · rw [List.countP_flatMap]
    simp [Function.comp_def, countP_wordReport, loudCount]

/-! The loop over the files -/

variable {read : String → Except IoError String} {textOf : String → String} {verbose : Bool}

/-- The problems in files, up to the limit in each. -/
def problemTotal (limit : Nat) (textOf : String → String) (paths : List String) : Nat :=
  (paths.map fun path => min limit (loudCount (textOf path))).sum

/-- The number of places in a list of files at which a file with problems stands. -/
def failingCount (textOf : String → String) (paths : List String) : Nat :=
  paths.countP fun path => loudCount (textOf path) ≠ 0

def filesReport (limit : Nat) (verbose : Bool) (textOf : String → String) (paths : List String) :
    List CheckLine :=
  paths.flatMap fun path => fileReport limit verbose path (textOf path)

private theorem checkFiles_cons (hlimit : limit ≠ 0) {path text : String}
    (hread : read path = .ok text)
    (total failing : Nat) (lines : List CheckLine) (rest : List String) :
    checkFiles read limit verbose total failing lines (path :: rest) =
      checkFiles read limit verbose (total + min limit (loudCount text))
        (failing + if loudCount text ≠ 0 then 1 else 0)
        ((fileReport limit verbose path text).reverse ++ lines) rest := by
  have hfailing : (if (findings limit verbose path text).isEmpty then failing else failing + 1) =
      failing + if loudCount text ≠ 0 then 1 else 0 := by
    simp only [isEmpty_findings_iff hlimit]
    split_ifs <;> simp_all
  rw [checkFiles, hread]
  simp only [length_findings, fileLines_findings hlimit, hfailing]

/-- Files that can be read add their problems to the counters and their lines to the lines. -/
theorem checkFiles_append (hlimit : limit ≠ 0) {before : List String}
    (hread : ∀ path ∈ before, read path = .ok (textOf path)) (total failing : Nat)
    (lines : List CheckLine) (rest : List String) :
    checkFiles read limit verbose total failing lines (before ++ rest) =
      checkFiles read limit verbose (total + problemTotal limit textOf before)
        (failing + failingCount textOf before)
        ((filesReport limit verbose textOf before).reverse ++ lines) rest := by
  -- the counters and the lines are what one file hands on to the next
  induction before generalizing total failing lines with
  | nil => simp [problemTotal, failingCount, filesReport]
  | cons path before ih =>
    obtain ⟨hpath, hread⟩ := List.forall_mem_cons.mp hread
    rw [List.cons_append, checkFiles_cons hlimit hpath, ih hread]
    simp [problemTotal, failingCount, filesReport, List.countP_cons, Nat.add_assoc, Nat.add_comm]

private theorem checkFiles_of_unreadable (hlimit : limit ≠ 0) {before after : List String}
    {path : String} {e : IoError} (hread : ∀ path ∈ before, read path = .ok (textOf path))
    (herror : read path = .error e) :
    checkFiles read limit verbose 0 0 [] (before ++ path :: after) =
      (filesReport limit verbose textOf before, .error e) := by
  rw [checkFiles_append hlimit hread, checkFiles, herror]
  simp

private theorem checkFiles_of_readable (hlimit : limit ≠ 0) {paths : List String}
    (hread : ∀ path ∈ paths, read path = .ok (textOf path)) :
    checkFiles read limit verbose 0 0 [] paths =
      (filesReport limit verbose textOf paths,
        .ok (problemTotal limit textOf paths, failingCount textOf paths)) := by
  rw [← List.append_nil paths, checkFiles_append hlimit hread, checkFiles]
  simp

/-- Neither the lines so far nor the notes bear on what the loop comes to. -/
theorem snd_checkFiles (verbose' : Bool) (paths : List String) (total failing : Nat)
    (lines lines' : List CheckLine) :
    (checkFiles read limit verbose total failing lines paths).2 =
      (checkFiles read limit verbose' total failing lines' paths).2 := by
  induction paths generalizing total failing lines lines' with
  | nil => rfl
  | cons path rest ih =>
    cases hread : read path with
    | error e => simp only [checkFiles, hread]
    | ok text =>
      -- notes change what a finding says, but not how many there are
      have hlength : (findings limit verbose path text).length =
          (findings limit verbose' path text).length := by
        rw [length_findings, length_findings]
      have hempty : (findings limit verbose path text).isEmpty =
          (findings limit verbose' path text).isEmpty := by
        rw [Bool.eq_iff_iff, List.isEmpty_iff_length_eq_zero, List.isEmpty_iff_length_eq_zero,
          hlength]
      simp only [checkFiles, hread, hlength, hempty]
      exact ih _ _ _ _

/-! The printed text -/

def warningText (colour : Bool) (path : String) (start : Position) (word : List Char) : String :=
  path ++ ":" ++ toString (ordinal start.line) ++ ":" ++ toString (ordinal start.character) ++
    ": " ++ styled colour [.bold, .yellow] "warning" ++ ": " ++
    (String.ofList word ++ " is all uppercase.")

def wordText (colour verbose : Bool) (path text : String) (b : Nat × Nat) : List String :=
  warningText colour path (positionAt text.toList b.1).sent (text.toList.extract b.1 b.2) ::
    if verbose then
      ["Spelling matters", "Particularly for names"].map fun remark =>
        "    " ++ styled colour [.cyan] "note:" ++ " " ++ remark
    else []

def fileText (colour : Bool) (limit : Nat) (verbose : Bool) (path text : String) : List String :=
  if loudCount text = 0 then if verbose then [styled colour [.green] "ok" ++ " " ++ path] else []
  else ((loudBounds text.toList).take limit).flatMap (wordText colour verbose path text)

def filesText (colour : Bool) (limit : Nat) (verbose : Bool) (textOf : String → String)
    (paths : List String) : List String :=
  paths.flatMap fun path => fileText colour limit verbose path (textOf path)

def summaryText (colour : Bool) (files total failing : Nat) : String :=
  if total = 0 then
    styled colour [.bold, .green] ("No problems found in " ++ toString files ++ " file(s)")
  else
    styled colour [.bold, .yellow]
      (toString total ++ " problem(s) found in " ++ toString failing ++ " file(s)")

/-- Lines as they are printed, each with a line feed at its end. -/
def printed (lines : List String) : List Char := lines.flatMap fun l => l.toList ++ ['\n']

variable {colour : Bool}

private theorem toList_renderAll (colour : Bool) (lines : List CheckLine) :
    (CheckLine.renderAll colour lines).toList = printed (lines.map (CheckLine.render colour)) := by
  rw [CheckLine.renderAll, String.toList_join, printed, List.flatMap_map, List.flatMap_map]
  simp only [String.toList_append]
  rfl

private theorem map_render_wordReport (colour verbose : Bool) (path text : String) (b : Nat × Nat) :
    (wordReport verbose path text b).map (CheckLine.render colour) =
      wordText colour verbose path text b := by
  cases verbose <;> rfl

private theorem map_render_fileReport (colour : Bool) (limit : Nat) (verbose : Bool)
    (path text : String) :
    (fileReport limit verbose path text).map (CheckLine.render colour) =
      fileText colour limit verbose path text := by
  rw [fileReport, fileText]
  split_ifs
  · rfl
  · rfl
  · rw [List.map_flatMap]
    simp only [map_render_wordReport]

private theorem map_render_filesReport (colour : Bool) (limit : Nat) (verbose : Bool)
    (textOf : String → String) (paths : List String) :
    (filesReport limit verbose textOf paths).map (CheckLine.render colour) =
      filesText colour limit verbose textOf paths := by
  rw [filesReport, List.map_flatMap, filesText]
  simp only [map_render_fileReport]

private theorem length_filesText (colour : Bool) (limit : Nat) (textOf : String → String)
    (paths : List String) :
    (filesText colour limit false textOf paths).length = problemTotal limit textOf paths := by
  have hfile : ∀ path, (fileText colour limit false path (textOf path)).length =
      min limit (loudCount (textOf path)) := by
    intro path
    rw [fileText]
    split_ifs with hnone
    · simp_all
    · simp [hnone]
    · simp [List.length_flatMap, wordText, loudCount]
  rw [filesText, List.length_flatMap, problemTotal]
  simp only [hfile]

private theorem ordinal_positionAt {text : List Char} (h : length16 text < 4294967295) (i : Nat) :
    ordinal (positionAt text i).sent.line = (positionAt text i).line + 1 ∧
      ordinal (positionAt text i).sent.character = (positionAt text i).character + 1 := by
  have hline := Text.line_positionAt_le text i
  have hcharacter := Text.character_positionAt_le text i
  rw [Text.sent_positionAt (by omega), ordinal, ordinal]
  omega

/-! Lines in the printed text -/

private theorem splitOn_printed {lines : List String} (h : ∀ l ∈ lines, '\n' ∉ l.toList) :
    (printed lines).splitOn '\n' = lines.map String.toList ++ [[]] := by
  have hintercalate : printed lines = ['\n'].intercalate (lines.map String.toList ++ [[]]) := by
    clear h
    induction lines with
    | nil => rfl
    | cons l rest ih =>
      rw [printed, List.flatMap_cons, ← printed, ih]
      cases rest <;> simp [List.intercalate]
  rw [hintercalate]
  refine List.splitOn_intercalate '\n' (fun l hl => ?_) (by simp)
  rcases List.mem_append.mp hl with hline | hlast
  · obtain ⟨line, hmem, rfl⟩ := List.mem_map.mp hline
    exact h line hmem
  · simp [List.mem_singleton.mp hlast]

private theorem feed_not_mem_toDigits (n : Nat) : '\n' ∉ Nat.toDigits 10 n := by
  intro h
  exact absurd (Nat.isDigit_of_mem_toDigits (by decide) (by decide) h) (by decide)

private theorem feed_not_mem_loud {text : List Char} {b : Nat × Nat} (hb : b ∈ loudBounds text) :
    '\n' ∉ text.extract b.1 b.2 := by
  intro h
  obtain ⟨-, -, hcapital⟩ := Text.mem_loudBounds.mp hb
  rw [List.extract_eq_take_drop, List.mem_iff_getElem?] at h
  obtain ⟨k, hk⟩ := h
  rw [List.getElem?_take] at hk
  split_ifs at hk with hlt
  rw [List.getElem?_drop] at hk
  have hfeed := hcapital (b.1 + k) (by omega) (by omega)
  simp [Text.capitalAt, hk, Text.isCapital] at hfeed

private theorem feed_not_mem_filesText {paths : List String}
    (h : ∀ path ∈ paths, '\n' ∉ path.toList)
    (limit : Nat) (verbose : Bool) (textOf : String → String) :
    ∀ l ∈ filesText false limit verbose textOf paths, '\n' ∉ l.toList := by
  intro l hl
  obtain ⟨path, hmem, hl⟩ := List.mem_flatMap.mp hl
  have hpath := h path hmem
  rw [fileText] at hl
  split_ifs at hl with hnone hverbose
  · obtain rfl := List.mem_singleton.mp hl
    simpa [styled] using hpath
  · simp at hl
  · obtain ⟨b, hb, hl⟩ := List.mem_flatMap.mp hl
    have hword := feed_not_mem_loud (List.mem_of_mem_take hb)
    rcases List.mem_cons.mp hl with rfl | hnote
    · simp [warningText, styled, hpath, hword, feed_not_mem_toDigits]
    · split_ifs at hnote
      · simp only [List.map_cons, List.map_nil, List.mem_cons, List.not_mem_nil, or_false] at hnote
        rcases hnote with rfl | rfl <;> decide
      · simp at hnote

private theorem feed_not_mem_summaryText (files total failing : Nat) :
    '\n' ∉ (summaryText false files total failing).toList := by
  rw [summaryText]
  split_ifs <;> simp [styled, feed_not_mem_toDigits]

/-! Outcomes -/

/-- What a check of files that could be read comes to by its counters. -/
def verdict (total failing : Nat) : Option Error :=
  if total = 0 then none else some (.validation (.problems total failing))

def summaryLine (paths : List String) (total failing : Nat) : CheckLine :=
  if total = 0 then .allClear paths.length else .problems total failing

def faultOf : Except IoError (Nat × Nat) → Option Error
  | .error e => some (.io e)
  | .ok (total, failing) => verdict total failing

private theorem snd_check_eq (hlimit : limit ≠ 0) (paths : List String) :
    (check read paths limit verbose).2 =
      faultOf (checkFiles read limit verbose 0 0 [] paths).2 := by
  rw [check, if_neg hlimit]
  rcases checkFiles read limit verbose 0 0 [] paths with ⟨lines, e | ⟨total, failing⟩⟩
  · rfl
  · simp only [faultOf, verdict]
    split_ifs <;> rfl

private theorem snd_check_verbose (read : String → Except IoError String) (paths : List String)
    (limit : Nat) (verbose verbose' : Bool) :
    (check read paths limit verbose).2 = (check read paths limit verbose').2 := by
  by_cases hlimit : limit = 0
  · rw [check, check, if_pos hlimit, if_pos hlimit]
  · rw [snd_check_eq hlimit, snd_check_eq hlimit, snd_checkFiles verbose' paths 0 0 [] []]

private theorem check_of_unreadable (hlimit : limit ≠ 0) {before after : List String}
    {path : String} {e : IoError} (hread : ∀ path ∈ before, read path = .ok (textOf path))
    (herror : read path = .error e) :
    check read (before ++ path :: after) limit verbose =
      (filesReport limit verbose textOf before, some (.io e)) := by
  rw [check, if_neg hlimit, checkFiles_of_unreadable hlimit hread herror]

private theorem check_of_readable (hlimit : limit ≠ 0) {paths : List String}
    (hread : ∀ path ∈ paths, read path = .ok (textOf path)) :
    check read paths limit verbose =
      (filesReport limit verbose textOf paths ++
          [.gap, summaryLine paths (problemTotal limit textOf paths) (failingCount textOf paths)],
        verdict (problemTotal limit textOf paths) (failingCount textOf paths)) := by
  rw [check, if_neg hlimit, checkFiles_of_readable hlimit hread]
  simp only [summaryLine, verdict]
  split_ifs <;> rfl

private theorem render_summaryLine (colour : Bool) (paths : List String) (total failing : Nat) :
    (summaryLine paths total failing).render colour =
      summaryText colour paths.length total failing := by
  rw [summaryLine, summaryText]
  split_ifs <;> rfl

private theorem problemTotal_eq_zero_iff (hlimit : limit ≠ 0) {paths : List String} :
    problemTotal limit textOf paths = 0 ↔
      ∀ path ∈ paths, ∀ i j, ¬LoudBetween (textOf path).toList i j := by
  rw [problemTotal, List.sum_eq_zero_iff_forall_eq_nat, List.forall_mem_map]
  refine forall₂_congr fun path _ => ?_
  rw [← loudCount_eq_zero_iff]
  omega

private theorem countP_filesReport (limit : Nat) (verbose : Bool) (textOf : String → String)
    (paths : List String) :
    (filesReport limit verbose textOf paths).countP CheckLine.isWarning =
      problemTotal limit textOf paths := by
  rw [filesReport, List.countP_flatMap, problemTotal]
  simp only [Function.comp_def, countP_fileReport]

private theorem verdict_perm (limit : Nat) (textOf : String → String) {paths other : List String}
    (h : other.Perm paths) :
    verdict (problemTotal limit textOf other) (failingCount textOf other) =
      verdict (problemTotal limit textOf paths) (failingCount textOf paths) := by
  have htotal : problemTotal limit textOf other = problemTotal limit textOf paths :=
    (h.map _).sum_nat
  have hfailing : failingCount textOf other = failingCount textOf paths := h.countP_eq _
  rw [htotal, hfailing]

end ClassPad.Cli
