import GoldenSuite.Proofs.Diff.Hunk
import GoldenSuite.Proofs.Diff.Unified
import GoldenSuite.Proofs.Text.Pieces

set_option autoImplicit false

namespace GoldenSuite.Diff

structure Patch where
  labels : Option (String × String)
  parts : List (Part String)
  deriving DecidableEq, Repr

section Reader

def expect (mark text : List Char) : Option (List Char) :=
  if mark <+: text then some (text.drop mark.length) else none

-- A number at the front of a text, and what is behind it.
def readNumber (text : List Char) : Option (Nat × List Char) :=
  let digits := text.takeWhile Char.isDigit
  if digits = [] then none
  else some (Nat.ofDigitChars 10 digits 0, text.dropWhile Char.isDigit)

/-- The slice that a header names: by its first line, or by the line before it if it is empty. -/
def namedSlice : Nat → Nat → Option Slice
  | start, 0 => some ⟨start, 0⟩
  | 0, _ + 1 => none
  | start + 1, count + 1 => some ⟨start, count + 1⟩

def readSlice (text : List Char) : Option (Slice × List Char) := do
  let (start, rest) ← readNumber text
  match rest with
  | ',' :: counted =>
      let (count, rest) ← readNumber counted
      let slice ← namedSlice start count
      some (slice, rest)
  | rest =>
      let slice ← namedSlice start 1
      some (slice, rest)

def readHeader (line : List Char) : Option (Slice × Slice) := do
  let rest ← expect ['@', '@', ' ', '-'] line
  let (oldSlice, rest) ← readSlice rest
  let rest ← expect [' ', '+'] rest
  let (newSlice, rest) ← readSlice rest
  let rest ← expect [' ', '@', '@'] rest
  if rest = [] then some (oldSlice, newSlice) else none

def readEdit : List Char → Option (Edit String)
  | ' ' :: line => some (.keep (String.ofList line))
  | '-' :: line => some (.delete (String.ofList line))
  | '+' :: line => some (.insert (String.ofList line))
  | _ => none

def readHunks : Nat → Nat → List String → Option (List (Edit String) × List (Part String))
  | 0, 0, [] => some ([], [])
  | 0, 0, line :: lines => do
      let (oldSlice, newSlice) ← readHeader line.toList
      let (edits, parts) ← readHunks oldSlice.length newSlice.length lines
      some ([], ⟨oldSlice, newSlice, edits⟩ :: parts)
  | _, _, [] => none
  | oldLeft, newLeft, line :: lines => do
      let edit ← readEdit line.toList
      if edit.old.length ≤ oldLeft ∧ edit.new.length ≤ newLeft then
        let (edits, parts) ←
          readHunks (oldLeft - edit.old.length) (newLeft - edit.new.length) lines
        some (edit :: edits, parts)
      else none

-- The lines of a text in which each has its line feed.
def readLines (text : String) : Option (List String) :=
  let pieces := Text.pieces ['\n'] text.toList
  if pieces.getLast? = some [] then some (pieces.dropLast.map String.ofList) else none

def readLabel (mark line : String) : Option String :=
  (expect mark.toList line.toList).map String.ofList

def readPatch (text : String) : Option Patch := do
  match ← readLines text with
  | [] => some ⟨none, []⟩
  | [_] => none
  | oldLine :: newLine :: lines =>
      let oldLabel ← readLabel "--- " oldLine
      let newLabel ← readLabel "+++ " newLine
      let (_, parts) ← readHunks 0 0 lines
      some ⟨some (oldLabel, newLabel), parts⟩

end Reader

section Header

theorem expect_append (mark rest : List Char) : expect mark (mark ++ rest) = some rest := by
  simp [expect]

theorem readLabel_append (mark label : String) : readLabel mark (mark ++ label) = some label := by
  rw [readLabel, String.toList_append, expect_append, Option.map_some, String.ofList_toList]

theorem readNumber_append (number : Nat) {rest : List Char}
    (apart : ∀ c ∈ rest.head?, c.isDigit = false) :
    readNumber ((toString number).toList ++ rest) = some (number, rest) := by
  let digits := Nat.toDigits 10 number
  have written : (toString number).toList = digits := by
    rw [Nat.toString_eq_repr, Nat.toList_repr]
  have allDigits : ∀ c ∈ digits, c.isDigit = true := fun c among =>
    Nat.isDigit_of_mem_toDigits (by omega) (by omega) among
  have stops : rest.takeWhile Char.isDigit = [] ∧ rest.dropWhile Char.isDigit = rest := by
    cases rest with
    | nil => exact ⟨rfl, rfl⟩
    | cons c rest => simp [apart c rfl]
  have taken : (digits ++ rest).takeWhile Char.isDigit = digits := by
    rw [List.takeWhile_append_of_pos allDigits, stops.1, List.append_nil]
  have dropped : (digits ++ rest).dropWhile Char.isDigit = rest := by
    rw [List.dropWhile_append_of_pos allDigits, stops.2]
  have solid : digits ≠ [] := Nat.toDigits_ne_nil
  simp only [readNumber, written, taken, dropped, solid, if_false, digits,
    Nat.ofDigitChars_ten_toDigits]

theorem readSlice_append (slice : Slice) (rest : List Char) :
    readSlice ((sliceText slice.start slice.length).toList ++ ' ' :: rest) =
      some (slice, ' ' :: rest) := by
  obtain ⟨start, length⟩ := slice
  have counted (first count : Nat) :
      readSlice ((toString first).toList ++ (',' :: ((toString count).toList ++ ' ' :: rest))) =
        (namedSlice first count).map (·, ' ' :: rest) := by
    have firstRead : readNumber
        ((toString first).toList ++ (',' :: ((toString count).toList ++ ' ' :: rest))) =
          some (first, ',' :: ((toString count).toList ++ ' ' :: rest)) :=
      readNumber_append first (by simp)
    have countRead : readNumber ((toString count).toList ++ ' ' :: rest) =
        some (count, ' ' :: rest) :=
      readNumber_append count (by simp)
    simp only [readSlice, firstRead, countRead, Option.bind_eq_bind, Option.bind_some]
    cases namedSlice first count <;> rfl
  have single (first : Nat) : readSlice ((toString first).toList ++ ' ' :: rest) =
      (namedSlice first 1).map (·, ' ' :: rest) := by
    have firstRead : readNumber ((toString first).toList ++ ' ' :: rest) =
        some (first, ' ' :: rest) :=
      readNumber_append first (by simp)
    simp only [readSlice, firstRead, Option.bind_eq_bind, Option.bind_some]
    cases namedSlice first 1 <;> rfl
  match length with
  | 0 => simpa [sliceText, toString, namedSlice] using counted start 0
  | 1 => simpa [sliceText, toString, namedSlice] using single (start + 1)
  | count + 2 => simpa [sliceText, toString, namedSlice] using counted (start + 1) (count + 2)

theorem readHeader_header (hunk : Hunk String) :
    readHeader hunk.header.toList = some (hunk.part.oldSlice, hunk.part.newSlice) := by
  let oldText := (sliceText hunk.oldStart hunk.old.length).toList
  let newText := (sliceText hunk.newStart hunk.new.length).toList
  have written : hunk.header.toList =
      ['@', '@', ' ', '-'] ++ (oldText ++ ([' ', '+'] ++ (newText ++ ([' ', '@', '@'] ++ [])))) := by
    simp [Hunk.header, toString, oldText, newText]
  have oldRead : readSlice (oldText ++ ([' ', '+'] ++ (newText ++ ([' ', '@', '@'] ++ [])))) =
      some (hunk.part.oldSlice, [' ', '+'] ++ (newText ++ ([' ', '@', '@'] ++ []))) :=
    readSlice_append hunk.part.oldSlice _
  have newRead : readSlice (newText ++ ([' ', '@', '@'] ++ [])) =
      some (hunk.part.newSlice, [' ', '@', '@'] ++ []) :=
    readSlice_append hunk.part.newSlice _
  simp only [readHeader, written, expect_append, oldRead, newRead, Option.bind_eq_bind,
    Option.bind_some, if_true]

end Header

-- The line of a hunk that stands for an edit.
def Edit.text : Edit String → String
  | keep line => " " ++ line
  | delete line => "-" ++ line
  | insert line => "+" ++ line

theorem Hunk.texts_eq (hunk : Hunk String) :
    hunk.texts = hunk.header :: hunk.edits.map Edit.text := by
  have run (run : Run String) : run.texts = run.edits.map Edit.text := by
    cases run <;> simp [Run.texts, Run.edits, Edit.text, Function.comp_def]
  simp [Hunk.texts, Hunk.edits, List.map_flatMap, run]

theorem readEdit_text (edit : Edit String) : readEdit edit.text.toList = some edit := by
  cases edit <;> simp [Edit.text, readEdit]

-- The counts run out exactly at the end of the edits that they count.
theorem readHunks_append (edits : List (Edit String)) (lines : List String) :
    readHunks (edits.flatMap Edit.old).length (edits.flatMap Edit.new).length
        (edits.map Edit.text ++ lines) =
      (readHunks 0 0 lines).map fun found => (edits ++ found.1, found.2) := by
  induction edits with
  | nil => simp
  | cons edit edits ih =>
    have unfinished : (edit.old ++ edits.flatMap Edit.old).length = 0 →
        (edit.new ++ edits.flatMap Edit.new).length = 0 → False := by
      cases edit <;> simp [Edit.old, Edit.new]
    simp only [List.flatMap_cons, List.map_cons, List.cons_append]
    rw [readHunks.eq_4 _ _ _ _ unfinished]
    simp only [readEdit_text, List.length_append, Nat.add_sub_cancel_left, Nat.le_add_right,
      and_self, if_true, Option.bind_eq_bind, Option.bind_some, ih]
    cases readHunks 0 0 lines <;> rfl

theorem readHunks_hunks (hunks : List (Hunk String)) :
    readHunks 0 0 (hunks.flatMap Hunk.texts) = some ([], hunks.map Hunk.part) := by
  induction hunks with
  | nil => rfl
  | cons hunk hunks ih =>
    have counted : readHunks hunk.old.length hunk.new.length
        (hunk.edits.map Edit.text ++ hunks.flatMap Hunk.texts) =
          some (hunk.edits, hunks.map Hunk.part) := by
      rw [← Hunk.old_part, ← Hunk.new_part]
      refine (readHunks_append hunk.edits _).trans ?_
      simp [ih]
    simp only [List.flatMap_cons, Hunk.texts_eq, List.cons_append, readHunks, readHeader_header,
      Hunk.oldSlice_part, Hunk.newSlice_part, counted, Option.bind_eq_bind, Option.bind_some]
    rfl

section Lines

-- A line that can stand in a text whose lines end with a line feed.
def IsLine (line : String) : Prop := '\n' ∉ line.toList

instance (line : String) : Decidable (IsLine line) :=
  inferInstanceAs (Decidable ('\n' ∉ line.toList))

theorem isLine_append {first second : String} :
    IsLine (first ++ second) ↔ IsLine first ∧ IsLine second := by
  simp [IsLine]

theorem pieces_flatMap {lines : List String} (isLine : ∀ line ∈ lines, IsLine line) :
    Text.pieces ['\n'] (lines.flatMap fun line => line.toList ++ ['\n']) =
      lines.map String.toList ++ [[]] := by
  induction lines with
  | nil => rfl
  | cons line lines ih =>
    obtain ⟨here, others⟩ := List.forall_mem_cons.1 isLine
    have apart : Text.EndsApart ['\n'] line.toList := by
      intro c last feed
      obtain rfl := List.mem_singleton.1 feed
      exact here (List.mem_of_getLast? last)
    have whole : ¬ ['\n'] <:+: line.toList := fun inside =>
      here (inside.subset List.mem_cons_self)
    rw [List.flatMap_cons, List.append_assoc, Text.pieces_append_mark (by simp) apart, ih others,
      Text.pieces_eq_singleton whole]
    rfl

theorem readLines_join {lines : List String} (isLine : ∀ line ∈ lines, IsLine line) :
    readLines (String.join (lines.map (· ++ "\n"))) = some lines := by
  have written : (String.join (lines.map (· ++ "\n"))).toList =
      lines.flatMap fun line => line.toList ++ ['\n'] := by
    simp [List.flatMap_map]
  simp [readLines, written, pieces_flatMap isLine, Function.comp_def]

theorem isLine_toString (number : Nat) : IsLine (toString number) := by
  intro feed
  rw [Nat.toString_eq_repr, Nat.toList_repr] at feed
  exact absurd (Nat.isDigit_of_mem_toDigits (by omega) (by omega) feed) (by decide)

theorem isLine_sliceText (start length : Nat) : IsLine (sliceText start length) := by
  unfold sliceText
  split
  next => exact isLine_append.2 ⟨isLine_toString start, by decide⟩
  next => exact isLine_toString (start + 1)
  next =>
    exact isLine_append.2 ⟨isLine_append.2 ⟨isLine_toString (start + 1), by decide⟩,
      isLine_toString length⟩

theorem isLine_header (hunk : Hunk String) : IsLine hunk.header := by
  unfold Hunk.header
  have oldSlice := isLine_sliceText hunk.oldStart hunk.old.length
  have newSlice := isLine_sliceText hunk.newStart hunk.new.length
  have marks : IsLine "@@ -" ∧ IsLine " +" ∧ IsLine " @@" := by decide
  simp [toString, isLine_append, oldSlice, newSlice, marks]

theorem isLine_text {edit : Edit String} (old : ∀ line ∈ edit.old, IsLine line)
    (new : ∀ line ∈ edit.new, IsLine line) : IsLine edit.text := by
  cases edit with
  | keep line => exact isLine_append.2 ⟨by decide, old line (by simp [Edit.old])⟩
  | delete line => exact isLine_append.2 ⟨by decide, old line (by simp [Edit.old])⟩
  | insert line => exact isLine_append.2 ⟨by decide, new line (by simp [Edit.new])⟩

-- A hunk shows nothing but lines of the two lists.
theorem isLine_of_mem_texts {hunks : List (Hunk String)} {old new : List String}
    (rewrites : Rewrites 0 0 0 (hunks.map Hunk.part) old new)
    (oldLines : ∀ line ∈ old, IsLine line) (newLines : ∀ line ∈ new, IsLine line) :
    ∀ line ∈ hunks.flatMap Hunk.texts, IsLine line := by
  intro line inside
  obtain ⟨hunk, among, inside⟩ := List.mem_flatMap.1 inside
  rw [Hunk.texts_eq] at inside
  obtain rfl | inside := List.mem_cons.1 inside
  next => exact isLine_header hunk
  next =>
    obtain ⟨edit, member, rfl⟩ := List.mem_map.1 inside
    have part := List.mem_map_of_mem (f := Hunk.part) among
    refine isLine_text (fun line here => ?_) (fun line here => ?_)
    next =>
      have shown := rewrites.showsOld.old_subset part
      exact oldLines line (shown (List.mem_flatMap_of_mem member here))
    next =>
      have shown := rewrites.showsNew.new_subset part
      exact newLines line (shown (List.mem_flatMap_of_mem member here))

end Lines

theorem script_rewrites (context : Nat) (old new : List String) :
    Rewrites 0 0 0 ((hunks context (script old new)).map Hunk.part) old new := by
  obtain ⟨runsOld, runsNew⟩ := flatMap_sides_script old new
  have rewrites := hunks_rewrites context (script old new)
  rwa [runsOld, runsNew] at rewrites

variable {old new : List String} {oldLabel newLabel : String}

theorem readPatch_unified (oldLines : ∀ line ∈ old, IsLine line)
    (newLines : ∀ line ∈ new, IsLine line) (oldName : IsLine oldLabel) (newName : IsLine newLabel) :
    readPatch (unified old new oldLabel newLabel) =
      some ⟨if old = new then none else some (oldLabel, newLabel),
        (hunks contextLines (script old new)).map Hunk.part⟩ := by
  have noHunks := (hunks_eq_nil_iff contextLines (script old new)).trans
    (all_isSame_script_iff old new)
  have texts := isLine_of_mem_texts (script_rewrites contextLines old new) oldLines newLines
  cases found : hunks contextLines (script old new) with
  | nil =>
    have same := noHunks.1 found
    have nothing : unified old new oldLabel newLabel = "" := by
      simp [unified, unifiedLines, found]
    rw [nothing, if_pos same]
    rfl
  | cons hunk hunks =>
    have different : old ≠ new := fun same => by simp [noHunks.2 same] at found
    have written : unifiedLines old new oldLabel newLabel =
        ("--- " ++ oldLabel) :: ("+++ " ++ newLabel) :: (hunk :: hunks).flatMap Hunk.texts := by
      rw [unifiedLines, found]
    have isLine : ∀ line ∈ unifiedLines old new oldLabel newLabel, IsLine line := by
      rw [written, List.forall_mem_cons, List.forall_mem_cons, ← found]
      exact ⟨isLine_append.2 ⟨by decide, oldName⟩, isLine_append.2 ⟨by decide, newName⟩, texts⟩
    rw [if_neg different, readPatch, unified, readLines_join isLine, written]
    simp only [readLabel_append, readHunks_hunks, Option.bind_eq_bind, Option.bind_some]

/-- A unified diff is a patch between its two lists: reading it back gives slices of either list
that lie one behind the other, with what is there; the lines of the other side in their place give
the other list. Only the diff of equal lists has no text. -/
theorem readPatch_unified_replaces (oldLines : ∀ line ∈ old, IsLine line)
    (newLines : ∀ line ∈ new, IsLine line) (oldName : IsLine oldLabel) (newName : IsLine newLabel) :
    ∃ patch, readPatch (unified old new oldLabel newLabel) = some patch ∧
      patch.labels = (if old = new then none else some (oldLabel, newLabel)) ∧
      ShowsOld patch.parts old ∧ ShowsNew patch.parts new ∧
      replace patch.parts old = new ∧ replace (patch.parts.map Part.reverse) new = old ∧
      (unified old new oldLabel newLabel = "" ↔ old = new) := by
  have rewrites := script_rewrites contextLines old new
  have empty := isEmpty_unified_iff old new oldLabel newLabel
  rw [String.isEmpty_iff] at empty
  exact ⟨_, readPatch_unified oldLines newLines oldName newName, rfl, rewrites.showsOld,
    rewrites.showsNew, rewrites.replaceFrom_eq, rewrites.reverse.replaceFrom_eq, empty⟩

section Samples

def sampleOld : List String := ["a", "b", "c", "d", "e", "f", "g", "h", "i", "j"]

def sampleNew : List String := ["b", "c", "d", "e", "f", "g", "h", "i", "k", "j"]

-- Two hunks with a gap between them; the first one changes the slices' offsets for the second.
theorem sample_replaced :
    ∃ patch, readPatch (unified sampleOld sampleNew "expected" "actual") = some patch ∧
      replace patch.parts sampleOld = sampleNew := by
  have oldLines : ∀ line ∈ sampleOld, IsLine line := by decide
  have newLines : ∀ line ∈ sampleNew, IsLine line := by decide
  have oldName : IsLine "expected" := by decide
  have newName : IsLine "actual" := by decide
  obtain ⟨patch, read, -, -, -, replaced, -⟩ :=
    readPatch_unified_replaces oldLines newLines oldName newName
  exact ⟨patch, read, replaced⟩

end Samples

end GoldenSuite.Diff
