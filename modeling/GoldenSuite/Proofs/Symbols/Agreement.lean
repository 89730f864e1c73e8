import GoldenSuite.Proofs.Diff.Unified
import GoldenSuite.Proofs.Symbols
import GoldenSuite.Proofs.Text.Lines

set_option autoImplicit false

namespace GoldenSuite

namespace Text

theorem trimEnd_dropLineEnd (line : List Char) : trimEnd (dropLineEnd line) = trimEnd line := by
  have blankFeed : isBlank '\n' = true := by decide
  have blankReturn : isBlank '\r' = true := by decide
  unfold dropLineEnd
  split
  next body turned =>
    obtain rfl : line = body.reverse ++ ['\r'] ++ ['\n'] := by
      simpa using congrArg List.reverse turned
    rw [trimEnd_append_of_blank blankFeed, trimEnd_append_of_blank blankReturn]
  next body _ turned =>
    obtain rfl : line = body.reverse ++ ['\n'] := by simpa using congrArg List.reverse turned
    rw [trimEnd_append_of_blank blankFeed]
  next => rfl

def withReturns (text : List Char) : List Char :=
  text.flatMap fun c => if c = '\n' then ['\r', '\n'] else [c]

theorem withReturns_of_bare {body : List Char} (bare : '\n' ∉ body) : withReturns body = body := by
  induction body with
  | nil => rfl
  | cons c body ih =>
    rw [List.mem_cons, not_or] at bare
    rw [withReturns, List.flatMap_cons, if_neg (Ne.symm bare.1)]
    exact congrArg (c :: ·) (ih bare.2)

theorem withReturns_append_feed {body : List Char} (bare : '\n' ∉ body) (rest : List Char) :
    withReturns (body ++ '\n' :: rest) = body ++ ['\r'] ++ '\n' :: withReturns rest := by
  have front := withReturns_of_bare bare
  simp only [withReturns] at front
  simp [withReturns, front]

end Text

namespace Symbols

/-- The lines of a listing that have something on them, without the blanks behind it. -/
def counted (listing : String) : List (List Char) := Text.solidLines Text.trimEnd listing.toList

theorem entries_eq (listing : String) : entries listing = (counted listing).map String.ofList := by
  have lines : (Text.lines listing.toList).map Text.trimEnd =
      (Text.linesWithEnds listing.toList).map Text.trimEnd := by
    rw [Text.lines, List.map_map]
    exact List.map_congr_left fun line _ => Text.trimEnd_dropLineEnd line
  have ended (line : List Char) : Text.trimEnd (line ++ ['\n']) = Text.trimEnd line :=
    Text.trimEnd_append_of_blank (by decide) line
  rw [entries, lines, counted, Text.solidLines_eq_linesWithEnds Text.trimEnd_nil ended]

theorem compare_eq_agree_iff_counted (expected actual : String) :
    compare expected actual = .agree ↔ counted expected = counted actual := by
  rw [compare_eq_agree_iff, entries_eq, entries_eq]
  exact List.map_inj_right fun _ _ same => String.ofList_inj.1 same

theorem compare_eq_differ_of_ne {expected actual : String}
    (different : counted expected ≠ counted actual) :
    ∃ diff, compare expected actual = .differ diff := by
  have notAgree := mt (compare_eq_agree_iff_counted expected actual).1 different
  cases found : compare expected actual with
  | agree => exact absurd found notAgree
  | differ diff => exact ⟨diff, rfl⟩

theorem eq_of_compare_eq_differ {expected actual diff : String}
    (differs : compare expected actual = .differ diff) :
    diff = Diff.unified ((counted expected).map String.ofList)
      ((counted actual).map String.ofList) "expected.sym" "actual.sym" := by
  unfold compare at differs
  rw [entries_eq, entries_eq] at differs
  dsimp only at differs
  split at differs
  next => cases differs
  next => exact (Comparison.differ.inj differs).symm

section Blanks

variable (text : List Char) {blanks : List Char}

theorem solidLines_append_blanks (blank : blanks.all Text.isBlank = true) :
    Text.solidLines Text.trimEnd (text ++ blanks) = Text.solidLines Text.trimEnd text :=
  Text.solidLines_append_blanks Text.trimEnd_nil
    (fun line _ blank => Text.trimEnd_append_of_blank blank line) text blank

theorem solidLines_blanks (blank : blanks.all Text.isBlank = true) :
    Text.solidLines Text.trimEnd blanks = [] := by
  rw [← List.nil_append blanks, solidLines_append_blanks [] blank]
  exact Text.solidLines_nil Text.trimEnd_nil

theorem solidLines_withReturns :
    Text.solidLines Text.trimEnd (Text.withReturns text) = Text.solidLines Text.trimEnd text := by
  induction text using Text.linesInduction with
  | single body bare => rw [Text.withReturns_of_bare bare]
  | line body rest bare ih =>
    rw [Text.withReturns_append_feed bare, Text.solidLines_append_feed, Text.solidLines_append_feed,
      ih, solidLines_append_blanks body (by decide)]

/-- Changes of a listing in blanks that do not count. -/
inductive BlankEdit : String → String → Prop
  -- Where the blanks hold line feeds themselves, these are blank lines.
  | atLineEnd (before blanks after : String) (blank : Text.allBlank blanks = true) :
      BlankEdit (before ++ "\n" ++ after) (before ++ blanks ++ "\n" ++ after)
  | lineInFront (blanks listing : String) (blank : Text.allBlank blanks = true) :
      BlankEdit listing (blanks ++ "\n" ++ listing)
  -- The last line feed is such a blank.
  | atEnd (listing blanks : String) (blank : Text.allBlank blanks = true) :
      BlankEdit listing (listing ++ blanks)
  | returns (listing : String) :
      BlankEdit listing (String.ofList (Text.withReturns listing.toList))

theorem toList_line_append (line rest : String) :
    (line ++ "\n" ++ rest).toList = line.toList ++ '\n' :: rest.toList := by
  simp

theorem BlankEdit.counted_eq {expected actual : String} (edit : BlankEdit expected actual) :
    counted expected = counted actual := by
  cases edit with
  | atLineEnd before blanks after blank =>
    rw [counted, counted, toList_line_append, toList_line_append, Text.solidLines_append_feed,
      Text.solidLines_append_feed, String.toList_append, solidLines_append_blanks _ blank]
  | lineInFront blanks listing blank =>
    rw [counted, counted, toList_line_append, Text.solidLines_append_feed,
      solidLines_blanks blank, List.nil_append]
  | atEnd listing blanks blank =>
    rw [counted, counted, String.toList_append, solidLines_append_blanks _ blank]
  | returns listing => rw [counted, counted, String.toList_ofList, solidLines_withReturns]

end Blanks

section Sequences

structure IsEntry (line : String) : Prop where
  solid : line ≠ ""
  bare : '\n' ∉ line.toList
  ended : Text.trimEnd line.toList = line.toList

instance (line : String) : Decidable (IsEntry line) :=
  decidable_of_iff
    (line ≠ "" ∧ '\n' ∉ line.toList ∧ Text.trimEnd line.toList = line.toList)
    ⟨fun ⟨solid, bare, ended⟩ => ⟨solid, bare, ended⟩,
      fun ⟨solid, bare, ended⟩ => ⟨solid, bare, ended⟩⟩

def listing (lines : List String) : String := String.join (lines.map (· ++ "\n"))

theorem listing_cons (line : String) (lines : List String) :
    listing (line :: lines) = line ++ "\n" ++ listing lines := by
  simp [listing]

theorem counted_listing {lines : List String} (entries : ∀ line ∈ lines, IsEntry line) :
    counted (listing lines) = lines.map String.toList := by
  induction lines with
  | nil => exact Text.solidLines_nil Text.trimEnd_nil
  | cons line lines ih =>
    obtain ⟨⟨solid, bare, ended⟩, others⟩ := List.forall_mem_cons.1 entries
    have rest : Text.solidLines Text.trimEnd (listing lines).toList = lines.map String.toList :=
      ih others
    have kept : line.toList ≠ [] := by simpa using solid
    rw [counted, listing_cons, toList_line_append, Text.solidLines_append_feed,
      Text.solidLines_of_bare bare, ended, rest]
    simp [kept]

theorem compare_listing_iff {first second : List String} (entries : ∀ line ∈ first, IsEntry line)
    (others : ∀ line ∈ second, IsEntry line) :
    compare (listing first) (listing second) = .agree ↔ first = second := by
  rw [compare_eq_agree_iff_counted, counted_listing entries, counted_listing others]
  exact List.map_inj_right fun _ _ same => String.toList_inj.1 same

end Sequences

theorem compare_equivalence : Equivalence fun expected actual => compare expected actual = .agree where
  refl listing := (compare_eq_agree_iff_counted listing listing).2 rfl
  symm agreed :=
    (compare_eq_agree_iff_counted _ _).2 ((compare_eq_agree_iff_counted _ _).1 agreed).symm
  trans first second := (compare_eq_agree_iff_counted _ _).2
    (((compare_eq_agree_iff_counted _ _).1 first).trans
      ((compare_eq_agree_iff_counted _ _).1 second))

theorem stored_agrees {source artifact raw : String} (sourceClear : ¬ Fixture.HoldsDelimiter source)
    (artifactClear : ¬ Fixture.HoldsDelimiter artifact)
    (clear : ¬ Fixture.HoldsDelimiter (filter raw)) :
    ∃ again stored, Fixture.parse (Fixture.render source artifact (some (filter raw))) = .ok again ∧
      again.symbols = some stored ∧ compare stored (filter raw) = .agree := by
  have listingClear : ∀ listing ∈ some (filter raw), ¬ Fixture.HoldsDelimiter listing := by
    simpa using clear
  have read := Fixture.parse_render sourceClear artifactClear listingClear
  refine ⟨_, filter raw, read, ?_, compare_equivalence.refl _⟩
  simp [leftTrimmed_filter]

/-- Comparing decides whether two listings have the same lines on which something stands, blanks at
their ends aside: it is an equivalence that passes over blank lines, blanks at the ends of lines,
carriage returns and the last line feed, and over no entry, its place or how often it is there.
A filtered listing outlives being stored. -/
theorem compare_decides :
    (∀ expected actual, compare expected actual = .agree ↔ counted expected = counted actual) ∧
      (Equivalence fun expected actual => compare expected actual = .agree) ∧
      (∀ expected actual, BlankEdit expected actual → compare expected actual = .agree) ∧
      (∀ first second, (∀ line ∈ first, IsEntry line) → (∀ line ∈ second, IsEntry line) →
        (compare (listing first) (listing second) = .agree ↔ first = second)) ∧
      ∀ source artifact raw, ¬ Fixture.HoldsDelimiter source → ¬ Fixture.HoldsDelimiter artifact →
        ¬ Fixture.HoldsDelimiter (filter raw) →
          ∃ again stored,
            Fixture.parse (Fixture.render source artifact (some (filter raw))) = .ok again ∧
              again.symbols = some stored ∧ compare stored (filter raw) = .agree := by
  refine ⟨compare_eq_agree_iff_counted, compare_equivalence, ?_, ?_, ?_⟩
  next =>
    intro expected actual edit
    exact (compare_eq_agree_iff_counted _ _).2 edit.counted_eq
  next => exact fun first second entries others => compare_listing_iff entries others
  next => exact fun source artifact raw => stored_agrees

section Samples

def sampleLines : List String := ["main T", "puts U"]

def sampleRaw : String := "main T 0 1f\n\n  puts U\r\n.rodata r 8\n"

-- Blanks behind the first entry, a carriage return and a blank line change nothing; turning the
-- entries round or saying one twice does.
theorem compare_decides_sample :
    BlankEdit "main T\nputs U\n" "main T \r\n\t\nputs U\n" ∧
      compare "main T\nputs U\n" "main T \r\n\t\nputs U\n" = .agree ∧
      (∀ line ∈ sampleLines, IsEntry line) ∧
      compare (listing sampleLines) (listing sampleLines.reverse) ≠ .agree ∧
      compare (listing sampleLines) (listing ("main T" :: sampleLines)) ≠ .agree ∧
      ¬ Fixture.HoldsDelimiter (filter sampleRaw) ∧
      ∃ again stored,
        Fixture.parse (Fixture.render "int main() {}" "ret\n" (some (filter sampleRaw))) =
            .ok again ∧
          again.symbols = some stored ∧ compare stored (filter sampleRaw) = .agree := by
  obtain ⟨-, -, passes, decides, stored⟩ := compare_decides
  have edit : BlankEdit "main T\nputs U\n" "main T \r\n\t\nputs U\n" :=
    .atLineEnd "main T" " \r\n\t" "puts U\n" (by decide)
  have entries : ∀ line ∈ sampleLines, IsEntry line := by decide
  have turned : ∀ line ∈ sampleLines.reverse, IsEntry line := by decide
  have twice : ∀ line ∈ "main T" :: sampleLines, IsEntry line := by decide
  have clear : ¬ Fixture.HoldsDelimiter (filter sampleRaw) := by decide
  exact ⟨edit, passes _ _ edit, entries, mt (decides _ _ entries turned).1 (by decide),
    mt (decides _ _ entries twice).1 (by decide), clear,
    stored _ _ _ (by decide) (by decide) clear⟩

end Samples

end Symbols

end GoldenSuite
