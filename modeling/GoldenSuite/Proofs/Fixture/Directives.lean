import GoldenSuite.Fixture.Directives
import GoldenSuite.Proofs.Fixture.Delimiter

set_option autoImplicit false

namespace GoldenSuite

namespace Text

variable {mark : List Char}

theorem notMem_of_blank {c : Char} (ink : mark.all (!isBlank ·) = true)
    (blank : isBlank c = true) : c ∉ mark := by
  intro among
  simp only [List.all_eq_true] at ink
  simpa [blank] using ink c among

theorem infix_append_blanks_iff (solid : mark ≠ []) (ink : mark.all (!isBlank ·) = true)
    {blanks : List Char} (blank : blanks.all isBlank = true) (text : List Char) :
    mark <:+: text ++ blanks ↔ mark <:+: text := by
  induction blanks generalizing text with
  | nil => simp
  | cons b blanks ih =>
    rw [List.all_cons, Bool.and_eq_true] at blank
    have moved : text ++ b :: blanks = text ++ [b] ++ blanks := by simp
    rw [moved, ih blank.2, infix_append_singleton_iff solid (notMem_of_blank ink blank.1)]

def firstLine (text : List Char) : List Char := text.takeWhile (· ≠ '\n')

theorem firstLine_append_of_mem {text : List Char} (feed : '\n' ∈ text) (rest : List Char) :
    firstLine (text ++ rest) = firstLine text := by
  induction text with
  | nil => cases feed
  | cons c text ih =>
    by_cases here : c = '\n'
    next => simp [firstLine, here]
    next =>
      have later := ih (List.mem_of_ne_of_mem (Ne.symm here) feed)
      simpa [firstLine, here] using later

theorem firstLine_append_of_notMem {text : List Char} (bare : '\n' ∉ text) (rest : List Char) :
    firstLine (text ++ rest) = text ++ firstLine rest := by
  apply List.takeWhile_append_of_pos
  intro c among
  have other : c ≠ '\n' := fun same => bare (same ▸ among)
  simpa using other

theorem firstLine_append_feed (text rest : List Char) :
    firstLine (text ++ '\n' :: rest) = firstLine text := by
  by_cases feed : '\n' ∈ text
  next => exact firstLine_append_of_mem feed _
  next =>
    have alone := firstLine_append_of_notMem feed []
    rw [List.append_nil] at alone
    rw [firstLine_append_of_notMem feed, alone]
    rfl

theorem infix_firstLine_trimEnd_iff (solid : mark ≠ []) (ink : mark.all (!isBlank ·) = true)
    (text : List Char) : mark <:+: firstLine (trimEnd text) ↔ mark <:+: firstLine text := by
  obtain ⟨blanks, whole, blank⟩ := exists_trimEnd_append text
  by_cases feed : '\n' ∈ trimEnd text
  next =>
    have kept := firstLine_append_of_mem feed blanks
    rw [← whole] at kept
    rw [kept]
  next =>
    have alone := firstLine_append_of_notMem feed []
    have ended := firstLine_append_of_notMem feed blanks
    have inside : (firstLine blanks).all isBlank = true :=
      List.all_eq_true.2 fun c among =>
        List.all_eq_true.1 blank c ((List.takeWhile_prefix _).subset among)
    rw [← whole] at ended
    rw [List.append_nil] at alone
    rw [alone, ended, infix_append_blanks_iff solid ink inside]
    simp [firstLine]

theorem headD_linesWithEnds (text : List Char) :
    (linesWithEnds text).headD [] = firstLine text ∨
      (linesWithEnds text).headD [] = firstLine text ++ ['\n'] := by
  induction text with
  | nil => exact .inl rfl
  | cons c rest ih =>
    by_cases feed : c = '\n'
    next =>
      subst feed
      exact .inr (by simp [linesWithEnds, firstLine])
    next => simpa [linesWithEnds_cons_of_ne feed, firstLine, feed] using ih

theorem infix_headD_linesWithEnds_iff (solid : mark ≠ []) (apart : '\n' ∉ mark)
    (text : List Char) :
    mark <:+: (linesWithEnds text).headD [] ↔ mark <:+: firstLine text := by
  rcases headD_linesWithEnds text with same | fed
  next => rw [same]
  next => rw [fed, infix_append_singleton_iff solid apart]

def leadLine (text : List Char) : List Char :=
  ((linesWithEnds text).find? fun line => !line.all isBlank).getD []

theorem infix_leadLine_iff (solid : mark ≠ []) (ink : mark.all (!isBlank ·) = true)
    (text : List Char) : mark <:+: leadLine text ↔ mark <:+: firstLine (trimStart text) := by
  have apart : '\n' ∉ mark := notMem_of_blank ink (by decide)
  induction text with
  | nil => rfl
  | cons c rest ih =>
    cases blank : isBlank c with
    | false =>
      have other : c ≠ '\n' := by
        rintro rfl
        simp [isBlank] at blank
      have lead : leadLine (c :: rest) = (linesWithEnds (c :: rest)).headD [] := by
        simp [leadLine, linesWithEnds_cons_of_ne other, blank]
      have kept : trimStart (c :: rest) = c :: rest := by simp [trimStart, blank]
      rw [lead, kept, infix_headD_linesWithEnds_iff solid apart]
    | true =>
      have dropped : trimStart (c :: rest) = trimStart rest := by simp [trimStart, blank]
      rw [dropped]
      refine Iff.trans ?_ ih
      by_cases feed : c = '\n'
      next =>
        subst feed
        simp [leadLine, linesWithEnds, isBlank]
      next =>
        rw [leadLine, leadLine, linesWithEnds_cons_of_ne feed]
        cases lines : linesWithEnds rest with
        | nil => simp [blank]
        | cons line more =>
          cases hollow : line.all isBlank with
          | true => simp [blank, hollow]
          | false =>
            simp [blank, hollow, infix_cons_iff_of_notMem solid (notMem_of_blank ink blank)]

end Text

namespace Directives

def inText (text : List Char) : Directives :=
  let printDebug := Text.occurs "print-debug".toList text
  ⟨printDebug || Text.occurs "nofmt".toList text, printDebug⟩

def plain : Directives := ⟨false, false⟩

def both (first second : Directives) : Directives :=
  ⟨first.skipFormat || second.skipFormat, first.printDebug || second.printDebug⟩

-- Neither of them asks for anything that the other does not.
def Within (few many : Directives) : Prop :=
  (few.skipFormat = true → many.skipFormat = true) ∧
    (few.printDebug = true → many.printDebug = true)

theorem ofSource_eq (source : String) : ofSource source = inText (head source.toList) := rfl

@[simp] theorem inText_nil : inText [] = plain := rfl

@[simp] theorem plain_both (directives : Directives) : both plain directives = directives := rfl

theorem both_eq_left_iff (first second : Directives) :
    both first second = first ↔ Within second first := by
  rcases first with ⟨_ | _, _ | _⟩ <;> rcases second with ⟨_ | _, _ | _⟩ <;>
    simp [both, Within]

-- Directives are words, so only texts without blanks matter for them.
theorem inText_congr {first second : List Char}
    (same : ∀ mark : List Char, mark ≠ [] → mark.all (!Text.isBlank ·) = true →
      (mark <:+: first ↔ mark <:+: second)) : inText first = inText second := by
  have occurs (mark : List Char) (solid : mark ≠ [])
      (ink : mark.all (!Text.isBlank ·) = true) :
      Text.occurs mark first = Text.occurs mark second := by
    rw [Bool.eq_iff_iff, Text.occurs_iff, Text.occurs_iff]
    exact same mark solid ink
  rw [inText, inText, occurs "print-debug".toList (by decide) (by decide),
    occurs "nofmt".toList (by decide) (by decide)]

theorem inText_blank {text : List Char} (blank : text.all Text.isBlank = true) :
    inText text = plain := by
  rw [← inText_nil]
  refine inText_congr fun mark solid ink => ?_
  simpa using Text.infix_append_blanks_iff solid ink blank []

theorem inText_append_feed (first second : List Char) :
    inText (first ++ '\n' :: second) = both (inText (first ++ ['\n'])) (inText second) := by
  have occurs (mark : List Char) (solid : mark ≠ [])
      (ink : mark.all (!Text.isBlank ·) = true) :
      Text.occurs mark (first ++ '\n' :: second) =
        (Text.occurs mark (first ++ ['\n']) || Text.occurs mark second) := by
    have apart : '\n' ∉ mark := Text.notMem_of_blank ink (by decide)
    rw [Bool.eq_iff_iff, Bool.or_eq_true, Text.occurs_iff, Text.occurs_iff, Text.occurs_iff,
      Text.infix_append_cons_iff solid apart, Text.infix_append_singleton_iff solid apart]
  simp only [inText, both, occurs "print-debug".toList (by decide) (by decide),
    occurs "nofmt".toList (by decide) (by decide), Directives.mk.injEq, and_true]
  ac_rfl

theorem head_frame (source : List Char) :
    head (Fixture.frame source) =
      '\n' :: (Text.linesWithEnds (Text.trim source ++ ['\n', '\n'])).headD [] := by
  have lines : Text.linesWithEnds (Fixture.frame source) =
      ['\n'] :: Text.linesWithEnds (Text.trim source ++ ['\n', '\n']) := by
    simp [Fixture.frame, Text.linesWithEnds]
  rw [head, lines, headLines]
  cases Text.linesWithEnds (Text.trim source ++ ['\n', '\n']) <;> simp

theorem inText_head_frame (source : List Char) :
    inText (head (Fixture.frame source)) = inText (Text.leadLine source) := by
  refine inText_congr fun mark solid ink => ?_
  have apart : '\n' ∉ mark := Text.notMem_of_blank ink (by decide)
  rw [head_frame, Text.infix_cons_iff_of_notMem solid apart,
    Text.infix_headD_linesWithEnds_iff solid apart, Text.firstLine_append_feed, Text.trim,
    Text.infix_firstLine_trimEnd_iff solid ink, Text.infix_leadLine_iff solid ink]

def Steady (source : List Char) : Prop :=
  match Text.linesWithEnds source with
  | first :: second :: _ =>
      if first.all Text.isBlank then
        second.all Text.isBlank = true → inText (Text.leadLine source) = plain
      else Within (inText second) (inText first)
  | _ => True

theorem inText_leadLine_eq_iff (source : List Char) :
    inText (Text.leadLine source) = inText (head source) ↔ Steady source := by
  unfold Steady head headLines
  rcases lines : Text.linesWithEnds source with _ | ⟨first, _ | ⟨second, more⟩⟩
  next => simp [Text.leadLine, lines]
  next =>
    cases blank : first.all Text.isBlank with
    | true => simp [Text.leadLine, lines, blank, inText_blank blank]
    | false => simp [Text.leadLine, lines, blank]
  next =>
    obtain ⟨body, -, rfl, -⟩ := Text.exists_first_of_linesWithEnds lines (List.cons_ne_nil _ _)
    have parted : inText ([body ++ ['\n'], second].flatten) =
        both (inText (body ++ ['\n'])) (inText second) := by
      simpa using inText_append_feed body second
    simp only [List.take_succ_cons, List.take_zero, parted]
    cases blank : (body ++ ['\n']).all Text.isBlank with
    | true =>
      rw [inText_blank blank, plain_both]
      cases hollow : second.all Text.isBlank with
      | true => simp [inText_blank hollow]
      | false => simp [Text.leadLine, lines, blank, hollow]
    | false =>
      have lead : Text.leadLine source = body ++ ['\n'] := by simp [Text.leadLine, lines, blank]
      rw [lead, eq_comm, both_eq_left_iff]
      simp

end Directives

namespace Fixture

theorem framed_framed (source : String) : framed (framed source) = framed source := by
  have again : frame (frame source.toList) = frame source.toList := by
    rw [frame, trim_frame, frame]
  rw [framed, framed, String.toList_ofList, again]

/-- A rewritten fixture has the directives on the first line of its source that is not blank. They
are the ones it had before exactly when its source was steady, and no later rewriting changes the
source again. -/
theorem rewritten_directives {text artifact : String} {symbols : Option String}
    {fixture : Fixture} (parsed : parse text = .ok fixture)
    (artifactClear : ¬ HoldsDelimiter artifact)
    (symbolsClear : ∀ listing ∈ symbols, ¬ HoldsDelimiter listing) :
    ∃ again, parse (render fixture.source artifact symbols) = .ok again ∧
      Directives.ofSource again.source =
        Directives.inText (Text.leadLine fixture.source.toList) ∧
      (Directives.ofSource again.source = Directives.ofSource fixture.source ↔
        Directives.Steady fixture.source.toList) ∧
      framed again.source = again.source := by
  have sourceClear := (not_holdsDelimiter_of_parse parsed).1
  have lead : Directives.ofSource (framed fixture.source) =
      Directives.inText (Text.leadLine fixture.source.toList) := by
    rw [Directives.ofSource_eq, framed, String.toList_ofList, Directives.inText_head_frame]
  refine ⟨_, parse_render sourceClear artifactClear symbolsClear, lead, ?_, framed_framed _⟩
  rw [lead, Directives.ofSource_eq, Directives.inText_leadLine_eq_iff]

section Samples

def markedText : String := "\n// print-debug\nint main() {}\n\n========\n\nold\n"

def markedFixture : Fixture := ⟨"\n// print-debug\nint main() {}\n\n", "old\n", none⟩

theorem rewritten_directives_marked :
    parse markedText = .ok markedFixture ∧ ¬ HoldsDelimiter "new\n" ∧
      (∀ listing ∈ some "main T\n", ¬ HoldsDelimiter listing) ∧
      ∃ again, parse (render markedFixture.source "new\n" (some "main T\n")) = .ok again ∧
        Directives.ofSource again.source = ⟨true, true⟩ ∧
        Directives.Steady markedFixture.source.toList := by
  have parsed : parse markedText = .ok markedFixture := by rfl
  have artifactClear : ¬ HoldsDelimiter "new\n" := by decide
  have symbolsClear : ∀ listing ∈ some "main T\n", ¬ HoldsDelimiter listing := by decide
  obtain ⟨again, reparsed, lead, steady, -⟩ :=
    rewritten_directives parsed artifactClear symbolsClear
  exact ⟨parsed, artifactClear, symbolsClear, again, reparsed, lead.trans (by decide),
    steady.1 (lead.trans (by decide))⟩

-- Two blank lines keep the word out of the head, and framing leaves one of them.
def hiddenText : String := "\n\n// nofmt\nint main() {}\n\n========\n\nold\n"

def hiddenFixture : Fixture := ⟨"\n\n// nofmt\nint main() {}\n\n", "old\n", none⟩

theorem rewriting_switches_directives :
    ¬ ∀ (text artifact : String) (symbols : Option String) (fixture again : Fixture),
      parse text = .ok fixture → ¬ HoldsDelimiter artifact →
        (∀ listing ∈ symbols, ¬ HoldsDelimiter listing) →
          parse (render fixture.source artifact symbols) = .ok again →
            Directives.ofSource again.source = Directives.ofSource fixture.source := by
  intro kept
  have parsed : parse hiddenText = .ok hiddenFixture := by rfl
  have artifactClear : ¬ HoldsDelimiter "new\n" := by decide
  have reparsed : parse (render hiddenFixture.source "new\n" none) =
      .ok ⟨"\n// nofmt\nint main() {}\n\n", "new\n", none⟩ := by rfl
  have same := kept hiddenText "new\n" none hiddenFixture _ parsed artifactClear (by simp) reparsed
  exact absurd same (by decide)

end Samples

end Fixture

end GoldenSuite
