import GoldenSuite.Path
import GoldenSuite.Proofs.Text.Pieces

set_option autoImplicit false

namespace GoldenSuite.Path

def parts (path : Path) : List (List Char) := path.chars.splitOn '/'

def componentsOf : List (List Char) → List Component
  | [] => []
  | lead :: inner => (leadComponent? lead inner).toList ++ inner.filterMap innerComponent?

-- A segment that can be the name of a file.
def IsName (segment : List Char) : Prop :=
  segment ≠ [] ∧ segment ≠ ['.'] ∧ segment ≠ ['.', '.']

section Joining

theorem joinSegments_eq (segments : List (List Char)) :
    joinSegments segments = ['/'].intercalate segments := rfl

theorem joinSegments_cons (first : List Char) {rest : List (List Char)} (solid : rest ≠ []) :
    joinSegments (first :: rest) = first ++ '/' :: joinSegments rest := by
  obtain ⟨next, more, rfl⟩ := List.exists_cons_of_ne_nil solid
  simp [joinSegments]

theorem joinSegments_append {front back : List (List Char)} (solid : front ≠ [])
    (more : back ≠ []) :
    joinSegments (front ++ back) = joinSegments front ++ '/' :: joinSegments back := by
  induction front with
  | nil => exact absurd rfl solid
  | cons first rest ih =>
    by_cases last : rest = []
    next =>
      subst last
      simpa [joinSegments] using joinSegments_cons first more
    next =>
      have both : rest ++ back ≠ [] := by simp [last]
      rw [List.cons_append, joinSegments_cons first both, joinSegments_cons first last, ih last]
      simp

theorem joinSegments_append_last (front : List (List Char)) (last ending : List Char) :
    joinSegments (front ++ [last]) ++ ending = joinSegments (front ++ [last ++ ending]) := by
  by_cases none : front = []
  next => simp [none, joinSegments]
  next =>
    rw [joinSegments_append none (by simp), joinSegments_append none (by simp)]
    simp [joinSegments]

theorem length_le_joinSegments {segments : List (List Char)} {segment : List Char}
    (among : segment ∈ segments) : segment.length ≤ (joinSegments segments).length := by
  obtain ⟨before, after, rfl⟩ := List.append_of_mem among
  by_cases first : before = []
  next =>
    subst first
    by_cases last : after = []
    next => simp [last, joinSegments]
    next => simp [joinSegments_cons segment last]
  next =>
    rw [joinSegments_append first (by simp)]
    by_cases last : after = []
    next =>
      simp [last, joinSegments]
      omega
    next =>
      simp [joinSegments_cons segment last]
      omega

end Joining

section Splitting

theorem chars_ofChars (text : List Char) : (ofChars text).chars = text := by
  simp [ofChars, chars]

theorem ofChars_chars (path : Path) : ofChars path.chars = path := by
  simp [ofChars, chars]

theorem chars_inj {left right : Path} (same : left.chars = right.chars) : left = right := by
  rw [← ofChars_chars left, same, ofChars_chars]

theorem piecesFrom_slash (text : List Char) :
    (Text.piecesFrom ['/'] 0 text).1 :: (Text.piecesFrom ['/'] 0 text).2 = text.splitOn '/' := by
  induction text with
  | nil => rfl
  | cons c rest ih =>
    rw [List.splitOn_eq_splitOnP] at ih ⊢
    rw [List.splitOnP_cons_eq_if_modifyHead, ← ih]
    by_cases slash : c = '/'
    next => simp [Text.piecesFrom, slash]
    next => simp [Text.piecesFrom, slash, Ne.symm slash]

theorem segments_cons (path : Path) : path.segments.1 :: path.segments.2 = path.parts :=
  piecesFrom_slash path.chars

theorem parts_ne_nil (path : Path) : path.parts ≠ [] := by
  simp [← segments_cons]

theorem slash_notMem_parts {path : Path} {part : List Char} (among : part ∈ path.parts) :
    '/' ∉ part := by
  rw [← segments_cons] at among
  have solid : ['/'] ≠ [] := by simp
  intro inside
  obtain ⟨before, after, rfl⟩ := List.append_of_mem inside
  exact Text.not_occurs_of_mem_pieces solid among ⟨before, after, by simp⟩

theorem joinSegments_parts (path : Path) : joinSegments path.parts = path.chars := by
  rw [joinSegments_eq, parts, List.intercalate_splitOn]

theorem parts_of_chars {path : Path} {segments : List (List Char)}
    (text : path.chars = joinSegments segments) (solid : segments ≠ [])
    (clear : ∀ segment ∈ segments, '/' ∉ segment) : path.parts = segments := by
  rw [parts, text, joinSegments_eq, List.splitOn_intercalate '/' clear solid]

theorem parts_ofChars_joinSegments {segments : List (List Char)} (solid : segments ≠ [])
    (clear : ∀ segment ∈ segments, '/' ∉ segment) :
    (ofChars (joinSegments segments)).parts = segments :=
  parts_of_chars (chars_ofChars _) solid clear

theorem parts_append_slash {path : Path} {front back : List Char}
    (text : path.chars = front ++ '/' :: back) :
    path.parts = (ofChars front).parts ++ (ofChars back).parts := by
  simp only [parts, text, chars_ofChars, List.splitOn_eq_splitOnP]
  exact List.splitOnP_append_cons front back (by simp)

theorem length_le_of_mem_parts {path : Path} {part : List Char} (among : part ∈ path.parts) :
    part.length ≤ path.chars.length := by
  rw [← joinSegments_parts]
  exact length_le_joinSegments among

end Splitting

section Naming

theorem innerComponent?_of_isName {segment : List Char} (named : IsName segment) :
    innerComponent? segment = some (.name (String.ofList segment)) := by
  obtain ⟨solid, notHere, notParent⟩ := named
  simp [innerComponent?, isIdle, solid, notHere, notParent]

theorem innerComponent?_of_isIdle {segment : List Char} (idle : isIdle segment = true) :
    innerComponent? segment = none := by
  simp [innerComponent?, idle]

theorem isName_of_innerComponent? {segment : List Char} {name : String}
    (named : innerComponent? segment = some (.name name)) :
    IsName segment ∧ name = String.ofList segment := by
  unfold innerComponent? at named
  split at named
  next => cases named
  next busy =>
    split at named
    next => cases named
    next notParent =>
      cases named
      simp only [isIdle, Bool.or_eq_true, List.isEmpty_iff, beq_iff_eq, not_or] at busy
      exact ⟨⟨busy.1, busy.2, notParent⟩, rfl⟩

theorem exists_innerComponent?_of_busy {segment : List Char} (busy : isIdle segment = false) :
    ∃ component, innerComponent? segment = some component := by
  simp only [innerComponent?, busy, Bool.false_eq_true, if_false]
  split <;> exact ⟨_, rfl⟩

-- The segments behind the last one that counts.
theorem exists_dropIdleEnd_append (segments : List (List Char)) :
    ∃ idle, segments = dropIdleEnd segments ++ idle ∧ ∀ segment ∈ idle, isIdle segment = true := by
  refine ⟨(segments.reverse.takeWhile isIdle).reverse, ?_, ?_⟩
  next =>
    rw [dropIdleEnd, ← List.reverse_append, List.takeWhile_append_dropWhile, List.reverse_reverse]
  next =>
    have all : (segments.reverse.takeWhile isIdle).all isIdle = true := List.all_takeWhile
    intro segment among
    exact List.all_eq_true.1 all segment (List.mem_reverse.1 among)

theorem dropIdleEnd_append_idle (segments : List (List Char)) {idle : List (List Char)}
    (allIdle : ∀ segment ∈ idle, isIdle segment = true) :
    dropIdleEnd (segments ++ idle) = dropIdleEnd segments := by
  unfold dropIdleEnd
  rw [List.reverse_append, List.dropWhile_append_of_pos (by simpa using allIdle)]

theorem dropIdleEnd_append_busy (segments : List (List Char)) {last : List Char}
    (busy : isIdle last = false) : dropIdleEnd (segments ++ [last]) = segments ++ [last] := by
  simp [dropIdleEnd, busy]

theorem filterMap_innerComponent?_idle {idle : List (List Char)}
    (allIdle : ∀ segment ∈ idle, isIdle segment = true) :
    idle.filterMap innerComponent? = [] := by
  rw [List.filterMap_eq_nil_iff]
  exact fun segment among => innerComponent?_of_isIdle (allIdle segment among)

theorem components_eq (path : Path) : path.components = componentsOf path.parts := by
  rw [← segments_cons]
  rfl

-- Behind a first segment that is not empty it does not matter what follows.
theorem leadComponent?_of_ne_nil {lead : List Char} (solid : lead ≠ [])
    (inner : List (List Char)) : leadComponent? lead inner = leadComponent? lead [] := by
  simp [leadComponent?, solid]

theorem leadComponent?_of_isName {lead : List Char} (named : IsName lead)
    (inner : List (List Char)) :
    leadComponent? lead inner = some (.name (String.ofList lead)) := by
  rw [leadComponent?_of_ne_nil named.1]
  simp [leadComponent?, named.1, named.2.1, innerComponent?_of_isName named]

theorem isName_of_leadComponent? {lead : List Char} {inner : List (List Char)} {name : String}
    (named : leadComponent? lead inner = some (.name name)) :
    IsName lead ∧ name = String.ofList lead := by
  unfold leadComponent? at named
  split at named
  next => split at named <;> cases named
  next =>
    split at named
    next => cases named
    next => exact isName_of_innerComponent? named

theorem isIdle_of_isName {segment : List Char} (named : IsName segment) :
    isIdle segment = false := by
  simp [isIdle, named.1, named.2.1]

theorem isIdle_last {segments kept : List (List Char)} {last : List Char}
    (ends : dropIdleEnd segments = kept ++ [last]) : isIdle last = false := by
  have turned : segments.reverse.dropWhile isIdle = last :: kept.reverse := by
    rw [← List.reverse_inj, ← dropIdleEnd, ends]
    simp
  have head := List.head?_dropWhile_not isIdle segments.reverse
  simpa [turned] using head

theorem lastName?_eq_some_iff {path : Path} {before : List (List Char)} {name : List Char} :
    path.lastName? = some (before, name) ↔
      IsName name ∧ ∃ idle, path.parts = before ++ name :: idle ∧
        ∀ segment ∈ idle, isIdle segment = true := by
  have whole := segments_cons path
  unfold lastName?
  generalize path.segments = segments at whole ⊢
  obtain ⟨lead, inner⟩ := segments
  dsimp only at whole ⊢
  rw [← whole]
  constructor
  next =>
    intro found
    obtain ⟨idle, split, allIdle⟩ := exists_dropIdleEnd_append inner
    rcases List.eq_nil_or_concat (dropIdleEnd inner) with none | ⟨kept, last, ends⟩
    next =>
      simp only [none, List.reverse_nil] at found
      split at found
      next => cases found
      next named =>
        cases found
        simp only [Bool.or_eq_true, List.isEmpty_iff, decide_eq_true_eq, not_or] at named
        rw [none, List.nil_append] at split
        exact ⟨⟨named.1.1, named.1.2, named.2⟩, inner, rfl, split ▸ allIdle⟩
    next =>
      rw [List.concat_eq_append] at ends
      simp only [ends, List.reverse_append, List.reverse_cons, List.reverse_nil, List.nil_append,
        List.singleton_append] at found
      split at found
      next => cases found
      next notParent =>
        cases found
        have busy := isIdle_last ends
        simp only [isIdle, Bool.or_eq_false_iff, List.isEmpty_eq_false_iff, beq_eq_false_iff_ne]
          at busy
        rw [ends] at split
        exact ⟨⟨busy.1, busy.2, notParent⟩, idle, by simp [split], allIdle⟩
  next =>
    rintro ⟨named, idle, split, allIdle⟩
    have busy := isIdle_of_isName named
    cases before with
    | nil =>
      obtain ⟨rfl, rfl⟩ := List.cons.inj split
      have none : dropIdleEnd inner = [] := dropIdleEnd_append_idle [] allIdle
      simp [none, named.1, named.2.1, named.2.2]
    | cons first before =>
      obtain ⟨rfl, rfl⟩ := List.cons.inj split
      have ends : dropIdleEnd (before ++ name :: idle) = before ++ [name] := by
        rw [List.append_cons, dropIdleEnd_append_idle _ allIdle, dropIdleEnd_append_busy _ busy]
      simp [ends, named.2.2]

-- Behind a segment that counts there is nothing, so it is the file name if there is one.
theorem lastName?_of_busy {path : Path} {front before : List (List Char)} {last name : List Char}
    (ends : path.parts = front ++ [last]) (busy : isIdle last = false)
    (found : path.lastName? = some (before, name)) : before = front ∧ name = last := by
  obtain ⟨-, idle, split, allIdle⟩ := lastName?_eq_some_iff.1 found
  rw [ends] at split
  rcases List.eq_nil_or_concat idle with rfl | ⟨others, final, rfl⟩
  next =>
    obtain ⟨sameFront, sameLast⟩ := List.append_inj' split rfl
    exact ⟨sameFront.symm, (List.singleton_inj.1 sameLast).symm⟩
  next =>
    rw [List.concat_eq_append, ← List.cons_append, ← List.append_assoc] at split
    obtain ⟨-, same⟩ := List.append_inj' split rfl
    have idle := allIdle final (by simp)
    rw [← List.singleton_inj.1 same, busy] at idle
    cases idle

def Component.name? : Component → Option String
  | .name text => some text
  | _ => none

theorem componentsOf_append_name {before idle : List (List Char)} {name : List Char}
    (named : IsName name) (allIdle : ∀ segment ∈ idle, isIdle segment = true) :
    ∃ above, componentsOf (before ++ name :: idle) = above ++ [.name (String.ofList name)] := by
  cases before with
  | nil =>
    refine ⟨[], ?_⟩
    simp [componentsOf, leadComponent?_of_isName named, filterMap_innerComponent?_idle allIdle]
  | cons lead before =>
    refine ⟨(leadComponent? lead (before ++ name :: idle)).toList ++
      before.filterMap innerComponent?, ?_⟩
    simp [componentsOf, innerComponent?_of_isName named, filterMap_innerComponent?_idle allIdle]

theorem exists_of_getLast?_componentsOf {segments : List (List Char)} {name : String}
    (last : (componentsOf segments).getLast? = some (.name name)) :
    ∃ before segment idle, segments = before ++ segment :: idle ∧ IsName segment ∧
      (∀ other ∈ idle, isIdle other = true) ∧ name = String.ofList segment := by
  cases segments with
  | nil => cases last
  | cons lead inner =>
    obtain ⟨idle, split, allIdle⟩ := exists_dropIdleEnd_append inner
    rcases List.eq_nil_or_concat (dropIdleEnd inner) with none | ⟨kept, busy, ends⟩
    next =>
      rw [none, List.nil_append] at split
      subst split
      simp only [componentsOf, filterMap_innerComponent?_idle allIdle, List.append_nil] at last
      have leads : leadComponent? lead inner = some (.name name) := by
        cases found : leadComponent? lead inner <;> simp_all
      obtain ⟨named, text⟩ := isName_of_leadComponent? leads
      exact ⟨[], lead, inner, rfl, named, allIdle, text⟩
    next =>
      rw [List.concat_eq_append] at ends
      have notIdle := isIdle_last ends
      rw [ends] at split
      obtain ⟨component, leads⟩ := exists_innerComponent?_of_busy notIdle
      simp only [componentsOf, split, List.filterMap_append, List.filterMap_cons, leads,
        filterMap_innerComponent?_idle allIdle, List.filterMap_nil, List.append_nil,
        ← List.append_assoc, List.getLast?_append, List.getLast?_singleton, Option.some_or,
        Option.some.injEq] at last
      subst last
      obtain ⟨named, text⟩ := isName_of_innerComponent? leads
      exact ⟨lead :: kept, busy, idle, by simp [split], named, allIdle, text⟩

theorem fileName?_eq (path : Path) :
    path.fileName? = path.components.getLast?.bind Component.name? := by
  rw [components_eq, fileName?]
  rcases found : path.lastName? with _ | ⟨before, name⟩
  next =>
    symm
    rw [Option.map_none, Option.bind_eq_none_iff]
    intro component last
    cases component with
    | root | here | parent => rfl
    | name text =>
      obtain ⟨before, name, idle, split, named, allIdle, -⟩ :=
        exists_of_getLast?_componentsOf last
      rw [lastName?_eq_some_iff.2 ⟨named, idle, split, allIdle⟩] at found
      cases found
  next =>
    obtain ⟨named, idle, split, allIdle⟩ := lastName?_eq_some_iff.1 found
    obtain ⟨above, components⟩ : ∃ above, componentsOf (before ++ name :: idle) = above ++ _ :=
      componentsOf_append_name named allIdle
    simp [split, components, Component.name?]

end Naming

end GoldenSuite.Path
