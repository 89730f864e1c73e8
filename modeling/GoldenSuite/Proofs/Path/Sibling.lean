import GoldenSuite.Proofs.Path.Segments

set_option autoImplicit false

namespace GoldenSuite.Path

section Stem

theorem splitExtension_fst_ne_nil {name : List Char} (solid : name ≠ []) :
    (splitExtension name).1 ≠ [] := by
  unfold splitExtension
  dsimp only
  split
  next => exact solid
  next stem => simpa using stem

theorem stem_isPrefixOf_name (name : List Char) : (splitExtension name).1 <+: name := by
  unfold splitExtension
  dsimp only
  split
  next => exact List.prefix_rfl
  next => exact List.take_prefix _ _

-- In front of an extension stand a stem and a dot.
theorem length_extension_lt {name extension : List Char}
    (found : (splitExtension name).2 = some extension) : extension.length < name.length := by
  unfold splitExtension at found
  dsimp only at found
  split at found
  next => cases found
  next stem =>
    cases found
    simp only [List.isEmpty_iff, List.take_eq_nil_iff, not_or] at stem
    omega

theorem parts_cutAfterStem {path : Path} {before : List (List Char)} {name : List Char}
    (found : path.lastName? = some (before, name)) :
    path.cutAfterStem.parts = before ++ [(splitExtension name).1] := by
  obtain ⟨named, idle, split, -⟩ := lastName?_eq_some_iff.1 found
  unfold cutAfterStem
  rw [found]
  refine parts_ofChars_joinSegments (by simp) fun segment among => ?_
  have clear : ∀ part ∈ before ++ name :: idle, '/' ∉ part :=
    fun part inside => slash_notMem_parts (split ▸ inside)
  rcases List.mem_append.1 among with front | stem
  next => exact clear segment (List.mem_append_left _ front)
  next =>
    obtain rfl := List.mem_singleton.1 stem
    exact fun slash => clear name (by simp) ((stem_isPrefixOf_name name).subset slash)

end Stem

section Base

def EndsSolid (path : Path) : Prop := ∃ front last, path.parts = front ++ [last] ∧ last ≠ []

theorem endsSolid_cutAfterStem {path : Path} {before : List (List Char)} {name : List Char}
    (found : path.lastName? = some (before, name)) : path.cutAfterStem.EndsSolid := by
  obtain ⟨named, -⟩ := lastName?_eq_some_iff.1 found
  exact ⟨before, _, parts_cutAfterStem found, splitExtension_fst_ne_nil named.1⟩

-- A slash behind which fewer letters stand than in the file name comes after the file name.
theorem name_before_cut {path : Path} {before idle front : List (List Char)}
    {name dropped : List Char} (split : path.parts = before ++ name :: idle)
    (allIdle : ∀ segment ∈ idle, isIdle segment = true) (first : front ≠ [])
    (clear : ∀ segment ∈ front, '/' ∉ segment)
    (cut : path.chars = joinSegments front ++ '/' :: dropped)
    (few : dropped.length < name.length) :
    ∃ more, front = before ++ name :: more ∧ ∀ segment ∈ more, isIdle segment = true := by
  have cutParts : before ++ name :: idle = front ++ (ofChars dropped).parts := by
    rw [← split, parts_append_slash cut, parts_ofChars_joinSegments first clear]
  have tooLong : name ∉ (ofChars dropped).parts := by
    intro inside
    have short := length_le_of_mem_parts inside
    rw [chars_ofChars] at short
    omega
  rcases List.append_eq_append_iff.1 cutParts with ⟨more, rfl, behind⟩ | ⟨more, rfl, behind⟩
  next =>
    cases more with
    | nil =>
      have same : name :: idle = (ofChars dropped).parts := behind
      exact absurd (same ▸ List.mem_cons_self) tooLong
    | cons segment more =>
      obtain ⟨rfl, rfl⟩ := List.cons.inj behind
      exact ⟨more, rfl, fun segment among => allIdle segment (List.mem_append_left _ among)⟩
  next => exact absurd (by simp [behind]) tooLong

-- A path that loses fewer letters than its file name still has that name, or ends inside it.
theorem endsSolid_take {path : Path} {before : List (List Char)} {name : List Char} {count : Nat}
    (found : path.lastName? = some (before, name)) (fewer : count < name.length)
    (nameless : (ofChars (path.chars.take (path.chars.length - count))).lastName? = none) :
    (ofChars (path.chars.take (path.chars.length - count))).EndsSolid := by
  obtain ⟨named, idle, split, allIdle⟩ := lastName?_eq_some_iff.1 found
  generalize cut : ofChars (path.chars.take (path.chars.length - count)) = shorter at nameless ⊢
  have text : shorter.chars ++ path.chars.drop (path.chars.length - count) = path.chars := by
    rw [← cut, chars_ofChars, List.take_append_drop]
  generalize lost : path.chars.drop (path.chars.length - count) = dropped at text
  have few : dropped.length < name.length := by
    rw [← lost, List.length_drop]
    omega
  obtain ⟨front, last, ends⟩ : ∃ front last, shorter.parts = front ++ [last] := by
    rcases List.eq_nil_or_concat shorter.parts with none | ⟨front, last, ends⟩
    next => exact absurd none (parts_ne_nil shorter)
    next => exact ⟨front, last, by simpa using ends⟩
  refine ⟨front, last, ends, ?_⟩
  rintro rfl
  by_cases first : front = []
  next =>
    -- Nothing is left, so the name was lost with the rest.
    subst first
    have none : shorter.chars = [] := by
      rw [← joinSegments_parts, ends]
      rfl
    have inside : name.length ≤ path.chars.length :=
      length_le_of_mem_parts (by simp [split])
    rw [none, List.nil_append] at text
    rw [text] at few
    omega
  next =>
    have clear : ∀ segment ∈ front, '/' ∉ segment :=
      fun segment inside => slash_notMem_parts (ends ▸ List.mem_append_left _ inside)
    have cutText : path.chars = joinSegments front ++ '/' :: dropped := by
      rw [← text, ← joinSegments_parts shorter, ends, joinSegments_append first (by simp)]
      simp [joinSegments]
    obtain ⟨more, rfl, moreIdle⟩ := name_before_cut split allIdle first clear cutText few
    have stillIdle : ∀ segment ∈ more ++ [[]], isIdle segment = true := by
      intro segment among
      rcases List.mem_append.1 among with inside | last
      next => exact moreIdle segment inside
      next => simp [List.mem_singleton.1 last, isIdle]
    have named' := lastName?_eq_some_iff.2 ⟨named, more ++ [[]], by simpa using ends, stillIdle⟩
    rw [named'] at nameless
    cases nameless

theorem base_endsSolid {path : Path} {before : List (List Char)} {name : List Char}
    (found : path.lastName? = some (before, name)) : path.base.EndsSolid := by
  unfold base
  rw [found]
  dsimp only
  split
  next => exact endsSolid_cutAfterStem found
  next extension extends' =>
    have fewer := length_extension_lt extends'
    generalize cut : ofChars (path.chars.take (path.chars.length - extension.length)) = shorter
    rcases found' : shorter.lastName? with _ | ⟨before', name'⟩
    next =>
      have solid := endsSolid_take found fewer (cut ▸ found')
      rw [cut] at solid
      unfold cutAfterStem
      rw [found']
      exact solid
    next => exact endsSolid_cutAfterStem found'

end Base

section Suffix

variable {path : Path} {front : List (List Char)} {last : List Char} {ending : String}

theorem parts_withSuffix (ends : path.parts = front ++ [last]) (clear : '/' ∉ ending.toList) :
    (path.withSuffix ending).parts = front ++ [last ++ ending.toList] := by
  have text : (path.withSuffix ending).chars = joinSegments (front ++ [last ++ ending.toList]) := by
    rw [← joinSegments_append_last, ← ends, joinSegments_parts]
    simp [withSuffix, chars]
  refine parts_of_chars text (by simp) fun segment among => ?_
  have partsClear : ∀ part ∈ front ++ [last], '/' ∉ part :=
    fun part inside => slash_notMem_parts (ends ▸ inside)
  rcases List.mem_append.1 among with inside | longer
  next => exact partsClear segment (List.mem_append_left _ inside)
  next =>
    rw [List.mem_singleton.1 longer, List.mem_append, not_or]
    exact ⟨partsClear last (by simp), clear⟩

-- What is longer than a segment that is not empty is not idle.
theorem isIdle_append (solid : last ≠ []) (letters : ending ≠ "") :
    isIdle (last ++ ending.toList) = false := by
  have more : ending.toList ≠ [] := fun none => letters (String.toList_inj.1 none)
  simp [isIdle, solid, more, List.append_eq_singleton_iff]

-- The file name of a sibling, if it has one, ends in the ending that was put on.
theorem isSuffix_fileName?_withSuffix (solid : path.EndsSolid) (clear : '/' ∉ ending.toList)
    (notEmpty : ending ≠ "") {name : String}
    (named : (path.withSuffix ending).fileName? = some name) : ending.toList <:+ name.toList := by
  obtain ⟨front, last, ends, lastSolid⟩ := solid
  obtain ⟨⟨before, segment⟩, found, rfl⟩ := Option.map_eq_some_iff.1 named
  obtain ⟨-, rfl⟩ :=
    lastName?_of_busy (parts_withSuffix ends clear) (isIdle_append lastSolid notEmpty) found
  simp

theorem exists_fileName?_withSuffix (solid : path.EndsSolid) (clear : '/' ∉ ending.toList)
    (long : 2 ≤ ending.toList.length) : ∃ name, (path.withSuffix ending).fileName? = some name := by
  obtain ⟨front, last, ends, lastSolid⟩ := solid
  have letter := List.length_pos_iff.2 lastSolid
  have tooLong (short : List Char) (few : short.length ≤ 2) : last ++ ending.toList ≠ short := by
    rintro rfl
    rw [List.length_append] at few
    omega
  have named : IsName (last ++ ending.toList) :=
    ⟨tooLong [] (by simp), tooLong ['.'] (by simp), tooLong ['.', '.'] (by simp)⟩
  have found := lastName?_eq_some_iff.2 ⟨named, [], parts_withSuffix ends clear, by simp⟩
  exact ⟨_, congrArg (Option.map _) found⟩

theorem innerComponent?_inj {left right : List Char} (leftSolid : left ≠ [])
    (rightSolid : right ≠ []) (same : innerComponent? left = innerComponent? right) :
    left = right := by
  unfold innerComponent? isIdle at same
  grind [String.ofList_inj]

theorem leadComponent?_inj {left right : List Char} (leftSolid : left ≠ [])
    (rightSolid : right ≠ [])
    (same : (leadComponent? left []).toList = (leadComponent? right []).toList) : left = right := by
  unfold leadComponent? innerComponent? isIdle at same
  grind [String.ofList_inj, Option.toList]

theorem componentsOf_append_inj {left right : List Char} (leftSolid : left ≠ [])
    (rightSolid : right ≠ [])
    (same : componentsOf (front ++ [left]) = componentsOf (front ++ [right])) : left = right := by
  cases front with
  | nil =>
    simp only [List.nil_append, componentsOf, List.filterMap_nil, List.append_nil] at same
    exact leadComponent?_inj leftSolid rightSolid same
  | cons lead front =>
    have sameLead : leadComponent? lead (front ++ [left]) =
        leadComponent? lead (front ++ [right]) := by
      simp [leadComponent?]
    simp only [List.cons_append, componentsOf, sameLead, List.filterMap_append,
      List.append_cancel_left_eq] at same
    exact innerComponent?_inj leftSolid rightSolid (by grind)

theorem components_withSuffix_inj (solid : path.EndsSolid) {other : String}
    (clear : '/' ∉ ending.toList) (otherClear : '/' ∉ other.toList)
    (same : (path.withSuffix ending).components = (path.withSuffix other).components) :
    ending = other := by
  obtain ⟨front, last, ends, notEmpty⟩ := solid
  rw [components_eq, components_eq, parts_withSuffix ends clear,
    parts_withSuffix ends otherClear] at same
  have longer := componentsOf_append_inj (by simp [notEmpty]) (by simp [notEmpty]) same
  exact String.toList_inj.1 (List.append_cancel_left longer)

end Suffix

end GoldenSuite.Path
