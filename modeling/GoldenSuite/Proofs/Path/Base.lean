import GoldenSuite.Proofs.Path.Below
import GoldenSuite.Proofs.Path.Sibling

set_option autoImplicit false

namespace GoldenSuite.Path

section Cutting

def extensionLength (name : List Char) : Nat := ((splitExtension name).2.map List.length).getD 0

theorem extensionLength_lt {name : List Char} (solid : name ≠ []) :
    extensionLength name < name.length := by
  unfold extensionLength
  cases found : (splitExtension name).2 with
  | none => exact List.length_pos_iff.2 solid
  | some extension => exact length_extension_lt found

def cutLetters (path : Path) (name : List Char) : Path :=
  ofChars (path.chars.take (path.chars.length - extensionLength name))

theorem base_eq {path : Path} {before : List (List Char)} {name : List Char}
    (found : path.lastName? = some (before, name)) :
    path.base = (path.cutLetters name).cutAfterStem := by
  unfold base cutLetters extensionLength
  simp only [found]
  cases (splitExtension name).2 with
  | none => simp [ofChars_chars]
  | some extension => simp

theorem base_of_nameless {path : Path} (nameless : path.lastName? = none) : path.base = path := by
  simp [base, nameless]

theorem cutAfterStem_of_nameless {path : Path} (nameless : path.lastName? = none) :
    path.cutAfterStem = path := by
  simp [cutAfterStem, nameless]

theorem chars_cutAfterStem {path : Path} {before : List (List Char)} {name : List Char}
    (found : path.lastName? = some (before, name)) :
    path.cutAfterStem.chars = joinSegments (before ++ [(splitExtension name).1]) := by
  simp [cutAfterStem, found, chars_ofChars]

-- A base path that ends in a name comes from two paths that do so.
theorem exists_lastName?_of_base {path : Path} (named : path.base.lastName? ≠ none) :
    ∃ before name, path.lastName? = some (before, name) ∧
      (path.cutLetters name).lastName? ≠ none := by
  rcases found : path.lastName? with _ | ⟨before, name⟩
  next =>
    rw [base_of_nameless found] at named
    exact absurd found named
  next =>
    refine ⟨before, name, rfl, fun nameless => named ?_⟩
    rw [base_eq found, cutAfterStem_of_nameless nameless, nameless]

theorem isPrefix_cutAfterStem (path : Path) : path.cutAfterStem.chars <+: path.chars := by
  rcases found : path.lastName? with _ | ⟨before, name⟩
  next => simp [cutAfterStem_of_nameless found]
  next =>
    obtain ⟨-, idle, split, -⟩ := lastName?_eq_some_iff.1 found
    obtain ⟨ending, whole⟩ := stem_isPrefixOf_name name
    have upToName : joinSegments (before ++ [(splitExtension name).1]) <+:
        joinSegments (before ++ [name]) :=
      ⟨ending, by rw [joinSegments_append_last, whole]⟩
    have upToEnd : joinSegments (before ++ [name]) <+: path.chars := by
      rw [← joinSegments_parts, split, List.append_cons before name idle]
      by_cases none : idle = []
      next => simp [none]
      next =>
        rw [joinSegments_append (by simp) none]
        exact List.prefix_append _ _
    rw [chars_cutAfterStem found]
    exact upToName.trans upToEnd

theorem isPrefix_base (path : Path) : path.base.chars <+: path.chars := by
  rcases found : path.lastName? with _ | ⟨before, name⟩
  next => simp [base_of_nameless found]
  next =>
    rw [base_eq found]
    refine (isPrefix_cutAfterStem _).trans ?_
    rw [cutLetters, chars_ofChars]
    exact List.take_prefix _ _

theorem chars_ne_nil_of_lastName? {path : Path} (named : path.lastName? ≠ none) :
    path.chars ≠ [] := by
  intro none
  obtain rfl : path = ofChars [] := by rw [← none, ofChars_chars]
  exact named rfl

theorem isAbsolute_base {path : Path} (named : path.base.lastName? ≠ none) :
    path.base.isAbsolute = path.isAbsolute := by
  obtain ⟨ending, whole⟩ := isPrefix_base path
  obtain ⟨c, rest, starts⟩ := List.exists_cons_of_ne_nil (chars_ne_nil_of_lastName? named)
  rw [isAbsolute, isAbsolute, ← whole, starts]
  rfl

end Cutting

section InFront

variable {path longer : Path} {front : List Char}

theorem lastName?_append_slash (text : longer.chars = front ++ '/' :: path.chars)
    {before : List (List Char)} {name : List Char}
    (found : path.lastName? = some (before, name)) :
    longer.lastName? = some ((ofChars front).parts ++ before, name) := by
  obtain ⟨named, idle, split, allIdle⟩ := lastName?_eq_some_iff.1 found
  refine lastName?_eq_some_iff.2 ⟨named, idle, ?_, allIdle⟩
  rw [parts_append_slash text, ofChars_chars, split, List.append_assoc]

theorem cutAfterStem_append_slash (text : longer.chars = front ++ '/' :: path.chars)
    (named : path.lastName? ≠ none) :
    longer.cutAfterStem.chars = front ++ '/' :: path.cutAfterStem.chars := by
  obtain ⟨⟨before, name⟩, found⟩ := Option.ne_none_iff_exists'.1 named
  rw [chars_cutAfterStem found, chars_cutAfterStem (lastName?_append_slash text found),
    List.append_assoc, joinSegments_append (parts_ne_nil _) (by simp), joinSegments_parts,
    chars_ofChars]

theorem base_append_slash (text : longer.chars = front ++ '/' :: path.chars)
    (named : path.base.lastName? ≠ none) :
    longer.base.chars = front ++ '/' :: path.base.chars := by
  obtain ⟨before, name, found, stillNamed⟩ := exists_lastName?_of_base named
  obtain ⟨isName, idle, split, -⟩ := lastName?_eq_some_iff.1 found
  have within : extensionLength name ≤ path.chars.length := by
    have letters := extensionLength_lt isName.1
    have inside : name.length ≤ path.chars.length := length_le_of_mem_parts (by simp [split])
    omega
  have cut : (longer.cutLetters name).chars = front ++ '/' :: (path.cutLetters name).chars := by
    have counted : (front ++ '/' :: path.chars).length - extensionLength name =
        front.length + (path.chars.length - extensionLength name + 1) := by
      simp only [List.length_append, List.length_cons]
      omega
    simp only [cutLetters, chars_ofChars, text]
    rw [counted, List.take_length_add_append, List.take_succ_cons]
  rw [base_eq found, base_eq (lastName?_append_slash text found)]
  exact cutAfterStem_append_slash cut stillNamed

theorem base_join (root : Path) (named : path.base.lastName? ≠ none) :
    (root.join path).base = root.join path.base := by
  have alike := isAbsolute_base named
  cases absolute : path.isAbsolute with
  | true =>
    rw [absolute] at alike
    rw [join_of_isAbsolute absolute, join_of_isAbsolute alike]
  | false =>
    rw [absolute] at alike
    by_cases empty : root.text = ""
    next => rw [join_of_text_eq_empty empty, join_of_text_eq_empty empty]
    next =>
      obtain ⟨front, -, text⟩ := chars_join empty
      apply chars_inj
      rw [text path.base alike, base_append_slash (text path absolute) named]

theorem lastName?_ne_none (named : path.fileName? ≠ none) : path.lastName? ≠ none := by
  simpa [fileName?] using named

theorem base_join_endsSolid (root : Path) (named : path.base.fileName? ≠ none) :
    (root.join path).base.EndsSolid := by
  have stillNamed : (root.join path).base.lastName? ≠ none := by
    obtain ⟨name, found⟩ := Option.ne_none_iff_exists'.1 named
    apply lastName?_ne_none
    rw [base_join root (lastName?_ne_none named), fileName?_join found]
    exact Option.some_ne_none name
  obtain ⟨before, name, found, -⟩ := exists_lastName?_of_base stillNamed
  exact base_endsSolid found

end InFront

section Decoding

variable {left right : Path} {front other : List (List Char)} {ending ending' : String}

def above : List (List Char) → List Component
  | [] => []
  | lead :: inner =>
      (leadComponent? lead (inner ++ [[]])).toList ++ inner.filterMap innerComponent?

-- Whether a segment leads depends on there being more of them, not on what they are.
theorem leadComponent?_append_last (lead : List Char) (inner : List (List Char))
    (last : List Char) :
    leadComponent? lead (inner ++ [last]) = leadComponent? lead (inner ++ [[]]) := by
  simp [leadComponent?]

theorem above_eq_nil_iff : above front = [] ↔ front = [] := by
  cases front with
  | nil => simp [above]
  | cons lead inner =>
    have leads : leadComponent? lead (inner ++ [[]]) ≠ none := fun none => by
      simpa using (eq_nil_of_leadComponent?_eq_none none).2
    simp [above, leads]

theorem componentsOf_append_busy {last : List Char} (busy : isIdle last = false) :
    ∃ component, innerComponent? last = some component ∧
      componentsOf (front ++ [last]) = above front ++ [component] := by
  obtain ⟨component, counts⟩ := exists_innerComponent?_of_busy busy
  refine ⟨component, counts, ?_⟩
  cases front with
  | nil =>
    simp only [isIdle, Bool.or_eq_false_iff, List.isEmpty_eq_false_iff, beq_eq_false_iff_ne]
      at busy
    simp [componentsOf, above, leadComponent?, busy.1, busy.2, counts]
  | cons lead inner =>
    simp [componentsOf, above, leadComponent?_append_last lead inner last, counts]

theorem componentsOf_append_congr (same : above front = above other) (last : List Char) :
    componentsOf (front ++ [last]) = componentsOf (other ++ [last]) := by
  cases front with
  | nil => rw [above_eq_nil_iff.1 same.symm]
  | cons lead inner =>
    cases other with
    | nil => exact absurd (above_eq_nil_iff.1 same) (by simp)
    | cons lead' inner' =>
      have whole (lead : List Char) (inner : List (List Char)) :
          componentsOf (lead :: inner ++ [last]) =
            above (lead :: inner) ++ [last].filterMap innerComponent? := by
        simp [componentsOf, above, leadComponent?_append_last lead inner last]
      rw [whole, whole, same]

theorem components_withSuffix_decode (leftSolid : left.EndsSolid) (rightSolid : right.EndsSolid)
    (clear : '/' ∉ ending.toList) (clear' : '/' ∉ ending'.toList)
    (free : ending.toList <:+ ending'.toList → ending = ending')
    (free' : ending'.toList <:+ ending.toList → ending' = ending)
    (same : (left.withSuffix ending).components = (right.withSuffix ending').components) :
    ending = ending' ∧ left.components = right.components := by
  by_cases bare : ending = "" ∨ ending' = ""
  next =>
    -- An empty ending ends all others, so both are empty and the siblings are the base paths.
    have both : ending = "" ∧ ending' = "" := by
      rcases bare with rfl | rfl
      next => exact ⟨rfl, (free List.nil_suffix).symm⟩
      next => exact ⟨(free' List.nil_suffix).symm, rfl⟩
    obtain ⟨rfl, rfl⟩ := both
    simpa [withSuffix] using same
  next =>
    obtain ⟨letters, letters'⟩ := not_or.1 bare
    obtain ⟨front, last, ends, solid⟩ := leftSolid
    obtain ⟨front', last', ends', solid'⟩ := rightSolid
    rw [components_eq, components_eq, parts_withSuffix ends clear, parts_withSuffix ends' clear']
      at same
    obtain ⟨name, names, whole⟩ := componentsOf_append_busy (isIdle_append solid letters)
    obtain ⟨name', names', whole'⟩ := componentsOf_append_busy (isIdle_append solid' letters')
    rw [whole, whole'] at same
    obtain ⟨sameAbove, sameName⟩ := List.append_inj' same rfl
    have longer : last ++ ending.toList = last' ++ ending'.toList := by
      refine innerComponent?_inj (by simp [solid]) (by simp [solid']) ?_
      rw [names, names', List.singleton_inj.1 sameName]
    have sameEnding : ending = ending' := by
      have inLeft : ending.toList <:+ last ++ ending.toList := List.suffix_append _ _
      have inRight : ending'.toList <:+ last ++ ending.toList := longer ▸ List.suffix_append _ _
      rcases List.suffix_or_suffix_of_suffix inLeft inRight with inside | inside
      next => exact free inside
      next => exact (free' inside).symm
    subst sameEnding
    obtain rfl : last = last' := List.append_cancel_right longer
    refine ⟨rfl, ?_⟩
    rw [components_eq, components_eq, ends, ends']
    exact componentsOf_append_congr sameAbove last

end Decoding

end GoldenSuite.Path
