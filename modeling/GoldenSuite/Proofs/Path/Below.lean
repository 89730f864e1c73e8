import GoldenSuite.Proofs.Path.Segments

set_option autoImplicit false

namespace GoldenSuite.Path

-- What the segments of a path name where they do not come first.
def innerComponents (path : Path) : List Component := path.parts.filterMap innerComponent?

section Join

theorem join_of_isAbsolute {path : Path} (absolute : path.isAbsolute = true) (base : Path) :
    base.join path = path := by
  simp [join, absolute]

theorem join_of_text_eq_empty {base : Path} (empty : base.text = "") (path : Path) :
    base.join path = path := by
  simp [join, empty]

-- In front of whatever comes below a base stand the base and a slash, if it does not end in one.
theorem chars_join {base : Path} (solid : base.text ≠ "") :
    ∃ front, (base.chars = front ++ ['/'] ∨ base.chars = front) ∧
      ∀ path : Path, path.isAbsolute = false →
        (base.join path).chars = front ++ '/' :: path.chars := by
  by_cases slash : base.chars.getLast? = some '/'
  next =>
    obtain ⟨front, ends⟩ := List.getLast?_eq_some_iff.1 slash
    refine ⟨front, .inl ends, fun path relative => ?_⟩
    have joined : base.join path = ⟨base.text ++ path.text⟩ := by simp [join, relative, slash]
    have text : (base.join path).chars = base.chars ++ path.chars := by simp [joined, chars]
    simp [text, ends]
  next =>
    refine ⟨base.chars, .inr rfl, fun path relative => ?_⟩
    have joined : base.join path = ⟨base.text ++ "/" ++ path.text⟩ := by
      simp [join, relative, slash, solid]
    simp [joined, chars]

theorem components_join {base path : Path} (relative : path.isAbsolute = false)
    (solid : base.text ≠ "") :
    (base.join path).components = base.components ++ path.innerComponents := by
  have empty : (ofChars []).parts = [[]] := by rfl
  rw [components_eq, components_eq, innerComponents]
  obtain ⟨front, ends | rfl, joined⟩ := chars_join solid <;> have text := joined path relative
  next =>
    rw [parts_append_slash ends, parts_append_slash text, empty, ofChars_chars]
    obtain ⟨lead, inner, split⟩ := List.exists_cons_of_ne_nil (parts_ne_nil (ofChars front))
    obtain ⟨first, more, split'⟩ := List.exists_cons_of_ne_nil (parts_ne_nil path)
    simp [split, split', componentsOf, leadComponent?, innerComponent?, isIdle]
  next =>
    rw [parts_append_slash text, ofChars_chars, ofChars_chars]
    obtain ⟨lead, inner, split⟩ := List.exists_cons_of_ne_nil (parts_ne_nil base)
    obtain ⟨first, more, split'⟩ := List.exists_cons_of_ne_nil (parts_ne_nil path)
    have sameLead : leadComponent? lead (inner ++ path.parts) = leadComponent? lead inner := by
      by_cases none : lead = []
      next =>
        -- The base is not empty, so something follows its first slash.
        have follows : inner ≠ [] := by
          rintro rfl
          have nothing : base.chars = [] := by
            rw [← joinSegments_parts, split, none]
            rfl
          exact solid (String.toList_inj.1 nothing)
        simp [leadComponent?, none, follows]
      next =>
        rw [leadComponent?_of_ne_nil none, leadComponent?_of_ne_nil none inner]
    simp [split, componentsOf, sameLead]

-- A name at the end is one wherever the path comes.
theorem getLast?_innerComponents {path : Path} {name : String}
    (last : path.components.getLast? = some (.name name)) :
    path.innerComponents.getLast? = some (.name name) := by
  rw [components_eq] at last
  obtain ⟨before, segment, idle, split, named, allIdle, rfl⟩ :=
    exists_of_getLast?_componentsOf last
  simp [innerComponents, split, innerComponent?_of_isName named,
    filterMap_innerComponent?_idle allIdle]

theorem fileName?_join {base path : Path} {name : String} (named : path.fileName? = some name) :
    (base.join path).fileName? = some name := by
  cases absolute : path.isAbsolute with
  | true => rw [join_of_isAbsolute absolute, named]
  | false =>
    by_cases empty : base.text = ""
    next => rw [join_of_text_eq_empty empty, named]
    next =>
      rw [fileName?_eq] at named ⊢
      obtain ⟨component, last, isNamed⟩ := Option.bind_eq_some_iff.1 named
      cases component with
      | root | here | parent => cases isNamed
      | name text =>
        cases isNamed
        rw [components_join absolute empty, List.getLast?_append, getLast?_innerComponents last]
        rfl

end Join

section Below

theorem filterMap_dropIdleEnd (segments : List (List Char)) :
    (dropIdleEnd segments).filterMap innerComponent? = segments.filterMap innerComponent? := by
  obtain ⟨idle, split, allIdle⟩ := exists_dropIdleEnd_append segments
  have whole := congrArg (List.filterMap innerComponent?) split
  rw [List.filterMap_append, filterMap_innerComponent?_idle allIdle, List.append_nil] at whole
  exact whole.symm

theorem filterMap_dropWhile_isIdle (segments : List (List Char)) :
    (segments.dropWhile isIdle).filterMap innerComponent? =
      segments.filterMap innerComponent? := by
  induction segments with
  | nil => rfl
  | cons segment rest ih =>
    by_cases idle : isIdle segment = true
    next => simp [idle, ih, innerComponent?_of_isIdle idle]
    next => simp [idle]

theorem filterMap_passComponents (count : Nat) (segments : List (List Char)) :
    (passComponents count segments).filterMap innerComponent? =
      (segments.filterMap innerComponent?).drop count := by
  induction segments generalizing count with
  | nil => cases count <;> simp [passComponents]
  | cons segment rest ih =>
    cases count with
    | zero => simp [passComponents]
    | succ count =>
      by_cases idle : isIdle segment = true
      next => simp [passComponents, idle, ih, innerComponent?_of_isIdle idle]
      next =>
        obtain ⟨component, counts⟩ :=
          exists_innerComponent?_of_busy (Bool.not_eq_true _ ▸ idle)
        simp [passComponents, idle, ih, counts]

theorem passComponents_sublist (count : Nat) (segments : List (List Char)) :
    (passComponents count segments).Sublist segments := by
  induction segments generalizing count with
  | nil => cases count <;> simp [passComponents]
  | cons segment rest ih =>
    cases count with
    | zero => simp [passComponents]
    | succ count =>
      simp only [passComponents]
      split
      next => exact (ih _).cons _
      next => exact (ih _).cons _

theorem dropIdleEnd_sublist (segments : List (List Char)) :
    (dropIdleEnd segments).Sublist segments := by
  obtain ⟨idle, split, -⟩ := exists_dropIdleEnd_append segments
  have front : (dropIdleEnd segments).Sublist (dropIdleEnd segments ++ idle) :=
    List.sublist_append_left _ _
  rwa [← split] at front

theorem eq_nil_of_leadComponent?_eq_none {lead : List Char} {inner : List (List Char)}
    (none : leadComponent? lead inner = none) : lead = [] ∧ inner = [] := by
  unfold leadComponent? innerComponent? isIdle at none
  grind

theorem text_eq_empty_of_components {path : Path} (none : path.components = []) :
    path.text = "" := by
  obtain ⟨lead, inner, split⟩ := List.exists_cons_of_ne_nil (parts_ne_nil path)
  rw [components_eq, split, componentsOf, List.append_eq_nil_iff] at none
  obtain ⟨rfl, rfl⟩ :=
    eq_nil_of_leadComponent?_eq_none (Option.toList_eq_nil_iff.1 none.1)
  have nothing : path.chars = [] := by
    rw [← joinSegments_parts, split]
    rfl
  exact String.toList_inj.1 nothing

-- Only the root keeps a slash at its end.
theorem trimmed_eq {lead : List Char} {inner : List (List Char)}
    (notRoot : ¬ (lead = [] ∧ inner ≠ [] ∧ dropIdleEnd inner = [])) :
    trimmed lead inner = ofChars (joinSegments (lead :: dropIdleEnd inner)) := by
  unfold trimmed
  split
  next none => exact absurd ⟨rfl, by simp, none⟩ notRoot
  next => rfl

theorem components_trimmed (path : Path) :
    (trimmed path.segments.1 path.segments.2).components = path.components := by
  have whole := segments_cons path
  generalize path.segments = segments at whole ⊢
  obtain ⟨lead, inner⟩ := segments
  dsimp only at whole ⊢
  rw [components_eq path, ← whole]
  have kept := filterMap_dropIdleEnd inner
  by_cases root : lead = [] ∧ inner ≠ [] ∧ dropIdleEnd inner = []
  next =>
    obtain ⟨rfl, follows, none⟩ := root
    obtain ⟨first, more, rfl⟩ := List.exists_cons_of_ne_nil follows
    rw [none] at kept
    simp only [trimmed, none, componentsOf, ← kept]
    rfl
  next =>
    have clear : ∀ segment ∈ lead :: dropIdleEnd inner, '/' ∉ segment := by
      intro segment among
      have sub := (dropIdleEnd_sublist inner).cons_cons lead
      exact slash_notMem_parts (whole ▸ sub.subset among)
    have sameLead : leadComponent? lead (dropIdleEnd inner) = leadComponent? lead inner := by
      by_cases empty : lead = []
      next =>
        by_cases alone : inner = []
        next => rw [alone]; rfl
        next => simp_all [leadComponent?]
      next => rw [leadComponent?_of_ne_nil empty, leadComponent?_of_ne_nil empty inner]
    rw [trimmed_eq root, components_eq, parts_ofChars_joinSegments (by simp) clear, componentsOf,
      componentsOf, sameLead, kept]

-- The first segment that counts is not empty.
theorem isAbsolute_joinSegments {first : List Char} {more : List (List Char)} (solid : first ≠ [])
    (clear : '/' ∉ first) : (ofChars (joinSegments (first :: more))).isAbsolute = false := by
  obtain ⟨c, rest, rfl⟩ := List.exists_cons_of_ne_nil solid
  have letter : c ≠ '/' := fun same => clear (same ▸ List.mem_cons_self)
  have text : (joinSegments ((c :: rest) :: more)).head? = some c := by
    cases more with
    | nil => simp [joinSegments]
    | cons next more => simp [joinSegments]
  simp [isAbsolute, chars_ofChars, text, letter]

-- What is left of segments once so many components are passed over, as a path of its own.
theorem innerComponents_rest {segments : List (List Char)}
    (clear : ∀ segment ∈ segments, '/' ∉ segment) (count : Nat) :
    let kept := dropIdleEnd ((passComponents count segments).dropWhile isIdle)
    (ofChars (joinSegments kept)).isAbsolute = false ∧
      (ofChars (joinSegments kept)).innerComponents =
        (segments.filterMap innerComponent?).drop count := by
  intro kept
  have counts : kept.filterMap innerComponent? =
      (segments.filterMap innerComponent?).drop count := by
    rw [filterMap_dropIdleEnd, filterMap_dropWhile_isIdle, filterMap_passComponents]
  have sub : kept.Sublist segments :=
    ((dropIdleEnd_sublist _).trans (List.dropWhile_sublist _)).trans
      (passComponents_sublist count segments)
  cases start : kept with
  | nil =>
    rw [start] at counts
    exact ⟨rfl, counts⟩
  | cons first more =>
    have keptClear : ∀ segment ∈ first :: more, '/' ∉ segment :=
      fun segment among => clear segment (sub.subset (start ▸ among))
    have solid : first ≠ [] := by
      obtain ⟨idle, split, -⟩ :=
        exists_dropIdleEnd_append ((passComponents count segments).dropWhile isIdle)
      have head := List.head?_dropWhile_not isIdle (passComponents count segments)
      rw [split, show dropIdleEnd _ = first :: more from start] at head
      rintro rfl
      cases head
    refine ⟨isAbsolute_joinSegments solid (keptClear first (by simp)), ?_⟩
    rw [innerComponents, parts_ofChars_joinSegments (by simp) keptClear, ← start, counts]

-- A path that starts with a base has the base's components, and then those that are left once as
-- many are passed over.
theorem components_eq_append_drop {base path : Path} {passed : Nat}
    (starts : base.components <+: path.components) (length : base.components.length = passed + 1) :
    path.components =
      base.components ++ (path.segments.2.filterMap innerComponent?).drop passed := by
  obtain ⟨more, whole⟩ := starts
  have left : more = path.components.drop (passed + 1) := by
    rw [← whole, ← length, List.drop_left]
  have counted : path.components = (leadComponent? path.segments.1 path.segments.2).toList ++
      path.segments.2.filterMap innerComponent? := rfl
  cases first : leadComponent? path.segments.1 path.segments.2 with
  | none =>
    -- A path of no components does not start with a base that has some.
    obtain ⟨-, alone⟩ := eq_nil_of_leadComponent?_eq_none first
    rw [counted, first, alone, List.filterMap_nil, Option.toList_none, List.append_nil,
      List.append_eq_nil_iff] at whole
    rw [whole.1] at length
    cases length
  | some component =>
    rw [first] at counted
    rw [← whole, left, counted]
    simp

theorem components_join_below? {base path rest : Path} (found : path.below? base = some rest) :
    (base.join rest).components = path.components := by
  unfold below? at found
  split at found
  next starts =>
    have pre : base.components <+: path.components := by
      simpa [startsWith, List.isPrefixOf_iff_prefix] using starts
    dsimp only at found
    split at found
    next none =>
      -- The base is empty, and the path is taken as it is.
      cases found
      rw [join_of_text_eq_empty (text_eq_empty_of_components (List.length_eq_zero_iff.1 none))]
      exact components_trimmed path
    next passed length =>
      cases found
      have solid : base.text ≠ "" := by
        intro empty
        have nothing : base.components = [] := by
          rw [show base = ⟨""⟩ from congrArg Path.mk empty]
          rfl
        simp [nothing] at length
      have clear : ∀ segment ∈ path.segments.2, '/' ∉ segment := by
        intro segment among
        exact slash_notMem_parts (segments_cons path ▸ List.mem_cons_of_mem _ among)
      obtain ⟨relative, rest⟩ := innerComponents_rest clear passed
      rw [components_join relative solid, rest, components_eq_append_drop pre length]
  next => cases found

end Below

section Relative

-- A path that is not absolute names what its segments name, perhaps after a step to where it is.
theorem components_of_relative {path : Path} (relative : path.isAbsolute = false) :
    path.components = path.innerComponents ∨
      path.components = .here :: path.innerComponents := by
  obtain ⟨lead, inner, split⟩ := List.exists_cons_of_ne_nil (parts_ne_nil path)
  have names (leads : leadComponent? lead inner = innerComponent? lead) :
      path.components = path.innerComponents := by
    rw [components_eq, innerComponents, split, componentsOf, leads, List.filterMap_cons]
    cases innerComponent? lead <;> rfl
  by_cases empty : lead = []
  next =>
    -- More segments after an empty one would make the path absolute.
    have single : inner = [] := by
      refine Classical.byContradiction fun more => ?_
      have text := joinSegments_parts path
      rw [split, joinSegments_cons lead more, empty] at text
      simp [isAbsolute, ← text] at relative
    exact .inl (names (by simp [leadComponent?, innerComponent?, isIdle, empty, single]))
  next =>
    by_cases dot : lead = ['.']
    next =>
      right
      simp [components_eq, innerComponents, split, componentsOf, leadComponent?, innerComponent?,
        isIdle, dot]
    next => exact .inl (names (by simp [leadComponent?, empty, dot]))

-- Under a base, paths lead to one place only if they do so by themselves, or but for a step to the
-- directory itself in front of one of them.
theorem components_of_join {base left right : Path} (leftRelative : left.isAbsolute = false)
    (rightRelative : right.isAbsolute = false)
    (same : (base.join left).components = (base.join right).components) :
    left.components = right.components ∨
      base.text ≠ "" ∧ (left.components = .here :: right.components ∨
        right.components = .here :: left.components) := by
  by_cases empty : base.text = ""
  next =>
    rw [join_of_text_eq_empty empty, join_of_text_eq_empty empty] at same
    exact .inl same
  next =>
    rw [components_join leftRelative empty, components_join rightRelative empty] at same
    have inner : left.innerComponents = right.innerComponents := List.append_cancel_left same
    rcases components_of_relative leftRelative with first | first <;>
      rcases components_of_relative rightRelative with second | second <;>
      simp [first, second, inner, empty]

-- A segment names neither the root nor a step to where it is, unless it comes first.
theorem innerComponent?_inside {segment : List Char} {component : Component}
    (counts : innerComponent? segment = some component) :
    component ≠ .root ∧ component ≠ .here := by
  unfold innerComponent? at counts
  grind

theorem notMem_innerComponents (path : Path) :
    .root ∉ path.innerComponents ∧ .here ∉ path.innerComponents := by
  constructor <;> intro among
  next =>
    obtain ⟨segment, -, counts⟩ := List.mem_filterMap.1 among
    exact (innerComponent?_inside counts).1 rfl
  next =>
    obtain ⟨segment, -, counts⟩ := List.mem_filterMap.1 among
    exact (innerComponent?_inside counts).2 rfl

theorem isAbsolute_iff {path : Path} :
    path.isAbsolute = true ↔ path.components.head? = some .root := by
  constructor
  next =>
    intro absolute
    obtain ⟨rest, text⟩ : ∃ rest, path.chars = '/' :: rest := by
      simpa [isAbsolute, List.head?_eq_some_iff] using absolute
    have empty : (ofChars []).parts = [[]] := by rfl
    have parts : path.parts = (ofChars []).parts ++ (ofChars rest).parts := parts_append_slash text
    simp [components_eq, parts, empty, componentsOf, leadComponent?, parts_ne_nil]
  next =>
    intro first
    cases absolute : path.isAbsolute with
    | true => rfl
    | false =>
      obtain ⟨noRoot, -⟩ := notMem_innerComponents path
      rcases components_of_relative absolute with alike | step
      next => exact absurd (List.mem_of_head? (alike ▸ first)) noRoot
      next => simp [step] at first

-- A path at the same place as another one leads from a base to where the other one leads.
theorem components_join_congr {left right : Path} (same : left.components = right.components)
    (base : Path) : (base.join left).components = (base.join right).components := by
  have alike : left.isAbsolute = right.isAbsolute := by
    rw [Bool.eq_iff_iff, isAbsolute_iff, isAbsolute_iff, same]
  cases relative : right.isAbsolute with
  | true => rw [join_of_isAbsolute relative, join_of_isAbsolute (alike.trans relative), same]
  | false =>
    by_cases empty : base.text = ""
    next => rw [join_of_text_eq_empty empty, join_of_text_eq_empty empty, same]
    next =>
      rw [components_join relative empty, components_join (alike.trans relative) empty]
      have leftInner := (notMem_innerComponents left).2
      have rightInner := (notMem_innerComponents right).2
      rcases components_of_relative relative with first | first <;>
        rcases components_of_relative (alike.trans relative) with second | second <;>
        rw [first, second] at same <;> grind

end Relative

end GoldenSuite.Path
