import SocketMux.Path

/-!
# Components and absolute forms

A name without a separator that is joined to a path is one more component of it
(`Path.components_join`). The absolute form of an absolute path has the same components
(`Path.components_absolute`), and an absolute form is its own absolute form in every working
directory (`Path.isNormal_absolute`), whatever slashes and full stops the path was spelled with.
-/

namespace SocketMux.Path

variable {path directory working : Path} {name piece : List UInt8} {component : Component}
  {names : List Component}

section Pieces

theorem pieces_ne_nil (path : Path) : pieces path ≠ [] := by
  cases path with
  | nil => exact List.cons_ne_nil _ _
  | cons byte rest =>
    rw [pieces]
    split
    · exact List.cons_ne_nil _ _
    · split <;> exact List.cons_ne_nil _ _

/-- A separator ends a piece. -/
theorem pieces_append (path rest : Path) :
    pieces (path ++ separator :: rest) = pieces path ++ pieces rest := by
  induction path with
  | nil => simp [pieces]
  | cons byte path inductionHypothesis =>
    rw [List.cons_append, pieces, pieces, inductionHypothesis]
    split
    · rfl
    · obtain ⟨piece, others, pieces_eq⟩ := List.exists_cons_of_ne_nil (pieces_ne_nil path)
      rw [pieces_eq]
      rfl

/-- Text without a separator is one piece. -/
theorem pieces_eq_singleton {name : List UInt8} (unbroken : separator ∉ name) :
    pieces name = [name] := by
  induction name with
  | nil => rfl
  | cons byte name inductionHypothesis =>
    have apart : byte ≠ separator := by
      rintro rfl
      exact unbroken List.mem_cons_self
    have later := inductionHypothesis fun member => unbroken (List.mem_cons_of_mem _ member)
    rw [pieces, if_neg apart, later]

/-- No separator is left in a piece. -/
theorem separator_not_mem_of_mem_pieces (member : piece ∈ pieces path) : separator ∉ piece := by
  induction path generalizing piece with
  | nil =>
    rw [List.mem_singleton.mp member]
    exact List.not_mem_nil
  | cons byte path inductionHypothesis =>
    rw [pieces] at member
    split at member
    · rcases List.mem_cons.mp member with rfl | later
      · exact List.not_mem_nil
      · exact inductionHypothesis later
    · next apart =>
      obtain ⟨first, others, shape⟩ := List.exists_cons_of_ne_nil (pieces_ne_nil path)
      rw [shape] at member
      rcases List.mem_cons.mp member with rfl | later
      · rw [List.mem_cons, not_or]
        exact ⟨fun same => apart same.symm, inductionHypothesis (shape ▸ List.mem_cons_self)⟩
      · exact inductionHypothesis (shape ▸ List.mem_cons_of_mem _ later)

end Pieces

section Steps

/-- The components of a path behind its opening. -/
def steps (path : Path) : List Component := (pieces path).filterMap componentOf?

/-- A component that is spelled as one piece of a path. -/
structure Component.IsName (component : Component) : Prop where
  unbroken : separator ∉ component.bytes
  isComponent : componentOf? component.bytes = some component

theorem Component.IsName.bytes_ne_nil (isName : component.IsName) : component.bytes ≠ [] := by
  intro empty
  have found := isName.isComponent
  rw [empty] at found
  cases found

/-- A piece is a name or none. -/
theorem bytes_of_componentOf? (found : componentOf? piece = some component) :
    component.bytes = piece := by
  unfold componentOf? at found
  split at found
  · cases found
  · split at found
    · next parent =>
      cases found
      exact parent.symm
    · cases found
      rfl

theorem isName_of_mem_steps (member : component ∈ steps path) : component.IsName := by
  obtain ⟨piece, listed, found⟩ := List.mem_filterMap.mp member
  have spelled := bytes_of_componentOf? found
  rw [← spelled] at listed found
  exact ⟨separator_not_mem_of_mem_pieces listed, found⟩

theorem steps_append (path rest : Path) :
    steps (path ++ separator :: rest) = steps path ++ steps rest := by
  unfold steps
  rw [pieces_append, List.filterMap_append]

/-- A joined text is joined by one separator. -/
theorem join_cases (path : Path) (name : List UInt8) :
    (path = [] ∧ join path name = name) ∨
    (∃ outer, path = outer ++ [separator] ∧ join path name = outer ++ separator :: name) ∨
    (path ≠ [] ∧ path.getLast? ≠ some separator ∧ join path name = path ++ separator :: name) := by
  by_cases empty : path = []
  · subst empty
    exact .inl ⟨rfl, rfl⟩
  by_cases ends : path.getLast? = some separator
  · obtain ⟨outer, rfl⟩ := List.getLast?_eq_some_iff.mp ends
    refine .inr (.inl ⟨outer, rfl, ?_⟩)
    unfold join
    rw [if_pos (.inr ends), List.append_assoc, List.singleton_append]
  · refine .inr (.inr ⟨empty, ends, ?_⟩)
    unfold join
    rw [if_neg (not_or.mpr ⟨empty, ends⟩), List.append_assoc, List.singleton_append]

theorem steps_join (path : Path) (name : List UInt8) :
    steps (join path name) = steps path ++ steps name := by
  rcases join_cases path name with ⟨rfl, joined⟩ | ⟨outer, rfl, joined⟩ | ⟨_, _, joined⟩
  · rw [joined]
    rfl
  · rw [joined, steps_append, steps_append]
    exact (congrArg (· ++ steps name) (List.append_nil _)).symm
  · rw [joined, steps_append]

/-- A name is one step. -/
theorem Component.IsName.steps_bytes (isName : component.IsName) :
    steps component.bytes = [component] := by
  unfold steps
  rw [pieces_eq_singleton isName.unbroken, List.filterMap_cons_some isName.isComponent]
  rfl

theorem isAbsolute_join (nonempty : path ≠ []) (name : List UInt8) :
    (join path name).isAbsolute = path.isAbsolute := by
  obtain ⟨first, rest, rfl⟩ := List.exists_cons_of_ne_nil nonempty
  unfold join
  split <;> rfl

/-- What a path opens with stays when a name is joined. -/
theorem opening_join (nonempty : path ≠ []) (name : List UInt8) :
    opening (join path name) = opening path := by
  have first : (pieces (join path name)).head? = (pieces path).head? := by
    rcases join_cases path name with ⟨empty, _⟩ | ⟨outer, rfl, joined⟩ | ⟨_, _, joined⟩
    · exact absurd empty nonempty
    · obtain ⟨piece, others, shape⟩ := List.exists_cons_of_ne_nil (pieces_ne_nil outer)
      rw [joined, pieces_append, pieces_append, shape]
      rfl
    · obtain ⟨piece, others, shape⟩ := List.exists_cons_of_ne_nil (pieces_ne_nil path)
      rw [joined, pieces_append, shape]
      rfl
  unfold opening
  rw [isAbsolute_join nonempty, first]

/-- A name that is joined to a path is its last component. -/
theorem components_join (nonempty : path ≠ []) (isName : component.IsName) :
    components (join path component.bytes) = components path ++ [component] := by
  unfold components
  rw [opening_join nonempty, List.append_assoc]
  have joined := steps_join path component.bytes
  rw [isName.steps_bytes] at joined
  exact congrArg (opening path ++ ·) joined

theorem components_of_isAbsolute (isAbsolute : path.isAbsolute = true) :
    components path = .root :: steps path := by
  unfold components opening
  rw [if_pos isAbsolute]
  rfl

end Steps

section Absolute

/-- A path with names joined to it, one after the other. -/
def extend (base : Path) (names : List Component) : Path :=
  names.foldl (fun built component => join built component.bytes) base

/-- The root that an absolute path starts at. -/
def rootOf (path : Path) : Path :=
  if path.take 2 = [separator, separator] ∧ path.take 3 ≠ [separator, separator, separator] then
    [separator, separator]
  else [separator]

/-- An absolute path that is its own absolute form. -/
structure IsNormal (path : Path) : Prop where
  isAbsolute : path.isAbsolute = true
  absolute_eq : ∀ working, absolute working path = path

/-- An absolute form has the names of the path behind the base. -/
theorem absolute_eq (working path : Path) : absolute working path =
    if path.getLast? = some separator then join (extend (absoluteBase working path) (steps path)) []
    else extend (absoluteBase working path) (steps path) := by
  have names : path.components.filter (fun component => component ≠ .root ∧ component ≠ .current) =
      steps path := by
    have opens : (opening path).filter
        (fun component => component ≠ .root ∧ component ≠ .current) = [] := by
      unfold opening
      split
      · rfl
      · split <;> rfl
    unfold components
    rw [List.filter_append, opens, List.nil_append]
    refine List.filter_eq_self.mpr fun component member => ?_
    have found := (isName_of_mem_steps member).isComponent
    cases component with
    | root => cases found
    | current => cases found
    | parent => rfl
    | normal name => rfl
  unfold absolute
  rw [names]
  rfl

theorem absoluteBase_of_isAbsolute (isAbsolute : path.isAbsolute = true) (working : Path) :
    absoluteBase working path = rootOf path := if_pos isAbsolute

/-- An absolute path is its own absolute form in all working directories or in none. -/
theorem IsNormal.of_absolute_eq (isAbsolute : path.isAbsolute = true) (working : Path)
    (same : absolute working path = path) : IsNormal path where
  isAbsolute := isAbsolute
  absolute_eq other := by
    rw [Path.absolute_eq, absoluteBase_of_isAbsolute isAbsolute] at same ⊢
    exact same

theorem isNormal_rootOf (path : Path) : IsNormal (rootOf path) := by
  unfold rootOf
  split
  · exact ⟨rfl, fun working => rfl⟩
  · exact ⟨rfl, fun working => rfl⟩

/-- A path that goes on keeps its root, unless it goes on with a further separator. -/
theorem rootOf_append {rest : Path} (isAbsolute : path.isAbsolute = true)
    (apart : path.getLast? = some separator → rest.head? ≠ some separator) :
    rootOf (path ++ rest) = rootOf path := by
  obtain ⟨tail, rfl⟩ : ∃ tail, path = separator :: tail := List.head?_eq_some_iff.mp
    (beq_iff_eq.mp isAbsolute)
  match tail with
  | [] =>
    have unlike := apart rfl
    cases rest with
    | nil => rfl
    | cons byte rest =>
      have differs : byte ≠ separator := fun same => unlike (congrArg some same)
      simp [rootOf, differs]
  | [second] =>
    by_cases doubled : second = separator
    · subst doubled
      have unlike := apart rfl
      cases rest with
      | nil => rfl
      | cons byte rest =>
        have differs : byte ≠ separator := fun same => unlike (congrArg some same)
        simp [rootOf, differs]
    · simp [rootOf, doubled]
  | second :: third :: others => rfl

theorem rootOf_join (isAbsolute : path.isAbsolute = true) (unbroken : separator ∉ name) :
    rootOf (join path name) = rootOf path := by
  rcases join_cases path name with ⟨rfl, _⟩ | ⟨outer, rfl, joined⟩ | ⟨_, unended, joined⟩
  · cases isAbsolute
  · have whole : outer ++ separator :: name = (outer ++ [separator]) ++ name := by simp
    rw [joined, whole]
    refine rootOf_append isAbsolute fun _ starts => unbroken ?_
    exact List.mem_of_head? starts
  · rw [joined]
    exact rootOf_append isAbsolute fun ends => absurd ends unended

/-- A separator at the end does not count when a name is joined. -/
theorem join_join_nil (nonempty : path ≠ []) (name : List UInt8) :
    join (join path []) name = join path name := by
  by_cases ends : path.getLast? = some separator
  · have whole : join path [] = path := (if_pos (.inr ends)).trans (List.append_nil path)
    rw [whole]
  · have closed : join path [] = path ++ [separator] := by
      unfold join
      rw [if_neg (not_or.mpr ⟨nonempty, ends⟩), List.append_nil]
    unfold join at closed ⊢
    rw [closed, if_pos (.inr List.getLast?_concat), if_neg (not_or.mpr ⟨nonempty, ends⟩)]

theorem getLast?_join_nil (nonempty : path ≠ []) : (join path []).getLast? = some separator := by
  rcases join_cases path [] with ⟨empty, _⟩ | ⟨outer, rfl, joined⟩ | ⟨_, _, joined⟩
  · exact absurd empty nonempty
  · rw [joined]
    exact List.getLast?_concat
  · rw [joined]
    exact List.getLast?_concat

theorem getLast?_join_ne (unbroken : separator ∉ name) (given : name ≠ []) :
    (join path name).getLast? ≠ some separator := by
  have last : (join path name).getLast? = name.getLast? := by
    have found := List.getLast?_eq_some_getLast given
    unfold join
    split <;> rw [List.getLast?_append, found, Option.some_or]
  rw [last]
  exact fun ends => unbroken (List.mem_of_getLast? ends)

namespace IsNormal

/-- A normal path is built from its root, and closed if a separator ends it. -/
theorem eq (normal : IsNormal path) : path =
    if path.getLast? = some separator then join (extend (rootOf path) (steps path)) []
    else extend (rootOf path) (steps path) := by
  have same := normal.absolute_eq []
  rw [Path.absolute_eq, absoluteBase_of_isAbsolute normal.isAbsolute] at same
  exact same.symm

theorem ne_nil (normal : IsNormal path) : path ≠ [] := by
  rintro rfl
  cases normal.isAbsolute

/-- A normal path stays normal when a name is joined. -/
theorem join_name (normal : IsNormal path) (isName : component.IsName) :
    IsNormal (join path component.bytes) := by
  have isAbsolute := (isAbsolute_join normal.ne_nil component.bytes).trans normal.isAbsolute
  have joined := steps_join path component.bytes
  rw [isName.steps_bytes] at joined
  refine of_absolute_eq isAbsolute [] ?_
  rw [Path.absolute_eq, absoluteBase_of_isAbsolute isAbsolute,
    if_neg (getLast?_join_ne isName.unbroken isName.bytes_ne_nil),
    rootOf_join normal.isAbsolute isName.unbroken, joined]
  unfold extend
  rw [List.foldl_append]
  show join (extend (rootOf path) (steps path)) component.bytes = join path component.bytes
  have built := normal.eq
  split at built
  · have nonempty : extend (rootOf path) (steps path) ≠ [] := by
      intro empty
      rw [empty] at built
      exact normal.ne_nil built
    rw [← join_join_nil nonempty, ← built]
  · rw [← built]

/-- A normal path stays normal when it is closed by a separator. -/
theorem join_nil (normal : IsNormal path) : IsNormal (join path []) := by
  by_cases ends : path.getLast? = some separator
  · have whole : join path [] = path := (if_pos (.inr ends)).trans (List.append_nil path)
    rw [whole]
    exact normal
  · have isAbsolute := (isAbsolute_join normal.ne_nil []).trans normal.isAbsolute
    have joined : steps (join path []) = steps path :=
      (steps_join path []).trans (List.append_nil _)
    have built := normal.eq
    rw [if_neg ends] at built
    refine of_absolute_eq isAbsolute [] ?_
    rw [Path.absolute_eq, absoluteBase_of_isAbsolute isAbsolute,
      if_pos (getLast?_join_nil normal.ne_nil),
      rootOf_join normal.isAbsolute List.not_mem_nil, joined, ← built]

theorem extend (normal : IsNormal path) (proper : ∀ component ∈ names, component.IsName) :
    IsNormal (path.extend names) := by
  induction names generalizing path with
  | nil => exact normal
  | cons component names inductionHypothesis =>
    obtain ⟨isName, others⟩ := List.forall_mem_cons.mp proper
    exact inductionHypothesis (normal.join_name isName) others

end IsNormal

/-- The absolute form of a path is its own absolute form, also that of a relative path if the
working directory is. -/
theorem isNormal_absolute (located : path.isAbsolute = true ∨ IsNormal working) :
    IsNormal (absolute working path) := by
  have base : IsNormal (absoluteBase working path) := by
    by_cases isAbsolute : path.isAbsolute = true
    · rw [absoluteBase_of_isAbsolute isAbsolute]
      exact isNormal_rootOf path
    · unfold absoluteBase
      rw [if_neg isAbsolute]
      exact located.resolve_left isAbsolute
  have full := base.extend fun component (member : component ∈ steps path) =>
    isName_of_mem_steps member
  rw [absolute_eq]
  split
  · exact full.join_nil
  · exact full

theorem steps_extend (proper : ∀ component ∈ names, component.IsName) :
    steps (extend path names) = steps path ++ names := by
  induction names generalizing path with
  | nil => exact (List.append_nil _).symm
  | cons component names inductionHypothesis =>
    obtain ⟨isName, others⟩ := List.forall_mem_cons.mp proper
    have later : steps (extend path (component :: names)) =
        steps (join path component.bytes) ++ names := inductionHypothesis others
    rw [later, steps_join, isName.steps_bytes, List.append_assoc]
    rfl

/-- The absolute form of an absolute path has its components. -/
theorem components_absolute (isAbsolute : path.isAbsolute = true) :
    components (absolute working path) = components path := by
  have normal : IsNormal (absolute working path) := isNormal_absolute (.inl isAbsolute)
  rw [components_of_isAbsolute normal.isAbsolute, components_of_isAbsolute isAbsolute]
  have bare : steps (rootOf path) = [] := by
    unfold rootOf
    split <;> rfl
  have full : steps (extend (rootOf path) (steps path)) = steps path := by
    rw [steps_extend fun component member => isName_of_mem_steps member, bare, List.nil_append]
  rw [absolute_eq, absoluteBase_of_isAbsolute isAbsolute]
  split
  · rw [steps_join, full]
    exact congrArg _ (List.append_nil _)
  · rw [full]

end Absolute

end SocketMux.Path
