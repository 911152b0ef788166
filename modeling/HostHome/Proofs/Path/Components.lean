import HostHome.Proofs.Path.Joining

/-!
# Components and steps

A path spelled from some components has these components, and the steps along it
are theirs.  The steps along any other path with these components differ from them
by dots only.
-/

namespace HostHome

open HostHome.Text (Bytes)

/-- The step for a component. The root has none. -/
def Component.step? : Component → Option Step
  | .root => none
  | .here => some .stay
  | .up => some .up
  | .name bytes => some (.name bytes)

/-- The component can stand behind others: it goes up or is an ordinary name. -/
def Component.Follows : Component → Prop
  | .root | .here => False
  | .up => True
  | .name bytes => OrdinaryName bytes

namespace Path

theorem head?_pieces_join {base : Path} (nonempty : base.bytes ≠ []) {next : Path}
    (relative : next.isAbsolute = false) :
    (base.join next).pieces.head? = base.pieces.head? := by
  have heads (front back : List Bytes) (some : front ≠ []) :
      (front ++ back).head? = front.head? := by
    obtain ⟨piece, pieces, rfl⟩ := List.exists_cons_of_ne_nil some
    rfl
  unfold join
  rw [if_neg (by simp [relative])]
  split
  · next ends =>
      obtain ⟨front, bytes⟩ := List.getLast?_eq_some_iff.1 (ends.resolve_left nonempty)
      simp only [pieces, bytes, List.append_assoc, List.singleton_append]
      rw [Text.piecesOf_append_separator, Text.piecesOf_append_separator,
        heads _ _ (Text.piecesOf_ne_nil front), heads _ _ (Text.piecesOf_ne_nil front)]
  · simp only [pieces, List.append_assoc, List.singleton_append]
    rw [Text.piecesOf_append_separator, heads _ _ (Text.piecesOf_ne_nil base.bytes)]

theorem components_join {base : Path} (nonempty : base.bytes ≠ []) {next : Path}
    (relative : next.isAbsolute = false) :
    (base.join next).components = base.components ++ next.pieces.filterMap componentOf? := by
  have start : (base.join next).startOf = base.startOf := by
    unfold startOf
    rw [isAbsolute_join base relative, head?_pieces_join nonempty relative]
  unfold components
  rw [start, filterMap_pieces_join rfl base relative, List.append_assoc]

/-- A relative path goes on from its base. -/
theorem components_isPrefix_join (base : Path) {next : Path} (relative : next.isAbsolute = false) :
    base.components <+: (base.join next).components := by
  by_cases nonempty : base.bytes = []
  · have none : base.components = [] := by
      obtain ⟨bytes⟩ := base
      subst nonempty
      rfl
    rw [none]
    exact List.nil_prefix
  · rw [components_join nonempty relative]
    exact List.prefix_append ..

theorem bytes_join_ne_nil {base : Path} (nonempty : base.bytes ≠ []) {next : Path}
    (relative : next.isAbsolute = false) : (base.join next).bytes ≠ [] := by
  unfold join
  rw [if_neg (by simp [relative])]
  split <;> simp [nonempty]

theorem components_joinName {name : Bytes} (ordinary : OrdinaryName name) (base : Path) :
    (base.join ⟨name⟩).components = base.components ++ [.name name] := by
  have relative := isAbsolute_ofName ordinary
  have pieces := pieces_ofName ordinary
  obtain ⟨some, notDot, notDots, _⟩ := ordinary
  by_cases nonempty : base.bytes = []
  · obtain ⟨bytes⟩ := base
    cases nonempty
    have start : (Path.mk name).startOf = [] := by simp [startOf, relative, pieces, notDot]
    have alone : (Path.mk []).join ⟨name⟩ = ⟨name⟩ := by simp [join, relative]
    have none : (Path.mk []).components = [] := by decide
    rw [alone, none, components, start, pieces]
    simp [componentOf?, some, notDot, notDots]
  · rw [components_join nonempty relative, pieces]
    simp [componentOf?, some, notDot, notDots]

/-- The path goes on from another one by names. -/
structure GoesOn (base : Path) (names : List Bytes) (path : Path) : Prop where
  absolute : path.isAbsolute = base.isAbsolute
  course : path.course = base.course ++ names.map .name
  components : path.components = base.components ++ names.map .name

theorem goesOn_joinName {name : Bytes} (ordinary : OrdinaryName name) (base : Path) :
    base.GoesOn [name] (base.join ⟨name⟩) :=
  ⟨isAbsolute_joinName ordinary base, course_joinName ordinary base,
    components_joinName ordinary base⟩

theorem filterMap_of_ordinary {β : Type} {meaning : Bytes → Option β} {named : Bytes → β}
    (blank : meaning [] = none)
    (means : ∀ name, OrdinaryName name → meaning name = some (named name))
    {pieces : List Bytes} (ordinary : ∀ piece ∈ pieces, piece ≠ [] → OrdinaryName piece) :
    pieces.filterMap meaning = (pieces.filter (· ≠ [])).map named := by
  induction pieces with
  | nil => rfl
  | cons piece rest ih =>
      have others := ih fun other member => ordinary other (by simp [member])
      by_cases empty : piece = []
      · simpa [empty, blank] using others
      · rw [List.filterMap_cons_some (means piece (ordinary piece (by simp) empty)), others]
        simp [empty]

theorem GoesOn.join {base path next : Path} {names : List Bytes} (goes : base.GoesOn names path)
    (nonempty : path.bytes ≠ []) (relative : next.isAbsolute = false)
    (ordinary : ∀ piece ∈ next.pieces, piece ≠ [] → OrdinaryName piece) :
    base.GoesOn (names ++ next.pieces.filter (· ≠ [])) (path.join next) := by
  refine ⟨(isAbsolute_join path relative).trans goes.absolute, ?_, ?_⟩
  · have steps : (path.join next).course = path.course ++ next.pieces.filterMap Step.ofPiece? :=
      filterMap_pieces_join rfl path relative
    have means (name : Bytes) (ordinary : OrdinaryName name) :
        Step.ofPiece? name = some (.name name) := by
      obtain ⟨some, notDot, notDots, _⟩ := ordinary
      simp [Step.ofPiece?, some, notDot, notDots]
    rw [steps, filterMap_of_ordinary rfl means ordinary, goes.course, List.map_append,
      List.append_assoc]
  · have means (name : Bytes) (ordinary : OrdinaryName name) :
        componentOf? name = some (.name name) := by
      obtain ⟨some, notDot, notDots, _⟩ := ordinary
      simp [componentOf?, some, notDot, notDots]
    rw [components_join nonempty relative, filterMap_of_ordinary rfl means ordinary,
      goes.components, List.map_append, List.append_assoc]

theorem goesOn_refl (base : Path) : base.GoesOn [] base := ⟨rfl, by simp, by simp⟩

def extend (path : Path) : Component → Path
  | .root => ⟨[slash]⟩
  | .here => path.join ⟨[dot]⟩
  | .up => path.join ⟨[dot, dot]⟩
  | .name name => path.join ⟨name⟩

theorem ofComponents_eq (components : List Component) :
    ofComponents components = components.foldl extend ⟨[]⟩ := by
  unfold ofComponents
  congr 1

/-- A path spells some components: it has them, it starts as they do, and the steps along it are
theirs. -/
structure Spells (path : Path) (components : List Component) : Prop where
  nonempty : path.bytes ≠ []
  components_eq : path.components = components
  absolute : path.isAbsolute ↔ components.head? = some .root
  course_eq : path.course = components.filterMap Component.step?
  /-- Only the root ends with a slash. -/
  open_ : path.course ≠ [] → path.endsWithSlash = false

theorem Spells.extend {path : Path} {components : List Component}
    (spells : path.Spells components) {component : Component} (follows : component.Follows) :
    (path.extend component).Spells (components ++ [component]) := by
  obtain ⟨nonempty, componentsEq, absolute, courseEq, _⟩ := spells
  have start : (components ++ [component]).head? = some .root ↔ components.head? = some .root := by
    cases components with
    | nil => cases component <;> simp_all [Component.Follows]
    | cons first rest => simp
  have joined {next : Path} (relative : next.isAbsolute = false)
      (adds : next.pieces.filterMap componentOf? = [component])
      (goes : next.course = [component].filterMap Component.step?) (some : next.bytes ≠ [])
      (ends : next.endsWithSlash = false) :
      (path.join next).Spells (components ++ [component]) := by
    refine ⟨bytes_join_ne_nil nonempty relative, ?_, ?_, ?_, ?_⟩
    · rw [components_join nonempty relative, componentsEq, adds]
    · rw [isAbsolute_join path relative, absolute, start]
    · have steps : (path.join next).course = path.course ++ next.course :=
        filterMap_pieces_join rfl path relative
      rw [steps, courseEq, goes, List.filterMap_append]
    · rw [endsWithSlash_join path relative some, ends]
      exact fun _ => rfl
  cases component with
  | root | here => exact follows.elim
  | up => exact joined rfl rfl rfl (by decide) rfl
  | name name =>
      have adds : (Path.mk name).pieces.filterMap componentOf? = [.name name] := by
        rw [pieces_ofName follows]
        obtain ⟨some, notDot, notDots, _⟩ := follows
        simp [componentOf?, some, notDot, notDots]
      exact joined (isAbsolute_ofName follows) adds (course_ofName follows) follows.1
        (endsWithSlash_of_notMem follows.2.2.2)

theorem spells_first {component : Component}
    (first : component = .root ∨ component = .here ∨ component.Follows) :
    ((Path.mk []).extend component).Spells [component] := by
  rcases first with rfl | rfl | follows
  · exact ⟨by decide, rfl, by decide, rfl, by decide⟩
  · exact ⟨by decide, rfl, by decide, rfl, by decide⟩
  · cases component with
    | root | here => exact follows.elim
    | up => exact ⟨by decide, rfl, by decide, rfl, by decide⟩
    | name name =>
        have pieces := pieces_ofName follows
        have relative := isAbsolute_ofName follows
        have course := course_ofName follows
        have ends := endsWithSlash_of_notMem follows.2.2.2
        obtain ⟨some, notDot, notDots, _⟩ := follows
        have bytes : (Path.mk []).extend (.name name) = ⟨name⟩ := by
          simp [Path.extend, join, relative]
        rw [bytes]
        refine ⟨some, ?_, by simp [relative], course, fun _ => ends⟩
        simp [components, startOf, relative, pieces, componentOf?, some, notDot, notDots]

theorem Spells.foldl {path : Path} {components rest : List Component}
    (spells : path.Spells components) (follow : ∀ component ∈ rest, component.Follows) :
    (rest.foldl Path.extend path).Spells (components ++ rest) := by
  induction rest generalizing path components with
  | nil => simpa using spells
  | cons component rest ih =>
      have next := spells.extend (follow component (by simp))
      have all := ih next fun component member => follow component (by simp [member])
      simpa using all

theorem follows_of_componentOf? {piece : Bytes} (noSlash : slash ∉ piece) {component : Component}
    (means : componentOf? piece = some component) : component.Follows := by
  unfold componentOf? at means
  split at means
  · cases means
  · next neither =>
      obtain ⟨nonempty, notDot⟩ := not_or.1 neither
      split at means
      · cases means
        trivial
      · next notDots =>
          cases means
          exact ⟨nonempty, notDot, notDots, noSlash⟩

/-- Only the first component of a path can be the root or a dot. -/
theorem follows_of_components {path : Path} {first : Component} {rest : List Component}
    (spelled : path.components = first :: rest) :
    (first = .root ∨ first = .here ∨ first.Follows) ∧
      ∀ component ∈ rest, component.Follows := by
  have behind : ∀ component ∈ path.pieces.filterMap componentOf?, component.Follows := by
    intro component member
    obtain ⟨piece, within, means⟩ := List.mem_filterMap.1 member
    exact follows_of_componentOf? (Text.notMem_of_mem_piecesOf within) means
  unfold components startOf at spelled
  split at spelled
  · cases spelled
    exact ⟨Or.inl rfl, behind⟩
  · split at spelled
    · cases spelled
      exact ⟨Or.inr (Or.inl rfl), behind⟩
    · rw [List.nil_append] at spelled
      rw [spelled] at behind
      exact ⟨Or.inr (Or.inr (behind first (by simp))),
        fun component member => behind component (by simp [member])⟩

theorem spells_ofComponents {path : Path} {first : List Component}
    (above : first <+: path.components) (some : first ≠ []) :
    (ofComponents first).Spells first := by
  obtain ⟨component, rest, rfl⟩ := List.exists_cons_of_ne_nil some
  obtain ⟨more, spelled⟩ := above
  obtain ⟨starts, follow⟩ := follows_of_components spelled.symm
  rw [ofComponents_eq, List.foldl_cons]
  apply (spells_first starts).foldl
  intro other member
  exact follow other (List.mem_append_left more member)

/-- The steps of the components are the steps of the path without dots, but for a dot at the
beginning. -/
theorem exists_course_eq (path : Path) :
    ∃ front back, path.course = front ++ back ∧
      path.components.filterMap Component.step? = front ++ back.filter (· ≠ .stay) := by
  have straight (pieces : List Bytes) :
      (pieces.filterMap componentOf?).filterMap Component.step? =
        (pieces.filterMap Step.ofPiece?).filter (· ≠ .stay) := by
    induction pieces with
    | nil => rfl
    | cons piece pieces ih =>
        simp only [List.filterMap_cons, componentOf?, Step.ofPiece?]
        by_cases empty : piece = []
        · simpa [empty] using ih
        · by_cases isDot : piece = [dot]
          · simpa [isDot] using ih
          · by_cases isDots : piece = [dot, dot]
            · simpa [isDots, dot, Component.step?] using ih
            · simpa [empty, isDot, isDots, Component.step?] using ih
  unfold components startOf course
  split
  · exact ⟨[], _, rfl, straight path.pieces⟩
  · split
    · next first =>
        obtain ⟨rest, spelled⟩ := List.head?_eq_some_iff.1 first
        refine ⟨[.stay], rest.filterMap Step.ofPiece?, by simp [spelled, Step.ofPiece?, dot], ?_⟩
        have tail := straight rest
        simpa [spelled, componentOf?, dot, Component.step?] using tail
    · exact ⟨[], _, rfl, straight path.pieces⟩

theorem isAbsolute_iff_components (path : Path) :
    path.isAbsolute ↔ path.components.head? = some .root := by
  cases spelled : path.components with
  | nil =>
      unfold components startOf at spelled
      split at spelled
      · simp at spelled
      · next relative => simp [relative]
  | cons first rest =>
      have behind : .root ∉ path.pieces.filterMap componentOf? := by
        intro member
        obtain ⟨piece, within, means⟩ := List.mem_filterMap.1 member
        exact follows_of_componentOf? (Text.notMem_of_mem_piecesOf within) means
      unfold components startOf at spelled
      split at spelled
      · next absolute => cases spelled; simp [absolute]
      · next relative =>
          split at spelled
          · cases spelled; simp [relative]
          · rw [List.nil_append] at spelled
            rw [spelled] at behind
            simp only [List.mem_cons, not_or] at behind
            simp [relative, Ne.symm behind.1]

theorem components_ne_nil {path : Path} (nonempty : path.bytes ≠ []) : path.components ≠ [] := by
  obtain ⟨bytes⟩ := path
  cases bytes with
  | nil => exact absurd rfl nonempty
  | cons byte bytes =>
      unfold components startOf
      split
      · simp
      · next relative =>
          have inner : byte ≠ slash := by
            rintro rfl
            simp [isAbsolute] at relative
          obtain ⟨piece, pieces, found⟩ := List.exists_cons_of_ne_nil
            (Text.piecesOf_ne_nil bytes : Text.piecesOf slash bytes ≠ [])
          have spelled : (Path.mk (byte :: bytes)).pieces = (byte :: piece) :: pieces := by
            simp [Path.pieces, Text.piecesOf, inner, found]
          rw [spelled]
          split
          · simp
          · next other =>
              simp only [List.head?_cons, Option.some.injEq] at other
              rw [List.filterMap_cons, componentOf?, if_neg (by simp [other])]
              split <;> next none => split at none <;> cases none <;> simp

theorem fileName?_eq_some_iff {path : Path} {name : Bytes} :
    path.fileName? = some name ↔
      (path.pieces.filterMap componentOf?).getLast? = some (.name name) := by
  have last : path.fileName? = some name ↔ path.components.getLast? = some (.name name) := by
    unfold fileName?
    split
    · next other found => simp [found]
    · next noName =>
        constructor
        · exact fun found => by cases found
        · exact fun found => absurd found (noName name)
  rw [last, components, List.getLast?_append]
  cases (path.pieces.filterMap componentOf?).getLast? with
  | some component => simp
  | none =>
      unfold startOf
      repeat' split
      all_goals simp

theorem fileName?_ofName {name : Bytes} (ordinary : OrdinaryName name) :
    (Path.mk name).fileName? = some name := by
  rw [fileName?_eq_some_iff, pieces_ofName ordinary]
  obtain ⟨nonempty, notDot, notDots, _⟩ := ordinary
  simp [componentOf?, nonempty, notDot, notDots]

theorem fileName?_join (base : Path) {next : Path} {name : Bytes}
    (named : next.fileName? = some name) : (base.join next).fileName? = some name := by
  by_cases absolute : next.isAbsolute
  · unfold join
    rwa [if_pos absolute]
  · rw [fileName?_eq_some_iff] at named ⊢
    rw [filterMap_pieces_join rfl base (by simpa using absolute), List.getLast?_append, named]
    rfl

theorem ordinaryName_of_fileName? {path : Path} {name : Bytes}
    (named : path.fileName? = some name) : OrdinaryName name := by
  have member := List.mem_of_getLast? (fileName?_eq_some_iff.1 named)
  obtain ⟨piece, within, means⟩ := List.mem_filterMap.1 member
  exact follows_of_componentOf? (Text.notMem_of_mem_piecesOf within) means

structure IsChild (path directory : Path) (name : Bytes) : Prop where
  parent : ∃ above, path.parent? = some above ∧ above.sameAs directory
  fileName : path.fileName? = some name

theorem components_ofComponents (path : Path) :
    (ofComponents path.components).components = path.components := by
  by_cases empty : path.components = []
  · rw [empty]
    rfl
  · exact (spells_ofComponents (List.prefix_refl _) empty).components_eq

theorem isChild_joinName {name : Bytes} (ordinary : OrdinaryName name) (directory : Path) :
    (directory.join ⟨name⟩).IsChild directory name := by
  constructor
  · refine ⟨ofComponents directory.components, ?_, ?_⟩
    · simp only [parent?, components_joinName ordinary, List.getLast?_concat, List.dropLast_concat]
    · simp only [sameAs, components_ofComponents, decide_true]
  · exact fileName?_join directory (fileName?_ofName ordinary)

theorem joinName_sameAs_iff {name other : Bytes} (ordinary : OrdinaryName name)
    (ordinaryOther : OrdinaryName other) (directory : Path) :
    (directory.join ⟨name⟩).sameAs (directory.join ⟨other⟩) ↔ name = other := by
  simp [sameAs, components_joinName ordinary, components_joinName ordinaryOther]

end Path

end HostHome
